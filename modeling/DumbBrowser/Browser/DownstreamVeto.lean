import DumbBrowser.Browser.ShownHeaders
import Mathlib.Data.List.Perm.Basic
import Mathlib.Data.Option.Basic

/-!
# The answers of the downstream client

What becomes of the downstream client's answers: an error should tear the proxy down, and all else
should reach the network as it is.

* `downstream_veto` : the answers with which it does.
-/

namespace DumbBrowser

open NetError Exec

/-! ## Questions and answers -/

/-- Answers for the same call of the network. -/
def HeaderAnswer.SameCall (a b : HeaderAnswer) : Prop :=
  a.reply.hook = b.reply.hook ∧ a.call = b.call

instance (a b : HeaderAnswer) : Decidable (a.SameCall b) := inferInstanceAs (Decidable (_ ∧ _))

/-- The calls of a hook that have been answered. -/
def answeredBy (answers : List HeaderAnswer) (hook : HeaderHook) : List (Option Nat) :=
  (answers.filter (·.reply.hook = hook)).map (·.call)

theorem answeredBy_append {answers answers' : List HeaderAnswer} {hook : HeaderHook} :
    answeredBy (answers ++ answers') hook = answeredBy answers hook ++
    answeredBy answers' hook := by
  simp [answeredBy]

theorem filter_sameCall {answers : List HeaderAnswer} {a : HeaderAnswer}
    (honce : (answeredBy answers a.reply.hook).Nodup) (ha : a ∈ answers) :
    answers.filter (·.SameCall a) = [a] := by
  have hboth : answers.filter (·.SameCall a) = (answers.filter (·.reply.hook = a.reply.hook)).filter
      (·.call = a.call) := by
    simp [List.filter_filter, HeaderAnswer.SameCall, and_comm]
  rw [hboth]
  exact filter_eq_singleton honce (List.mem_filter.2 ⟨ha, decide_eq_true rfl⟩)

/-- The part of a core that the two header hooks exchange. -/
structure Exchange where
  answers : List HeaderAnswer
  upstream : List HeaderAnswer
  calls : Nat
  awaitedBeforeSend : List (Option Nat)
  asked : List Nat
  awaitedHeaders : List Nat

def SocketCore.exchange (c : SocketCore) : Exchange where
  answers := c.answers
  upstream := c.upstream
  calls := c.beforeSendCalls.length
  awaitedBeforeSend := c.awaitedBeforeSend
  asked := c.downstreamHeaders.map (·.call)
  awaitedHeaders := c.awaitedHeaders

/-- Each question has been answered once or is awaited. -/
structure Balanced (x : Exchange) : Prop where
  beforeSend : (answeredBy x.answers .onBeforeSendHeaders ++ x.awaitedBeforeSend).Perm
    ((List.range x.calls).map some)
  headers : (answeredBy x.answers .onHeadersReceived ++ x.awaitedHeaders.map some).Perm (x.asked.map some)
  asked : x.asked.Nodup

theorem perm_answered {α : Type} {xs ys zs : List α} {place : Nat} {y : α} (h : (xs ++ ys).Perm zs)
    (hy : ys[place]? = some y) : (xs ++ [y] ++ ys.eraseIdx place).Perm zs := by
  obtain ⟨hplace, rfl⟩ := List.getElem?_eq_some_iff.1 hy
  rw [List.append_assoc]
  exact ((List.getElem_cons_eraseIdx_perm hplace).append_left xs).trans h

namespace Balanced

variable {x : Exchange} (h : Balanced x)
include h

theorem once (hook : HeaderHook) : (answeredBy x.answers hook).Nodup := by
  cases hook with
  | onBeforeSendHeaders =>
    have hall := h.beforeSend.nodup_iff.2 (List.nodup_range.map (Option.some_injective _))
    exact (List.nodup_append.1 hall).1
  | onHeadersReceived =>
    have hall := h.headers.nodup_iff.2 (h.asked.map (Option.some_injective _))
    exact (List.nodup_append.1 hall).1

theorem asksBeforeSend : Balanced { x with
    calls := x.calls + 1
    awaitedBeforeSend := x.awaitedBeforeSend ++ [some x.calls] } := by
  refine ⟨?_, h.headers, h.asked⟩
  rw [List.range_succ, List.map_append, ← List.append_assoc]
  exact h.beforeSend.append_right _

theorem asksHeaders {n : Nat} (hasked : x.asked = List.range n) : Balanced { x with
    asked := x.asked ++ [n]
    awaitedHeaders := x.awaitedHeaders ++ [n] } := by
  refine ⟨h.beforeSend, ?_, ?_⟩
  · rw [List.map_append, List.map_append, ← List.append_assoc]
    exact h.headers.append_right _
  · rw [hasked, ← List.range_succ]
    exact List.nodup_range

theorem answersBeforeSend {place : Nat} {a : HeaderAnswer}
    (hhook : a.reply.hook = .onBeforeSendHeaders)
    (hcall : x.awaitedBeforeSend[place]? = some a.call) : Balanced { x with
      answers := x.answers ++ [a]
      awaitedBeforeSend := x.awaitedBeforeSend.eraseIdx place } := by
  refine ⟨?_, ?_, h.asked⟩
  · have hone : answeredBy [a] .onBeforeSendHeaders = [a.call] := by simp [answeredBy, hhook]
    rw [answeredBy_append, hone]
    exact perm_answered h.beforeSend hcall
  · have hnone : answeredBy [a] .onHeadersReceived = [] := by simp [answeredBy, hhook]
    rw [answeredBy_append, hnone, List.append_nil]
    exact h.headers

theorem answersHeaders {place n : Nat} {a : HeaderAnswer}
    (hhook : a.reply.hook = .onHeadersReceived) (hcall : x.awaitedHeaders[place]? = some n)
    (hn : a.call = some n) : Balanced { x with
      answers := x.answers ++ [a]
      awaitedHeaders := x.awaitedHeaders.eraseIdx place } := by
  refine ⟨?_, ?_, h.asked⟩
  · have hnone : answeredBy [a] .onBeforeSendHeaders = [] := by simp [answeredBy, hhook]
    rw [answeredBy_append, hnone, List.append_nil]
    exact h.beforeSend
  · have hone : answeredBy [a] .onHeadersReceived = [a.call] := by simp [answeredBy, hhook]
    rw [answeredBy_append, hone, ← List.eraseIdx_map]
    refine perm_answered h.headers ?_
    rw [List.getElem?_map, hcall, hn]
    rfl

end Balanced

/-! ## What the network is told -/

/-- An error tears the proxy down, and is not turned into a success; all else reaches the network
once, as it is. -/
def SocketCore.Obeys (c : SocketCore) : Prop :=
  ∀ a ∈ c.answers,
    (a.errorCode ≠ OK → c.alive = false ∧ ∀ u ∈ c.upstream, u.SameCall a → u.errorCode ≠ OK) ∧
    (a.errorCode = OK → c.upstream.filter (·.SameCall a) = [a])

/-- The network has been told all that has not been refused. -/
theorem SocketCore.Obeys.of_accepted {c : SocketCore}
    (honce : ∀ hook, (answeredBy c.answers hook).Nodup)
    (hupstream : c.upstream = c.answers.filter (·.errorCode = OK))
    (hrefused : ∀ a ∈ c.answers, a.errorCode ≠ OK → c.alive = false) : c.Obeys := by
  intro a ha
  have hone := filter_sameCall (honce a.reply.hook) ha
  refine ⟨fun herror => ⟨hrefused a ha herror, fun u hu hcall => ?_⟩, fun hok => ?_⟩
  · rw [hupstream] at hu
    have hmem : u ∈ c.answers.filter (·.SameCall a) :=
      List.mem_filter.2 ⟨(List.mem_filter.1 hu).1, decide_eq_true hcall⟩
    rw [hone, List.mem_singleton] at hmem
    exact hmem ▸ herror
  · rw [hupstream, List.filter_filter]
    have hswap : c.answers.filter (fun u => decide (u.SameCall a) && decide (u.errorCode = OK)) =
        (c.answers.filter (·.SameCall a)).filter (·.errorCode = OK) := by
      simp [List.filter_filter, Bool.and_comm]
    rw [hswap, hone, List.filter_cons, if_pos (decide_eq_true hok), List.filter_nil]

/-- The two halves of an exchange while the proxy is alive; a hook is suspended only before the
request. -/
structure Relays (c : SocketCore) : Prop where
  balanced : Balanced c.exchange
  upstream : c.upstream = c.answers
  accepted : ∀ a ∈ c.answers, a.errorCode = OK
  uncalled : c.headerReceiver = .unbound → c.beforeSendCalls = [] ∧ c.beforeSendCallback = none
  continuations : ∀ k ∈ c.continuations, k ≠ .onBeforeSendHeadersComplete ∧
    (k = .onBeforeRequestComplete → c.extraHeaders = false)

/-- Nothing has been exchanged. -/
structure Quiet (c c' : SocketCore) : Prop where
  exchange : c'.exchange = c.exchange
  extraHeaders : c'.extraHeaders = c.extraHeaders
  uncalled : c'.headerReceiver = .unbound → c.headerReceiver = .unbound ∧
    c'.beforeSendCalls = c.beforeSendCalls ∧
    c'.beforeSendCallback = c.beforeSendCallback
  continuations : ∀ k ∈ c'.continuations, k ∈ c.continuations ∨ k = c.startContinuation

theorem SocketCore.startContinuation_spec (c : SocketCore) :
    c.startContinuation ≠ .onBeforeSendHeadersComplete ∧
    (c.startContinuation = .onBeforeRequestComplete → c.extraHeaders = false) := by
  unfold startContinuation
  cases c.extraHeaders <;> simp

theorem Relays.quiet {c c' : SocketCore} (h : Relays c) (hq : Quiet c c') : Relays c' where
  balanced := hq.exchange ▸ h.balanced
  upstream := (congrArg Exchange.upstream hq.exchange).trans
    (h.upstream.trans (congrArg Exchange.answers hq.exchange).symm)
  accepted := by
    have hanswers : c'.answers = c.answers := congrArg Exchange.answers hq.exchange
    exact hanswers ▸ h.accepted
  uncalled hunbound := by
    obtain ⟨hbefore, hcalls, hcallback⟩ := hq.uncalled hunbound
    exact ⟨hcalls.trans (h.uncalled hbefore).1, hcallback.trans (h.uncalled hbefore).2⟩
  continuations k hk := by
    rw [hq.extraHeaders]
    rcases hq.continuations k hk with hold | rfl
    · exact h.continuations k hold
    · exact c.startContinuation_spec

section Steps
variable {Ω : Type} {text : HeaderText} {lib : NetLibrary}
  {onBeforeURLRequest : Ω → DumbRequestInfo → HookOutcome}
  {resume : Ω → Continuation → Int × HookWrites} {c c' : SocketCore}

/-- The handler has no hook before the start. -/
theorem BeforeSendExit.reply {headers : HttpRequestHeaders}
    (h : BeforeSendExit (handlerHooks lib onBeforeURLRequest resume) c headers c') :
    BeforeSendReply { c with requestHeaders := headers } c' := by
  cases h with
  | tornDown hblocked _ => cases hblocked
  | suspended hpending => cases hpending
  | replied _ hreply => exact hreply

theorem BeforeSendReply.of_extraHeaders (h : BeforeSendReply c c')
    (hextra : c.extraHeaders = true) :
    c' = c.repliesBeforeSend := by
  cases h with
  | replied _ => rfl
  | requested halone _ => exact absurd (halone.symm.trans hextra) Bool.false_ne_true

/-- With no downstream client there are no calls, and so no callback. -/
theorem BeforeSendReply.quiet (h : BeforeSendReply c c') (halone : c.extraHeaders = false)
    (hnone : c.beforeSendCallback = none) : Quiet c c' := by
  cases h with
  | replied hextra => exact absurd (halone.symm.trans hextra) Bool.false_ne_true
  | requested _ _ =>
    have hupstream : c.repliesBeforeSend.upstream = c.upstream := by
      simp [SocketCore.repliesBeforeSend, hnone]
    refine ⟨?_, rfl, fun hunbound => ⟨?_, rfl, hnone.symm⟩, fun k hk => Or.inl hk⟩
    · exact congrArg (fun upstream => { c.exchange with upstream }) hupstream
    · simpa [SocketCore.requested, SocketCore.repliesBeforeSend, halone] using hunbound

theorem SocketStartExit.quiet
    (h : SocketStartExit (handlerHooks lib onBeforeURLRequest resume) c c')
    (hnone : c.beforeSendCallback = none) : TornDown c c' ∨ Quiet c c' := by
  cases h with
  | tornDown hdown => exact Or.inl hdown
  | suspended =>
    refine Or.inr ⟨rfl, rfl, fun hunbound => ⟨hunbound, rfl, rfl⟩, fun k hk => ?_⟩
    rcases List.mem_append.1 hk with hold | hnew
    · exact Or.inl hold
    · exact Or.inr (List.mem_singleton.1 hnew)
  | requested hextra _ =>
    refine Or.inr ⟨rfl, rfl, fun hunbound => ?_, fun k hk => Or.inl hk⟩
    simp [SocketCore.requested, hextra] at hunbound
  | unasked halone hexit =>
    have hq := hexit.reply.quiet halone hnone
    exact Or.inr ⟨hq.exchange, hq.extraHeaders, hq.uncalled, hq.continuations⟩

/-- The answers that the network gets as they are: one for the response headers that is no error and
has no URL, and one for the request that is an error, or has headers and answers the last call of
the network. -/
def RelaysAsIs (s : WebSocketSlot) : WebSocketEvent Ω → Prop
  | .answerHeaders _ errorCode _ url => errorCode = OK ∧ url = none
  | .answerBeforeSend place errorCode headers _ =>
    errorCode = OK → headers ≠ none ∧
      s.awaitedBeforeSend[place]? = some s.object.onBeforeSendHeadersCallback
  | _ => True

instance (s : WebSocketSlot) : (e : WebSocketEvent Ω) → Decidable (RelaysAsIs s e)
  | .answerHeaders _ errorCode _ url => inferInstanceAs (Decidable (errorCode = OK ∧ url = none))
  | .answerBeforeSend place errorCode headers _ => inferInstanceAs (Decidable (errorCode = OK →
      headers ≠ none ∧ s.awaitedBeforeSend[place]? = some s.object.onBeforeSendHeadersCallback))
  | .handshakeClient | .start .. | .webSocketFactoryRun .. | .onOpeningHandshakeStarted | .onFailure |
    .onConnectionEstablished _ | .onMojoConnectionError .. | .onAuthRequired
      | .onBeforeSendHeaders .. |
    .onHeadersReceived .. | .resumeHook .. => isTrue trivial

/-- The network has been told what it should, and the proxy is gone or goes on so. -/
structure Settled (c : SocketCore) : Prop where
  obeys : c.Obeys
  relays : c.alive = true → Relays c

theorem Relays.upstream_eq (h : Relays c) : c.upstream = c.answers.filter (·.errorCode = OK) := by
  have hall : c.answers.filter (·.errorCode = OK) = c.answers :=
    List.filter_eq_self.2 fun a ha => decide_eq_true (h.accepted a ha)
  rw [hall, h.upstream]

theorem Settled.of_relays (h : Relays c) : Settled c :=
  ⟨.of_accepted h.balanced.once h.upstream_eq fun a ha herror =>
    absurd (h.accepted a ha) herror, fun _ => h⟩

theorem Settled.of_tornDown {c₁ : SocketCore} (hdown : TornDown c₁ c') (hb : Balanced c₁.exchange)
    (hupstream : c₁.upstream = c₁.answers.filter (·.errorCode = OK)) : Settled c' := by
  refine ⟨.of_accepted ?_ ?_ fun _ _ _ => hdown.alive, fun ha => ?_⟩
  · rw [hdown.answers]
    exact hb.once
  · rw [hdown.upstream, hdown.answers, hupstream]
  · simp [hdown.alive] at ha

theorem Relays.tornDown (h : Relays c) (hdown : TornDown c c') : Settled c' :=
  .of_tornDown hdown h.balanced h.upstream_eq

/-! ## Steps -/

theorem HandshakeOrder.unbound (h : HandshakeOrder c.frame) (halone : c.extraHeaders = false) :
    c.headerReceiver = .unbound := by
  by_contra hbound
  exact absurd (halone.symm.trans (h.receivers hbound).1) Bool.false_ne_true

theorem HandshakeOrder.extraHeaders (h : HandshakeOrder c.frame)
    (hreceiver : c.headerReceiver = .bound false) :
    c.extraHeaders = true := by
  refine (h.receivers fun hunbound => ?_).1
  have hunbound : c.headerReceiver = .unbound := hunbound
  simp [hunbound] at hreceiver

/-- Nothing is suspended before the start. -/
theorem Relays.started (h : Relays c) (hun : Unstarted c) (extraHeaders : Bool)
    (requestHeaders : HttpRequestHeaders) :
    Relays { c with started := true, extraHeaders := extraHeaders, requestHeaders := requestHeaders } where
  balanced := h.balanced
  upstream := h.upstream
  accepted := h.accepted
  uncalled := h.uncalled
  continuations k hk := by
    have hnone : k ∈ c.continuations := hk
    simp [hun.continuations] at hnone

theorem Relays.start (h : Relays c) (hreceiver : c.headerReceiver = .unbound)
    (hexit : SocketStartExit (handlerHooks lib onBeforeURLRequest resume) c c') : Settled c' := by
  rcases hexit.quiet (h.uncalled hreceiver).2 with hdown | hq
  · exact h.tornDown hdown
  · exact .of_relays (h.quiet hq)

theorem Relays.calledBeforeSend (h : Relays c) (hreceiver : c.headerReceiver = .bound false)
    (headers : HttpRequestHeaders) :
    Relays ((c.calledBeforeSend headers).asksBeforeSend (some c.beforeSendCalls.length)) where
  balanced := by
    have hexchange : ((c.calledBeforeSend headers).asksBeforeSend
      (some c.beforeSendCalls.length)).exchange =
        { c.exchange with
          calls := c.exchange.calls + 1
          awaitedBeforeSend := c.exchange.awaitedBeforeSend ++ [some c.exchange.calls] } := by
      simp [SocketCore.exchange, SocketCore.asksBeforeSend, SocketCore.calledBeforeSend]
    exact hexchange ▸ h.balanced.asksBeforeSend
  upstream := h.upstream
  accepted := h.accepted
  uncalled hunbound := by
    have hunbound : c.headerReceiver = .unbound := hunbound
    simp [hunbound] at hreceiver
  continuations := h.continuations

/-- A call is passed on to the downstream client. -/
theorem Relays.asksHeaders (h : Relays c) {n : Nat}
    (hasked : c.downstreamHeaders.map (·.call) = List.range n) :
    Relays (c.asksHeaders text n) where
  balanced := by
    have hexchange : (c.asksHeaders text n).exchange =
        { c.exchange with asked := c.exchange.asked ++ [n], awaitedHeaders := c.exchange.awaitedHeaders ++ [n] } := by
      simp [SocketCore.exchange, SocketCore.asksHeaders]
    exact hexchange ▸ h.balanced.asksHeaders hasked
  upstream := h.upstream
  accepted := h.accepted
  uncalled := h.uncalled
  continuations := h.continuations

theorem Relays.calledHeaders (h : Relays c) (horder : HandshakeOrder c.frame)
    (hreceiver : c.headerReceiver = .bound false) {headers : String} {remoteEndpoint : IPEndPoint}
    {outcome : HookOutcome} {redirectUrl : GURL}
    (hexit : SocketHeadersExit text (c.calledHeaders headers remoteEndpoint) c.headersCalls.length
      outcome redirectUrl c') :
    Settled c' := by
  have hunpaused : c.frame.headers.receiver ≠ .bound true := fun hpaused =>
    absurd (hreceiver.symm.trans hpaused) Receiver.receiving_ne_paused
  have hasked := (horder.phase.of_receiving hunpaused).2.1
  have hextra := horder.extraHeaders hreceiver
  have hhooked : Relays ((c.calledHeaders headers remoteEndpoint).hooked outcome) := by
    refine ⟨h.balanced, h.upstream, h.accepted, fun hunbound => ?_, h.continuations⟩
    simp [SocketCore.hooked, SocketCore.setPaused, SocketCore.calledHeaders, hextra] at hunbound
  cases hexit with
  | tornDown _ hdown => exact .of_tornDown hdown h.balanced h.upstream_eq
  | suspended _ _ =>
    refine .of_relays ⟨hhooked.balanced, hhooked.upstream, hhooked.accepted,
      hhooked.uncalled, fun k hk => ?_⟩
    rcases List.mem_append.1 hk with hold | hnew
    · exact hhooked.continuations k hold
    · rw [List.mem_singleton.1 hnew]
      exact ⟨by simp, by simp⟩
  | asked _ _ => exact .of_relays (hhooked.asksHeaders hasked)

theorem Relays.exchange_answeredBeforeSend (h : Relays c) {place : Nat} {a : HeaderAnswer}
    (hhook : a.reply.hook = .onBeforeSendHeaders)
    (hcall : c.awaitedBeforeSend[place]? = some a.call) :
    Balanced (c.answeredBeforeSend place a).exchange :=
  h.balanced.answersBeforeSend hhook hcall

/-- The downstream client refuses the request. -/
theorem Relays.refused (h : Relays c) {place : Nat} {errorCode : Int}
    {headers : Option HttpRequestHeaders} {call : Option Nat}
    (hcall : c.awaitedBeforeSend[place]? = some call) (herror : errorCode ≠ OK)
    (hdown : TornDown (c.answeredBeforeSend place ⟨call, errorCode, .onBeforeSendHeaders headers⟩)
      c') : Settled c' := by
  refine .of_tornDown hdown (h.exchange_answeredBeforeSend rfl hcall) ?_
  have hupstream : c.upstream = (c.answers ++
    [(⟨call, errorCode, .onBeforeSendHeaders headers⟩ : HeaderAnswer)]).filter
      (·.errorCode = OK) := by
    rw [List.filter_append, ← h.upstream_eq, List.filter_cons, if_neg (by simpa using herror), List.filter_nil,
      List.append_nil]
  exact hupstream

/-- An awaited answer belongs to a call of the network. -/
theorem Relays.call_of_awaited (h : Relays c) {place : Nat} {call : Option Nat}
    (hcall : c.awaitedBeforeSend[place]? = some call) :
    ∃ n < c.beforeSendCalls.length, call = some n := by
  have hmem : call ∈ (List.range c.beforeSendCalls.length).map some :=
    h.balanced.beforeSend.mem_iff.1 (List.mem_append_right _ (List.mem_of_getElem? hcall))
  obtain ⟨n, hn, rfl⟩ := List.mem_map.1 hmem
  exact ⟨n, List.mem_range.1 hn, rfl⟩

/-- Once the downstream client has let the request pass, the callback that is stored is run. -/
theorem Relays.reply_eq (h : Relays c) (horder : HandshakeOrder c.frame) {place : Nat}
    (headers : Option HttpRequestHeaders) {call : Option Nat}
    (hcall : c.awaitedBeforeSend[place]? = some call)
    (hexit : BeforeSendExit (handlerHooks lib onBeforeURLRequest resume)
      (c.answeredBeforeSend place ⟨call, OK, .onBeforeSendHeaders headers⟩) (headers.getD []) c') :
    c.headerReceiver ≠ .unbound ∧
    c' = { c.answeredBeforeSend place ⟨call, OK, .onBeforeSendHeaders headers⟩ with
      requestHeaders := headers.getD [] }.repliesBeforeSend := by
  obtain ⟨n, hn, -⟩ := h.call_of_awaited hcall
  have hbound : c.headerReceiver ≠ .unbound := fun hunbound => by
    simp [(h.uncalled hunbound).1] at hn
  have hextra : c.extraHeaders = true := by
    by_contra hnot
    exact hbound (horder.unbound (Bool.eq_false_iff.2 hnot))
  exact ⟨hbound, hexit.reply.of_extraHeaders hextra⟩

theorem Relays.answeredBeforeSend (h : Relays c) (horder : HandshakeOrder c.frame) {place : Nat}
    {headers : HttpRequestHeaders} (hcall : c.awaitedBeforeSend[place]? = some c.beforeSendCallback)
    (hexit : BeforeSendExit (handlerHooks lib onBeforeURLRequest resume)
      (c.answeredBeforeSend place ⟨c.beforeSendCallback, OK, .onBeforeSendHeaders (some headers)⟩) headers c') :
    Relays c' := by
  obtain ⟨n, -, hn⟩ := h.call_of_awaited hcall
  obtain ⟨hbound, rfl⟩ := h.reply_eq horder (some headers) hcall hexit
  have hupstream : c.upstream ++ (c.beforeSendCallback.map fun call =>
      (⟨some call, OK, .onBeforeSendHeaders (some headers)⟩ : HeaderAnswer)).toList =
      c.answers ++ [⟨c.beforeSendCallback, OK, .onBeforeSendHeaders (some headers)⟩] := by
    rw [h.upstream, hn]
    rfl
  refine ⟨?_, hupstream, fun a ha => ?_, fun hunbound => absurd hunbound hbound, h.continuations⟩
  · have hb := h.exchange_answeredBeforeSend
      (a := ⟨c.beforeSendCallback, OK, .onBeforeSendHeaders (some headers)⟩) rfl hcall
    exact ⟨hb.beforeSend, hb.headers, hb.asked⟩
  · rcases List.mem_append.1 ha with hold | hnew
    · exact h.accepted a hold
    · rw [List.mem_singleton.1 hnew]

theorem Relays.answeredHeaders (h : Relays c) (horder : HandshakeOrder c.frame) {place n : Nat}
    {headers : Option String} (hcall : c.awaitedHeaders[place]? = some n) :
    Relays (((c.answeredHeaders place ⟨some n, OK, .onHeadersReceived headers none⟩).repliesHeaders
      headers).setPaused
      false) := by
  obtain ⟨hreceiver, hcallback, -⟩ := horder.phase.of_awaited (List.mem_of_getElem? hcall)
  have hreceiver : c.headerReceiver = .bound true := hreceiver
  have hcallback : c.headersCallback = some n := hcallback
  have hupstream : c.upstream ++ (c.headersCallback.map fun call =>
      (⟨some call, OK, .onHeadersReceived headers none⟩ : HeaderAnswer)).toList =
      c.answers ++ [⟨some n, OK, .onHeadersReceived headers none⟩] := by
    rw [h.upstream, hcallback]
    rfl
  refine ⟨?_, hupstream, fun a ha => ?_, fun hunbound => ?_, h.continuations⟩
  · have hb := h.balanced.answersHeaders (a := ⟨some n, OK, .onHeadersReceived headers none⟩) rfl hcall rfl
    exact ⟨hb.beforeSend, hb.headers, hb.asked⟩
  · rcases List.mem_append.1 ha with hold | hnew
    · exact h.accepted a hold
    · rw [List.mem_singleton.1 hnew]
  · have hextra : c.extraHeaders = true := by
      refine (horder.receivers fun hnone => ?_).1
      have hnone : c.headerReceiver = .unbound := hnone
      simp [hnone] at hreceiver
    have hresumed : (if c.extraHeaders then Receiver.bound false else c.headerReceiver) =
        .unbound := hunbound
    simp [hextra] at hresumed

/-- A suspended hook ends well. -/
theorem Relays.resumed (h : Relays c) (horder : HandshakeOrder c.frame) {place : Nat}
    {writes : HookWrites} {k : WebSocketContinuation} (hk : c.continuations[place]? = some k)
    (hexit : ResumeExit text (handlerHooks lib onBeforeURLRequest resume) (c.resumed place writes) k
      c') : Relays c' := by
  have hmem : k ∈ c.continuations := List.mem_of_getElem? hk
  have hresumed : Relays (c.resumed place writes) :=
    h.quiet ⟨rfl, rfl, fun hunbound => ⟨hunbound, rfl, rfl⟩, fun k hk =>
      Or.inl (List.mem_of_mem_eraseIdx hk)⟩
  cases hexit with
  | requested _ =>
    refine hresumed.quiet ⟨rfl, rfl, fun hunbound => ⟨?_, rfl, rfl⟩, fun k hk => Or.inl hk⟩
    simp only [SocketCore.requested] at hunbound
    split at hunbound
    · cases hunbound
    · exact hunbound
  | ask hexit =>
    have halone := (h.continuations _ hmem).2 rfl
    have hnone := (h.uncalled (horder.unbound halone)).2
    have hq := (hexit.of_alone halone).reply.quiet halone hnone
    exact hresumed.quiet ⟨hq.exchange, hq.extraHeaders, hq.uncalled, hq.continuations⟩
  | reply _ => exact absurd rfl (h.continuations _ hmem).1
  | @asked n =>
    have hpending : n ∈ c.frame.headers.pending := List.mem_filterMap.2 ⟨_, hmem, rfl⟩
    exact hresumed.asksHeaders (horder.phase.of_pending hpending).2.2.2.1

/-- A step with an answer that is passed on as it is. -/
theorem Relays.step {s : WebSocketSlot} {e : WebSocketEvent Ω} (h : Relays s.core)
    (horder : Orderly s.core) (hC : RelaysAsIs s e)
    (hstep : SocketStep text (handlerHooks lib onBeforeURLRequest resume) s.core e c') :
    Settled c' := by
  cases hstep with
  | passedOn _ => exact .of_relays h
  | ended _ hdown => exact h.tornDown hdown
  | start hstarted hexit =>
    have hun := horder.unstarted hstarted
    exact (h.started hun _ _).start hun.receiver hexit
  | webSocketFactoryRun hstarted hexit =>
    have hun := horder.unstarted hstarted
    exact (h.started hun _ _).start hun.receiver hexit
  | @onBeforeSendHeaders headers _ _ hreceiver hexit =>
    rw [hexit.of_extraHeaders (horder.frame.extraHeaders hreceiver)]
    exact .of_relays (h.calledBeforeSend hreceiver headers)
  | onHeadersReceived hreceiver hexit => exact h.calledHeaders horder.frame hreceiver hexit
  | refusedBeforeSend hcall herror hdown => exact h.refused hcall herror hdown
  | answerBeforeSend hcall hok hexit =>
    obtain ⟨hsome, hcallback⟩ := hC hok
    obtain ⟨headers, rfl⟩ := Option.ne_none_iff_exists'.1 hsome
    obtain rfl := Option.some.inj (hcall.symm.trans hcallback)
    exact .of_relays (h.answeredBeforeSend horder.frame hcall hexit)
  | answerHeaders hcall =>
    obtain ⟨rfl, rfl⟩ := hC
    exact .of_relays (h.answeredHeaders horder.frame hcall)
  | failedHook _ _ hdown => exact h.tornDown hdown
  | resumeHook hk _ hexit => exact .of_relays (h.resumed horder.frame hk hexit)

/-- An answer is not among those before it. -/
theorem Relays.fresh (h : Relays c) {a : HeaderAnswer}
    (honce : (answeredBy (c.answers ++ [a]) a.reply.hook).Nodup) :
    a ∉ c.upstream := by
  rw [h.upstream]
  intro ha
  have hone : answeredBy [a] a.reply.hook = [a.call] := by simp [answeredBy]
  rw [answeredBy_append, hone, List.nodup_append] at honce
  have hmem : a.call ∈ answeredBy c.answers a.reply.hook :=
    List.mem_map.2 ⟨a, List.mem_filter.2 ⟨ha, decide_eq_true rfl⟩, rfl⟩
  exact honce.2.2 _ hmem _ (List.mem_singleton_self _) rfl

/-- After any other answer the network has not been told what it should. -/
theorem Relays.asIs_of_obeys {s : WebSocketSlot} {e : WebSocketEvent Ω} (h : Relays s.core)
    (horder : Orderly s.core) (hstep : SocketStep text (handlerHooks lib onBeforeURLRequest resume)
      s.core e c') (hobeys : c'.Obeys) :
    RelaysAsIs s e := by
  cases hstep with
  | @answerBeforeSend place _ headers _ call _ hcall hok hexit =>
    subst hok
    obtain ⟨-, rfl⟩ := h.reply_eq horder.frame headers hcall hexit
    let a : HeaderAnswer := ⟨call, OK, .onBeforeSendHeaders headers⟩
    have ha : a ∈ s.core.answers ++ [a] := List.mem_append_right _ (List.mem_singleton_self a)
    have hmem := List.mem_of_mem_filter (((hobeys a ha).2 rfl).symm ▸ List.mem_singleton_self a)
    have hb := h.exchange_answeredBeforeSend (a := a) rfl hcall
    rcases List.mem_append.1 hmem with hold | hnew
    · exact absurd hold (h.fresh (hb.once _))
    · obtain ⟨m, hm, heq⟩ := Option.map_eq_some_iff.1 (Option.mem_toList.1 hnew)
      simp only [a, HeaderAnswer.mk.injEq, true_and, HeaderReply.onBeforeSendHeaders.injEq] at heq
      have hcallback : s.object.onBeforeSendHeadersCallback = some m := hm
      refine fun _ => ⟨heq.2 ▸ Option.some_ne_none _, ?_⟩
      rw [hcallback, heq.1]
      exact hcall
  | @answerHeaders place errorCode headers url n hcall =>
    have hcallback : s.core.headersCallback = some n :=
      (horder.frame.phase.of_awaited (List.mem_of_getElem? hcall)).2.1
    let a : HeaderAnswer := ⟨some n, errorCode, .onHeadersReceived headers url⟩
    let u : HeaderAnswer := ⟨some n, OK, .onHeadersReceived headers none⟩
    have ha : a ∈ s.core.answers ++ [a] := List.mem_append_right _ (List.mem_singleton_self a)
    have hu : u ∈ s.core.upstream ++ (s.core.headersCallback.map fun call =>
        (⟨some call, OK, .onHeadersReceived headers none⟩ : HeaderAnswer)).toList := by
      rw [hcallback]
      exact List.mem_append_right _ (List.mem_singleton_self u)
    have hsame : u.SameCall a := ⟨rfl, rfl⟩
    have hok : errorCode = OK := by
      by_contra herror
      exact ((hobeys a ha).1 herror).2 u hu hsame rfl
    have hone : u ∈ [a] := (hobeys a ha).2 hok ▸ List.mem_filter.2 ⟨hu, decide_eq_true hsame⟩
    have heq : u = a := List.mem_singleton.1 hone
    simp only [u, a, HeaderAnswer.mk.injEq, HeaderReply.onHeadersReceived.injEq] at heq
    exact ⟨hok, heq.2.2.2.symm⟩
  | refusedBeforeSend _ herror _ => exact fun hok => absurd hok herror
  | passedOn he => cases he <;> trivial
  | ended he _ => cases he <;> trivial
  | _ => trivial

end Steps

/-! ## Every run -/

/-- An answer with an error tears the proxy down and is not passed on as a success; one without is
passed on to the network once, as it is. -/
def ObeysDownstream (s : WebSocketSlot) : Prop := s.core.Obeys

section Runs
variable {Ω : Type} {text : HeaderText} {lib : NetLibrary}
  {onBeforeURLRequest : Ω → DumbRequestInfo → HookOutcome}
  {resume : Ω → Continuation → Int × HookWrites} {request : ResourceRequest}
  {processId frameTreeNodeId : Int}
  {s : WebSocketSlot}

theorem settled_of_reach
    (h : (webSocketSystem text (handlerHooks lib onBeforeURLRequest resume) request processId
      frameTreeNodeId).Reach
      RelaysAsIs s) : Settled s.core ∧ (s.alive = true → Orderly s.core) := by
  refine socket_invariant ?_ ?_ ?_ h
  · refine .of_relays ⟨⟨.refl _, .refl _, List.nodup_nil⟩, rfl, fun a ha => ?_, fun _ =>
      ⟨rfl, rfl⟩, fun k hk => ?_⟩
    · exact absurd ha List.not_mem_nil
    · exact absurd hk List.not_mem_nil
  · exact fun s e c' hI horder ha hC hstep => (hI.relays ha).step horder hC hstep
  · refine fun c ks hI hdead => ⟨hI.obeys, fun ha => ?_⟩
    exact absurd (hdead.symm.trans ha) Bool.false_ne_true

/-- **A downstream veto stops the handshake, as far as the answers are passed on as they are.** In a
run of such answers the network is told what the downstream client has answered, and no other answer
keeps it so. -/
theorem downstream_veto
    (h : (webSocketSystem text (handlerHooks lib onBeforeURLRequest resume) request processId
      frameTreeNodeId).Reach
      RelaysAsIs s) :
    ObeysDownstream s ∧
    ∀ e s', e.isEnabled s = true →
      (webSocketSystem text (handlerHooks lib onBeforeURLRequest resume) request processId
          frameTreeNodeId).exec s e = .ok s' →
      (ObeysDownstream s' ↔ RelaysAsIs s e) := by
  obtain ⟨hsettled, horder⟩ := settled_of_reach h
  refine ⟨hsettled.obeys, fun e s' hen hex => ?_⟩
  rcases ha : s.alive with _ | _
  · obtain ⟨ks, hcore⟩ := wp_ok (run_dead ha hen) (run_of_exec hex)
    have hobeys : ObeysDownstream s' := by
      rw [ObeysDownstream, hcore]
      exact hsettled.obeys
    refine ⟨fun _ => ?_, fun _ => hobeys⟩
    cases e <;> first | trivial | simp [WebSocketEvent.isEnabled, ha] at hen
  · have hstep := step_of_exec (horder ha) ha hen hex
    have hrelays := hsettled.relays ha
    exact ⟨fun hobeys => hrelays.asIs_of_obeys (horder ha) hstep hobeys,
      fun hC => (hrelays.step (horder ha) hC hstep).obeys⟩

end Runs

/-- The downstream client sets a header and lets the response pass. -/
theorem downstream_veto_passed : ∃ s,
    (webSocketSystem upgradeText noCallbacks socketRequest 0 0).Reach RelaysAsIs s ∧
    s.upstream.length = 2 ∧ ObeysDownstream s := by
  have h := System.reach_of_replay (S := webSocketSystem upgradeText noCallbacks socketRequest 0 0)
    (C := RelaysAsIs) [.handshakeClient, .webSocketFactoryRun 1 socketRequest.url [] true (),
      .onBeforeSendHeaders [] (),
      .answerBeforeSend 0 OK (some [("A", "1")]) (), .onHeadersReceived "" {} (),
        .answerHeaders 0 OK (some "") none] rfl
  exact ⟨_, h, rfl, (downstream_veto h).1⟩

/-- The downstream client refuses the response, and the network is told that it may go on. -/
theorem downstream_veto_swallowed : ∃ s,
    (webSocketSystem upgradeText noCallbacks socketRequest 0 0).Reachable s ∧
    s.alive = true ∧ s.answers = [⟨some 0, ERR_BLOCKED_BY_CLIENT, .onHeadersReceived none none⟩] ∧
    s.upstream = [⟨some 0, OK, .onHeadersReceived none none⟩] ∧ ¬ ObeysDownstream s := by
  have h := System.reach_of_replay (S := webSocketSystem upgradeText noCallbacks socketRequest 0 0)
    (C := fun _ _ => True) [.handshakeClient, .webSocketFactoryRun 1 socketRequest.url [] true (),
      .onHeadersReceived "" {} (),
      .answerHeaders 0 ERR_BLOCKED_BY_CLIENT none none] rfl
  obtain ⟨s, h, halive, hanswers, hupstream⟩ : ∃ s,
    (webSocketSystem upgradeText noCallbacks socketRequest 0 0).Reachable s ∧
      s.alive = true ∧ s.answers = [⟨some 0, ERR_BLOCKED_BY_CLIENT, .onHeadersReceived none none⟩] ∧
      s.upstream = [⟨some 0, OK, .onHeadersReceived none none⟩] := ⟨_, h, rfl, rfl, rfl⟩
  refine ⟨s, h, halive, hanswers, hupstream, fun hobeys => ?_⟩
  have hmem : (⟨some 0, ERR_BLOCKED_BY_CLIENT, .onHeadersReceived none none⟩ : HeaderAnswer) ∈
      s.core.answers := by
    rw [show s.core.answers = _ from hanswers]
    exact List.mem_singleton_self _
  exact absurd (((hobeys _ hmem).1 (by decide)).1.symm.trans halive) Bool.false_ne_true

end DumbBrowser
