import DumbBrowser.Browser.DownstreamVeto

/-!
# The request headers of a handshake

A call of the network's `OnBeforeSendHeaders` goes to the downstream client and then to the hook
before the start, and the network's callback is run with what is left of the headers.

* `Transparent` : the network is told what the downstream client would have told it;
* `transparent_headers` : the runs in which it is, for a hook that makes no edits.
-/

namespace DumbBrowser

open NetError Exec

/-! ## The part of a core that the request headers pass through -/

/-- A hook before the start that is suspended. -/
def WebSocketContinuation.holdsHeaders : WebSocketContinuation → Option Unit
  | onBeforeSendHeadersComplete => some ()
  | continueToStartRequest | onBeforeRequestComplete | onHeadersReceivedComplete _ => none

structure RequestPart where
  extraHeaders : Bool
  headers : HttpRequestHeaders
  callback : Option Nat
  calls : List HttpRequestHeaders
  /-- The suspended hooks. -/
  held : List Unit
  awaited : List (Option Nat)
  answers : List HeaderAnswer
  upstream : List HeaderAnswer

def SocketCore.requestPart (c : SocketCore) : RequestPart where
  extraHeaders := c.extraHeaders
  headers := c.requestHeaders
  callback := c.beforeSendCallback
  calls := c.beforeSendCalls
  held := c.continuations.filterMap (·.holdsHeaders)
  awaited := c.awaitedBeforeSend
  answers := c.answers.filter (·.reply.hook = .onBeforeSendHeaders)
  upstream := c.upstream.filter (·.reply.hook = .onBeforeSendHeaders)

namespace RequestPart

/-- What the network would have used for its call `n`, had it asked the downstream client: the
headers of the answer, or its own if the answer has none. -/
def Direct (p : RequestPart) (n : Nat) (headers : HttpRequestHeaders) : Prop :=
  ∃ sent answer, p.calls[n]? = some sent ∧ ⟨some n, OK, .onBeforeSendHeaders answer⟩ ∈ p.answers ∧
    headers = answer.getD sent

/-- Every callback has been run with such headers. -/
def Replies (p : RequestPart) : Prop :=
  ∀ u ∈ p.upstream, ∃ n headers, u = ⟨some n, OK, .onBeforeSendHeaders (some headers)⟩ ∧ p.Direct n headers

/-- A call has been replied to. -/
def Replied (p : RequestPart) (n : Nat) : Prop := ∃ u ∈ p.upstream, u.call = some n

theorem Direct.lt {p : RequestPart} {n : Nat} {headers : HttpRequestHeaders}
    (h : p.Direct n headers) :
    n < p.calls.length := by
  obtain ⟨sent, -, hsent, -⟩ := h
  exact (List.getElem?_eq_some_iff.1 hsent).1

theorem Direct.grow {p p' : RequestPart} {n : Nat} {headers : HttpRequestHeaders}
    (h : p.Direct n headers) (hcalls : p.calls <+: p'.calls) (hanswers : p.answers ⊆ p'.answers) :
    p'.Direct n headers := by
  have hn := h.lt
  obtain ⟨sent, answer, hsent, hanswer, rfl⟩ := h
  obtain ⟨later, hlater⟩ := hcalls
  refine ⟨sent, answer, ?_, hanswers hanswer, rfl⟩
  rw [← hlater, List.getElem?_append_left hn, hsent]

theorem Replies.grow {p p' : RequestPart} (h : p.Replies) (hcalls : p.calls <+: p'.calls)
    (hanswers : p.answers ⊆ p'.answers) (hupstream : p'.upstream = p.upstream) : p'.Replies := by
  intro u hu
  obtain ⟨n, headers, rfl, hdirect⟩ := h u (hupstream ▸ hu)
  exact ⟨n, headers, rfl, hdirect.grow hcalls hanswers⟩

end RequestPart

/-- The network's callback is kept for it and run, once the hook is done, with what it would have
used. -/
structure SocketCore.Transparent (c : SocketCore) : Prop where
  replies : c.requestPart.Replies
  stored : c.alive = true → ∀ n < c.requestPart.calls.length, c.requestPart.Replied n ∨
    c.requestPart.callback = some n
  held : c.alive = true → c.requestPart.held ≠ [] → ∀ n, c.requestPart.callback = some n →
    c.requestPart.Direct n c.requestPart.headers

/-! ## Phases -/

/-- One call at most is in progress: it waits for the downstream client, or for the hook. -/
inductive RequestPhase (p : RequestPart) : Prop
  | alone (hextra : p.extraHeaders = false) (hcalls : p.calls = []) (hcallback : p.callback = none)
      (hawaited : p.awaited = [])
  | idle (hextra : p.extraHeaders = true) (hcallback : p.callback = none) (hheld : p.held = [])
      (hawaited : p.awaited = [])
  | asked (n : Nat) (hextra : p.extraHeaders = true) (hcallback : p.callback = some n)
      (hcalls : p.calls.length = n + 1)
      (hheld : p.held = []) (hawaited : p.awaited = [some n])
        (hnew : ∀ a ∈ p.answers, a.call ≠ some n)
  | held (n : Nat) (hextra : p.extraHeaders = true) (hcallback : p.callback = some n)
      (hheld : p.held = [()])
      (hawaited : p.awaited = []) (hdirect : p.Direct n p.headers) (hunreplied : ¬ p.Replied n)

/-- A live proxy with a call in one of the phases. -/
structure Conveys (c : SocketCore) : Prop where
  phase : RequestPhase c.requestPart
  replies : c.requestPart.Replies
  stored : ∀ n < c.requestPart.calls.length, c.requestPart.Replied n ∨
    c.requestPart.callback = some n
  answered : ∀ a ∈ c.requestPart.answers, ∃ n < c.requestPart.calls.length, a.call = some n
  uncalled : c.headerReceiver = .unbound → c.beforeSendCalls = []
  request : .onBeforeRequestComplete ∈ c.continuations → c.extraHeaders = false

/-- What has been told was right, and the proxy is gone or goes on so. -/
structure Transmits (c : SocketCore) : Prop where
  replies : c.requestPart.Replies
  conveys : c.alive = true → Conveys c

namespace RequestPhase

variable {p : RequestPart} (h : RequestPhase p)
include h

theorem of_alone (halone : p.extraHeaders = false) : p.calls = [] ∧ p.callback = none ∧
    p.awaited = [] := by
  cases h with
  | alone _ hcalls hcallback hawaited => exact ⟨hcalls, hcallback, hawaited⟩
  | idle hextra => exact absurd (halone.symm.trans hextra) Bool.false_ne_true
  | asked _ hextra => exact absurd (halone.symm.trans hextra) Bool.false_ne_true
  | held _ hextra => exact absurd (halone.symm.trans hextra) Bool.false_ne_true

theorem of_stored {n : Nat} (hcallback : p.callback = some n) (hreplies : p.Replies) :
    n < p.calls.length ∧ ¬ p.Replied n := by
  cases h with
  | alone _ _ hnone _ => exact nomatch hnone.symm.trans hcallback
  | idle _ hnone _ _ => exact nomatch hnone.symm.trans hcallback
  | asked m _ hsome hcalls _ _ hnew =>
    obtain rfl := Option.some.inj (hsome.symm.trans hcallback)
    refine ⟨by omega, ?_⟩
    rintro ⟨u, hu, hcall⟩
    obtain ⟨n, headers, rfl, sent, answer, -, hanswer, -⟩ := hreplies u hu
    exact hnew _ hanswer hcall
  | held m _ hsome _ _ hdirect hunreplied =>
    obtain rfl := Option.some.inj (hsome.symm.trans hcallback)
    exact ⟨hdirect.lt, hunreplied⟩

theorem of_awaited {place : Nat} {call : Option Nat} (hcall : p.awaited[place]? = some call) :
    ∃ n, call = some n ∧ place = 0 ∧ p.extraHeaders = true ∧ p.callback = some n ∧
    p.calls.length = n + 1 ∧
      p.held = [] ∧ p.awaited = [some n] ∧ ∀ a ∈ p.answers, a.call ≠ some n := by
  cases h with
  | alone _ _ _ hawaited => simp [hawaited] at hcall
  | idle _ _ _ hawaited => simp [hawaited] at hcall
  | asked n hextra hcallback hcalls hheld hawaited hnew =>
    rw [hawaited, List.getElem?_singleton, Option.ite_none_right_eq_some] at hcall
    exact ⟨n, (Option.some.inj hcall.2).symm, hcall.1, hextra, hcallback, hcalls,
      hheld, hawaited, hnew⟩
  | held _ _ _ _ hawaited _ _ => simp [hawaited] at hcall

theorem of_held (hextra : p.extraHeaders = true) (hmem : () ∈ p.held) :
    ∃ n, p.callback = some n ∧ p.held = [()] ∧ p.awaited = [] ∧
    p.Direct n p.headers ∧ ¬ p.Replied n := by
  cases h with
  | alone halone => exact absurd (halone.symm.trans hextra) Bool.false_ne_true
  | idle _ _ hheld _ => simp [hheld] at hmem
  | asked _ _ _ _ hheld _ _ => simp [hheld] at hmem
  | held n _ hcallback hheld hawaited hdirect hunreplied =>
    exact ⟨n, hcallback, hheld, hawaited, hdirect, hunreplied⟩

end RequestPhase

theorem Conveys.transparent {c : SocketCore} (h : Conveys c) : c.Transparent where
  replies := h.replies
  stored _ := h.stored
  held _ hheld n hcallback := by
    rcases h.phase with ⟨-, -, hnone, -⟩ | ⟨-, -, hnil, -⟩ | ⟨m, -, -, -, hnil, -, -⟩ |
      ⟨m, -, hsome, -, -, hdirect, -⟩
    · exact nomatch hnone.symm.trans hcallback
    · exact absurd hnil hheld
    · exact absurd hnil hheld
    · obtain rfl := Option.some.inj (hsome.symm.trans hcallback)
      exact hdirect

theorem Transmits.transparent {c : SocketCore} (h : Transmits c) : c.Transparent where
  replies := h.replies
  stored ha := (h.conveys ha).transparent.stored ha
  held ha := (h.conveys ha).transparent.held ha

theorem Transmits.of_conveys {c : SocketCore} (h : Conveys c) : Transmits c :=
  ⟨h.replies, fun _ => h⟩

/-- Nothing has been exchanged yet. -/
theorem Conveys.fresh {c : SocketCore} (hphase : RequestPhase c.requestPart)
    (hcalls : c.requestPart.calls = []) (hanswers : c.requestPart.answers = [])
    (hupstream : c.requestPart.upstream = []) (hbefore : c.beforeSendCalls = [])
    (hextra : c.extraHeaders = false) : Conveys c where
  phase := hphase
  replies u hu := absurd (hupstream ▸ hu) List.not_mem_nil
  stored n hn := by
    rw [hcalls] at hn
    exact absurd hn (Nat.not_lt_zero n)
  answered a ha := absurd (hanswers ▸ ha) List.not_mem_nil
  uncalled _ := hbefore
  request _ := hextra

/-! ## Steps past the exchange -/

/-- The request headers are left alone. -/
structure Aside (c c' : SocketCore) : Prop where
  part : c'.requestPart = c.requestPart
  uncalled : c'.headerReceiver = .unbound → c.headerReceiver = .unbound
  request : .onBeforeRequestComplete ∈ c'.continuations →
    .onBeforeRequestComplete ∈ c.continuations ∨ c.extraHeaders = false

theorem Conveys.aside {c c' : SocketCore} (h : Conveys c) (ha : Aside c c') : Conveys c' where
  phase := ha.part ▸ h.phase
  replies := ha.part ▸ h.replies
  stored := ha.part ▸ h.stored
  answered := ha.part ▸ h.answered
  uncalled hunbound := (congrArg RequestPart.calls ha.part).trans
    (h.uncalled (ha.uncalled hunbound))
  request hmem := (congrArg RequestPart.extraHeaders ha.part).trans
    ((ha.request hmem).elim h.request id)

theorem TornDown.transmits {c c' : SocketCore} (hdown : TornDown c c') (h : c.requestPart.Replies) :
    Transmits c' := by
  have hcalls : c'.requestPart.calls = c.requestPart.calls := hdown.beforeSendCalls
  have hanswers : c'.requestPart.answers = c.requestPart.answers :=
    congrArg (List.filter _) hdown.answers
  have hupstream : c'.requestPart.upstream = c.requestPart.upstream :=
    congrArg (List.filter _) hdown.upstream
  refine ⟨h.grow (hcalls ▸ List.prefix_rfl) (hanswers ▸ List.Subset.refl _) hupstream, ?_⟩
  intro ha
  simp [hdown.alive] at ha

/-- Without a downstream client the headers are held and changed freely. -/
theorem Conveys.alone {c c' : SocketCore} (h : Conveys c) (halone : c.extraHeaders = false)
    {headers : HttpRequestHeaders} {held : List Unit}
    (hpart : c'.requestPart = { c.requestPart with headers := headers, held := held }) : Conveys c' := by
  obtain ⟨hcalls, hcallback, hawaited⟩ := h.phase.of_alone halone
  have hnone : c'.requestPart.calls = [] := by rw [hpart, hcalls]
  refine ⟨?_, ?_, ?_, ?_, fun _ => hnone, fun _ => ?_⟩
  · rw [hpart]
    exact .alone halone hcalls hcallback hawaited
  · rw [hpart]
    exact h.replies.grow List.prefix_rfl (List.Subset.refl _) rfl
  · intro n hn
    simp [hnone] at hn
  · rw [hpart]
    exact h.answered
  · have hsame : c'.requestPart.extraHeaders = c.requestPart.extraHeaders := by rw [hpart]
    exact hsame.trans halone

section Steps
variable {Ω : Type} {text : HeaderText} {hooks : Hooks Ω} {c c' : SocketCore}

theorem BeforeSendReply.alone (h : BeforeSendReply c c') (halone : c.extraHeaders = false)
    (hnone : c.beforeSendCallback = none) : c'.requestPart = c.requestPart := by
  cases h with
  | replied hextra => exact absurd (halone.symm.trans hextra) Bool.false_ne_true
  | requested _ _ =>
    simp [SocketCore.requestPart, SocketCore.requested, SocketCore.repliesBeforeSend, hnone]

theorem BeforeSendExit.alone {headers : HttpRequestHeaders}
    (h : BeforeSendExit hooks c headers c') (hc : Conveys c) (halone : c.extraHeaders = false) :
    Transmits c' := by
  have hnone : c.beforeSendCallback = none := (hc.phase.of_alone halone).2.1
  cases h with
  | tornDown _ hdown => exact hdown.transmits hc.replies
  | suspended _ => exact .of_conveys (hc.alone halone rfl)
  | replied _ hreply => exact .of_conveys (hc.alone halone (hreply.alone halone hnone))

theorem requestPart_suspended {k : WebSocketContinuation} (hk : k.holdsHeaders = none) :
    (c.suspended k).requestPart = c.requestPart := by
  simp [SocketCore.requestPart, SocketCore.suspended, hk]

theorem aside_requested : Aside c c.requested := by
  refine ⟨rfl, fun hunbound => ?_, Or.inl⟩
  simp only [SocketCore.requested] at hunbound
  split at hunbound
  · cases hunbound
  · exact hunbound

theorem Conveys.start (hc : Conveys c) (h : SocketStartExit hooks c c') : Transmits c' := by
  cases h with
  | tornDown hdown => exact hdown.transmits hc.replies
  | suspended =>
    refine .of_conveys (hc.aside ⟨requestPart_suspended ?_, id, fun hmem => ?_⟩)
    · unfold SocketCore.startContinuation
      split <;> rfl
    · refine (List.mem_append.1 hmem).imp_right fun hk => c.startContinuation_spec.2 ?_
      exact (List.mem_singleton.1 hk).symm
  | requested _ _ => exact .of_conveys (hc.aside aside_requested)
  | unasked halone hexit => exact hexit.alone hc halone

/-- Before the start nothing is in progress, and the downstream client may still be bound. -/
theorem Conveys.started (hc : Conveys c) (hun : Unstarted c) (extraHeaders : Bool)
    (requestHeaders : HttpRequestHeaders) :
    Conveys { c with started := true, extraHeaders := extraHeaders, requestHeaders := requestHeaders } := by
  have hcalls : c.beforeSendCalls = [] := hc.uncalled hun.receiver
  have hcallback : c.beforeSendCallback = none := by
    rcases hcallback : c.beforeSendCallback with _ | n
    · rfl
    · have hlt := (hc.phase.of_stored hcallback hc.replies).1
      simp [SocketCore.requestPart, hcalls] at hlt
  refine ⟨?_, hc.replies.grow List.prefix_rfl (List.Subset.refl _) rfl, hc.stored,
    hc.answered, hc.uncalled,
    fun hmem => ?_⟩
  · cases extraHeaders with
    | false => exact .alone rfl hcalls hcallback hun.awaitedBeforeSend
    | true =>
      refine .idle rfl hcallback ?_ hun.awaitedBeforeSend
      simp [SocketCore.requestPart, hun.continuations]
  · have hnone : WebSocketContinuation.onBeforeRequestComplete ∈ c.continuations := hmem
    simp [hun.continuations] at hnone

theorem aside_calledHeaders {headers : String} {remoteEndpoint : IPEndPoint} {outcome : HookOutcome}
    (hextra : c.extraHeaders = true) :
    Aside c ((c.calledHeaders headers remoteEndpoint).hooked outcome) := by
  refine ⟨rfl, fun hunbound => ?_, Or.inl⟩
  simp [SocketCore.hooked, SocketCore.setPaused, SocketCore.calledHeaders, hextra] at hunbound

theorem Conveys.calledHeaders (hc : Conveys c) (hextra : c.extraHeaders = true) {headers : String}
    {remoteEndpoint : IPEndPoint} {outcome : HookOutcome} {redirectUrl : GURL}
    (hexit : SocketHeadersExit text (c.calledHeaders headers remoteEndpoint)
      c.headersCalls.length outcome redirectUrl
      c') : Transmits c' := by
  have hhooked : Conveys ((c.calledHeaders headers remoteEndpoint).hooked outcome) :=
    hc.aside (aside_calledHeaders hextra)
  cases hexit with
  | tornDown _ hdown => exact hdown.transmits hc.replies
  | suspended _ _ =>
    refine .of_conveys (hhooked.aside ⟨requestPart_suspended rfl, id, fun hmem => .inl ?_⟩)
    exact (List.mem_append.1 hmem).resolve_right (by simp)
  | asked _ _ => exact .of_conveys (hhooked.aside ⟨rfl, id, Or.inl⟩)

theorem aside_answeredHeaders {place call : Nat} {errorCode : Int}
    {headers : Option String} {url : Option GURL} (hextra : c.extraHeaders = true) :
    Aside c (((c.answeredHeaders place
      ⟨some call, errorCode, .onHeadersReceived headers url⟩).repliesHeaders headers).setPaused false) := by
  refine ⟨?_, fun hunbound => ?_, Or.inl⟩
  · simp [SocketCore.requestPart, SocketCore.setPaused, SocketCore.repliesHeaders,
      SocketCore.answeredHeaders,
      HeaderReply.hook]
  · have hresumed : (if c.extraHeaders then Receiver.bound false else c.headerReceiver) =
        .unbound := hunbound
    simp [hextra] at hresumed

/-! ## Steps of the exchange -/

/-- A call of the network while no callback is stored. -/
theorem Conveys.calledBeforeSend (hc : Conveys c) (hextra : c.extraHeaders = true)
    (hreceiver : c.headerReceiver = .bound false) (hnone : c.beforeSendCallback = none)
    (headers : HttpRequestHeaders) :
    Conveys ((c.calledBeforeSend headers).asksBeforeSend (some c.beforeSendCalls.length)) := by
  have hidle : c.requestPart.held = [] ∧ c.requestPart.awaited = [] := by
    rcases hc.phase with ⟨halone, -, -, -⟩ | ⟨-, -, hheld, hawaited⟩ | ⟨n, -, hsome, -, -, -, -⟩ |
      ⟨n, -, hsome, -, -, -, -⟩
    · exact absurd (halone.symm.trans hextra) Bool.false_ne_true
    · exact ⟨hheld, hawaited⟩
    · exact nomatch hnone.symm.trans hsome
    · exact nomatch hnone.symm.trans hsome
  have hgrown : c.beforeSendCalls <+: c.beforeSendCalls ++ [headers] := List.prefix_append _ _
  have hlength : (c.beforeSendCalls ++ [headers]).length = c.beforeSendCalls.length + 1 := List.length_append
  refine ⟨.asked c.beforeSendCalls.length hextra rfl hlength hidle.1 ?_ ?_, ?_, ?_, ?_, ?_, hc.request⟩
  · exact congrArg (· ++ _) hidle.2
  · intro a ha hcall
    obtain ⟨m, hm, hcall'⟩ := hc.answered a ha
    exact absurd (Option.some.inj (hcall'.symm.trans hcall)) (Nat.ne_of_lt hm)
  · exact hc.replies.grow hgrown (List.Subset.refl _) rfl
  · intro n hn
    have hn : n < c.beforeSendCalls.length + 1 := hlength ▸ hn
    rcases Nat.lt_succ_iff_lt_or_eq.1 hn with hlt | rfl
    · rcases hc.stored n hlt with hreplied | hsome
      · exact .inl hreplied
      · exact nomatch hnone.symm.trans hsome
    · exact .inr rfl
  · intro a ha
    obtain ⟨m, hm, hcall⟩ := hc.answered a ha
    exact ⟨m, Nat.lt_of_lt_of_le hm hgrown.length_le, hcall⟩
  · intro hunbound
    exact nomatch hreceiver.symm.trans hunbound

/-- The headers for the call `n` have come from the downstream client. -/
structure Holding (c : SocketCore) (n : Nat) : Prop where
  extraHeaders : c.extraHeaders = true
  callback : c.beforeSendCallback = some n
  awaited : c.awaitedBeforeSend = []
  direct : c.requestPart.Direct n c.requestHeaders
  unreplied : ¬ c.requestPart.Replied n
  replies : c.requestPart.Replies
  stored : ∀ m < c.requestPart.calls.length, c.requestPart.Replied m ∨
    c.requestPart.callback = some m
  answered : ∀ a ∈ c.requestPart.answers, ∃ m < c.requestPart.calls.length, a.call = some m
  uncalled : c.headerReceiver = .unbound → c.beforeSendCalls = []
  request : .onBeforeRequestComplete ∈ c.continuations → c.extraHeaders = false

theorem Holding.conveys {n : Nat} (h : Holding c n) (hheld : c.requestPart.held = [()]) : Conveys c :=
  ⟨.held n h.extraHeaders h.callback hheld h.awaited h.direct h.unreplied, h.replies, h.stored,
    h.answered, h.uncalled,
    h.request⟩

theorem upstream_repliesBeforeSend {n : Nat} (hcallback : c.beforeSendCallback = some n) :
    c.repliesBeforeSend.requestPart.upstream =
      c.requestPart.upstream ++ [⟨some n, OK, .onBeforeSendHeaders (some c.requestHeaders)⟩] := by
  simp [SocketCore.requestPart, SocketCore.repliesBeforeSend, hcallback, HeaderReply.hook]

/-- What the callback has been run with. -/
theorem direct_of_replied {n : Nat} (hcallback : c.beforeSendCallback = some n)
    (h : c.repliesBeforeSend.requestPart.Replies) : c.requestPart.Direct n c.requestHeaders := by
  have hlast : (⟨some n, OK, .onBeforeSendHeaders (some c.requestHeaders)⟩ : HeaderAnswer) ∈
      c.repliesBeforeSend.requestPart.upstream := by
    rw [upstream_repliesBeforeSend hcallback]
    exact List.mem_append_right _ (List.mem_singleton_self _)
  obtain ⟨m, headers, heq, hdirect⟩ := h _ hlast
  simp only [HeaderAnswer.mk.injEq, Option.some.injEq, HeaderReply.onBeforeSendHeaders.injEq, true_and] at heq
  obtain ⟨rfl, rfl⟩ := heq
  exact hdirect.grow List.prefix_rfl (List.Subset.refl _)

/-- The callback is run with them. -/
theorem Holding.replied {n : Nat} (h : Holding c n) (hheld : c.requestPart.held = []) :
    Conveys c.repliesBeforeSend := by
  have hupstream := upstream_repliesBeforeSend h.callback
  refine ⟨.idle h.extraHeaders rfl hheld h.awaited, ?_, ?_, h.answered, h.uncalled, h.request⟩
  · intro u hu
    rw [hupstream] at hu
    rcases List.mem_append.1 hu with hold | hnew
    · exact h.replies u hold
    · exact ⟨n, c.requestHeaders, List.mem_singleton.1 hnew, h.direct⟩
  · intro m hm
    refine .inl ?_
    unfold RequestPart.Replied
    rw [hupstream]
    rcases h.stored m hm with ⟨u, hu, hcall⟩ | hcallback
    · exact ⟨u, List.mem_append_left _ hu, hcall⟩
    · exact ⟨_, List.mem_append_right _ (List.mem_singleton_self _),
        h.callback.symm.trans hcallback⟩

/-- What an answer makes of the call that it is for. -/
theorem Conveys.direct_iff (hc : Conveys c) {place : Nat} {call : Option Nat}
    (headers : Option HttpRequestHeaders) (hcall : c.awaitedBeforeSend[place]? = some call) :
    ∃ n sent, call = some n ∧ c.beforeSendCallback = some n ∧
      c.beforeSendCalls[n]? = some sent ∧ ∀ direct,
        (c.answeredBeforeSend place ⟨call, OK, .onBeforeSendHeaders headers⟩).requestPart.Direct n direct ↔
          direct = headers.getD sent := by
  obtain ⟨n, rfl, -, -, hcallback, hcalls, -, -, hnew⟩ := hc.phase.of_awaited hcall
  have hn : n < c.beforeSendCalls.length := by
    rw [show c.beforeSendCalls.length = n + 1 from hcalls]
    exact Nat.lt_succ_self n
  have hsent : c.beforeSendCalls[n]? = some c.beforeSendCalls[n] := List.getElem?_eq_getElem hn
  have hanswers : (c.answeredBeforeSend place ⟨some n, OK,
    .onBeforeSendHeaders headers⟩).requestPart.answers =
      c.requestPart.answers ++ [⟨some n, OK, .onBeforeSendHeaders headers⟩] := by
    simp [SocketCore.requestPart, SocketCore.answeredBeforeSend, HeaderReply.hook]
  refine ⟨n, c.beforeSendCalls[n], rfl, hcallback, hsent, fun direct => ⟨?_, ?_⟩⟩
  · rintro ⟨sent, answer, hsent', hanswer, rfl⟩
    obtain rfl := Option.some.inj (hsent.symm.trans hsent')
    rw [hanswers] at hanswer
    rcases List.mem_append.1 hanswer with hold | hlast
    · exact absurd rfl (hnew _ hold)
    · simp only [List.mem_singleton, HeaderAnswer.mk.injEq, HeaderReply.onBeforeSendHeaders.injEq,
        true_and] at hlast
      rw [hlast]
  · rintro rfl
    refine ⟨_, headers, hsent, ?_, rfl⟩
    rw [hanswers]
    exact List.mem_append_right _ (List.mem_singleton_self _)

/-- An answer that the network would have understood as the proxy does. -/
theorem Conveys.answeredBeforeSend (hc : Conveys c) {place n : Nat}
    {headers : Option HttpRequestHeaders} (hcall : c.awaitedBeforeSend[place]? = some (some n))
    (hdirect : (c.answeredBeforeSend place
      ⟨some n, OK, .onBeforeSendHeaders headers⟩).requestPart.Direct n
      (headers.getD [])) :
    c.requestPart.held = [] ∧ Holding
    { c.answeredBeforeSend place ⟨some n, OK, .onBeforeSendHeaders headers⟩ with
      requestHeaders := headers.getD [] } n := by
  obtain ⟨m, hm, rfl, hextra, hcallback, -, hheld, hawaited, -⟩ := hc.phase.of_awaited hcall
  obtain rfl := Option.some.inj hm
  have hanswers : (c.answeredBeforeSend 0 ⟨some n, OK,
    .onBeforeSendHeaders headers⟩).requestPart.answers =
      c.requestPart.answers ++ [⟨some n, OK, .onBeforeSendHeaders headers⟩] := by
    simp [SocketCore.requestPart, SocketCore.answeredBeforeSend, HeaderReply.hook]
  refine ⟨hheld, hextra, hcallback, congrArg (List.eraseIdx · 0) hawaited, hdirect,
    (hc.phase.of_stored hcallback hc.replies).2, ?_, hc.stored, ?_, hc.uncalled, hc.request⟩
  · exact hc.replies.grow List.prefix_rfl (hanswers ▸ List.subset_append_left _ _) rfl
  · intro a ha
    have ha : a ∈ (c.answeredBeforeSend 0 ⟨some n, OK,
        .onBeforeSendHeaders headers⟩).requestPart.answers := ha
    rw [hanswers] at ha
    rcases List.mem_append.1 ha with hold | hlast
    · exact hc.answered a hold
    · rw [List.mem_singleton.1 hlast]
      exact ⟨n, (hc.phase.of_stored hcallback hc.replies).1, rfl⟩

/-- The hook before the start, which makes no edits, comes after an answer. -/
theorem Holding.exit {n : Nat} {headers : HttpRequestHeaders}
    (h : Holding { c with requestHeaders := headers } n) (hheld : c.requestPart.held = [])
    (hreplies : c.requestPart.Replies)
    (hno : ∀ ω ctx headers, (hooks.onBeforeStartTransaction ω ctx headers).writes.headers
      headers = headers) (hexit : BeforeSendExit hooks c headers c') : Transmits c' := by
  cases hexit with
  | tornDown _ hdown => exact hdown.transmits hreplies
  | suspended _ =>
    rw [hno]
    refine .of_conveys (Holding.conveys ⟨h.extraHeaders, h.callback, h.awaited, h.direct,
      h.unreplied, h.replies,
      h.stored, h.answered, h.uncalled, fun hmem => h.request ?_⟩ ?_)
    · exact (List.mem_append.1 hmem).resolve_right (by simp)
    · exact List.filterMap_append.trans (congrArg (· ++ _) hheld)
  | replied _ hreply =>
    rw [hno] at hreply
    rw [hreply.of_extraHeaders h.extraHeaders]
    exact .of_conveys (h.replied hheld)

theorem aside_resumed {place : Nat} {writes : HookWrites} {k : WebSocketContinuation}
    (hk : c.continuations[place]? = some k) (hheld : k.holdsHeaders = none) :
    Aside c (c.resumed place (writes.restrict k.hookPoint)) := by
  obtain ⟨xs, ys, hall, hrest⟩ := filterMap_eraseIdx (g := WebSocketContinuation.holdsHeaders) hk
  have hheaders : (writes.restrict k.hookPoint).headers = id := by
    cases k with
    | onBeforeSendHeadersComplete => cases hheld
    | continueToStartRequest => rfl
    | onBeforeRequestComplete => rfl
    | onHeadersReceivedComplete call => rfl
  refine ⟨?_, id, fun hmem => .inl (List.mem_of_mem_eraseIdx hmem)⟩
  simp [SocketCore.requestPart, SocketCore.resumed, hall, hrest, hheld, hheaders]

/-- The hook before the start ends. -/
theorem Conveys.resumedReply (hc : Conveys c) {place : Nat} {writes : HookWrites}
    (hk : c.continuations[place]? = some .onBeforeSendHeadersComplete)
    (hwrites : ∀ headers, writes.headers headers = headers)
    (hreply : BeforeSendReply (c.resumed place (writes.restrict .beforeStartTransaction)) c') : Conveys c' := by
  obtain ⟨xs, ys, hall, hrest⟩ := filterMap_eraseIdx (g := WebSocketContinuation.holdsHeaders) hk
  have hheaders : (c.resumed place (writes.restrict .beforeStartTransaction)).requestHeaders =
      c.requestHeaders :=
    hwrites c.requestHeaders
  have hmem : () ∈ c.requestPart.held := List.mem_filterMap.2 ⟨_, List.mem_of_getElem? hk, rfl⟩
  rcases hextra : c.extraHeaders with _ | _
  · have hnone : c.beforeSendCallback = none := (hc.phase.of_alone hextra).2.1
    exact hc.alone hextra (hreply.alone hextra hnone)
  · obtain ⟨n, hcallback, hheld, hawaited, hdirect, hunreplied⟩ := hc.phase.of_held hextra hmem
    have hlength := congrArg List.length (hall.symm.trans hheld)
    simp only [WebSocketContinuation.holdsHeaders, Option.toList_some, List.length_append,
      List.length_singleton]
      at hlength
    have hnil : (c.resumed place (writes.restrict .beforeStartTransaction)).requestPart.held = [] := by
      refine hrest.trans (List.length_eq_zero_iff.1 ?_)
      rw [List.length_append]
      omega
    rw [hreply.of_extraHeaders hextra]
    refine Holding.replied ⟨hextra, hcallback, hawaited, ?_, hunreplied, ?_, hc.stored,
      hc.answered, hc.uncalled,
      fun hmem => hc.request (List.mem_of_mem_eraseIdx hmem)⟩ hnil
    · rw [hheaders]
      exact hdirect.grow List.prefix_rfl (List.Subset.refl _)
    · exact hc.replies.grow List.prefix_rfl (List.Subset.refl _) rfl

theorem Conveys.resumed (hc : Conveys c) {place : Nat} {writes : HookWrites}
    {k : WebSocketContinuation} (hk : c.continuations[place]? = some k)
    (hwrites : ∀ headers, writes.headers headers = headers)
    (hexit : ResumeExit text hooks (c.resumed place (writes.restrict k.hookPoint)) k c') : Transmits c' := by
  cases hexit with
  | requested _ => exact .of_conveys ((hc.aside (aside_resumed hk rfl)).aside aside_requested)
  | ask hexit =>
    have halone : c.extraHeaders = false := hc.request (List.mem_of_getElem? hk)
    exact (hexit.of_alone halone).alone (hc.aside (aside_resumed hk rfl)) halone
  | reply hreply => exact .of_conveys (hc.resumedReply hk hwrites hreply)
  | asked =>
    have hresumed : Aside c (c.resumed place (writes.restrict .headersReceived)) :=
      aside_resumed hk rfl
    exact .of_conveys ((hc.aside hresumed).aside ⟨rfl, id, Or.inl⟩)

end Steps

/-! ## Every step -/

/-- A handler that makes no edits before the start. -/
def Hooks.EditsNothing {Ω : Type} (hooks : Hooks Ω) : Prop :=
  ∀ ω ctx headers, (hooks.onBeforeStartTransaction ω ctx headers).writes.headers headers = headers

/-- Nor does it make any at the end of a hook that was suspended. -/
def WebSocketEvent.EditsNothing {Ω : Type} : WebSocketEvent Ω → Prop
  | resumeHook _ _ writes _ => ∀ headers, writes.headers headers = headers
  | _ => True

/-- The network waits for its callback, and an answer that lets the request pass has headers, or the
network has sent none. -/
def KeepsHeaders {Ω : Type} (s : WebSocketSlot) : WebSocketEvent Ω → Prop
  | .onBeforeSendHeaders .. => s.object.onBeforeSendHeadersCallback = none
  | .answerBeforeSend place errorCode headers _ => errorCode = OK →
    headers ≠ none ∨ ∃ n < s.beforeSendCalls.length, s.awaitedBeforeSend[place]? = some (some n) ∧
      s.beforeSendCalls[n]? = some []
  | _ => True

theorem getD_eq_iff {α : Type} {answer : Option (List α)} {sent : List α} :
    answer.getD [] = answer.getD sent ↔ answer ≠ none ∨ sent = [] := by
  cases answer with
  | none => simp [eq_comm]
  | some headers => simp

section Steps
variable {Ω : Type} {text : HeaderText} {hooks : Hooks Ω} {c' : SocketCore} {s : WebSocketSlot}
  {e : WebSocketEvent Ω}

theorem Conveys.keeps_iff (hc : Conveys s.core) {place : Nat} {call : Option Nat}
    {headers : Option HttpRequestHeaders} {ω : Ω}
    (hcall : s.core.awaitedBeforeSend[place]? = some call) :
    ∃ n, call = some n ∧ s.core.beforeSendCallback = some n ∧
      (KeepsHeaders s (.answerBeforeSend place OK headers ω) ↔
        (s.core.answeredBeforeSend place
            ⟨some n, OK, .onBeforeSendHeaders headers⟩).requestPart.Direct n
          (headers.getD [])) := by
  obtain ⟨n, sent, rfl, hcallback, hsent, hdirect⟩ := hc.direct_iff headers hcall
  have hcall : s.awaitedBeforeSend[place]? = some (some n) := hcall
  have hsent : s.beforeSendCalls[n]? = some sent := hsent
  refine ⟨n, rfl, hcallback, ?_⟩
  rw [hdirect, getD_eq_iff]
  refine ⟨fun hC => (hC rfl).imp_right ?_, fun h _ => h.imp_right ?_⟩
  · rintro ⟨m, -, hm, hempty⟩
    obtain rfl : n = m := Option.some.inj (Option.some.inj (hcall.symm.trans hm))
    exact Option.some.inj (hsent.symm.trans hempty)
  · rintro rfl
    exact ⟨n, (List.getElem?_eq_some_iff.1 hsent).1, hcall, hsent⟩

/-- A step that meets the condition. -/
theorem Conveys.step (hc : Conveys s.core) (horder : Orderly s.core) (hno : hooks.EditsNothing)
    (hedit : e.EditsNothing) (hC : KeepsHeaders s e) (hstep : SocketStep text hooks s.core e c') :
    Transmits c' := by
  cases hstep with
  | passedOn _ => exact .of_conveys hc
  | ended _ hdown => exact hdown.transmits hc.replies
  | start hstarted hexit => exact (hc.started (horder.unstarted hstarted) _ _).start hexit
  | webSocketFactoryRun hstarted hexit =>
    exact (hc.started (horder.unstarted hstarted) _ _).start hexit
  | @onBeforeSendHeaders headers _ _ hreceiver hexit =>
    have hextra := horder.frame.extraHeaders hreceiver
    rw [hexit.of_extraHeaders hextra]
    exact .of_conveys (hc.calledBeforeSend hextra hreceiver hC headers)
  | onHeadersReceived hreceiver hexit =>
    exact hc.calledHeaders (horder.frame.extraHeaders hreceiver) hexit
  | refusedBeforeSend _ _ hdown =>
    refine hdown.transmits (hc.replies.grow List.prefix_rfl ?_ rfl)
    simp [SocketCore.requestPart, SocketCore.answeredBeforeSend]
  | @answerBeforeSend place _ headers ω call _ hcall hok hexit =>
    subst hok
    obtain ⟨n, rfl, -, hiff⟩ := hc.keeps_iff hcall
    obtain ⟨hheld, hholding⟩ := hc.answeredBeforeSend hcall (hiff.1 hC)
    refine hholding.exit hheld ?_ hno hexit
    refine hc.replies.grow List.prefix_rfl ?_ rfl
    simp [SocketCore.requestPart, SocketCore.answeredBeforeSend]
  | answerHeaders hcall =>
    have hbound : s.core.headerReceiver = .bound true :=
      (horder.frame.phase.of_awaited (List.mem_of_getElem? hcall)).1
    have hextra : s.core.extraHeaders = true :=
      (horder.frame.receivers fun hunbound => nomatch hbound.symm.trans hunbound).1
    exact .of_conveys (hc.aside (aside_answeredHeaders hextra))
  | failedHook _ _ hdown => exact hdown.transmits hc.replies
  | resumeHook hk _ hexit => exact hc.resumed hk hedit hexit

/-- After any other step the proxy lives on with a call that is lost or headers that are not
right. -/
theorem Conveys.keeps_of_transparent (hc : Conveys s.core) (horder : Orderly s.core)
    (hno : hooks.EditsNothing) (hstep : SocketStep text hooks s.core e c') (ha : c'.alive = true)
    (h : c'.Transparent) : KeepsHeaders s e := by
  cases hstep with
  | @onBeforeSendHeaders headers _ _ hreceiver hexit =>
    have hextra := horder.frame.extraHeaders hreceiver
    rw [hexit.of_extraHeaders hextra] at h ha
    rcases hcallback : s.core.beforeSendCallback with _ | n
    · exact hcallback
    · obtain ⟨hn, hunreplied⟩ := hc.phase.of_stored hcallback hc.replies
      have hn : n < s.core.beforeSendCalls.length := hn
      have hlength : n < (s.core.beforeSendCalls ++ [headers]).length := by
        rw [List.length_append]
        exact Nat.lt_of_lt_of_le hn (Nat.le_add_right _ _)
      rcases h.stored ha n hlength with hreplied | hstored
      · exact absurd hreplied hunreplied
      · have heq : s.core.beforeSendCalls.length = n := Option.some.inj hstored
        exact absurd heq (Nat.ne_of_gt hn)
  | @answerBeforeSend place _ headers ω call _ hcall hok hexit =>
    subst hok
    obtain ⟨n, rfl, hcallback, hiff⟩ := hc.keeps_iff hcall
    rw [hiff]
    obtain ⟨m, hm, -, hextra, -⟩ := hc.phase.of_awaited hcall
    cases hexit with
    | tornDown _ hdown => simp [hdown.alive] at ha
    | suspended _ =>
      have hdirect := h.held ha
        (by simp [SocketCore.requestPart, SocketCore.suspended, WebSocketContinuation.holdsHeaders]) n hcallback
      rw [hno] at hdirect
      exact hdirect.grow List.prefix_rfl (List.Subset.refl _)
    | replied _ hreply =>
      rw [hreply.of_extraHeaders hextra, hno] at h
      refine (direct_of_replied ?_ h.replies).grow List.prefix_rfl (List.Subset.refl _)
      exact hcallback
  | passedOn he => cases he <;> trivial
  | ended he _ => cases he <;> trivial
  | refusedBeforeSend _ herror _ => exact fun hok => absurd hok herror
  | _ => trivial

end Steps

/-! ## Every run -/

instance {Ω : Type} (s : WebSocketSlot) : (e : WebSocketEvent Ω) → Decidable (KeepsHeaders s e)
  | .onBeforeSendHeaders .. =>
    inferInstanceAs (Decidable (s.object.onBeforeSendHeadersCallback = none))
  | .answerBeforeSend place errorCode headers _ => inferInstanceAs (Decidable (errorCode = OK →
      headers ≠ none ∨ ∃ n < s.beforeSendCalls.length, s.awaitedBeforeSend[place]? = some (some n) ∧
        s.beforeSendCalls[n]? = some []))
  | .handshakeClient | .start .. | .webSocketFactoryRun .. | .onOpeningHandshakeStarted | .onFailure |
    .onConnectionEstablished _ | .onMojoConnectionError .. | .onAuthRequired
      | .onHeadersReceived .. |
    .answerHeaders .. | .resumeHook .. => isTrue trivial

section Runs
variable {Ω : Type} {text : HeaderText} {hooks : Hooks Ω} {request : ResourceRequest}
  {processId frameTreeNodeId : Int} {s : WebSocketSlot}

theorem transmits_of_reach (hno : hooks.EditsNothing)
    (h : (webSocketSystem text hooks request processId frameTreeNodeId).Reach
      (fun s e => e.EditsNothing ∧ KeepsHeaders s e) s) : Transmits s.core ∧
        (s.alive = true → Orderly s.core) := by
  refine socket_invariant ?_ ?_ ?_ h
  · exact .of_conveys (.fresh (.alone rfl rfl rfl rfl) rfl rfl rfl rfl rfl)
  · exact fun s e c' hI horder ha hC hstep => (hI.conveys ha).step horder hno hC.1 hC.2 hstep
  · refine fun c ks hI hdead => ⟨hI.replies, fun ha => ?_⟩
    exact absurd (hdead.symm.trans ha) Bool.false_ne_true

/-- **The proxy is transparent for request headers, as far as the answers have some.** In a run of
such answers, with calls that come one after another, the network is told what the downstream client
would have told it, and no other step of a proxy that lives on keeps it so. -/
theorem transparent_headers (hno : hooks.EditsNothing)
    (h : (webSocketSystem text hooks request processId frameTreeNodeId).Reach
      (fun s e => e.EditsNothing ∧ KeepsHeaders s e) s) :
    s.core.Transparent ∧
    ∀ e s', e.isEnabled s = true → e.EditsNothing →
      (webSocketSystem text hooks request processId frameTreeNodeId).exec s e = .ok s' → s'.alive = true →
      (s'.core.Transparent ↔ KeepsHeaders s e) := by
  obtain ⟨htransmits, horder⟩ := transmits_of_reach hno h
  refine ⟨htransmits.transparent, fun e s' hen hedit hex ha' => ?_⟩
  rcases ha : s.alive with _ | _
  · obtain ⟨ks, hcore⟩ := wp_ok (run_dead ha hen) (run_of_exec hex)
    have hgone : s'.alive = false := (congrArg SocketCore.alive hcore).trans ha
    exact absurd (hgone.symm.trans ha') Bool.false_ne_true
  · have hstep := step_of_exec (horder ha) ha hen hex
    have hconveys := htransmits.conveys ha
    exact ⟨fun h => hconveys.keeps_of_transparent (horder ha) hno hstep ha' h,
      fun hC => (hconveys.step (horder ha) hno hedit hC hstep).transparent⟩

end Runs

/-- The events at which a suspended hook ends. -/
def WebSocketEvent.resumes {Ω : Type} : WebSocketEvent Ω → Bool
  | resumeHook .. => true
  | _ => false

theorem WebSocketEvent.editsNothing_of_not_resumes {Ω : Type} {e : WebSocketEvent Ω}
    (h : e.resumes = false) :
    e.EditsNothing := by
  cases e with
  | resumeHook => cases h
  | _ => trivial

theorem noCallbacks_editsNothing : noCallbacks.EditsNothing := fun _ _ _ => rfl

/-- The network sends no headers of its own, and the downstream client sets one; then the network
sends one, and the downstream client sets another. -/
theorem transparent_headers_set : ∃ s,
    (webSocketSystem upgradeText noCallbacks socketRequest 0 0).Reach
    (fun s e => e.EditsNothing ∧ KeepsHeaders s e) s ∧
    s.upstream =
      [⟨some 0, OK, .onBeforeSendHeaders (some [])⟩,
          ⟨some 1, OK, .onBeforeSendHeaders (some [("A", "2")])⟩] ∧
    s.core.Transparent := by
  have h := System.reach_of_replay (S := webSocketSystem upgradeText noCallbacks socketRequest 0 0)
    (C := fun s e => e.resumes = false ∧ KeepsHeaders s e) [.handshakeClient,
      .webSocketFactoryRun 1 socketRequest.url [] true (),
      .onBeforeSendHeaders [] (), .answerBeforeSend 0 OK none (),
        .onBeforeSendHeaders [("A", "1")] (),
      .answerBeforeSend 0 OK (some [("A", "2")]) ()] rfl
  have h := h.mono (D := fun s e => e.EditsNothing ∧ KeepsHeaders s e)
    fun _ _ hC => ⟨WebSocketEvent.editsNothing_of_not_resumes hC.1, hC.2⟩
  exact ⟨_, h, rfl, (transparent_headers noCallbacks_editsNothing h).1⟩

/-- The downstream client has no modification, and the network is told to send no headers. -/
theorem transparent_headers_dropped : ∃ s,
    (webSocketSystem upgradeText noCallbacks socketRequest 0 0).Reachable s ∧
    s.beforeSendCalls = [[("A", "1")]] ∧ s.answers = [⟨some 0, OK, .onBeforeSendHeaders none⟩] ∧
    s.upstream = [⟨some 0, OK, .onBeforeSendHeaders (some [])⟩] ∧ ¬ s.core.Transparent := by
  have h := System.reach_of_replay (S := webSocketSystem upgradeText noCallbacks socketRequest 0 0)
    (C := fun _ _ => True) [.handshakeClient, .webSocketFactoryRun 1 socketRequest.url [] true (),
      .onBeforeSendHeaders [("A", "1")] (), .answerBeforeSend 0 OK none ()] rfl
  obtain ⟨s, h, hcalls, hanswers, hupstream⟩ : ∃ s,
      (webSocketSystem upgradeText noCallbacks socketRequest 0 0).Reachable s ∧
      s.beforeSendCalls = [[("A", "1")]] ∧ s.answers = [⟨some 0, OK, .onBeforeSendHeaders none⟩] ∧
      s.upstream = [⟨some 0, OK, .onBeforeSendHeaders (some [])⟩] := ⟨_, h, rfl, rfl, rfl⟩
  refine ⟨s, h, hcalls, hanswers, hupstream, fun htransparent => ?_⟩
  have hlast : (⟨some 0, OK, .onBeforeSendHeaders (some [])⟩ : HeaderAnswer) ∈
      s.core.requestPart.upstream := by
    simp [SocketCore.requestPart, WebSocketSlot.core, hupstream, HeaderReply.hook]
  obtain ⟨n, headers, heq, sent, answer, hsent, hanswer, hdirect⟩ := htransparent.replies _ hlast
  simp only [HeaderAnswer.mk.injEq, Option.some.injEq, HeaderReply.onBeforeSendHeaders.injEq, true_and] at heq
  obtain ⟨rfl, rfl⟩ := heq
  simp only [SocketCore.requestPart, WebSocketSlot.core, hcalls, List.getElem?_singleton,
    if_true, Option.some.injEq]
    at hsent
  simp only [SocketCore.requestPart, WebSocketSlot.core, hanswers,
    List.mem_filter, List.mem_singleton,
    HeaderAnswer.mk.injEq, HeaderReply.onBeforeSendHeaders.injEq, true_and] at hanswer
  rw [hanswer.1, ← hsent] at hdirect
  cases hdirect

end DumbBrowser
