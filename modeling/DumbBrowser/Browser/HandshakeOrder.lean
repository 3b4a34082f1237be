import DumbBrowser.Browser.WebSocketRefinement

/-!
# The order of a handshake

What holds in every run of a proxy. The network's calls of `OnHeadersReceived` come one after
another: while one is in progress, both receivers are paused.

* `socket_invariant` : what the steps of an orderly handshake keep holds in every run.
-/

namespace DumbBrowser

open NetError Exec

/-! ## The part of a core that the response headers pass through -/

/-- The call of the network that a suspended hook for response headers belongs to. -/
def WebSocketContinuation.headersCall : WebSocketContinuation → Option Nat
  | onHeadersReceivedComplete call => some call
  | continueToStartRequest | onBeforeRequestComplete | onBeforeSendHeadersComplete => none

structure HeadersPart where
  receiver : Receiver
  overrideHeaders : Option HttpResponseHeaders
  callback : Option Nat
  /-- How often the network has called. -/
  calls : Nat
  /-- The calls whose hook is suspended. -/
  pending : List Nat
  /-- The calls that the downstream client has been asked about, and those it has yet to answer. -/
  asked : List Nat
  awaited : List Nat

structure SocketFrame where
  started : Bool
  extraHeaders : Bool
  factory : Bool
  onDisconnect : Bool
  handshakeReceiver : Receiver
  remoteEndpoint : IPEndPoint
  headers : HeadersPart

namespace SocketCore

def headersPart (c : SocketCore) : HeadersPart where
  receiver := c.headerReceiver
  overrideHeaders := c.overrideHeaders
  callback := c.headersCallback
  calls := c.headersCalls.length
  pending := c.continuations.filterMap (·.headersCall)
  asked := c.downstreamHeaders.map (·.call)
  awaited := c.awaitedHeaders

def frame (c : SocketCore) : SocketFrame where
  started := c.started
  extraHeaders := c.extraHeaders
  factory := c.factory
  onDisconnect := c.onDisconnect
  handshakeReceiver := c.handshakeReceiver
  remoteEndpoint := c.remoteEndpoint
  headers := c.headersPart

end SocketCore

/-- One call at most is in progress; it has the callback of the network, and both receivers are
paused. -/
inductive HeadersPhase (p : HeadersPart) : Prop
  | idle (hreceiver : p.receiver ≠ .bound true) (hoverride : p.overrideHeaders = none)
      (hasked : p.asked = List.range p.calls)
      (hpending : p.pending = []) (hawaited : p.awaited = [])
  | suspended (n : Nat) (hreceiver : p.receiver = .bound true) (hcallback : p.callback = some n)
      (hcalls : p.calls = n + 1)
      (hasked : p.asked = List.range n) (hpending : p.pending = [n]) (hawaited : p.awaited = [])
  | asked (n : Nat) (hreceiver : p.receiver = .bound true) (hcallback : p.callback = some n)
      (hcalls : p.calls = n + 1)
      (hasked : p.asked = List.range (n + 1)) (hpending : p.pending = [])
        (hawaited : p.awaited = [n])

namespace HeadersPhase

variable {p : HeadersPart} (h : HeadersPhase p)
include h

theorem of_receiving (hreceiver : p.receiver ≠ .bound true) :
    p.overrideHeaders = none ∧ p.asked = List.range p.calls ∧ p.pending = [] ∧ p.awaited = [] := by
  cases h with
  | idle _ hoverride hasked hpending hawaited => exact ⟨hoverride, hasked, hpending, hawaited⟩
  | suspended _ hpaused _ _ _ _ _ => exact absurd hpaused hreceiver
  | asked _ hpaused _ _ _ _ _ => exact absurd hpaused hreceiver

theorem of_pending {n : Nat} (hn : n ∈ p.pending) :
    p.receiver = .bound true ∧ p.callback = some n ∧ p.calls = n + 1 ∧
    p.asked = List.range n ∧ p.pending = [n] ∧
      p.awaited = [] := by
  cases h with
  | idle _ _ _ hpending _ => simp [hpending] at hn
  | suspended m hreceiver hcallback hcalls hasked hpending hawaited =>
    obtain rfl : n = m := by simpa [hpending] using hn
    exact ⟨hreceiver, hcallback, hcalls, hasked, hpending, hawaited⟩
  | asked _ _ _ _ _ hpending _ => simp [hpending] at hn

theorem of_awaited {n : Nat} (hn : n ∈ p.awaited) :
    p.receiver = .bound true ∧ p.callback = some n ∧ p.calls = n + 1 ∧ p.asked = List.range
    (n + 1) ∧ p.pending = [] ∧
      p.awaited = [n] := by
  cases h with
  | idle _ _ _ _ hawaited => simp [hawaited] at hn
  | suspended _ _ _ _ _ _ hawaited => simp [hawaited] at hn
  | asked m hreceiver hcallback hcalls hasked hpending hawaited =>
    obtain rfl : n = m := by simpa [hawaited] using hn
    exact ⟨hreceiver, hcallback, hcalls, hasked, hpending, hawaited⟩

/-- The calls are asked about in order, and those that are not pending have been. -/
theorem asked_eq : p.asked ++ p.pending = List.range p.calls := by
  cases h with
  | idle _ _ hasked hpending _ => rw [hasked, hpending, List.append_nil]
  | suspended n _ _ hcalls hasked hpending _ => rw [hasked, hpending, hcalls, List.range_succ]
  | asked n _ _ hcalls hasked hpending _ => rw [hasked, hpending, hcalls, List.append_nil]

end HeadersPhase

structure HandshakeOrder (f : SocketFrame) : Prop where
  onDisconnect : f.onDisconnect = true
  remoteEndpoint : f.remoteEndpoint = {}
  receivers : f.headers.receiver ≠ .unbound →
    f.extraHeaders = true ∧ f.handshakeReceiver.isBound = true ∧ f.factory = false
  phase : HeadersPhase f.headers

/-! ## Handing over the request -/

def SocketFrame.requested (f : SocketFrame) : SocketFrame :=
  { f with
    factory := false
    handshakeReceiver := .bound false
    headers := { f.headers with receiver := if f.extraHeaders then .bound false else f.headers.receiver } }

/-- The frame is as before, or the request has been handed to the network. -/
inductive Hands (f : SocketFrame) : SocketFrame → Prop
  | same : Hands f f
  | requested : f.factory = true → Hands f f.requested

theorem Hands.started {f f' : SocketFrame} (h : Hands f f') : f'.started = f.started := by
  cases h <;> rfl

theorem Hands.of_eq {f f' : SocketFrame} (h : f' = f) : Hands f f' := h ▸ .same

theorem HandshakeOrder.hands {f f' : SocketFrame} (h : HandshakeOrder f) (hf : Hands f f') :
    HandshakeOrder f' := by
  cases hf with
  | same => exact h
  | requested hfactory =>
    have hunbound : f.headers.receiver = .unbound := by
      by_contra hbound
      exact absurd ((h.receivers hbound).2.2.symm.trans hfactory) Bool.false_ne_true
    obtain ⟨hoverride, hasked, hpending, hawaited⟩ :=
      h.phase.of_receiving (hunbound ▸ Receiver.unbound_ne_paused)
    refine ⟨h.onDisconnect, h.remoteEndpoint, fun hbound => ?_,
      .idle ?_ hoverride hasked hpending hawaited⟩
    · cases hextra : f.extraHeaders with
      | false => simp [SocketFrame.requested, hextra, hunbound] at hbound
      | true => exact ⟨hextra, rfl, rfl⟩
    · cases hextra : f.extraHeaders with
      | false => simp [SocketFrame.requested, hextra, hunbound]
      | true => simp [SocketFrame.requested, hextra]

section Exits
variable {Ω : Type} {text : HeaderText} {hooks : Hooks Ω} {c c' : SocketCore}

theorem frame_suspended {k : WebSocketContinuation} (hk : k.headersCall = none) :
    (c.suspended k).frame = c.frame := by
  simp [SocketCore.frame, SocketCore.headersPart, SocketCore.suspended, hk]

theorem BeforeSendReply.hands (h : BeforeSendReply c c') : Hands c.frame c'.frame := by
  cases h with
  | replied _ => exact .same
  | requested _ hfactory => exact .requested hfactory

theorem BeforeSendExit.hands {headers : HttpRequestHeaders} (h : BeforeSendExit hooks c headers c')
    (ha : c'.alive = true) : Hands c.frame c'.frame := by
  cases h with
  | tornDown _ hdown => simp [hdown.alive] at ha
  | suspended _ => exact .of_eq (frame_suspended rfl)
  | replied _ hreply => exact hreply.hands

theorem AskExit.hands {call : Option Nat} (h : AskExit hooks c call c') (ha : c'.alive = true) :
    Hands c.frame c'.frame := by
  cases h with
  | asked _ => exact .same
  | unasked _ hexit => exact hexit.hands ha

theorem SocketStartExit.hands (h : SocketStartExit hooks c c') (ha : c'.alive = true) :
    Hands c.frame c'.frame := by
  cases h with
  | tornDown hdown => simp [hdown.alive] at ha
  | suspended =>
    refine .of_eq (frame_suspended ?_)
    unfold SocketCore.startContinuation
    split <;> rfl
  | requested _ hfactory => exact .requested hfactory
  | unasked _ hexit => exact hexit.hands ha

theorem ResumeExit.hands {k : WebSocketContinuation} (h : ResumeExit text hooks c k c')
    (hk : k.headersCall = none) (ha : c'.alive = true) : Hands c.frame c'.frame := by
  cases h with
  | requested hfactory => exact .requested hfactory
  | ask hexit => exact hexit.hands ha
  | reply hreply => exact hreply.hands
  | asked => simp [WebSocketContinuation.headersCall] at hk

end Exits

/-! ## Steps -/

/-- Before the start there is nothing in progress. -/
structure Unstarted (c : SocketCore) : Prop where
  receiver : c.headerReceiver = .unbound
  continuations : c.continuations = []
  awaitedBeforeSend : c.awaitedBeforeSend = []
  awaitedHeaders : c.awaitedHeaders = []

structure Orderly (c : SocketCore) : Prop where
  frame : HandshakeOrder c.frame
  unstarted : c.started = false → Unstarted c

theorem filterMap_eraseIdx {α β : Type} {g : α → Option β} {l : List α} {place : Nat} {a : α}
    (ha : l[place]? = some a) :
    ∃ xs ys, l.filterMap g = xs ++ (g a).toList ++ ys ∧
    (l.eraseIdx place).filterMap g = xs ++ ys := by
  obtain ⟨hplace, rfl⟩ := List.getElem?_eq_some_iff.1 ha
  refine ⟨(l.take place).filterMap g, (l.drop (place + 1)).filterMap g, ?_, ?_⟩
  · have hsplit : l = l.take place ++ ([l[place]] ++ l.drop (place + 1)) := by
      rw [List.singleton_append, List.getElem_cons_drop, List.take_append_drop]
    have hone : [l[place]].filterMap g = (g l[place]).toList := by
      cases hg : g l[place] <;> simp [hg]
    conv_lhs => rw [hsplit]
    rw [List.filterMap_append, List.filterMap_append, hone, List.append_assoc]
  · rw [List.eraseIdx_eq_take_drop_succ, List.filterMap_append]

theorem filter_eq_singleton {α κ : Type} [DecidableEq κ] {f : α → κ} {l : List α} {a : α}
    (hnodup : (l.map f).Nodup) (ha : a ∈ l) : l.filter (f · = f a) = [a] := by
  induction l with
  | nil => cases ha
  | cons b l ih =>
    rw [List.map_cons, List.nodup_cons] at hnodup
    rw [List.filter_cons]
    rcases List.mem_cons.1 ha with rfl | ha
    · have hnone : l.filter (f · = f a) = [] := by
        rw [List.filter_eq_nil_iff]
        intro b hb hfb
        exact hnodup.1 (List.mem_map.2 ⟨b, hb, of_decide_eq_true hfb⟩)
      rw [if_pos (decide_eq_true rfl), hnone]
    · rw [if_neg, ih hnodup.2 ha]
      intro hfb
      exact hnodup.1 (List.mem_map.2 ⟨a, ha, (of_decide_eq_true hfb).symm⟩)

section Steps
variable {Ω : Type} {text : HeaderText} {hooks : Hooks Ω} {c c' : SocketCore}

theorem frame_resumed {place : Nat} {writes : HookWrites} {k : WebSocketContinuation}
    (hk : c.continuations[place]? = some k) (hcall : k.headersCall = none) :
    (c.resumed place (writes.restrict k.hookPoint)).frame = c.frame := by
  obtain ⟨xs, ys, hall, hrest⟩ := filterMap_eraseIdx (g := WebSocketContinuation.headersCall) hk
  have hoverride : (writes.restrict k.hookPoint).overrideHeaders = id := by
    cases k with
    | onHeadersReceivedComplete call => cases hcall
    | continueToStartRequest => rfl
    | onBeforeRequestComplete => rfl
    | onBeforeSendHeadersComplete => rfl
  simp [SocketCore.frame, SocketCore.headersPart, SocketCore.resumed, hall, hrest, hcall, hoverride]

/-- A call of the network is put to the hook. -/
theorem HandshakeOrder.headersExit (h : HandshakeOrder c.frame)
    (hreceiver : c.headerReceiver = .bound false) {headers : String} {remoteEndpoint : IPEndPoint}
    {outcome : HookOutcome} {redirectUrl : GURL}
    (hexit : SocketHeadersExit text (c.calledHeaders headers remoteEndpoint) c.headersCalls.length
      outcome redirectUrl c')
    (ha : c'.alive = true) : HandshakeOrder c'.frame := by
  have hreceiver : c.frame.headers.receiver = .bound false := hreceiver
  have hunpaused : c.frame.headers.receiver ≠ .bound true := by
    rw [hreceiver]
    exact Receiver.receiving_ne_paused
  have hbound : c.frame.headers.receiver ≠ .unbound := by
    rw [hreceiver]
    decide
  obtain ⟨hextra, -, hfactory⟩ := h.receivers hbound
  obtain ⟨-, hasked, hpending, hawaited⟩ := h.phase.of_receiving hunpaused
  have hpaused : (if c.extraHeaders then Receiver.bound true else c.headerReceiver) = .bound true :=
    if_pos hextra
  cases hexit with
  | tornDown _ hdown => simp [hdown.alive] at ha
  | suspended _ _ =>
    refine ⟨h.onDisconnect, h.remoteEndpoint, fun _ => ⟨hextra, rfl, hfactory⟩, ?_⟩
    refine .suspended c.headersCalls.length hpaused rfl List.length_append hasked ?_ hawaited
    exact List.filterMap_append.trans (congrArg (· ++ _) hpending)
  | asked _ _ =>
    refine ⟨h.onDisconnect, h.remoteEndpoint, fun _ => ⟨hextra, rfl, hfactory⟩, ?_⟩
    refine .asked c.headersCalls.length hpaused rfl List.length_append ?_ hpending ?_
    · rw [List.range_succ]
      exact List.map_append.trans (congrArg (· ++ _) hasked)
    · exact congrArg (· ++ _) hawaited

/-- A suspended hook for response headers ends. -/
theorem HandshakeOrder.asked (h : HandshakeOrder c.frame) {place n : Nat} {writes : HookWrites}
    (hk : c.continuations[place]? = some (.onHeadersReceivedComplete n)) :
    HandshakeOrder ((c.resumed place writes).asksHeaders text n).frame := by
  obtain ⟨xs, ys, hall, hrest⟩ := filterMap_eraseIdx (g := WebSocketContinuation.headersCall) hk
  have hn : n ∈ c.frame.headers.pending := List.mem_filterMap.2 ⟨_, List.mem_of_getElem? hk, rfl⟩
  obtain ⟨hreceiver, hcallback, hcalls, hasked, hpending, hawaited⟩ := h.phase.of_pending hn
  refine ⟨h.onDisconnect, h.remoteEndpoint, h.receivers,
    .asked n hreceiver hcallback hcalls ?_ ?_ ?_⟩
  · rw [List.range_succ]
    exact List.map_append.trans (congrArg (· ++ _) hasked)
  · have hnone : xs ++ [n] ++ ys = [n] := hall.symm.trans hpending
    have hempty : xs = [] ∧ ys = [] := by
      have hlength := congrArg List.length hnone
      simp only [List.length_append, List.length_singleton] at hlength
      exact ⟨List.length_eq_zero_iff.1 (by omega), List.length_eq_zero_iff.1 (by omega)⟩
    exact hrest.trans (by rw [hempty.1, hempty.2, List.append_nil])
  · exact congrArg (· ++ _) hawaited

/-- The downstream client answers. -/
theorem HandshakeOrder.answered (h : HandshakeOrder c.frame) {place n : Nat} {a : HeaderAnswer}
    {headers : Option String} (hn : c.awaitedHeaders[place]? = some n) :
    HandshakeOrder (((c.answeredHeaders place a).repliesHeaders headers).setPaused false).frame := by
  obtain ⟨hreceiver, -, hcalls, hasked, hpending, hawaited⟩ :=
    h.phase.of_awaited (List.mem_of_getElem? hn)
  have hbound : c.frame.headers.receiver ≠ .unbound := by
    rw [hreceiver]
    decide
  obtain ⟨hextra, -, hfactory⟩ := h.receivers hbound
  have hawaited : c.awaitedHeaders = [n] := hawaited
  obtain rfl : place = 0 := by simpa [hawaited, List.getElem?_singleton] using hn
  have hresumed : (if c.extraHeaders then Receiver.bound false else c.headerReceiver) = .bound
      false := if_pos hextra
  refine ⟨h.onDisconnect, h.remoteEndpoint, fun _ => ⟨hextra, rfl, hfactory⟩,
    .idle ?_ rfl ?_ hpending ?_⟩
  · exact fun hpaused => absurd (hresumed.symm.trans hpaused) Receiver.receiving_ne_paused
  · exact hasked.trans (congrArg List.range hcalls.symm)
  · exact (congrArg (List.eraseIdx · 0) hawaited)

theorem SocketHeadersExit.started {call : Nat} {outcome : HookOutcome} {redirectUrl : GURL}
    (h : SocketHeadersExit text c call outcome redirectUrl c') (ha : c'.alive = true) :
    c'.started = c.started := by
  cases h with
  | tornDown _ hdown => simp [hdown.alive] at ha
  | suspended _ _ => rfl
  | asked _ _ => rfl

theorem Orderly.frame_step {e : WebSocketEvent Ω} (horder : Orderly c)
    (hstep : SocketStep text hooks c e c') (ha : c'.alive = true) : HandshakeOrder c'.frame := by
  have h := horder.frame
  cases hstep with
  | passedOn _ => exact h
  | ended _ hdown => simp [hdown.alive] at ha
  | start hstarted hexit =>
    refine HandshakeOrder.hands (f := { c.frame with started := true }) ?_ (hexit.hands ha)
    exact ⟨h.onDisconnect, h.remoteEndpoint, h.receivers, h.phase⟩
  | @webSocketFactoryRun _ _ _ _ _ extraHeaders _ _ hstarted hexit =>
    refine HandshakeOrder.hands (f := { c.frame with
      started := true, extraHeaders := extraHeaders }) ?_ (hexit.hands ha)
    exact ⟨h.onDisconnect, h.remoteEndpoint, fun hbound =>
      absurd (horder.unstarted hstarted).receiver hbound, h.phase⟩
  | onBeforeSendHeaders _ hexit => exact HandshakeOrder.hands (f := c.frame) h (hexit.hands ha)
  | onHeadersReceived hreceiver hexit => exact h.headersExit hreceiver hexit ha
  | refusedBeforeSend _ _ hdown => simp [hdown.alive] at ha
  | answerBeforeSend _ _ hexit => exact HandshakeOrder.hands (f := c.frame) h (hexit.hands ha)
  | answerHeaders hn => exact h.answered hn
  | failedHook _ _ hdown => simp [hdown.alive] at ha
  | @resumeHook _ _ _ _ k _ hk _ hexit =>
    rcases hcall : k.headersCall with _ | n
    · have hf := hexit.hands hcall ha
      rw [frame_resumed hk hcall] at hf
      exact h.hands hf
    · cases hexit with
      | asked => exact h.asked hk
      | requested _ => cases hcall
      | ask _ => cases hcall
      | reply _ => cases hcall

theorem Orderly.unstarted_step {e : WebSocketEvent Ω} (horder : Orderly c)
    (hstep : SocketStep text hooks c e c') (ha : c'.alive = true) (hstarted : c'.started = false) :
    Unstarted c' := by
  have hun := horder.unstarted
  cases hstep with
  | passedOn _ => exact hun hstarted
  | ended _ hdown => simp [hdown.alive] at ha
  | start _ hexit => exact absurd (hstarted.symm.trans (hexit.hands ha).started) Bool.false_ne_true
  | webSocketFactoryRun _ hexit =>
    exact absurd (hstarted.symm.trans (hexit.hands ha).started) Bool.false_ne_true
  | onBeforeSendHeaders hreceiver hexit =>
    have hnone := (hun ((hexit.hands ha).started.symm.trans hstarted)).receiver
    simp [hnone] at hreceiver
  | onHeadersReceived hreceiver hexit =>
    have hnone := (hun ((hexit.started ha).symm.trans hstarted)).receiver
    simp [hnone] at hreceiver
  | refusedBeforeSend _ _ hdown => simp [hdown.alive] at ha
  | answerBeforeSend hcall _ hexit =>
    have hnone := (hun ((hexit.hands ha).started.symm.trans hstarted)).awaitedBeforeSend
    simp [hnone] at hcall
  | answerHeaders hcall =>
    have hnone := (hun hstarted).awaitedHeaders
    simp [hnone] at hcall
  | failedHook _ _ hdown => simp [hdown.alive] at ha
  | @resumeHook _ _ _ _ k _ hk _ hexit =>
    have hsame : c'.started = c.started := by
      rcases hcall : k.headersCall with _ | n
      · exact (hexit.hands hcall ha).started
      · cases hexit with
        | asked => rfl
        | requested _ => rfl
        | ask _ => cases hcall
        | reply _ => cases hcall
    have hnone := (hun (hsame.symm.trans hstarted)).continuations
    simp [hnone] at hk

theorem Orderly.step {e : WebSocketEvent Ω} (h : Orderly c) (hstep : SocketStep text hooks c e c')
    (ha : c'.alive = true) : Orderly c' :=
  ⟨h.frame_step hstep ha, h.unstarted_step hstep ha⟩

end Steps

/-! ## Every run -/

section Runs
variable {Ω : Type} {text : HeaderText} {hooks : Hooks Ω} {request : ResourceRequest}
  {processId frameTreeNodeId : Int} {s : WebSocketSlot}

/-- The receivers are bound where an event relies on them. -/
theorem HandshakeOrder.bound (h : HandshakeOrder s.core.frame) {e : WebSocketEvent Ω}
    (hen : e.isEnabled s = true) (huses : e.UsesReceivers s) : s.Bound := by
  have hbound : s.object.receiverAsHeaderClient.isBound = true := by
    have hpaused (hreceiver : s.core.frame.headers.receiver = .bound true) :
        s.object.receiverAsHeaderClient.isBound = true :=
      congrArg Receiver.isBound hreceiver
    cases e with
    | onHeadersReceived headers remoteEndpoint ω =>
      have hreceiver : s.object.receiverAsHeaderClient = .bound false := by
        simp only [WebSocketEvent.isEnabled, Bool.and_eq_true, decide_eq_true_eq] at hen
        exact hen.2
      rw [hreceiver, Receiver.isBound]
    | answerHeaders place errorCode headers url =>
      have hplace : place < s.awaitedHeaders.length := by
        simp only [WebSocketEvent.isEnabled, Bool.and_eq_true, decide_eq_true_eq] at hen
        exact hen.2
      have hcall : s.awaitedHeaders[place] ∈ s.core.frame.headers.awaited := List.getElem_mem hplace
      exact hpaused (h.phase.of_awaited hcall).1
    | resumeHook place errorCode writes ω =>
      obtain ⟨n, hk⟩ := huses
      have hcall : n ∈ s.core.frame.headers.pending :=
        List.mem_filterMap.2 ⟨_, List.mem_of_getElem? hk, rfl⟩
      exact hpaused (h.phase.of_pending hcall).1
    | _ => exact huses.elim
  have hreceiver : s.core.frame.headers.receiver ≠ .unbound := fun hunbound => by
    have hreceiver : s.object.receiverAsHeaderClient = .unbound := hunbound
    simp [hreceiver, Receiver.isBound] at hbound
  obtain ⟨hextra, hhandshake, -⟩ := h.receivers hreceiver
  exact ⟨hextra, hhandshake, hbound⟩

/-- With a proxy that is gone, only suspended hooks end. -/
theorem run_dead {e : WebSocketEvent Ω} (hdead : s.alive = false) (hen : e.isEnabled s = true) :
    wp (e.run text hooks) (fun _ => True)
    (fun _ s' => ∃ ks, s'.core = { s.core with continuations := ks }) s := by
  cases e with
  | resumeHook place errorCode writes ω =>
    have hplace : place < s.continuations.length := by simpa [WebSocketEvent.isEnabled] using hen
    have hgone : (!s.alive) = true := by simp [hdead]
    simp only [WebSocketEvent.run, resumeSocketHook, wp_bind, wp_get,
      List.getElem?_eq_getElem hplace, wp_modify, if_pos hgone]
    exact ⟨_, rfl⟩
  | _ => simp [WebSocketEvent.isEnabled, hdead] at hen

theorem run_of_exec {e : WebSocketEvent Ω} {s' : WebSocketSlot}
    (hex : (webSocketSystem text hooks request processId frameTreeNodeId).exec s e = .ok s') :
    e.run text hooks s = .ok ((), s') := by
  simp only [webSocketSystem] at hex
  cases hrun : e.run text hooks s with
  | error fault => simp [hrun, Except.map] at hex
  | ok r => simpa [hrun, Except.map, Prod.ext_iff] using hex

theorem exec_of_run {e : WebSocketEvent Ω} {s' : WebSocketSlot} {a : Unit}
    (hrun : e.run text hooks s = .ok (a, s')) :
    (webSocketSystem text hooks request processId frameTreeNodeId).exec s e = .ok s' := by
  simp only [webSocketSystem, hrun, Except.map]

/-- An event of an orderly handshake is a step of the protocol. -/
theorem step_of_exec {e : WebSocketEvent Ω} {s' : WebSocketSlot} (h : Orderly s.core)
    (ha : s.alive = true) (hen : e.isEnabled s = true)
    (hex : (webSocketSystem text hooks request processId frameTreeNodeId).exec s e = .ok s') :
    SocketStep text hooks s.core e s'.core :=
  wp_ok (run_step ⟨ha, h.frame.onDisconnect⟩ e hen (h.frame.bound hen)) (run_of_exec hex)

/-- **Orderly handshakes.** What holds at first, and is kept by the steps of an orderly handshake
and by the end of what was suspended when the proxy was torn down, holds in every run, and so does
the order. -/
theorem socket_invariant {C : WebSocketSlot → WebSocketEvent Ω → Prop} {I : SocketCore → Prop}
    (hinit : I (webSocketSystem text hooks request processId frameTreeNodeId).init.core)
    (hstep : ∀ s e c', I s.core → Orderly s.core → s.core.alive = true → C s e →
      SocketStep text hooks s.core e c' → I c')
    (hdead : ∀ c ks, I c → c.alive = false → I { c with continuations := ks })
    (h : (webSocketSystem text hooks request processId frameTreeNodeId).Reach C s) :
    I s.core ∧ (s.alive = true → Orderly s.core) := by
  refine h.invariant (I := fun s => I s.core ∧ (s.alive = true → Orderly s.core)) ⟨hinit, fun _ =>
    ⟨?_, fun _ => ?_⟩⟩ ?_
  · refine ⟨rfl, rfl, fun hbound => absurd rfl hbound, .idle ?_ rfl rfl rfl rfl⟩
    exact Receiver.unbound_ne_paused
  · exact ⟨rfl, rfl, rfl, rfl⟩
  · rintro s e s' ⟨hI, horder⟩ hen hC hex
    rcases ha : s.alive with _ | _
    · obtain ⟨ks, hcore⟩ := wp_ok (run_dead ha hen) (run_of_exec hex)
      rw [hcore]
      have hgone : s'.alive = false := (congrArg SocketCore.alive hcore).trans ha
      exact ⟨hdead _ ks hI ha, fun hlive => absurd (hgone.symm.trans hlive) Bool.false_ne_true⟩
    · have hcore := step_of_exec (horder ha) ha hen hex
      exact ⟨hstep s e _ hI (horder ha) ha hC hcore, fun hlive => (horder ha).step hcore hlive⟩

end Runs

end DumbBrowser
