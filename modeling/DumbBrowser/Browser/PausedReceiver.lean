import DumbBrowser.Browser.RequestMembers

/-!
# The paused receiver

While a hook blocks a request, the network's messages wait in the paused receiver.

* `paused_receiver` : the receiver is paused exactly while a hook blocks, and is resumed when the
  hook has answered.
-/

namespace DumbBrowser

open NetError Exec

/-- A receiver is paused only for a hook, and what a suspended hook delivers is there. -/
structure Waits (c : Core) : Prop where
  resumed : c.continuations = [] → c.receiver ≠ .bound true
  delivers : ∀ k ∈ c.continuations, k.hookPoint = .headersReceived →
    c.receiver.isBound = true ∧ c.currentResponse.isSome = true

namespace Waits

variable {c c' : Core}

/-- Nothing is suspended. -/
theorem of_resumed (hnone : c.continuations = []) (hreceiver : c.receiver ≠ .bound true) : Waits c :=
  ⟨fun _ => hreceiver, fun k hk => by simp [hnone] at hk⟩

theorem removed {out : List ClientMessage} (hr : Removed c c' out) : c'.alive = true →
    Waits c' := fun ha => by
  simp [hr.alive] at ha

theorem startExit (hnone : c.continuations = []) {factoryBound : Bool}
    (hc : StartExit factoryBound c c') :
    c'.alive = true → Waits c' := by
  cases hc with
  | removed _ hr => exact removed hr
  | mockFailed _ hr => exact removed hr
  | mocked => exact fun _ => of_resumed hnone (Receiver.resumed_ne_paused _)
  | redirected _ _ => exact fun _ => of_resumed hnone Receiver.unbound_ne_paused
  | @suspended k hk =>
    have hone : (c.suspended k).continuations = [k] := by
      rw [Core.suspended, hnone, List.nil_append]
    refine fun _ => ⟨fun hempty => by simp [hone] at hempty, fun k' hk' hpoint => ?_⟩
    rw [hone, List.mem_singleton] at hk'
    exact absurd (hk' ▸ hpoint) hk
  | started _ =>
    refine fun _ => of_resumed hnone ?_
    simp only [Core.started]
    split
    · exact Receiver.receiving_ne_paused
    · exact Receiver.resumed_ne_paused _

theorem deliverExit (hnone : c.continuations = []) {lib : NetLibrary} {k : Continuation}
    (hc : DeliverExit lib c k c') :
    c'.alive = true → Waits c' := by
  cases hc with
  | removed _ hr => exact removed hr
  | response _ _ => exact fun _ => of_resumed hnone Receiver.receiving_ne_paused
  | overrideRedirect _ _ _ _ => exact fun _ => of_resumed hnone Receiver.unbound_ne_paused
  | redirect => exact fun _ => of_resumed hnone (Receiver.resumed_ne_paused _)

variable {Ω : Type} {lib : NetLibrary} {hooks : Hooks Ω} {factoryBound : Bool}
  {request : ResourceRequest}

theorem headersExit (hnone : c.continuations = []) {env : Env Ω}
    {head : StoredHead} {k : Continuation} (hc : HeadersExit lib hooks env c head k c') :
    c'.alive = true → Waits c' := by
  cases hc with
  | @suspended outcome _ _ hbound =>
    have hone : ((c.seen head outcome).suspended k).continuations = [k] := by
      simp [Core.suspended, Core.seen, Core.storedHead, hnone]
    refine fun _ => ⟨fun hempty => by simp [hone] at hempty, fun _ _ _ => ⟨?_, rfl⟩⟩
    exact congrArg Receiver.isBound (Receiver.paused_of_isBound hbound)
  | @delivered outcome _ _ hdeliver => exact deliverExit (c := c.seen head outcome) hnone hdeliver

theorem step {s : Slot} (h : Waits s.core) (hphase : Phase s.core) {e : RequestEvent Ω}
    (hpolite : Polite s e) (hc : CoreStep lib hooks factoryBound request s.core e c') :
    c'.alive = true → Waits c' := by
  cases hc with
  | silent _ => exact fun _ => h
  | passed _ => exact fun _ => ⟨h.resumed, h.delivers⟩
  | followRedirect hstart =>
    exact startExit (c := { s.core with trace := s.core.trace ++ [.followRedirect _] })
      (hphase.none_of_owes hpolite) hstart
  | clientDisconnect _ hr => exact removed hr
  | onReceiveResponse hreceiver hheaders =>
    exact headersExit (hphase.of_receiving hreceiver hpolite).2 hheaders
  | onReceiveRedirect hreceiver hheaders =>
    exact headersExit (c := { s.core with loaderAwaits := true })
      (hphase.of_receiving hreceiver hpolite).2 hheaders
  | onComplete _ hr => exact removed hr
  | @resumeHook place env k override _ hk _ hcontinue =>
    obtain ⟨-, hnone, -⟩ := hphase.of_resumed hk
    let c : Core := { s.core with
      continuations := s.core.continuations.eraseIdx place, overrideHeaders := override }
    cases hcontinue with
    | start _ hstart => exact startExit (c := c) hnone hstart
    | deliver _ hdeliver => exact deliverExit (c := c) hnone hdeliver
  | onWrite => exact fun _ => ⟨h.resumed, h.delivers⟩
  | onWriteComplete _ hr => exact removed hr

end Waits

/-! ## Every run -/

section Runs
variable {Ω : Type} {lib : NetLibrary} {hooks : Hooks Ω} {renderProcessId frameTreeNodeId : Int}
  {generator : UInt64} {w : ProxyWorld} {p : Ptr} {s : Slot}

theorem waits_of_reach (h : (proxySystem lib hooks renderProcessId frameTreeNodeId generator).Reach
      (OnRequests Polite) w)
    (hs : w.slots p = some s) (ha : s.alive = true) : Phase s.core ∧ Waits s.core := by
  have hI : InOrder s.core ∧ (s.core.alive = true → Waits s.core) := by
    refine slot_invariant (I := fun c => InOrder c ∧ (c.alive = true → Waits c)) ?_ ?_ ?_ h hs
    · exact fun _ _ hstart => ⟨.startExit InOrder.fresh.order rfl rfl hstart, .startExit rfl hstart⟩
    · exact fun s e _ _ hI ha hpolite hc =>
        ⟨hI.1.step ha hpolite hc, (hI.2 ha).step (hI.1.phase ha) hpolite hc⟩
    · rintro c _ hI hdead ⟨ks, ws, rfl⟩
      have hgone : c.alive ≠ true := by simp [hdead]
      exact ⟨⟨hI.1.order, fun ha => absurd ha hgone⟩, fun ha => absurd ha hgone⟩
  exact ⟨hI.1.phase ha, hI.2 ha⟩

theorem delivers_of_reach (h : (proxySystem lib hooks renderProcessId frameTreeNodeId
      generator).Reach (OnRequests Polite) w)
    (hs : w.slots p = some s) (ha : s.alive = true) : ∀ k ∈ s.core.continuations, s.Delivers k := by
  rintro k hk rfl
  exact (waits_of_reach h hs ha).2.delivers _ hk rfl

theorem Phase.atMostOne {c : Core} (h : Phase c) :
    c.continuations = [] ∨ ∃ k, c.continuations = [k] ∧ c.receiver ≠ .bound false := by
  cases h with
  | waiting _ hnone _ => exact Or.inl hnone
  | running _ hnone => exact Or.inl hnone
  | suspended _ hone hpaused _ => exact Or.inr ⟨_, hone, hpaused⟩

/-- Messages of the network loader. -/
def RequestEvent.fromNetwork : RequestEvent Ω → Bool
  | onReceiveEarlyHints | onReceiveResponse .. | onReceiveRedirect .. | onUploadProgress ..
      | onReceiveCachedMetadata _ |
    onTransferSizeUpdated _ | onStartLoadingResponseBody | onComplete _ => true
  | followRedirect .. | setPriority .. | pauseReadingBodyFromNet | resumeReadingBodyFromNet
      | clientDisconnect |
    resumeHook .. | onWrite .. => false

/-- The ends of a suspended hook: the request is removed, or its receiver is resumed or reset; or
the receiver has been resumed, and then paused for the hook before the start. -/
def Resumes (s s' : Slot) : Prop :=
  s'.alive = false ∨ s'.object.proxiedClientReceiver ≠ .bound true ∨
    (s.core.continuations = [.continueToBeforeSendHeaders] ∧
      s'.core.continuations = [.continueToSendHeaders])

/-- Once the hook has answered, the request waits for no other but the one before the start. -/
theorem resumes_of_keeps {f₁ f' : Frame} {x : Suspended}
    (hone : s.core.continuations = [x.continuation]) (hnone : f₁.slot.core.continuations = [])
    (hkeeps : Keeps hooks x.continuation.followers f₁ f')
    (hwaits : f'.slot.alive = true → Waits f'.slot.core) : Resumes s f'.slot := by
  rcases ha : f'.slot.alive with _ | _
  · exact Or.inl ha
  rcases hkeeps.suspended with hsame | ⟨k, hk, -, hadded⟩
  · exact Or.inr (Or.inl ((hwaits ha).resumed (hsame.trans hnone)))
  · rw [hnone, List.nil_append] at hadded
    obtain ⟨hx, rfl⟩ : x.continuation = .continueToBeforeSendHeaders ∧
      k = .continueToSendHeaders := by
      cases hx : x.continuation <;> simp [hx, Continuation.followers] at hk
      exact ⟨rfl, hk⟩
    exact Or.inr (Or.inr ⟨hx ▸ hone, hadded⟩)

theorem resumeHook_resumes (h : (proxySystem lib hooks renderProcessId frameTreeNodeId
      generator).Reach (OnRequests Polite) w)
    (hs : w.slots p = some s) (ha : s.alive = true) {place : Nat} {env : Env Ω}
    (hplace : place < s.continuations.length) :
    ∃ w' s', w.exec lib hooks (.request p (.resumeHook place env)) = .ok w' ∧
    w'.slots p = some s' ∧ Resumes s s' := by
  obtain ⟨hphase, hwaits⟩ := waits_of_reach h hs ha
  have hready := (Reachable.consistent h.reachable).ready hs ha
  have hget := List.getElem?_eq_getElem hplace
  have hk : s.core.continuations[place]? = some s.continuations[place].continuation := by
    simp [Slot.core, hplace]
  obtain ⟨-, hnone, -⟩ := hphase.of_resumed hk
  have hone : s.core.continuations = [s.continuations[place].continuation] := by
    rcases hphase.atMostOne with hempty | ⟨k, hone, -⟩
    · simp [hempty] at hk
    · obtain ⟨rfl, rfl⟩ : place = 0 ∧ k = _ := by simpa [hone, List.getElem?_singleton] using hk
      exact hone
  have hctx := ctx_of_reach (fun _ hw _ _ hs ha => delivers_of_reach hw hs ha) h hs ha
  have hdelivers := delivers_of_reach h hs ha _ (List.mem_of_getElem? hk)
  obtain ⟨_, f', hrun, writes, hkeeps⟩ :=
    wp_total (@resumed_keeps Ω lib hooks p _ hready hctx place _ hget env hdelivers)
  have hstep := (wp_ok (RequestEvent.run_spec hready (.resumeHook place env)
    (decide_eq_true hplace)) hrun).1
  refine ⟨{ factory := f'.factory, slots := Function.update w.slots p (some f'.slot) }, f'.slot, ?_,
    Function.update_self .., ?_⟩
  · simp only [ProxyWorld.exec, hs, ProxyWorld.runAt, hrun]
  · have hpolite : Polite s (.resumeHook place env : RequestEvent Ω) := trivial
    refine resumes_of_keeps hone ?_ hkeeps (hwaits.step hphase hpolite hstep)
    exact (List.eraseIdx_map ..).symm.trans hnone

/-- **A receiver is paused exactly while a hook blocks its request**: no message of the network is
processed meanwhile, and the end of the hook resumes or resets the receiver or removes the request,
unless the next hook blocks it. -/
theorem paused_receiver (h : (proxySystem lib hooks renderProcessId frameTreeNodeId generator).Reach
      (OnRequests Polite) w)
    (hs : w.slots p = some s) (ha : s.alive = true) :
    (s.object.proxiedClientReceiver = .bound true ↔
      s.object.proxiedClientReceiver.isBound = true ∧ s.continuations.length = 1) ∧
    (∀ e : RequestEvent Ω, e.fromNetwork = true → e.isEnabled s = true → s.continuations = []) ∧
    ∀ place env, (RequestEvent.resumeHook place env : RequestEvent Ω).isEnabled s = true →
      ∃ w' s', w.exec lib hooks (.request p (.resumeHook place env)) = .ok w' ∧
        w'.slots p = some s' ∧ Resumes s s' := by
  obtain ⟨hphase, hwaits⟩ := waits_of_reach h hs ha
  have hlength : s.core.continuations.length = s.continuations.length := List.length_map _
  refine ⟨?_, fun e hnetwork hen => ?_, fun place env hen =>
    resumeHook_resumes h hs ha (of_decide_eq_true hen)⟩
  · rcases hphase.atMostOne with hnone | ⟨k, hone, hpaused⟩
    · rw [← hlength, hnone]
      exact ⟨fun hbound => absurd hbound (hwaits.resumed hnone), fun hone =>
        absurd hone.2 Nat.zero_ne_one⟩
    · rw [← hlength, hone]
      refine ⟨fun hbound => ⟨by rw [hbound, Receiver.isBound], rfl⟩, fun hbound => ?_⟩
      rcases hreceiver : s.object.proxiedClientReceiver with _ | paused
      · simp [hreceiver, Receiver.isBound] at hbound
      · cases paused with
        | false => exact absurd hreceiver hpaused
        | true => rfl
  · have hreceiver : s.core.receiver = .bound false := by
      cases e <;> first | exact receiver_of_enabled (f := ⟨w.factory, s⟩) hen | cases hnetwork
    rcases hphase.atMostOne with hnone | ⟨k, -, hpaused⟩
    · exact List.map_eq_nil_iff.1 hnone
    · exact absurd hreceiver hpaused

end Runs

/-- Hooks of which the one for the response headers blocks when the outside world says so. -/
def headersHooks : Hooks Bool where
  onBeforeURLRequest _ _ := { result := .ok }
  onBeforeStartTransaction _ _ _ := { result := .ok }
  onHeadersReceived blocks _ _ := { result := if blocks then .ioPending else .ok }
  resume _ _ := (OK, {})

/-- The hook for a response blocks, and lets it pass. -/
theorem paused_receiver_response : ∃ w, (proxySystem plainLibrary headersHooks 0 0 0).Reach
    (OnRequests Polite) w ∧
    ∃ s, w.slots 0 = some s ∧ s.object.proxiedClientReceiver = .bound true ∧
      ∃ w' s', w.exec plainLibrary headersHooks (.request 0 (.resumeHook 0 ⟨true, true⟩)) = .ok w' ∧
        w'.slots 0 = some s' ∧ Resumes s s' := by
  have h := System.reach_of_replay (S := proxySystem plainLibrary headersHooks 0 0 0)
    (C := OnRequests Polite)
    [.createLoaderAndStart 0 1 0 pageRequest 0 ⟨false, true⟩,
      .request 0 (.onReceiveResponse {} ⟨true, true⟩)] rfl
  obtain ⟨hpaused, -, hresume⟩ := paused_receiver h (p := 0) rfl rfl
  exact ⟨_, h, _, rfl, hpaused.2 ⟨rfl, rfl⟩, hresume 0 ⟨true, true⟩ rfl⟩

/-- A network loader that does not wait for `FollowRedirect`: the client's answer to the redirect
resumes the receiver while the hook for the response blocks. -/
theorem resumed_while_blocked : ∃ w, (proxySystem plainLibrary headersHooks 0 0 0).Reach
    (OnRequests OneFinalHead) w ∧
    ∃ s, w.slots 0 = some s ∧ s.alive = true ∧
      ¬ (s.object.proxiedClientReceiver = .bound true ↔
        s.object.proxiedClientReceiver.isBound = true ∧ s.continuations.length = 1) := by
  have h := System.reach_of_replay (S := proxySystem plainLibrary headersHooks 0 0 0)
    (C := OnRequests OneFinalHead)
    [.createLoaderAndStart 0 1 0 pageRequest 0 ⟨false, true⟩,
      .request 0 (.onReceiveRedirect pageRedirect {} ⟨false, true⟩),
      .request 0 (.onReceiveResponse {} ⟨true, true⟩),
        .request 0 (.followRedirect {} ⟨false, true⟩)] rfl
  exact ⟨_, h, _, rfl, rfl, fun hiff => absurd (hiff.2 ⟨rfl, rfl⟩) Receiver.receiving_ne_paused⟩

end DumbBrowser
