import DumbBrowser.Browser.HandshakePassage
import DumbBrowser.Browser.ShownHeaders

/-!
# The stages of a handshake

The network is asked once, and its messages end with the one that ends the proxy.

* `handshake_once` : one request, for the URL of the renderer, and then the messages of one
  handshake.
* `handshake_fails_iff` : the checks that can fail, for a WebSocket URL.
* `unrequested`, `unsent_headers` : what the hooks do not let pass is not passed on.
-/

namespace DumbBrowser

open NetError Exec

/-! ## Stages -/

/-- The continuation leads to the request, with a downstream client or without. -/
def WebSocketContinuation.startsRequest (extraHeaders : Bool) : WebSocketContinuation → Bool
  | continueToStartRequest => extraHeaders
  | onBeforeRequestComplete | onBeforeSendHeadersComplete => !extraHeaders
  | onHeadersReceivedComplete _ => false

/-- The request has not been made, and nothing is bound to the network. -/
structure Passage.Unasked (p : Passage) : Prop where
  factory : p.factory = true
  requests : p.requests = []
  handshake : p.handshake = []
  handshakeReceiver : p.handshakeReceiver = false
  headerReceiver : p.headerReceiver = false
  authReceiver : p.authReceiver = false
  awaited : p.awaitedBeforeSend = []

/-- The request has been made, and nothing will make it again. -/
structure Passage.Asked (p : Passage) : Prop where
  started : p.started = true
  factory : p.factory = false
  once : p.requests.length = 1
  unstarting : .continueToStartRequest ∉ p.continuations
  alone : p.extraHeaders = false → p.headerReceiver = false ∧ p.awaitedBeforeSend = [] ∧
    p.continuations = []

/-- Where the request to the network is. -/
inductive Stage (p : Passage) : Prop
  | unstarted (h : p.Unasked) (hstarted : p.started = false) (hnone : p.continuations = [])
  | waiting (h : p.Unasked) (k : WebSocketContinuation) (hstarted : p.started = true)
      (hone : p.continuations = [k])
      (hk : k.startsRequest p.extraHeaders = true)
  | asked (h : p.Asked)

theorem Stage.provided {p : Passage} (h : Stage p) : p.Provided := by
  have hprovides (h : p.Unasked) : p.Provides := ⟨h.factory, h.handshakeReceiver⟩
  cases h with
  | unstarted h _ _ =>
    exact ⟨fun _ => hprovides h, fun _ => hprovides h, fun _ =>
      ⟨h.headerReceiver, h.awaited, fun _ => hprovides h⟩⟩
  | waiting h _ _ _ _ =>
    exact ⟨fun _ => hprovides h, fun _ => hprovides h, fun _ =>
      ⟨h.headerReceiver, h.awaited, fun _ => hprovides h⟩⟩
  | asked h =>
    refine ⟨fun hstarted => ?_, fun hstart => absurd hstart h.unstarting, fun halone => ?_⟩
    · rw [h.started] at hstarted
      cases hstarted
    · obtain ⟨hreceiver, hawaited, hnone⟩ := h.alone halone
      exact ⟨hreceiver, hawaited, fun hne => absurd hnone hne⟩

section Steps
variable {Ω : Type} {hooks : Hooks Ω} {p p' : Passage}

/-! ## The request -/

/-- A proxy that is about to make the request, with no continuation. -/
structure Passage.Poised (p : Passage) : Prop where
  unasked : p.Unasked
  started : p.started = true
  continuations : p.continuations = []

theorem Passage.Poised.suspended (h : p.Poised) {k : WebSocketContinuation}
    (hk : k.startsRequest p.extraHeaders = true) :
    Stage (p.suspended k) := by
  refine .waiting ?_ k h.started ?_ hk
  · exact ⟨h.unasked.1, h.unasked.2, h.unasked.3, h.unasked.4, h.unasked.5,
      h.unasked.6, h.unasked.7⟩
  · simp [Passage.suspended, h.continuations]

theorem Passage.Poised.requested (h : p.Poised) (headers : HttpRequestHeaders) :
    Stage (p.requested headers) := by
  refine .asked ⟨h.started, rfl, ?_, ?_, fun halone => ?_⟩
  · simp [Passage.requested, h.unasked.requests]
  · simp [Passage.requested, h.continuations]
  · have hextra : p.extraHeaders = false := halone
    exact ⟨by simp [Passage.requested, hextra, h.unasked.headerReceiver], h.unasked.awaited, h.continuations⟩

theorem Passage.Poised.reply (h : p.Poised) (halone : p.extraHeaders = false)
    (hreply : ReplyPassage p p') : Stage p' := by
  cases hreply with
  | replied hextra => exact absurd (halone.symm.trans hextra) Bool.false_ne_true
  | requested _ => exact h.requested _

theorem Passage.Poised.transaction (h : p.Poised) (halone : p.extraHeaders = false)
    (htransaction : TransactionPassage hooks p p') (ha : p'.alive = true) : Stage p' := by
  cases htransaction with
  | gone => cases ha
  | suspended => exact h.suspended (by simp [WebSocketContinuation.startsRequest, halone])
  | replied _ hreply => exact h.reply halone hreply

theorem Passage.Poised.start (h : p.Poised) (hstart : StartPassage hooks p p')
    (ha : p'.alive = true) : Stage p' := by
  cases hstart with
  | gone => cases ha
  | suspended =>
    refine h.suspended ?_
    unfold Passage.startContinuation
    split <;> simp_all [WebSocketContinuation.startsRequest]
  | requested _ _ => exact h.requested _
  | unasked _ halone htransaction => exact h.transaction halone htransaction ha

theorem Passage.Poised.resume (h : p.Poised) {k : WebSocketContinuation}
    (hk : k.startsRequest p.extraHeaders = true) (hresume : ResumePassage hooks p k p')
    (ha : p'.alive = true) : Stage p' := by
  cases hresume with
  | requested => exact h.requested _
  | ask hask =>
    have halone : p.extraHeaders = false := by simpa [WebSocketContinuation.startsRequest] using hk
    exact h.transaction halone (hask.of_alone halone) ha
  | reply hreply => exact h.reply (by simpa [WebSocketContinuation.startsRequest] using hk) hreply
  | asked => simp [WebSocketContinuation.startsRequest] at hk

/-! ## After the request -/

theorem Passage.Asked.extra (h : p.Asked)
    (hbusy : p.headerReceiver = true ∨ p.awaitedBeforeSend ≠ [] ∨ p.continuations ≠ []) :
    p.extraHeaders = true := by
  by_contra halone
  obtain ⟨hreceiver, hawaited, hnone⟩ := h.alone (Bool.eq_false_iff.2 halone)
  rcases hbusy with hbound | hasked | hsome
  · exact absurd (hreceiver.symm.trans hbound) Bool.false_ne_true
  · exact hasked hawaited
  · exact hsome hnone

/-- After the request, continuations that do not make it may come and go. -/
theorem Passage.Asked.of_eq (h : p.Asked) (hextra : p.extraHeaders = true)
    (hstarted : p'.started = p.started) (hfactory : p'.factory = p.factory)
    (hrequests : p'.requests = p.requests) (hproxied : p'.extraHeaders = p.extraHeaders)
    (hunstarting : .continueToStartRequest ∉ p'.continuations) : p'.Asked := by
  refine ⟨hstarted.trans h.started, hfactory.trans h.factory, hrequests ▸ h.once,
    hunstarting, fun halone => ?_⟩
  exact absurd (halone.symm.trans (hproxied.trans hextra)) Bool.false_ne_true

theorem Passage.Asked.suspended (h : p.Asked) (hextra : p.extraHeaders = true)
    {k : WebSocketContinuation} (hk : k ≠ .continueToStartRequest) : (p.suspended k).Asked := by
  refine h.of_eq hextra rfl rfl rfl rfl fun hmem => ?_
  rcases List.mem_append.1 hmem with hold | hnew
  · exact h.unstarting hold
  · exact hk (List.mem_singleton.1 hnew).symm

theorem Passage.Asked.reply (h : p.Asked) (hextra : p.extraHeaders = true)
    (hreply : ReplyPassage p p') : p'.Asked := by
  cases hreply with
  | replied _ => exact h
  | requested halone => exact absurd (halone.symm.trans hextra) Bool.false_ne_true

theorem Passage.Asked.transaction (h : p.Asked) (hextra : p.extraHeaders = true)
    (htransaction : TransactionPassage hooks p p') (ha : p'.alive = true) : p'.Asked := by
  cases htransaction with
  | gone => cases ha
  | suspended =>
    exact h.suspended hextra (k := .onBeforeSendHeadersComplete) (fun hstart => by cases hstart)
  | replied _ hreply => exact h.reply hextra hreply

theorem Passage.Asked.ask (h : p.Asked) (hextra : p.extraHeaders = true) {call : Option Nat}
    (hask : AskPassage hooks p call p') : p'.Asked := by
  cases hask with
  | asked _ => exact h.of_eq hextra rfl rfl rfl rfl h.unstarting
  | unasked halone _ => exact absurd (halone.symm.trans hextra) Bool.false_ne_true

theorem Passage.Asked.resume (h : p.Asked) (hextra : p.extraHeaders = true)
    {k : WebSocketContinuation} (hk : k ≠ .continueToStartRequest)
    (hresume : ResumePassage hooks p k p') : p'.Asked := by
  cases hresume with
  | requested => exact absurd rfl hk
  | ask hask => exact h.ask hextra hask
  | reply hreply => exact h.reply hextra hreply
  | asked => exact h

/-! ## Every event -/

theorem Stage.started_of_none (h : Stage p) (hstarted : p.started = false) :
    p.Unasked ∧ p.continuations = [] := by
  cases h with
  | unstarted h _ hnone => exact ⟨h, hnone⟩
  | waiting _ _ hyes _ _ => exact absurd (hstarted.symm.trans hyes) Bool.false_ne_true
  | asked h => exact absurd (hstarted.symm.trans h.started) Bool.false_ne_true

/-- What is bound to the network is so by the request. -/
theorem Stage.asked_of_bound (h : Stage p)
    (hbound : p.handshakeReceiver = true ∨ p.headerReceiver = true ∨
    p.authReceiver = true ∨ p.awaitedBeforeSend ≠ []) : p.Asked := by
  have hno (hunasked : p.Unasked) : False := by
    obtain ⟨-, -, -, hhandshake, hheader, hauth, hawaited⟩ := hunasked
    simp [hhandshake, hheader, hauth, hawaited] at hbound
  cases h with
  | unstarted h _ _ => exact (hno h).elim
  | waiting h _ _ _ _ => exact (hno h).elim
  | asked h => exact h

theorem Stage.step {e : WebSocketEvent Ω} (h : Stage p) (hstep : PassageStep hooks p e p')
    (ha : p'.alive = true) : Stage p' := by
  cases hstep with
  | handshakeClient =>
    cases h with
    | unstarted h hstarted hnone => exact .unstarted { h with } hstarted hnone
    | waiting h k hstarted hone hk => exact .waiting { h with } k hstarted hone hk
    | asked h => exact .asked { h with }
  | start hstarted hstart =>
    obtain ⟨hunasked, hnone⟩ := h.started_of_none hstarted
    refine Passage.Poised.start ?_ hstart ha
    exact ⟨{ hunasked with }, rfl, hnone⟩
  | webSocketFactoryRun hstarted hstart =>
    obtain ⟨hunasked, hnone⟩ := h.started_of_none hstarted
    refine Passage.Poised.start ?_ hstart ha
    exact ⟨{ hunasked with }, rfl, hnone⟩
  | opened hbound =>
    have hasked := h.asked_of_bound (.inl hbound)
    exact .asked { hasked with }
  | onFailure => exact h
  | ended _ _ _ => cases ha
  | closed _ => cases ha
  | onAuthRequired hbound =>
    have hasked := h.asked_of_bound (.inr (.inr (.inl hbound)))
    exact .asked { hasked with }
  | onBeforeSendHeaders hbound hask =>
    have hasked := h.asked_of_bound (.inr (.inl hbound))
    exact .asked (hasked.ask (hasked.extra (.inl hbound)) hask)
  | onHeadersReceived hbound hexit =>
    have hasked := h.asked_of_bound (.inr (.inl hbound))
    rcases hexit with rfl | ⟨call, rfl⟩ | rfl
    · cases ha
    · exact .asked (hasked.suspended (hasked.extra (.inl hbound)) fun hstart => by cases hstart)
    · exact .asked hasked
  | refusedBeforeSend => cases ha
  | @answerBeforeSend place _ _ _ _ hplace htransaction =>
    have hsome : p.awaitedBeforeSend ≠ [] := List.ne_nil_of_length_pos (by omega)
    have hasked := h.asked_of_bound (.inr (.inr (.inr hsome)))
    have hextra := hasked.extra (.inr (.inl hsome))
    refine .asked (Passage.Asked.transaction ?_ ?_ htransaction ha)
    · exact hasked.of_eq hextra rfl rfl rfl rfl hasked.unstarting
    · exact hextra
  | answerHeaders => exact h
  | failedHook => cases ha
  | @resumeHook place writes ω k _ hk hresume =>
    have hmem : k ∈ p.continuations := List.mem_of_getElem? hk
    cases h with
    | unstarted _ _ hnone => simp [hnone] at hmem
    | waiting h k' hstarted hone hk' =>
      rw [hone, List.getElem?_singleton] at hk
      split at hk
      · next hplace =>
        obtain rfl := Option.some.inj hk
        refine Passage.Poised.resume ?_ ?_ hresume ha
        · exact ⟨{ h with }, hstarted, by simp [hone, hplace]⟩
        · exact hk'
      · cases hk
    | asked h =>
      have hextra := h.extra (.inr (.inr (List.ne_nil_of_mem hmem)))
      refine .asked (Passage.Asked.resume ?_ ?_ (fun hstart =>
        h.unstarting (hstart ▸ hmem)) hresume)
      · exact h.of_eq hextra rfl rfl rfl rfl fun hstart =>
          h.unstarting (List.mem_of_mem_eraseIdx hstart)
      · exact hextra

/-! ## What has passed -/

/-- No message of the network is passed on, and at most one request is made. -/
structure Passage.Requests (p p' : Passage) : Prop where
  url : p'.url = p.url
  handshake : p'.handshake = p.handshake
  requests : p'.requests = p.requests ∨ p'.alive = p.alive ∧ ∃ r, r.url = p.url ∧
    p'.requests = p.requests ++ [r]

theorem Passage.Requests.requested (p : Passage) (headers : HttpRequestHeaders) :
    p.Requests (p.requested headers) :=
  ⟨rfl, rfl, .inr ⟨rfl, _, rfl, rfl⟩⟩

theorem ReplyPassage.requests (h : ReplyPassage p p') : p.Requests p' := by
  cases h with
  | replied _ => exact ⟨rfl, rfl, .inl rfl⟩
  | requested _ => exact .requested p _

theorem TransactionPassage.requests (h : TransactionPassage hooks p p') : p.Requests p' := by
  cases h with
  | gone => exact ⟨rfl, rfl, .inl rfl⟩
  | suspended => exact ⟨rfl, rfl, .inl rfl⟩
  | replied _ hreply => exact hreply.requests

theorem AskPassage.requests {call : Option Nat} (h : AskPassage hooks p call p') : p.Requests p' := by
  cases h with
  | asked _ => exact ⟨rfl, rfl, .inl rfl⟩
  | unasked _ htransaction => exact htransaction.requests

theorem StartPassage.requests (h : StartPassage hooks p p') : p.Requests p' := by
  cases h with
  | gone => exact ⟨rfl, rfl, .inl rfl⟩
  | suspended => exact ⟨rfl, rfl, .inl rfl⟩
  | requested _ _ => exact .requested p _
  | unasked _ _ htransaction => exact htransaction.requests

theorem ResumePassage.requests {k : WebSocketContinuation} (h : ResumePassage hooks p k p') :
    p.Requests p' := by
  cases h with
  | requested => exact .requested p _
  | ask hask => exact hask.requests
  | reply hreply => exact hreply.requests
  | asked => exact ⟨rfl, rfl, .inl rfl⟩

/-- A message of the network is passed on, the last one when the proxy goes. -/
structure Passage.Relays (p p' : Passage) : Prop where
  bound : p.handshakeReceiver = true ∨ p.authReceiver = true
  url : p'.url = p.url
  requests : p'.requests = p.requests
  handshake : ∃ m, p'.handshake = p.handshake ++ [m] ∧ (p'.alive = true → m.isLast = false)

theorem PassageStep.requests_or_relays {e : WebSocketEvent Ω} (h : PassageStep hooks p e p') :
    p.Requests p' ∨ p.Relays p' := by
  cases h with
  | handshakeClient => exact .inl ⟨rfl, rfl, .inl rfl⟩
  | start _ hstart =>
    have hrequests := hstart.requests
    exact .inl ⟨hrequests.url, hrequests.handshake, hrequests.requests⟩
  | webSocketFactoryRun _ hstart =>
    have hrequests := hstart.requests
    exact .inl ⟨hrequests.url, hrequests.handshake, hrequests.requests⟩
  | opened hbound => exact .inr ⟨.inl hbound, rfl, rfl, _, rfl, fun _ => rfl⟩
  | onFailure => exact .inl ⟨rfl, rfl, .inl rfl⟩
  | ended _ hbound _ => exact .inr ⟨.inl hbound, rfl, rfl, _, rfl, fun ha => by cases ha⟩
  | closed _ => exact .inl ⟨rfl, rfl, .inl rfl⟩
  | onAuthRequired hbound => exact .inr ⟨.inr hbound, rfl, rfl, _, rfl, fun _ => rfl⟩
  | onBeforeSendHeaders _ hask => exact .inl hask.requests
  | onHeadersReceived _ hexit =>
    rcases hexit with rfl | ⟨call, rfl⟩ | rfl
    · exact .inl ⟨rfl, rfl, .inl rfl⟩
    · exact .inl ⟨rfl, rfl, .inl rfl⟩
    · exact .inl ⟨rfl, rfl, .inl rfl⟩
  | refusedBeforeSend => exact .inl ⟨rfl, rfl, .inl rfl⟩
  | answerBeforeSend _ htransaction =>
    have hrequests := htransaction.requests
    exact .inl ⟨hrequests.url, hrequests.handshake, hrequests.requests⟩
  | answerHeaders => exact .inl ⟨rfl, rfl, .inl rfl⟩
  | failedHook => exact .inl ⟨rfl, rfl, .inl rfl⟩
  | resumeHook _ hresume =>
    have hrequests := hresume.requests
    exact .inl ⟨hrequests.url, hrequests.handshake, hrequests.requests⟩

/-- What a handshake has passed on, while the proxy is there and after. -/
structure OneHandshake (url : GURL) (p : Passage) : Prop where
  target : p.url = url
  requests : ∀ r ∈ p.requests, r.url = url
  once : p.requests.length ≤ 1
  after : p.handshake ≠ [] → p.requests ≠ []
  last : ∀ m ∈ p.handshake.dropLast, m.isLast = false
  live : p.alive = true → ∀ m ∈ p.handshake, m.isLast = false

theorem Stage.once (h : Stage p) : p.requests.length ≤ 1 := by
  cases h with
  | unstarted h _ _ => simp [h.requests]
  | waiting h _ _ _ _ => simp [h.requests]
  | asked h => exact Nat.le_of_eq h.once

theorem OneHandshake.step {url : GURL} {e : WebSocketEvent Ω} (h : OneHandshake url p)
    (hstage : Stage p) (ha : p.alive = true) (hstep : PassageStep hooks p e p') :
    OneHandshake url p' := by
  rcases hstep.requests_or_relays with hrequests | hrelays
  · have hurl : p'.url = url := hrequests.url.trans h.target
    have hlive : ∀ m ∈ p'.handshake, m.isLast = false := by
      rw [hrequests.handshake]
      exact h.live ha
    rcases hrequests.requests with hsame | ⟨hlives, r, hr, hmade⟩
    · refine ⟨hurl, ?_, ?_, ?_, fun m hm => hlive m (List.dropLast_subset _ hm), fun _ => hlive⟩
      · rw [hsame]
        exact h.requests
      · rw [hsame]
        exact h.once
      · rw [hsame, hrequests.handshake]
        exact h.after
    · refine ⟨hurl, ?_, (hstage.step hstep (hlives.trans ha)).once, ?_, fun m hm =>
        hlive m (List.dropLast_subset _ hm),
        fun _ => hlive⟩
      · rw [hmade]
        intro r' hr'
        rcases List.mem_append.1 hr' with hold | hnew
        · exact h.requests r' hold
        · rw [List.mem_singleton.1 hnew, hr, h.target]
      · simp [hmade]
  · obtain ⟨m, hm, hlast⟩ := hrelays.handshake
    have hasked : p.Asked := hstage.asked_of_bound <| by
      rcases hrelays.bound with hbound | hbound
      · exact .inl hbound
      · exact .inr (.inr (.inl hbound))
    refine ⟨hrelays.url.trans h.target, ?_, ?_, fun _ => ?_, ?_, fun hlives m' hm' => ?_⟩
    · rw [hrelays.requests]
      exact h.requests
    · rw [hrelays.requests]
      exact h.once
    · rw [hrelays.requests]
      exact List.ne_nil_of_length_pos (by rw [hasked.once]; omega)
    · rw [hm, List.dropLast_concat]
      exact h.live ha
    · rw [hm] at hm'
      rcases List.mem_append.1 hm' with hold | hnew
      · exact h.live ha m' hold
      · rw [List.mem_singleton.1 hnew]
        exact hlast hlives

end Steps

/-! ## Every run -/

section Runs
variable {Ω : Type} {text : HeaderText} {hooks : Hooks Ω} {request : ResourceRequest}
  {processId frameTreeNodeId : Int} {s : WebSocketSlot}

theorem run_dead_passage {e : WebSocketEvent Ω} (hdead : s.alive = false)
    (hen : e.isEnabled s = true) :
    wp (e.run text hooks) (fun _ => False)
      (fun _ s' => ∃ place, s'.passage = { s.passage with
          continuations := s.passage.continuations.eraseIdx place }) s := by
  cases e with
  | resumeHook place errorCode writes ω =>
    have hplace : place < s.continuations.length := by simpa [WebSocketEvent.isEnabled] using hen
    have hgone : (!s.alive) = true := by simp [hdead]
    simp only [WebSocketEvent.run, resumeSocketHook, wp_bind, wp_get,
      List.getElem?_eq_getElem hplace, wp_modify, if_pos hgone]
    exact ⟨place, by simp [WebSocketSlot.passage, List.eraseIdx_map]⟩
  | _ => simp [WebSocketEvent.isEnabled, hdead] at hen

/-- A handshake that is in order, at some stage while the proxy is there. -/
structure WebSocketSlot.Staged (s : WebSocketSlot) : Prop where
  orderly : Orderly s.core
  stage : Stage s.passage

theorem WebSocketSlot.Staged.passage_step (h : s.Staged) (ha : s.alive = true)
    {e : WebSocketEvent Ω} (hen : e.isEnabled s = true) :
    wp (e.run text hooks) (fun _ => e.Fails s ∨ ¬ s.ForWebSocket)
    (fun _ s' => PassageStep hooks s.passage e s'.passage) s :=
  run_passage ⟨ha, h.orderly.frame.onDisconnect⟩ h.stage.provided e hen (h.orderly.frame.bound hen)

/-- What holds of the passage at first, and is kept by the steps at every stage and by the end of
what was suspended when the proxy was torn down, holds in every run. -/
theorem passage_invariant {C : WebSocketSlot → WebSocketEvent Ω → Prop} {I : Passage → Prop}
    (hinit : I (webSocketSystem text hooks request processId frameTreeNodeId).init.passage)
    (hstep : ∀ s e p', I s.passage → Stage s.passage → s.passage.alive = true → C s e →
      PassageStep hooks s.passage e p' → I p')
    (hdead : ∀ p place, I p → p.alive = false →
      I { p with continuations := p.continuations.eraseIdx place })
    (h : (webSocketSystem text hooks request processId frameTreeNodeId).Reach C s) :
    I s.passage ∧ (s.alive = true → s.Staged) := by
  have hstart : (webSocketSystem text hooks request processId frameTreeNodeId).init.Staged := by
    refine ⟨?_, .unstarted ⟨rfl, rfl, rfl, rfl, rfl, rfl, rfl⟩ rfl rfl⟩
    exact (socket_invariant (I := fun _ => True) trivial (fun _ _ _ _ _ _ _ _ => trivial)
      (fun _ _ _ _ => trivial)
      (System.Reach.init (S := webSocketSystem text hooks request processId frameTreeNodeId) (C := C))).2 rfl
  refine h.invariant (I := fun s => I s.passage ∧ (s.alive = true → s.Staged))
    ⟨hinit, fun _ => hstart⟩ ?_
  rintro s e s' ⟨hI, hstaged⟩ hen hC hex
  rcases ha : s.alive with _ | _
  · obtain ⟨ks, hpassage⟩ := wp_ok (run_dead_passage ha hen) (run_of_exec hex)
    have hgone : s'.alive = false := (congrArg Passage.alive hpassage).trans ha
    rw [hpassage]
    exact ⟨hdead _ ks hI ha, fun hlive => absurd (hgone.symm.trans hlive) Bool.false_ne_true⟩
  · have hpassage := wp_ok ((hstaged ha).passage_step ha hen) (run_of_exec hex)
    have hcore := step_of_exec (hstaged ha).orderly ha hen hex
    exact ⟨hstep s e _ hI (hstaged ha).stage ha hC hpassage, fun hlive =>
      ⟨(hstaged ha).orderly.step hcore hlive, (hstaged ha).stage.step hpassage hlive⟩⟩

/-- **One handshake.** The network is asked at most once, for the URL that the renderer asked for;
its messages are passed on only after that, and the one that ends the handshake is the last and
leaves no proxy. -/
theorem handshake_once (h : (webSocketSystem text hooks request processId frameTreeNodeId).Reachable s) :
    OneHandshake request.url s.passage := by
  refine (passage_invariant ?_ ?_ ?_ h).1
  · exact ⟨rfl, fun _ hr => absurd hr List.not_mem_nil, Nat.zero_le 1, fun hne => absurd rfl hne,
      fun _ hm => absurd hm List.not_mem_nil, fun _ _ hm => absurd hm List.not_mem_nil⟩
  · exact fun _ _ _ hone hstage ha _ hstep => hone.step hstage ha hstep
  · exact fun _ _ hone _ => { hone with }

theorem passOnHandshake_fails {bound : DumbProxyingWebSocket → Bool} {m : HandshakeMessage}
    (ha : s.alive = true) (hnull : bound s.object = false) {Q : Unit → WebSocketSlot → Prop} :
    wp (passOnHandshake bound m) (fun _ => True) Q s := by
  simp only [passOnHandshake, wp_bind, runs_socket ha, hnull, Bool.false_eq_true, if_false, wp_throw]

theorem run_fails {e : WebSocketEvent Ω} (ha : s.alive = true) (hnull : e.Fails s) :
    wp (e.run text hooks) (fun _ => True) (fun _ _ => False) s := by
  cases e with
  | webSocketFactoryRun id url additionalHeaders trustedHeaderClient ω =>
    have hclient : s.object.forwardingHandshakeClient = true := hnull
    simp (disch := exact ha) only [WebSocketEvent.run, webSocketFactoryRun, wp_bind, wp_modify,
      runs_socket, wp_dcheck,
      hclient, Bool.not_true, reduceCtorEq, false_implies, implies_true, and_self]
  | onOpeningHandshakeStarted => exact passOnHandshake_fails ha hnull
  | onConnectionEstablished remoteEndpoint =>
    simp only [WebSocketEvent.run, onConnectionEstablished, wp_bind, runs_setSocket ha]
    refine passOnHandshake_fails ?_ ?_
    · exact ha
    · exact hnull
  | onAuthRequired => exact passOnHandshake_fails ha hnull
  | _ => exact hnull.elim

/-- A failure of a proxy that is alive is one of its clients or of its scheme. -/
theorem handshake_failure (h : (webSocketSystem text hooks request processId
      frameTreeNodeId).Reachable s)
    {e : WebSocketEvent Ω} (hen : e.isEnabled s = true) {fault : Fault}
    (hrun : e.run text hooks s = .error fault) :
    s.alive = true ∧ (e.Fails s ∨ ¬ s.ForWebSocket) := by
  have hstaged := (passage_invariant (I := fun _ => True) trivial (fun _ _ _ _ _ _ _ _ => trivial)
    (fun _ _ _ _ => trivial) h).2
  rcases ha : s.alive with _ | _
  · exact (wp_error (run_dead_passage ha hen) hrun).elim
  · exact ⟨rfl, wp_error ((hstaged ha).passage_step ha hen) hrun⟩

/-- **The only failures.** In every run of a proxy for a WebSocket URL an event fails if and only if
it is a message for a client that is null, or gives the proxy a handshake client while it has one:
the request is made at most once, the proxy is deleted at most once, no method runs after that or
pauses what is not bound, and no other check fails. -/
theorem handshake_fails_iff (h : (webSocketSystem text hooks request processId
      frameTreeNodeId).Reachable s)
    (hscheme : s.ForWebSocket) {e : WebSocketEvent Ω} (hen : e.isEnabled s = true) :
    (∃ fault, (webSocketSystem text hooks request processId frameTreeNodeId).exec
      s e = .error fault) ↔
      s.alive = true ∧ e.Fails s := by
  constructor
  · rintro ⟨fault, hex⟩
    have hrun : e.run text hooks s = .error fault := by
      simp only [webSocketSystem] at hex
      cases hrun : e.run text hooks s with
      | error fault' => simpa [hrun, Except.map] using hex
      | ok r => simp [hrun, Except.map] at hex
    exact (handshake_failure h hen hrun).imp_right fun hfails =>
      hfails.resolve_right (not_not.2 hscheme)
  · rintro ⟨ha, hnull⟩
    have hfails : wp (e.run text hooks) (fun _ => True) (fun _ _ => False) s := run_fails ha hnull
    obtain ⟨fault, hrun, -⟩ := wp_fails hfails
    exact ⟨fault, by simp only [webSocketSystem, hrun, Except.map]⟩

/-! ## What the hooks do not let pass -/

/-- A suspended hook lets nothing pass at its end either. -/
def WebSocketEvent.RefusesAtEnd (point : HookPoint) (s : WebSocketSlot) : WebSocketEvent Ω → Prop
  | resumeHook place errorCode .. =>
    ∀ k ∈ s.passage.continuations[place]?, k.hookPoint = point → errorCode ≠ OK
  | _ => True

instance (point : HookPoint) (s : WebSocketSlot) (e : WebSocketEvent Ω) :
    Decidable (e.RefusesAtEnd point s) := by
  unfold WebSocketEvent.RefusesAtEnd
  split <;> infer_instance

/-- The request has not been made, and the hook before it is the only one that may be suspended. -/
structure Passage.Unrequested (p : Passage) : Prop where
  requests : p.requests = []
  handshake : p.handshake = []
  before : ∀ k ∈ p.continuations, k.hookPoint = .beforeURLRequest

theorem Passage.Unrequested.start {p p' : Passage} (h : p.Unrequested)
    (hrefuses : ¬ hooks.LetsRequest) (hstart : StartPassage hooks p p') : p'.Unrequested := by
  cases hstart with
  | gone => exact ⟨h.requests, h.handshake, h.before⟩
  | suspended =>
    refine ⟨h.requests, h.handshake, fun k hk => ?_⟩
    rcases List.mem_append.1 hk with hold | hnew
    · exact h.before k hold
    · rw [List.mem_singleton.1 hnew, Passage.startContinuation]
      split <;> rfl
  | requested hlets _ => exact absurd hlets hrefuses
  | unasked hlets _ _ => exact absurd hlets hrefuses

theorem Passage.Unrequested.step {p p' : Passage} (h : p.Unrequested) (hstage : Stage p)
    (hrefuses : ¬ hooks.LetsRequest) {e : WebSocketEvent Ω}
    (hend : ∀ place errorCode writes ω, e = .resumeHook place errorCode writes ω →
      ∀ k ∈ p.continuations[place]?, k.hookPoint = .beforeURLRequest → errorCode ≠ OK)
    (hstep : PassageStep hooks p e p') : p'.Unrequested := by
  have hunasked : ¬ p.Asked := fun hasked => by
    have hone := hasked.once
    simp [h.requests] at hone
  cases hstep with
  | handshakeClient => exact ⟨h.requests, h.handshake, h.before⟩
  | start _ hstart =>
    refine Passage.Unrequested.start ?_ hrefuses hstart
    exact ⟨h.requests, h.handshake, h.before⟩
  | webSocketFactoryRun _ hstart =>
    refine Passage.Unrequested.start ?_ hrefuses hstart
    exact ⟨h.requests, h.handshake, h.before⟩
  | opened hbound => exact absurd (hstage.asked_of_bound (.inl hbound)) hunasked
  | onFailure => exact h
  | ended _ hbound _ => exact absurd (hstage.asked_of_bound (.inl hbound)) hunasked
  | closed hbound => exact absurd (hstage.asked_of_bound (.inl hbound)) hunasked
  | onAuthRequired hbound =>
    exact absurd (hstage.asked_of_bound (.inr (.inr (.inl hbound)))) hunasked
  | onBeforeSendHeaders hbound _ =>
    exact absurd (hstage.asked_of_bound (.inr (.inl hbound))) hunasked
  | onHeadersReceived hbound _ => exact absurd (hstage.asked_of_bound (.inr (.inl hbound))) hunasked
  | refusedBeforeSend => exact ⟨h.requests, h.handshake, h.before⟩
  | answerBeforeSend hplace _ =>
    refine absurd (hstage.asked_of_bound (.inr (.inr (.inr ?_)))) hunasked
    exact List.ne_nil_of_length_pos (by omega)
  | answerHeaders => exact h
  | failedHook =>
    exact ⟨h.requests, h.handshake, fun k hk => h.before k (List.mem_of_mem_eraseIdx hk)⟩
  | @resumeHook place writes ω k _ hk _ =>
    exact absurd rfl (hend place OK writes ω rfl k hk (h.before k (List.mem_of_getElem? hk)))

/-- **No request without the hook.** What the hook before the request refuses, at once or at its
end, is not asked of the network. -/
theorem unrequested (hrefuses : ¬ hooks.LetsRequest)
    (h : (webSocketSystem text hooks request processId frameTreeNodeId).Reach
      (fun s e => e.RefusesAtEnd .beforeURLRequest s) s) : s.requests = [] ∧ s.handshake = [] := by
  have hunrequested : s.passage.Unrequested := by
    refine (passage_invariant ⟨rfl, rfl, fun _ hk => absurd hk List.not_mem_nil⟩ ?_ ?_ h).1
    · intro s e p' hunrequested hstage _ hend hstep
      refine hunrequested.step hstage hrefuses ?_ hstep
      rintro place errorCode writes ω rfl
      exact hend
    · rintro p place hunrequested _
      exact ⟨hunrequested.requests, hunrequested.handshake, fun k hk =>
        hunrequested.before k (List.mem_of_mem_eraseIdx hk)⟩
  exact ⟨hunrequested.requests, hunrequested.handshake⟩

/-! ## Request headers -/

/-- The requests to the network carry no headers. -/
def Passage.Bare (p : Passage) : Prop := ∀ r ∈ p.requests, r.additionalHeaders = []

theorem Passage.Bare.requested {p : Passage} (h : p.Bare) (hextra : p.extraHeaders = true)
    (headers : HttpRequestHeaders) :
    (p.requested headers).Bare := by
  intro r hr
  rcases List.mem_append.1 hr with hold | hnew
  · exact h r hold
  · rw [List.mem_singleton.1 hnew]
    exact if_pos hextra

theorem Passage.Bare.transaction {p p' : Passage} (h : p.Bare) (hrefuses : ¬ hooks.LetsHeaders)
    (htransaction : TransactionPassage hooks p p') : p'.Bare := by
  cases htransaction with
  | gone => exact h
  | suspended => exact h
  | replied hlets _ => exact absurd hlets hrefuses

theorem Passage.Bare.ask {p p' : Passage} (h : p.Bare)
    (hrefuses : ¬ hooks.LetsHeaders) {call : Option Nat} (hask : AskPassage hooks p call p') : p'.Bare := by
  cases hask with
  | asked _ => exact h
  | unasked _ htransaction => exact h.transaction hrefuses htransaction

theorem Passage.Bare.start {p p' : Passage} (h : p.Bare) (hrefuses : ¬ hooks.LetsHeaders)
    (hstart : StartPassage hooks p p') : p'.Bare := by
  cases hstart with
  | gone => exact h
  | suspended => exact h
  | requested _ hextra => exact h.requested hextra _
  | unasked _ _ htransaction => exact h.transaction hrefuses htransaction

/-- With no downstream client, what leads to the request passes the hook before the start first. -/
theorem Stage.extra_of_start {p : Passage} (h : Stage p)
    (hstart : .continueToStartRequest ∈ p.continuations) :
    p.extraHeaders = true := by
  cases h with
  | unstarted _ _ hnone => simp [hnone] at hstart
  | waiting _ k _ hone hk =>
    rw [hone, List.mem_singleton] at hstart
    rwa [← hstart] at hk
  | asked h => exact absurd hstart h.unstarting

theorem Passage.Bare.step {p p' : Passage} (h : p.Bare) (hstage : Stage p)
    (hrefuses : ¬ hooks.LetsHeaders) {e : WebSocketEvent Ω}
    (hend : ∀ place errorCode writes ω, e = .resumeHook place errorCode writes ω →
      ∀ k ∈ p.continuations[place]?, k.hookPoint = .beforeStartTransaction → errorCode ≠ OK)
    (hstep : PassageStep hooks p e p') : p'.Bare := by
  cases hstep with
  | handshakeClient => exact h
  | start _ hstart => exact Passage.Bare.start (p := { p with started := true }) h hrefuses hstart
  | webSocketFactoryRun _ hstart =>
    refine Passage.Bare.start ?_ hrefuses hstart
    exact h
  | opened _ => exact h
  | onFailure => exact h
  | ended _ _ _ => exact h
  | closed _ => exact h
  | onAuthRequired _ => exact h
  | onBeforeSendHeaders _ hask => exact h.ask hrefuses hask
  | onHeadersReceived _ hexit =>
    rcases hexit with rfl | ⟨call, rfl⟩ | rfl
    · exact h
    · exact h
    · exact h
  | refusedBeforeSend => exact h
  | answerBeforeSend _ htransaction =>
    refine Passage.Bare.transaction ?_ hrefuses htransaction
    exact h
  | answerHeaders => exact h
  | failedHook => exact h
  | @resumeHook place writes ω k _ hk hresume =>
    cases hresume with
    | requested =>
      refine Passage.Bare.requested ?_ ?_ _
      · exact h
      · exact hstage.extra_of_start (List.mem_of_getElem? hk)
    | ask hask =>
      refine Passage.Bare.ask ?_ hrefuses hask
      exact h
    | reply _ => exact absurd rfl (hend place OK writes ω rfl _ hk rfl)
    | asked => exact h

/-- Of the network's callbacks only those for response headers have been run. -/
def SocketCore.Unanswered (c : SocketCore) : Prop :=
  ∀ a ∈ c.upstream, a.reply.hook = .onHeadersReceived

section Unanswered
variable {c c' : SocketCore}

theorem SocketCore.Unanswered.tornDown (h : c.Unanswered) (hdown : TornDown c c') : c'.Unanswered := by
  unfold SocketCore.Unanswered
  rw [hdown.upstream]
  exact h

theorem SocketCore.Unanswered.beforeSend (h : c.Unanswered) (hrefuses : ¬ hooks.LetsHeaders)
    {headers : HttpRequestHeaders} (hexit : BeforeSendExit hooks c headers c') : c'.Unanswered := by
  cases hexit with
  | tornDown _ hdown => exact h.tornDown hdown
  | suspended _ => exact h
  | replied hresult _ => exact absurd ⟨_, _, _, hresult⟩ hrefuses

theorem SocketCore.Unanswered.ask (h : c.Unanswered)
    (hrefuses : ¬ hooks.LetsHeaders) {call : Option Nat} (hexit : AskExit hooks c call c') : c'.Unanswered := by
  cases hexit with
  | asked _ => exact h
  | unasked _ hbefore => exact h.beforeSend hrefuses hbefore

theorem SocketCore.Unanswered.start (h : c.Unanswered) (hrefuses : ¬ hooks.LetsHeaders)
    (hexit : SocketStartExit hooks c c') :
    c'.Unanswered := by
  cases hexit with
  | tornDown hdown => exact h.tornDown hdown
  | suspended => exact h
  | requested _ _ => exact h
  | unasked _ hbefore => exact h.beforeSend hrefuses hbefore

theorem SocketCore.Unanswered.step (h : c.Unanswered) (hrefuses : ¬ hooks.LetsHeaders)
    {e : WebSocketEvent Ω} (hend : ∀ place errorCode writes ω,
      e = .resumeHook place errorCode writes ω →
      ∀ k ∈ c.continuations[place]?, k.hookPoint = .beforeStartTransaction → errorCode ≠ OK)
    (hstep : SocketStep text hooks c e c') : c'.Unanswered := by
  cases hstep with
  | passedOn _ => exact h
  | ended _ hdown => exact h.tornDown hdown
  | start _ hexit =>
    exact SocketCore.Unanswered.start (c := { c with started := true }) h hrefuses hexit
  | webSocketFactoryRun _ hexit =>
    refine SocketCore.Unanswered.start ?_ hrefuses hexit
    exact h
  | onBeforeSendHeaders _ hexit =>
    refine SocketCore.Unanswered.ask ?_ hrefuses hexit
    exact h
  | onHeadersReceived _ hexit =>
    cases hexit with
    | tornDown _ hdown =>
      refine SocketCore.Unanswered.tornDown ?_ hdown
      exact h
    | suspended _ _ => exact h
    | asked _ _ => exact h
  | refusedBeforeSend _ _ hdown =>
    refine SocketCore.Unanswered.tornDown ?_ hdown
    exact h
  | answerBeforeSend _ _ hexit =>
    refine SocketCore.Unanswered.beforeSend ?_ hrefuses hexit
    exact h
  | answerHeaders _ =>
    intro a ha
    rcases List.mem_append.1 ha with hold | hnew
    · exact h a hold
    · obtain ⟨call, -, rfl⟩ := Option.map_eq_some_iff.1 (Option.mem_toList.1 hnew)
      rfl
  | failedHook _ _ hdown => exact h.tornDown hdown
  | @resumeHook place errorCode writes ω k _ hk herror hexit =>
    cases hexit with
    | requested _ => exact h
    | ask hask =>
      refine SocketCore.Unanswered.ask ?_ hrefuses hask
      exact h
    | reply _ => exact absurd herror (hend place errorCode writes ω rfl _ hk rfl)
    | asked => exact h

end Unanswered

/-- **No headers without the hook.** When the hook before the start refuses, at once and at its end,
no request headers leave: neither with the request nor in an answer to the network's
`OnBeforeSendHeaders`. -/
theorem unsent_headers (hrefuses : ¬ hooks.LetsHeaders)
    (h : (webSocketSystem text hooks request processId frameTreeNodeId).Reach
      (fun s e => e.RefusesAtEnd .beforeStartTransaction s) s) :
    (∀ r ∈ s.requests, r.additionalHeaders = []) ∧ ∀ a ∈ s.upstream,
    a.reply.hook = .onHeadersReceived := by
  constructor
  · refine (passage_invariant (I := Passage.Bare) (fun _ hr => absurd hr List.not_mem_nil) ?_
      (fun _ _ hbare _ => hbare) h).1
    intro s e p' hbare hstage _ hend hstep
    refine hbare.step hstage hrefuses ?_ hstep
    rintro place errorCode writes ω rfl
    exact hend
  · refine (socket_invariant (I := SocketCore.Unanswered) (fun _ ha =>
      absurd ha List.not_mem_nil) ?_
      (fun _ _ hunanswered _ => hunanswered) h).1
    intro s e c' hunanswered _ _ hend hstep
    refine hunanswered.step hrefuses ?_ hstep
    rintro place errorCode writes ω rfl
    exact hend

end Runs

theorem handshake_once_established : ∃ s,
    (webSocketSystem upgradeText noCallbacks socketRequest 0 0).Reachable s ∧
    s.requests.length = 1 ∧ s.handshake =
    [.onOpeningHandshakeStarted, .onConnectionEstablished {}] ∧ s.alive = false ∧
    OneHandshake socketRequest.url s.passage := by
  have h := System.reach_of_replay (S := webSocketSystem upgradeText noCallbacks socketRequest 0 0)
    (C := fun _ _ => True)
    [.handshakeClient, .webSocketFactoryRun 1 socketRequest.url [] false (),
      .onOpeningHandshakeStarted, .onConnectionEstablished {}] rfl
  exact ⟨_, h, rfl, rfl, rfl, handshake_once h⟩

/-- A proxy that is started by itself has nobody to ask for credentials. -/
theorem handshake_fails_iff_started : ∃ s fault,
    (webSocketSystem upgradeText noCallbacks socketRequest 0 0).Reachable s ∧
    s.requests.length = 1 ∧ (webSocketSystem upgradeText noCallbacks socketRequest 0 0).exec s
    .onAuthRequired = .error fault := by
  have h := System.reach_of_replay (S := webSocketSystem upgradeText noCallbacks socketRequest 0 0)
    (C := fun _ _ => True)
    [.start 1 ()] rfl
  obtain ⟨fault, hfault⟩ := (handshake_fails_iff h rfl (e := .onAuthRequired) rfl).2 ⟨rfl, rfl⟩
  exact ⟨_, fault, h, rfl, hfault⟩

/-- Hooks that suspend every request, and its headers. -/
def suspendingHooks : Hooks Unit :=
  { noCallbacks with
    onBeforeURLRequest := fun _ _ => { result := .ioPending }
    onBeforeStartTransaction := fun _ _ _ => { result := .ioPending } }

theorem suspendingHooks_request : ¬ suspendingHooks.LetsRequest := by
  rintro ⟨_, _, _, hresult, -⟩
  cases hresult

theorem suspendingHooks_headers : ¬ suspendingHooks.LetsHeaders := by
  rintro ⟨_, _, _, hresult⟩
  cases hresult

theorem unrequested_blocked : ∃ s,
    (webSocketSystem upgradeText suspendingHooks socketRequest 0 0).Reach
      (fun s e => e.RefusesAtEnd .beforeURLRequest s) s ∧ s.alive = false ∧ s.requests = [] ∧
        s.handshake = [] := by
  have h := System.reach_of_replay
    (S := webSocketSystem upgradeText suspendingHooks socketRequest 0 0)
    (C := fun s e => e.RefusesAtEnd .beforeURLRequest s)
    [.handshakeClient, .webSocketFactoryRun 1 socketRequest.url [] true (),
      .resumeHook 0 ERR_BLOCKED_BY_CLIENT {} ()] rfl
  exact ⟨_, h, rfl, unrequested suspendingHooks_request h⟩

theorem unsent_headers_blocked : ∃ s,
    (webSocketSystem upgradeText suspendingHooks socketRequest 0 0).Reach
      (fun s e => e.RefusesAtEnd .beforeStartTransaction s) s ∧ s.beforeSendCalls ≠ [] ∧
    (∀ r ∈ s.requests, r.additionalHeaders = []) ∧ ∀ a ∈ s.upstream,
    a.reply.hook = .onHeadersReceived := by
  have h := System.reach_of_replay
    (S := webSocketSystem upgradeText suspendingHooks socketRequest 0 0)
    (C := fun s e => e.RefusesAtEnd .beforeStartTransaction s)
    [.handshakeClient, .webSocketFactoryRun 1 socketRequest.url [] true (), .resumeHook 0 OK {} (),
      .onBeforeSendHeaders [("Cookie", "a=1")] (),
        .answerBeforeSend 0 OK (some [("Cookie", "a=1")]) (),
      .resumeHook 0 ERR_BLOCKED_BY_CLIENT {} ()] rfl
  exact ⟨_, h, List.cons_ne_nil _ _, unsent_headers suspendingHooks_headers h⟩

end DumbBrowser
