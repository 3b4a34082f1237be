import DumbBrowser.Browser.FactoryLifetime
import DumbBrowser.Lib.Guarded

/-!
# What the client sees of a request

* `client_protocol` : nothing follows an `OnComplete`, no stored head is delivered twice, and a
  redirect is answered before the next response, unless the network loader does not wait for the
  answer.
* `start_driven_iff` : when a started request is left without a loader.
-/

namespace DumbBrowser

namespace ClientMessage

/-- The place of a stored head that the message delivers. -/
def source : ClientMessage → Option Nat
  | onReceiveResponse source _ => source
  | onReceiveRedirect source _ _ => source
  | _ => none

def isResponse : ClientMessage → Bool
  | onReceiveResponse .. => true
  | _ => false

/-- Whether the client owes an answer to a redirect after the message. -/
def owesAfter (owes : Bool) : ClientMessage → Bool
  | onReceiveRedirect .. => true
  | followRedirect _ => false
  | _ => owes

end ClientMessage

def deliveries (trace : List ClientMessage) : List Nat := trace.filterMap (·.source)

def owesFollow (trace : List ClientMessage) : Bool := trace.foldl ClientMessage.owesAfter false

@[simp] theorem deliveries_concat (trace : List ClientMessage) (m : ClientMessage) :
    deliveries (trace ++ [m]) = deliveries trace ++ m.source.toList := by
  rw [deliveries, List.filterMap_append]
  cases h : m.source <;> simp [deliveries, h]

@[simp] theorem owesFollow_concat (trace : List ClientMessage) (m : ClientMessage) :
    owesFollow (trace ++ [m]) = m.owesAfter (owesFollow trace) := by
  simp [owesFollow]

/-! ## Completion and delivery, in every run -/

/-- Nothing follows an `OnComplete`, and no stored head is delivered twice. -/
structure Sound (c : Core) : Prop where
  closed : Guarded (fun sent _ => ∀ m ∈ sent, m.isComplete = false) c.trace
  running : c.alive = true → ∀ m ∈ c.trace, m.isComplete = false
  nodup : (deliveries c.trace).Nodup
  stored : ∀ n ∈ deliveries c.trace, n < c.stored.length
  current : c.alive = true → ∀ n head, c.currentResponse = some (n, head) →
    n < c.stored.length ∧ n ∉ deliveries c.trace

namespace Sound

variable {c c' : Core}

/-- A message that delivers no stored head. -/
theorem send (h : Sound c) (ha : c.alive = true) {m : ClientMessage} (hm : m.isComplete = false)
    (hs : m.source = none) :
    Sound { c with trace := c.trace ++ [m] } where
  closed := h.closed.concat (h.running ha)
  running _ x hx := by
    rcases List.mem_append.1 hx with hx | hx
    · exact h.running ha x hx
    · exact List.mem_singleton.1 hx ▸ hm
  nodup := by simpa [hs] using h.nodup
  stored := by simpa [hs] using h.stored
  current := by simpa [hs] using h.current

theorem storedHead (h : Sound c) (head : StoredHead) : Sound (c.storedHead head) where
  closed := h.closed
  running := h.running
  nodup := h.nodup
  stored n hn := by
    have := h.stored n hn
    simp only [Core.storedHead, List.length_append, List.length_singleton]
    omega
  current _ n _ hcurrent := by
    obtain ⟨rfl, -⟩ : c.stored.length = n ∧ _ := by simpa [Core.storedHead] using hcurrent
    refine ⟨by simp [Core.storedHead], fun hn => ?_⟩
    exact Nat.lt_irrefl _ (h.stored _ hn)

theorem delivered (h : Sound c) (ha : c.alive = true) {m : ClientMessage}
    (hm : m.isComplete = false) (hs : m.source = c.currentResponse.map (·.1)) :
    Sound (c.delivered m) where
  closed := h.closed.concat (h.running ha)
  running _ x hx := by
    rcases List.mem_append.1 hx with hx | hx
    · exact h.running ha x hx
    · exact List.mem_singleton.1 hx ▸ hm
  nodup := by
    simp only [Core.delivered, deliveries_concat, hs]
    rcases hcurrent : c.currentResponse with _ | ⟨n, head⟩
    · simpa using h.nodup
    · simpa [List.nodup_append] using ⟨h.nodup, fun a hn hna =>
        (h.current ha n head hcurrent).2 (hna ▸ hn)⟩
  stored n hn := by
    simp only [Core.delivered, deliveries_concat, hs, List.mem_append] at hn
    rcases hn with hn | hn
    · exact h.stored n hn
    · rcases hcurrent : c.currentResponse with _ | ⟨n', head⟩
      · simp [hcurrent] at hn
      · obtain rfl : n = n' := by simpa [hcurrent] using hn
        exact (h.current ha n head hcurrent).1
  current _ n head hcurrent := by cases hcurrent

theorem removed (h : Sound c) (ha : c.alive = true) {out : List ClientMessage} (hout : Closing out)
    (hr : Removed c c' out) : Sound c' := by
  have hgone : c'.alive ≠ true := by simp [hr.alive]
  have hclosed : Guarded (fun sent _ => ∀ m ∈ sent, m.isComplete = false) c'.trace ∧
      deliveries c'.trace = deliveries c.trace := by
    rw [hr.trace]
    rcases hout with rfl | ⟨status, rfl⟩
    · simpa using h.closed
    · exact ⟨h.closed.concat (h.running ha), by simp [ClientMessage.source]⟩
  refine ⟨hclosed.1, fun ha' => absurd ha' hgone, ?_, ?_, fun ha' => absurd ha' hgone⟩
  · exact hclosed.2 ▸ h.nodup
  · rw [hclosed.2, hr.stored]
    exact h.stored

theorem startExit (h : Sound c) (ha : c.alive = true) {factoryBound : Bool}
    (hc : StartExit factoryBound c c') :
    Sound c' := by
  cases hc with
  | removed hout hr => exact h.removed ha hout hr
  | mockFailed hout hr =>
    refine (h.send ha (m := .onReceiveResponse none (some {})) rfl rfl).removed ha hout ?_
    exact ⟨hr.alive, by simp [hr.trace], hr.stored, hr.starts⟩
  | mocked =>
    have hresponse := h.send ha (m := .onReceiveResponse none (some {})) rfl rfl
    have hsent := hresponse.send ha (m := .onStartLoadingResponseBody) rfl rfl
    simp only [List.append_assoc, List.singleton_append] at hsent
    exact { hsent with }
  | redirected head _ =>
    have hreset : Sound c.pipesReset := { h with }
    exact (hreset.storedHead head).delivered ha rfl rfl
  | suspended _ => exact { h with }
  | started _ => exact { h with }

theorem deliverExit (h : Sound c) (ha : c.alive = true) {lib : NetLibrary} {k : Continuation}
    (hc : DeliverExit lib c k c') : Sound c' := by
  cases hc with
  | removed hout hr => exact h.removed ha hout hr
  | response _ _ => exact { h.delivered ha (m := .onReceiveResponse _ _) rfl rfl with }
  | overrideRedirect _ _ hcurrent _ =>
    have hreset : Sound c.pipesReset := { h with }
    refine hreset.delivered ha (m := .onReceiveRedirect _ _ _) rfl ?_
    simp [Core.pipesReset, hcurrent, ClientMessage.source]
  | redirect => exact { h.delivered ha (m := .onReceiveRedirect _ _ _) rfl rfl with }

variable {Ω : Type} {lib : NetLibrary} {hooks : Hooks Ω} {factoryBound : Bool}
  {request : ResourceRequest}

theorem headersExit (h : Sound c) (ha : c.alive = true) {env : Env Ω}
    {head : StoredHead} {k : Continuation} (hc : HeadersExit lib hooks env c head k c') : Sound c' := by
  have hseen (outcome : HookOutcome) : Sound (c.seen head outcome) := { h.storedHead head with }
  cases hc with
  | @suspended outcome _ _ _ => exact { hseen outcome with }
  | delivered _ hdeliver => exact (hseen _).deliverExit ha hdeliver

theorem step (h : Sound c) (ha : c.alive = true) {e : RequestEvent Ω}
    (hc : CoreStep lib hooks factoryBound request c e c') :
    Sound c' := by
  cases hc with
  | silent _ => exact h
  | passed hpassed => cases hpassed <;> exact h.send ha rfl rfl
  | followRedirect hstart =>
    exact startExit (h.send ha (m := .followRedirect _) rfl rfl) ha hstart
  | clientDisconnect hout hr => exact h.removed ha hout hr
  | onReceiveResponse _ hheaders => exact h.headersExit ha hheaders
  | onReceiveRedirect _ hheaders =>
    exact headersExit (c := { c with loaderAwaits := true }) { h with } ha hheaders
  | onComplete hout hr => exact h.removed ha hout hr
  | @resumeHook place env k override _ _ _ hcontinue =>
    have hresumed : Sound { c with
        continuations := c.continuations.eraseIdx place, overrideHeaders := override } :=
      { h with }
    cases hcontinue with
    | start _ hstart => exact hresumed.startExit ha hstart
    | deliver _ hdeliver => exact hresumed.deliverExit ha hdeliver
  | onWrite => exact { h with }
  | onWriteComplete hout hr => exact h.removed ha hout hr

theorem fresh : Sound .fresh where
  closed := guarded_nil
  running _ _ hm := by cases hm
  nodup := List.nodup_nil
  stored _ hn := by cases hn
  current _ _ _ hcurrent := by cases hcurrent

end Sound

/-! ## The order of redirects and responses -/

/-- The client follows only a redirect that it has not answered, and a network loader that has sent
a redirect sends no head until it is told to follow. -/
def Polite {Ω : Type} (s : Slot) : RequestEvent Ω → Prop
  | .followRedirect .. => owesFollow s.trace = true
  | .onReceiveResponse .. | .onReceiveRedirect .. => s.loaderAwaits = false
  | _ => True

instance {Ω : Type} (s : Slot) (e : RequestEvent Ω) : Decidable (Polite s e) :=
  match e with
  | .followRedirect .. => inferInstanceAs (Decidable (owesFollow s.trace = true))
  | .onReceiveResponse .. | .onReceiveRedirect .. =>
    inferInstanceAs (Decidable (s.loaderAwaits = false))
  | .setPriority .. | .pauseReadingBodyFromNet | .resumeReadingBodyFromNet | .clientDisconnect
      | .onReceiveEarlyHints |
    .onUploadProgress .. | .onReceiveCachedMetadata _ | .onTransferSizeUpdated _
      | .onStartLoadingResponseBody |
    .onComplete _ | .resumeHook .. | .onWrite .. => .isTrue trivial

/-- Where a request is between two events. -/
inductive Phase (c : Core) : Prop
  | waiting : owesFollow c.trace = true → c.continuations = [] →
      (c.receiver.isBound = true → c.loaderAwaits = true) →
      Phase c
  | running : owesFollow c.trace = false → c.continuations = [] → Phase c
  /-- No message of the network is received, and a redirect waits at most for a loader that waits
  too. -/
  | suspended {k} : owesFollow c.trace = false → c.continuations = [k] → c.receiver ≠ .bound false →
      (k.hookPoint = .headersReceived → k ≠ .continueToResponseStarted → c.receiver.isBound = true →
        c.loaderAwaits = true) →
      Phase c

namespace Phase

variable {c c' : Core}

theorem congr (h : Phase c) (howes : owesFollow c'.trace = owesFollow c.trace)
    (hcont : c'.continuations = c.continuations) (hreceiver : c'.receiver = c.receiver)
    (hloader : c'.loaderAwaits = c.loaderAwaits) : Phase c' := by
  cases h with
  | waiting ho hc hw =>
    exact .waiting (howes.trans ho) (hcont.trans hc) (by rwa [hreceiver, hloader])
  | running ho hc => exact .running (howes.trans ho) (hcont.trans hc)
  | suspended ho hc hp hw =>
    exact .suspended (howes.trans ho) (hcont.trans hc) (by rwa [hreceiver])
      (by rwa [hreceiver, hloader])

theorem none_of_owes (h : Phase c) (howes : owesFollow c.trace = true) : c.continuations = [] := by
  cases h with
  | waiting _ hnone _ => exact hnone
  | running ho _ => simp [howes] at ho
  | suspended ho _ _ _ => simp [howes] at ho

/-- A network loader that does not wait for `FollowRedirect` sends a head. -/
theorem of_receiving (h : Phase c) (hreceiver : c.receiver = .bound false)
    (hloader : c.loaderAwaits = false) :
    owesFollow c.trace = false ∧ c.continuations = [] := by
  cases h with
  | waiting _ _ hwaits => simp [hreceiver, hloader, Receiver.isBound] at hwaits
  | running howes hnone => exact ⟨howes, hnone⟩
  | suspended _ _ hpaused _ => exact absurd hreceiver hpaused

/-- A suspended hook ends: there was no other. -/
theorem of_resumed (h : Phase c) {place : Nat} {k : Continuation}
    (hk : c.continuations[place]? = some k) :
    owesFollow c.trace = false ∧ c.continuations.eraseIdx place = [] ∧
      (k.hookPoint = .headersReceived → k ≠ .continueToResponseStarted → c.receiver.isBound = true →
        c.loaderAwaits = true) := by
  cases h with
  | waiting _ hnone _ => simp [hnone] at hk
  | running _ hnone => simp [hnone] at hk
  | suspended howes hone _ hloader =>
    rw [hone] at hk ⊢
    obtain ⟨rfl, rfl⟩ : place = 0 ∧ _ = k := by simpa [List.getElem?_singleton] using hk
    exact ⟨howes, rfl, hloader⟩

end Phase

/-- No response is sent while the client owes an answer to a redirect. -/
def Ordered (trace : List ClientMessage) : Prop :=
  Guarded (fun sent m => m.isResponse = true → owesFollow sent = false) trace

structure InOrder (c : Core) : Prop where
  order : Ordered c.trace
  phase : c.alive = true → Phase c

namespace InOrder

variable {c c' : Core}

theorem removed (h : Ordered c.trace)
    {out : List ClientMessage} (hout : Closing out) (hr : Removed c c' out) : InOrder c' := by
  refine ⟨?_, fun ha => by simp [hr.alive] at ha⟩
  rw [hr.trace]
  rcases hout with rfl | ⟨status, rfl⟩
  · simpa using h
  · exact h.concat nofun

/-- A start while the client owes nothing and nothing is suspended. -/
theorem startExit (h : Ordered c.trace)
    (howes : owesFollow c.trace = false) (hnone : c.continuations = []) {factoryBound : Bool}
    (hc : StartExit factoryBound c c') : InOrder c' := by
  have hmock := h.concat (x := .onReceiveResponse none (some {})) fun _ => howes
  cases hc with
  | removed hout hr => exact removed h hout hr
  | mockFailed hout hr =>
    refine removed (c := { c with trace := c.trace ++ [.onReceiveResponse none (some {})] }) hmock hout ?_
    exact ⟨hr.alive, by simp [hr.trace], hr.stored, hr.starts⟩
  | mocked =>
    have hbody := hmock.concat (x := .onStartLoadingResponseBody) nofun
    rw [List.append_assoc] at hbody
    exact ⟨hbody, fun _ => .running (by simpa [owesFollow, ClientMessage.owesAfter] using howes) hnone⟩
  | redirected _ _ =>
    exact ⟨h.concat nofun, fun _ =>
      .waiting (by simp [Core.delivered, ClientMessage.owesAfter]) hnone nofun⟩
  | @suspended k hk =>
    refine ⟨h, fun _ => .suspended (k := k) howes ?_ (Receiver.paused_ne_receiving _) fun hk' => absurd hk' hk⟩
    simp [Core.suspended, hnone]
  | started _ => exact ⟨h, fun _ => .running howes hnone⟩

theorem deliverExit (h : Ordered c.trace)
    (howes : owesFollow c.trace = false) (hnone : c.continuations = [])
    {lib : NetLibrary} {k : Continuation}
    (hloader : k ≠ .continueToResponseStarted → c.receiver.isBound = true → c.loaderAwaits = true)
    (hc : DeliverExit lib c k c') : InOrder c' := by
  cases hc with
  | removed hout hr => exact removed h hout hr
  | response _ _ =>
    refine ⟨h.concat fun _ => howes, fun _ => .running ?_ hnone⟩
    simpa [Core.delivered, ClientMessage.owesAfter] using howes
  | overrideRedirect _ _ _ _ =>
    exact ⟨h.concat nofun, fun _ =>
      .waiting (by simp [Core.delivered, ClientMessage.owesAfter]) hnone nofun⟩
  | redirect =>
    refine ⟨h.concat nofun, fun _ => .waiting ?_ hnone fun hbound => hloader nofun ?_⟩
    · simp [Core.redirected, Core.delivered, ClientMessage.owesAfter]
    · simpa [Core.redirected] using hbound

variable {Ω : Type} {lib : NetLibrary} {hooks : Hooks Ω} {factoryBound : Bool}
  {request : ResourceRequest}

theorem headersExit (h : Ordered c.trace) (howes : owesFollow c.trace = false)
    (hnone : c.continuations = []) {env : Env Ω} {head : StoredHead} {k : Continuation}
    (hloader : k ≠ .continueToResponseStarted → c.loaderAwaits = true)
    (hc : HeadersExit lib hooks env c head k c') : InOrder c' := by
  cases hc with
  | suspended _ _ _ =>
    refine ⟨h, fun _ => .suspended (k := k) howes ?_ (Receiver.paused_ne_receiving _) fun _ hk _ => hloader hk⟩
    simp [Core.suspended, Core.seen, Core.storedHead, hnone]
  | @delivered outcome _ _ hdeliver =>
    exact deliverExit (c := c.seen head outcome) h howes hnone (fun hk _ => hloader hk) hdeliver

theorem step {s : Slot} (h : InOrder s.core) (ha : s.alive = true) {e : RequestEvent Ω}
    (hpolite : Polite s e) (hc : CoreStep lib hooks factoryBound request s.core e c') : InOrder c' := by
  have hphase := h.phase ha
  cases hc with
  | silent _ => exact h
  | passed hpassed =>
    refine ⟨?_, fun _ => ?_⟩
    · cases hpassed <;> exact h.order.concat nofun
    · cases hpassed <;> exact hphase.congr (by simp [ClientMessage.owesAfter]) rfl rfl rfl
  | followRedirect hstart =>
    refine startExit (c := { s.core with trace := s.core.trace ++ [.followRedirect _] })
      (h.order.concat nofun) ?_
      (hphase.none_of_owes hpolite) hstart
    simp [ClientMessage.owesAfter]
  | clientDisconnect hout hr => exact removed h.order hout hr
  | onReceiveResponse hreceiver hheaders =>
    obtain ⟨howes, hnone⟩ := hphase.of_receiving hreceiver hpolite
    exact headersExit h.order howes hnone (fun hk => absurd rfl hk) hheaders
  | onReceiveRedirect hreceiver hheaders =>
    obtain ⟨howes, hnone⟩ := hphase.of_receiving hreceiver hpolite
    exact headersExit (c := { s.core with loaderAwaits := true }) h.order howes hnone
      (fun _ => rfl) hheaders
  | onComplete hout hr => exact removed h.order hout hr
  | @resumeHook place env k override _ hk _ hcontinue =>
    obtain ⟨howes, hnone, hloader⟩ := hphase.of_resumed hk
    let c : Core := { s.core with
      continuations := s.core.continuations.eraseIdx place, overrideHeaders := override }
    cases hcontinue with
    | start _ hstart => exact startExit (c := c) h.order howes hnone hstart
    | deliver hpoint hdeliver =>
      exact deliverExit (c := c) h.order howes hnone (hloader hpoint) hdeliver
  | onWrite => exact ⟨h.order, fun _ => hphase.congr rfl rfl rfl rfl⟩
  | onWriteComplete hout hr => exact removed h.order hout hr

theorem fresh : InOrder .fresh := ⟨guarded_nil, fun _ => .running rfl rfl⟩

end InOrder

/-- A response after a redirect: the client has answered the redirect in between. -/
theorem Ordered.answered {trace before between after : List ClientMessage} (h : Ordered trace)
    {redirect response : ClientMessage}
    (htrace : trace = before ++ redirect :: between ++ response :: after)
    (hredirect : ∀ owes, redirect.owesAfter owes = true) (hresponse : response.isResponse = true) :
    ∃ params, .followRedirect params ∈ between := by
  have howes := h _ response after htrace hresponse
  rw [owesFollow, List.foldl_append, List.foldl_cons, hredirect] at howes
  clear htrace
  induction between with
  | nil => simp at howes
  | cons m rest ih =>
    cases m with
    | followRedirect params => exact ⟨params, List.mem_cons_self ..⟩
    | _ =>
      obtain ⟨params, hparams⟩ := ih howes
      exact ⟨params, List.mem_cons_of_mem _ hparams⟩

section Runs
variable {Ω : Type} {lib : NetLibrary} {hooks : Hooks Ω} {renderProcessId frameTreeNodeId : Int}
  {generator : UInt64}

theorem sound_of_reachable {w : ProxyWorld}
    (h : (proxySystem lib hooks renderProcessId frameTreeNodeId generator).Reachable w)
    {p : Ptr} {s : Slot} (hs : w.slots p = some s) : Sound s.core := by
  refine slot_invariant ?_ ?_ ?_ (Reachable.onRequests h) hs
  · exact fun _ _ hstart => Sound.fresh.startExit rfl hstart
  · exact fun s e _ _ hI ha _ hc => hI.step ha hc
  · rintro c _ hI hdead ⟨ks, ws, rfl⟩
    exact { hI with }

theorem inOrder_of_reach {w : ProxyWorld}
    (h : (proxySystem lib hooks renderProcessId frameTreeNodeId generator).Reach
      (OnRequests Polite) w) {p : Ptr}
    {s : Slot} (hs : w.slots p = some s) : InOrder s.core := by
  refine slot_invariant ?_ ?_ ?_ h hs
  · exact fun _ _ hstart => InOrder.startExit InOrder.fresh.order rfl rfl hstart
  · exact fun s e _ _ hI ha hpolite hc => hI.step ha hpolite hc
  · rintro c _ hI hdead ⟨ks, ws, rfl⟩
    exact ⟨hI.order, fun ha => absurd hdead (by simp [show c.alive = true from ha])⟩

/-- **What the client sees of a request.** -/
theorem client_protocol :
    (∀ w, (proxySystem lib hooks renderProcessId frameTreeNodeId generator).Reachable w →
      ∀ p s, w.slots p = some s →
      (∀ before m after, s.trace = before ++ m :: after → m.isComplete = true → after = []) ∧
        (deliveries s.trace).Nodup ∧ ∀ n ∈ deliveries s.trace, n < s.stored.length) ∧
      ∀ w, (proxySystem lib hooks renderProcessId frameTreeNodeId generator).Reach
        (OnRequests Polite) w →
        ∀ p s, w.slots p = some s →
          ∀ before source redirectInfo head between source' head' after,
            s.trace = before ++ .onReceiveRedirect source redirectInfo head :: between ++
              .onReceiveResponse source' head' :: after →
            ∃ params, .followRedirect params ∈ between := by
  refine ⟨fun w hw p s hs => ⟨?_, ?_, ?_⟩, ?_⟩
  · intro before m after htrace hm
    rcases List.eq_nil_or_concat after with rfl | ⟨after', z, rfl⟩
    · rfl
    · have hclosed := (sound_of_reachable hw hs).closed (before ++ m :: after') z []
        (by simp [Slot.core, htrace])
      simp [hclosed m (by simp)] at hm
  · exact (sound_of_reachable hw hs).nodup
  · exact (sound_of_reachable hw hs).stored
  · intro w hw p s hs before source redirectInfo head between source' head' after htrace
    exact (inOrder_of_reach hw hs).order.answered htrace (fun _ => rfl) rfl

end Runs

def pageRedirect : RedirectInfo :=
  { newUrl := { scheme := "https", host := "page.example", path := "/next" }
    newMethod := "GET", statusCode := 302 }

/-- A redirect that the client answers, and a response. -/
theorem client_protocol_answered : ∃ w, (proxySystem plainLibrary passHooks 0 0 0).Reach
    (OnRequests Polite) w ∧
    ∃ s, w.slots 0 = some s ∧
      s.trace = [.onReceiveRedirect (some 0) pageRedirect (some {}), .followRedirect {},
          .onReceiveResponse (some 1) (some {}),
        .onComplete { errorCode := NetError.OK }] ∧
      (deliveries s.trace).Nodup ∧ ∃ params, .followRedirect params ∈
        [ClientMessage.followRedirect {}] := by
  have h := System.reach_of_replay (S := proxySystem plainLibrary passHooks 0 0 0)
    (C := OnRequests Polite)
    [.createLoaderAndStart 0 1 0 pageRequest 0 ⟨(), true⟩,
      .request 0 (.onReceiveRedirect pageRedirect {} ⟨(), true⟩),
      .request 0 (.followRedirect {} ⟨(), true⟩), .request 0 (.onReceiveResponse {} ⟨(), true⟩),
      .request 0 (.onComplete { errorCode := NetError.OK })] rfl
  refine ⟨_, h, _, rfl, rfl, (client_protocol.1 _ h.reachable 0 _ rfl).2.1, ?_⟩
  exact client_protocol.2 _ h 0 _ rfl [] (some 0) pageRedirect (some {}) _ (some 1) (some {})
    [.onComplete { errorCode := NetError.OK }] rfl

/-- The client follows only a redirect that it has not answered, and the network sends at most one
final head. -/
def OneFinalHead {Ω : Type} (s : Slot) : RequestEvent Ω → Prop
  | .followRedirect .. => owesFollow s.trace = true
  | .onReceiveResponse .. => ∀ h ∈ s.stored, h.kind ≠ .response
  | _ => True

instance {Ω : Type} (s : Slot) (e : RequestEvent Ω) : Decidable (OneFinalHead s e) :=
  match e with
  | .followRedirect .. => inferInstanceAs (Decidable (owesFollow s.trace = true))
  | .onReceiveResponse .. => inferInstanceAs (Decidable (∀ h ∈ s.stored, h.kind ≠ .response))
  | .setPriority .. | .pauseReadingBodyFromNet | .resumeReadingBodyFromNet | .clientDisconnect
      | .onReceiveEarlyHints |
    .onReceiveRedirect .. | .onUploadProgress .. | .onReceiveCachedMetadata _
      | .onTransferSizeUpdated _ |
    .onStartLoadingResponseBody | .onComplete _ | .resumeHook .. | .onWrite .. => .isTrue trivial

/-- A network loader that does not wait: its response passes the redirect that the client has not
answered. -/
theorem unanswered_redirect : ∃ w, (proxySystem plainLibrary passHooks 0 0 0).Reach
    (OnRequests OneFinalHead) w ∧
    ∃ s, w.slots 0 = some s ∧
      s.trace = [.onReceiveRedirect (some 0) pageRedirect (some {}),
          .onReceiveResponse (some 1) (some {})] :=
  ⟨_, System.reach_of_replay (S := proxySystem plainLibrary passHooks 0 0 0)
    (C := OnRequests OneFinalHead)
    [.createLoaderAndStart 0 1 0 pageRequest 0 ⟨(), true⟩,
      .request 0 (.onReceiveRedirect pageRedirect {} ⟨(), true⟩),
      .request 0 (.onReceiveResponse {} ⟨(), true⟩)] rfl, _, rfl, rfl⟩

/-! ## Started requests -/

/-- A start leaves the request with a loader, or done, if a loader or the target of the factory was
there. -/
def StartsDriven (c : Core) : Prop :=
  ∀ r ∈ c.starts, (r.driven = true ↔ r.loaderBound = true ∨ r.factoryBound = true)

namespace StartsDriven

variable {c c' : Core}

theorem of_starts (h : StartsDriven c) (hs : c'.starts = c.starts) : StartsDriven c' := by
  intro r hr
  exact h r (hs ▸ hr)

theorem startExit (h : StartsDriven c) {factoryBound : Bool} (hc : StartExit factoryBound c c') :
    StartsDriven c' := by
  cases hc with
  | removed _ hr => exact h.of_starts hr.starts
  | mockFailed _ hr => exact h.of_starts hr.starts
  | mocked => exact h
  | redirected _ _ => exact h
  | suspended _ => exact h
  | started _ =>
    intro r hr
    rcases List.mem_append.1 hr with hr | hr
    · exact h r hr
    · rw [List.mem_singleton.1 hr, Bool.or_eq_true]

theorem deliverExit (h : StartsDriven c) {lib : NetLibrary} {k : Continuation}
    (hc : DeliverExit lib c k c') :
    StartsDriven c' := by
  cases hc with
  | removed _ hr => exact h.of_starts hr.starts
  | _ => exact h

variable {Ω : Type} {lib : NetLibrary} {hooks : Hooks Ω} {factoryBound : Bool}
  {request : ResourceRequest}

theorem headersExit (h : StartsDriven c) {env : Env Ω} {head : StoredHead} {k : Continuation}
    (hc : HeadersExit lib hooks env c head k c') : StartsDriven c' := by
  cases hc with
  | suspended _ _ _ => exact h
  | @delivered outcome _ _ hdeliver => exact deliverExit (c := c.seen head outcome) h hdeliver

theorem step (h : StartsDriven c) {e : RequestEvent Ω}
    (hc : CoreStep lib hooks factoryBound request c e c') :
    StartsDriven c' := by
  cases hc with
  | silent _ => exact h
  | passed _ => exact h
  | followRedirect hstart =>
    exact startExit (c := { c with trace := c.trace ++ [.followRedirect _] }) h hstart
  | clientDisconnect _ hr => exact h.of_starts hr.starts
  | onReceiveResponse _ hheaders => exact h.headersExit hheaders
  | onReceiveRedirect _ hheaders =>
    exact headersExit (c := { c with loaderAwaits := true }) h hheaders
  | onComplete _ hr => exact h.of_starts hr.starts
  | @resumeHook place env k override _ _ _ hcontinue =>
    have hresumed : StartsDriven
        { c with continuations := c.continuations.eraseIdx place, overrideHeaders := override } := h
    cases hcontinue with
    | start _ hstart => exact hresumed.startExit hstart
    | deliver _ hdeliver => exact hresumed.deliverExit hdeliver
  | onWrite => exact h
  | onWriteComplete _ hr => exact h.of_starts hr.starts

end StartsDriven

/-- **When a started request is driven**: before the start it had a loader, or the factory had its
target. -/
theorem start_driven_iff {Ω : Type} {lib : NetLibrary} {hooks : Hooks Ω}
    {renderProcessId frameTreeNodeId : Int} {generator : UInt64} {w : ProxyWorld}
    (h : (proxySystem lib hooks renderProcessId frameTreeNodeId generator).Reachable w)
    {p : Ptr} {s : Slot} (hs : w.slots p = some s) {r : StartRecord} (hr : r ∈ s.starts) :
    r.driven = true ↔ r.loaderBound = true ∨ r.factoryBound = true := by
  have hdriven : StartsDriven s.core := by
    refine slot_invariant ?_ ?_ ?_ (Reachable.onRequests h) hs
    · exact fun _ _ hstart => StartsDriven.startExit (c := .fresh) nofun hstart
    · exact fun s e _ _ hI _ _ hc => hI.step hc
    · rintro c _ hI _ ⟨ks, ws, rfl⟩
      exact hI
  exact hdriven r hr

/-- A start while the target of the factory is there. -/
theorem start_driven_passed : ∃ w, (proxySystem plainLibrary passHooks 0 0 0).Reachable w ∧
    ∃ s, w.slots 0 = some s ∧ s.starts = [⟨false, true, true⟩] ∧
      (true = true ↔ false = true ∨ true = true) := by
  have h := System.reach_of_replay (S := proxySystem plainLibrary passHooks 0 0 0)
    (C := fun _ _ => True)
    [.createLoaderAndStart 0 1 0 pageRequest 0 ⟨(), true⟩] rfl
  exact ⟨_, h, _, rfl, rfl, start_driven_iff h (p := 0) rfl (r := ⟨false, true, true⟩)
    (List.mem_singleton.2 rfl)⟩

/-- A hook for the request that suspends it, and lets it pass later. -/
def suspendHooks : Hooks Unit :=
  { passHooks with onBeforeURLRequest := fun _ _ => { result := .ioPending } }

/-- The last receiver disconnects while the request is suspended: the request hangs, with nothing
sent. -/
theorem stranded_request : ∃ w, (proxySystem plainLibrary suspendHooks 0 0 0).Reachable w ∧
    ∃ s, w.slots 0 = some s ∧ s.alive = true ∧ s.object.targetLoader = false ∧ s.trace = [] ∧
      ∃ r ∈ s.starts, r.driven = false := by
  have h := System.reach_of_replay (S := proxySystem plainLibrary suspendHooks 0 0 0)
    (C := fun _ _ => True)
    [.createLoaderAndStart 0 1 0 pageRequest 0 ⟨(), true⟩, .proxyDisconnect 0,
      .request 0 (.resumeHook 0 ⟨(), true⟩)] rfl
  exact ⟨_, h, _, rfl, rfl, rfl, rfl, ⟨false, false, false⟩, List.mem_singleton.2 rfl, rfl⟩

end DumbBrowser
