import DumbBrowser.Browser.RequestJournal

/-!
# No load without the hook

Between a redirect and the loader that follows it lie two hooks, the client, and the proxy's own
redirects. A network loader goes where the client has been sent nevertheless, and only where the
hook before the request lets it.

* `loader_follows_client` : a loader that does not wait is where its client is.
* `complete_mediation` : no loader goes to a URL that the hook refuses.
* `polite_exec_ok` : no call of a request fails.
-/

namespace DumbBrowser

open NetError Exec

/-! ## Both pipes -/

/-- The pipes to and from a loader are bound together. -/
def Paired (c : Core) : Prop := c.alive = true → c.receiver.isBound = c.targetLoader

theorem Receiver.isBound_paused (r : Receiver) : r.paused.isBound = r.isBound := by
  cases r <;> rfl

namespace Paired

variable {c c' : Core}

theorem removed {out : List ClientMessage} (hr : Removed c c' out) : Paired c' := fun ha => by
  simp [hr.alive] at ha

theorem startExit (h : c.receiver.isBound = c.targetLoader) {factoryBound : Bool}
    (hc : StartExit factoryBound c c') :
    Paired c' := by
  cases hc with
  | removed _ hr => exact removed hr
  | mockFailed _ hr => exact removed hr
  | mocked => exact fun _ => (Receiver.isBound_resumed _).trans h
  | redirected _ _ => exact fun _ => rfl
  | suspended _ => exact fun _ => (Receiver.isBound_paused _).trans h
  | started _ =>
    intro _
    simp only [Core.started]
    split
    · next hnew =>
      rw [Bool.and_eq_true] at hnew
      rw [hnew.2, Bool.or_true, Receiver.isBound]
    · next hold =>
      rw [Receiver.isBound_resumed, h]
      revert hold
      cases c.targetLoader <;> cases factoryBound <;> simp

theorem deliverExit (h : c.receiver.isBound = c.targetLoader) {lib : NetLibrary} {k : Continuation}
    (hc : DeliverExit lib c k c') : Paired c' := by
  cases hc with
  | removed _ hr => exact removed hr
  | response _ hbound => exact fun _ => hbound.symm.trans h
  | overrideRedirect _ _ _ _ => exact fun _ => rfl
  | redirect => exact fun _ => (Receiver.isBound_resumed _).trans h

variable {Ω : Type} {lib : NetLibrary} {hooks : Hooks Ω} {factoryBound : Bool}
  {request : ResourceRequest}

theorem headersExit (h : c.receiver.isBound = c.targetLoader) {env : Env Ω}
    {head : StoredHead} {k : Continuation} (hc : HeadersExit lib hooks env c head k c') : Paired c' := by
  cases hc with
  | suspended _ _ _ => exact fun _ => (Receiver.isBound_paused _).trans h
  | @delivered outcome _ _ hdeliver => exact deliverExit (c := c.seen head outcome) h hdeliver

theorem step (h : c.receiver.isBound = c.targetLoader) {e : RequestEvent Ω}
    (hc : CoreStep lib hooks factoryBound request c e c') : Paired c' := by
  cases hc with
  | silent _ => exact fun _ => h
  | passed _ => exact fun _ => h
  | @followRedirect params _ _ hstart =>
    exact startExit (c := { c with trace := c.trace ++ [.followRedirect params] }) h hstart
  | clientDisconnect _ hr => exact removed hr
  | onReceiveResponse _ hheaders => exact headersExit h hheaders
  | onReceiveRedirect _ hheaders =>
    exact headersExit (c := { c with loaderAwaits := true }) h hheaders
  | onComplete _ hr => exact removed hr
  | @resumeHook place env k override _ _ _ hcontinue =>
    let resumed : Core := { c with
      continuations := c.continuations.eraseIdx place, overrideHeaders := override }
    cases hcontinue with
    | start _ hstart => exact startExit (c := resumed) h hstart
    | deliver _ hdeliver => exact deliverExit (c := resumed) h hdeliver
  | onWrite => exact fun _ => h
  | onWriteComplete _ hr => exact removed hr

end Paired

section Runs
variable {Ω : Type} {lib : NetLibrary} {hooks : Hooks Ω} {renderProcessId frameTreeNodeId : Int}
  {generator : UInt64} {C : Slot → RequestEvent Ω → Prop} {w : ProxyWorld} {p : Ptr} {s : Slot}

theorem paired_of_reach (h : (proxySystem lib hooks renderProcessId frameTreeNodeId generator).Reach
      (OnRequests C) w)
    (hs : w.slots p = some s) (ha : s.alive = true) :
    s.object.proxiedClientReceiver.isBound = s.object.targetLoader := by
  refine slot_invariant (I := Paired) ?_ ?_ ?_ h hs ha
  · exact fun _ _ hstart => .startExit rfl hstart
  · exact fun s e _ _ hpaired ha _ hc => .step (hpaired ha) hc
  · rintro c _ hpaired hdead ⟨ks, ws, rfl⟩
    exact fun ha => hpaired ha

end Runs

/-! ## One request -/

/-- A loader that does not wait is where the record of the request says. One that waits has reported
where the request goes next, is about to, or is about to be told. -/
structure OnCourse (r : Route) (j : Journal) : Prop where
  steady : r.awaits = false → j.visited.getLast? = some r.fetch.url ∧ ∀ k ∈ r.continuations,
    k = .continueToResponseStarted
  redirected : r.awaits = true → owesFollow r.trace = true → j.reported = r.fetch.url
  reporting : r.awaits = true →
    ∀ redirectInfo, .continueToBeforeRedirect redirectInfo ∈ r.continuations →
    j.reported = redirectInfo.newUrl
  following : r.awaits = true → owesFollow r.trace = false →
    (∀ redirectInfo, .continueToBeforeRedirect redirectInfo ∉ r.continuations) →
    ∃ params, r.pending = some params ∧ r.fetch.url = params.newUrl.getD j.reported

theorem OnCourse.of_steady {r : Route} {j : Journal} (hsteady : r.awaits = false)
    (hlast : j.visited.getLast? = some r.fetch.url)
    (hnone : ∀ k ∈ r.continuations, k = .continueToResponseStarted) :
    OnCourse r j where
  steady _ := ⟨hlast, hnone⟩
  redirected hwaits := by simp [hsteady] at hwaits
  reporting hwaits := by simp [hsteady] at hwaits
  following hwaits := by simp [hsteady] at hwaits

/-- No loader has been to a bad URL, and none is about to go there. -/
structure Mediated (bad : GURL → Prop) (r : Route) (j : Journal) : Prop where
  course : r.alive = true → r.loader ≠ none → OnCourse r j
  visited : ∀ u ∈ j.visited, ¬ bad u
  cleared : r.alive = true → .continueToSendHeaders ∈ r.continuations → ¬ bad r.fetch.url

namespace Mediated

variable {lib : NetLibrary} {bad : GURL → Prop} {cleared : Prop} {r r' : Route} {j : Journal}

/-- No hook is suspended, and a loader waits for what the client has answered. -/
structure Restarting (r : Route) (j : Journal) : Prop where
  unsuspended : r.continuations = []
  following : r.loader ≠ none → r.awaits = true ∧ owesFollow r.trace = false ∧
    ∃ params, r.pending = some params ∧ r.fetch.url = params.newUrl.getD j.reported

theorem gone (hvisited : ∀ u ∈ j.visited, ¬ bad u) {trace : List ClientMessage} :
    Mediated bad { r with alive := false, trace := trace } j where
  course := nofun
  visited := hvisited
  cleared := nofun

/-- A request without a loader and without a suspended hook. -/
theorem idle (hvisited : ∀ u ∈ j.visited, ¬ bad u) (hloader : r.loader = none)
    (hnone : r.continuations = []) :
    Mediated bad r j where
  course _ hl := absurd hloader hl
  visited := hvisited
  cleared _ hk := by simp [hnone] at hk

theorem start (hvisited : ∀ u ∈ j.visited, ¬ bad u) (h : Restarting r j)
    (hcleared : cleared → ¬ bad r.fetch.url) (hstart : StartRoute lib cleared r r') :
    Mediated bad r' (j.watch r.loader r'.loader) := by
  cases hstart with
  | gone _ =>
    rw [Journal.watch_self]
    exact gone hvisited
  | @mocked out hout =>
    rw [Journal.watch_self]
    refine ⟨fun _ hl => ?_, hvisited, fun _ hk => ?_⟩
    · obtain ⟨hawaits, howes, hpending⟩ := h.following hl
      have howes' : owesFollow (r.trace ++ out) = false := hout.owesFollow.trans howes
      exact ⟨fun hsteady => by simp [hawaits] at hsteady, fun _ hwaits => by simp [howes'] at hwaits,
        fun _ info hk => by simp [h.unsuspended] at hk, fun _ _ _ => hpending⟩
    · simp [h.unsuspended] at hk
  | @suspended k hk =>
    rw [Journal.watch_self]
    have hone : r.continuations ++ [k] = [k] := by rw [h.unsuspended, List.nil_append]
    refine ⟨fun _ hl => ?_, hvisited, fun _ hsend => ?_⟩
    · obtain ⟨hawaits, howes, hpending⟩ := h.following hl
      refine ⟨fun hsteady => by simp [hawaits] at hsteady,
        fun _ hwaits => by simp [howes] at hwaits, fun _ info hinfo => ?_, fun _ _ _ => hpending⟩
      have hinfo' : .continueToBeforeRedirect info = k := by simpa [hone] using hinfo
      subst hinfo'
      simp at hk
    · have hsend' : .continueToSendHeaders = k := by simpa [hone] using hsend
      subst hsend'
      exact hcleared (by simpa using hk)
  | redirected =>
    rw [Route.redirected_loader, Journal.watch_none]
    exact idle hvisited rfl h.unsuspended
  | @created l hc hloader hfetch hempty =>
    have hurl : l.request.url = r.fetch.url := congrArg Fetch.url hfetch
    rw [hloader, Journal.watch_created hempty]
    refine ⟨fun _ _ => .of_steady rfl (by simp [hurl])
      fun k hk => by simp [h.unsuspended] at hk, ?_,
      fun _ hk => by simp [h.unsuspended] at hk⟩
    intro u hu
    rcases List.mem_append.1 hu with hu | hu
    · exact hvisited u hu
    · rw [List.mem_singleton.1 hu, hurl]
      exact hcleared hc
  | @forwarded l params sent hc hloader hparams hsent =>
    obtain ⟨-, -, params', hpending, hurl⟩ := h.following (by simp [hloader])
    obtain rfl : params = params' := Option.some.inj (hparams.symm.trans hpending)
    have htell : j.watch r.loader (some (l.send (.followRedirect sent))) =
        { j with visited := j.visited ++ [r.fetch.url] } := by
      rw [hloader, NetLoader.send, Journal.watch_sent, hurl, ← hsent]
      rfl
    rw [htell]
    refine ⟨fun _ _ => .of_steady rfl (by simp) fun k hk => by simp [h.unsuspended] at hk, ?_,
      fun _ hk => by simp [h.unsuspended] at hk⟩
    intro u hu
    rcases List.mem_append.1 hu with hu | hu
    · exact hvisited u hu
    · rw [List.mem_singleton.1 hu]
      exact hcleared hc
  | idle hidle =>
    rw [Journal.watch_self]
    rcases hloader : r.loader with _ | l
    · exact idle hvisited rfl h.unsuspended
    · obtain ⟨-, -, params, hpending, -⟩ := h.following (by simp [hloader])
      simp [hloader, hpending] at hidle

/-- A head is about to be delivered by `k`, the only hook that might be suspended. -/
structure Delivering (k : Continuation) (r : Route) (j : Journal) : Prop where
  unsuspended : r.continuations = []
  answered : owesFollow r.trace = false
  course : r.loader ≠ none → OnCourse { r with continuations := [k] } j

theorem deliver (hvisited : ∀ u ∈ j.visited, ¬ bad u) {k : Continuation} (h : Delivering k r j)
    (hdeliver : DeliverRoute lib k r r') : Mediated bad r' (j.watch r.loader r'.loader) := by
  cases hdeliver with
  | gone _ =>
    rw [Journal.watch_self]
    exact gone hvisited
  | @response out hk hout =>
    subst hk
    rw [Journal.watch_self]
    refine ⟨fun _ hl => ?_, hvisited, fun _ hk => by simp [h.unsuspended] at hk⟩
    have hcourse := h.course hl
    have howes : owesFollow (r.trace ++ out) = false := hout.owesFollow.trans h.answered
    exact ⟨fun hsteady => ⟨(hcourse.steady hsteady).1, fun k hk => by simp [h.unsuspended] at hk⟩,
      fun _ hwaits => by simp [howes] at hwaits, fun _ info hk => by simp [h.unsuspended] at hk,
      fun hawaits _ _ => hcourse.following hawaits h.answered (by simp)⟩
  | @redirect source redirectInfo head hk =>
    subst hk
    rw [Route.redirected_loader, Journal.watch_self]
    refine ⟨fun _ hl => ?_, hvisited, fun _ hk => ?_⟩
    · have hcourse := h.course hl
      refine ⟨fun hsteady => ?_, fun hawaits _ => ?_, fun _ info hk => ?_,
        fun _ hanswered => by simp at hanswered⟩
      · exact absurd ((hcourse.steady hsteady).2 _ (List.mem_singleton_self _)) nofun
      · exact hcourse.reporting hawaits redirectInfo (List.mem_singleton_self _)
      · simp [h.unsuspended] at hk
    · simp [h.unsuspended] at hk
  | dropped =>
    rw [Route.redirected_loader, Journal.watch_none]
    exact idle hvisited rfl h.unsuspended

theorem headers (hvisited : ∀ u ∈ j.visited, ¬ bad u) {k : Continuation}
    (hk : k.hookPoint = .headersReceived) (h : Delivering k r j)
    (hheaders : HeadersRoute lib k r r') : Mediated bad r' (j.watch r.loader r'.loader) := by
  cases hheaders with
  | suspended =>
    rw [Journal.watch_self]
    have hone : r.continuations ++ [k] = [k] := by rw [h.unsuspended, List.nil_append]
    refine ⟨fun _ hl => ?_, hvisited, fun _ hsend => ?_⟩
    · have hcourse := h.course hl
      rwa [← hone] at hcourse
    · have hsend' : .continueToSendHeaders = k := by simpa [hone] using hsend
      subst hsend'
      cases hk
  | delivered hdeliver => exact deliver hvisited h hdeliver

theorem passed (h : Mediated bad r j) {out : List ClientMessage} (hout : KeepsCourse out)
    {ms : List LoaderMessage} (hms : ∀ m ∈ ms, m.params = none) : Mediated bad { r with
      loader := r.loader.map fun l =>
        { l with messages := l.messages ++ ms }, trace := r.trace ++ out }
      (j.watch r.loader (r.loader.map fun l => { l with messages := l.messages ++ ms })) := by
  have hself : j.watch r.loader (r.loader.map fun l =>
      { l with messages := l.messages ++ ms }) = j := by
    rcases r.loader with _ | l
    · rfl
    · exact Journal.watch_sent.trans (Journal.foldl_tell hms)
  have howes : owesFollow (r.trace ++ out) = owesFollow r.trace := hout.owesFollow
  rw [hself]
  refine ⟨fun ha hl => ?_, h.visited, h.cleared⟩
  have hcourse := h.course ha fun hnone => hl (by simp [hnone])
  exact ⟨hcourse.steady, fun hawaits hwaits => hcourse.redirected hawaits (howes ▸ hwaits), hcourse.reporting,
    fun hawaits hanswered => hcourse.following hawaits (howes ▸ hanswered)⟩

end Mediated

/-- A suspended hook does not let a bad URL pass in the end. -/
def RefusesAtEnd {Ω : Type} (hooks : Hooks Ω) (bad : GURL → Prop) (s : Slot) : RequestEvent Ω → Prop
  | .resumeHook place env => ∀ suspended ∈ s.continuations[place]?,
      suspended.continuation = .continueToBeforeSendHeaders → bad s.object.request.url →
        ¬ s.ClearedBy hooks suspended env
  | _ => True

instance {Ω : Type} (hooks : Hooks Ω) (bad : GURL → Prop) [DecidablePred bad] (s : Slot)
    (e : RequestEvent Ω) :
    Decidable (RefusesAtEnd hooks bad s e) :=
  match e with
  | .resumeHook place _ => inferInstanceAs (Decidable (∀ suspended ∈ s.continuations[place]?,
      suspended.continuation = .continueToBeforeSendHeaders → bad s.object.request.url →
        ¬ s.ClearedBy hooks suspended _))
  | .followRedirect .. | .onReceiveResponse .. | .onReceiveRedirect .. | .setPriority ..
      | .pauseReadingBodyFromNet |
    .resumeReadingBodyFromNet | .clientDisconnect | .onReceiveEarlyHints | .onUploadProgress ..
      | .onReceiveCachedMetadata _ |
    .onTransferSizeUpdated _ | .onStartLoadingResponseBody | .onComplete _ | .onWrite .. => .isTrue trivial

theorem Phase.awaits_of_owes {c : Core} (h : Phase c) (howes : owesFollow c.trace = true)
    (hbound : c.receiver.isBound = true) : c.loaderAwaits = true := by
  cases h with
  | waiting _ _ hwaits => exact hwaits hbound
  | running ho _ => simp [howes] at ho
  | suspended ho _ _ _ => simp [howes] at ho

theorem Phase.only {c : Core} (h : Phase c) {k : Continuation} (hk : k ∈ c.continuations) :
    c.continuations = [k] := by
  rcases h.atMostOne with hnone | ⟨k', hone, -⟩
  · simp [hnone] at hk
  · rw [hone, List.mem_singleton] at hk
    rw [hone, hk]

theorem targetLoader_of_bound {s : Slot} (hl : s.route.loader ≠ none) :
    s.object.targetLoader = true := by
  rcases hbound : s.object.targetLoader with _ | _
  · exact absurd (boundLoader_of_unbound hbound) hl
  · rfl

section Step
variable {Ω : Type} {lib : NetLibrary} {hooks : Hooks Ω} {bad : GURL → Prop} {s : Slot}
  {j : Journal} {r' : Route}

/-- What a suspended hook leaves before it ends. -/
theorem Mediated.resumed (h : Mediated bad s.route j) (ha : s.alive = true) (hphase : Phase s.core)
    {place : Nat} {env : Env Ω} {suspended : Suspended}
    (hplace : s.continuations[place]? = some suspended)
    (hend : RefusesAtEnd hooks bad s (.resumeHook place env))
    (hcontinue : ContinuationRoute lib (s.ClearedBy hooks suspended env)
      suspended.continuation { s.route with continuations := s.route.continuations.eraseIdx place } r') :
    Mediated bad r' (j.watch s.route.loader r'.loader) := by
  have hk : s.core.continuations[place]? = some suspended.continuation := by
    simp [Slot.core, hplace]
  obtain ⟨howes, hnone, -⟩ := hphase.of_resumed hk
  have hmem : suspended.continuation ∈ s.route.continuations := List.mem_of_getElem? hk
  have hone : s.route.continuations = [suspended.continuation] := hphase.only hmem
  cases hcontinue with
  | start hpoint hstart =>
    refine Mediated.start (r := { s.route with
      continuations := s.route.continuations.eraseIdx place }) h.visited
      ⟨hnone, fun hl => ?_⟩ (fun hcleared hbad => ?_) hstart
    · -- the loader waits, as no hook for a head is suspended
      have hcourse := h.course ha hl
      have hawaits : s.route.awaits = true := by
        rcases hsteady : s.route.awaits with _ | _
        · have hresponse := (hcourse.steady hsteady).2 _ hmem
          simp [hresponse, Continuation.hookPoint] at hpoint
        · rfl
      refine ⟨hawaits, howes, hcourse.following hawaits howes fun info hinfo => hpoint ?_⟩
      rw [hone, List.mem_singleton] at hinfo
      rw [← hinfo, Continuation.hookPoint]
    · -- the hook has let the request pass, now or before
      rcases hcontinuation : suspended.continuation with _ | _ | _ | info
      · exact hend suspended hplace hcontinuation hbad (hcleared hcontinuation)
      · exact h.cleared ha (hcontinuation ▸ hmem) hbad
      · simp [hcontinuation, Continuation.hookPoint] at hpoint
      · simp [hcontinuation, Continuation.hookPoint] at hpoint
  | deliver hpoint hdeliver =>
    refine Mediated.deliver (r := { s.route with
      continuations := s.route.continuations.eraseIdx place }) h.visited
      ⟨hnone, howes, fun hl => ?_⟩ hdeliver
    have hcourse := h.course ha hl
    rwa [← hone]

/-- A redirect or a response of a loader that does not wait. -/
theorem Mediated.received (h : Mediated bad s.route j) (ha : s.alive = true) (hphase : Phase s.core)
    (hreceiver : s.core.receiver = .bound false) (hawaits : s.loaderAwaits = false) :
    Mediated.Delivering .continueToResponseStarted s.route j ∧ s.route.continuations = [] ∧
    owesFollow s.route.trace = false := by
  obtain ⟨howes, hnone⟩ := hphase.of_receiving hreceiver hawaits
  refine ⟨⟨hnone, howes, fun hl => ?_⟩, hnone, howes⟩
  have hsteady := ((h.course ha hl).steady hawaits).1
  have hwaits : s.route.awaits ≠ true := by simp [Slot.route, hawaits]
  exact ⟨fun _ => ⟨hsteady, fun k hk => List.mem_singleton.1 hk⟩, fun hw => absurd hw hwaits,
    fun hw => absurd hw hwaits,
    fun hw => absurd hw hwaits⟩

theorem Mediated.step (h : Mediated bad s.route j) (ha : s.alive = true) (hphase : Phase s.core)
    (hpaired : s.object.proxiedClientReceiver.isBound = s.object.targetLoader) {e : RequestEvent Ω}
    (hen : e.isEnabled s = true) (hpolite : Polite s e)
    (hrefuses : ∀ url, bad url → ¬ hooks.Passes url) (hend : RefusesAtEnd hooks bad s e)
    (hstep : RouteStep lib hooks s e r') :
    Mediated bad r' ((j.report e).watch s.route.loader r'.loader) := by
  cases hstep with
  | @followRedirect params env _ hstart =>
    have hnone : s.route.continuations = [] := hphase.none_of_owes hpolite
    refine Mediated.start (r := s.followed params) h.visited ⟨hnone, fun hl => ?_⟩
      (fun hpasses hbad => hrefuses _ hbad hpasses)
      hstart
    have hbound := targetLoader_of_bound hl
    have hawaits : s.route.awaits = true := hphase.awaits_of_owes hpolite (hpaired.trans hbound)
    have hreported := (h.course ha hl).redirected hawaits hpolite
    refine ⟨hawaits, by simp [Slot.followed, ClientMessage.owesAfter], params, if_pos hbound, ?_⟩
    exact congrArg params.newUrl.getD hreported.symm
  | onReceiveResponse hheaders =>
    have hreceived := h.received ha hphase (receiver_of_enabled (f := ⟨.new 0 0 0, s⟩) hen) hpolite
    exact Mediated.headers h.visited rfl hreceived.1 hheaders
  | @onReceiveRedirect redirectInfo head env _ hheaders =>
    obtain ⟨-, hnone, howes⟩ := h.received ha hphase
      (receiver_of_enabled (f := ⟨.new 0 0 0, s⟩) hen) hpolite
    refine Mediated.headers (r := { s.route with awaits := true }) h.visited rfl ⟨hnone, howes,
      fun _ => ?_⟩ hheaders
    refine ⟨fun hsteady => absurd hsteady.symm Bool.false_ne_true,
      fun _ hwaits => by simp [howes] at hwaits,
      fun _ info hinfo => ?_, fun _ _ hno => ?_⟩
    · rw [List.mem_singleton] at hinfo
      cases hinfo
      rfl
    · exact absurd (List.mem_singleton_self _) (hno redirectInfo)
  | resumeHook hplace hcontinue => exact h.resumed ha hphase hplace hend hcontinue
  | passed hkind hout hms =>
    rw [Journal.report_of_unredirected hkind]
    exact h.passed hout hms
  | gone hkind _ =>
    rw [Journal.report_of_unredirected hkind, Journal.watch_self]
    exact Mediated.gone h.visited

end Step

/-! ## Every run -/

section Runs
variable {Ω : Type} {lib : NetLibrary} {hooks : Hooks Ω} {renderProcessId frameTreeNodeId : Int}
  {generator : UInt64} {bad : GURL → Prop} {w : ProxyWorld} {journals : Ptr → Option Journal}
  {p : Ptr} {s : Slot}

theorem OnRequests.mono {C D : Slot → RequestEvent Ω → Prop}
    (hCD : ∀ s e, C s e → D s e) {e : ProxyEvent Ω} (h : OnRequests C w e) : OnRequests D w e := by
  cases e with
  | request p e => exact fun s hs => hCD s e (h s hs)
  | createLoaderAndStart _ _ _ _ _ _ => trivial
  | clone _ => trivial
  | proxyDisconnect _ => trivial
  | targetFactoryError => trivial

theorem mediated_of_reach (hrefuses : ∀ url, bad url → ¬ hooks.Passes url)
    (h : (observedProxies lib hooks renderProcessId frameTreeNodeId generator).Reach
      (fun w e => OnRequests (fun s e => Polite s e ∧ RefusesAtEnd hooks bad s e) w.1 e) (w, journals))
    (hs : w.slots p = some s) : ∃ j, journals p = some j ∧ Mediated bad s.route j := by
  refine journal_invariant ?_ ?_ ?_ h hs
  · intro request r hstart
    exact Mediated.start (r := .fresh request) (by simp) ⟨rfl, fun hl => absurd rfl hl⟩
      (fun hpasses hbad => hrefuses _ hbad hpasses) hstart
  · intro w p s e r j hreach hs ha hen hC hmediated hstep
    have hpolite := hreach.mono fun _ _ => OnRequests.mono fun _ _ => And.left
    exact hmediated.step ha (waits_of_reach hpolite hs ha).1 (paired_of_reach hreach hs ha) hen
      hC.1 hrefuses hC.2 hstep
  · intro r j ks hdead hmediated
    exact ⟨fun ha => absurd (hdead.symm.trans ha) nofun, hmediated.visited, fun ha =>
      absurd (hdead.symm.trans ha) nofun⟩

/-- **No loader goes to a URL that the hook before the request refuses**, at once or at the end:
neither the first loader nor a later one, and none that is told to follow a redirect. -/
theorem complete_mediation (hrefuses : ∀ url, bad url → ¬ hooks.Passes url)
    (h : (observedProxies lib hooks renderProcessId frameTreeNodeId generator).Reach
      (fun w e => OnRequests (fun s e => Polite s e ∧ RefusesAtEnd hooks bad s e) w.1 e) (w, journals))
    (hs : w.slots p = some s) : ∃ j, journals p = some j ∧ ∀ url ∈ j.visited, ¬ bad url := by
  obtain ⟨j, hj, hmediated⟩ := mediated_of_reach hrefuses h hs
  exact ⟨j, hj, hmediated.visited⟩

/-- **A network loader is where its client has been sent.** While it waits for the client's answer,
it has reported the URL that the client has been redirected to. -/
theorem loader_follows_client
    (h : (observedProxies lib hooks renderProcessId frameTreeNodeId generator).Reach
      (fun w e => OnRequests Polite w.1 e)
      (w, journals))
    (hs : w.slots p = some s) (ha : s.alive = true) {l : NetLoader} (hl : s.boundLoader = some l) :
    ∃ j, journals p = some j ∧
      (s.loaderAwaits = false → j.visited.getLast? = some (fetched lib j.original s.trace).url) ∧
      (s.loaderAwaits = true → owesFollow s.trace = true →
          j.reported = (fetched lib j.original s.trace).url) := by
  have hboth : (observedProxies lib hooks renderProcessId frameTreeNodeId generator).Reach (fun w e =>
      OnRequests (fun s e => Polite s e ∧ RefusesAtEnd hooks (fun _ => False) s e) w.1 e) (w, journals) :=
    h.mono fun _ _ => OnRequests.mono fun s e hpolite =>
      ⟨hpolite, by cases e <;> simp [RefusesAtEnd]⟩
  obtain ⟨j, hj, hmediated⟩ := mediated_of_reach (fun _ => False.elim) hboth hs
  obtain ⟨j', hj', hrecords⟩ := journal_of_reach (h.mono fun _ _ _ => trivial) hs
  obtain rfl : j = j' := Option.some.inj (hj.symm.trans hj')
  have hurl : s.route.fetch.url = (fetched lib j.original s.trace).url :=
    congrArg Fetch.url hrecords
  have hcourse := hmediated.course ha (by simp [Slot.route, hl])
  refine ⟨j, hj, ?_⟩
  rw [← hurl]
  exact ⟨fun hsteady => (hcourse.steady hsteady).1, hcourse.redirected⟩

end Runs

/-! ## No call fails -/

section Runs
variable {Ω : Type} {lib : NetLibrary} {hooks : Hooks Ω} {renderProcessId frameTreeNodeId : Int}
  {generator : UInt64} {w : ProxyWorld} {p : Ptr} {s : Slot}

theorem runAt_total {m : Method Unit} {Q : Unit → Frame → Prop}
    (hm : wp m (fun _ => False) Q ⟨w.factory, s⟩) :
    ∃ w', w.runAt p s m = .ok w' := by
  obtain ⟨_, f', hrun, -⟩ := wp_total hm
  exact ⟨_, by rw [ProxyWorld.runAt, hrun]⟩

/-- An event is handled where every request has what its continuations need. -/
theorem exec_total (hw : w.Consistent)
    (hctx : ∀ p s, w.slots p = some s → s.alive = true → s.object.ctx.isSome = true)
    (hdelivers : ∀ p s, w.slots p = some s → s.alive = true →
      ∀ k ∈ s.core.continuations, s.Delivers k)
    {e : ProxyEvent Ω} (hen : w.isEnabled e = true) : ∃ w', w.exec lib hooks e = .ok w' := by
  cases e with
  | createLoaderAndStart receiver requestId options request trafficAnnotationTag env =>
    simp only [ProxyWorld.isEnabled, Bool.and_eq_true] at hen
    have hnew := ProxyWorld.emplace_consistent hw hen.1 (s := ⟨true, w.factory.generate.2.newRequest
      w.factory.generate.1 requestId options request trafficAnnotationTag, 0, none, false, [], [],
        [], [], [], false⟩) rfl
    have hready := hnew.ready (Function.update_self ..) rfl
    exact runAt_total (w := { w with factory := w.factory.generate.2.emplaceRequest })
      (@restartInternal_keeps Ω lib hooks _ _ hready env)
  | clone receiver => exact ⟨_, rfl⟩
  | proxyDisconnect receiver =>
    simp only [ProxyWorld.isEnabled, Bool.and_eq_true, List.contains_iff_mem] at hen
    obtain ⟨g, hg, -⟩ := ProxyFactory.onProxyBindingError_spec (hw.factory.held hen.1) hen.2
    exact ⟨_, by rw [ProxyWorld.exec, hg]; rfl⟩
  | targetFactoryError =>
    simp only [ProxyWorld.isEnabled, Bool.and_eq_true] at hen
    obtain ⟨g, hg, -⟩ := ProxyFactory.onTargetFactoryError_spec (hw.factory.held hen.1)
    exact ⟨_, by rw [ProxyWorld.exec, hg]; rfl⟩
  | request p e =>
    obtain ⟨s, hs, hevent⟩ := (Option.any_eq_true ..).1 hen
    simp only [ProxyWorld.exec, hs]
    rcases ha : s.alive with _ | _
    · exact runAt_total (RequestEvent.run_dead_total (f := ⟨w.factory, s⟩) ha e hevent)
    · exact runAt_total (RequestEvent.run_keeps (hw.ready hs ha) (hctx p s hs ha)
        (hdelivers p s hs ha) e hevent)

/-- **In a polite run no call fails**: no object is used after it is deleted, nothing null is
dereferenced, no unbound receiver is paused or resumed, and no check of the factory fails; the
`NOTREACHED` of a header that is to be set is reached by no event that leaves the request with all
the headers that its context says the hooks have set. -/
theorem polite_exec_ok (h : (proxySystem lib hooks renderProcessId frameTreeNodeId generator).Reach
      (OnRequests Polite) w)
    {e : ProxyEvent Ω} (hen : w.isEnabled e = true) : ∃ w', w.exec lib hooks e = .ok w' ∧
      ∀ p s', w'.slots p = some s' → s'.notReached = true →
        (∃ s, w.slots p = some s ∧ s.notReached = true) ∨ s'.object.LacksSetHeader := by
  have hw := Reachable.consistent h.reachable
  have hctx : ∀ p s, w.slots p = some s → s.alive = true → s.object.ctx.isSome = true := fun p s hs ha =>
    ctx_of_reach (fun _ hw _ _ hs ha => delivers_of_reach hw hs ha) h hs ha
  obtain ⟨w', hex⟩ := exec_total hw hctx (fun p s => delivers_of_reach h) hen
  exact ⟨w', hex, fun p s' hs' =>
    (slotRun_of_exec hw hen hex hs').notReached hw (hctx p) (fun s => delivers_of_reach h)⟩

end Runs

/-! ## Concrete runs -/

def Blocked (url : GURL) : Prop := url.host = "blocked.example"

instance : DecidablePred Blocked :=
  fun url => inferInstanceAs (Decidable (url.host = "blocked.example"))

/-- A filter that suspends what it does not block when the outside world says so, as does the hook
before the start. -/
def filterHooks : Hooks Bool where
  onBeforeURLRequest suspends ctx :=
    { result := if Blocked ctx.requestUrl then .blockedByClient else if suspends then .ioPending else .ok }
  onBeforeStartTransaction suspends _ _ := { result := if suspends then .ioPending else .ok }
  onHeadersReceived _ _ _ := { result := .ok }
  resume _ _ := (OK, {})

theorem filterHooks_refuse (url : GURL) (hbad : Blocked url) : ¬ filterHooks.Passes url := by
  rintro ⟨suspends, ctx, rfl, hresult, -⟩
  simp [filterHooks, hbad] at hresult

/-- The filter suspends the first request, and the client goes elsewhere than it is redirected. -/
theorem complete_mediation_elsewhere : ∃ w journals j,
    (observedProxies plainLibrary filterHooks 0 0 0).Reach (fun w e =>
      OnRequests (fun s e => Polite s e ∧ RefusesAtEnd filterHooks Blocked s e) w.1 e) (w, journals) ∧
    journals 0 = some j ∧ j.visited = [pageRequest.url, elsewhere] ∧
    ∀ url ∈ j.visited, ¬ Blocked url := by
  have h := System.reach_of_replay (S := observedProxies plainLibrary filterHooks 0 0 0)
    (C := fun w e => OnRequests (fun s e => Polite s e ∧ RefusesAtEnd filterHooks Blocked s e) w.1 e)
    [.createLoaderAndStart 0 1 0 pageRequest 0 ⟨true, true⟩,
      .request 0 (.resumeHook 0 ⟨false, true⟩),
      .request 0 (.onReceiveRedirect pageRedirect {} ⟨false, true⟩),
      .request 0 (.followRedirect { newUrl := some elsewhere } ⟨false, true⟩)] rfl
  obtain ⟨j, hj, hmediated⟩ := complete_mediation filterHooks_refuse h (p := 0) rfl
  exact ⟨_, _, j, h, hj, congrArg Journal.visited (Option.some.inj hj).symm, hmediated⟩

theorem loader_follows_client_elsewhere : ∃ w journals s j,
    (observedProxies plainLibrary passHooks 0 0 0).Reach
      (fun w e => OnRequests Polite w.1 e) (w, journals) ∧ w.slots 0 = some s ∧
        journals 0 = some j ∧
    s.loaderAwaits = false ∧ j.visited.getLast? =
    some (fetched plainLibrary j.original s.trace).url := by
  have h := System.reach_of_replay (S := observedProxies plainLibrary passHooks 0 0 0)
    (C := fun w e => OnRequests Polite w.1 e)
    [.createLoaderAndStart 0 1 0 pageRequest 0 ⟨(), true⟩,
      .request 0 (.onReceiveRedirect pageRedirect {} ⟨(), true⟩),
      .request 0 (.followRedirect { newUrl := some elsewhere } ⟨(), true⟩)] rfl
  obtain ⟨j, hj, hsteady, -⟩ := loader_follows_client h (p := 0) rfl rfl rfl
  exact ⟨_, _, _, j, h, rfl, hj, rfl, hsteady rfl⟩

theorem polite_exec_ok_response : ∃ w, (proxySystem plainLibrary passHooks 0 0 0).Reach
    (OnRequests Polite) w ∧
    ∃ w', w.exec plainLibrary passHooks
    (.request 0 (.onReceiveResponse {} ⟨(), true⟩)) = .ok w' := by
  have h := System.reach_of_replay (S := proxySystem plainLibrary passHooks 0 0 0)
    (C := OnRequests Polite)
    [.createLoaderAndStart 0 1 0 pageRequest 0 ⟨(), true⟩] rfl
  obtain ⟨w', hex, -⟩ := polite_exec_ok h (e := .request 0 (.onReceiveResponse {} ⟨(), true⟩)) rfl
  exact ⟨_, h, w', hex⟩

end DumbBrowser
