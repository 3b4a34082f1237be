import DumbBrowser.Browser.HeadersReceived
import DumbBrowser.Browser.RequestMembers

/-!
# Recreated loaders

A redirect of the proxy's own drops the network loader, and the next start creates another one from
the record of the request.

* `recreated_loader_iff` : when a new loader has the headers that the first one would have by now.
-/

namespace DumbBrowser

open NetError Exec

/-! ## The loader that is never dropped -/

/-- The redirects that the client has followed. -/
def ClientMessage.params : ClientMessage → Option FollowRedirectParams
  | followRedirect params => some params
  | _ => none

def followed (trace : List ClientMessage) : List FollowRedirectParams := trace.filterMap (·.params)

@[simp] theorem followed_append (trace trace' : List ClientMessage) :
    followed (trace ++ trace') = followed trace ++ followed trace' := List.filterMap_append

/-- The headers of a loader that is created first and sent all the redirects. -/
def neverDropped (original : ResourceRequest) (trace : List ClientMessage) : LoaderHeaders :=
  (followed trace).foldl LoaderHeaders.followRedirect original.loaderHeaders

theorem neverDropped_of_followed {original : ResourceRequest} {trace trace' : List ClientMessage}
    {calls : List FollowRedirectParams} (h : followed trace' = followed trace ++ calls) :
    neverDropped original trace' = calls.foldl LoaderHeaders.followRedirect
    (neverDropped original trace) := by
  rw [neverDropped, h, List.foldl_append, neverDropped]

/-- The value that the client has set last for the CORS-exempt header. -/
def lastCorsExempt (trace : List ClientMessage) (name : String) : Option String :=
  HttpRequestHeaders.getHeader ((followed trace).flatMap (·.modifiedCorsExemptHeaders)).reverse name

def LoaderHeaders.Same (h h' : LoaderHeaders) : Prop :=
  h.headers.SameHeaders h'.headers ∧ h.corsExemptHeaders.SameHeaders h'.corsExemptHeaders

theorem foldl_corsExemptHeaders (calls : List FollowRedirectParams) (h : LoaderHeaders) :
    (calls.foldl LoaderHeaders.followRedirect h).corsExemptHeaders =
      h.corsExemptHeaders.mergeFrom (calls.flatMap (·.modifiedCorsExemptHeaders)) := by
  induction calls generalizing h with
  | nil => rfl
  | cons params calls ih =>
    rw [List.foldl_cons, ih, List.flatMap_cons, HttpRequestHeaders.mergeFrom_append]
    rfl

theorem neverDropped_corsExempt {original : ResourceRequest}
    {trace : List ClientMessage} {name : String} :
    (neverDropped original trace).corsExemptHeaders.getHeader name =
      (lastCorsExempt trace name).or (original.corsExemptHeaders.getHeader name) := by
  rw [neverDropped, foldl_corsExemptHeaders, HttpRequestHeaders.getHeader_mergeFrom_reverse]
  rfl

/-- The record of a request that never merges CORS-exempt headers. -/
theorem same_neverDropped_iff {original : ResourceRequest} {trace : List ClientMessage} :
    LoaderHeaders.Same ⟨(neverDropped original trace).headers, original.corsExemptHeaders⟩
    (neverDropped original trace) ↔
      ∀ name value, lastCorsExempt trace name = some value →
        original.corsExemptHeaders.getHeader name = some value := by
  constructor
  · intro hsame name value hlast
    rw [hsame.2 name, neverDropped_corsExempt, hlast, Option.some_or]
  · refine fun hlast => ⟨fun _ => rfl, fun name => ?_⟩
    rw [neverDropped_corsExempt]
    rcases hvalue : lastCorsExempt trace name with _ | value
    · rw [Option.none_or]
    · rw [Option.some_or, hlast name value hvalue]

/-! ## The redirects that a request has taken over -/

def RequestEvent.calls {Ω : Type} : RequestEvent Ω → List FollowRedirectParams
  | .followRedirect params _ => [params]
  | _ => []

section Calls
variable {c c' : Core} {out : List ClientMessage}

theorem followed_closing (hout : Closing out) : followed out = [] := by
  rcases hout with rfl | ⟨status, rfl⟩ <;> rfl

theorem Removed.followed_eq (hr : Removed c c' out) (hout : Closing out) :
    followed c'.trace = followed c.trace := by
  rw [hr.trace, followed_append, followed_closing hout, List.append_nil]

theorem StartExit.followed_eq {factoryBound : Bool} (h : StartExit factoryBound c c') :
    followed c'.trace = followed c.trace := by
  cases h with
  | removed hout hr => exact hr.followed_eq hout
  | @mockFailed _ out hout hr =>
    have hnone : followed (.onReceiveResponse none (some {}) :: out) = followed out := rfl
    rw [hr.trace, followed_append, hnone, followed_closing hout, List.append_nil]
  | mocked => exact (followed_append ..).trans (List.append_nil _)
  | redirected _ _ => exact (followed_append ..).trans (List.append_nil _)
  | suspended _ => rfl
  | started _ => rfl

theorem DeliverExit.followed_eq {lib : NetLibrary} {k : Continuation} (h : DeliverExit lib c k c') :
    followed c'.trace = followed c.trace := by
  cases h with
  | removed hout hr => exact hr.followed_eq hout
  | response _ _ => exact (followed_append ..).trans (List.append_nil _)
  | overrideRedirect _ _ _ _ => exact (followed_append ..).trans (List.append_nil _)
  | redirect => exact (followed_append ..).trans (List.append_nil _)

variable {Ω : Type} {lib : NetLibrary} {hooks : Hooks Ω} {factoryBound : Bool}
  {request : ResourceRequest}

theorem HeadersExit.followed_eq {env : Env Ω} {head : StoredHead} {k : Continuation}
    (h : HeadersExit lib hooks env c head k c') : followed c'.trace = followed c.trace := by
  cases h with
  | suspended _ _ _ => rfl
  | delivered _ hdeliver => exact hdeliver.followed_eq

theorem CoreStep.followed_eq {e : RequestEvent Ω}
    (h : CoreStep lib hooks factoryBound request c e c') :
    followed c'.trace = followed c.trace ++ e.calls := by
  cases h with
  | silent hsilent => cases hsilent <;> exact (List.append_nil _).symm
  | passed hpassed => cases hpassed <;> exact followed_append ..
  | followRedirect hstart => exact hstart.followed_eq.trans (followed_append ..)
  | clientDisconnect hout hr => exact (hr.followed_eq hout).trans (List.append_nil _).symm
  | onReceiveResponse _ hheaders => exact hheaders.followed_eq.trans (List.append_nil _).symm
  | onReceiveRedirect _ hheaders => exact hheaders.followed_eq.trans (List.append_nil _).symm
  | onComplete hout hr => exact (hr.followed_eq hout).trans (List.append_nil _).symm
  | resumeHook _ _ hcontinue =>
    cases hcontinue with
    | start _ hstart => exact hstart.followed_eq.trans (List.append_nil _).symm
    | deliver _ hdeliver => exact hdeliver.followed_eq.trans (List.append_nil _).symm
  | onWrite => exact (List.append_nil _).symm
  | onWriteComplete hout hr => exact (hr.followed_eq hout).trans (List.append_nil _).symm

end Calls

/-! ## Every run -/

/-- The request records the redirects, and no hook before its start is suspended. -/
structure Carries (original : ResourceRequest) (s : Slot) : Prop where
  unsuspended : ∀ k ∈ s.core.continuations, k.hookPoint ≠ .beforeStartTransaction
  headers : s.object.request.loaderHeaders =
    ⟨(neverDropped original s.trace).headers, original.corsExemptHeaders⟩

section Runs
variable {Ω : Type} {lib : NetLibrary} {onBeforeURLRequest : Ω → DumbRequestInfo → HookOutcome}
  {resume : Ω → Continuation → Int × HookWrites} {renderProcessId frameTreeNodeId : Int}
  {generator : UInt64}
  {w w' : ProxyWorld} {p : Ptr} {s s' : Slot} {original : ResourceRequest}

theorem handlerHooks_leaveHeaders :
    (handlerHooks lib onBeforeURLRequest resume).LeaveHeaders := fun _ _ _ => rfl

theorem unsuspended_of_suspend {k : Continuation}
    (h : (handlerHooks lib onBeforeURLRequest resume).Suspend k) :
    k.hookPoint ≠ .beforeStartTransaction := by
  intro hpoint
  rw [Hooks.Suspend, hpoint] at h
  obtain ⟨_, _, _, hpending⟩ := h
  cases hpending

variable (h : (proxySystem lib (handlerHooks lib onBeforeURLRequest resume) renderProcessId
    frameTreeNodeId generator).Reachable w)
include h

/-- No hook for the headers is suspended, so every continuation finds what it dereferences. -/
theorem prepared_of_reachable (hs : w.slots p = some s) (ha : s.alive = true) :
    s.object.ctx.isSome = true ∧ ∀ k ∈ s.core.continuations, s.Delivers k := by
  have hdelivers (w p s) (hw : (proxySystem lib (handlerHooks lib onBeforeURLRequest resume)
    renderProcessId frameTreeNodeId
      generator).Reachable w) (hs : w.slots p = some s)
        (ha : s.alive = true) : ∀ k ∈ s.core.continuations, s.Delivers k := by
    rintro k hk rfl
    exact absurd rfl ((Delivers.of_reachable hw hs).unsuspended ha _ hk)
  refine ⟨?_, hdelivers w p s h hs ha⟩
  exact ctx_of_reach (fun w hw p s hs ha => hdelivers w p s hw.reachable hs ha)
    (Reachable.onRequests h) hs ha

/-- An event of a request that is alive, with what it keeps. -/
theorem keeps_of_run (hs : w.slots p = some s) (ha : s.alive = true) {e : RequestEvent Ω}
    (hen : e.isEnabled s = true) {f' : Frame}
    (hrun : e.run lib (handlerHooks lib onBeforeURLRequest resume) p ⟨w.factory, s⟩ = .ok ((), f')) :
    EventKeeps (handlerHooks lib onBeforeURLRequest resume) e ⟨w.factory, s⟩ f' ∧
      followed f'.slot.trace = followed s.trace ++ e.calls := by
  obtain ⟨hctx, hdelivers⟩ := prepared_of_reachable h hs ha
  have hready := (Reachable.consistent h).ready hs ha
  exact ⟨wp_ok (RequestEvent.run_keeps hready hctx hdelivers e hen) hrun,
    (wp_ok (RequestEvent.run_spec hready e hen) hrun).1.followed_eq⟩

omit h in
theorem Carries.event {f f' : Frame} {e : RequestEvent Ω} (hc : Carries original f.slot)
    (hkeeps : EventKeeps (handlerHooks lib onBeforeURLRequest resume) e f f')
    (hfollowed : followed f'.slot.trace = followed f.slot.trace ++ e.calls) :
    Carries original f'.slot where
  unsuspended k hk := (hkeeps.suspended k hk).elim (hc.unsuspended k) unsuspended_of_suspend
  headers := by
    rw [hkeeps.headers handlerHooks_leaveHeaders hc.unsuspended, hc.headers,
      neverDropped_of_followed hfollowed]
    cases e <;> rfl

omit h in
/-- The request of `CreateLoaderAndStart`, after its `Restart`. -/
theorem carries_created {receiver : Nat} {requestId : Int} {options : Nat}
    {trafficAnnotationTag : Nat} {env : Env Ω} (hw : w.Consistent)
    (hen : w.isEnabled (.createLoaderAndStart receiver requestId options original
      trafficAnnotationTag env) = true)
    (hex : w.exec lib (handlerHooks lib onBeforeURLRequest resume)
      (.createLoaderAndStart receiver requestId options original trafficAnnotationTag env) = .ok w')
    (hs' : w'.slots w.factory.nextPtr = some s') :
    Carries original s' ∧ followed s'.trace = [] ∧ (s'.object.targetLoader = true →
      ∃ l, s'.loader = some l ∧ l.headers = original.loaderHeaders) := by
  have hfresh := hw.fresh w.factory.nextPtr (Nat.le_refl _)
  cases slotRun_of_exec hw hen hex hs' with
  | same hold => simp [hfresh] at hold
  | @created _ _ _ _ _ _ f f' _ hready hcore _ hrequest hrun =>
    have hkeeps := wp_ok (restartInternal_keeps hready env) hrun
    have hfollowed : followed f'.slot.trace = [] := by
      have htrace := (wp_ok (restartInternal_spec hready env) hrun).1.followed_eq
      rw [hcore] at htrace
      exact htrace
    have hheaders : f'.slot.object.request.loaderHeaders = original.loaderHeaders := by
      rw [hkeeps.headers handlerHooks_leaveHeaders, hrequest]
    refine ⟨⟨fun k hk => ?_, ?_⟩, hfollowed, fun hbound => ?_⟩
    · rcases hkeeps.suspended with hsame | ⟨k', -, hsuspend, hadded⟩
      · rw [hsame, hcore] at hk
        cases hk
      · rw [hadded, hcore, Core.fresh, List.nil_append, List.mem_singleton] at hk
        exact hk ▸ unsuspended_of_suspend hsuspend
    · rw [hheaders, neverDropped, hfollowed]
      rfl
    · have hunbound : f.slot.object.targetLoader = false := congrArg Core.targetLoader hcore
      obtain ⟨l, hl, hnew⟩ := hkeeps.created hunbound hbound
      exact ⟨l, hl, hnew.trans hheaders⟩

/-- From a state on in which the request records its redirects. -/
theorem carries_of_run (hs : w.slots p = some s) (hc : Carries original s)
    (h' : ((proxySystem lib (handlerHooks lib onBeforeURLRequest resume) renderProcessId
      frameTreeNodeId generator).startingAt
      w).Reachable w') : w'.slots p ≠ none ∧ ∀ s', w'.slots p = some s' → s'.alive = true →
        Carries original s' := by
  induction h' with
  | init =>
    refine ⟨fun hnone => ?_, fun s' hs' _ => ?_⟩
    · have hgone : w.slots p = none := hnone
      simp [hs] at hgone
    · obtain rfl := Option.some.inj (hs.symm.trans hs')
      exact hc
  | @step w₁ w₂ e hreach hen _ hex ih =>
    have hreachable := h.append hreach
    have hw := Reachable.consistent hreachable
    refine ⟨slot_persists ((ProxyWorld.exec_spec hw hen).2 w₂ hex).2.2 ih.1, fun s' hs' ha' => ?_⟩
    cases slotRun_of_exec hw hen hex hs' with
    | created hnone _ _ _ _ _ => exact absurd hnone ih.1
    | request hold hlive hevent hrun =>
      obtain ⟨hkeeps, hfollowed⟩ := keeps_of_run hreachable hold hlive hevent hrun
      exact (ih.2 _ hold hlive).event hkeeps hfollowed
    | ignored _ hdead hignores _ =>
      rw [hignores.slot.1, hdead] at ha'
      cases ha'
    | same hold => exact ih.2 _ hold ha'

omit h in
/-- **When a new loader has the headers of one that is never dropped.** The first loader has, and so
have the later ones as far as no value that the client has set last for a CORS-exempt header differs
from the original request. -/
theorem recreated_loader_iff {w₀ w₁ : ProxyWorld} {receiver : Nat} {requestId : Int} {options : Nat}
    {trafficAnnotationTag : Nat} {env : Env Ω} {e : ProxyEvent Ω}
    (h₀ : (proxySystem lib (handlerHooks lib onBeforeURLRequest resume) renderProcessId
      frameTreeNodeId generator).Reachable w₀)
    (hen₀ : w₀.isEnabled (.createLoaderAndStart receiver requestId options original
      trafficAnnotationTag env) = true)
    (hex₀ : w₀.exec lib (handlerHooks lib onBeforeURLRequest resume)
      (.createLoaderAndStart receiver requestId options original trafficAnnotationTag env) = .ok w₁)
    (h : ((proxySystem lib (handlerHooks lib onBeforeURLRequest resume) renderProcessId
      frameTreeNodeId generator).startingAt
      w₁).Reachable w) (hen : w.isEnabled e = true)
        (hex : w.exec lib (handlerHooks lib onBeforeURLRequest resume) e = .ok w')
    (hp : p = w₀.factory.nextPtr) :
    (∀ s, w₁.slots p = some s → s.object.targetLoader = true →
      ∃ l, s.loader = some l ∧ l.headers.Same (neverDropped original s.trace)) ∧
    ∀ s s', w.slots p = some s → w'.slots p = some s' → s.object.targetLoader = false →
    s'.object.targetLoader = true →
      ∃ l, s'.loader = some l ∧ l.headers.headers = (neverDropped original s'.trace).headers ∧
        (l.headers.Same (neverDropped original s'.trace) ↔ ∀ name value,
          lastCorsExempt s'.trace name = some value →
            original.corsExemptHeaders.getHeader name = some value) := by
  subst hp
  have hcreated (s) (hs : w₁.slots w₀.factory.nextPtr = some s) :=
    carries_created (Reachable.consistent h₀) hen₀ hex₀ hs
  refine ⟨fun s hs hbound => ?_, fun s s' hs hs' hunbound hbound => ?_⟩
  · obtain ⟨-, hfollowed, hloader⟩ := hcreated s hs
    obtain ⟨l, hl, hheaders⟩ := hloader hbound
    refine ⟨l, hl, ?_⟩
    rw [hheaders, neverDropped, hfollowed]
    exact ⟨fun _ => rfl, fun _ => rfl⟩
  · have h₁ := System.Reach.step h₀ hen₀ trivial hex₀
    obtain ⟨s₁, hs₁⟩ : ∃ s₁, w₁.slots w₀.factory.nextPtr = some s₁ := by
      obtain ⟨f', -, rfl⟩ := runAt_ok hex₀
      exact ⟨f'.slot, Function.update_self ..⟩
    have hcarries := carries_of_run h₁ hs₁ (hcreated s₁ hs₁).1 h
    have hreachable := h₁.append h
    cases slotRun_of_exec (Reachable.consistent hreachable) hen hex hs' with
    | created hnone _ _ _ _ _ => exact absurd hnone hcarries.1
    | request hold hlive hevent hrun =>
      obtain rfl := Option.some.inj (hold.symm.trans hs)
      obtain ⟨hkeeps, hfollowed⟩ := keeps_of_run hreachable hold hlive hevent hrun
      obtain ⟨l, hl, hnew⟩ := hkeeps.created hunbound hbound
      have hheaders := hnew.trans ((hcarries.2 _ hold hlive).event hkeeps hfollowed).headers
      refine ⟨l, hl, by rw [hheaders], ?_⟩
      rw [hheaders]
      exact same_neverDropped_iff
    | ignored hold _ hignores _ =>
      obtain rfl := Option.some.inj (hold.symm.trans hs)
      simp [hignores.slot.2, hunbound] at hbound
    | same hold =>
      obtain rfl := Option.some.inj (hold.symm.trans hs)
      simp [hunbound] at hbound

end Runs

def redirectsWhenTold (redirects : Bool) (_ : DumbRequestInfo) : HookOutcome where
  result := .ok
  writes := if redirects then { redirectUrl := fun _ => pageRedirect.newUrl } else {}

/-- A handler with a callback that redirects when the outside world says so. -/
def redirectingHooks : Hooks Bool := handlerHooks plainLibrary redirectsWhenTold fun _ _ => (OK, {})

/-- The proxy redirects what the client follows, and drops its loader; the next one has the client's
header. -/
theorem recreated_loader_modified : ∃ w w' s s' l,
    (proxySystem plainLibrary redirectingHooks 0 0 0).Reachable w ∧
    w.exec plainLibrary redirectingHooks (.request 0 (.followRedirect {} ⟨false, true⟩)) = .ok w' ∧
    w.slots 0 = some s ∧
    w'.slots 0 = some s' ∧ s'.loader = some l ∧ l.headers.headers = [("X-A", "1")] ∧
    l.headers.Same (neverDropped pageRequest s'.trace) := by
  have h := System.reach_of_replay (S := proxySystem plainLibrary redirectingHooks 0 0 0)
    (C := fun _ _ => True)
    [.createLoaderAndStart 0 1 0 pageRequest 0 ⟨false, true⟩,
      .request 0 (.onReceiveRedirect pageRedirect {} ⟨false, true⟩),
      .request 0 (.followRedirect modifiesHeader ⟨true, true⟩)] rfl
  obtain ⟨-, hnew⟩ := @recreated_loader_iff Bool plainLibrary redirectsWhenTold (fun _ _ =>
    (OK, {})) 0 0 0 _ _ 0
    pageRequest _ _ 0 1 0 0 ⟨false, true⟩ (.request 0 (.followRedirect {} ⟨false, true⟩)) .init rfl rfl
    (System.reach_of_replay [.request 0 (.onReceiveRedirect pageRedirect {} ⟨false, true⟩),
      .request 0 (.followRedirect modifiesHeader ⟨true, true⟩)] rfl) rfl rfl rfl
  obtain ⟨l, hl, hheaders, hiff⟩ := hnew _ _ rfl rfl rfl rfl
  exact ⟨_, _, _, _, l, h, rfl, rfl, rfl, hl, hheaders,
    hiff.2 fun name value hlast => by cases hlast⟩

/-- The same with a CORS-exempt header: the next loader is without it. -/
theorem recreated_loader_loses : ∃ w w' s s' l,
    (proxySystem plainLibrary redirectingHooks 0 0 0).Reachable w ∧
    w.exec plainLibrary redirectingHooks (.request 0 (.followRedirect {} ⟨false, true⟩)) = .ok w' ∧
    w.slots 0 = some s ∧
    s.object.targetLoader = false ∧ w'.slots 0 = some s' ∧ s'.object.targetLoader = true ∧
    s'.loader = some l ∧
    ¬ l.headers.Same (neverDropped pageRequest s'.trace) := by
  have h := System.reach_of_replay (S := proxySystem plainLibrary redirectingHooks 0 0 0)
    (C := fun _ _ => True)
    [.createLoaderAndStart 0 1 0 pageRequest 0 ⟨false, true⟩,
      .request 0 (.onReceiveRedirect pageRedirect {} ⟨false, true⟩),
      .request 0 (.followRedirect { modifiedCorsExemptHeaders := [("X-C", "1")] } ⟨true, true⟩)] rfl
  refine ⟨_, _, _, _, _, h, rfl, rfl, rfl, rfl, rfl, rfl, fun hsame => ?_⟩
  exact absurd (hsame.2 "X-C") (by decide)

end DumbBrowser
