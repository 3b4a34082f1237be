import DumbBrowser.Browser.RequestRoute

/-!
# The journals of the requests

An observer of the pipes writes down what each request was created for, and where its network
loaders have been.

* `journal_invariant` : what the events of a request keep of its route and its journal holds in
  every run.
* `record_agrees` : the record of a request is what its client has been told to fetch.
-/

namespace DumbBrowser

open NetError Exec

structure Journal where
  original : ResourceRequest
  /-- Where the network loaders have been sent, the last one at the end. -/
  visited : List GURL := []
  /-- The target of the last redirect from the network. -/
  reported : GURL := {}
deriving DecidableEq, Repr

namespace Journal

/-- A loader that follows a redirect goes where the message says, and else where the network has
redirected it. -/
def tell (j : Journal) : LoaderMessage → Journal
  | .followRedirect params => { j with visited := j.visited ++ [params.newUrl.getD j.reported] }
  | .setPriority .. | .pauseReadingBodyFromNet | .resumeReadingBodyFromNet => j

/-- The loader before and after an event: a new one starts with its own URL. -/
def watch (j : Journal) : Option NetLoader → Option NetLoader → Journal
  | none, some l => l.messages.foldl tell { j with visited := j.visited ++ [l.request.url] }
  | some l, some l' => (l'.messages.drop l.messages.length).foldl tell j
  | _, none => j

def report {Ω : Type} (j : Journal) : RequestEvent Ω → Journal
  | .onReceiveRedirect redirectInfo _ _ => { j with reported := redirectInfo.newUrl }
  | _ => j

section Watch
variable {j : Journal} {l : NetLoader} {ms : List LoaderMessage}

theorem watch_none (before : Option NetLoader) : j.watch before none = j := by
  cases before <;> rfl

theorem watch_created (hempty : l.messages = []) :
    j.watch none (some l) = { j with visited := j.visited ++ [l.request.url] } := by
  rw [watch, hempty, List.foldl_nil]

theorem watch_sent : j.watch (some l)
    (some { l with messages := l.messages ++ ms }) = ms.foldl tell j := by
  simp only [watch, List.drop_left]

theorem watch_self (before : Option NetLoader) : j.watch before before = j := by
  cases before with
  | none => rfl
  | some l => rw [watch, List.drop_length, List.foldl_nil]

theorem foldl_tell (hms : ∀ m ∈ ms, m.params = none) : ms.foldl tell j = j := by
  induction ms with
  | nil => rfl
  | cons m ms ih =>
    have hm : j.tell m = j := by
      have hnone := hms m (List.mem_cons_self ..)
      cases m with
      | followRedirect params => cases hnone
      | setPriority _ _ => rfl
      | pauseReadingBodyFromNet => rfl
      | resumeReadingBodyFromNet => rfl
    rw [List.foldl_cons, hm]
    exact ih fun m' hm' => hms m' (List.mem_cons_of_mem m hm')

theorem report_of_unredirected {Ω : Type} {e : RequestEvent Ω} (he : e.redirects = false) :
    j.report e = j := by
  cases e <;> first | rfl | cases he

theorem report_original {Ω : Type} (e : RequestEvent Ω) : (j.report e).original = j.original := by
  cases e <;> rfl

theorem foldl_tell_original : (ms.foldl tell j).original = j.original := by
  induction ms generalizing j with
  | nil => rfl
  | cons m ms ih =>
    rw [List.foldl_cons, ih]
    cases m <;> rfl

theorem watch_original (before after : Option NetLoader) :
    (j.watch before after).original = j.original := by
  cases before <;> cases after <;> first | rfl | exact foldl_tell_original

end Watch

end Journal

/-! ## The observed factory -/

/-- What the observer adds to the journals at an event. -/
def ProxyWorld.note {Ω : Type} (w : ProxyWorld) (e : ProxyEvent Ω) (w' : ProxyWorld)
    (journals : Ptr → Option Journal) :
    Ptr → Option Journal :=
  let loader (w : ProxyWorld) (p : Ptr) := (w.slots p).bind Slot.boundLoader
  match e with
  | .createLoaderAndStart _ _ _ request _ _ =>
    let p := w.factory.nextPtr
    Function.update journals p (some (({ original := request } : Journal).watch none (loader w' p)))
  | .request p e =>
    Function.update journals p ((journals p).map fun j =>
      (j.report e).watch (loader w p) (loader w' p))
  | .clone _ | .proxyDisconnect _ | .targetFactoryError => journals

/-- The factory beside its observer. -/
def observedProxies {Ω : Type} (lib : NetLibrary) (hooks : Hooks Ω)
    (renderProcessId frameTreeNodeId : Int) (requestIdGenerator : UInt64) :
    System (ProxyWorld × (Ptr → Option Journal)) (ProxyEvent Ω) Fault :=
  (proxySystem lib hooks renderProcessId frameTreeNodeId requestIdGenerator).observed
    ProxyWorld.note fun _ => none

instance {Ω : Type} {lib : NetLibrary} {hooks : Hooks Ω} {renderProcessId frameTreeNodeId : Int}
    {generator : UInt64} (w : ProxyWorld × (Ptr → Option Journal)) (e : ProxyEvent Ω) :
    Decidable ((observedProxies lib hooks renderProcessId frameTreeNodeId generator).enabled w e) :=
  inferInstanceAs (Decidable (w.1.isEnabled e = true))

/-- The route of a request before its first `Restart`. -/
def Route.fresh (request : ResourceRequest) : Route where
  alive := true
  fetch := request.fetch
  pending := none
  loader := none
  awaits := false
  continuations := []
  trace := []

section Runs
variable {Ω : Type} {lib : NetLibrary} {hooks : Hooks Ω} {renderProcessId frameTreeNodeId : Int}
  {generator : UInt64} {C : Slot → RequestEvent Ω → Prop} {w w' : ProxyWorld}
  {journals : Ptr → Option Journal} {p : Ptr} {s s' : Slot}

/-- The request that an event is for. -/
def ProxyEvent.target : ProxyEvent Ω → Option Ptr
  | request p _ => some p
  | createLoaderAndStart .. | clone _ | proxyDisconnect _ | targetFactoryError => none

/-- How an event of the factory has brought about a route. -/
inductive RouteRun (lib : NetLibrary) (hooks : Hooks Ω) (w : ProxyWorld) (p : Ptr) :
    ProxyEvent Ω → Route → Prop
  | created {receiver requestId options request trafficAnnotationTag env r} : p =
      w.factory.nextPtr → w.slots p = none →
      StartRoute lib (hooks.Passes request.url) (.fresh request) r →
      RouteRun lib hooks w p (.createLoaderAndStart receiver requestId options request
        trafficAnnotationTag env) r
  | request {s e r} : w.slots p = some s → s.alive = true → e.isEnabled s = true →
      RouteStep lib hooks s e r →
      RouteRun lib hooks w p (.request p e) r
  | ignored {s e ks} : w.slots p = some s → s.alive = false → e.redirects = false →
      RouteRun lib hooks w p (.request p e) { s.route with continuations := ks }
  | same {e s} : w.slots p = some s → e.target ≠ some p → p ≠ w.factory.nextPtr →
      RouteRun lib hooks w p e s.route

theorem routeRun_of_exec (hw : w.Consistent) {e : ProxyEvent Ω} (hen : w.isEnabled e = true)
    (hex : w.exec lib hooks e = .ok w') (hs' : w'.slots p = some s') :
    RouteRun lib hooks w p e s'.route := by
  have hsame (hne : e.target ≠ some p) (hs : w.slots p = some s') : RouteRun lib hooks
      w p e s'.route := by
    refine .same hs hne fun hp => ?_
    rw [hw.fresh p (Nat.le_of_eq hp.symm)] at hs
    cases hs
  cases e with
  | createLoaderAndStart receiver requestId options request trafficAnnotationTag env =>
    simp only [ProxyWorld.isEnabled, Bool.and_eq_true] at hen
    obtain ⟨f', hrun, rfl⟩ := runAt_ok hex
    by_cases hp : p = w.factory.nextPtr
    · obtain rfl : f'.slot = s' := by simpa [ProxyFactory.generate, hp] using hs'
      have hnew := ProxyWorld.emplace_consistent hw hen.1
        (s := ⟨true, w.factory.generate.2.newRequest
        w.factory.generate.1 requestId options request trafficAnnotationTag, 0, none, false, [], [],
          [], [], [], false⟩) rfl
      have hready := hnew.ready (Function.update_self ..) rfl
      exact .created hp (hw.fresh _ (Nat.le_of_eq hp.symm))
        (wp_ok (restartInternal_route hready env) hrun)
    · exact hsame (Option.some_ne_none p).symm
        (by simpa [ProxyFactory.generate, Function.update_of_ne hp] using hs')
  | clone receiver =>
    obtain rfl := Except.ok.inj hex
    exact hsame (Option.some_ne_none p).symm hs'
  | proxyDisconnect receiver =>
    obtain ⟨factory, -, rfl⟩ := map_ok hex
    exact hsame (Option.some_ne_none p).symm hs'
  | targetFactoryError =>
    obtain ⟨factory, -, rfl⟩ := map_ok hex
    exact hsame (Option.some_ne_none p).symm hs'
  | request q e =>
    obtain ⟨s, hs, hevent⟩ := (Option.any_eq_true ..).1 hen
    simp only [ProxyWorld.exec, hs] at hex
    obtain ⟨f', hrun, rfl⟩ := runAt_ok hex
    by_cases hp : p = q
    · subst hp
      obtain rfl : f'.slot = s' := by simpa using hs'
      rcases ha : s.alive with _ | _
      · obtain ⟨hkind, ks, hroute⟩ :=
          wp_ok (RequestEvent.run_dead_route (f := ⟨w.factory, s⟩) ha e hevent) hrun
        exact hroute ▸ .ignored hs ha hkind
      · exact .request hs ha hevent (wp_ok (RequestEvent.run_route (hw.ready hs ha) e hevent) hrun)
    · exact hsame (fun hq => hp (Option.some.inj hq).symm)
        (by simpa [Function.update_of_ne hp] using hs')

theorem note_of_same {e : ProxyEvent Ω} (hne : e.target ≠ some p) (hp : p ≠ w.factory.nextPtr) :
    w.note e w' journals p = journals p := by
  cases e with
  | createLoaderAndStart _ _ _ _ _ _ => exact Function.update_of_ne hp _ _
  | clone _ => rfl
  | proxyDisconnect _ => rfl
  | targetFactoryError => rfl
  | request q e => exact Function.update_of_ne (fun hq => hne (congrArg some hq.symm)) _ _

theorem note_request {e : RequestEvent Ω} {j : Journal} (hj : journals p = some j)
    (hs : w.slots p = some s) (hs' : w'.slots p = some s') :
    w.note (.request p e) w' journals
    p = some ((j.report e).watch s.route.loader s'.route.loader) := by
  simp only [ProxyWorld.note, Function.update_self, hj, hs, hs', Option.map_some, Option.bind_some]
  rfl

/-- What every event keeps of the route of its request and of the journal, given what holds of the
runs so far, holds of all requests. -/
theorem journal_invariant {I : Route → Journal → Prop}
    (hstart : ∀ request r, StartRoute lib (hooks.Passes request.url) (.fresh request) r →
      I r (Journal.watch { original := request } none r.loader))
    (hstep : ∀ w p s e r j, (proxySystem lib hooks renderProcessId frameTreeNodeId generator).Reach
      (OnRequests C) w →
      w.slots p = some s → s.alive = true → e.isEnabled s = true → C s e → I s.route j →
        RouteStep lib hooks s e r →
      I r ((j.report e).watch s.route.loader r.loader))
    (hignored : ∀ r j ks, r.alive = false → I r j → I { r with continuations := ks } j)
    (h : (observedProxies lib hooks renderProcessId frameTreeNodeId generator).Reach
      (fun w e => OnRequests C w.1 e)
      (w, journals)) (hs : w.slots p = some s) : ∃ j, journals p = some j ∧ I s.route j := by
  generalize hx : (w, journals) = x at h
  induction h generalizing w journals p s with
  | init =>
    obtain ⟨rfl, rfl⟩ := Prod.mk.inj hx
    cases hs
  | @step x x' e hreach hen hC hex ih =>
    subst hx
    obtain ⟨hex, hnote⟩ := System.observed_exec.1 hex
    have hbefore := hreach.forget
    have hw := Reachable.consistent hbefore.reachable
    simp only at hex hnote
    rw [hnote]
    generalize hroute : s.route = r
    have hrun := routeRun_of_exec hw hen hex hs
    rw [hroute] at hrun
    cases hrun with
    | @created receiver requestId options request trafficAnnotationTag env r hp hnone hroute' =>
      refine ⟨_, ?_, hstart request r hroute'⟩
      subst hp
      simp only [ProxyWorld.note, Function.update_self, hs, Option.bind_some]
      rw [← hroute]
      rfl
    | @request s₀ e r hold hlive hevent hroute' =>
      obtain ⟨j, hj, hI⟩ := ih hold rfl
      refine ⟨_, note_request hj hold hs, ?_⟩
      rw [hroute]
      exact hstep _ p s₀ e r j hbefore hold hlive hevent (hC s₀ hold) hI hroute'
    | @ignored s₀ e ks hold hdead hkind =>
      obtain ⟨j, hj, hI⟩ := ih hold rfl
      refine ⟨_, note_request hj hold hs, ?_⟩
      rw [hroute, Journal.report_of_unredirected hkind, Journal.watch_self]
      exact hignored _ _ _ hdead hI
    | @same _ s₀ hold hne hp =>
      obtain ⟨j, hj, hI⟩ := ih hold rfl
      exact ⟨j, (note_of_same hne hp).trans hj, hI⟩

end Runs

/-! ## The record of a request -/

section Record
variable {lib : NetLibrary} {cleared : Prop} {original : ResourceRequest}
  {r r' : Route} {l : NetLoader}

/-- The request records what its client has been told to fetch. -/
def Records (lib : NetLibrary) (original : ResourceRequest) (r : Route) : Prop :=
  r.fetch = fetched lib original r.trace

theorem Records.keeps (h : Records lib original r) {out : List ClientMessage}
    (hout : KeepsCourse out) :
    r.fetch = fetched lib original (r.trace ++ out) := by
  rw [hout.fetched]
  exact h

theorem Records.redirected (h : Records lib original r) {source : Option Nat}
    {redirectInfo : RedirectInfo} {head : Option URLResponseHead} :
    Records lib original (r.redirected lib source redirectInfo head) := by
  have hfetch : r.fetch = fetched lib original r.trace := h
  rw [Records, Route.redirected, fetched_append, ← hfetch]
  rfl

theorem Records.start (h : Records lib original r) (hstart : StartRoute lib cleared r r') :
    Records lib original r' := by
  cases hstart with
  | gone hout => exact h.keeps hout
  | mocked hout => exact h.keeps hout
  | suspended _ => exact h
  | redirected =>
    have hdropped : Records lib original { r with loader := none } := h
    exact hdropped.redirected
  | created _ _ _ _ => exact h
  | forwarded _ _ _ _ => exact h
  | idle _ => exact h

theorem Records.deliver (h : Records lib original r) {k : Continuation}
    (hdeliver : DeliverRoute lib k r r') :
    Records lib original r' := by
  cases hdeliver with
  | gone hout => exact h.keeps hout
  | response _ hout => exact h.keeps hout
  | redirect _ => exact h.redirected
  | dropped =>
    have hdropped : Records lib original { r with loader := none } := h
    exact hdropped.redirected

theorem Records.headers (h : Records lib original r) {k : Continuation}
    (hheaders : HeadersRoute lib k r r') :
    Records lib original r' := by
  cases hheaders with
  | suspended => exact h
  | delivered hdeliver => exact h.deliver hdeliver

theorem Records.follow {s : Slot} (h : Records lib original s.route)
    (params : FollowRedirectParams) :
    Records lib original (s.followed params) := by
  have hfetch : s.route.fetch = fetched lib original s.route.trace := h
  rw [Records, Slot.followed, fetched_append, ← hfetch]
  rfl

variable {Ω : Type} {hooks : Hooks Ω}

theorem Records.step {s : Slot} (h : Records lib original s.route) {e : RequestEvent Ω}
    (hstep : RouteStep lib hooks s e r') :
    Records lib original r' := by
  cases hstep with
  | followRedirect hstart => exact (h.follow _).start hstart
  | onReceiveResponse hheaders => exact h.headers hheaders
  | onReceiveRedirect hheaders =>
    have hawaits : Records lib original { s.route with awaits := true } := h
    exact hawaits.headers hheaders
  | @resumeHook place env suspended _ _ hcontinue =>
    have hresumed : Records lib original { s.route with
        continuations := s.route.continuations.eraseIdx place } := h
    cases hcontinue with
    | start _ hstart => exact hresumed.start hstart
    | deliver _ hdeliver => exact hresumed.deliver hdeliver
  | passed _ hout _ => exact h.keeps hout
  | gone _ hout => exact h.keeps hout

/-! ### New loaders -/

theorem StartRoute.created_fetch (h : StartRoute lib cleared r r') (hnone : r.loader = none)
    (hl : r'.loader = some l) :
    l.request.fetch = r'.fetch := by
  cases h with
  | gone _ => exact absurd (hnone.symm.trans hl) nofun
  | mocked _ => exact absurd (hnone.symm.trans hl) nofun
  | suspended _ => exact absurd (hnone.symm.trans hl) nofun
  | redirected => cases hl
  | created _ _ hfetch _ => exact Option.some.inj hl ▸ hfetch
  | forwarded _ hsome _ _ => exact absurd (hnone.symm.trans hsome) nofun
  | idle _ => exact absurd (hnone.symm.trans hl) nofun

theorem DeliverRoute.no_loader {k : Continuation} (h : DeliverRoute lib k r r')
    (hnone : r.loader = none) :
    r'.loader = none := by
  cases h with
  | gone _ => exact hnone
  | response _ _ => exact hnone
  | redirect _ => exact hnone
  | dropped => rfl

theorem HeadersRoute.no_loader {k : Continuation} (h : HeadersRoute lib k r r')
    (hnone : r.loader = none) :
    r'.loader = none := by
  cases h with
  | suspended => exact hnone
  | delivered hdeliver => exact hdeliver.no_loader hnone

theorem RouteStep.created_fetch {s : Slot} {e : RequestEvent Ω} (h : RouteStep lib hooks s e r')
    (hnone : s.route.loader = none) (hl : r'.loader = some l) : l.request.fetch = r'.fetch := by
  cases h with
  | followRedirect hstart => exact hstart.created_fetch hnone hl
  | onReceiveResponse hheaders => exact absurd ((hheaders.no_loader hnone).symm.trans hl) nofun
  | onReceiveRedirect hheaders => exact absurd ((hheaders.no_loader hnone).symm.trans hl) nofun
  | resumeHook _ hcontinue =>
    cases hcontinue with
    | start _ hstart => exact hstart.created_fetch hnone hl
    | deliver _ hdeliver => exact absurd ((hdeliver.no_loader hnone).symm.trans hl) nofun
  | passed _ _ _ => simp [hnone] at hl
  | gone _ _ => exact absurd (hnone.symm.trans hl) nofun

end Record

section Runs
variable {Ω : Type} {lib : NetLibrary} {hooks : Hooks Ω} {renderProcessId frameTreeNodeId : Int}
  {generator : UInt64} {w : ProxyWorld} {journals : Ptr → Option Journal} {p : Ptr} {s : Slot}

theorem journal_of_reach
    (h : (observedProxies lib hooks renderProcessId frameTreeNodeId generator).Reachable (w, journals))
    (hs : w.slots p = some s) : ∃ j, journals p = some j ∧ Records lib j.original s.route := by
  refine journal_invariant (C := fun _ _ => True) (I := fun r j =>
    Records lib j.original r) ?_ ?_ ?_
    (h.mono fun w e _ => ?_) hs
  · intro request r hstart
    rw [Journal.watch_original]
    exact Records.start (r := .fresh request) rfl hstart
  · intro _ _ s e r j _ _ _ _ _ hrecords hstep
    rw [Journal.watch_original, Journal.report_original]
    exact hrecords.step hstep
  · exact fun _ _ _ _ hrecords => hrecords
  · cases e <;> simp [OnRequests]

/-- A network loader that an event has bound is created for what the request then records. -/
theorem RouteRun.created_fetch {e : ProxyEvent Ω} {r : Route} {l : NetLoader}
    (hrun : RouteRun lib hooks w p e r) (hnone : (w.slots p).bind Slot.boundLoader = none)
    (hl : r.loader = some l) : l.request.fetch = r.fetch := by
  have hbefore {s₀ : Slot} (hold : w.slots p = some s₀) : s₀.route.loader = none := by
    rwa [hold, Option.bind_some] at hnone
  cases hrun with
  | created _ _ hstart => exact hstart.created_fetch rfl hl
  | request hold _ _ hstep => exact hstep.created_fetch (hbefore hold) hl
  | ignored hold _ _ => exact absurd ((hbefore hold).symm.trans hl) nofun
  | same hold _ _ => exact absurd ((hbefore hold).symm.trans hl) nofun

/-- **The record of a request is what its client has been told to fetch**, whatever the hooks do, in
whatever order its messages arrive; and so is what each new network loader is created for, by
whatever event. -/
theorem record_agrees
    (h : (observedProxies lib hooks renderProcessId frameTreeNodeId generator).Reachable (w, journals)) :
    (∀ p s, w.slots p = some s →
      ∃ j, journals p = some j ∧ s.object.request.fetch = fetched lib j.original s.trace) ∧
    ∀ e w', w.isEnabled e = true → w.exec lib hooks e = .ok w' → ∀ p s' l, w'.slots p = some s' →
      (w.slots p).bind Slot.boundLoader = none → s'.boundLoader = some l →
        ∃ j, w.note e w' journals p = some j ∧
          l.request.fetch = fetched lib j.original s'.trace := by
  refine ⟨fun p s hs => journal_of_reach h hs, fun e w' hen hex p s' l hs' hnone hl => ?_⟩
  have hw := Reachable.consistent (System.Reach.forget (C := fun _ _ => True) h)
  have hafter : (observedProxies lib hooks renderProcessId frameTreeNodeId generator).Reachable
      (w', w.note e w' journals) := h.step hen trivial (System.observed_exec.2 ⟨hex, rfl⟩)
  obtain ⟨j, hj, hrecords⟩ := journal_of_reach hafter hs'
  exact ⟨j, hj, ((routeRun_of_exec hw hen hex hs').created_fetch hnone hl).trans hrecords⟩

end Runs

def elsewhere : GURL := { scheme := "https", host := "elsewhere.example", path := "/" }

/-- The network redirects the request, and the client goes elsewhere. -/
theorem record_agrees_elsewhere : ∃ w journals s j,
    (observedProxies plainLibrary passHooks 0 0 0).Reachable (w, journals) ∧
    w.slots 0 = some s ∧ journals 0 = some j ∧ j.original = pageRequest ∧
    s.object.request.url = elsewhere ∧
    s.object.request.fetch = fetched plainLibrary j.original s.trace := by
  have h := System.reach_of_replay (S := observedProxies plainLibrary passHooks 0 0 0)
    (C := fun _ _ => True)
    [.createLoaderAndStart 0 1 0 pageRequest 0 ⟨(), true⟩,
      .request 0 (.onReceiveRedirect pageRedirect {} ⟨(), true⟩),
      .request 0 (.followRedirect { newUrl := some elsewhere } ⟨(), true⟩)] rfl
  obtain ⟨j, hj, hfetch⟩ := (record_agrees h).1 0 _ rfl
  exact ⟨_, _, _, j, h, rfl, hj, congrArg Journal.original (Option.some.inj hj).symm, rfl, hfetch⟩

end DumbBrowser
