import DumbBrowser.Browser.RequestRefinement

/-!
# The lifetime of the factory

The factory deletes itself once its target and all its requests are gone, and that can happen inside
any call of a request.

* `exec_spec` : an enabled event keeps the world consistent, or it stops with a benign fault; it
  changes the slots as `SlotStep` says.
* `slot_invariant` : what the protocol of one request keeps holds of every request of every run.
* `factory_lifetime` : the factory is there exactly as long as it is in use.
-/

namespace DumbBrowser

open Exec

/-! ## The factory alone -/

namespace ProxyFactory

variable {f : ProxyFactory} {p : Ptr}

def InUse (f : ProxyFactory) : Prop := f.targetFactory = true ∨ f.requests ≠ []

/-- What holds between the calls of the factory's methods. -/
structure Consistent (f : ProxyFactory) : Prop where
  target : f.targetFactory = true ↔ f.proxyReceivers ≠ []
  alive : f.alive = true ↔ f.InUse
  callback : f.disconnectCallback = f.alive
  owner : f.inProxies = f.alive
  runs : f.disconnectRuns = if f.alive then 0 else 1
  nodup : f.requests.Nodup
  fresh : ∀ p ∈ f.requests, p < f.nextPtr

/-- What holds before `MaybeRemoveProxy` decides: the factory is there, in use or not. -/
structure Held (f : ProxyFactory) : Prop where
  target : f.targetFactory = true ↔ f.proxyReceivers ≠ []
  alive : f.alive = true
  callback : f.disconnectCallback = true
  owner : f.inProxies = true
  runs : f.disconnectRuns = 0
  nodup : f.requests.Nodup
  fresh : ∀ p ∈ f.requests, p < f.nextPtr

theorem Consistent.held (h : f.Consistent) (ha : f.alive = true) : f.Held where
  target := h.target
  alive := ha
  callback := h.callback.trans ha
  owner := h.owner.trans ha
  runs := by simpa [ha] using h.runs
  nodup := h.nodup
  fresh := h.fresh

theorem Held.consistent (h : f.Held) (huse : f.InUse) : f.Consistent where
  target := h.target
  alive := ⟨fun _ => huse, fun _ => h.alive⟩
  callback := h.callback.trans h.alive.symm
  owner := h.owner.trans h.alive.symm
  runs := by simpa [h.alive] using h.runs
  nodup := h.nodup
  fresh := h.fresh

theorem Held.withPipes (h : f.Held) {receivers : List Nat} {target : Bool}
    (ht : target = true ↔ receivers ≠ []) :
    { f with proxyReceivers := receivers, targetFactory := target }.Held :=
  { h with target := ht }

theorem maybeRemoveProxy_spec (h : f.Held) :
    ∃ g, f.maybeRemoveProxy = .ok g ∧ g.Consistent ∧ g.requests = f.requests ∧
    g.nextPtr = f.nextPtr := by
  simp only [maybeRemoveProxy, h.alive, Bool.not_true, Bool.false_eq_true, if_false]
  by_cases huse : f.targetFactory = true ∨ f.requests ≠ []
  · rw [if_pos (by simpa using huse)]
    exact ⟨f, rfl, h.consistent huse, rfl, rfl⟩
  · rw [if_neg (by simpa using huse)]
    simp only [runDisconnectCallback, h.callback, h.owner, Bool.not_true,
      Bool.false_eq_true, if_false]
    refine ⟨_, rfl, ⟨h.target, ?_, rfl, rfl, ?_, h.nodup, h.fresh⟩, rfl, rfl⟩
    · exact ⟨nofun, fun h => absurd h huse⟩
    · simp [h.runs]

/-- `RemoveRequest` finds its request, and deletes the factory if that was the last. -/
theorem removeRequest_spec (h : f.Held) (hp : p ∈ f.requests) :
    ∃ g, f.removeRequest p = .ok g ∧ g.Consistent ∧ g.requests = f.requests.erase p ∧
    g.nextPtr = f.nextPtr := by
  have hheld : { f with requests := f.requests.erase p }.Held :=
    { h with nodup := h.nodup.erase p, fresh := fun q hq => h.fresh q (List.mem_of_mem_erase hq) }
  obtain ⟨g, hg, hspec⟩ := maybeRemoveProxy_spec hheld
  refine ⟨g, ?_, hspec⟩
  rw [removeRequest, if_neg (by simp [h.alive]), if_neg (by simpa using hp), hg]

theorem emplaceRequest_held (h : f.Held) : f.emplaceRequest.Held where
  target := h.target
  alive := h.alive
  callback := h.callback
  owner := h.owner
  runs := h.runs
  nodup := by
    rw [emplaceRequest, List.nodup_append]
    refine ⟨h.nodup, by simp, ?_⟩
    intro q hq r hr
    rw [List.mem_singleton] at hr
    subst hr
    exact Nat.ne_of_lt (h.fresh q hq)
  fresh q hq := by
    simp only [emplaceRequest, List.mem_append, List.mem_singleton] at hq ⊢
    rcases hq with hq | rfl
    · exact Nat.lt_succ_of_lt (h.fresh q hq)
    · exact Nat.lt_succ_self _

theorem clone_consistent (h : f.Consistent) (hr : f.proxyReceivers ≠ []) : f.clone.Consistent :=
  { h with target := by simp [clone, h.target.2 hr] }

theorem onTargetFactoryError_spec (h : f.Held) :
    ∃ g, f.onTargetFactoryError = .ok g ∧ g.Consistent ∧ g.requests = f.requests ∧
    g.nextPtr = f.nextPtr :=
  maybeRemoveProxy_spec (h.withPipes (by simp))

/-- The last receiver takes the target with it. -/
theorem onProxyBindingError_spec (h : f.Held) {receiver : Nat} (hr : receiver ∈ f.proxyReceivers) :
    ∃ g, { f with proxyReceivers := f.proxyReceivers.erase receiver }.onProxyBindingError = .ok g ∧
    g.Consistent ∧
      g.requests = f.requests ∧ g.nextPtr = f.nextPtr := by
  apply maybeRemoveProxy_spec (h.withPipes ?_)
  have htarget : f.targetFactory = true := h.target.2 (List.ne_nil_of_mem hr)
  by_cases hlast : f.proxyReceivers.erase receiver = [] <;> simp [hlast, htarget]

end ProxyFactory

/-! ## The factory and its requests -/

namespace ProxyWorld

/-- The requests that are alive are those of the factory. -/
structure Consistent (w : ProxyWorld) : Prop where
  factory : w.factory.Consistent
  requests : ∀ p, p ∈ w.factory.requests ↔ ∃ s, w.slots p = some s ∧ s.alive = true
  fresh : ∀ p, w.factory.nextPtr ≤ p → w.slots p = none

variable {w : ProxyWorld} {p : Ptr} {s : Slot}

theorem Consistent.mem_requests (hw : w.Consistent) (hs : w.slots p = some s)
    (ha : s.alive = true) :
    p ∈ w.factory.requests :=
  (hw.requests p).2 ⟨s, hs, ha⟩

theorem Consistent.held (hw : w.Consistent) (hs : w.slots p = some s) (ha : s.alive = true) : w.factory.Held :=
  hw.factory.held (hw.factory.alive.2 (Or.inr (List.ne_nil_of_mem (hw.mem_requests hs ha))))

theorem Consistent.ready (hw : w.Consistent) (hs : w.slots p = some s) (ha : s.alive = true) :
    Frame.Ready p ⟨w.factory, s⟩ := by
  obtain ⟨g, hg, -⟩ := ProxyFactory.removeRequest_spec (hw.held hs ha) (hw.mem_requests hs ha)
  exact ⟨ha, (hw.held hs ha).alive, g, hg⟩

theorem Consistent.fresh_update (hw : w.Consistent) (hs : w.slots p = some s) {s' : Slot} {q : Ptr}
    (hq : w.factory.nextPtr ≤ q) : Function.update w.slots p (some s') q = none := by
  have hne : q ≠ p := by
    rintro rfl
    rw [hw.fresh q hq] at hs
    cases hs
  rw [Function.update_of_ne hne, hw.fresh q hq]

theorem Consistent.update (hw : w.Consistent) (hs : w.slots p = some s) {s' : Slot}
    (ha : s'.alive = s.alive) :
    Consistent { w with slots := Function.update w.slots p (some s') } where
  factory := hw.factory
  requests q := by
    rw [hw.requests q]
    by_cases hq : q = p
    · subst hq
      simp [hs, ha]
    · simp [hq]
  fresh _ hq := hw.fresh_update hs hq

theorem Consistent.remove (hw : w.Consistent) (hs : w.slots p = some s)
    (ha : s.alive = true) {s' : Slot} (hdead : s'.alive = false) {g : ProxyFactory}
    (hg : w.factory.removeRequest p = .ok g) :
    Consistent { factory := g, slots := Function.update w.slots p (some s') } := by
  obtain ⟨g', hg', hcons, hrequests, hnext⟩ :=
    ProxyFactory.removeRequest_spec (hw.held hs ha) (hw.mem_requests hs ha)
  obtain rfl : g' = g := Except.ok.inj (hg'.symm.trans hg)
  refine ⟨hcons, fun q => ?_, fun q hq => hw.fresh_update hs (hnext ▸ hq)⟩
  rw [hrequests, hw.factory.nodup.mem_erase_iff, hw.requests q]
  by_cases hq : q = p <;> simp [hq, hdead]

theorem Consistent.leave (hw : w.Consistent) (hs : w.slots p = some s)
    (ha : s.alive = true) {E : Core → Prop} {f : Frame} (hf : Leaves p ⟨w.factory, s⟩ E f) :
    Consistent { factory := f.factory, slots := Function.update w.slots p (some f.slot) } := by
  rcases hf with ⟨-, ⟨halive, hfactory⟩ | ⟨hdead, hremoved⟩⟩
  · rw [hfactory]
    exact hw.update hs (halive.trans ha.symm)
  · exact hw.remove hs ha hdead hremoved

theorem runAt_spec {m : Method Unit} {Q : Frame → Prop}
    (hm : wp m Fault.Benign (fun _ => Q) ⟨w.factory, s⟩) :
    (∀ fault, w.runAt p s m = .error fault → fault.Benign) ∧ ∀ w', w.runAt p s m = .ok w' →
      ∃ f, Q f ∧ w' = { factory := f.factory, slots := Function.update w.slots p (some f.slot) } := by
  unfold runAt
  rcases hrun : m ⟨w.factory, s⟩ with fault | ⟨a, f⟩
  · exact ⟨fun fault' hfault => Except.error.inj hfault ▸ wp_error hm hrun, nofun⟩
  · exact ⟨nofun, fun w' hw' => ⟨f, wp_ok hm hrun, (Except.ok.inj hw').symm⟩⟩

end ProxyWorld

/-! ## Every event -/

/-- The core of a request before `Restart`. -/
def Core.fresh : Core where
  alive := true
  receiver := .unbound
  targetLoader := false
  loaderAwaits := false
  currentResponse := none
  overrideHeaders := none
  continuations := []
  writes := []
  trace := []
  stored := []
  starts := []

theorem newRequest_core (f : ProxyFactory) (id : UInt64) (requestId : Int) (options : Nat)
    (request : ResourceRequest) (trafficAnnotationTag : Nat) :
    ({ object := f.newRequest id requestId options request trafficAnnotationTag } : Slot).core = .fresh := rfl

/-- How an event changes the slots. -/
inductive SlotStep {Ω : Type} (lib : NetLibrary) (hooks : Hooks Ω) (w : ProxyWorld) :
    ProxyEvent Ω → (Ptr → Option Slot) → Prop
  | created {receiver requestId options request trafficAnnotationTag env s} :
      StartExit w.factory.targetFactory .fresh s.core →
      SlotStep lib hooks w (.createLoaderAndStart receiver requestId options request
        trafficAnnotationTag env)
        (Function.update w.slots w.factory.nextPtr (some s))
  | request {p e s s'} : w.slots p = some s → s.alive = true →
      CoreStep lib hooks w.factory.targetFactory s.object.request s.core e s'.core →
      SlotStep lib hooks w (.request p e) (Function.update w.slots p (some s'))
  | ignored {p e s s'} : w.slots p = some s → s.alive = false → s.core.Ignores s'.core →
      SlotStep lib hooks w (.request p e) (Function.update w.slots p (some s'))
  | none {e} : SlotStep lib hooks w e w.slots

namespace ProxyWorld

variable {Ω : Type} {lib : NetLibrary} {hooks : Hooks Ω} {w : ProxyWorld}

/-- How an event ends: with a benign fault, or in a consistent world, where a factory that is gone
stays so. -/
def Goes (lib : NetLibrary) (hooks : Hooks Ω) (w : ProxyWorld) (e : ProxyEvent Ω)
    (r : Except Fault ProxyWorld) : Prop :=
  (∀ fault, r = .error fault → fault.Benign) ∧
    ∀ w', r = .ok w' →
      w'.Consistent ∧ (w'.factory.alive = true → w.factory.alive = true) ∧
        SlotStep lib hooks w e w'.slots

theorem goes_factory (hw : w.Consistent) (ha : w.factory.alive = true) {e : ProxyEvent Ω}
    {r : Except Fault ProxyFactory}
    (hr : ∃ g, r = .ok g ∧ g.Consistent ∧ g.requests = w.factory.requests ∧
      g.nextPtr = w.factory.nextPtr) :
    Goes lib hooks w e (r.map fun factory => { w with factory }) := by
  obtain ⟨g, rfl, hcons, hrequests, hnext⟩ := hr
  refine ⟨nofun, ?_⟩
  rintro _ ⟨⟩
  exact ⟨⟨hcons, fun p => hrequests ▸ hw.requests p, fun p hp => hw.fresh p (hnext ▸ hp)⟩, fun _ => ha, .none⟩

theorem request_spec (hw : w.Consistent) {p : Ptr} {s : Slot} {e : RequestEvent Ω}
    (hs : w.slots p = some s) (hen : e.isEnabled s = true) : Goes lib hooks w (.request p e)
    (w.runAt p s (e.run lib hooks p)) := by
  rcases ha : s.alive with _ | _
  · obtain ⟨herror, hok⟩ := runAt_spec (RequestEvent.run_dead_spec (f := ⟨w.factory, s⟩) ha e hen)
    refine ⟨herror, fun w' hw' => ?_⟩
    obtain ⟨f, ⟨hignores, hdead, hfactory⟩, rfl⟩ := hok w' hw'
    refine ⟨?_, fun halive => (congrArg ProxyFactory.alive hfactory).symm.trans halive,
      .ignored hs ha hignores⟩
    rw [hfactory]
    exact hw.update hs (hdead.trans ha.symm)
  · obtain ⟨herror, hok⟩ := runAt_spec (RequestEvent.run_spec (hw.ready hs ha) e hen)
    refine ⟨herror, fun w' hw' => ?_⟩
    obtain ⟨f, hleaves, rfl⟩ := hok w' hw'
    exact ⟨hw.leave hs ha hleaves, fun _ => (hw.held hs ha).alive, .request hs ha hleaves.1⟩

theorem emplace_consistent (hw : w.Consistent) (ha : w.factory.alive = true) {s : Slot}
    (hs : s.alive = true) :
    Consistent
      { factory := w.factory.generate.2.emplaceRequest
        slots := Function.update w.slots w.factory.nextPtr (some s) } := by
  have hheld : w.factory.generate.2.Held := { hw.factory.held ha with }
  refine ⟨(ProxyFactory.emplaceRequest_held hheld).consistent
    (Or.inr (by simp [ProxyFactory.emplaceRequest])), ?_, ?_⟩
  · intro p
    simp only [ProxyFactory.emplaceRequest, ProxyFactory.generate, List.mem_append,
      List.mem_singleton, hw.requests p]
    by_cases hp : p = w.factory.nextPtr
    · simp [hp, hs]
    · simp [hp]
  · intro p hp
    have hlt : w.factory.nextPtr < p := hp
    simp only [Function.update_of_ne (Nat.ne_of_gt hlt)]
    exact hw.fresh p (Nat.le_of_lt hlt)

theorem create_spec (hw : w.Consistent) (ha : w.factory.alive = true) {receiver : Nat}
    {requestId : Int} {options : Nat} {request : ResourceRequest}
    {trafficAnnotationTag : Nat} {env : Env Ω} :
    Goes lib hooks w (.createLoaderAndStart receiver requestId options request
      trafficAnnotationTag env)
      (w.createLoaderAndStart lib hooks requestId options request trafficAnnotationTag env) := by
  have hcore := newRequest_core w.factory.generate.2 w.factory.generate.1 requestId options request
    trafficAnnotationTag
  change Goes lib hooks w _ (runAt { w with factory := w.factory.generate.2.emplaceRequest } w.factory.nextPtr
    { object := w.factory.generate.2.newRequest w.factory.generate.1 requestId options request
        trafficAnnotationTag }
    (restartInternal lib hooks w.factory.nextPtr env))
  generalize w.factory.generate.2.newRequest w.factory.generate.1 requestId options request
    trafficAnnotationTag = object
    at hcore ⊢
  have hnew := emplace_consistent hw ha (s := { object }) rfl
  have hslot := Function.update_self w.factory.nextPtr (some ({ object } : Slot)) w.slots
  obtain ⟨herror, hok⟩ := runAt_spec
    (w := { w with factory := w.factory.generate.2.emplaceRequest })
    (m := restartInternal lib hooks w.factory.nextPtr env)
      (restartInternal_spec (hnew.ready hslot rfl) env)
  refine ⟨herror, fun w' hw' => ?_⟩
  obtain ⟨f, hleaves, rfl⟩ := hok w' hw'
  refine ⟨?_, fun _ => ha, .created (hcore ▸ hleaves.1)⟩
  simpa only [Function.update_idem] using hnew.leave hslot rfl hleaves

theorem exec_spec (hw : w.Consistent) {e : ProxyEvent Ω} (hen : w.isEnabled e = true) :
    Goes lib hooks w e (w.exec lib hooks e) := by
  cases e with
  | createLoaderAndStart receiver requestId options request trafficAnnotationTag env =>
    simp only [isEnabled, Bool.and_eq_true] at hen
    exact create_spec hw hen.1
  | clone receiver =>
    simp only [isEnabled, Bool.and_eq_true, List.contains_iff_mem] at hen
    refine goes_factory hw hen.1 (r := .ok w.factory.clone) ⟨_, rfl, ?_, rfl, rfl⟩
    exact ProxyFactory.clone_consistent hw.factory (List.ne_nil_of_mem hen.2)
  | proxyDisconnect receiver =>
    simp only [isEnabled, Bool.and_eq_true, List.contains_iff_mem] at hen
    exact goes_factory hw hen.1 (ProxyFactory.onProxyBindingError_spec
      (hw.factory.held hen.1) hen.2)
  | targetFactoryError =>
    simp only [isEnabled, Bool.and_eq_true] at hen
    exact goes_factory hw hen.1 (ProxyFactory.onTargetFactoryError_spec (hw.factory.held hen.1))
  | request p e =>
    simp only [isEnabled, Option.any_eq_true] at hen
    obtain ⟨s, hs, hen⟩ := hen
    simp only [exec, hs]
    exact request_spec hw hs hen

end ProxyWorld

/-- A condition on the events of requests. -/
def OnRequests {Ω : Type} (C : Slot → RequestEvent Ω → Prop) (w : ProxyWorld) : ProxyEvent Ω → Prop
  | .request p e => ∀ s ∈ w.slots p, C s e
  | _ => True

instance {Ω : Type} (C : Slot → RequestEvent Ω → Prop) [∀ s e, Decidable (C s e)] (w : ProxyWorld)
    (e : ProxyEvent Ω) :
    Decidable (OnRequests C w e) :=
  match e with
  | .request p e => inferInstanceAs (Decidable (∀ s ∈ w.slots p, C s e))
  | .createLoaderAndStart .. | .clone _ | .proxyDisconnect _ | .targetFactoryError =>
    .isTrue trivial

section Runs
variable {Ω : Type} {lib : NetLibrary} {hooks : Hooks Ω} {renderProcessId frameTreeNodeId : Int}
  {generator : UInt64}

theorem new_consistent : ProxyWorld.Consistent
    { factory := .new renderProcessId frameTreeNodeId generator } where
  factory :=
    { target := by simp [ProxyFactory.new]
      alive := by simp [ProxyFactory.new, ProxyFactory.InUse]
      callback := rfl
      owner := rfl
      runs := rfl
      nodup := List.nodup_nil
      fresh := nofun }
  requests := by simp [ProxyFactory.new]
  fresh _ _ := rfl

theorem Reachable.consistent {w : ProxyWorld}
    (h : (proxySystem lib hooks renderProcessId frameTreeNodeId generator).Reachable w) : w.Consistent := by
  refine System.Reach.invariant new_consistent ?_ h
  intro w e w' hw hen _ hex
  exact ((ProxyWorld.exec_spec hw hen).2 w' hex).1

/-- What holds of all requests before an event, and of a new one after its first `Restart`, holds
after it, if the event meets the condition. -/
theorem SlotStep.keeps {I : Core → Prop} {C : Slot → RequestEvent Ω → Prop}
    (hstart : ∀ factoryBound c, StartExit factoryBound .fresh c → I c)
    (hstep : ∀ s e factoryBound c, I s.core → s.alive = true → C s e →
      CoreStep lib hooks factoryBound s.object.request s.core e c → I c)
    (hignored : ∀ c c', I c → c.alive = false → c.Ignores c' → I c')
    {w : ProxyWorld} {e : ProxyEvent Ω} {slots : Ptr → Option Slot}
    (h : SlotStep lib hooks w e slots) (hI : ∀ p s, w.slots p = some s → I s.core)
    (hC : OnRequests C w e) {q : Ptr} {t : Slot} (ht : slots q = some t) :
    I t.core := by
  cases h with
  | none => exact hI q t ht
  | created hexit =>
    by_cases hq : q = w.factory.nextPtr
    · subst hq
      rw [Function.update_self, Option.some.injEq] at ht
      exact ht ▸ hstart _ _ hexit
    · exact hI q t (by rwa [Function.update_of_ne hq] at ht)
  | @request p e s s' hs ha hcore =>
    by_cases hq : q = p
    · subst hq
      rw [Function.update_self, Option.some.injEq] at ht
      exact ht ▸ hstep s e _ _ (hI q s hs) ha (hC s hs) hcore
    · exact hI q t (by rwa [Function.update_of_ne hq] at ht)
  | @ignored p e s s' hs hdead hignores =>
    by_cases hq : q = p
    · subst hq
      rw [Function.update_self, Option.some.injEq] at ht
      exact ht ▸ hignored _ _ (hI q s hs) hdead hignores
    · exact hI q t (by rwa [Function.update_of_ne hq] at ht)

/-- What holds of a request after its first `Restart`, and is kept by every event that meets the
condition, holds of all requests of the runs whose events meet it. -/
theorem slot_invariant {I : Core → Prop} {C : Slot → RequestEvent Ω → Prop}
    (hstart : ∀ factoryBound c, StartExit factoryBound .fresh c → I c)
    (hstep : ∀ s e factoryBound c, I s.core → s.alive = true → C s e →
      CoreStep lib hooks factoryBound s.object.request s.core e c → I c)
    (hignored : ∀ c c', I c → c.alive = false → c.Ignores c' → I c')
    {w : ProxyWorld}
    (h : (proxySystem lib hooks renderProcessId frameTreeNodeId generator).Reach (OnRequests C) w)
    {p : Ptr} {s : Slot} (hs : w.slots p = some s) : I s.core := by
  suffices hw : w.Consistent ∧ ∀ p s, w.slots p = some s → I s.core from hw.2 p s hs
  refine System.Reach.invariant (I := fun w => w.Consistent ∧ ∀ p s, w.slots p = some s → I s.core)
    ⟨new_consistent, fun p s hs => by simp [proxySystem] at hs⟩ ?_ h
  rintro w e w' ⟨hw, hI⟩ hen hC hex
  obtain ⟨hw', -, hslots⟩ := (ProxyWorld.exec_spec hw hen).2 w' hex
  exact ⟨hw', fun q t ht => hslots.keeps hstart hstep hignored hI hC ht⟩

theorem Reachable.onRequests {w : ProxyWorld}
    (h : (proxySystem lib hooks renderProcessId frameTreeNodeId generator).Reachable w) :
    (proxySystem lib hooks renderProcessId frameTreeNodeId generator).Reach
    (OnRequests fun _ _ => True) w := by
  refine h.mono fun w e _ => ?_
  cases e <;> simp [OnRequests]

theorem disconnectRuns_step {w w' : ProxyWorld} {e : ProxyEvent Ω} (hw : w.Consistent)
    (hen : w.isEnabled e = true) (hex : w.exec lib hooks e = .ok w') :
    w'.factory.disconnectRuns ≠ w.factory.disconnectRuns ↔
    w.factory.InUse ∧ ¬ w'.factory.InUse := by
  obtain ⟨hw', hgone, -⟩ := (ProxyWorld.exec_spec hw hen).2 w' hex
  rw [hw.factory.runs, hw'.factory.runs, ← hw.factory.alive, ← hw'.factory.alive]
  rcases ha : w.factory.alive with _ | _ <;> rcases ha' : w'.factory.alive with _ | _ <;> simp_all

/-- **The factory lives exactly as long as it is in use, and its owner is told once.** -/
theorem factory_lifetime {w : ProxyWorld}
    (h : (proxySystem lib hooks renderProcessId frameTreeNodeId generator).Reachable w) :
    (w.factory.targetFactory = true ↔ w.factory.proxyReceivers ≠ []) ∧
      (w.factory.alive = true ↔ w.factory.targetFactory = true ∨ w.factory.requests ≠ []) ∧
      w.factory.disconnectRuns = (if w.factory.alive then 0 else 1) ∧
      ∀ e, w.isEnabled e = true →
        (∀ fault, w.exec lib hooks e = .error fault →
          fault ≠ .useAfterFree ∧ fault ≠ .requestNotFound ∧ fault ≠ .proxyNotFound ∧
            fault ≠ .nullCallback) ∧
        ∀ w', w.exec lib hooks e = .ok w' →
          (w'.factory.disconnectRuns ≠ w.factory.disconnectRuns ↔
            (w.factory.targetFactory = true ∨ w.factory.requests ≠ []) ∧
              ¬ (w'.factory.targetFactory = true ∨ w'.factory.requests ≠ [])) := by
  have hw := Reachable.consistent h
  refine ⟨hw.factory.target, hw.factory.alive, hw.factory.runs, fun e hen =>
    ⟨fun fault hfault => ?_, fun w' hex => ?_⟩⟩
  · have hbenign := (ProxyWorld.exec_spec hw hen).1 fault hfault
    cases fault <;> simp_all [Fault.Benign]
  · exact disconnectRuns_step hw hen hex

end Runs

/-! ## Concrete runs -/

/-- Hooks that let everything pass. -/
def passHooks : Hooks Unit where
  onBeforeURLRequest _ _ := { result := .ok }
  onBeforeStartTransaction _ _ _ := { result := .ok }
  onHeadersReceived _ _ _ := { result := .ok }
  resume _ _ := (NetError.OK, {})

/-- The last receiver disconnects before the request is done. -/
theorem factory_lifetime_lastRequest : ∃ w,
    (proxySystem plainLibrary passHooks 0 0 0).Reachable w ∧ w.factory.disconnectRuns = 1 ∧
      (w.factory.alive = true ↔ w.factory.targetFactory = true ∨ w.factory.requests ≠ []) := by
  have h := System.reach_of_replay (S := proxySystem plainLibrary passHooks 0 0 0)
    (C := fun _ _ => True)
    [.createLoaderAndStart 0 1 0 pageRequest 0 ⟨(), true⟩, .proxyDisconnect 0,
      .request 0 (.onComplete { errorCode := NetError.OK })] rfl
  exact ⟨_, h, rfl, (factory_lifetime h).2.1⟩

end DumbBrowser
