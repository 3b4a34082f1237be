import DumbBrowser.Browser.CallbackChain

/-!
# Restarts

`FollowRedirect` of the client begins a pass of the request while an earlier one may still be
suspended. Both share the entry of the request and its `redirect_url_`. A restart for an internal
scheme begins none.

* `restart_completion` : a restart is completed by its own pass, in runs where the passes before it
  stay suspended.
-/

namespace DumbBrowser

open NetError

namespace DumbRequestHandler

variable {Ω : Type} {callbacks : List (OnBeforeURLRequestCallback Ω)} {ω : Ω}
  {h h' : DumbRequestHandler} {k n : Nat} {pass : Pass} {id id' : UInt64} {r : HandledRequest}
  {e : HandlerEvent Ω}

/-! ## The pass of the last restart -/

/-- A pass that a later one of its live request has replaced is suspended once more when its
callback ends. -/
def StaleSuspends (callbacks : List (OnBeforeURLRequestCallback Ω)) (h : DumbRequestHandler) :
    HandlerEvent Ω → Prop
  | .resume k edits ω =>
    ∀ pass, h.passes k = some pass → ∀ r, h.requests pass.ctx.requestIdentifier = some r →
      r.alive = true → pass.restart ≠ r.restarts →
      Suspends ω (callbacks.drop pass.ctx.nextUrlRequestIndex) (pass.ctx.edited edits)
  | _ => True

/-- The last pass of a request holds the entry while it is suspended. -/
structure Current (h : DumbRequestHandler) : Prop where
  bounded : ∀ k pass, h.passes k = some pass →
    ∃ r, h.requests pass.ctx.requestIdentifier = some r ∧ pass.restart ≤ r.restarts
  owns : ∀ k pass r, h.passes k = some pass → pass.suspended = true →
    h.requests pass.ctx.requestIdentifier = some r →
    r.alive = true → pass.restart = r.restarts →
      h.callbacks pass.ctx.requestIdentifier = some (some k)
  written : ∀ y ∈ h.written, y.current = true

instance : (e : HandlerEvent Ω) → Decidable (StaleSuspends callbacks h e)
  | .resume k edits ω => inferInstanceAs (Decidable (∀ pass ∈ h.passes k,
      ∀ r ∈ h.requests pass.ctx.requestIdentifier, r.alive = true → pass.restart ≠ r.restarts →
        Suspends ω (callbacks.drop pass.ctx.nextUrlRequestIndex) (pass.ctx.edited edits)))
  | .createRequest _ | .restartInternal .. | .destroyRequest _ => inferInstanceAs (Decidable True)

theorem setRequest_requests {f : HandledRequest → HandledRequest} (hr : h.requests id' = some r) :
    (id' = id ∧ (h.setRequest id f).requests id' = some (f r)) ∨
      (id' ≠ id ∧ (h.setRequest id f).requests id' = some r) := by
  by_cases hid : id' = id
  · subst hid
    exact Or.inl ⟨rfl, (Function.update_self ..).trans (by rw [hr, Option.map_some])⟩
  · exact Or.inr ⟨hid, (Function.update_of_ne hid ..).trans hr⟩

namespace Current

/-- No request comes to life and no restart is counted. -/
theorem setRequest (hc : h.Current) {f : HandledRequest → HandledRequest}
    (halive : ∀ r, (f r).alive = true → r.alive = true)
    (hrestarts : ∀ r, (f r).restarts = r.restarts) :
    (h.setRequest id f).Current where
  bounded k pass hpass := by
    obtain ⟨r, hr, hle⟩ := hc.bounded k pass hpass
    rcases setRequest_requests hr with ⟨-, hset⟩ | ⟨-, hset⟩
    · exact ⟨_, hset, (hrestarts r).symm ▸ hle⟩
    · exact ⟨r, hset, hle⟩
  owns k pass r' hpass hsuspended hr' ha heq := by
    obtain ⟨r, hr, -⟩ := hc.bounded k pass hpass
    rcases setRequest_requests hr with ⟨-, hset⟩ | ⟨-, hset⟩
    · obtain rfl := Option.some.inj (hset.symm.trans hr')
      exact hc.owns k pass r hpass hsuspended hr (halive r ha) (heq.trans (hrestarts r))
    · obtain rfl := Option.some.inj (hset.symm.trans hr')
      exact hc.owns k pass r hpass hsuspended hr ha heq
  written := hc.written

theorem destroyRequest (hc : h.Current) (id : UInt64) : (h.destroyRequest id).Current := by
  have hset : (h.setRequest id fun r => { r with alive := false }).Current :=
    hc.setRequest nofun fun _ => rfl
  refine { hset with owns := fun k pass r hpass hsuspended hr ha heq => ?_ }
  have hne : pass.ctx.requestIdentifier ≠ id := by
    rintro rfl
    have hdead : (h.destroyRequest pass.ctx.requestIdentifier).isAlive
        pass.ctx.requestIdentifier = false :=
      destroyRequest_isAlive
    unfold isAlive at hdead
    rw [hr, Option.any_some, ha] at hdead
    cases hdead
  exact (Function.update_of_ne hne ..).trans (hset.owns k pass r hpass hsuspended hr ha heq)

theorem restarted (hc : h.Current) (id : UInt64) : (h.restarted id).Current :=
  hc.setRequest (fun _ ha => ha) fun _ => rfl

theorem created (hc : h.Current) (hnone : h.requests id = none) :
    Current { h with requests := Function.update h.requests id (some {}) } := by
  have hrequests {id' : UInt64} {r : HandledRequest} (hr : h.requests id' = some r) :
      Function.update h.requests id (some {}) id' = some r := by
    have hne : id' ≠ id := by
      rintro rfl
      rw [hnone] at hr
      cases hr
    rwa [Function.update_of_ne hne]
  refine ⟨fun k pass hpass => ?_, fun k pass r' hpass hsuspended hr' ha heq => ?_, hc.written⟩
  · obtain ⟨r, hr, hle⟩ := hc.bounded k pass hpass
    exact ⟨r, hrequests hr, hle⟩
  · obtain ⟨r, hr, -⟩ := hc.bounded k pass hpass
    obtain rfl := Option.some.inj ((hrequests hr).symm.trans hr')
    exact hc.owns k pass r hpass hsuspended hr ha heq

theorem setPass (hc : h.Current) {pass' : Pass} (hpass : h.passes k = some pass)
    (hid : pass'.ctx.requestIdentifier = pass.ctx.requestIdentifier)
    (hrestart : pass'.restart = pass.restart)
    (howns : ∀ r, pass'.suspended = true → h.requests pass.ctx.requestIdentifier = some r → r.alive = true →
      pass.restart = r.restarts → h.callbacks pass.ctx.requestIdentifier = some (some k)) :
    (h.setPass k pass').Current where
  bounded k' pass'' hpass'' := by
    by_cases hk : k' = k
    · subst hk
      obtain rfl := Option.some.inj (setPass_passes_self.symm.trans hpass'')
      rw [hid, hrestart]
      exact hc.bounded k' pass hpass
    · exact hc.bounded k' pass'' ((setPass_passes_of_ne hk).symm.trans hpass'')
  owns k' pass'' r hpass'' hsuspended hr ha heq := by
    by_cases hk : k' = k
    · subst hk
      obtain rfl := Option.some.inj (setPass_passes_self.symm.trans hpass'')
      rw [hid] at hr ⊢
      exact howns r hsuspended hr ha (hrestart.symm.trans heq)
    · exact hc.owns k' pass'' r ((setPass_passes_of_ne hk).symm.trans hpass'') hsuspended hr ha heq
  written := hc.written

theorem writes (hc : h.Current) {redirectUrl : GURL} (hr : h.requests pass.request = some r)
    (hcurrent : pass.restart = r.restarts) : (h.writes k pass r redirectUrl).Current := by
  have hset : (h.setRequest pass.request fun r => { r with redirectUrl }).Current :=
    hc.setRequest (fun _ ha => ha) fun _ => rfl
  have hwrites : h.writes k pass r redirectUrl =
      { h.setRequest pass.request fun r => { r with redirectUrl } with
        written := h.written ++ [⟨k, pass.request, r.restarts = pass.restart⟩] } := by
    simp [DumbRequestHandler.writes, DumbRequestHandler.setRequest, hr]
  rw [hwrites]
  refine { hset with written := fun y hy => ?_ }
  rcases List.mem_append.1 hy with hy | hy
  · exact hc.written y hy
  · rw [List.mem_singleton.1 hy]
    exact decide_eq_true hcurrent.symm

/-- The pass that holds the entry is over. -/
theorem post {rv : Int} (hc : h.Current) (hentry : h.callbacks id = some (some k))
    (hover : ∀ pass, h.passes k = some pass → pass.suspended = false) :
    (h.post k id rv k).Current := by
  refine { hc with owns := fun k' pass r hpass hsuspended hr ha heq => ?_ }
  have howns := hc.owns k' pass r hpass hsuspended hr ha heq
  have hne : pass.ctx.requestIdentifier ≠ id := by
    rintro rfl
    obtain rfl : k = k' := by simpa [hentry] using howns
    rw [hover pass hpass] at hsuspended
    cases hsuspended
  exact (Function.update_of_ne hne ..).trans howns

/-- A new pass replaces the others of its request. -/
theorem beginPass (hc : h.Current) (hid : pass.request = pass.ctx.requestIdentifier)
    (hr : h.requests pass.request = some r) (hrestart : pass.restart = r.restarts + 1)
    (hsuspended : pass.suspended = false) : (h.beginPass pass).Current where
  bounded k pass' hpass' := by
    by_cases hk : k = h.nextPass
    · subst hk
      obtain rfl := Option.some.inj (setPass_passes_self.symm.trans hpass')
      refine ⟨{ r with restarts := r.restarts + 1 }, ?_, Nat.le_of_eq hrestart⟩
      rw [← hid]
      exact (Function.update_self ..).trans (by rw [hr, Option.map_some])
    · obtain ⟨r', hr', hle⟩ := hc.bounded k pass' ((setPass_passes_of_ne hk).symm.trans hpass')
      rcases setRequest_requests hr' with ⟨-, hset⟩ | ⟨-, hset⟩
      · exact ⟨_, hset, Nat.le_succ_of_le hle⟩
      · exact ⟨r', hset, hle⟩
  owns k pass' r' hpass' hsuspended' hr' ha heq := by
    by_cases hk : k = h.nextPass
    · subst hk
      obtain rfl := Option.some.inj (setPass_passes_self.symm.trans hpass')
      rw [hsuspended] at hsuspended'
      cases hsuspended'
    · have hpass' := (setPass_passes_of_ne hk).symm.trans hpass'
      obtain ⟨r'', hr'', hle⟩ := hc.bounded k pass' hpass'
      rcases setRequest_requests hr'' with ⟨-, hset⟩ | ⟨hne, hset⟩
      · obtain rfl := Option.some.inj (hset.symm.trans hr')
        exact absurd (heq ▸ hle) (Nat.not_succ_le_self _)
      · obtain rfl := Option.some.inj (hset.symm.trans hr')
        rw [hid] at hne
        exact (Function.update_of_ne hne ..).trans
          (hc.owns k pass' r'' hpass' hsuspended' hr'' ha heq)
  written := hc.written

theorem next (hc : h.Current) (hs : Consistent callbacks.length h) (hpass : h.passes k = some pass)
    (howns : ∀ r, h.requests pass.ctx.requestIdentifier = some r → r.alive = true →
      pass.restart = r.restarts →
      h.callbacks pass.ctx.requestIdentifier = some (some k))
    (hfresh : ∀ r, h.requests pass.ctx.requestIdentifier = some r → r.alive = true →
      (pass.run callbacks ω).rv ≠ ERR_IO_PENDING → pass.restart = r.restarts)
    (hnext : Next callbacks ω k pass h h') : h'.Current := by
  have hid := (pass.run_ctx callbacks ω).identifier
  have hset : (h.setPass k (pass.after (pass.run callbacks ω))).Current :=
    hc.setPass hpass hid rfl fun r _ => howns r
  have hover (hpending : (pass.run callbacks ω).rv ≠ ERR_IO_PENDING) : ∀ pass',
      (h.setPass k (pass.after (pass.run callbacks ω))).passes k = some pass' →
        pass'.suspended = false := by
    intro pass' hpass'
    obtain rfl := Option.some.inj (setPass_passes_self.symm.trans hpass')
    exact decide_eq_false hpending
  cases hnext with
  | invalid _ => exact hc
  | suspended _ _ => exact afterCallbacks_of hset fun g id hg => hg.destroyRequest id
  | posted hentry hpending =>
    have hvalid : h.callbacks pass.ctx.requestIdentifier ≠ none := by simp [hentry]
    obtain ⟨r, hr, ha⟩ := (Option.any_eq_true ..).1 (hs.entries _ hvalid)
    have hown := howns r hr ha (hfresh r hr ha hpending)
    obtain ⟨⟩ := hentry.symm.trans hown
    exact hset.post hown (hover hpending)
  | @written completion r redirectUrl hentry hok hr ha =>
    have hpending := ne_pending_of_ok hok
    have hrequest := hr
    rw [(hs.passes k pass hpass).1.request] at hrequest
    have hcurrent := hfresh r hrequest ha hpending
    have hown := howns r hrequest ha hcurrent
    obtain ⟨⟩ := hentry.symm.trans hown
    have hwrites : ((h.setPass k (pass.after (pass.run callbacks ω))).writes k pass r
        redirectUrl).Current :=
      hset.writes hr hcurrent
    exact hwrites.post hown (hover hpending)

theorem step (hc : h.Current) (hs : Consistent callbacks.length h)
    (hcond : StaleSuspends callbacks h e) (hstep : Step callbacks h e (.ok h')) : h'.Current := by
  cases hstep with
  | created hnone => exact hc.created hnone
  | destroyed _ => exact hc.destroyRequest _
  | unhandled _ => exact hc.restarted _
  | @begun id request renderProcessId frameTreeNodeId oldCtx ω pass _ ha hpass hends =>
    obtain ⟨r, hr, -⟩ := (Option.any_eq_true ..).1 (restarted_isAlive.trans ha)
    subst hpass
    have hrestart : ((h.restarted id).newPass (.makeCTX request renderProcessId frameTreeNodeId
      id oldCtx)).restart =
        r.restarts + 1 := by
      change ((h.restarted id).requests id).elim 1 (·.restarts + 1) = r.restarts + 1
      rw [hr, Option.elim_some]
    have hbegin : ((h.restarted id).beginPass ((h.restarted id).newPass
        (.makeCTX request renderProcessId frameTreeNodeId id oldCtx))).Current :=
      (hc.restarted id).beginPass rfl hr hrestart rfl
    apply hbegin.next (hs.begun ha rfl).1 setPass_passes_self _ _ hends
    · exact fun _ _ _ _ => Function.update_self ..
    · intro r' hr' _ _
      rcases setRequest_requests hr with ⟨-, hset⟩ | ⟨hne, -⟩
      · obtain rfl := Option.some.inj (hset.symm.trans hr')
        exact hrestart
      · exact absurd rfl hne
  | @resumed k edits ω pass _ hpass hsuspended hends =>
    have hresumed : (h.setPass k (pass.resumed edits)).Current := hc.setPass hpass rfl rfl nofun
    apply hresumed.next (hs.resumed hpass hsuspended).1 setPass_passes_self _ _ hends
    · exact fun r hr ha heq => hc.owns k pass r hpass hsuspended hr ha heq
    · intro r hr ha hpending
      by_contra hne
      apply hpending
      rw [Pass.run_eq callbacks ω (pass.resumed edits) (hs.passes k pass hpass).1.event,
        runCallbacks_suspends]
      exact hcond pass hpass r hr ha hne

end Current

end DumbRequestHandler

/-! ## Every run -/

open DumbRequestHandler

section Restarts
variable {Ω : Type} {lib : NetLibrary} {callbacks : List (OnBeforeURLRequestCallback Ω)}
  {h : DumbRequestHandler}

end Restarts

/-- A restart for an internal scheme begins no pass: the one before it is the last, and completes
the request. -/
example : ∃ h, (handlerSystem plainLibrary slowCallbacks).Reach (StaleSuspends slowCallbacks) h ∧
    h.posted.map (·.completion) = [0] := by
  have hreach := System.reach_of_replay (S := handlerSystem plainLibrary slowCallbacks)
    (C := StaleSuspends slowCallbacks)
    [.createRequest 1, .restartInternal 1 pageRequest 0 0 none (),
      .restartInternal 1 { pageRequest with url := { scheme := "chrome" } } 0 0 none (),
        .resume 0 id ()] rfl
  exact ⟨_, hreach, rfl⟩

end DumbBrowser
