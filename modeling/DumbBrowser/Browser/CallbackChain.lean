import DumbBrowser.Browser.CallbackLoop

/-!
# Passes through the callbacks

What the passes post and write, for any number of requests, passes and suspensions.

* `DumbRequestHandler.Consistent` : what holds in every run.
* `callback_chains` : a completion is posted with the outcome of its own pass, in runs where no pass
  comes to its end while the entry of its request holds the completion of another.
-/

namespace DumbBrowser

open NetError

/-! ## Passes -/

structure Pass.Valid (n : Nat) (pass : Pass) : Prop where
  event : pass.ctx.eventType = .onBeforeRequest
  request : pass.request = pass.ctx.requestIdentifier
  order : pass.called.map (·.1) = List.range pass.ctx.nextUrlRequestIndex
  bound : pass.ctx.nextUrlRequestIndex ≤ n
  passing : pass.suspended = true → ∀ r ∈ pass.called, Passing r.2

theorem Pass.Valid.length {n : Nat} {pass : Pass} (h : pass.Valid n) :
    pass.called.length = pass.ctx.nextUrlRequestIndex := by
  simpa using congrArg List.length h.order

namespace DumbRequestHandler

variable {Ω : Type} {lib : NetLibrary} {callbacks : List (OnBeforeURLRequestCallback Ω)} {ω : Ω}
  {h h' : DumbRequestHandler} {k n : Nat} {pass : Pass} {id : UInt64} {rv : Int}

/-- Pass `k` is one of request `id`. -/
def Begun (h : DumbRequestHandler) (k : Nat) (id : UInt64) : Prop :=
  ∃ pass, h.passes k = some pass ∧ pass.ctx.requestIdentifier = id

/-- Pass `k` of request `id` is over, with outcome `rv`. -/
def Finished (n : Nat) (h : DumbRequestHandler) (k : Nat) (id : UInt64) (rv : Int) : Prop :=
  ∃ pass, h.passes k = some pass ∧ pass.ctx.requestIdentifier = id ∧ pass.suspended = false ∧
    Outcome n pass.called rv

structure Consistent (n : Nat) (h : DumbRequestHandler) : Prop where
  entries : ∀ id, h.callbacks id ≠ none → h.isAlive id = true
  registered : ∀ id k, h.callbacks id = some (some k) → h.Begun k id
  passes : ∀ k pass, h.passes k = some pass → pass.Valid n ∧ k < h.nextPass
  posted : ∀ x ∈ h.posted, x.live = true ∧ h.Begun x.completion x.request ∧
    h.Finished n x.poster x.request x.rv
  written : ∀ y ∈ h.written, h.Finished n y.poster y.request OK
  once : (h.posted.map (·.completion)).Nodup
  unposted : ∀ id k, h.callbacks id = some (some k) → ∀ x ∈ h.posted, x.completion ≠ k

/-- Pass `k` has not come to its end. -/
structure Idle (h : DumbRequestHandler) (k : Nat) : Prop where
  posted : ∀ x ∈ h.posted, x.poster ≠ k
  written : ∀ y ∈ h.written, y.poster ≠ k

theorem Consistent.idle (hs : Consistent n h)
    (hk : ∀ pass, h.passes k = some pass → pass.suspended = true) :
    h.Idle k where
  posted x hx := by
    rintro rfl
    obtain ⟨pass, hpass, -, hover, -⟩ := (hs.posted x hx).2.2
    simp [hk pass hpass] at hover
  written y hy := by
    rintro rfl
    obtain ⟨pass, hpass, -, hover, -⟩ := hs.written y hy
    simp [hk pass hpass] at hover

theorem beginPass_callbacks {entry : Option Nat}
    (hentry : (h.beginPass pass).callbacks id = some entry) :
    (id = pass.ctx.requestIdentifier ∧ entry = some h.nextPass) ∨ h.callbacks id = some entry := by
  simp only [beginPass, Function.update_apply] at hentry
  split at hentry
  · next hid => exact Or.inl ⟨hid, (Option.some.inj hentry).symm⟩
  · exact Or.inr hentry

theorem post_callbacks {k' completion : Nat} {id' : UInt64}
    (hentry : (h.post k id rv completion).callbacks id' = some (some k')) :
    id' ≠ id ∧ h.callbacks id' = some (some k') := by
  simp only [post, Function.update_apply] at hentry
  split at hentry
  · cases hentry
  · next hne => exact ⟨hne, hentry⟩

theorem Begun.unique {id' : UInt64} (hb : h.Begun k id) (hb' : h.Begun k id') : id = id' := by
  obtain ⟨pass, hpass, rfl⟩ := hb
  obtain ⟨pass', hpass', rfl⟩ := hb'
  rw [hpass, Option.some.injEq] at hpass'
  rw [hpass']

theorem Begun.setPass {k' : Nat} (hb : h.Begun k' id) {pass' : Pass}
    (hid : ∀ pass, h.passes k = some pass →
      pass'.ctx.requestIdentifier = pass.ctx.requestIdentifier) :
    (h.setPass k pass').Begun k' id := by
  obtain ⟨pass, hpass, rfl⟩ := hb
  by_cases hk : k' = k
  · subst hk
    exact ⟨pass', setPass_passes_self, hid pass hpass⟩
  · exact ⟨pass, (setPass_passes_of_ne hk).trans hpass, rfl⟩

theorem Finished.setPass {k' : Nat} (hf : h.Finished n k' id rv) {pass' : Pass} (hk : k' ≠ k) :
    (h.setPass k pass').Finished n k' id rv := by
  obtain ⟨pass, hpass, hrest⟩ := hf
  exact ⟨pass, (setPass_passes_of_ne hk).trans hpass, hrest⟩

namespace Consistent

/-- A pass that is not over goes on. -/
theorem setPass (hs : Consistent n h) (hidle : h.Idle k) (hk : k < h.nextPass) {pass' : Pass}
    (hvalid : pass'.Valid n) (hid : ∀ pass, h.passes k = some pass →
      pass'.ctx.requestIdentifier = pass.ctx.requestIdentifier) :
    Consistent n (h.setPass k pass') where
  entries := hs.entries
  registered id k' hentry := (hs.registered id k' hentry).setPass hid
  passes k' pass hpass := by
    by_cases hkk : k' = k
    · subst hkk
      rw [setPass_passes_self, Option.some.injEq] at hpass
      exact ⟨hpass ▸ hvalid, hk⟩
    · rw [setPass_passes_of_ne hkk] at hpass
      exact hs.passes k' pass hpass
  posted x hx := by
    obtain ⟨hlive, hbegun, hfinished⟩ := hs.posted x hx
    exact ⟨hlive, hbegun.setPass hid, hfinished.setPass (hidle.posted x hx)⟩
  written y hy := (hs.written y hy).setPass (hidle.written y hy)
  once := hs.once
  unposted := hs.unposted

/-- Of the requests only which are alive matters. -/
theorem setRequests (hs : Consistent n h) {requests : UInt64 → Option HandledRequest}
    (halive : ∀ id, h.isAlive id = true → (requests id).any (·.alive) = true) :
    Consistent n { h with requests := requests } :=
  { hs with entries := fun id hentry => halive id (hs.entries id hentry) }

theorem restarted (hs : Consistent n h) (id : UInt64) : Consistent n (h.restarted id) :=
  hs.setRequests fun _ ha => restarted_isAlive.trans ha

theorem destroyRequest (hs : Consistent n h) (id : UInt64) :
    Consistent n (h.destroyRequest id) where
  entries id' hentry := by
    obtain ⟨entry, hentry⟩ := Option.ne_none_iff_exists'.1 hentry
    obtain ⟨hne, hentry⟩ := callbacks_destroyRequest hentry
    unfold isAlive
    rw [destroyRequest_requests_of_ne hne]
    exact hs.entries id' (by simp [hentry])
  registered id' k' hentry := hs.registered id' k' (callbacks_destroyRequest hentry).2
  passes := hs.passes
  posted := hs.posted
  written := hs.written
  once := hs.once
  unposted id' k' hentry := hs.unposted id' k' (callbacks_destroyRequest hentry).2

theorem writes (hs : Consistent n h) {r : HandledRequest} {redirectUrl : GURL} (ha : r.alive = true)
    (hf : h.Finished n k pass.request OK) : Consistent n (h.writes k pass r redirectUrl) := by
  have hrequests : Consistent n { h with
      requests := Function.update h.requests pass.request (some { r with redirectUrl }) } := by
    refine hs.setRequests fun id hid => ?_
    by_cases hne : id = pass.request
    · subst hne
      simp [ha]
    · rwa [Function.update_of_ne hne]
  refine { hrequests with written := fun y hy => ?_ }
  rcases List.mem_append.1 hy with hy | hy
  · exact hs.written y hy
  · exact List.mem_singleton.1 hy ▸ hf

theorem post (hs : Consistent n h) {completion : Nat}
    (hentry : h.callbacks id = some (some completion)) (hf : h.Finished n k id rv) :
    Consistent n (h.post k id rv completion) where
  entries id' hid' := by
    by_cases hne : id' = id
    · subst hne
      exact hs.entries id' (by simp [hentry])
    · exact hs.entries id' (by simpa [DumbRequestHandler.post, hne] using hid')
  registered id' k' hentry' := hs.registered id' k' (post_callbacks hentry').2
  passes := hs.passes
  posted x hx := by
    rcases List.mem_append.1 hx with hx | hx
    · exact hs.posted x hx
    · rw [List.mem_singleton.1 hx]
      exact ⟨hs.entries id (by simp [hentry]), hs.registered id completion hentry, hf⟩
  written := hs.written
  once := by
    simp only [DumbRequestHandler.post, List.map_append, List.map_cons, List.map_nil]
    refine List.nodup_append.2 ⟨hs.once, List.pairwise_singleton _ _, fun c hc c' hc' => ?_⟩
    obtain ⟨x, hx, rfl⟩ := List.mem_map.1 hc
    rw [List.mem_singleton.1 hc']
    exact hs.unposted id completion hentry x hx
  unposted id' k' hentry' x hx := by
    obtain ⟨hne, hentry'⟩ := post_callbacks hentry'
    rcases List.mem_append.1 hx with hx | hx
    · exact hs.unposted id' k' hentry' x hx
    · rw [List.mem_singleton.1 hx]
      rintro rfl
      exact hne ((hs.registered id' completion hentry').unique (hs.registered id completion hentry))

/-- A new pass is registered. -/
theorem beginPass (hs : Consistent n h) (hvalid : pass.Valid n)
    (ha : h.isAlive pass.ctx.requestIdentifier = true) :
    Consistent n (h.beginPass pass) := by
  have hfresh : ∀ {id}, ¬ h.Begun h.nextPass id := fun ⟨pass', hpass', _⟩ =>
    Nat.lt_irrefl _ (hs.passes _ _ hpass').2
  have hnone : ∀ pass', h.passes h.nextPass ≠ some pass' := fun pass' hpass' =>
    hfresh ⟨pass', hpass', rfl⟩
  have hcounted : Consistent n (h.counted pass.request) := hs.setRequests fun _ ha =>
    counted_isAlive.trans ha
  have hnext : Consistent n { h.counted pass.request with nextPass := h.nextPass + 1 } :=
    { hcounted with
      passes := fun k pass hpass =>
        ⟨(hs.passes k pass hpass).1, Nat.lt_succ_of_lt (hs.passes k pass hpass).2⟩ }
  have hset : Consistent n ({ h.counted pass.request with nextPass := h.nextPass + 1 }.setPass
    h.nextPass pass) := by
    apply hnext.setPass (hnext.idle _) (Nat.lt_succ_self _) hvalid
    · exact fun pass' hpass' => absurd hpass' (hnone pass')
    · exact fun pass' hpass' => absurd hpass' (hnone pass')
  refine { hset with
    entries := fun id hid => ?_
    registered := fun id k hentry => ?_
    unposted := fun id k hentry => ?_ }
  · obtain ⟨entry, hentry⟩ := Option.ne_none_iff_exists'.1 hid
    refine counted_isAlive.trans ?_
    rcases beginPass_callbacks hentry with ⟨rfl, -⟩ | hentry
    · exact ha
    · exact hs.entries id (by simp [hentry])
  · rcases beginPass_callbacks hentry with ⟨rfl, hk⟩ | hentry
    · obtain rfl := Option.some.inj hk
      exact ⟨pass, setPass_passes_self, rfl⟩
    · exact hset.registered id k hentry
  · rcases beginPass_callbacks hentry with ⟨rfl, hk⟩ | hentry
    · obtain rfl := Option.some.inj hk
      exact fun x hx hcompletion => hfresh (hcompletion ▸ (hs.posted x hx).2.1)
    · exact hs.unposted id k hentry

end Consistent

end DumbRequestHandler

/-! ## The loop and the invariant -/

section Run
variable {Ω : Type} {callbacks : List (OnBeforeURLRequestCallback Ω)} {ω : Ω} {pass : Pass}

theorem Pass.Valid.after (hv : pass.Valid callbacks.length)
    (hcalled : ∀ r ∈ pass.called, Passing r.2) :
    (pass.after (pass.run callbacks ω)).Valid callbacks.length := by
  have hctx := pass.run_ctx callbacks ω
  have hrun := pass.run_eq callbacks ω hv.event
  have hindex := hctx.index
  rw [hrun] at hindex
  refine ⟨hctx.event.trans hv.event, hv.request.trans hctx.identifier.symm, ?_, ?_,
    fun hsuspended r hr => ?_⟩
  · simp only [Pass.after, List.map_append, hv.order, hrun, runCallbacks_order, hindex]
    rw [List.range_eq_range', List.range_eq_range', ← List.range'_append_1, Nat.zero_add]
  · have hlength := runCallbacks_length ω (callbacks.drop pass.ctx.nextUrlRequestIndex) pass.ctx
    have hbound := hv.bound
    simp only [Pass.after, hrun, hindex]
    rw [List.length_drop] at hlength
    omega
  · simp only [Pass.after, hrun, decide_eq_true_eq] at hsuspended hr
    exact (List.mem_append.1 hr).elim (hcalled r) (runCallbacks_passing ω hsuspended r)

theorem Pass.Valid.outcome (hv : pass.Valid callbacks.length)
    (hcalled : ∀ r ∈ pass.called, Passing r.2)
    (hpending : (pass.run callbacks ω).rv ≠ ERR_IO_PENDING) :
    Outcome callbacks.length (pass.after (pass.run callbacks ω)).called
    (pass.run callbacks ω).rv := by
  simp only [Pass.after]
  rw [pass.run_eq callbacks ω hv.event] at hpending ⊢
  apply runCallbacks_outcome ω hcalled _ hpending
  have hbound := hv.bound
  rw [hv.length, List.length_drop]
  omega

end Run

namespace DumbRequestHandler

variable {Ω : Type} {lib : NetLibrary} {callbacks : List (OnBeforeURLRequestCallback Ω)} {ω : Ω}
  {h h' : DumbRequestHandler} {k : Nat} {pass : Pass} {e : HandlerEvent Ω}

theorem Consistent.next (hs : Consistent callbacks.length h) (hidle : h.Idle k)
    (hpass : h.passes k = some pass) (hcalled : ∀ r ∈ pass.called, Passing r.2)
    (hnext : Next callbacks ω k pass h h') :
    Consistent callbacks.length h' := by
  obtain ⟨hvalid, hk⟩ := hs.passes k pass hpass
  have hctx := pass.run_ctx callbacks ω
  have hset : Consistent callbacks.length (h.setPass k (pass.after (pass.run callbacks ω))) := by
    apply hs.setPass hidle hk (hvalid.after hcalled)
    intro pass' hpass'
    rw [hpass, Option.some.injEq] at hpass'
    exact hpass' ▸ hctx.identifier
  have hfinished (hpending : (pass.run callbacks ω).rv ≠ ERR_IO_PENDING) :
      (h.setPass k (pass.after (pass.run callbacks ω))).Finished callbacks.length k
        pass.ctx.requestIdentifier
        (pass.run callbacks ω).rv :=
    ⟨_, setPass_passes_self, hctx.identifier, decide_eq_false hpending,
      hvalid.outcome hcalled hpending⟩
  cases hnext with
  | invalid _ => exact hs
  | suspended _ _ => exact afterCallbacks_of hset fun g id hg => hg.destroyRequest id
  | posted hentry hpending => exact hset.post hentry (hfinished hpending)
  | @written completion r redirectUrl hentry hok hr ha =>
    have hpending := ne_pending_of_ok hok
    have hwrites : Consistent callbacks.length
        ((h.setPass k (pass.after (pass.run callbacks ω))).writes k pass r redirectUrl) :=
      hset.writes ha (hvalid.request ▸ hok ▸ hfinished hpending)
    exact hwrites.post hentry (hfinished hpending)

/-! ## Steps -/

/-- The steps of the system. -/
inductive Step (callbacks : List (OnBeforeURLRequestCallback Ω)) (h : DumbRequestHandler) :
    HandlerEvent Ω → Except HandlerFault DumbRequestHandler → Prop
  | created {id} : h.requests id = none →
      Step callbacks h (.createRequest id)
        (.ok { h with requests := Function.update h.requests id (some {}) })
  | destroyed {id} : h.isAlive id = true →
      Step callbacks h (.destroyRequest id) (.ok (h.destroyRequest id))
  | unhandled {id request renderProcessId frameTreeNodeId oldCtx ω} : h.isAlive id = true →
      Step callbacks h (.restartInternal id request renderProcessId frameTreeNodeId oldCtx ω)
        (.ok (h.restarted id))
  | begun {id request renderProcessId frameTreeNodeId oldCtx ω pass result} : h.isAlive id = true →
      pass = (h.restarted id).newPass (.makeCTX request renderProcessId frameTreeNodeId id oldCtx) →
      Ends callbacks ω h.nextPass pass ((h.restarted id).beginPass pass) result →
      Step callbacks h (.restartInternal id request renderProcessId frameTreeNodeId oldCtx ω) result
  | resumed {k edits ω pass result} : h.passes k = some pass → pass.suspended = true →
      Ends callbacks ω k (pass.resumed edits) (h.setPass k (pass.resumed edits)) result →
      Step callbacks h (.resume k edits ω) result

theorem exec_step (hen : h.isEnabled e = true) : Step callbacks h e (h.exec lib callbacks e) := by
  cases e with
  | createRequest id => exact .created (Option.isNone_iff_eq_none.1 hen)
  | destroyRequest id => exact .destroyed hen
  | restartInternal id request renderProcessId frameTreeNodeId oldCtx ω =>
    simp only [exec, restartInternal, onBeforeURLRequest]
    split
    · exact .unhandled hen
    · rw [map_pair_snd]
      exact .begun hen rfl (runNextCallback_ends setPass_passes_self)
  | resume k edits ω =>
    obtain ⟨pass, hpass, hsuspended⟩ := (Option.any_eq_true ..).1 hen
    simp only [exec, resume, hpass]
    exact .resumed hpass hsuspended (runNextCallback_ends setPass_passes_self)

/-- Both calls of `RunNextCallback` are for a pass that has not come to its end. -/
theorem Consistent.begun {request : ResourceRequest}
    {renderProcessId frameTreeNodeId : Int} {id : UInt64} {oldCtx : Option DumbRequestInfo}
    (hs : Consistent callbacks.length h) (ha : h.isAlive id = true)
    (hpass : pass = (h.restarted id).newPass
      (.makeCTX request renderProcessId frameTreeNodeId id oldCtx)) :
    Consistent callbacks.length ((h.restarted id).beginPass pass) ∧
      ((h.restarted id).beginPass pass).Idle h.nextPass := by
  have hidle : h.Idle h.nextPass := hs.idle fun pass' hpass' =>
    absurd (hs.passes _ _ hpass').2 (Nat.lt_irrefl _)
  subst hpass
  refine ⟨(hs.restarted id).beginPass ⟨rfl, rfl, rfl, Nat.zero_le _, nofun⟩ ?_,
    hidle.posted, hidle.written⟩
  exact restarted_isAlive.trans ha

theorem Consistent.resumed {edits : DumbRequestInfo → DumbRequestInfo}
    (hs : Consistent callbacks.length h) (hpass : h.passes k = some pass)
    (hsuspended : pass.suspended = true) :
    Consistent callbacks.length (h.setPass k (pass.resumed edits)) ∧
    (h.setPass k (pass.resumed edits)).Idle k := by
  have hunique : ∀ pass', h.passes k = some pass' → pass' = pass := by simp [hpass]
  have hidle : h.Idle k := hs.idle fun pass' hpass' => hunique pass' hpass' ▸ hsuspended
  obtain ⟨hvalid, hk⟩ := hs.passes k pass hpass
  refine ⟨hs.setPass hidle hk ⟨hvalid.event, hvalid.request, hvalid.order, hvalid.bound, nofun⟩ ?_,
    hidle.posted, hidle.written⟩
  exact fun pass' hpass' => hunique pass' hpass' ▸ rfl

theorem Consistent.step (hs : Consistent callbacks.length h) (hstep : Step callbacks h e (.ok h')) :
    Consistent callbacks.length h' := by
  cases hstep with
  | created hnone =>
    refine hs.setRequests fun id' hid' => ?_
    simp only [Function.update_apply]
    split
    · rfl
    · exact hid'
  | destroyed _ => exact hs.destroyRequest _
  | unhandled _ => exact hs.restarted _
  | begun ha hpass hends =>
    obtain ⟨hbegun, hidle⟩ := hs.begun ha hpass
    subst hpass
    exact hbegun.next hidle setPass_passes_self nofun hends
  | resumed hpass hsuspended hends =>
    obtain ⟨hresumed, hidle⟩ := hs.resumed hpass hsuspended
    exact hresumed.next hidle setPass_passes_self ((hs.passes _ _ hpass).1.passing hsuspended) hends

/-! ## Completions -/

/-- If pass `k` comes to its end, the entry of its request holds its own completion. -/
def PostsOwn (callbacks : List (OnBeforeURLRequestCallback Ω)) (ω : Ω) (k : Nat) (pass : Pass)
    (h : DumbRequestHandler) :
    Prop :=
  h.callbacks pass.ctx.requestIdentifier = none ∨
    h.callbacks pass.ctx.requestIdentifier = some (some k) ∨
    Suspends ω (callbacks.drop pass.ctx.nextUrlRequestIndex) pass.ctx

/-- No pass is driven to its end by a callback that ends after its completion has been replaced. -/
def EndsOwn (callbacks : List (OnBeforeURLRequestCallback Ω)) (h : DumbRequestHandler) :
    HandlerEvent Ω → Prop
  | .resume k edits ω =>
    ∀ pass, h.passes k = some pass → PostsOwn callbacks ω k (pass.resumed edits) h
  | _ => True

instance : Decidable (PostsOwn callbacks ω k pass h) := inferInstanceAs (Decidable (_ ∨ _ ∨ _))

instance : (e : HandlerEvent Ω) → Decidable (EndsOwn callbacks h e)
  | .resume k edits ω =>
    inferInstanceAs (Decidable (∀ pass ∈ h.passes k, PostsOwn callbacks ω k (pass.resumed edits) h))
  | .createRequest _ | .restartInternal .. | .destroyRequest _ => inferInstanceAs (Decidable True)

theorem postsOwn_beginPass : PostsOwn callbacks ω h.nextPass pass (h.beginPass pass) :=
  Or.inr (Or.inl (Function.update_self ..))

theorem PostsOwn.entry {entry : Option Nat} (hown : PostsOwn callbacks ω k pass h)
    (hs : Consistent callbacks.length h) (hpass : h.passes k = some pass)
    (hpending : (pass.run callbacks ω).rv ≠ ERR_IO_PENDING)
    (hentry : h.callbacks pass.ctx.requestIdentifier = some entry) : entry = some k := by
  rcases hown with hnone | hk | hsuspends
  · rw [hnone] at hentry
    cases hentry
  · exact Option.some.inj (hentry.symm.trans hk)
  · rw [pass.run_eq callbacks ω (hs.passes k pass hpass).1.event] at hpending
    exact absurd ((runCallbacks_suspends ω _ _).2 hsuspends) hpending

/-- What is posted is posted by its own pass. -/
def Own (h : DumbRequestHandler) : Prop := ∀ x ∈ h.posted, x.completion = x.poster

theorem Own.post {id : UInt64} {rv : Int} (ho : h.Own) : (h.post k id rv k).Own := by
  intro x hx
  rcases List.mem_append.1 hx with hx | hx
  · exact ho x hx
  · rw [List.mem_singleton.1 hx]

theorem Own.next (ho : h.Own) (hs : Consistent callbacks.length h) (hpass : h.passes k = some pass)
    (hown : PostsOwn callbacks ω k pass h) (hnext : Next callbacks ω k pass h h') : h'.Own := by
  cases hnext with
  | invalid _ => exact ho
  | suspended _ _ => exact afterCallbacks_of (I := Own) ho fun g id hg => hg
  | posted hentry hpending =>
    obtain ⟨⟩ := hown.entry hs hpass hpending hentry
    exact Own.post ho
  | written hentry hok hr ha =>
    have hpending := ne_pending_of_ok hok
    obtain ⟨⟩ := hown.entry hs hpass hpending hentry
    exact Own.post ho

theorem Own.step (ho : h.Own) (hs : Consistent callbacks.length h) (hcond : EndsOwn callbacks h e)
    (hstep : Step callbacks h e (.ok h')) : h'.Own := by
  cases hstep with
  | created _ => exact ho
  | destroyed _ => exact ho
  | unhandled _ => exact ho
  | begun ha hpass hends =>
    refine Own.next ?_ (hs.begun ha hpass).1 setPass_passes_self postsOwn_beginPass hends
    exact ho
  | resumed hpass hsuspended hends =>
    refine Own.next ?_ (hs.resumed hpass hsuspended).1 setPass_passes_self (hcond _ hpass) hends
    exact ho

theorem Fails.endIterator_of {fault : HandlerFault} (hfails : Fails callbacks ω pass h fault)
    (hs : Consistent callbacks.length h) (hpass : h.passes k = some pass)
    (hown : PostsOwn callbacks ω k pass h) :
    fault = .endIterator ∧ ∃ callback ∈ callbacks, ∃ ω ctx,
    (callback ω ctx).destroysRequest = true := by
  cases hfails with
  | endIterator hdestroyed =>
    obtain ⟨callback, hmem, ctx, hcallback⟩ := Pass.run_destroyed hdestroyed
    exact ⟨rfl, callback, hmem, ω, ctx, hcallback⟩
  | nullCallback hentry hpending => cases hown.entry hs hpass hpending hentry
  | useAfterFree hentry hdead =>
    rw [(hs.passes k pass hpass).1.request, hs.entries _ hentry] at hdead
    cases hdead

/-- Under the condition the handler fails only where a callback has its own request destroyed. -/
theorem step_fault {fault : HandlerFault} (hs : Consistent callbacks.length h)
    (hcond : EndsOwn callbacks h e) (hstep : Step callbacks h e (.error fault)) :
    fault = .endIterator ∧ ∃ callback ∈ callbacks, ∃ ω ctx,
    (callback ω ctx).destroysRequest = true := by
  cases hstep with
  | begun ha hpass hends =>
    exact Fails.endIterator_of hends (hs.begun ha hpass).1 setPass_passes_self postsOwn_beginPass
  | resumed hpass hsuspended hends =>
    exact Fails.endIterator_of hends (hs.resumed hpass hsuspended).1
      setPass_passes_self (hcond _ hpass)

theorem step_of_exec {result : Except HandlerFault DumbRequestHandler} (hen : h.isEnabled e = true)
    (hex : h.exec lib callbacks e = result) : Step callbacks h e result :=
  hex ▸ exec_step hen

end DumbRequestHandler

/-! ## Every run -/

open DumbRequestHandler

section Chains
variable {Ω : Type} {lib : NetLibrary} {callbacks : List (OnBeforeURLRequestCallback Ω)}
  {h : DumbRequestHandler}

theorem consistent_init {n : Nat} : Consistent n {} where
  entries _ hentry := absurd rfl hentry
  registered _ _ hentry := by cases hentry
  passes _ _ hpass := by cases hpass
  posted := by simp
  written := by simp
  once := List.Pairwise.nil
  unposted _ _ hentry := by cases hentry

theorem own_init : Own {} := by simp [Own]

theorem consistent_reach {C : DumbRequestHandler → HandlerEvent Ω → Prop}
    (hreach : (handlerSystem lib callbacks).Reach C h) : Consistent callbacks.length h :=
  hreach.invariant consistent_init fun _ _ _ hs hen _ hex => hs.step (step_of_exec hen hex)

theorem own_reach (hreach : (handlerSystem lib callbacks).Reach (EndsOwn callbacks) h) : h.Own := by
  have hboth : Consistent callbacks.length h ∧ h.Own := by
    refine hreach.invariant (I := fun h => Consistent callbacks.length h ∧ h.Own)
      ⟨consistent_init, own_init⟩ ?_
    intro s e s' ⟨hs, ho⟩ hen hcond hex
    have hstep := step_of_exec hen hex
    exact ⟨hs.step hstep, ho.step hs hcond hstep⟩
  exact hboth.2

/-- **The chains of callbacks.** In every run whose passes end as their own: the callbacks of a pass
are called in their order, each at most once; a completion is posted at most once, for a live
request, and with the outcome of the pass that registered it; `*new_url` is written by passes that
end `OK`; no entry outlives its request. -/
theorem callback_chains (hreach : (handlerSystem lib callbacks).Reach (EndsOwn callbacks) h) :
    (∀ k pass, h.passes k = some pass →
      pass.called.map (·.1) = List.range pass.called.length ∧
        pass.called.length ≤ callbacks.length) ∧
    (h.posted.map (·.completion)).Nodup ∧
    (∀ x ∈ h.posted, x.live = true ∧ h.Finished callbacks.length x.completion x.request x.rv) ∧
    (∀ y ∈ h.written, h.Finished callbacks.length y.poster y.request OK) ∧
    (∀ id, h.callbacks id ≠ none → h.isAlive id = true) ∧
    ∀ e fault, h.isEnabled e = true → EndsOwn callbacks h e →
    h.exec lib callbacks e = .error fault →
      fault = .endIterator ∧ ∃ callback ∈ callbacks, ∃ ω ctx,
        (callback ω ctx).destroysRequest = true := by
  have hs := consistent_reach hreach
  refine ⟨fun k pass hpass => ?_, hs.once, fun x hx => ?_, hs.written, hs.entries,
    fun e fault hen hcond hex => ?_⟩
  · have hvalid := (hs.passes k pass hpass).1
    rw [hvalid.length]
    exact ⟨hvalid.order, hvalid.bound⟩
  · obtain ⟨hlive, -, hfinished⟩ := hs.posted x hx
    exact ⟨hlive, own_reach hreach x hx ▸ hfinished⟩
  · exact step_fault hs hcond (step_of_exec hen hex)

end Chains

/-- The first callback suspends every pass. -/
def slowCallbacks : List (OnBeforeURLRequestCallback Unit) :=
  [fun _ _ => { result := ERR_IO_PENDING }, fun _ _ => { result := OK }]

/-- Two requests whose chains interleave; each completion comes with the outcome of its own pass. -/
theorem callback_chains_interleaved : ∃ h, (handlerSystem plainLibrary slowCallbacks).Reach
    (EndsOwn slowCallbacks) h ∧
    h.posted.map (·.completion) = [1, 0] ∧ ∀ x ∈ h.posted,
    h.Finished 2 x.completion x.request x.rv := by
  have hreach := System.reach_of_replay (S := handlerSystem plainLibrary slowCallbacks)
    (C := EndsOwn slowCallbacks)
    [.createRequest 1, .createRequest 2, .restartInternal 1 pageRequest 0 0 none (),
      .restartInternal 2 pageRequest 0 0 none (), .resume 1 id (), .resume 0 id ()] rfl
  exact ⟨_, hreach, rfl, fun x hx => ((callback_chains hreach).2.2.1 x hx).2⟩

/-- A request is restarted while its first pass is suspended: the end of that pass posts the
completion of the second, of which the first callback has not ended. -/
theorem replaced_completion_posted : ∃ h, (handlerSystem plainLibrary slowCallbacks).Reachable h ∧
    ∃ x ∈ h.posted, x.live = true ∧ x.rv = OK ∧
    ¬ h.Finished slowCallbacks.length x.completion x.request x.rv := by
  have hreach := System.reach_of_replay (S := handlerSystem plainLibrary slowCallbacks)
    (C := fun _ _ => True)
    [.createRequest 1, .restartInternal 1 pageRequest 0 0 none (),
      .restartInternal 1 pageRequest 0 0 none (),
      .resume 0 id ()] rfl
  refine ⟨_, hreach, ⟨1, 0, 1, OK, true⟩, List.mem_singleton.2 rfl, rfl, rfl, ?_⟩
  rintro ⟨pass, hpass, -, hover, -⟩
  cases hpass
  cases hover

end DumbBrowser
