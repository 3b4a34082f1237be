import DumbBrowser.Browser.DumbRequestHandler

/-!
# One call of the callbacks

* `runCallbacks_order`, `runCallbacks_outcome` : which callbacks the loop calls, and with what
  outcome it ends.
* `DumbRequestHandler.runNextCallback_ends` : everything that `RunNextCallback` can do.
-/

namespace DumbBrowser

open NetError

/-! ## One run of the loop -/

/-- A result that lets the chain go on, at once or when the callback ends. -/
def Passing (rv : Int) : Prop := rv = OK ∨ rv = ERR_IO_PENDING

/-- The outcome of a pass over `n` callbacks: the first result that is neither `OK` nor pending, or
`OK` after all. -/
def Outcome (n : Nat) (called : List (Nat × Int)) (rv : Int) : Prop :=
  (rv = OK ∧ called.length = n ∧ ∀ r ∈ called, Passing r.2) ∨
    (¬ Passing rv ∧ ∃ before i, called = before ++ [(i, rv)] ∧ ∀ r ∈ before, Passing r.2)

/-- A callback that is left suspends the pass, before any fails. -/
def Suspends {Ω : Type} (ω : Ω) : List (OnBeforeURLRequestCallback Ω) → DumbRequestInfo → Prop
  | [], _ => False
  | callback :: rest, ctx =>
    let answer := callback ω ctx.advanced
    answer.result = ERR_IO_PENDING ∨ answer.result = OK ∧
      Suspends ω rest (ctx.advanced.edited answer.edits)

instance decidableSuspends {Ω : Type} (ω : Ω) :
    (callbacks : List (OnBeforeURLRequestCallback Ω)) →
    (ctx : DumbRequestInfo) → Decidable (Suspends ω callbacks ctx)
  | [], _ => inferInstanceAs (Decidable False)
  | callback :: rest, ctx =>
    have := decidableSuspends ω rest (ctx.advanced.edited (callback ω ctx.advanced).edits)
    inferInstanceAs (Decidable (_ ∨
      _ ∧ Suspends ω rest (ctx.advanced.edited (callback ω ctx.advanced).edits)))

section Loop
variable {Ω : Type} (ω : Ω)

theorem runCallbacks_nil (ctx : DumbRequestInfo) : runCallbacks ω [] ctx = { ctx } := rfl

theorem runCallbacks_cons (callback : OnBeforeURLRequestCallback Ω)
    (rest : List (OnBeforeURLRequestCallback Ω)) (ctx : DumbRequestInfo) :
    runCallbacks ω (callback :: rest) ctx =
      let answer := callback ω ctx.advanced
      let entry := (ctx.nextUrlRequestIndex, answer.result)
      let edited := ctx.advanced.edited answer.edits
      let run := runCallbacks ω rest edited
      if answer.result ≠ OK then
        { ctx := edited, rv := answer.result, called := [entry], destroyed := answer.destroysRequest }
      else { run with called := entry :: run.called, destroyed := answer.destroysRequest || run.destroyed } := rfl

/-- What the handler keeps of a context, with the place of the next callback. -/
structure SameChain (ctx ctx' : DumbRequestInfo) (steps : Nat) : Prop where
  identifier : ctx'.requestIdentifier = ctx.requestIdentifier
  url : ctx'.requestUrl = ctx.requestUrl
  event : ctx'.eventType = ctx.eventType
  index : ctx'.nextUrlRequestIndex = ctx.nextUrlRequestIndex + steps

theorem runCallbacks_ctx (callbacks : List (OnBeforeURLRequestCallback Ω)) (ctx : DumbRequestInfo) :
    SameChain ctx (runCallbacks ω callbacks ctx).ctx
    (runCallbacks ω callbacks ctx).called.length := by
  induction callbacks generalizing ctx with
  | nil => exact ⟨rfl, rfl, rfl, rfl⟩
  | cons callback rest ih =>
    simp only [runCallbacks_cons]
    split
    · exact ⟨rfl, rfl, rfl, rfl⟩
    · obtain ⟨hid, hurl, hevent, hindex⟩ := ih (ctx.advanced.edited (callback ω ctx.advanced).edits)
      refine ⟨hid, hurl, hevent, hindex.trans ?_⟩
      simp only [DumbRequestInfo.edited, DumbRequestInfo.advanced, List.length_cons]
      omega

/-- The callbacks are called in their order, from the place of the context on. -/
theorem runCallbacks_order (callbacks : List (OnBeforeURLRequestCallback Ω))
    (ctx : DumbRequestInfo) :
    (runCallbacks ω callbacks ctx).called.map (·.1) =
      List.range' ctx.nextUrlRequestIndex (runCallbacks ω callbacks ctx).called.length := by
  induction callbacks generalizing ctx with
  | nil => rfl
  | cons callback rest ih =>
    simp only [runCallbacks_cons]
    split
    · rfl
    · simp only [List.map_cons, List.length_cons, List.range'_succ, ih]
      rfl

theorem runCallbacks_length (callbacks : List (OnBeforeURLRequestCallback Ω))
    (ctx : DumbRequestInfo) :
    (runCallbacks ω callbacks ctx).called.length ≤ callbacks.length := by
  induction callbacks generalizing ctx with
  | nil => exact Nat.le_refl _
  | cons callback rest ih =>
    simp only [runCallbacks_cons]
    split
    · simp
    · exact Nat.succ_le_succ (ih _)

theorem runCallbacks_suspends (callbacks : List (OnBeforeURLRequestCallback Ω))
    (ctx : DumbRequestInfo) :
    (runCallbacks ω callbacks ctx).rv = ERR_IO_PENDING ↔ Suspends ω callbacks ctx := by
  induction callbacks generalizing ctx with
  | nil => simp [runCallbacks_nil, Suspends, OK, ERR_IO_PENDING]
  | cons callback rest ih =>
    simp only [runCallbacks_cons, Suspends]
    split
    · next hstop => simp [hstop]
    · next hok =>
      rw [not_not] at hok
      simp only [hok, ih, true_and]
      simp [OK, ERR_IO_PENDING]

/-- The results of the loop: all are `OK`, up to the last. -/
theorem runCallbacks_results (callbacks : List (OnBeforeURLRequestCallback Ω))
    (ctx : DumbRequestInfo) :
    let run := runCallbacks ω callbacks ctx
    (run.rv = OK ∧ run.called.length = callbacks.length ∧ ∀ r ∈ run.called, r.2 = OK) ∨
      (run.rv ≠ OK ∧ ∃ before i, run.called = before ++ [(i, run.rv)] ∧
        ∀ r ∈ before, r.2 = OK) := by
  induction callbacks generalizing ctx with
  | nil => exact Or.inl ⟨rfl, rfl, nofun⟩
  | cons callback rest ih =>
    simp only [runCallbacks_cons]
    split
    · next hstop => exact Or.inr ⟨hstop, [], _, rfl, nofun⟩
    · next hok =>
      rw [not_not] at hok
      rcases ih (ctx.advanced.edited (callback ω ctx.advanced).edits) with
        ⟨hrv, hlen, hall⟩ | ⟨hrv, before, i, hcalled, hall⟩
      · exact Or.inl ⟨hrv, by simp [hlen], by simpa [hok] using hall⟩
      · refine Or.inr ⟨hrv, (ctx.nextUrlRequestIndex, OK) :: before, i, ?_, by simpa using hall⟩
        rw [hcalled, hok, List.cons_append]

/-- The outcome of a pass that the loop ends, with the callbacks that were called before. -/
theorem runCallbacks_outcome {n : Nat} {callbacks : List (OnBeforeURLRequestCallback Ω)}
    {ctx : DumbRequestInfo} {called : List (Nat × Int)} (hcalled : ∀ r ∈ called, Passing r.2)
    (hn : called.length + callbacks.length = n)
    (hrv : (runCallbacks ω callbacks ctx).rv ≠ ERR_IO_PENDING) :
    Outcome n (called ++ (runCallbacks ω callbacks ctx).called)
    (runCallbacks ω callbacks ctx).rv := by
  rcases runCallbacks_results ω callbacks ctx with ⟨hok, hlen, hall⟩ |
    ⟨hfail, before, i, hrun, hall⟩
  · refine Or.inl ⟨hok, by rw [List.length_append, hlen, hn], fun r hr => ?_⟩
    exact (List.mem_append.1 hr).elim (hcalled r) fun hr => Or.inl (hall r hr)
  · refine Or.inr ⟨fun h => h.elim hfail hrv, called ++ before,
      i, by rw [hrun, List.append_assoc], fun r hr => ?_⟩
    exact (List.mem_append.1 hr).elim (hcalled r) fun hr => Or.inl (hall r hr)

/-- A loop that is suspended has had no failure. -/
theorem runCallbacks_passing {callbacks : List (OnBeforeURLRequestCallback Ω)}
    {ctx : DumbRequestInfo} (hrv : (runCallbacks ω callbacks ctx).rv = ERR_IO_PENDING) :
    ∀ r ∈ (runCallbacks ω callbacks ctx).called, Passing r.2 := by
  intro r hr
  rcases runCallbacks_results ω callbacks ctx with ⟨_, _, hall⟩ | ⟨_, before, i, hrun, hall⟩
  · exact Or.inl (hall r hr)
  · rw [hrun, List.mem_append, List.mem_singleton] at hr
    rcases hr with hr | rfl
    · exact Or.inl (hall r hr)
    · exact Or.inr hrv

theorem runCallbacks_destroyed {callbacks : List (OnBeforeURLRequestCallback Ω)}
    {ctx : DumbRequestInfo} (hdestroyed : (runCallbacks ω callbacks ctx).destroyed = true) :
    ∃ callback ∈ callbacks, ∃ ctx, (callback ω ctx).destroysRequest = true := by
  induction callbacks generalizing ctx with
  | nil => cases hdestroyed
  | cons callback rest ih =>
    simp only [runCallbacks_cons] at hdestroyed
    split at hdestroyed
    · exact ⟨callback, List.mem_cons_self .., _, hdestroyed⟩
    · rcases Bool.or_eq_true_iff.1 hdestroyed with hdestroyed | hdestroyed
      · exact ⟨callback, List.mem_cons_self .., _, hdestroyed⟩
      · obtain ⟨callback', hmem, hcallback⟩ := ih hdestroyed
        exact ⟨callback', List.mem_cons_of_mem _ hmem, hcallback⟩

end Loop

/-! ## What a call of the handler can do -/

section PassRun
variable {Ω : Type} (callbacks : List (OnBeforeURLRequestCallback Ω)) (ω : Ω) (pass : Pass)

theorem Pass.run_ctx :
    SameChain pass.ctx (pass.run callbacks ω).ctx (pass.run callbacks ω).called.length := by
  unfold Pass.run
  split
  · exact runCallbacks_ctx ω _ _
  · exact ⟨rfl, rfl, rfl, rfl⟩

theorem Pass.run_eq (hevent : pass.ctx.eventType = .onBeforeRequest) :
    pass.run callbacks ω = runCallbacks ω (callbacks.drop pass.ctx.nextUrlRequestIndex) pass.ctx :=
  if_pos hevent

theorem ne_pending_of_ok {rv : Int} (hok : rv = OK) : rv ≠ ERR_IO_PENDING := by
  simp [hok, OK, ERR_IO_PENDING]

theorem Pass.run_destroyed {callbacks : List (OnBeforeURLRequestCallback Ω)} {ω : Ω} {pass : Pass}
    (hdestroyed : (pass.run callbacks ω).destroyed = true) :
    ∃ callback ∈ callbacks, ∃ ctx, (callback ω ctx).destroysRequest = true := by
  unfold Pass.run at hdestroyed
  split at hdestroyed
  · obtain ⟨callback, hmem, hcallback⟩ := runCallbacks_destroyed ω hdestroyed
    exact ⟨callback, List.mem_of_mem_drop hmem, hcallback⟩
  · cases hdestroyed

end PassRun

namespace DumbRequestHandler

variable {Ω : Type} {lib : NetLibrary} {callbacks : List (OnBeforeURLRequestCallback Ω)} {ω : Ω}
  {h h' : DumbRequestHandler} {k : Nat} {pass : Pass}

/-- A completion is posted by pass `k`. -/
def post (h : DumbRequestHandler) (k : Nat) (id : UInt64) (rv : Int) (completion : Nat) :
    DumbRequestHandler :=
  { h with
    callbacks := Function.update h.callbacks id (some none)
    posted := h.posted ++ [⟨completion, k, id, rv, h.isAlive id⟩] }

/-- The pass has written `*new_url`. -/
def writes (h : DumbRequestHandler) (k : Nat) (pass : Pass) (r : HandledRequest)
    (redirectUrl : GURL) :
    DumbRequestHandler :=
  { h with
    requests := Function.update h.requests pass.request (some { r with redirectUrl })
    written := h.written ++ [⟨k, pass.request, r.restarts = pass.restart⟩] }

theorem afterCallbacks_of {I : DumbRequestHandler → Prop} {run : ChainRun}
    (hset : I (h.setPass k (pass.after run))) (hdestroy : ∀ g id, I g → I (g.destroyRequest id)) :
    I (h.afterCallbacks k pass run) := by
  unfold afterCallbacks
  split
  · exact hdestroy _ _ hset
  · exact hset

/-- The ends of `RunNextCallback`. -/
inductive Next (callbacks : List (OnBeforeURLRequestCallback Ω)) (ω : Ω) (k : Nat) (pass : Pass)
    (h : DumbRequestHandler) :
    DumbRequestHandler → Prop
  | invalid : h.callbacks pass.ctx.requestIdentifier = none → Next callbacks ω k pass h h
  | suspended : h.callbacks pass.ctx.requestIdentifier ≠ none →
      (pass.run callbacks ω).rv = ERR_IO_PENDING →
      Next callbacks ω k pass h (h.afterCallbacks k pass (pass.run callbacks ω))
  | posted {completion} : h.callbacks pass.ctx.requestIdentifier = some (some completion) →
      (pass.run callbacks ω).rv ≠ ERR_IO_PENDING →
      Next callbacks ω k pass h ((h.setPass k (pass.after (pass.run callbacks ω))).post k
        pass.ctx.requestIdentifier
        (pass.run callbacks ω).rv completion)
  | written {completion r redirectUrl} : h.callbacks pass.ctx.requestIdentifier =
      some (some completion) →
      (pass.run callbacks ω).rv = OK → h.requests pass.request = some r → r.alive = true →
      Next callbacks ω k pass h (((h.setPass k (pass.after (pass.run callbacks ω))).writes k pass
        r redirectUrl).post k
        pass.ctx.requestIdentifier (pass.run callbacks ω).rv completion)

/-- A lookup that fails: the entry is gone with its request, or its completion has been moved
away. -/
inductive Fails (callbacks : List (OnBeforeURLRequestCallback Ω)) (ω : Ω) (pass : Pass)
    (h : DumbRequestHandler) :
    HandlerFault → Prop
  | endIterator : (pass.run callbacks ω).destroyed = true → Fails callbacks ω pass h .endIterator
  | nullCallback : h.callbacks pass.ctx.requestIdentifier = some none →
      (pass.run callbacks ω).rv ≠ ERR_IO_PENDING →
      Fails callbacks ω pass h .nullCallback
  | useAfterFree : h.callbacks pass.ctx.requestIdentifier ≠ none → h.isAlive pass.request = false →
      Fails callbacks ω pass h .useAfterFree

def Ends (callbacks : List (OnBeforeURLRequestCallback Ω)) (ω : Ω) (k : Nat) (pass : Pass)
    (h : DumbRequestHandler) :
    Except HandlerFault DumbRequestHandler → Prop
  | .ok h' => Next callbacks ω k pass h h'
  | .error fault => Fails callbacks ω pass h fault

theorem runCallback_eq {id : UInt64} {rv : Int} {completion : Nat}
    (hentry : h.callbacks id = some (some completion)) :
    h.runCallbackForRequestIdentifier k id rv = .ok (h.post k id rv completion) := by
  simp [runCallbackForRequestIdentifier, hentry, post]

theorem runCallback_null {id : UInt64} {rv : Int} (hentry : h.callbacks id = some none) :
    h.runCallbackForRequestIdentifier k id rv = .error .nullCallback := by
  simp [runCallbackForRequestIdentifier, hentry]

theorem runCallback_end {id : UInt64} {rv : Int} (hentry : h.callbacks id = none) :
    h.runCallbackForRequestIdentifier k id rv = .error .endIterator := by
  simp [runCallbackForRequestIdentifier, hentry]

theorem writeNewUrl_freed {ctx : DumbRequestInfo} (ha : h.isAlive pass.request = false) :
    h.writeNewUrl lib k pass ctx = .error .useAfterFree := by
  simp only [writeNewUrl]
  rcases hr : h.requests pass.request with _ | r
  · rfl
  · have hdead : r.alive = false := by simpa [isAlive, hr] using ha
    simp [hdead]

theorem writeNewUrl_eq {ctx : DumbRequestInfo} {r : HandledRequest}
    (hr : h.requests pass.request = some r) (ha : r.alive = true) :
    h.writeNewUrl lib k pass ctx = .ok (h.writes k pass r (lib.parseUrl ctx.newUrlSpec)) := by
  simp [writeNewUrl, hr, ha, writes, setRequest]

section Finished
variable {entry : Option Nat} (hentry : h.callbacks pass.ctx.requestIdentifier = some entry)
  (hpending : (pass.run callbacks ω).rv ≠ ERR_IO_PENDING)
include hentry hpending

/-- A pass that is over posts what the entry holds. -/
theorem ends_posts : Ends callbacks ω k pass h
    ((h.setPass k (pass.after (pass.run callbacks ω))).runCallbackForRequestIdentifier k
      pass.ctx.requestIdentifier
      (pass.run callbacks ω).rv) := by
  cases entry with
  | none =>
    rw [runCallback_null (h := h.setPass k _) hentry]
    exact Fails.nullCallback hentry hpending
  | some completion =>
    rw [runCallback_eq (h := h.setPass k _) hentry]
    exact Next.posted hentry hpending

/-- It may write `*new_url` first. -/
theorem ends_writes (hok : (pass.run callbacks ω).rv = OK) : Ends callbacks ω k pass h
    (((h.setPass k (pass.after (pass.run callbacks ω))).writeNewUrl lib k pass
      (pass.run callbacks ω).ctx).bind fun h =>
      h.runCallbackForRequestIdentifier k pass.ctx.requestIdentifier
        (pass.run callbacks ω).rv) := by
  have hvalid : h.callbacks pass.ctx.requestIdentifier ≠ none := by simp [hentry]
  rcases hr : h.requests pass.request with _ | r
  · rw [writeNewUrl_freed (by simp [setPass, isAlive, hr])]
    exact Fails.useAfterFree hvalid (by simp [isAlive, hr])
  rcases ha : r.alive with _ | _
  · rw [writeNewUrl_freed (by simp [setPass, isAlive, hr, ha])]
    exact Fails.useAfterFree hvalid (by simp [isAlive, hr, ha])
  rw [writeNewUrl_eq (h := h.setPass k _) hr ha, Except.bind]
  cases entry with
  | none =>
    rw [runCallback_null (h := (h.setPass k _).writes k pass r _) hentry]
    exact Fails.nullCallback hentry hpending
  | some completion =>
    rw [runCallback_eq (h := (h.setPass k _).writes k pass r _) hentry]
    exact Next.written hentry hok hr ha

end Finished

theorem map_pair_snd {result : Except HandlerFault DumbRequestHandler} {rv : Int} :
    (result.map (rv, ·)).map (·.2) = result := by
  cases result <;> rfl

theorem runNextCallback_ends (hpass : h.passes k = some pass) :
    Ends callbacks ω k pass h (h.runNextCallback lib callbacks k ω) := by
  simp only [runNextCallback, hpass]
  rcases hentry : h.callbacks pass.ctx.requestIdentifier with _ | entry
  · rw [if_pos (by simp [isRequestIdentifierValid, hentry])]
    exact Next.invalid hentry
  rw [if_neg (by simp [isRequestIdentifierValid, hentry])]
  by_cases hpending : (pass.run callbacks ω).rv = ERR_IO_PENDING
  · rw [if_pos hpending]
    exact Next.suspended (by simp [hentry]) hpending
  rw [if_neg hpending]
  rcases hdestroyed : (pass.run callbacks ω).destroyed with _ | _
  · have hafter : h.afterCallbacks k pass (pass.run callbacks ω) = h.setPass k
        (pass.after (pass.run callbacks ω)) := by
      simp [afterCallbacks, hdestroyed]
    rw [hafter]
    by_cases hok : (pass.run callbacks ω).rv = OK
    · rw [if_neg (by simp [hok])]
      split
      · exact ends_writes hentry hpending hok
      · exact ends_posts hentry hpending
    · rw [if_pos hok]
      exact ends_posts hentry hpending
  · have hgone : (h.afterCallbacks k pass (pass.run callbacks ω)).callbacks
        pass.ctx.requestIdentifier = none := by
      simp [afterCallbacks, hdestroyed, destroyRequest, onURLRequestDestroyed]
    have hinvalid : (h.afterCallbacks k pass (pass.run callbacks ω)).isRequestIdentifierValid
        pass.ctx.requestIdentifier = false := by simp [isRequestIdentifierValid, hgone]
    rw [runCallback_end hgone, hinvalid]
    simp only [Bool.false_eq_true, and_false, if_false, ite_self]
    exact Fails.endIterator hdestroyed

end DumbRequestHandler

end DumbBrowser
