import DumbBrowser.Browser.ForwardedHeaders

/-!
# What the methods keep

The members of a request that the protocol does not show. A run of a method cannot fault once the
request has a context; it leaves the headers of the request alone, as far as its hooks do, and it
suspends at most one hook.

* `run_keeps` : what every event keeps.
-/

namespace DumbBrowser

open NetError Exec

variable {Ω : Type}

namespace Hooks

/-- The hook before the start leaves the headers as they are. -/
def LeaveHeaders (hooks : Hooks Ω) : Prop :=
  ∀ ω ctx headers, (hooks.onBeforeStartTransaction ω ctx headers).writes.headers headers = headers

/-- The hook that ends with the continuation can suspend a request. -/
def Suspend (hooks : Hooks Ω) (k : Continuation) : Prop :=
  match k.hookPoint with
  | .beforeURLRequest => ∃ ω ctx, (hooks.onBeforeURLRequest ω ctx).result = .ioPending
  | .beforeStartTransaction =>
    ∃ ω ctx headers, (hooks.onBeforeStartTransaction ω ctx headers).result = .ioPending
  | .headersReceived => ∃ ω ctx headers, (hooks.onHeadersReceived ω ctx headers).result = .ioPending

end Hooks

/-- Only the hook before the start is given the headers. -/
theorem HookWrites.restrict_headers (w : HookWrites) {point : HookPoint}
    (hpoint : point ≠ .beforeStartTransaction) :
    (w.restrict point).headers = id := by
  cases point with
  | beforeURLRequest => rfl
  | beforeStartTransaction => exact absurd rfl hpoint
  | headersReceived => rfl

/-- The continuations of the hooks that a continuation may call. -/
def Continuation.followers : Continuation → List Continuation
  | continueToBeforeSendHeaders => [continueToSendHeaders]
  | continueToSendHeaders | continueToResponseStarted | continueToBeforeRedirect _ => []

/-- A header that the context says the hooks have set is not among the headers of the request. -/
def InProgressRequest.LacksSetHeader (r : InProgressRequest) : Prop :=
  ∃ ctx ∈ r.ctx, r.lacksSetHeader ctx = true

/-- What a run from `f` to `f'` keeps; at most a hook of `K` has been suspended. -/
structure Keeps (hooks : Hooks Ω) (K : List Continuation) (f f' : Frame) : Prop where
  ctx : f'.slot.object.ctx.isSome = true
  suspended : f'.slot.core.continuations = f.slot.core.continuations ∨
    ∃ k ∈ K, hooks.Suspend k ∧ f'.slot.core.continuations = f.slot.core.continuations ++ [k]
  headers : hooks.LeaveHeaders →
    f'.slot.object.request.loaderHeaders = f.slot.object.request.loaderHeaders
  created : f.slot.object.targetLoader = false → f'.slot.object.targetLoader = true →
    ∃ l, f'.slot.loader = some l ∧ l.headers = f'.slot.object.request.loaderHeaders
  notReached : f'.slot.notReached = true → f.slot.notReached = true ∨ f'.slot.object.LacksSetHeader

variable {lib : NetLibrary} {hooks : Hooks Ω} {K : List Continuation} {p : Ptr} {f f₁ f' : Frame}

/-- Nothing of this kind has changed before. -/
theorem Keeps.after {K' : List Continuation} (h : Keeps hooks K' f₁ f') (hK : K' ⊆ K)
    (hcont : f₁.slot.core.continuations = f.slot.core.continuations)
    (hheaders : hooks.LeaveHeaders →
      f₁.slot.object.request.loaderHeaders = f.slot.object.request.loaderHeaders)
    (htarget : f.slot.object.targetLoader = false → f₁.slot.object.targetLoader = false)
    (hreached : f₁.slot.notReached = f.slot.notReached) : Keeps hooks K f f' where
  ctx := h.ctx
  suspended := by
    rcases h.suspended with hsame | ⟨k, hk, hsuspend, hadded⟩
    · exact Or.inl (hsame.trans hcont)
    · exact Or.inr ⟨k, hK hk, hsuspend, hcont ▸ hadded⟩
  headers hleave := (h.headers hleave).trans (hheaders hleave)
  created hunbound := h.created (htarget hunbound)
  notReached := hreached ▸ h.notReached

/-- No loader has been created. -/
theorem Keeps.of_eq (hctx : f'.slot.object.ctx.isSome = true)
    (hcont : f'.slot.core.continuations = f.slot.core.continuations)
    (hheaders : f'.slot.object.request.loaderHeaders = f.slot.object.request.loaderHeaders)
    (htarget : f.slot.object.targetLoader = false → f'.slot.object.targetLoader = false)
    (hreached : f'.slot.notReached = f.slot.notReached) : Keeps hooks K f f' where
  ctx := hctx
  suspended := Or.inl hcont
  headers _ := hheaders
  created hunbound hbound := by simp [htarget hunbound] at hbound
  notReached h := Or.inl (hreached ▸ h)

/-- A hook has been suspended. -/
theorem Keeps.of_suspended {k : Continuation} (hk : k ∈ K) (hsuspend : hooks.Suspend k)
    (hctx : f'.slot.object.ctx.isSome = true)
    (hcont : f'.slot.core.continuations = f.slot.core.continuations ++ [k])
    (hheaders : hooks.LeaveHeaders →
      f'.slot.object.request.loaderHeaders = f.slot.object.request.loaderHeaders)
    (htarget : f.slot.object.targetLoader = false → f'.slot.object.targetLoader = false)
    (hreached : f'.slot.notReached = f.slot.notReached) : Keeps hooks K f f' where
  ctx := hctx
  suspended := Or.inr ⟨k, hk, hsuspend, hcont⟩
  headers := hheaders
  created hunbound hbound := by simp [htarget hunbound] at hbound
  notReached h := Or.inl (hreached ▸ h)

/-- A call at the end of a method. -/
theorem tail_keeps {K' : List Continuation} {m : Method Unit}
    (hm : wp m (fun _ => False) (fun _ => Keeps hooks K' f₁) f₁) (hK : K' ⊆ K)
    (hcont : f₁.slot.core.continuations = f.slot.core.continuations)
    (hheaders : hooks.LeaveHeaders →
      f₁.slot.object.request.loaderHeaders = f.slot.object.request.loaderHeaders)
    (htarget : f.slot.object.targetLoader = false → f₁.slot.object.targetLoader = false)
    (hreached : f₁.slot.notReached = f.slot.notReached) :
    wp m (fun _ => False) (fun _ => Keeps hooks K f) f₁ :=
  wp_post hm fun _ _ hf' => hf'.after hK hcont hheaders htarget hreached

/-- The headers of the request after the message. The code does not merge
`modified_cors_exempt_headers`. -/
def RequestEvent.loaderHeaders : RequestEvent Ω → LoaderHeaders → LoaderHeaders
  | .followRedirect params _, h => { h with headers := (h.followRedirect params).headers }
  | _, h => h

/-- What an event keeps, of a request with no hook before the start suspended. -/
structure EventKeeps (hooks : Hooks Ω) (e : RequestEvent Ω) (f f' : Frame) : Prop where
  ctx : f'.slot.object.ctx.isSome = true
  suspended : ∀ k ∈ f'.slot.core.continuations, k ∈ f.slot.core.continuations ∨ hooks.Suspend k
  headers : hooks.LeaveHeaders →
    (∀ k ∈ f.slot.core.continuations, k.hookPoint ≠ .beforeStartTransaction) →
    f'.slot.object.request.loaderHeaders = e.loaderHeaders f.slot.object.request.loaderHeaders
  created : f.slot.object.targetLoader = false → f'.slot.object.targetLoader = true →
    ∃ l, f'.slot.loader = some l ∧ l.headers = f'.slot.object.request.loaderHeaders
  notReached : f'.slot.notReached = true → f.slot.notReached = true ∨ f'.slot.object.LacksSetHeader

theorem Keeps.event {e : RequestEvent Ω} (h : Keeps hooks K f₁ f')
    (hcont : f₁.slot.core.continuations ⊆ f.slot.core.continuations)
    (hheaders : hooks.LeaveHeaders →
      (∀ k ∈ f.slot.core.continuations, k.hookPoint ≠ .beforeStartTransaction) →
      f₁.slot.object.request.loaderHeaders = e.loaderHeaders f.slot.object.request.loaderHeaders)
    (htarget : f.slot.object.targetLoader = false → f₁.slot.object.targetLoader = false)
    (hreached : f₁.slot.notReached = f.slot.notReached) : EventKeeps hooks e f f' where
  ctx := h.ctx
  suspended k hk := by
    rcases h.suspended with hsame | ⟨k', -, hsuspend, hadded⟩
    · rw [hsame] at hk
      exact Or.inl (hcont hk)
    · rw [hadded, List.mem_append, List.mem_singleton] at hk
      rcases hk with hk | rfl
      · exact Or.inl (hcont hk)
      · exact Or.inr hsuspend
  headers hleave hnone := (h.headers hleave).trans (hheaders hleave hnone)
  created hunbound := h.created (htarget hunbound)
  notReached := hreached ▸ h.notReached

/-- An event that begins with nothing of this kind. -/
theorem Keeps.same {e : RequestEvent Ω} (h : Keeps hooks K f f')
    (he : e.loaderHeaders f.slot.object.request.loaderHeaders = f.slot.object.request.loaderHeaders) :
    EventKeeps hooks e f f' :=
  h.event (List.Subset.refl _) (fun _ _ => he.symm) id rfl

/-- A run that begins and ends a whole event. -/
theorem keeps_event {e : RequestEvent Ω} {m : Method Unit}
    (hm : wp m (fun _ => False) (fun _ => Keeps hooks [] f) f)
    (he : e.loaderHeaders f.slot.object.request.loaderHeaders = f.slot.object.request.loaderHeaders) :
    wp m (fun _ => False) (fun _ => EventKeeps hooks e f) f :=
  wp_post hm fun _ _ hf' => hf'.same he

section Specs
variable (h : f.Ready p)
include h

theorem removeThis_keeps (hctx : f.slot.object.ctx.isSome = true) :
    wp (removeThis p) (fun _ => False) (fun _ => Keeps hooks K f) f := by
  obtain ⟨g, hg⟩ := h.removable
  simp only [removeThis, wp_bind, runs_theFactory h.alive h.factoryAlive, hg, wp_modify]
  exact .of_eq hctx rfl rfl id rfl

theorem onRequestError_keeps (hctx : f.slot.object.ctx.isSome = true)
    (status : URLLoaderCompletionStatus) :
    wp (onRequestError p status) (fun _ => False) (fun _ => Keeps hooks K f) f := by
  simp only [onRequestError, wp_bind, runs_this h.alive, wp_ite, runs_toClient h.alive]
  refine ⟨fun _ => tail_keeps (removeThis_keeps ?_ hctx) (List.Subset.refl K) rfl (fun _ => rfl)
    id rfl, fun _ => ?_⟩
  · exact h.congr rfl rfl
  · exact removeThis_keeps h hctx

/-- A call of `onRequestError` at the end of a method. -/
theorem error_keeps {status : URLLoaderCompletionStatus} (hf : f₁.factory = f.factory)
    (ha : f₁.slot.alive = f.slot.alive) (hctx : f₁.slot.object.ctx.isSome = true)
    (hcont : f₁.slot.core.continuations = f.slot.core.continuations)
    (hheaders : hooks.LeaveHeaders →
      f₁.slot.object.request.loaderHeaders = f.slot.object.request.loaderHeaders)
    (htarget : f.slot.object.targetLoader = false → f₁.slot.object.targetLoader = false)
    (hreached : f₁.slot.notReached = f.slot.notReached) :
    wp (onRequestError p status) (fun _ => False) (fun _ => Keeps hooks K f) f₁ :=
  tail_keeps (onRequestError_keeps (h.congr hf ha) hctx status) (List.Subset.refl K) hcont
    hheaders htarget hreached

theorem ifError_keeps (hctx : f.slot.object.ctx.isSome = true) {errorCode : Int} {m : Method Unit}
    (hok : wp m (fun _ => False) (fun _ => Keeps hooks K f) f) :
    wp (if errorCode ≠ OK then onRequestError p { errorCode } else m) (fun _ => False)
    (fun _ => Keeps hooks K f) f := by
  rw [wp_ite]
  exact ⟨fun _ => onRequestError_keeps h hctx _, fun _ => hok⟩

/-! ## Starting a request -/

theorem continueToStartRequest_keeps (hctx : f.slot.object.ctx.isSome = true) :
    wp (continueToStartRequest p OK) (fun _ => False) (fun _ f' => Keeps hooks K f f' ∧
      f'.slot.notReached = f.slot.notReached ∧
        (f.slot.object.LacksSetHeader → f'.slot.object.LacksSetHeader)) f := by
  simp (disch := first | exact h.alive | exact h.factoryAlive) only [continueToStartRequest,
    startRequest, recordStart,
    wp_ite, ne_eq, not_true, false_implies, true_and, not_false_eq_true,
      true_implies, wp_bind, wp_get,
    runs_resumeIfBound, runs_this, runs_theFactory, runs_setThis, wp_modify, wp_pure]
  refine ⟨fun _ => ⟨⟨hctx, Or.inl rfl, fun _ => rfl, fun _ _ => ⟨_, rfl, rfl⟩, Or.inl⟩, id⟩, fun _ => ?_⟩
  exact ⟨.of_eq hctx rfl rfl id rfl, id⟩

/-- A start at the end of a method that leaves the request as it is, but for the headers that it
forwards. -/
theorem start_keeps (hf : f₁.factory = f.factory) (ha : f₁.slot.alive = f.slot.alive)
    (hctx : f₁.slot.object.ctx.isSome = true)
    (hcont : f₁.slot.core.continuations = f.slot.core.continuations)
    (hheaders : f₁.slot.object.request.loaderHeaders = f.slot.object.request.loaderHeaders)
    (htarget : f.slot.object.targetLoader = false → f₁.slot.object.targetLoader = false)
    (hreached : f₁.slot.notReached = true → f.slot.notReached = true ∨
      f₁.slot.object.LacksSetHeader) :
    wp (continueToStartRequest p OK) (fun _ => False) (fun _ => Keeps hooks K f) f₁ := by
  refine wp_post (@continueToStartRequest_keeps Ω hooks K p f₁ (h.congr hf ha) hctx) ?_
  rintro _ f' ⟨hkeeps, hsame, hlacks⟩
  have hstarted : Keeps hooks K { f₁ with slot := { f₁.slot with notReached := f.slot.notReached } } f' :=
    ⟨hkeeps.ctx, hkeeps.suspended, hkeeps.headers, hkeeps.created, fun h =>
      (hreached (hsame ▸ h)).imp_right hlacks⟩
  exact hstarted.after (List.Subset.refl K) hcont (fun _ => hheaders) htarget rfl

theorem continueToSendHeaders_keeps (hctx : f.slot.object.ctx.isSome = true) (errorCode : Int) :
    wp (continueToSendHeaders p errorCode) (fun _ => False) (fun _ => Keeps hooks K f) f := by
  refine ifError_keeps h hctx ?_
  obtain ⟨ctx, hsome⟩ := Option.isSome_iff_exists.1 hctx
  simp only [forwardFollowRedirect, wp_bind, runs_theCtxSome h.alive hctx, runs_this h.alive]
  refine ⟨ctx, hsome, ?_⟩
  split
  · simp (disch := exact h.alive) only [wp_pure, runs_resumeIfBound]
    exact start_keeps h rfl rfl hctx rfl rfl id Or.inl
  · have hreached (hnoted : (f.slot.notReached || f.slot.object.lacksSetHeader ctx) = true) :
        f.slot.notReached = true ∨ f.slot.object.LacksSetHeader := by
      rw [Bool.or_eq_true] at hnoted
      exact hnoted.imp_right fun hlacks => ⟨ctx, hsome, hlacks⟩
    simp (disch := exact h.alive) only [noteNotReached, wp_bind, wp_modify, wp_ite,
      runs_toLoader, runs_setThis,
      runs_resumeIfBound]
    refine ⟨fun _ => ?_, fun _ => ?_⟩
    · exact start_keeps h rfl rfl hctx rfl rfl id hreached
    · exact start_keeps h rfl rfl hctx rfl rfl id hreached

/-! ## Delivering a redirect -/

theorem deliverRedirect_keeps (hctx : f.slot.object.ctx.isSome = true)
    (redirectInfo : RedirectInfo) :
    wp (deliverRedirect lib redirectInfo) (fun _ => False) (fun _ => Keeps hooks K f) f := by
  obtain ⟨ctx, hsome⟩ := Option.isSome_iff_exists.1 hctx
  simp (disch := first | exact h.alive | exact hctx) only [deliverRedirect, wp_bind,
    runs_resumeIfBound, runs_theCtxSome,
    runs_setThis, runs_takeResponse, runs_toClient]
  exact ⟨ctx, hsome, .of_eq rfl rfl rfl id rfl⟩

theorem continueToBeforeRedirect_keeps (hctx : f.slot.object.ctx.isSome = true)
    (redirectInfo : RedirectInfo) (errorCode : Int) :
    wp (continueToBeforeRedirect lib p redirectInfo errorCode) (fun _ => False)
    (fun _ => Keeps hooks K f) f :=
  ifError_keeps h hctx (deliverRedirect_keeps h hctx redirectInfo)

theorem handleBeforeRequestRedirect_keeps (hctx : f.slot.object.ctx.isSome = true) :
    wp (handleBeforeRequestRedirect lib p) (fun _ => False) (fun _ => Keeps hooks K f) f := by
  obtain ⟨ctx, hsome⟩ := Option.isSome_iff_exists.1 hctx
  simp (disch := first | exact h.alive | exact hctx) only [handleBeforeRequestRedirect, resetPipes,
    wp_bind, runs_setThis,
    runs_this, runs_storeResponse, setInternalRedirect, runs_theCtxSome]
  refine ⟨ctx, hsome, tail_keeps (continueToBeforeRedirect_keeps (K := K) ?_ rfl _ OK)
    (List.Subset.refl K) rfl
    (fun _ => rfl) (fun _ => rfl) rfl⟩
  exact h.congr rfl rfl

theorem mockResponse_keeps (hctx : f.slot.object.ctx.isSome = true) (dataPipe : Bool) :
    wp (mockResponse p dataPipe) (fun _ => False) (fun _ => Keeps hooks K f) f := by
  simp (disch := exact h.alive) only [mockResponse, wp_bind, runs_toClient, wp_ite, wp_modify]
  exact ⟨fun _ => error_keeps h rfl rfl hctx rfl (fun _ => rfl) id rfl, fun _ =>
    .of_eq hctx rfl rfl id rfl⟩

theorem beforeStartTransaction_keeps (hctx : f.slot.object.ctx.isSome = true) (env : Env Ω) :
    wp (beforeStartTransaction hooks p env) (fun _ => False)
    (fun _ => Keeps hooks [.continueToSendHeaders] f) f := by
  simp (disch := first | exact h.alive | exact h.factoryAlive) only [beforeStartTransaction,
    wp_bind, runs_this, wp_ite,
    runs_makeCtx, runs_theFactory, runs_setThis]
  refine ⟨fun _ => ?_, fun _ => continueToSendHeaders_keeps h hctx OK⟩
  generalize hhook : hooks.onBeforeStartTransaction env.hook _ _ = outcome
  have hheaders (hleave : hooks.LeaveHeaders) : LoaderHeaders.mk
    (outcome.writes.headers f.slot.object.request.headers)
      f.slot.object.request.corsExemptHeaders = f.slot.object.request.loaderHeaders := by
    rw [← hhook, hleave, ResourceRequest.loaderHeaders]
  split
  · exact error_keeps h rfl rfl rfl rfl hheaders id rfl
  · next hpending =>
    simp (disch := exact h.alive) only [wp_bind, runs_suspend, runs_pauseIfBound]
    refine .of_suspended (List.mem_singleton.2 rfl) ⟨_, _, _, hhook ▸ hpending⟩
      rfl ?_ hheaders id rfl
    simp [Slot.core]
  · refine tail_keeps (continueToSendHeaders_keeps (K := []) ?_ rfl OK)
      (List.nil_subset _) rfl hheaders id rfl
    exact h.congr rfl rfl

theorem continueToBeforeSendHeaders_keeps (hctx : f.slot.object.ctx.isSome = true)
    (env : Env Ω) (errorCode : Int) :
    wp (continueToBeforeSendHeaders lib hooks p env errorCode) (fun _ => False)
      (fun _ => Keeps hooks [.continueToSendHeaders] f) f := by
  refine ifError_keeps h hctx ?_
  obtain ⟨ctx, hsome⟩ := Option.isSome_iff_exists.1 hctx
  simp (disch := first | exact h.alive | exact hctx) only [wp_bind, runs_this, wp_ite,
    runs_theCtxSome, runs_setThis,
    runs_resumeIfBound]
  refine ⟨fun _ => handleBeforeRequestRedirect_keeps h hctx, fun _ =>
    ⟨ctx, hsome, fun _ => ⟨fun _ => ?_, fun _ => ?_⟩,
    fun _ => ?_⟩⟩
  · exact error_keeps h rfl rfl hctx rfl (fun _ => rfl) id rfl
  · refine tail_keeps (mockResponse_keeps (K := []) ?_ ?_ env.dataPipe) (List.nil_subset _) rfl
      (fun _ => rfl) id rfl
    · exact h.congr rfl rfl
    · exact hctx
  · refine tail_keeps (beforeStartTransaction_keeps ?_ ?_ env) (List.Subset.refl _) rfl
      (fun _ => rfl) id rfl
    · exact h.congr rfl rfl
    · exact hctx

theorem restartInternal_keeps (env : Env Ω) : wp (restartInternal lib hooks p env) (fun _ => False)
    (fun _ => Keeps hooks [.continueToBeforeSendHeaders, .continueToSendHeaders] f) f := by
  simp (disch := first | exact h.alive | exact h.factoryAlive) only [restartInternal,
    wp_bind, runs_setThis,
    runs_makeCtx, runs_theFactory]
  generalize hhook : hooks.onBeforeURLRequest env.hook _ = outcome
  split
  · exact error_keeps h rfl rfl rfl rfl (fun _ => rfl) id rfl
  · next hpending =>
    simp (disch := exact h.alive) only [wp_bind, runs_suspend, runs_pauseIfBound]
    refine .of_suspended (List.mem_cons_self ..) ⟨_, _, hhook ▸ hpending⟩ rfl ?_
      (fun _ => rfl) id rfl
    simp [Slot.core]
  · refine tail_keeps (continueToBeforeSendHeaders_keeps ?_ rfl env OK) ?_ rfl (fun _ => rfl) id rfl
    · exact h.congr rfl rfl
    · exact List.subset_cons_self ..

/-! ## Delivering a response -/

theorem deliverResponse_keeps (hctx : f.slot.object.ctx.isSome = true)
    (hbound : f.slot.object.proxiedClientReceiver.isBound = true)
    (hresponse : f.slot.object.currentResponse.isSome = true) :
    wp (deliverResponse lib p) (fun _ => False) (fun _ => Keeps hooks K f) f := by
  obtain ⟨ctx, hsome⟩ := Option.isSome_iff_exists.1 hctx
  obtain ⟨response, hcurrent⟩ := Option.isSome_iff_exists.1 hresponse
  simp only [deliverResponse, wp_bind, runs_this h.alive]
  rcases f.slot.object.overrideHeaders with _ | headers
  · simp (disch := first | exact h.alive | exact hbound) only [Option.bind_none,
      wp_bind, runs_resumeBound,
      runs_takeResponse, runs_toClient]
    exact .of_eq hctx rfl rfl id rfl
  simp (disch := exact h.alive) only [wp_bind, wp_ite, hcurrent, Option.isNone_some,
    runs_setThis, Option.bind_some]
  refine ⟨nofun, fun _ => ?_⟩
  rcases lib.isRedirect headers with _ | redirectLocation
  · simp (disch := first | exact h.alive | exact hbound) only [Option.map_none,
      wp_bind, runs_resumeBound,
      runs_takeResponse, runs_toClient]
    exact .of_eq hctx rfl rfl id rfl
  · simp (disch := first | exact h.alive | exact hctx) only [Option.map_some, wp_bind,
      resetPipes, runs_setThis,
      setInternalRedirect, runs_theCtxSome]
    refine ⟨ctx, hsome, tail_keeps (continueToBeforeRedirect_keeps (K := K) ?_ rfl _ OK)
      (List.Subset.refl K) rfl
      (fun _ => rfl) (fun _ => rfl) rfl⟩
    exact h.congr rfl rfl

/-- The continuation finds what it dereferences. -/
def Slot.Delivers (s : Slot) (k : Continuation) : Prop :=
  k = .continueToResponseStarted →
    s.object.proxiedClientReceiver.isBound = true ∧ s.object.currentResponse.isSome = true

theorem runContinuation_keeps (hctx : f.slot.object.ctx.isSome = true) (env : Env Ω)
    (errorCode : Int) {k : Continuation} (hk : f.slot.Delivers k) :
    wp (runContinuation lib hooks p env errorCode k) (fun _ => False)
    (fun _ => Keeps hooks k.followers f) f := by
  cases k with
  | continueToBeforeSendHeaders => exact continueToBeforeSendHeaders_keeps h hctx env errorCode
  | continueToSendHeaders => exact continueToSendHeaders_keeps h hctx errorCode
  | continueToResponseStarted =>
    obtain ⟨hbound, hresponse⟩ := hk rfl
    exact ifError_keeps h hctx (deliverResponse_keeps h hctx hbound hresponse)
  | continueToBeforeRedirect redirectInfo =>
    exact continueToBeforeRedirect_keeps h hctx redirectInfo errorCode

theorem handleResponseOrRedirectHeaders_keeps (hctx : f.slot.object.ctx.isSome = true)
    (env : Env Ω) {k : Continuation} (hpoint : k.hookPoint = .headersReceived)
    (hbound : f.slot.object.proxiedClientReceiver.isBound = true)
    (hresponse : f.slot.object.currentResponse.isSome = true) :
    wp (handleResponseOrRedirectHeaders lib hooks p k env) (fun _ => False)
    (fun _ => Keeps hooks [k] f) f := by
  have hfollowers : k.followers ⊆ [k] := by
    cases k <;> simp [Continuation.hookPoint, Continuation.followers] at *
  simp (disch := first | exact h.alive | exact h.factoryAlive)
    only [handleResponseOrRedirectHeaders, wp_bind, runs_this,
    wp_ite, runs_makeCtx, runs_theFactory, runs_setThis]
  refine ⟨fun _ => ?_, fun _ => ?_⟩
  · generalize hhook : hooks.onHeadersReceived env.hook _ _ = outcome
    split
    · exact error_keeps h rfl rfl rfl rfl (fun _ => rfl) id rfl
    · next hpending =>
      have hsuspend : hooks.Suspend k := by
        rw [Hooks.Suspend, hpoint]
        exact ⟨_, _, _, hhook ▸ hpending⟩
      simp (disch := exact h.alive) only [wp_bind, runs_suspend]
      rw [runs_pauseBound]
      · refine .of_suspended (List.mem_singleton.2 rfl) hsuspend rfl ?_ (fun _ => rfl) id rfl
        simp [Slot.core]
      · exact h.alive
      · exact hbound
    · refine tail_keeps (runContinuation_keeps ?_ rfl env OK fun _ => ⟨hbound, hresponse⟩)
        hfollowers rfl (fun _ => rfl) id rfl
      exact h.congr rfl rfl
  · refine tail_keeps (runContinuation_keeps ?_ ?_ env OK fun _ => ⟨hbound, hresponse⟩) hfollowers
      rfl (fun _ => rfl) id rfl
    · exact h.congr rfl rfl
    · exact hctx

theorem onReceiveResponse_keeps (hctx : f.slot.object.ctx.isSome = true)
    (hbound : f.slot.object.proxiedClientReceiver.isBound = true)
    (head : URLResponseHead) (env : Env Ω) :
    wp (onReceiveResponse lib hooks p head env) (fun _ => False)
    (fun _ => Keeps hooks [.continueToResponseStarted] f) f := by
  obtain ⟨ctx, hsome⟩ := Option.isSome_iff_exists.1 hctx
  simp (disch := first | exact h.alive | exact hctx) only [onReceiveResponse,
    wp_bind, runs_storeResponse,
    setInternalRedirect, runs_theCtxSome, runs_setThis]
  refine ⟨ctx, hsome, tail_keeps (handleResponseOrRedirectHeaders_keeps ?_ rfl env rfl hbound rfl)
    (List.Subset.refl _) rfl
    (fun _ => rfl) id rfl⟩
  exact h.congr rfl rfl

theorem onReceiveRedirect_keeps (hctx : f.slot.object.ctx.isSome = true)
    (hbound : f.slot.object.proxiedClientReceiver.isBound = true) (redirectInfo : RedirectInfo)
    (head : URLResponseHead) (env : Env Ω) :
    wp (onReceiveRedirect lib hooks p redirectInfo head env) (fun _ => False)
      (fun _ => Keeps hooks [.continueToBeforeRedirect redirectInfo] f) f := by
  obtain ⟨ctx, hsome⟩ := Option.isSome_iff_exists.1 hctx
  simp (disch := first | exact h.alive | exact hctx) only [onReceiveRedirect,
    wp_bind, runs_storeResponse,
    setInternalRedirect, runs_theCtxSome, runs_setThis]
  refine ⟨ctx, hsome, tail_keeps (handleResponseOrRedirectHeaders_keeps ?_ rfl env rfl hbound rfl)
    (List.Subset.refl _) rfl
    (fun _ => rfl) id rfl⟩
  exact h.congr rfl rfl

/-! ## The other events -/

theorem onComplete_keeps (hctx : f.slot.object.ctx.isSome = true)
    (status : URLLoaderCompletionStatus) :
    wp (onComplete p status) (fun _ => False) (fun _ => Keeps hooks K f) f := by
  rw [onComplete, wp_ite]
  refine ⟨fun _ => onRequestError_keeps h hctx status, fun _ => ?_⟩
  simp (disch := exact h.alive) only [wp_bind, runs_toClient]
  refine tail_keeps (removeThis_keeps (K := K) ?_ ?_) (List.Subset.refl K) rfl (fun _ => rfl) id rfl
  · exact h.congr rfl rfl
  · exact hctx

theorem toClient_keeps (hctx : f.slot.object.ctx.isSome = true) (m : ClientMessage) :
    wp (toClient m) (fun _ => False) (fun _ => Keeps hooks K f) f := by
  rw [runs_toClient h.alive]
  exact .of_eq hctx rfl rfl id rfl

theorem forwardToLoader_keeps (hctx : f.slot.object.ctx.isSome = true) (m : LoaderMessage) :
    wp (forwardToLoader m) (fun _ => False) (fun _ => Keeps hooks K f) f := by
  simp (disch := exact h.alive) only [forwardToLoader, wp_bind, runs_this, wp_ite,
    runs_toLoader, wp_pure]
  exact ⟨fun _ => .of_eq hctx rfl rfl id rfl, fun _ => .of_eq hctx rfl rfl id rfl⟩

/-- The suspended hook writes, and its continuation runs. -/
theorem resumeHook_keeps (hctx : f.slot.object.ctx.isSome = true)
    {suspended : Suspended} (env : Env Ω) (hk : f.slot.Delivers suspended.continuation) :
    wp (resumeHook lib hooks p suspended env) (fun _ => False) (fun _ f' => ∃ writes : HookWrites,
      Keeps hooks suspended.continuation.followers { f with slot := { f.slot with
        object := f.slot.object.write (writes.restrict suspended.continuation.hookPoint) } } f') f := by
  simp (disch := exact h.alive) only [resumeHook, wp_bind, wp_get, wp_ite, runs_setThis, wp_pure]
  refine ⟨fun hdead => ?_, fun _ => ?_⟩
  · simp [h.alive] at hdead
  · refine wp_post (runContinuation_keeps ?_ ?_ env _ ?_) fun _ _ hf' => ⟨_, hf'⟩
    · exact h.congr rfl rfl
    · simpa [InProgressRequest.write] using hctx
    · exact hk

/-- The hook leaves the suspended ones, and may be followed by another. -/
theorem resumed_keeps (hctx : f.slot.object.ctx.isSome = true) {place : Nat} {suspended : Suspended}
    (hplace : f.slot.continuations[place]? = some suspended) (env : Env Ω)
    (hk : f.slot.Delivers suspended.continuation) :
    wp (RequestEvent.run lib hooks p (.resumeHook place env)) (fun _ => False)
    (fun _ f' => ∃ writes : HookWrites,
      Keeps hooks suspended.continuation.followers { f with slot := { f.slot with
        continuations := f.slot.continuations.eraseIdx place
        object := f.slot.object.write (writes.restrict suspended.continuation.hookPoint) } } f') f := by
  simp only [RequestEvent.run, wp_bind, wp_get, hplace, wp_modify]
  refine wp_post (resumeHook_keeps ?_ ?_ env ?_) fun _ _ hf' => hf'
  · exact h.congr rfl rfl
  · exact hctx
  · exact hk

/-- **An event of a request that is alive cannot fault, and keeps what the protocol does not
show.** -/
theorem RequestEvent.run_keeps (hctx : f.slot.object.ctx.isSome = true)
    (hdelivers : ∀ k ∈ f.slot.core.continuations, f.slot.Delivers k) (e : RequestEvent Ω)
    (hen : e.isEnabled f.slot = true) :
    wp (e.run lib hooks p) (fun _ => False) (fun _ => EventKeeps hooks e f) f := by
  have hbound (hreceiver : f.slot.core.receiver = .bound false) :
      f.slot.object.proxiedClientReceiver.isBound = true := by
    rw [show f.slot.object.proxiedClientReceiver = .bound false from hreceiver, Receiver.isBound]
  cases e with
  | followRedirect params env =>
    simp (disch := exact h.alive) only [run, wp_bind, runs_toClient,
      DumbBrowser.followRedirect, runs_setThis]
    refine wp_post (restartInternal_keeps ?_ env) fun _ _ hf' =>
      hf'.event (List.Subset.refl _) (fun _ _ => rfl) id rfl
    exact h.congr rfl rfl
  | setPriority a b => exact keeps_event (forwardToLoader_keeps h hctx _) rfl
  | pauseReadingBodyFromNet => exact keeps_event (forwardToLoader_keeps h hctx _) rfl
  | resumeReadingBodyFromNet => exact keeps_event (forwardToLoader_keeps h hctx _) rfl
  | clientDisconnect => exact keeps_event (onRequestError_keeps h hctx _) rfl
  | onReceiveEarlyHints => exact (Keeps.of_eq hctx rfl rfl id rfl : Keeps hooks [] f f).same rfl
  | onReceiveResponse head env =>
    have hreceiver := hbound (receiver_of_enabled hen)
    exact wp_post (onReceiveResponse_keeps h hctx hreceiver head env) fun _ _ hf' => hf'.same rfl
  | onReceiveRedirect redirectInfo head env =>
    have hreceiver := hbound (receiver_of_enabled hen)
    simp only [run, wp_bind, wp_modify]
    refine wp_post (onReceiveRedirect_keeps ?_ ?_ ?_ redirectInfo head env) fun _ _ hf' =>
      hf'.event (List.Subset.refl _) (fun _ _ => rfl) id rfl
    · exact h.congr rfl rfl
    · exact hctx
    · exact hreceiver
  | onUploadProgress a b => exact keeps_event (toClient_keeps h hctx _) rfl
  | onReceiveCachedMetadata data => exact keeps_event (toClient_keeps h hctx _) rfl
  | onTransferSizeUpdated diff => exact keeps_event (toClient_keeps h hctx _) rfl
  | onStartLoadingResponseBody => exact keeps_event (toClient_keeps h hctx _) rfl
  | onComplete status => exact keeps_event (onComplete_keeps h hctx status) rfl
  | resumeHook place env =>
    simp only [isEnabled, decide_eq_true_eq] at hen
    have hk : f.slot.continuations[place].continuation ∈ f.slot.core.continuations :=
      List.mem_map_of_mem (List.getElem_mem hen)
    refine wp_post (resumed_keeps h hctx (List.getElem?_eq_getElem hen) env (hdelivers _ hk)) ?_
    rintro _ f' ⟨writes, hf'⟩
    refine hf'.event ?_ (fun _ hnone => ?_) id rfl
    · exact List.map_subset _ (List.eraseIdx_subset ..)
    · have hwrites := HookWrites.restrict_headers writes (hnone _ hk)
      simp [ResourceRequest.loaderHeaders, InProgressRequest.write, hwrites, loaderHeaders]
  | onWrite place result =>
    simp only [isEnabled, decide_eq_true_eq] at hen
    simp only [run, wp_bind, wp_get, List.getElem?_eq_getElem hen, wp_modify,
      DumbBrowser.onWrite, wp_ite, wp_pure]
    have hkeeps : Keeps hooks [] f { f with
        slot := { f.slot with writes := f.slot.writes.eraseIdx place } } :=
      .of_eq hctx rfl rfl id rfl
    refine ⟨fun _ => hkeeps.same rfl, fun _ => ?_⟩
    refine wp_post (onComplete_keeps (K := []) ?_ ?_ _) fun _ _ hf' =>
      hf'.event (List.Subset.refl _) (fun _ _ => rfl) id rfl
    · exact h.congr rfl rfl
    · exact hctx

end Specs

/-! ## The slot of a request after an event -/

/-- An event of a request that is gone. -/
theorem RequestEvent.run_dead_total (hdead : f.slot.alive = false) (e : RequestEvent Ω)
    (hen : e.isEnabled f.slot = true) : wp (e.run lib hooks p) (fun _ => False)
      (fun _ f' => f'.slot.notReached = f.slot.notReached) f := by
  cases e with
  | resumeHook place env =>
    simp only [isEnabled, decide_eq_true_eq] at hen
    simp [run, List.getElem?_eq_getElem hen, DumbBrowser.resumeHook, hdead]
  | onWrite place result =>
    simp only [isEnabled, decide_eq_true_eq] at hen
    simp [run, List.getElem?_eq_getElem hen, DumbBrowser.onWrite, hdead]
  | _ => simp [isEnabled, hdead] at hen

/-- How an event has brought about a slot. -/
inductive SlotRun (lib : NetLibrary) (hooks : Hooks Ω) (w : ProxyWorld) (p : Ptr) :
    ProxyEvent Ω → Slot → Prop
  | created {receiver requestId options request trafficAnnotationTag env f f'} : w.slots p = none → f.Ready p →
      f.slot.core = .fresh → f.slot.notReached = false → f.slot.object.request = request →
        restartInternal lib hooks p env f = .ok ((), f') →
      SlotRun lib hooks w p (.createLoaderAndStart receiver requestId options request
        trafficAnnotationTag env) f'.slot
  | request {s e f'} : w.slots p = some s → s.alive = true → e.isEnabled s = true →
      e.run lib hooks p ⟨w.factory, s⟩ = .ok ((), f') → SlotRun lib hooks w p (.request p e) f'.slot
  | ignored {s s' e} : w.slots p = some s → s.alive = false → s.core.Ignores s'.core →
      s'.notReached = s.notReached →
      SlotRun lib hooks w p (.request p e) s'
  | same {e s} : w.slots p = some s → SlotRun lib hooks w p e s

/-- A slot is never given up. -/
theorem slot_persists {w : ProxyWorld} {e : ProxyEvent Ω} {slots : Ptr → Option Slot}
    (h : SlotStep lib hooks w e slots) (hp : w.slots p ≠ none) : slots p ≠ none := by
  have hupdate (q : Ptr) (s' : Slot) : Function.update w.slots q (some s') p ≠ none := by
    by_cases hq : p = q
    · subst hq
      simp
    · rwa [Function.update_of_ne hq]
  cases h with
  | created _ => exact hupdate _ _
  | request _ _ _ => exact hupdate _ _
  | ignored _ _ _ => exact hupdate _ _
  | none => exact hp

theorem Core.Ignores.slot {s s' : Slot} (h : s.core.Ignores s'.core) :
    s'.alive = s.alive ∧ s'.object.targetLoader = s.object.targetLoader := by
  obtain ⟨_, _, hcore⟩ := h
  exact ⟨congrArg Core.alive hcore, congrArg Core.targetLoader hcore⟩

theorem runAt_ok {w w' : ProxyWorld} {s : Slot} {m : Method Unit} (h : w.runAt p s m = .ok w') :
    ∃ f', m ⟨w.factory, s⟩ = .ok ((), f') ∧
      w' = { factory := f'.factory, slots := Function.update w.slots p (some f'.slot) } := by
  unfold ProxyWorld.runAt at h
  split at h
  · cases h
  · next f' hrun => exact ⟨f', hrun, (Except.ok.inj h).symm⟩

theorem map_ok {α β : Type} {r : Except Fault α} {g : α → β} {b : β} (h : r.map g = .ok b) :
    ∃ a, r = .ok a ∧ b = g a := by
  cases r with
  | error fault => cases h
  | ok a => exact ⟨a, rfl, (Except.ok.inj h).symm⟩

theorem slotRun_of_exec {w w' : ProxyWorld} (hw : w.Consistent) {e : ProxyEvent Ω}
    (hen : w.isEnabled e = true) (hex : w.exec lib hooks e = .ok w') {s' : Slot}
    (hs' : w'.slots p = some s') :
    SlotRun lib hooks w p e s' := by
  cases e with
  | createLoaderAndStart receiver requestId options request trafficAnnotationTag env =>
    simp only [ProxyWorld.isEnabled, Bool.and_eq_true] at hen
    obtain ⟨f', hrun, rfl⟩ := runAt_ok hex
    by_cases hp : p = w.factory.nextPtr
    · subst hp
      obtain rfl : f'.slot = s' := by simpa [ProxyFactory.generate] using hs'
      have hnew := ProxyWorld.emplace_consistent hw hen.1
        (s := ⟨true, w.factory.generate.2.newRequest
        w.factory.generate.1 requestId options request trafficAnnotationTag, 0, none, false, [], [],
          [], [], [], false⟩) rfl
      exact .created (hw.fresh _ (Nat.le_refl _)) (hnew.ready (Function.update_self ..) rfl) rfl rfl rfl hrun
    · exact .same (by simpa [ProxyFactory.generate, Function.update_of_ne hp] using hs')
  | clone receiver =>
    obtain rfl := Except.ok.inj hex
    exact .same hs'
  | proxyDisconnect receiver =>
    obtain ⟨factory, -, rfl⟩ := map_ok hex
    exact .same hs'
  | targetFactoryError =>
    obtain ⟨factory, -, rfl⟩ := map_ok hex
    exact .same hs'
  | request q e =>
    obtain ⟨s, hs, hevent⟩ := (Option.any_eq_true ..).1 hen
    simp only [ProxyWorld.exec, hs] at hex
    obtain ⟨f', hrun, rfl⟩ := runAt_ok hex
    by_cases hp : p = q
    · subst hp
      obtain rfl : f'.slot = s' := by simpa using hs'
      rcases ha : s.alive with _ | _
      · have hdead := wp_ok (RequestEvent.run_dead_spec (f := ⟨w.factory, s⟩) ha e hevent) hrun
        exact .ignored hs ha hdead.1
          (wp_ok (RequestEvent.run_dead_total (f := ⟨w.factory, s⟩) ha e hevent) hrun)
      · exact .request hs ha hevent hrun
    · exact .same (by simpa [Function.update_of_ne hp] using hs')

/-- What a request dereferences stays there, where no continuation is without what it delivers. -/
theorem SlotRun.ctx {w : ProxyWorld} (hw : w.Consistent) {e : ProxyEvent Ω} {s' : Slot}
    (h : SlotRun lib hooks w p e s')
    (hctx : ∀ s, w.slots p = some s → s.alive = true → s.object.ctx.isSome = true)
    (hdelivers : ∀ s, w.slots p = some s → s.alive = true →
      ∀ k ∈ s.core.continuations, s.Delivers k)
    (ha : s'.alive = true) : s'.object.ctx.isSome = true := by
  cases h with
  | created _ hready _ _ _ hrun => exact (wp_ok (restartInternal_keeps hready _) hrun).ctx
  | request hold hlive hevent hrun =>
    have hdeliver := hdelivers _ hold hlive
    exact (wp_ok (RequestEvent.run_keeps (hw.ready hold hlive) (hctx _ hold hlive)
      hdeliver _ hevent) hrun).ctx
  | ignored _ hdead hignores _ =>
    rw [hignores.slot.1, hdead] at ha
    cases ha
  | same hold => exact hctx _ hold ha

/-- `NOTREACHED` is not reached by an event that leaves the request with the headers that the hooks
have set. -/
theorem SlotRun.notReached {w : ProxyWorld} (hw : w.Consistent) {e : ProxyEvent Ω} {s' : Slot}
    (h : SlotRun lib hooks w p e s')
    (hctx : ∀ s, w.slots p = some s → s.alive = true → s.object.ctx.isSome = true)
    (hdelivers : ∀ s, w.slots p = some s → s.alive = true →
      ∀ k ∈ s.core.continuations, s.Delivers k)
    (hreached : s'.notReached = true) :
    (∃ s, w.slots p = some s ∧ s.notReached = true) ∨ s'.object.LacksSetHeader := by
  cases h with
  | created _ hready _ hfresh _ hrun =>
    refine Or.inr (((wp_ok (restartInternal_keeps hready _) hrun).notReached
      hreached).resolve_left ?_)
    simp [hfresh]
  | request hold hlive hevent hrun =>
    have hdeliver := hdelivers _ hold hlive
    have hkeeps := wp_ok (RequestEvent.run_keeps (hw.ready hold hlive) (hctx _ hold hlive)
      hdeliver _ hevent) hrun
    exact (hkeeps.notReached hreached).imp_left fun hbefore => ⟨_, hold, hbefore⟩
  | ignored hold _ _ hsame => exact Or.inl ⟨_, hold, hsame ▸ hreached⟩
  | same hold => exact Or.inl ⟨_, hold, hreached⟩

section Runs
variable {renderProcessId frameTreeNodeId : Int} {generator : UInt64}
  {C : Slot → RequestEvent Ω → Prop}

/-- What a request dereferences is there, in runs where no continuation is without what it
delivers. -/
theorem ctx_of_reach
    (hdelivers : ∀ w, (proxySystem lib hooks renderProcessId frameTreeNodeId generator).Reach (OnRequests C) w →
      ∀ p s, w.slots p = some s → s.alive = true → ∀ k ∈ s.core.continuations, s.Delivers k)
    {w : ProxyWorld} (h : (proxySystem lib hooks renderProcessId frameTreeNodeId generator).Reach
      (OnRequests C) w)
    {s : Slot} (hs : w.slots p = some s) (ha : s.alive = true) : s.object.ctx.isSome = true := by
  induction h generalizing s with
  | init => cases hs
  | @step w w' e hreach hen hC hex ih =>
    have hw := Reachable.consistent hreach.reachable
    exact (slotRun_of_exec hw hen hex hs).ctx hw (fun _ => ih) (hdelivers w hreach p) ha

end Runs

end DumbBrowser
