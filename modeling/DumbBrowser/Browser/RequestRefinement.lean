import DumbBrowser.Browser.RequestProtocol
import Mathlib.Data.List.InsertIdx

/-!
# The methods follow the protocol

Each method of a request that is alive ends as the protocol allows; it has left the factory alone or
has had its request removed. A run can stop with a benign fault, but not with a fault of lifetimes.

* `run_spec` : every event changes the core of its request as `CoreStep` says.
-/

namespace DumbBrowser

open NetError Exec

/-- A fault that is no use of a deleted object and no failed removal. -/
def Fault.Benign : Fault → Prop
  | nullDereference | receiverNotBound => True
  | useAfterFree | requestNotFound | proxyNotFound | nullCallback | checkFailed => False

/-- The request can run: it and its factory are alive, and the factory can remove it. -/
structure Frame.Ready (p : Ptr) (f : Frame) : Prop where
  alive : f.slot.alive = true
  factoryAlive : f.factory.alive = true
  removable : ∃ g, f.factory.removeRequest p = .ok g

theorem Frame.Ready.congr {p : Ptr} {f f' : Frame} (h : f.Ready p) (hf : f'.factory = f.factory)
    (ha : f'.slot.alive = f.slot.alive) : f'.Ready p :=
  ⟨ha ▸ h.alive, hf ▸ h.factoryAlive, hf ▸ h.removable⟩

/-- The run ends with a core in `E`; the request is there and the factory as before, or it has been
removed. -/
def Leaves (p : Ptr) (f : Frame) (E : Core → Prop) (f' : Frame) : Prop :=
  E f'.slot.core ∧ ((f'.slot.alive = true ∧ f'.factory = f.factory) ∨
    (f'.slot.alive = false ∧ f.factory.removeRequest p = .ok f'.factory))

theorem Leaves.mono {p : Ptr} {f f₁ f' : Frame} {E E' : Core → Prop} (h : Leaves p f₁ E f')
    (hf : f₁.factory = f.factory) (hE : ∀ c, E c → E' c) : Leaves p f E' f' :=
  ⟨hE _ h.1, hf ▸ h.2⟩

/-- A call at the end of a method. -/
theorem tail_spec {p : Ptr} {f f₁ : Frame} {E E' : Core → Prop} {m : Method Unit}
    (hm : wp m Fault.Benign (fun _ => Leaves p f₁ E) f₁) (hf : f₁.factory = f.factory)
    (hE : ∀ c, E c → E' c) :
    wp m Fault.Benign (fun _ => Leaves p f E') f₁ :=
  wp_post hm fun _ _ hf' => hf'.mono hf hE

/-! ## Access to members -/

section Access
variable {F : Fault → Prop} {f : Frame} (ha : f.slot.alive = true)
include ha

theorem runs_this {Q : InProgressRequest → Frame → Prop} : wp this F Q f ↔ Q f.slot.object f := by
  simp [this, wp_ite, ha]

theorem runs_setThis {g : InProgressRequest → InProgressRequest} {Q : Unit → Frame → Prop} :
    wp (setThis g) F Q f ↔ Q () { f with slot := { f.slot with object := g f.slot.object } } := by
  simp [setThis, runs_this ha]

theorem runs_theFactory (hf : f.factory.alive = true) {Q : ProxyFactory → Frame → Prop} :
    wp theFactory F Q f ↔ Q f.factory f := by
  simp [theFactory, runs_this ha, wp_ite, hf]

theorem runs_theCtx {Q : DumbRequestInfo → Frame → Prop} :
    wp theCtx Fault.Benign Q f ↔ ∀ ctx, f.slot.object.ctx = some ctx → Q ctx f := by
  simp only [theCtx, wp_bind, runs_this ha]
  cases f.slot.object.ctx <;> simp [Fault.Benign]

theorem runs_theCtxSome (hctx : f.slot.object.ctx.isSome = true)
    {Q : DumbRequestInfo → Frame → Prop} :
    wp theCtx F Q f ↔ ∃ ctx, f.slot.object.ctx = some ctx ∧ Q ctx f := by
  obtain ⟨ctx, hsome⟩ := Option.isSome_iff_exists.1 hctx
  simp [theCtx, runs_this ha, hsome]

theorem runs_toClient {m : ClientMessage} {Q : Unit → Frame → Prop} :
    wp (toClient m) F Q f ↔ Q ()
    { f with slot := { f.slot with trace := f.slot.trace ++ [m] } } := by
  simp [toClient, runs_this ha]

theorem runs_toLoader {m : LoaderMessage} {Q : Unit → Frame → Prop} :
    wp (toLoader m) F Q f ↔ Q () { f with slot := { f.slot with
      loader := f.slot.loader.map fun l => { l with messages := l.messages ++ [m] }
      loaderAwaits := m.awaitsAfter f.slot.loaderAwaits } } := by
  simp [toLoader, runs_this ha]

theorem runs_pauseClientReceiver {Q : Unit → Frame → Prop} :
    wp pauseClientReceiver Fault.Benign Q f ↔ (f.slot.object.proxiedClientReceiver.isBound = true →
      Q () { f with slot :=
        { f.slot with object := { f.slot.object with proxiedClientReceiver := .bound true } } }) := by
  simp only [pauseClientReceiver, wp_bind, runs_this ha, wp_ite, runs_setThis ha, wp_throw]
  simp [Fault.Benign]

theorem runs_resumeClientReceiver {Q : Unit → Frame → Prop} :
    wp resumeClientReceiver Fault.Benign Q f ↔ (f.slot.object.proxiedClientReceiver.isBound = true →
      Q () { f with slot :=
        { f.slot with object := { f.slot.object with proxiedClientReceiver := .bound false } } }) := by
  simp only [resumeClientReceiver, wp_bind, runs_this ha, wp_ite, runs_setThis ha, wp_throw]
  simp [Fault.Benign]

theorem runs_pauseBound (hbound : f.slot.object.proxiedClientReceiver.isBound = true)
    {Q : Unit → Frame → Prop} :
    wp pauseClientReceiver F Q f ↔
    Q () { f with slot := { f.slot with object := { f.slot.object with
      proxiedClientReceiver := .bound true } } } := by
  simp only [pauseClientReceiver, wp_bind, runs_this ha, if_pos hbound, runs_setThis ha]

theorem runs_resumeBound (hbound : f.slot.object.proxiedClientReceiver.isBound = true)
    {Q : Unit → Frame → Prop} :
    wp resumeClientReceiver F Q f ↔
    Q () { f with slot := { f.slot with object := { f.slot.object with
      proxiedClientReceiver := .bound false } } } := by
  simp only [resumeClientReceiver, wp_bind, runs_this ha, if_pos hbound, runs_setThis ha]

theorem runs_pauseIfBound {Q : Unit → Frame → Prop} :
    wp pauseIfBound F Q f ↔ Q () { f with slot := { f.slot with object := { f.slot.object with
      proxiedClientReceiver := f.slot.object.proxiedClientReceiver.paused } } } := by
  simp only [pauseIfBound, wp_bind, runs_this ha]
  rcases hreceiver : f.slot.object.proxiedClientReceiver with _ | b
  · rw [if_neg (by simp [Receiver.isBound]), wp_pure, Receiver.paused, ← hreceiver]
  · rw [if_pos (show (Receiver.bound b).isBound = true from rfl),
      runs_pauseBound ha (by simp [hreceiver, Receiver.isBound])]
    rfl

theorem runs_resumeIfBound {Q : Unit → Frame → Prop} :
    wp resumeIfBound F Q f ↔ Q () { f with slot := { f.slot with object := { f.slot.object with
      proxiedClientReceiver := f.slot.object.proxiedClientReceiver.resumed } } } := by
  simp only [resumeIfBound, wp_bind, runs_this ha]
  rcases hreceiver : f.slot.object.proxiedClientReceiver with _ | b
  · rw [if_neg (by simp [Receiver.isBound]), wp_pure, Receiver.resumed, ← hreceiver]
  · rw [if_pos (show (Receiver.bound b).isBound = true from rfl),
      runs_resumeBound ha (by simp [hreceiver, Receiver.isBound])]
    rfl

theorem runs_storeResponse {head : URLResponseHead} {kind : HeadKind} {Q : Unit → Frame → Prop} :
    wp (storeResponse head kind) F Q f ↔ Q () { f with slot := { f.slot with
      stored := f.slot.stored ++ [⟨head, kind, f.slot.object.request⟩]
      object := { f.slot.object with currentResponse := some (f.slot.stored.length, head) } } } := by
  simp [storeResponse, setThis, this, wp_ite, ha]

theorem runs_takeResponse {Q : Option (Nat × URLResponseHead) → Frame → Prop} :
    wp takeResponse F Q f ↔ Q f.slot.object.currentResponse
      { f with slot := { f.slot with object := { f.slot.object with currentResponse := none } } } := by
  simp only [takeResponse, wp_bind, runs_this ha, runs_setThis ha, wp_pure]

theorem runs_makeCtx {Q : DumbRequestInfo → Frame → Prop} :
    wp makeCtx F Q f ↔
      let r := f.slot.object
      let ctx := DumbRequestInfo.makeCTX r.request r.renderProcessId r.frameTreeNodeId r.requestId r.ctx
      Q ctx { f with slot := { f.slot with
        ctxSerial := f.slot.ctxSerial + 1
        object := { r with ctx := some ctx } } } := by
  simp [makeCtx, setThis, this, wp_ite, ha]

theorem runs_suspend {k : Continuation} {Q : Unit → Frame → Prop} :
    wp (suspend k) F Q f ↔ Q () { f with slot := { f.slot with
      continuations := f.slot.continuations ++ [⟨k, f.slot.ctxSerial⟩] } } := by
  simp [suspend, runs_this ha]

theorem runs_setInternalRedirect {b : Bool} {Q : Unit → Frame → Prop} :
    wp (setInternalRedirect b) Fault.Benign Q f ↔ ∀ ctx, f.slot.object.ctx = some ctx →
      Q () { f with slot := { f.slot with object := { f.slot.object with
        ctx := some { ctx with internalRedirect := b } } } } := by
  simp only [setInternalRedirect, wp_bind, runs_theCtx ha, runs_setThis ha]

end Access

/-! ## Removal -/

section Specs
variable {Ω : Type} {lib : NetLibrary} {hooks : Hooks Ω} {p : Ptr} {f : Frame} (h : f.Ready p)
include h

theorem removeThis_spec {Q : Unit → Frame → Prop}
    (hQ : ∀ g, f.factory.removeRequest p = .ok g →
      Q () { factory := g, slot := { f.slot with alive := false } }) :
    wp (removeThis p) Fault.Benign Q f := by
  obtain ⟨g, hg⟩ := h.removable
  simpa [removeThis, runs_theFactory h.alive h.factoryAlive, hg] using hQ g hg

/-- The request is removed, with an `OnComplete` unless it has completed before. -/
theorem onRequestError_spec (status : URLLoaderCompletionStatus) :
    wp (onRequestError p status) Fault.Benign
      (fun _ => Leaves p f fun c => ∃ out, Closing out ∧ Removed f.slot.core c out) f := by
  simp only [onRequestError, wp_bind, runs_this h.alive, wp_ite, runs_toClient h.alive]
  constructor
  · intro _
    refine removeThis_spec ?_ fun g hg => ?_
    · exact h.congr rfl rfl
    · exact ⟨⟨[.onComplete status], Or.inr ⟨status, rfl⟩, ⟨rfl, rfl, rfl, rfl⟩⟩, Or.inr ⟨rfl, hg⟩⟩
  · intro _
    apply removeThis_spec h
    intro g hg
    exact ⟨⟨[], Or.inl rfl, ⟨rfl, by simp [Slot.core], rfl, rfl⟩⟩, Or.inr ⟨rfl, hg⟩⟩

/-- A call of `onRequestError` at the end of a method. -/
theorem error_spec {f₁ : Frame} {E : Core → Prop} {status : URLLoaderCompletionStatus}
    (hf : f₁.factory = f.factory) (ha : f₁.slot.alive = f.slot.alive)
    (hE : ∀ c out, Closing out → Removed f₁.slot.core c out → E c) :
    wp (onRequestError p status) Fault.Benign (fun _ => Leaves p f E) f₁ := by
  refine tail_spec (onRequestError_spec (h.congr hf ha) _) hf ?_
  rintro c ⟨out, hout, hremoved⟩
  exact hE c out hout hremoved

/-- The check of the error code with which every continuation starts. -/
theorem ifError_spec {errorCode : Int} {m : Method Unit} {E : Core → Prop}
    (hE : ∀ c out, Closing out → Removed f.slot.core c out → E c)
    (hok : wp m Fault.Benign (fun _ => Leaves p f E) f) :
    wp (if errorCode ≠ OK then onRequestError p { errorCode } else m) Fault.Benign
    (fun _ => Leaves p f E) f := by
  rw [wp_ite]
  exact ⟨fun _ => error_spec h rfl rfl hE, fun _ => hok⟩

/-! ## Starting a request -/

theorem continueToStartRequest_spec : wp (continueToStartRequest p OK) Fault.Benign
    (fun _ => Leaves p f fun c =>
      ∃ loaderAwaits, (loaderAwaits = true → f.slot.loaderAwaits = true) ∧
      c = f.slot.core.started f.factory.targetFactory loaderAwaits) f := by
  simp (disch := first | exact h.alive | exact h.factoryAlive) only [continueToStartRequest,
    startRequest, recordStart,
    wp_ite, ne_eq, not_true, false_implies, true_and, not_false_eq_true,
      true_implies, wp_bind, wp_get,
    runs_resumeIfBound, runs_this, runs_theFactory, runs_setThis, wp_modify, wp_pure]
  refine ⟨fun hcreate => ?_, fun hkeep => ?_⟩
  · have hboth : f.slot.object.targetLoader = false ∧ f.factory.targetFactory = true := by simpa using hcreate
    refine ⟨⟨false, by simp, ?_⟩, Or.inl ⟨h.alive, rfl⟩⟩
    simp [Slot.core, Core.started, hboth, h.alive]
  · refine ⟨⟨f.slot.loaderAwaits, id, ?_⟩, Or.inl ⟨h.alive, rfl⟩⟩
    have hdriven : f.slot.object.targetLoader = (f.slot.object.targetLoader ||
        f.factory.targetFactory) := by
      revert hkeep
      cases f.slot.object.targetLoader <;> cases f.factory.targetFactory <;> simp
    simp only [Slot.core, Core.started, if_neg hkeep, ← hdriven, h.alive]
    simp

theorem forwardFollowRedirect_spec {Q : Unit → Frame → Prop}
    (hQ : ∀ params loader loaderAwaits notReached,
      (loaderAwaits = true → f.slot.loaderAwaits = true) →
      Q () { f with slot := { f.slot with
        loader := loader
        loaderAwaits := loaderAwaits
        notReached := notReached
        object := { f.slot.object with pendingFollowRedirectParams := params } } }) :
    wp forwardFollowRedirect Fault.Benign Q f := by
  simp only [forwardFollowRedirect, wp_bind, runs_theCtx h.alive, runs_this h.alive]
  intro ctx _
  rcases hparams : f.slot.object.pendingFollowRedirectParams with _ | params
  · have := hQ none f.slot.loader f.slot.loaderAwaits f.slot.notReached id
    rwa [← hparams] at this
  · simp (disch := exact h.alive) only [noteNotReached, wp_bind, wp_modify, wp_ite,
      runs_toLoader, runs_setThis]
    exact ⟨fun _ => hQ _ _ _ _ (by simp [LoaderMessage.awaitsAfter]), fun _ => hQ _ _ _ _ id⟩

theorem continueToSendHeaders_spec (errorCode : Int) :
    wp (continueToSendHeaders p errorCode) Fault.Benign
    (fun _ => Leaves p f (StartExit f.factory.targetFactory f.slot.core)) f := by
  refine ifError_spec h (fun c out => StartExit.removed) ?_
  rw [wp_bind]
  refine forwardFollowRedirect_spec h fun params loader loaderAwaits _ hawaits => ?_
  simp (disch := exact h.alive) only [wp_bind, runs_resumeIfBound]
  refine tail_spec (continueToStartRequest_spec ?_) rfl ?_
  · exact h.congr rfl rfl
  rintro c ⟨awaits, hle, rfl⟩
  have hexit : StartExit f.factory.targetFactory f.slot.core
      (f.slot.core.started f.factory.targetFactory awaits) :=
    .started fun ha => hawaits (hle ha)
  simpa [Slot.core, Core.started] using hexit

/-! ## Delivering a redirect -/

theorem deliverRedirect_spec (redirectInfo : RedirectInfo) :
    wp (deliverRedirect lib redirectInfo) Fault.Benign
    (fun _ => Leaves p f (· = f.slot.core.redirected redirectInfo)) f := by
  simp (disch := exact h.alive) only [deliverRedirect, wp_bind, runs_resumeIfBound,
    runs_theCtx, runs_setThis,
    runs_takeResponse, runs_toClient]
  intro ctx _
  exact ⟨rfl, Or.inl ⟨h.alive, rfl⟩⟩

theorem continueToBeforeRedirect_spec (redirectInfo : RedirectInfo) (errorCode : Int) :
    wp (continueToBeforeRedirect lib p redirectInfo errorCode) Fault.Benign
      (fun _ => Leaves p f (DeliverExit lib f.slot.core (.continueToBeforeRedirect redirectInfo))) f := by
  refine ifError_spec h (fun c out => DeliverExit.removed) ?_
  exact tail_spec (deliverRedirect_spec h redirectInfo) rfl fun c hc => hc ▸ .redirect

theorem handleBeforeRequestRedirect_spec : wp (handleBeforeRequestRedirect lib p) Fault.Benign
    (fun _ => Leaves p f (StartExit f.factory.targetFactory f.slot.core)) f := by
  simp (disch := exact h.alive) only [handleBeforeRequestRedirect, resetPipes, wp_bind,
    runs_setThis, runs_this,
    runs_storeResponse, runs_setInternalRedirect, continueToBeforeRedirect,
      ne_eq, not_true, if_false]
  intro ctx _
  refine tail_spec (deliverRedirect_spec ?_ _) rfl ?_
  · exact h.congr rfl rfl
  rintro c rfl
  exact StartExit.redirected (c := f.slot.core) ⟨_, .internalRedirect, _⟩ rfl

theorem mockResponse_spec (dataPipe : Bool) : wp (mockResponse p dataPipe) Fault.Benign
    (fun _ => Leaves p f fun c =>
      (∃ out, Closing out ∧ Removed f.slot.core c (.onReceiveResponse none (some {}) :: out)) ∨
      c = { f.slot.core with
        trace := f.slot.core.trace ++
          [.onReceiveResponse none (some {}), .onStartLoadingResponseBody]
        writes := f.slot.core.writes ++ [""] }) f := by
  simp (disch := exact h.alive) only [mockResponse, wp_bind, runs_toClient, wp_ite, wp_modify]
  refine ⟨fun _ => ?_, fun _ => ?_⟩
  · refine error_spec h rfl rfl fun c out hout hr => ?_
    exact Or.inl ⟨out, hout, ⟨hr.alive, by simp [hr.trace, Slot.core], hr.stored, hr.starts⟩⟩
  · exact ⟨Or.inr (by simp [Slot.core]), Or.inl ⟨h.alive, rfl⟩⟩

theorem beforeStartTransaction_spec (env : Env Ω) :
    wp (beforeStartTransaction hooks p env) Fault.Benign
    (fun _ => Leaves p f (StartExit f.factory.targetFactory f.slot.core)) f := by
  simp (disch := first | exact h.alive | exact h.factoryAlive) only [beforeStartTransaction,
    wp_bind, runs_this, wp_ite,
    runs_makeCtx, runs_theFactory, runs_setThis]
  refine ⟨fun _ => ?_, fun _ => continueToSendHeaders_spec h OK⟩
  generalize hooks.onBeforeStartTransaction env.hook _ _ = outcome
  cases outcome.result with
  | blockedByClient => exact error_spec h rfl rfl fun c out => StartExit.removed
  | ioPending =>
    simp (disch := exact h.alive) only [wp_bind, runs_suspend, runs_pauseIfBound]
    refine ⟨?_, Or.inl ⟨h.alive, rfl⟩⟩
    have hexit : StartExit f.factory.targetFactory f.slot.core
        (f.slot.core.suspended .continueToSendHeaders) :=
      .suspended (by decide)
    simpa [Slot.core, Core.suspended, InProgressRequest.write, HookWrites.restrict] using hexit
  | ok =>
    refine tail_spec (continueToSendHeaders_spec ?_ OK) rfl fun c hc => hc
    exact h.congr rfl rfl

theorem continueToBeforeSendHeaders_spec (env : Env Ω) (errorCode : Int) :
    wp (continueToBeforeSendHeaders lib hooks p env errorCode) Fault.Benign
      (fun _ => Leaves p f (StartExit f.factory.targetFactory f.slot.core)) f := by
  refine ifError_spec h (fun c out => StartExit.removed) ?_
  simp (disch := exact h.alive) only [wp_bind, runs_this, wp_ite, runs_theCtx,
    runs_setThis, runs_resumeIfBound]
  refine ⟨fun _ => handleBeforeRequestRedirect_spec h, fun _ ctx _ =>
    ⟨fun _ => ⟨fun _ => ?_, fun _ => ?_⟩, fun _ => ?_⟩⟩
  · refine error_spec h rfl rfl fun c out hout hr => ?_
    exact (StartExit.removed hout hr).of_resumed
  · refine tail_spec (mockResponse_spec ?_ env.dataPipe) rfl ?_
    · exact h.congr rfl rfl
    rintro c (⟨out, hout, hr⟩ | rfl)
    · exact (StartExit.mockFailed hout hr).of_resumed
    · exact StartExit.mocked (c := f.slot.core)
  · refine tail_spec (beforeStartTransaction_spec ?_ env) rfl fun c hc => ?_
    · exact h.congr rfl rfl
    · exact StartExit.of_resumed hc

theorem restartInternal_spec (env : Env Ω) : wp (restartInternal lib hooks p env) Fault.Benign
    (fun _ => Leaves p f (StartExit f.factory.targetFactory f.slot.core)) f := by
  simp (disch := first | exact h.alive | exact h.factoryAlive) only [restartInternal,
    wp_bind, runs_setThis,
    runs_makeCtx, runs_theFactory]
  generalize hooks.onBeforeURLRequest env.hook _ = outcome
  cases outcome.result with
  | blockedByClient => exact error_spec h rfl rfl fun c out => StartExit.removed
  | ioPending =>
    simp (disch := exact h.alive) only [wp_bind, runs_suspend, runs_pauseIfBound]
    refine ⟨?_, Or.inl ⟨h.alive, rfl⟩⟩
    have hexit : StartExit f.factory.targetFactory f.slot.core
        (f.slot.core.suspended .continueToBeforeSendHeaders) :=
      .suspended (by decide)
    simpa [Slot.core, Core.suspended, InProgressRequest.write, HookWrites.restrict] using hexit
  | ok =>
    refine tail_spec (continueToBeforeSendHeaders_spec ?_ env OK) rfl fun c hc => hc
    exact h.congr rfl rfl

/-! ## Delivering a response -/

theorem deliverResponse_spec : wp (deliverResponse lib p) Fault.Benign
    (fun _ => Leaves p f (DeliverExit lib f.slot.core .continueToResponseStarted)) f := by
  simp only [deliverResponse, wp_bind, runs_this h.alive]
  rcases hoverride : f.slot.object.overrideHeaders with _ | headers
  · simp (disch := exact h.alive) only [Option.bind_none, wp_bind,
      runs_resumeClientReceiver, runs_takeResponse,
      runs_toClient]
    intro hbound
    refine ⟨?_, Or.inl ⟨h.alive, rfl⟩⟩
    have hresponse : DeliverExit lib f.slot.core _ _ := .response {} hbound
    rwa [show f.slot.core.overrideHeaders = none from hoverride] at hresponse
  · simp (disch := exact h.alive) only [wp_bind, wp_ite, wp_throw, runs_setThis, Option.bind_some]
    refine ⟨fun _ => trivial, fun hsome => ?_⟩
    rcases hcurrent : f.slot.object.currentResponse with _ | ⟨n, head⟩
    · simp [hcurrent] at hsome
    rcases hredirect : lib.isRedirect headers with _ | redirectLocation
    · simp (disch := exact h.alive) only [Option.map_none, wp_bind,
        runs_resumeClientReceiver, runs_takeResponse,
        runs_toClient, Option.map_some]
      intro hbound
      refine ⟨?_, Or.inl ⟨h.alive, rfl⟩⟩
      have hresponse : DeliverExit lib f.slot.core _ _ := .response f.slot.object.request.url hbound
      rwa [show f.slot.core.overrideHeaders = some headers from hoverride,
        show f.slot.core.currentResponse = some (n, head) from hcurrent] at hresponse
    · simp (disch := exact h.alive) only [Option.map_some, wp_bind, resetPipes, runs_setThis,
        runs_setInternalRedirect,
        continueToBeforeRedirect, ne_eq, not_true, if_false]
      intro ctx _
      refine tail_spec (deliverRedirect_spec ?_ _) rfl ?_
      · exact h.congr rfl rfl
      rintro c rfl
      have hlocation : (f.slot.core.overrideHeaders.bind lib.isRedirect).isSome = true := by
        simp [show f.slot.core.overrideHeaders = some headers from hoverride, hredirect]
      have hredirected := DeliverExit.overrideRedirect f.slot.object.request.url
        (createRedirectInfo lib
        f.slot.object.request (lib.parseUrl redirectLocation) headers.responseCode
          (lib.getReferrerPolicyHeader headers))
        hcurrent hlocation
      rwa [show f.slot.core.overrideHeaders = some headers from hoverride] at hredirected

theorem continueToResponseStarted_spec (errorCode : Int) :
    wp (continueToResponseStarted lib p errorCode) Fault.Benign
    (fun _ => Leaves p f (DeliverExit lib f.slot.core .continueToResponseStarted)) f :=
  ifError_spec h (fun _ _ => DeliverExit.removed) (deliverResponse_spec h)

theorem runContinuation_spec (env : Env Ω) (errorCode : Int) (k : Continuation) :
    wp (runContinuation lib hooks p env errorCode k) Fault.Benign
      (fun _ => Leaves p f (ContinuationExit lib f.factory.targetFactory f.slot.core k)) f := by
  cases k with
  | continueToBeforeSendHeaders =>
    exact tail_spec (continueToBeforeSendHeaders_spec h env errorCode) rfl fun _ =>
      ContinuationExit.start nofun
  | continueToSendHeaders =>
    exact tail_spec (continueToSendHeaders_spec h errorCode) rfl fun _ =>
      ContinuationExit.start nofun
  | continueToResponseStarted =>
    exact tail_spec (continueToResponseStarted_spec h errorCode) rfl fun _ =>
      ContinuationExit.deliver rfl
  | continueToBeforeRedirect redirectInfo =>
    exact tail_spec (continueToBeforeRedirect_spec h redirectInfo errorCode) rfl fun _ =>
      ContinuationExit.deliver rfl

/-! ## The hook for the response headers -/

/-- A continuation of the hook for the response headers, with the head that the hook has seen. -/
theorem deliver_spec {k : Continuation} (hk : k.hookPoint = .headersReceived) {env : Env Ω}
    {f₁ : Frame} {c : Core} {head : StoredHead} {outcome : HookOutcome}
    (hf : f₁.factory = f.factory) (ha : f₁.slot.alive = f.slot.alive)
    (hc : f₁.slot.core = c.seen head outcome) (houtcome : HeadersOutcome hooks env head outcome) :
    wp (runContinuation lib hooks p env OK k) Fault.Benign
    (fun _ => Leaves p f (HeadersExit lib hooks env c head k)) f₁ := by
  refine tail_spec (runContinuation_spec (h.congr hf ha) env OK k) hf ?_
  intro c' hc'
  cases hc' with
  | start hstart => exact absurd hk hstart
  | deliver _ hdeliver =>
    rw [hc] at hdeliver
    exact .delivered houtcome hdeliver

/-- A head has just been stored. -/
theorem handleResponseOrRedirectHeaders_spec {k : Continuation}
    (hk : k.hookPoint = .headersReceived) (env : Env Ω) {c : Core} {head : StoredHead}
    (hc : f.slot.core = c.storedHead head) (hrequest : head.request = f.slot.object.request) :
    wp (handleResponseOrRedirectHeaders lib hooks p k env) Fault.Benign
      (fun _ => Leaves p f (HeadersExit lib hooks env c head k)) f := by
  have hcurrent : f.slot.object.currentResponse = some (c.stored.length, head.head) :=
    congrArg Core.currentResponse hc
  have hcore (outcome : HookOutcome) :
      { f.slot.core with overrideHeaders := outcome.writes.overrideHeaders none } =
        c.seen head outcome := by
    rw [hc, Core.seen]
  simp (disch := first | exact h.alive | exact h.factoryAlive)
    only [handleResponseOrRedirectHeaders, wp_bind, runs_this,
    wp_ite, runs_makeCtx, runs_theFactory, runs_setThis]
  refine ⟨fun hhttp => ?_, fun hother => ?_⟩
  · generalize hhook : hooks.onHeadersReceived env.hook _ _ = outcome
    have houtcome : HeadersOutcome hooks env head outcome := by
      rw [HeadersOutcome, hrequest, if_pos hhttp, ← hhook]
      exact ⟨_, _, _, _, by rw [hcurrent]; rfl⟩
    split
    · refine error_spec h rfl rfl fun c' out hout hr => .delivered houtcome (.removed hout ?_)
      rw [← hcore]
      exact hr
    · next hpending =>
      simp (disch := exact h.alive) only [wp_bind, runs_suspend, runs_pauseClientReceiver]
      intro (hbound : f.slot.object.proxiedClientReceiver.isBound = true)
      refine ⟨?_, Or.inl ⟨h.alive, rfl⟩⟩
      have hsuspended : c.receiver.isBound = true → HeadersExit lib hooks env c head k _ :=
        .suspended houtcome hpending
      rw [← hcore, show c.receiver = f.slot.object.proxiedClientReceiver
        from (congrArg Core.receiver hc).symm] at hsuspended
      simpa [Slot.core, Core.suspended, InProgressRequest.write, HookWrites.restrict,
        Receiver.paused_of_isBound hbound] using
        hsuspended hbound
    · exact deliver_spec h hk rfl rfl (hcore _) houtcome
  · refine deliver_spec h hk rfl rfl (hcore { result := .ok }) ?_
    rw [HeadersOutcome, hrequest, if_neg hother]

theorem onReceiveResponse_spec (head : URLResponseHead) (env : Env Ω) :
    wp (onReceiveResponse lib hooks p head env) Fault.Benign
      (fun _ => Leaves p f (HeadersExit lib hooks env f.slot.core
          ⟨head, .response, f.slot.object.request⟩
        .continueToResponseStarted)) f := by
  simp (disch := exact h.alive) only [onReceiveResponse, wp_bind, runs_storeResponse,
    runs_setInternalRedirect]
  intro ctx _
  refine tail_spec (handleResponseOrRedirectHeaders_spec ?_ rfl env rfl rfl) rfl fun _ hc => hc
  exact h.congr rfl rfl

theorem onReceiveRedirect_spec (redirectInfo : RedirectInfo)
    (head : URLResponseHead) (env : Env Ω) :
    wp (onReceiveRedirect lib hooks p redirectInfo head env) Fault.Benign
      (fun _ => Leaves p f (HeadersExit lib hooks env f.slot.core
          ⟨head, .redirect, f.slot.object.request⟩
        (.continueToBeforeRedirect redirectInfo))) f := by
  simp (disch := exact h.alive) only [onReceiveRedirect, wp_bind, runs_storeResponse,
    runs_setInternalRedirect]
  intro ctx _
  refine tail_spec (handleResponseOrRedirectHeaders_spec ?_ rfl env rfl rfl) rfl fun _ hc => hc
  exact h.congr rfl rfl

/-! ## The end of a request -/

theorem onComplete_spec (status : URLLoaderCompletionStatus) :
    wp (onComplete p status) Fault.Benign
      (fun _ => Leaves p f fun c => ∃ out, Closing out ∧ Removed f.slot.core c out) f := by
  rw [onComplete, wp_ite]
  refine ⟨fun _ => onRequestError_spec h status, fun _ => ?_⟩
  simp (disch := exact h.alive) only [wp_bind, runs_toClient]
  refine removeThis_spec ?_ fun g hg => ?_
  · exact h.congr rfl rfl
  · exact ⟨⟨[.onComplete status], Or.inr ⟨status, rfl⟩, ⟨rfl, rfl, rfl, rfl⟩⟩, Or.inr ⟨rfl, hg⟩⟩

theorem forwardToLoader_spec {m : LoaderMessage}
    (hm : m.awaitsAfter f.slot.loaderAwaits = f.slot.loaderAwaits) :
    wp (forwardToLoader m) Fault.Benign (fun _ => Leaves p f (· = f.slot.core)) f := by
  simp (disch := exact h.alive) only [forwardToLoader, wp_bind, runs_this, wp_ite,
    runs_toLoader, wp_pure]
  refine ⟨fun _ => ⟨?_, Or.inl ⟨h.alive, rfl⟩⟩, fun _ => ⟨rfl, Or.inl ⟨h.alive, rfl⟩⟩⟩
  simp only [Slot.core, hm]

theorem passOn_spec (m : ClientMessage) : wp (toClient m) Fault.Benign
    (fun _ => Leaves p f (· = { f.slot.core with trace := f.slot.core.trace ++ [m] })) f := by
  rw [runs_toClient h.alive]
  exact ⟨rfl, Or.inl ⟨h.alive, rfl⟩⟩

/-! ## Every event -/

omit h in
theorem receiver_of_enabled {b : Bool}
    (hen : (b && f.slot.object.proxiedClientReceiver = .bound false) = true) :
    f.slot.core.receiver = .bound false := by
  simp only [Bool.and_eq_true, decide_eq_true_eq] at hen
  exact hen.2

theorem resumeHook_spec (suspended : Suspended) (env : Env Ω)
    {override : Option HttpResponseHeaders}
    (hoverride : override = ((hooks.resume env.hook suspended.continuation).2.restrict
      suspended.continuation.hookPoint).overrideHeaders f.slot.core.overrideHeaders) :
    wp (resumeHook lib hooks p suspended env) Fault.Benign
      (fun _ => Leaves p f (ContinuationExit lib f.factory.targetFactory { f.slot.core with
          overrideHeaders := override }
        suspended.continuation)) f := by
  simp (disch := exact h.alive) only [resumeHook, wp_bind, wp_get, wp_ite, runs_setThis, wp_pure]
  refine ⟨fun hdead => ?_, fun _ => ?_⟩
  · simp [h.alive] at hdead
  · refine tail_spec (runContinuation_spec ?_ env _ _) rfl fun c hc => ?_
    · exact h.congr rfl rfl
    convert hc using 1
    rw [hoverride]
    cases hk : suspended.continuation <;> split <;> rfl

theorem onWrite_spec (data : String) (result : Bool) : wp (onWrite p data result) Fault.Benign
    (fun _ => Leaves p f fun c => c = f.slot.core ∨
      (result = true ∧ ∃ out, Closing out ∧ Removed f.slot.core c out)) f := by
  simp only [onWrite, wp_bind, wp_get, wp_ite, wp_pure]
  refine ⟨fun _ => ⟨Or.inl rfl, Or.inl ⟨h.alive, rfl⟩⟩, fun hresult => ?_⟩
  refine tail_spec (onComplete_spec h _) rfl fun c hc => Or.inr ⟨?_, hc⟩
  cases result <;> simp_all

/-- **Every event of a request that is alive changes it as the protocol says.** -/
theorem RequestEvent.run_spec (e : RequestEvent Ω) (hen : e.isEnabled f.slot = true) :
    wp (e.run lib hooks p) Fault.Benign
      (fun _ => Leaves p f (CoreStep lib hooks f.factory.targetFactory f.slot.object.request
          f.slot.core e)) f := by
  cases e with
  | followRedirect params env =>
    simp (disch := exact h.alive) only [run, wp_bind, runs_toClient,
      DumbBrowser.followRedirect, runs_setThis]
    refine tail_spec (restartInternal_spec ?_ env) rfl fun c hc => ?_
    · exact h.congr rfl rfl
    · exact .followRedirect hc
  | setPriority a b =>
    exact tail_spec (forwardToLoader_spec h rfl) rfl fun c hc => hc ▸ .silent .setPriority
  | pauseReadingBodyFromNet =>
    exact tail_spec (forwardToLoader_spec h rfl) rfl fun c hc =>
      hc ▸ .silent .pauseReadingBodyFromNet
  | resumeReadingBodyFromNet =>
    exact tail_spec (forwardToLoader_spec h rfl) rfl fun c hc =>
      hc ▸ .silent .resumeReadingBodyFromNet
  | clientDisconnect => exact error_spec h rfl rfl fun c out => .clientDisconnect
  | onReceiveEarlyHints => exact ⟨.silent .onReceiveEarlyHints, Or.inl ⟨h.alive, rfl⟩⟩
  | onReceiveResponse head env =>
    have hreceiver := receiver_of_enabled hen
    exact tail_spec (onReceiveResponse_spec h head env) rfl fun c => .onReceiveResponse hreceiver
  | onReceiveRedirect redirectInfo head env =>
    have hreceiver := receiver_of_enabled hen
    simp only [run, wp_bind, wp_modify]
    refine tail_spec (onReceiveRedirect_spec ?_ redirectInfo head env) rfl fun c =>
      CoreStep.onReceiveRedirect (c := f.slot.core) hreceiver
    exact h.congr rfl rfl
  | onUploadProgress a b =>
    exact tail_spec (passOn_spec h _) rfl fun c hc => hc ▸ .passed .onUploadProgress
  | onReceiveCachedMetadata data =>
    exact tail_spec (passOn_spec h _) rfl fun c hc => hc ▸ .passed .onReceiveCachedMetadata
  | onTransferSizeUpdated diff =>
    exact tail_spec (passOn_spec h _) rfl fun c hc => hc ▸ .passed .onTransferSizeUpdated
  | onStartLoadingResponseBody =>
    exact tail_spec (passOn_spec h _) rfl fun c hc => hc ▸ .passed .onStartLoadingResponseBody
  | onComplete status =>
    refine tail_spec (onComplete_spec h status) rfl ?_
    rintro c ⟨out, hout, hr⟩
    exact .onComplete hout hr
  | resumeHook place env =>
    simp only [isEnabled, decide_eq_true_eq] at hen
    simp only [run, wp_bind, wp_get, List.getElem?_eq_getElem hen, wp_modify]
    refine tail_spec (resumeHook_spec ?_ _ env rfl) rfl fun c hc => ?_
    · exact h.congr rfl rfl
    · refine .resumeHook (k := f.slot.continuations[place].continuation) ?_ rfl ?_
      · simp [Slot.core, hen]
      simpa only [Slot.core, List.eraseIdx_map] using hc
  | onWrite place result =>
    simp only [isEnabled, decide_eq_true_eq] at hen
    simp only [run, wp_bind, wp_get, List.getElem?_eq_getElem hen, wp_modify]
    refine tail_spec (onWrite_spec ?_ _ result) rfl ?_
    · exact h.congr rfl rfl
    rintro c (rfl | ⟨rfl, out, hout, hr⟩)
    · exact .onWrite
    · exact .onWriteComplete hout ⟨hr.alive, hr.trace, hr.stored, hr.starts⟩

end Specs

/-- For a request that is gone only callbacks with a weak pointer run, and they do nothing. -/
theorem RequestEvent.run_dead_spec {Ω : Type} {lib : NetLibrary} {hooks : Hooks Ω}
    {p : Ptr} {f : Frame} (hdead : f.slot.alive = false) (e : RequestEvent Ω)
    (hen : e.isEnabled f.slot = true) :
    wp (e.run lib hooks p) Fault.Benign
      (fun _ f' => f.slot.core.Ignores f'.slot.core ∧ f'.slot.alive = false ∧
          f'.factory = f.factory) f := by
  cases e with
  | resumeHook place env =>
    simp only [isEnabled, decide_eq_true_eq] at hen
    simp only [run, wp_bind, wp_get, List.getElem?_eq_getElem hen, wp_modify,
      DumbBrowser.resumeHook, wp_ite]
    refine ⟨fun _ => ⟨⟨_, _, rfl⟩, hdead, rfl⟩, fun halive => ?_⟩
    simp [hdead] at halive
  | onWrite place result =>
    simp only [isEnabled, decide_eq_true_eq] at hen
    simp only [run, wp_bind, wp_get, List.getElem?_eq_getElem hen, wp_modify,
      DumbBrowser.onWrite, wp_ite]
    refine ⟨fun _ => ⟨⟨_, _, rfl⟩, hdead, rfl⟩, fun halive => ?_⟩
    simp [hdead] at halive
  | _ => simp [isEnabled, hdead] at hen

end DumbBrowser
