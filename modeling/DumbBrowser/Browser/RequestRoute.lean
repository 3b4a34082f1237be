import DumbBrowser.Browser.PausedReceiver

/-!
# Where a request goes

A `Route` is the part of a slot that says what is loaded and by which loader. Redirects change it,
and the hook before the request decides whether a loader takes it.

* `run_route` : how each event changes the route.
-/

namespace DumbBrowser

open NetError Exec

/-! ## What is fetched -/

/-- The fields of a request that follow from its redirects. -/
structure Fetch where
  url : GURL
  method : String
  siteForCookies : SiteForCookies
  referrerPolicy : ReferrerPolicy
  trustedParams : Option IsolationInfo
  requestBody : Option (List DataElement)
deriving DecidableEq, Repr

def ResourceRequest.fetch (request : ResourceRequest) : Fetch where
  url := request.url
  method := request.method
  siteForCookies := request.siteForCookies
  referrerPolicy := request.referrerPolicy
  trustedParams := request.trustedParams
  requestBody := request.requestBody

/-- What a client fetches next when it is redirected. -/
def Fetch.redirect (lib : NetLibrary) (fetch : Fetch) (redirectInfo : RedirectInfo) : Fetch where
  url := redirectInfo.newUrl
  method := redirectInfo.newMethod
  siteForCookies := redirectInfo.newSiteForCookies
  referrerPolicy := redirectInfo.newReferrerPolicy
  trustedParams := fetch.trustedParams.map fun info =>
    lib.createForRedirect info (Origin.create redirectInfo.newUrl)
  requestBody := if redirectInfo.newMethod = "GET" then none else fetch.requestBody

/-- The client may go elsewhere than it was redirected. -/
def Fetch.follow (fetch : Fetch) (params : FollowRedirectParams) : Fetch :=
  { fetch with url := params.newUrl.getD fetch.url }

def Fetch.after (lib : NetLibrary) (fetch : Fetch) : ClientMessage → Fetch
  | .followRedirect params => fetch.follow params
  | .onReceiveRedirect _ redirectInfo _ => fetch.redirect lib redirectInfo
  | _ => fetch

/-- What the client fetches, by the messages on its pipe. -/
def fetched (lib : NetLibrary) (original : ResourceRequest) (trace : List ClientMessage) : Fetch :=
  trace.foldl (Fetch.after lib) original.fetch

/-- Messages that are no redirects. -/
def KeepsCourse (out : List ClientMessage) : Prop :=
  ∀ m ∈ out, (∀ lib fetch, Fetch.after lib fetch m = fetch) ∧ ∀ owes, m.owesAfter owes = owes

theorem fetched_append {lib : NetLibrary} {original : ResourceRequest}
    (trace out : List ClientMessage) :
    fetched lib original (trace ++ out) = out.foldl (Fetch.after lib)
    (fetched lib original trace) := List.foldl_append

section Keeping
variable {out : List ClientMessage} {m : ClientMessage}

theorem KeepsCourse.nil : KeepsCourse [] := fun _ hm => absurd hm List.not_mem_nil

theorem KeepsCourse.cons (hm : (∀ lib fetch, Fetch.after lib fetch m = fetch) ∧
      ∀ owes, m.owesAfter owes = owes)
    (hout : KeepsCourse out) : KeepsCourse (m :: out) := by
  intro m' hm'
  rcases List.mem_cons.1 hm' with rfl | hm'
  · exact hm
  · exact hout m' hm'

theorem keepsCourse_of_closing (hout : Closing out) : KeepsCourse out := by
  rcases hout with rfl | ⟨status, rfl⟩
  · exact .nil
  · exact .cons ⟨fun _ _ => rfl, fun _ => rfl⟩ .nil

theorem KeepsCourse.foldl_after (hout : KeepsCourse out) (lib : NetLibrary) (fetch : Fetch) :
    out.foldl (Fetch.after lib) fetch = fetch := by
  induction out with
  | nil => rfl
  | cons m out ih =>
    rw [List.foldl_cons, (hout m (List.mem_cons_self ..)).1 lib fetch]
    exact ih fun m' hm' => hout m' (List.mem_cons_of_mem m hm')

theorem KeepsCourse.fetched (hout : KeepsCourse out) {lib : NetLibrary} {original : ResourceRequest}
    {trace : List ClientMessage} :
    fetched lib original (trace ++ out) = fetched lib original trace := by
  rw [fetched_append, hout.foldl_after]

theorem KeepsCourse.owesFollow (hout : KeepsCourse out) {trace : List ClientMessage} :
    owesFollow (trace ++ out) = owesFollow trace := by
  rw [DumbBrowser.owesFollow, List.foldl_append, ← DumbBrowser.owesFollow]
  generalize DumbBrowser.owesFollow trace = owes
  induction out with
  | nil => rfl
  | cons m out ih =>
    rw [List.foldl_cons, (hout m (List.mem_cons_self ..)).2 owes]
    exact ih fun m' hm' => hout m' (List.mem_cons_of_mem m hm')

end Keeping

/-! ## Routes -/

structure Route where
  alive : Bool
  fetch : Fetch
  pending : Option FollowRedirectParams
  /-- The loader at the other end of the pipes. -/
  loader : Option NetLoader
  awaits : Bool
  continuations : List Continuation
  trace : List ClientMessage

def Slot.boundLoader (s : Slot) : Option NetLoader :=
  if s.object.targetLoader then s.loader else none

def Slot.route (s : Slot) : Route where
  alive := s.alive
  fetch := s.object.request.fetch
  pending := s.object.pendingFollowRedirectParams
  loader := s.boundLoader
  awaits := s.loaderAwaits
  continuations := s.continuations.map (·.continuation)
  trace := s.trace

/-- The client is redirected. -/
def Route.redirected (lib : NetLibrary) (r : Route) (source : Option Nat)
    (redirectInfo : RedirectInfo) (head : Option URLResponseHead) : Route :=
  { r with
    fetch := r.fetch.redirect lib redirectInfo
    trace := r.trace ++ [.onReceiveRedirect source redirectInfo head] }

section Redirected
variable {lib : NetLibrary} {r : Route} {source : Option Nat} {redirectInfo : RedirectInfo}
  {head : Option URLResponseHead}

@[simp] theorem Route.redirected_loader :
    (r.redirected lib source redirectInfo head).loader = r.loader := rfl

@[simp] theorem Route.redirected_continuations :
    (r.redirected lib source redirectInfo head).continuations = r.continuations := rfl

@[simp] theorem Route.redirected_owes :
    owesFollow (r.redirected lib source redirectInfo head).trace = true := by
  simp [redirected, ClientMessage.owesAfter]

end Redirected

/-- The ends of a run that starts, or restarts, the request. A loader takes it only if it is
`cleared`. -/
inductive StartRoute (lib : NetLibrary) (cleared : Prop) (r : Route) : Route → Prop
  | gone {out} : KeepsCourse out →
      StartRoute lib cleared r { r with alive := false, trace := r.trace ++ out }
  | mocked {out} : KeepsCourse out → StartRoute lib cleared r { r with trace := r.trace ++ out }
  | suspended {k} : k = .continueToBeforeSendHeaders ∨ k = .continueToSendHeaders ∧ cleared →
      StartRoute lib cleared r { r with continuations := r.continuations ++ [k] }
  | redirected {source redirectInfo head} :
      StartRoute lib cleared r ({ r with loader := none }.redirected lib source redirectInfo head)
  | created {l} : cleared → r.loader = none → l.request.fetch = r.fetch → l.messages = [] →
      StartRoute lib cleared r { r with pending := none, loader := some l, awaits := false }
  | forwarded {l params sent} : cleared → r.loader = some l → r.pending = some params →
      sent.newUrl = params.newUrl →
      StartRoute lib cleared r { r with
        pending := none, loader := some (l.send (.followRedirect sent)), awaits := false }
  | idle {awaits} : r.loader = none ∨ r.pending = none ∧ awaits = r.awaits →
      StartRoute lib cleared r { r with pending := none, awaits := awaits }

theorem StartRoute.mono {lib : NetLibrary} {cleared cleared' : Prop} {r r' : Route}
    (h : StartRoute lib cleared r r') (hcleared : cleared → cleared') :
    StartRoute lib cleared' r r' := by
  cases h with
  | gone hout => exact .gone hout
  | mocked hout => exact .mocked hout
  | suspended hk => exact .suspended (hk.imp_right fun hk => ⟨hk.1, hcleared hk.2⟩)
  | redirected => exact .redirected
  | created hc hnone hfetch hempty => exact .created (hcleared hc) hnone hfetch hempty
  | forwarded hc hl hparams hsent => exact .forwarded (hcleared hc) hl hparams hsent
  | idle hidle => exact .idle hidle

theorem StartRoute.same {lib : NetLibrary} {cleared : Prop} {r : Route}
    (hpending : r.pending = none) :
    StartRoute lib cleared r r := by
  obtain ⟨alive, fetch, pending, loader, awaits, continuations, trace⟩ := r
  obtain rfl : pending = none := hpending
  exact .idle (Or.inr ⟨rfl, rfl⟩)

/-- The ends of a run that delivers the stored head. -/
inductive DeliverRoute (lib : NetLibrary) (k : Continuation) (r : Route) : Route → Prop
  | gone {out} : KeepsCourse out →
      DeliverRoute lib k r { r with alive := false, trace := r.trace ++ out }
  | response {out} : k = .continueToResponseStarted → KeepsCourse out →
      DeliverRoute lib k r { r with trace := r.trace ++ out }
  | redirect {source redirectInfo head} : k = .continueToBeforeRedirect redirectInfo →
      DeliverRoute lib k r (r.redirected lib source redirectInfo head)
  | dropped {source redirectInfo head} :
      DeliverRoute lib k r ({ r with loader := none }.redirected lib source redirectInfo head)

/-- The ends of a run that has stored a head, and of one that resumes it. -/
inductive HeadersRoute (lib : NetLibrary) (k : Continuation) (r : Route) : Route → Prop
  | suspended : HeadersRoute lib k r { r with continuations := r.continuations ++ [k] }
  | delivered {r'} : DeliverRoute lib k r r' → HeadersRoute lib k r r'

/-! ## What the hook before the request lets pass -/

/-- The hook has neither redirected nor blocked the request. -/
def InProgressRequest.Cleared (r : InProgressRequest) : Prop :=
  r.redirectUrl.isEmpty = true ∧ ∀ ctx ∈ r.ctx, ctx.blockedBy = .notBlocked

instance (r : InProgressRequest) : Decidable r.Cleared := inferInstanceAs (Decidable (_ ∧ _))

/-- The hook passes a request for the URL at once. -/
def Hooks.Passes {Ω : Type} (hooks : Hooks Ω) (url : GURL) : Prop :=
  ∃ ω ctx, ctx.requestUrl = url ∧ (hooks.onBeforeURLRequest ω ctx).result = .ok ∧
    ((hooks.onBeforeURLRequest ω ctx).writes.redirectUrl {}).isEmpty = true ∧
    ((hooks.onBeforeURLRequest ω ctx).writes.ctx ctx).blockedBy = .notBlocked

/-- The request once a suspended hook has written. -/
def Slot.resumed (s : Slot) (suspended : Suspended) (writes : HookWrites) : InProgressRequest :=
  s.object.write ((if suspended.ctxSerial = s.ctxSerial then writes
    else { writes with ctx := id }).restrict
    suspended.continuation.hookPoint)

/-- The suspended hook ends, and lets the request pass. -/
def Slot.ClearedBy {Ω : Type} (hooks : Hooks Ω) (s : Slot) (suspended : Suspended)
    (env : Env Ω) : Prop :=
  (hooks.resume env.hook suspended.continuation).1 = OK ∧
    (s.resumed suspended (hooks.resume env.hook suspended.continuation).2).Cleared

instance {Ω : Type} (hooks : Hooks Ω) (s : Slot) (suspended : Suspended) (env : Env Ω) :
    Decidable (s.ClearedBy hooks suspended env) :=
  inferInstanceAs (Decidable (_ ∧ _))

/-! ## The events -/

/-- The ends of a run of a continuation. -/
inductive ContinuationRoute (lib : NetLibrary) (cleared : Prop) (k : Continuation)
    (r r' : Route) : Prop
  | start : k.hookPoint ≠ .headersReceived →
      StartRoute lib (k = .continueToBeforeSendHeaders → cleared) r r' →
      ContinuationRoute lib cleared k r r'
  | deliver : k.hookPoint = .headersReceived → DeliverRoute lib k r r' →
      ContinuationRoute lib cleared k r r'

/-- The client has followed a redirect, which a loader may have to be told. -/
def Slot.followed (s : Slot) (params : FollowRedirectParams) : Route :=
  { s.route with
    fetch := s.route.fetch.follow params
    pending := if s.object.targetLoader then some params else s.route.pending
    trace := s.route.trace ++ [.followRedirect params] }

/-- The event is a redirect. -/
def RequestEvent.redirects {Ω : Type} : RequestEvent Ω → Bool
  | followRedirect .. | onReceiveRedirect .. => true
  | setPriority .. | pauseReadingBodyFromNet | resumeReadingBodyFromNet | clientDisconnect
      | onReceiveEarlyHints |
    onReceiveResponse .. | onUploadProgress .. | onReceiveCachedMetadata _
      | onTransferSizeUpdated _ |
    onStartLoadingResponseBody | onComplete _ | resumeHook .. | onWrite .. => false

/-- How an event changes the route of a request that is alive. -/
inductive RouteStep {Ω : Type} (lib : NetLibrary) (hooks : Hooks Ω) (s : Slot) :
    RequestEvent Ω → Route → Prop
  | followRedirect {params env r'} :
      StartRoute lib (hooks.Passes (s.route.fetch.follow params).url) (s.followed params) r' →
      RouteStep lib hooks s (.followRedirect params env) r'
  | onReceiveResponse {head env r'} : HeadersRoute lib .continueToResponseStarted s.route r' →
      RouteStep lib hooks s (.onReceiveResponse head env) r'
  | onReceiveRedirect {redirectInfo head env r'} :
      HeadersRoute lib (.continueToBeforeRedirect redirectInfo) { s.route with awaits := true } r' →
      RouteStep lib hooks s (.onReceiveRedirect redirectInfo head env) r'
  | resumeHook {place env suspended r'} : s.continuations[place]? = some suspended →
      ContinuationRoute lib (s.ClearedBy hooks suspended env) suspended.continuation
        { s.route with continuations := s.route.continuations.eraseIdx place } r' →
      RouteStep lib hooks s (.resumeHook place env) r'
  /-- Only messages have been sent that are no redirects. -/
  | passed {e out m} : e.redirects = false → KeepsCourse out →
      (∀ m' ∈ m, LoaderMessage.params m' = none) →
      RouteStep lib hooks s e { s.route with
        loader := s.route.loader.map fun l => { l with messages := l.messages ++ m }, trace :=
          s.route.trace ++ out }
  | gone {e out} : e.redirects = false → KeepsCourse out →
      RouteStep lib hooks s e { s.route with alive := false, trace := s.route.trace ++ out }

/-! ## Starting a request -/

variable {Ω : Type} {lib : NetLibrary} {hooks : Hooks Ω} {p : Ptr} {f f₁ : Frame} {cleared : Prop}

/-- A call at the end of a method. -/
theorem start_tail {cleared' : Prop} {m : Method Unit}
    (hm : wp m Fault.Benign (fun _ f' => StartRoute lib cleared' f₁.slot.route f'.slot.route) f₁)
    (hroute : f₁.slot.route = f.slot.route) (hcleared : cleared' → cleared) :
    wp m Fault.Benign (fun _ f' => StartRoute lib cleared f.slot.route f'.slot.route) f₁ := by
  refine wp_post hm fun _ f' hf' => ?_
  rw [← hroute]
  exact hf'.mono hcleared

/-- A hook has been suspended. -/
theorem suspended_route {E : Route → Prop} {s : Slot} {k : Continuation} {n : Nat}
    (hE : E { s.route with continuations := s.route.continuations ++ [k] }) :
    E { s.route with continuations := (s.continuations ++ [Suspended.mk k n]).map Suspended.continuation } := by
  rw [List.map_append]
  exact hE

/-- A stored head goes to the client as a redirect. -/
theorem deliverRedirect_route (ha : f.slot.alive = true) (redirectInfo : RedirectInfo) :
    wp (deliverRedirect lib redirectInfo) Fault.Benign
      (fun _ f' => ∃ source head, f'.slot.route = f.slot.route.redirected lib source
          redirectInfo head) f := by
  simp (disch := exact ha) only [deliverRedirect, wp_bind, runs_resumeIfBound,
    runs_theCtx, runs_setThis,
    runs_takeResponse, runs_toClient]
  intro ctx _
  exact ⟨_, _, rfl⟩

section Specs
variable (h : f.Ready p)
include h

/-- The request is removed, and only its last message is sent. -/
theorem onRequestError_route (status : URLLoaderCompletionStatus) :
    wp (onRequestError p status) Fault.Benign (fun _ f' => ∃ out, KeepsCourse out ∧
      f'.slot.route = { f.slot.route with alive := false, trace := f.slot.route.trace ++ out }) f := by
  simp only [onRequestError, wp_bind, runs_this h.alive, wp_ite, runs_toClient h.alive]
  refine ⟨fun _ => removeThis_spec ?_ fun g _ => ?_, fun _ => removeThis_spec h fun g _ => ?_⟩
  · exact h.congr rfl rfl
  · exact ⟨[.onComplete status], keepsCourse_of_closing (Or.inr ⟨status, rfl⟩), rfl⟩
  · refine ⟨[], .nil, ?_⟩
    rw [List.append_nil]
    rfl

theorem error_route {status : URLLoaderCompletionStatus} {E : Route → Prop}
    (hE : ∀ out, KeepsCourse out →
    E { f.slot.route with alive := false, trace := f.slot.route.trace ++ out }) :
    wp (onRequestError p status) Fault.Benign (fun _ f' => E f'.slot.route) f := by
  refine wp_post (onRequestError_route h status) ?_
  rintro _ f' ⟨out, hout, hroute⟩
  exact hroute ▸ hE out hout

theorem ifError_route {errorCode : Int} {m : Method Unit} {E : Route → Prop}
    (hE : ∀ out, KeepsCourse out →
      E { f.slot.route with alive := false, trace := f.slot.route.trace ++ out })
    (hok : wp m Fault.Benign (fun _ f' => E f'.slot.route) f) :
    wp (if errorCode ≠ OK then onRequestError p { errorCode } else m) Fault.Benign
    (fun _ f' => E f'.slot.route) f := by
  rw [wp_ite]
  exact ⟨fun _ => error_route h hE, fun _ => hok⟩

/-- A loader is created for the request as it is, unless there is one. -/
theorem continueToStartRequest_route : wp (continueToStartRequest p OK) Fault.Benign (fun _ f' =>
    f'.slot.route = f.slot.route ∨ f.slot.object.targetLoader = false ∧
      ∃ l, l.request.fetch = f.slot.route.fetch ∧ l.messages = [] ∧
        f'.slot.route = { f.slot.route with loader := some l, awaits := false }) f := by
  simp (disch := first | exact h.alive | exact h.factoryAlive) only [continueToStartRequest,
    startRequest, recordStart,
    wp_ite, ne_eq, not_true, false_implies, true_and, not_false_eq_true,
      true_implies, wp_bind, wp_get,
    runs_resumeIfBound, runs_this, runs_theFactory, runs_setThis, wp_modify, wp_pure]
  refine ⟨fun hcreate => Or.inr ?_, fun _ => Or.inl rfl⟩
  have hunbound : f.slot.object.targetLoader = false := by
    rw [Bool.and_eq_true, Bool.not_eq_true'] at hcreate
    exact hcreate.1
  exact ⟨hunbound, _, rfl, rfl, rfl⟩

omit h in
theorem boundLoader_of_unbound {s : Slot} (hs : s.object.targetLoader = false) :
    s.route.loader = none := by
  simp [Slot.route, Slot.boundLoader, hs]

theorem continueToSendHeaders_route (errorCode : Int) :
    wp (continueToSendHeaders p errorCode) Fault.Benign
    (fun _ f' => StartRoute lib True f.slot.route f'.slot.route) f := by
  refine ifError_route h (fun out => StartRoute.gone) ?_
  simp only [forwardFollowRedirect, wp_bind, runs_theCtx h.alive, runs_this h.alive]
  intro ctx _
  rcases hparams : f.slot.object.pendingFollowRedirectParams with _ | params
  · -- nothing to forward
    have hpending : f.slot.route.pending = none := hparams
    simp (disch := exact h.alive) only [wp_pure, runs_resumeIfBound]
    refine wp_post (continueToStartRequest_route ?_) ?_
    · exact h.congr rfl rfl
    rintro _ f' (hsame | ⟨hunbound, l, hfetch, hempty, hcreated⟩)
    · rw [hsame]
      exact .same hpending
    · have hnew : StartRoute lib True f.slot.route _ :=
        .created trivial (boundLoader_of_unbound hunbound) hfetch hempty
      rw [hcreated]
      rwa [← hpending] at hnew
  simp (disch := exact h.alive) only [noteNotReached, wp_bind, wp_modify, wp_ite,
    runs_toLoader, runs_setThis,
    runs_resumeIfBound]
  refine ⟨fun hbound => ?_, fun hunbound => ?_⟩
  · refine wp_post (continueToStartRequest_route ?_) ?_
    · exact h.congr rfl rfl
    rintro _ f' (hsame | ⟨hunbound, -⟩)
    · rw [hsame]
      rcases hl : f.slot.loader with _ | l
      · have hnone : f.slot.route.loader = none := by simp [Slot.route, Slot.boundLoader, hl]
        have hidle : StartRoute lib True f.slot.route { f.slot.route with
            pending := none, awaits := false } :=
          .idle (Or.inl hnone)
        simpa [Slot.route, Slot.boundLoader, hl, LoaderMessage.awaitsAfter, hparams] using hidle
      · have hsome : f.slot.route.loader = some l := by
          simp [Slot.route, Slot.boundLoader, hl, hbound]
        have hforwarded : StartRoute lib True f.slot.route { f.slot.route with
            pending := none
            loader := some (l.send (.followRedirect (f.slot.object.mergedParams ctx params)))
            awaits := false } := .forwarded trivial hsome hparams rfl
        simpa [Slot.route, Slot.boundLoader, hl, hbound, LoaderMessage.awaitsAfter,
          NetLoader.send] using hforwarded
    · have hbound' : f.slot.object.targetLoader = false := hunbound
      simp [hbound] at hbound'
  · have hnone : f.slot.route.loader = none := boundLoader_of_unbound (by simpa using hunbound)
    refine wp_post (continueToStartRequest_route ?_) ?_
    · exact h.congr rfl rfl
    rintro _ f' (hsame | ⟨-, l, hfetch, hempty, hcreated⟩)
    · rw [hsame]
      exact .idle (Or.inl hnone)
    · rw [hcreated]
      exact .created trivial hnone hfetch hempty

/-! ## Redirects of the proxy's own -/

theorem handleBeforeRequestRedirect_route : wp (handleBeforeRequestRedirect lib p) Fault.Benign
    (fun _ f' => StartRoute lib cleared f.slot.route f'.slot.route) f := by
  simp (disch := exact h.alive) only [handleBeforeRequestRedirect, resetPipes, wp_bind,
    runs_setThis, runs_this,
    runs_storeResponse, runs_setInternalRedirect, continueToBeforeRedirect,
      ne_eq, not_true, if_false]
  intro ctx _
  refine wp_post (deliverRedirect_route ?_ _) ?_
  · exact h.alive
  rintro _ f' ⟨source, head, hredirected⟩
  rw [hredirected]
  exact .redirected

theorem mockResponse_route (dataPipe : Bool) : wp (mockResponse p dataPipe) Fault.Benign
    (fun _ f' => StartRoute lib cleared f.slot.route f'.slot.route) f := by
  have hmock : KeepsCourse [.onReceiveResponse none (some {}), .onStartLoadingResponseBody] :=
    .cons ⟨fun _ _ => rfl, fun _ => rfl⟩ (.cons ⟨fun _ _ => rfl, fun _ => rfl⟩ .nil)
  simp (disch := exact h.alive) only [mockResponse, wp_bind, runs_toClient, wp_ite, wp_modify]
  refine ⟨fun _ => error_route (E := StartRoute lib cleared f.slot.route) ?_ fun out hout => ?_, fun _ => ?_⟩
  · exact h.congr rfl rfl
  · have hsent : StartRoute lib cleared f.slot.route _ :=
      .gone (.cons (m := .onReceiveResponse none (some {})) ⟨fun _ _ => rfl, fun _ => rfl⟩ hout)
    simpa [Slot.route, Slot.boundLoader] using hsent
  · have hsent : StartRoute lib cleared f.slot.route _ := .mocked hmock
    simpa [Slot.route, Slot.boundLoader] using hsent

/-! ## The hooks before the start -/

theorem beforeStartTransaction_route (env : Env Ω) :
    wp (beforeStartTransaction hooks p env) Fault.Benign
    (fun _ f' => StartRoute lib True f.slot.route f'.slot.route) f := by
  simp (disch := first | exact h.alive | exact h.factoryAlive) only [beforeStartTransaction,
    wp_bind, runs_this, wp_ite,
    runs_makeCtx, runs_theFactory, runs_setThis]
  refine ⟨fun _ => ?_, fun _ => continueToSendHeaders_route h OK⟩
  generalize hooks.onBeforeStartTransaction env.hook _ _ = outcome
  rcases outcome.result
  · refine start_tail (continueToSendHeaders_route ?_ OK) rfl id
    exact h.congr rfl rfl
  · refine error_route (E := StartRoute lib True f.slot.route) ?_ fun out => .gone
    exact h.congr rfl rfl
  · simp (disch := exact h.alive) only [wp_bind, runs_suspend, runs_pauseIfBound]
    exact suspended_route (.suspended (Or.inr ⟨rfl, trivial⟩))

theorem continueToBeforeSendHeaders_route (env : Env Ω) (errorCode : Int) :
    wp (continueToBeforeSendHeaders lib hooks p env errorCode) Fault.Benign
      (fun _ f' => StartRoute lib (errorCode = OK ∧ f.slot.object.Cleared) f.slot.route
          f'.slot.route) f := by
  rw [continueToBeforeSendHeaders, wp_ite]
  refine ⟨fun _ => error_route h fun out => StartRoute.gone, fun hok => ?_⟩
  simp (disch := exact h.alive) only [wp_bind, runs_this, wp_ite, runs_theCtx,
    runs_setThis, runs_resumeIfBound]
  refine ⟨fun _ => handleBeforeRequestRedirect_route h, fun hempty ctx hctx =>
    ⟨fun _ => ⟨fun _ => ?_, fun _ => ?_⟩,
    fun hblocked => ?_⟩⟩
  · refine error_route (E := StartRoute lib _ f.slot.route) ?_ fun out => .gone
    exact h.congr rfl rfl
  · refine start_tail (mockResponse_route ?_ env.dataPipe) rfl id
    exact h.congr rfl rfl
  · refine start_tail (beforeStartTransaction_route ?_ env) rfl fun _ =>
      ⟨not_not.1 hok, ?_, fun ctx' hctx' => ?_⟩
    · exact h.congr rfl rfl
    · simpa using hempty
    · obtain rfl : ctx = ctx' := by simpa [hctx] using hctx'
      exact not_not.1 hblocked

theorem restartInternal_route (env : Env Ω) : wp (restartInternal lib hooks p env) Fault.Benign
    (fun _ f' => StartRoute lib (hooks.Passes f.slot.object.request.url) f.slot.route f'.slot.route) f := by
  simp (disch := first | exact h.alive | exact h.factoryAlive) only [restartInternal,
    wp_bind, runs_setThis,
    runs_makeCtx, runs_theFactory]
  generalize hctx : DumbRequestInfo.makeCTX _ _ _ _ _ = ctx
  have hurl : ctx.requestUrl = f.slot.object.request.url := by
    rw [← hctx]
    rfl
  rcases hresult : (hooks.onBeforeURLRequest env.hook ctx).result
  · refine start_tail (continueToBeforeSendHeaders_route ?_ env OK) rfl ?_
    · exact h.congr rfl rfl
    rintro ⟨-, hempty, hblocked⟩
    exact ⟨env.hook, ctx, hurl, hresult, hempty, hblocked _ rfl⟩
  · refine error_route (E := StartRoute lib (hooks.Passes f.slot.object.request.url)
      f.slot.route) ?_ fun out => .gone
    exact h.congr rfl rfl
  · simp (disch := exact h.alive) only [wp_bind, runs_suspend, runs_pauseIfBound]
    exact suspended_route (.suspended (Or.inl rfl))

/-! ## Delivering a response -/

theorem deliverResponse_route : wp (deliverResponse lib p) Fault.Benign
    (fun _ f' => DeliverRoute lib .continueToResponseStarted f.slot.route f'.slot.route) f := by
  have hresponse (source : Option Nat) (head : Option URLResponseHead) : KeepsCourse
      [.onReceiveResponse source head] :=
    .cons ⟨fun _ _ => rfl, fun _ => rfl⟩ .nil
  simp only [deliverResponse, wp_bind, runs_this h.alive]
  rcases f.slot.object.overrideHeaders with _ | headers
  · simp (disch := exact h.alive) only [Option.bind_none, wp_bind,
      runs_resumeClientReceiver, runs_takeResponse,
      runs_toClient]
    exact fun _ => .response rfl (hresponse _ _)
  simp (disch := exact h.alive) only [wp_bind, wp_ite, wp_throw, runs_setThis, Option.bind_some]
  refine ⟨fun _ => trivial, fun _ => ?_⟩
  rcases lib.isRedirect headers with _ | redirectLocation
  · simp (disch := exact h.alive) only [Option.map_none, wp_bind,
      runs_resumeClientReceiver, runs_takeResponse,
      runs_toClient]
    exact fun _ => .response rfl (hresponse _ _)
  · simp (disch := exact h.alive) only [Option.map_some, wp_bind, resetPipes, runs_setThis,
      runs_setInternalRedirect,
      continueToBeforeRedirect, ne_eq, not_true, if_false]
    intro ctx _
    refine wp_post (deliverRedirect_route ?_ _) ?_
    · exact h.alive
    rintro _ f' ⟨source, head, hredirected⟩
    rw [hredirected]
    exact .dropped

theorem deliver_route (env : Env Ω) (errorCode : Int) {k : Continuation}
    (hk : k.hookPoint = .headersReceived) :
    wp (runContinuation lib hooks p env errorCode k) Fault.Benign
      (fun _ f' => DeliverRoute lib k f.slot.route f'.slot.route) f := by
  cases k with
  | continueToBeforeSendHeaders => cases hk
  | continueToSendHeaders => cases hk
  | continueToResponseStarted =>
    exact ifError_route h (fun out => DeliverRoute.gone) (deliverResponse_route h)
  | continueToBeforeRedirect redirectInfo =>
    refine ifError_route h (fun out => DeliverRoute.gone)
      (wp_post (deliverRedirect_route h.alive redirectInfo) ?_)
    rintro _ f' ⟨source, head, hredirected⟩
    rw [hredirected]
    exact .redirect rfl

theorem handleResponseOrRedirectHeaders_route (env : Env Ω) {k : Continuation}
    (hk : k.hookPoint = .headersReceived) :
    wp (handleResponseOrRedirectHeaders lib hooks p k env) Fault.Benign
      (fun _ f' => HeadersRoute lib k f.slot.route f'.slot.route) f := by
  have hdeliver (g : Frame) (hg : g.Ready p) (hroute : g.slot.route = f.slot.route) :
      wp (runContinuation lib hooks p env OK k) Fault.Benign (fun _ f' =>
        HeadersRoute lib k f.slot.route f'.slot.route) g :=
    wp_post (deliver_route hg env OK hk) fun _ _ hf' => .delivered (hroute ▸ hf')
  simp (disch := first | exact h.alive | exact h.factoryAlive)
    only [handleResponseOrRedirectHeaders, wp_bind, runs_this,
    wp_ite, runs_makeCtx, runs_theFactory, runs_setThis]
  refine ⟨fun _ => ?_, fun _ => hdeliver _ (h.congr rfl rfl) rfl⟩
  generalize hooks.onHeadersReceived env.hook _ _ = outcome
  rcases outcome.result
  · exact hdeliver _ (h.congr rfl rfl) rfl
  · refine error_route (E := HeadersRoute lib k f.slot.route) ?_ fun out hout =>
      .delivered (.gone hout)
    exact h.congr rfl rfl
  · simp (disch := exact h.alive) only [wp_bind, runs_suspend, runs_pauseClientReceiver]
    exact fun _ => suspended_route .suspended

/-! ## Every event -/

theorem runContinuation_route (env : Env Ω) (errorCode : Int) {k : Continuation}
    (hcleared : errorCode = OK ∧ f.slot.object.Cleared → cleared) :
    wp (runContinuation lib hooks p env errorCode k) Fault.Benign
      (fun _ f' => ContinuationRoute lib cleared k f.slot.route f'.slot.route) f := by
  have hdeliver (hk : k.hookPoint = .headersReceived) : wp
    (runContinuation lib hooks p env errorCode k) Fault.Benign
      (fun _ f' => ContinuationRoute lib cleared k f.slot.route f'.slot.route) f :=
    wp_post (deliver_route h env errorCode hk) fun _ _ hf' => .deliver hk hf'
  cases k with
  | continueToBeforeSendHeaders =>
    refine wp_post (continueToBeforeSendHeaders_route h env errorCode) fun _ _ hf' => .start nofun ?_
    exact hf'.mono fun hok _ => hcleared hok
  | continueToSendHeaders =>
    have hsend : wp (continueToSendHeaders p errorCode) _ (fun _ f' =>
        StartRoute lib _ f.slot.route f'.slot.route) f :=
      continueToSendHeaders_route h errorCode
    exact wp_post hsend fun _ _ hf' => .start nofun (hf'.mono fun _ => nofun)
  | continueToResponseStarted => exact hdeliver rfl
  | continueToBeforeRedirect _ => exact hdeliver rfl

theorem onComplete_route (status : URLLoaderCompletionStatus) :
    wp (onComplete p status) Fault.Benign (fun _ f' => ∃ out, KeepsCourse out ∧
      f'.slot.route = { f.slot.route with alive := false, trace := f.slot.route.trace ++ out }) f := by
  rw [onComplete, wp_ite]
  refine ⟨fun _ => onRequestError_route h status, fun _ => ?_⟩
  simp (disch := exact h.alive) only [wp_bind, runs_toClient]
  refine removeThis_spec ?_ fun g _ => ?_
  · exact h.congr rfl rfl
  · exact ⟨[.onComplete status], keepsCourse_of_closing (Or.inr ⟨status, rfl⟩), rfl⟩

omit h in
theorem same_route {e : RequestEvent Ω} (he : e.redirects = false) :
    RouteStep lib hooks f.slot e f.slot.route := by
  have hstep : RouteStep lib hooks f.slot e _ := .passed he .nil fun m (hm : m ∈ []) =>
    absurd hm List.not_mem_nil
  simpa using hstep

theorem toClient_route {e : RequestEvent Ω} {m : ClientMessage} (he : e.redirects = false)
    (hm : KeepsCourse [m]) :
    wp (toClient m) Fault.Benign (fun _ f' => RouteStep lib hooks f.slot e f'.slot.route) f := by
  rw [runs_toClient h.alive]
  have hstep : RouteStep lib hooks f.slot e _ := .passed he hm fun m' (hm' : m' ∈ []) =>
    absurd hm' List.not_mem_nil
  simpa [Slot.route, Slot.boundLoader] using hstep

theorem forwardToLoader_route {e : RequestEvent Ω} {m : LoaderMessage} (he : e.redirects = false)
    (hm : m.params = none) (hawaits : m.awaitsAfter f.slot.loaderAwaits = f.slot.loaderAwaits) :
    wp (forwardToLoader m) Fault.Benign
    (fun _ f' => RouteStep lib hooks f.slot e f'.slot.route) f := by
  simp (disch := exact h.alive) only [forwardToLoader, wp_bind, runs_this, wp_ite,
    runs_toLoader, wp_pure]
  refine ⟨fun hbound => ?_, fun hunbound => ?_⟩
  · have hstep : RouteStep lib hooks f.slot e _ := .passed he .nil fun m' (hm' : m' ∈ [m]) =>
      List.mem_singleton.1 hm' ▸ hm
    simpa [Slot.route, Slot.boundLoader, hbound, hawaits] using hstep
  · exact same_route he

/-- **How an event changes where a request goes.** -/
theorem RequestEvent.run_route (e : RequestEvent Ω) (hen : e.isEnabled f.slot = true) :
    wp (e.run lib hooks p) Fault.Benign
    (fun _ f' => RouteStep lib hooks f.slot e f'.slot.route) f := by
  cases e with
  | followRedirect params env =>
    simp (disch := exact h.alive) only [run, wp_bind, runs_toClient,
      DumbBrowser.followRedirect, runs_setThis]
    refine wp_post (restartInternal_route ?_ env) fun _ f' hf' => .followRedirect hf'
    exact h.congr rfl rfl
  | setPriority a b => exact forwardToLoader_route h rfl rfl rfl
  | pauseReadingBodyFromNet => exact forwardToLoader_route h rfl rfl rfl
  | resumeReadingBodyFromNet => exact forwardToLoader_route h rfl rfl rfl
  | clientDisconnect => exact error_route h fun out => RouteStep.gone rfl
  | onReceiveEarlyHints => exact same_route rfl
  | onReceiveResponse head env =>
    simp (disch := exact h.alive) only [run, DumbBrowser.onReceiveResponse, wp_bind,
      runs_storeResponse, runs_setInternalRedirect]
    intro ctx _
    refine wp_post (handleResponseOrRedirectHeaders_route ?_ env rfl) fun _ _ hf' =>
      .onReceiveResponse hf'
    exact h.congr rfl rfl
  | onReceiveRedirect redirectInfo head env =>
    simp (disch := exact h.alive) only [run, wp_modify, DumbBrowser.onReceiveRedirect,
      wp_bind, runs_storeResponse,
      runs_setInternalRedirect]
    intro ctx _
    refine wp_post (handleResponseOrRedirectHeaders_route ?_ env rfl) fun _ _ hf' =>
      .onReceiveRedirect hf'
    exact h.congr rfl rfl
  | onUploadProgress a b => exact toClient_route h rfl (.cons ⟨fun _ _ => rfl, fun _ => rfl⟩ .nil)
  | onReceiveCachedMetadata data =>
    exact toClient_route h rfl (.cons ⟨fun _ _ => rfl, fun _ => rfl⟩ .nil)
  | onTransferSizeUpdated diff =>
    exact toClient_route h rfl (.cons ⟨fun _ _ => rfl, fun _ => rfl⟩ .nil)
  | onStartLoadingResponseBody =>
    exact toClient_route h rfl (.cons ⟨fun _ _ => rfl, fun _ => rfl⟩ .nil)
  | onComplete status =>
    refine wp_post (onComplete_route h status) ?_
    rintro _ f' ⟨out, hout, hroute⟩
    exact hroute ▸ .gone rfl hout
  | resumeHook place env =>
    simp only [isEnabled, decide_eq_true_eq] at hen
    have hplace := List.getElem?_eq_getElem hen
    simp (disch := exact h.alive) only [run, wp_bind, wp_get, hplace, wp_modify,
      DumbBrowser.resumeHook, wp_ite, wp_pure,
      runs_setThis]
    refine ⟨fun hdead => ?_, fun _ => ?_⟩
    · simp [h.alive] at hdead
    have hcleared (hok : f.slot.ClearedBy hooks f.slot.continuations[place] env) :
      f.slot.ClearedBy hooks f.slot.continuations[place] env := hok
    have hrest : f.slot.route.continuations.eraseIdx place =
        (f.slot.continuations.eraseIdx place).map Suspended.continuation := List.eraseIdx_map ..
    refine wp_post (runContinuation_route ?_ env _ hcleared) fun _ f' hf' => .resumeHook hplace ?_
    · exact h.congr rfl rfl
    · rw [hrest]
      exact hf'
  | onWrite place result =>
    simp only [isEnabled, decide_eq_true_eq] at hen
    simp only [run, wp_bind, wp_get, List.getElem?_eq_getElem hen, wp_modify,
      DumbBrowser.onWrite, wp_ite, wp_pure]
    refine ⟨fun _ => ?_, fun _ => ?_⟩
    · exact same_route (f := f) rfl
    · refine wp_post (onComplete_route ?_ _) ?_
      · exact h.congr rfl rfl
      rintro _ f' ⟨out, hout, hroute⟩
      exact hroute ▸ .gone rfl hout

end Specs

/-- A callback for a request that is gone changes no more than the suspended hooks. -/
theorem RequestEvent.run_dead_route (hdead : f.slot.alive = false) (e : RequestEvent Ω)
    (hen : e.isEnabled f.slot = true) :
    wp (e.run lib hooks p) Fault.Benign
      (fun _ f' => e.redirects = false ∧
          ∃ ks, f'.slot.route = { f.slot.route with continuations := ks }) f := by
  cases e with
  | resumeHook place env =>
    simp only [isEnabled, decide_eq_true_eq] at hen
    simp only [run, wp_bind, wp_get, List.getElem?_eq_getElem hen, wp_modify,
      DumbBrowser.resumeHook, wp_ite]
    refine ⟨fun _ => ⟨rfl, _, rfl⟩, fun halive => ?_⟩
    simp [hdead] at halive
  | onWrite place result =>
    simp only [isEnabled, decide_eq_true_eq] at hen
    simp only [run, wp_bind, wp_get, List.getElem?_eq_getElem hen, wp_modify,
      DumbBrowser.onWrite, wp_ite]
    refine ⟨fun _ => ⟨rfl, _, rfl⟩, fun halive => ?_⟩
    simp [hdead] at halive
  | _ => simp [isEnabled, hdead] at hen

end DumbBrowser
