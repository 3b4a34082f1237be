import DumbBrowser.Browser.ProxyState

/-!
# The methods of a proxied request

`InProgressRequest`, method by method, with the two methods of the factory that it calls. A method
is a computation on the factory and the slot of its request; every access to a member checks that
the object has not been deleted.
-/

namespace DumbBrowser

open NetError

/-! ## Access to members -/

/-- The members of the request. -/
def this : Method InProgressRequest := do
  let f ← get
  if f.slot.alive then pure f.slot.object else throw .useAfterFree

def setThis (g : InProgressRequest → InProgressRequest) : Method Unit := do
  let _ ← this
  modify fun f => { f with slot := { f.slot with object := g f.slot.object } }

/-- The members of `factory_`. -/
def theFactory : Method ProxyFactory := do
  let _ ← this
  let f ← get
  if f.factory.alive then pure f.factory else throw .useAfterFree

/-- `ctx_`, where it is dereferenced. -/
def theCtx : Method DumbRequestInfo := do
  let r ← this
  match r.ctx with
  | some ctx => pure ctx
  | none => throw .nullDereference

/-- A message through `target_client_`. -/
def toClient (m : ClientMessage) : Method Unit := do
  let _ ← this
  modify fun f => { f with slot := { f.slot with trace := f.slot.trace ++ [m] } }

/-- A message through `target_loader_`. -/
def toLoader (m : LoaderMessage) : Method Unit := do
  let _ ← this
  modify fun f => { f with slot := { f.slot with
    loader := f.slot.loader.map fun l => { l with messages := l.messages ++ [m] }
    loaderAwaits := m.awaitsAfter f.slot.loaderAwaits } }

def pauseClientReceiver : Method Unit := do
  let r ← this
  if r.proxiedClientReceiver.isBound then setThis fun r =>
    { r with proxiedClientReceiver := .bound true }
  else throw .receiverNotBound

def resumeClientReceiver : Method Unit := do
  let r ← this
  if r.proxiedClientReceiver.isBound then setThis fun r =>
    { r with proxiedClientReceiver := .bound false }
  else throw .receiverNotBound

def pauseIfBound : Method Unit := do
  let r ← this
  if r.proxiedClientReceiver.isBound then pauseClientReceiver else pure ()

def resumeIfBound : Method Unit := do
  let r ← this
  if r.proxiedClientReceiver.isBound then resumeClientReceiver else pure ()

/-- Both pipes to the network loader are closed. -/
def resetPipes : Method Unit :=
  setThis fun r => { r with proxiedClientReceiver := .unbound, targetLoader := false }

def storeResponse (head : URLResponseHead) (kind : HeadKind) : Method Unit := do
  let r ← this
  modify fun f => { f with slot := { f.slot with stored := f.slot.stored ++ [⟨head, kind, r.request⟩] } }
  let f ← get
  setThis fun r => { r with currentResponse := some (f.slot.stored.length - 1, head) }

/-- `std::move(current_response_)`. -/
def takeResponse : Method (Option (Nat × URLResponseHead)) := do
  let r ← this
  setThis fun r => { r with currentResponse := none }
  pure r.currentResponse

/-- `ctx_ = MakeCTX(..., ctx_)`. -/
def makeCtx : Method DumbRequestInfo := do
  let r ← this
  let ctx := DumbRequestInfo.makeCTX r.request r.renderProcessId r.frameTreeNodeId r.requestId r.ctx
  modify fun f => { f with slot := { f.slot with ctxSerial := f.slot.ctxSerial + 1 } }
  setThis fun r => { r with ctx := some ctx }
  pure ctx

def InProgressRequest.write (r : InProgressRequest) (w : HookWrites) : InProgressRequest :=
  { r with
    ctx := r.ctx.map w.ctx
    redirectUrl := w.redirectUrl r.redirectUrl
    overrideHeaders := w.overrideHeaders r.overrideHeaders
    request := { r.request with headers := w.headers r.request.headers } }

/-- The hook has taken the continuation, bound to a weak pointer. -/
def suspend (continuation : Continuation) : Method Unit := do
  let _ ← this
  modify fun f => { f with slot := { f.slot with
    continuations := f.slot.continuations ++ [⟨continuation, f.slot.ctxSerial⟩] } }

/-! ## Removal -/

/-- `disconnect_callback_.Run(this)` and `ResourceContextData::RemoveProxy`. -/
def ProxyFactory.runDisconnectCallback (f : ProxyFactory) : Except Fault ProxyFactory :=
  if !f.disconnectCallback then .error .nullCallback
  else if !f.inProxies then .error .proxyNotFound
  else .ok { f with
    disconnectCallback := false
    disconnectRuns := f.disconnectRuns + 1
    inProxies := false
    alive := false }

def ProxyFactory.maybeRemoveProxy (f : ProxyFactory) : Except Fault ProxyFactory :=
  if !f.alive then .error .useAfterFree
  else if f.targetFactory || !f.requests.isEmpty then .ok f
  else f.runDisconnectCallback

/-- `RemoveRequest`; erasing the pointer deletes the request. -/
def ProxyFactory.removeRequest (f : ProxyFactory) (p : Ptr) : Except Fault ProxyFactory :=
  if !f.alive then .error .useAfterFree
  else if !f.requests.contains p then .error .requestNotFound
  else { f with requests := f.requests.erase p }.maybeRemoveProxy

section Methods
variable {Ω : Type} (lib : NetLibrary) (hooks : Hooks Ω) (p : Ptr)

/-- `factory_->RemoveRequest(this)`. -/
def removeThis : Method Unit := do
  let factory ← theFactory
  match factory.removeRequest p with
  | .error fault => throw fault
  | .ok factory => modify fun f => { factory := factory, slot := { f.slot with alive := false } }

def onRequestError (status : URLLoaderCompletionStatus) : Method Unit := do
  let r ← this
  if !r.requestCompleted then toClient (.onComplete status) else pure ()
  removeThis p

/-! ## Starting a request -/

/-- The last lines of `ContinueToStartRequest`, once there is no error. -/
def startRequest : Method Unit := do
  let r ← this
  let factory ← theFactory
  if !r.targetLoader && factory.targetFactory then do
    setThis fun r => { r with targetLoader := true, proxiedClientReceiver := .bound false }
    modify fun f => { f with slot := { f.slot with
      loader := some ⟨r.request, r.networkServiceRequestId, r.options, r.trafficAnnotationTag, []⟩
      loaderAwaits := false } }
  else pure ()

/-- The program does not keep these records. -/
def recordStart (loaderBound factoryBound : Bool) : Method Unit := do
  modify fun f => { f with slot := { f.slot with
    starts := f.slot.starts ++ [⟨loaderBound, factoryBound,
      f.slot.alive && f.slot.object.targetLoader ||
        !f.slot.alive && f.slot.trace.any (·.isComplete)⟩] } }

def continueToStartRequest (errorCode : Int) : Method Unit := do
  if errorCode ≠ OK then onRequestError p { errorCode }
  else do
    let before ← get
    resumeIfBound
    startRequest
    recordStart before.slot.object.targetLoader before.factory.targetFactory

/-- The parameters of the client's `FollowRedirect` with the headers that the hooks have edited. -/
def InProgressRequest.mergedParams (r : InProgressRequest) (ctx : DumbRequestInfo)
    (params : FollowRedirectParams) :
    FollowRedirectParams :=
  { params with
    removedHeaders := params.removedHeaders ++ ctx.removedHeaders
    modifiedHeaders := ctx.setHeaders.foldl (fun hs name =>
      match HttpRequestHeaders.getHeader r.request.headers name with
      | some value => HttpRequestHeaders.setHeader hs name value
      | none => hs) params.modifiedHeaders }

/-- A header that the hooks have set is not there. -/
def InProgressRequest.lacksSetHeader (r : InProgressRequest) (ctx : DumbRequestInfo) : Bool :=
  ctx.setHeaders.any fun name => (HttpRequestHeaders.getHeader r.request.headers name).isNone

/-- `NOTREACHED`, after which the code goes on. The program does not keep the record. -/
def noteNotReached (reached : Bool) : Method Unit :=
  modify fun f => { f with slot := { f.slot with notReached := f.slot.notReached || reached } }

def forwardFollowRedirect : Method Unit := do
  let ctx ← theCtx
  let r ← this
  match r.pendingFollowRedirectParams with
  | none => pure ()
  | some params => do
    noteNotReached (r.lacksSetHeader ctx)
    if r.targetLoader then toLoader (.followRedirect (r.mergedParams ctx params)) else pure ()
    setThis fun r => { r with pendingFollowRedirectParams := none }

def continueToSendHeaders (errorCode : Int) : Method Unit := do
  if errorCode ≠ OK then onRequestError p { errorCode }
  else do
    forwardFollowRedirect
    resumeIfBound
    continueToStartRequest p OK

/-- `ContinueToBeforeRedirect` once there is no error. -/
def deliverRedirect (redirectInfo : RedirectInfo) : Method Unit := do
  resumeIfBound
  let ctx ← theCtx
  setThis fun r => { r with
    ctx := some { ctx with redirectSource := if ctx.internalRedirect then {} else r.request.url } }
  let response ← takeResponse
  toClient (.onReceiveRedirect (response.map (·.1)) redirectInfo (response.map (·.2)))
  setThis fun r => { r with
    request := { r.request with
      url := redirectInfo.newUrl
      method := redirectInfo.newMethod
      siteForCookies := redirectInfo.newSiteForCookies
      referrer := redirectInfo.newReferrer
      referrerPolicy := redirectInfo.newReferrerPolicy
      trustedParams := r.request.trustedParams.map fun info =>
        lib.createForRedirect info (Origin.create redirectInfo.newUrl)
      requestBody := if redirectInfo.newMethod = "GET" then none else r.request.requestBody }
    requestCompleted := true }

def continueToBeforeRedirect (redirectInfo : RedirectInfo) (errorCode : Int) : Method Unit := do
  if errorCode ≠ OK then onRequestError p { errorCode } else deliverRedirect lib redirectInfo

def internalRedirectStatusCode : Int := 307

def internalRedirectHeaders (redirectUrl : GURL) : String :=
  "HTTP/1.1 307 Internal Redirect\nLocation: " ++ redirectUrl.spec ++
    "\nNon-Authoritative-Reason: WebRequest API\n\n"

/-- The initiator becomes opaque on a redirect to another origin than both its own and the
request's. -/
def InProgressRequest.taintedInitiator (r : InProgressRequest) : Option Origin :=
  r.request.requestInitiator.map fun initiator =>
    if !(Origin.create r.redirectUrl).isSameOriginWith (Origin.create r.request.url) &&
        !initiator.isSameOriginWith (Origin.create r.request.url) then .opaqueOrigin 0
    else initiator

def setInternalRedirect (internalRedirect : Bool) : Method Unit := do
  let ctx ← theCtx
  setThis fun r => { r with ctx := some { ctx with internalRedirect } }

def handleBeforeRequestRedirect : Method Unit := do
  resetPipes
  let r ← this
  let redirectInfo := createRedirectInfo lib r.request r.redirectUrl internalRedirectStatusCode none
  setThis fun r => { r with request := { r.request with requestInitiator := r.taintedInitiator } }
  storeResponse { headers := some (lib.assembleRawHeaders (internalRedirectHeaders r.redirectUrl)) }
    .internalRedirect
  setInternalRedirect true
  continueToBeforeRedirect lib p redirectInfo OK

/-- A hook has asked for a mocked response. -/
def mockResponse (dataPipe : Bool) : Method Unit := do
  toClient (.onReceiveResponse none (some {}))
  if !dataPipe then onRequestError p { errorCode := ERR_INSUFFICIENT_RESOURCES }
  else do
    toClient .onStartLoadingResponseBody
    modify fun f => { f with slot := { f.slot with writes := f.slot.writes ++ [""] } }

/-- The hook before the headers are sent, which only http(s) requests have. -/
def beforeStartTransaction (env : Env Ω) : Method Unit := do
  let r ← this
  if r.request.url.schemeIsHTTPOrHTTPS then do
    let ctx ← makeCtx
    let _ ← theFactory
    let outcome := hooks.onBeforeStartTransaction env.hook ctx r.request.headers
    setThis (·.write (outcome.writes.restrict .beforeStartTransaction))
    match outcome.result with
    | .blockedByClient => onRequestError p { errorCode := ERR_BLOCKED_BY_CLIENT }
    | .ioPending => do
      suspend .continueToSendHeaders
      pauseIfBound
    | .ok => continueToSendHeaders p OK
  else continueToSendHeaders p OK

def continueToBeforeSendHeaders (env : Env Ω) (errorCode : Int) : Method Unit := do
  if errorCode ≠ OK then onRequestError p { errorCode }
  else do
    let r ← this
    if !r.redirectUrl.isEmpty then handleBeforeRequestRedirect lib p
    else do
      let ctx ← theCtx
      setThis fun r => { r with request := { r.request with referrer := ctx.newReferrer.getD r.request.referrer } }
      resumeIfBound
      if ctx.blockedBy ≠ .notBlocked then
        if !ctx.shouldMockRequest then onRequestError p { errorCode := ERR_BLOCKED_BY_CLIENT }
        else mockResponse p env.dataPipe
      else beforeStartTransaction hooks p env

def restartInternal (env : Env Ω) : Method Unit := do
  setThis fun r => { r with requestCompleted := false, redirectUrl := {} }
  let ctx ← makeCtx
  let _ ← theFactory
  let outcome := hooks.onBeforeURLRequest env.hook ctx
  setThis (·.write (outcome.writes.restrict .beforeURLRequest))
  match outcome.result with
  | .blockedByClient => onRequestError p { errorCode := ERR_BLOCKED_BY_CLIENT }
  | .ioPending => do
    suspend .continueToBeforeSendHeaders
    pauseIfBound
  | .ok => continueToBeforeSendHeaders lib hooks p env OK

/-- `Restart`; `UpdateRequestInfo` does nothing. -/
def restart (env : Env Ω) : Method Unit := restartInternal lib hooks p env

/-! ## Messages from the client -/

/-- The request takes over what the client changes on a redirect. -/
def InProgressRequest.followRedirect (r : InProgressRequest) (params : FollowRedirectParams) :
    InProgressRequest :=
  { r with
    request := { r.request with
      url := params.newUrl.getD r.request.url
      headers := (params.removedHeaders.foldl HttpRequestHeaders.removeHeader
        r.request.headers).mergeFrom
        params.modifiedHeaders }
    pendingFollowRedirectParams := if r.targetLoader then some params
      else r.pendingFollowRedirectParams }

def followRedirect (params : FollowRedirectParams) (env : Env Ω) : Method Unit := do
  setThis (·.followRedirect params)
  restartInternal lib hooks p env

/-- `SetPriority`, `PauseReadingBodyFromNet` and `ResumeReadingBodyFromNet` pass a message on. -/
def forwardToLoader (m : LoaderMessage) : Method Unit := do
  let r ← this
  if r.targetLoader then toLoader m else pure ()

def setPriority (priority intraPriorityValue : Int) : Method Unit :=
  forwardToLoader (.setPriority priority intraPriorityValue)

def pauseReadingBodyFromNet : Method Unit := forwardToLoader .pauseReadingBodyFromNet

def resumeReadingBodyFromNet : Method Unit := forwardToLoader .resumeReadingBodyFromNet

/-! ## Messages from the network -/

/-- `ContinueToResponseStarted` once there is no error. -/
def deliverResponse : Method Unit := do
  let r ← this
  match r.overrideHeaders with
  | none => pure ()
  | some headers => do
    if r.currentResponse.isNone then throw .nullDereference else pure ()
    setThis fun r => { r with
      currentResponse := r.currentResponse.map fun (source, head) =>
        (source, { head with headers := some headers, parsedHeaders := some (headers, r.request.url) }) }
  match r.overrideHeaders.bind fun headers => (lib.isRedirect headers).map (headers, ·) with
  | some (headers, redirectLocation) => do
    let redirectInfo := createRedirectInfo lib r.request (lib.parseUrl redirectLocation)
      headers.responseCode
      (lib.getReferrerPolicyHeader headers)
    resetPipes
    setInternalRedirect true
    continueToBeforeRedirect lib p redirectInfo OK
  | none => do
    resumeClientReceiver
    let response ← takeResponse
    toClient (.onReceiveResponse (response.map (·.1)) (response.map (·.2)))

def continueToResponseStarted (errorCode : Int) : Method Unit := do
  if errorCode ≠ OK then onRequestError p { errorCode } else deliverResponse lib p

/-- The method that a continuation is bound to. -/
def runContinuation (env : Env Ω) (errorCode : Int) : Continuation → Method Unit
  | .continueToBeforeSendHeaders => continueToBeforeSendHeaders lib hooks p env errorCode
  | .continueToSendHeaders => continueToSendHeaders p errorCode
  | .continueToResponseStarted => continueToResponseStarted lib p errorCode
  | .continueToBeforeRedirect redirectInfo => continueToBeforeRedirect lib p redirectInfo errorCode

def handleResponseOrRedirectHeaders (continuation : Continuation) (env : Env Ω) : Method Unit := do
  setThis fun r => { r with overrideHeaders := none, redirectUrl := {} }
  let r ← this
  if r.request.url.schemeIsHTTPOrHTTPS then do
    let ctx ← makeCtx
    let _ ← theFactory
    let outcome := hooks.onHeadersReceived env.hook ctx (r.currentResponse.bind (·.2.headers))
    setThis (·.write (outcome.writes.restrict .headersReceived))
    match outcome.result with
    | .blockedByClient => onRequestError p { errorCode := ERR_BLOCKED_BY_CLIENT }
    | .ioPending => do
      suspend continuation
      pauseClientReceiver
    | .ok => runContinuation lib hooks p env OK continuation
  else runContinuation lib hooks p env OK continuation

def onReceiveResponse (head : URLResponseHead) (env : Env Ω) : Method Unit := do
  storeResponse head .response
  setInternalRedirect false
  handleResponseOrRedirectHeaders lib hooks p .continueToResponseStarted env

def onReceiveRedirect (redirectInfo : RedirectInfo) (head : URLResponseHead)
    (env : Env Ω) : Method Unit := do
  storeResponse head .redirect
  setInternalRedirect false
  handleResponseOrRedirectHeaders lib hooks p (.continueToBeforeRedirect redirectInfo) env

def onComplete (status : URLLoaderCompletionStatus) : Method Unit := do
  if status.errorCode ≠ OK then onRequestError p status
  else do
    toClient (.onComplete status)
    removeThis p

/-! ## Callbacks with a weak pointer -/

/-- `OnWrite`, for a request that is alive or not. -/
def onWrite (data : String) (result : Bool) : Method Unit := do
  let f ← get
  if !result || !f.slot.alive then pure ()
  else
    onComplete p
      { errorCode := OK, encodedDataLength := data.utf8ByteSize, encodedBodyLength := data.utf8ByteSize
        decodedBodyLength := data.utf8ByteSize }

/-- A suspended hook ends: its last writes, of which those to an old context are lost, and the
continuation. -/
def resumeHook (suspended : Suspended) (env : Env Ω) : Method Unit := do
  let f ← get
  if !f.slot.alive then pure ()
  else do
    let (errorCode, writes) := hooks.resume env.hook suspended.continuation
    let writes := if suspended.ctxSerial = f.slot.ctxSerial then writes
      else { writes with ctx := id }
    setThis (·.write (writes.restrict suspended.continuation.hookPoint))
    runContinuation lib hooks p env errorCode suspended.continuation

end Methods

end DumbBrowser
