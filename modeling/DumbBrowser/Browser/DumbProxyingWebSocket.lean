import DumbBrowser.Browser.ProxyState

/-!
# The proxy of a WebSocket handshake

`DumbProxyingWebSocket`, method by method. The network calls it as its header client, and it asks a
downstream header client in turn, if there is one.

* A slot holds the object and what is not a field of the program: the hooks that are suspended, the
  answers of the downstream client that are awaited, the calls of the network, and what has passed
  in both directions.
-/

namespace DumbBrowser

open NetError

structure IPEndPoint where
  address : List UInt8 := []
  port : UInt16 := 0
deriving DecidableEq, Repr

def ERR_FAILED : Int := -2

/-- `kEmptyDataURI`, `data:text/plain,`. -/
def emptyDataURI : GURL := { scheme := "data", path := "text/plain," }

/-- The text of response headers: the constructor of `HttpResponseHeaders`, and `raw_headers`. -/
structure HeaderText where
  parse : String → HttpResponseHeaders
  rawHeaders : HttpResponseHeaders → String

/-! ## Objects -/

/-- The method that a suspended hook calls at its end; a hook for response headers has been called
for one call of the network. -/
inductive WebSocketContinuation where
  | continueToStartRequest
  | onBeforeRequestComplete
  | onBeforeSendHeadersComplete
  | onHeadersReceivedComplete (call : Nat)
deriving DecidableEq, Repr

def WebSocketContinuation.hookPoint : WebSocketContinuation → HookPoint
  | continueToStartRequest | onBeforeRequestComplete => .beforeURLRequest
  | onBeforeSendHeadersComplete => .beforeStartTransaction
  | onHeadersReceivedComplete _ => .headersReceived

structure DumbProxyingWebSocket where
  ctx : Option DumbRequestInfo := none
  request : ResourceRequest
  /-- `response_.headers`. -/
  response : Option HttpResponseHeaders := none
  overrideHeaders : Option HttpResponseHeaders := none
  remoteEndpoint : IPEndPoint := {}
  redirectUrl : GURL := {}
  isDone : Bool := false
  requestId : UInt64 := 0
  processId : Int := 0
  frameTreeNodeId : Int := 0
  /-- `factory_` has not been moved out. -/
  factory : Bool := true
  proxyUrl : GURL := {}
  forwardingHandshakeClient : Bool := true
  receiverAsHandshakeClient : Receiver := .unbound
  receiverAsAuthHandler : Bool := false
  receiverAsHeaderClient : Receiver := .unbound
  proxyAuthHandler : Bool := false
  proxyTrustedHeaderClient : Bool := false
  /-- The call of the network that the callback belongs to. -/
  onHeadersReceivedCallback : Option Nat := none
  onBeforeSendHeadersCallback : Option Nat := none
  /-- `on_disconnect_` has not been moved out. -/
  onDisconnect : Bool := true
deriving DecidableEq, Repr

/-- An answer of a header client: to `OnBeforeSendHeaders`, or to `OnHeadersReceived`. -/
inductive HeaderReply where
  | onBeforeSendHeaders (headers : Option HttpRequestHeaders)
  | onHeadersReceived (headers : Option String) (preserveFragmentOnRedirectUrl : Option GURL)
deriving DecidableEq, Repr

inductive HeaderHook where
  | onBeforeSendHeaders | onHeadersReceived
deriving DecidableEq, Repr

def HeaderReply.hook : HeaderReply → HeaderHook
  | onBeforeSendHeaders _ => .onBeforeSendHeaders
  | onHeadersReceived .. => .onHeadersReceived

/-- The answer to a call of the network: of the downstream client, or the one that the callback is
run with. -/
structure HeaderAnswer where
  call : Option Nat
  errorCode : Int
  reply : HeaderReply
deriving DecidableEq, Repr

/-- A call of the downstream client's `OnHeadersReceived`, and `override_headers_` at that time. -/
structure DownstreamHeaders where
  call : Nat
  headers : String
  remoteEndpoint : IPEndPoint
  overrideHeaders : Option HttpResponseHeaders
deriving DecidableEq, Repr

/-- What the proxy passes on to the two clients of the handshake. -/
inductive HandshakeMessage where
  | onOpeningHandshakeStarted
  | onConnectionEstablished (remoteEndpoint : IPEndPoint)
  | onAuthRequired
  | resetWithReason (customReason : Nat) (description : String)
deriving DecidableEq, Repr

/-- The arguments of `factory_`. -/
structure WebSocketRequest where
  url : GURL
  additionalHeaders : List (String × String)
  trustedHeaderClient : Bool
deriving DecidableEq, Repr

structure SuspendedWebSocket where
  continuation : WebSocketContinuation
  ctxSerial : Nat
deriving DecidableEq, Repr

structure WebSocketSlot where
  alive : Bool := true
  object : DumbProxyingWebSocket
  started : Bool := false
  ctxSerial : Nat := 0
  continuations : List SuspendedWebSocket := []
  /-- The answers of the downstream client that are awaited, by the calls of the network. -/
  awaitedBeforeSend : List (Option Nat) := []
  awaitedHeaders : List Nat := []
  /-- The network's calls of `OnBeforeSendHeaders` and of `OnHeadersReceived`. -/
  beforeSendCalls : List HttpRequestHeaders := []
  headersCalls : List (String × IPEndPoint) := []
  /-- The downstream client's `OnBeforeSendHeaders` and `OnHeadersReceived`. -/
  downstreamBeforeSend : List (Option Nat × HttpRequestHeaders) := []
  downstreamHeaders : List DownstreamHeaders := []
  answers : List HeaderAnswer := []
  /-- The callbacks of the network that have been run. -/
  upstream : List HeaderAnswer := []
  handshake : List HandshakeMessage := []
  requests : List WebSocketRequest := []
deriving DecidableEq, Repr

abbrev WebSocketMethod := Exec Fault WebSocketSlot

/-! ## Access to members -/

def socket : WebSocketMethod DumbProxyingWebSocket := do
  let s ← get
  if s.alive then pure s.object else throw .useAfterFree

def setSocket (g : DumbProxyingWebSocket → DumbProxyingWebSocket) : WebSocketMethod Unit := do
  let _ ← socket
  modify fun s => { s with object := g s.object }

def DumbProxyingWebSocket.write (o : DumbProxyingWebSocket) (w : HookWrites) :
    DumbProxyingWebSocket :=
  { o with
    ctx := o.ctx.map w.ctx
    redirectUrl := w.redirectUrl o.redirectUrl
    overrideHeaders := w.overrideHeaders o.overrideHeaders
    request := { o.request with headers := w.headers o.request.headers } }

/-- `ctx_ = MakeCTX(..., ctx_)`. -/
def makeSocketCtx : WebSocketMethod DumbRequestInfo := do
  let o ← socket
  let ctx := DumbRequestInfo.makeCTX o.request o.processId o.frameTreeNodeId o.requestId o.ctx
  modify fun s => { s with ctxSerial := s.ctxSerial + 1 }
  setSocket fun o => { o with ctx := some ctx }
  pure ctx

/-- The hook has taken the continuation, bound to a weak pointer. -/
def suspendSocket (continuation : WebSocketContinuation) : WebSocketMethod Unit := do
  let _ ← socket
  modify fun s => { s with continuations := s.continuations ++ [⟨continuation, s.ctxSerial⟩] }

def DumbProxyingWebSocket.proxyHasExtraHeaders (o : DumbProxyingWebSocket) : Bool :=
  o.proxyTrustedHeaderClient

/-- `DCHECK`. -/
def dcheck (condition : Bool) : WebSocketMethod Unit :=
  if condition then pure () else throw .checkFailed

/-- The check of the methods that lead to the request: the downstream client comes in between, or
nothing is bound to the network yet. -/
def dcheckUnbound : WebSocketMethod Unit := do
  let o ← socket
  dcheck (o.proxyHasExtraHeaders || !o.receiverAsHandshakeClient.isBound)

/-- `OnError`; running `on_disconnect_` deletes the proxy. -/
def onSocketError (_errorCode : Int) : WebSocketMethod Unit := do
  setSocket fun o => { o with isDone := true }
  let o ← socket
  if o.onDisconnect then modify fun s =>
    { s with alive := false, object := { s.object with onDisconnect := false } }
  else throw .nullCallback

/-- `Pause` and `Resume` of a receiver. -/
def setPaused (paused : Bool) (receiver : Receiver) : WebSocketMethod Receiver :=
  if receiver.isBound then pure (.bound paused) else throw .receiverNotBound

/-- `PauseIncomingMethodCallProcessing` and `ResumeIncomingMethodCallProcessing`. -/
def setIncomingMethodCallProcessing (paused : Bool) : WebSocketMethod Unit := do
  let o ← socket
  let handshake ← setPaused paused o.receiverAsHandshakeClient
  setSocket fun o => { o with receiverAsHandshakeClient := handshake }
  if o.proxyHasExtraHeaders then do
    let header ← setPaused paused o.receiverAsHeaderClient
    setSocket fun o => { o with receiverAsHeaderClient := header }
  else pure ()

def pauseIncomingMethodCallProcessing : WebSocketMethod Unit := setIncomingMethodCallProcessing true

def resumeIncomingMethodCallProcessing : WebSocketMethod Unit :=
  setIncomingMethodCallProcessing false

section Methods
variable {Ω : Type} (text : HeaderText) (hooks : Hooks Ω)

/-! ## Starting the request -/

def continueToStartRequestSocket (errorCode : Int) : WebSocketMethod Unit := do
  if errorCode ≠ OK then onSocketError errorCode
  else do
    let o ← socket
    if !o.factory then throw .nullCallback
    else do
      setSocket fun o => { o with
        factory := false
        receiverAsHeaderClient := if o.proxyHasExtraHeaders then .bound false
          else o.receiverAsHeaderClient
        receiverAsHandshakeClient := .bound false
        receiverAsAuthHandler := true }
      modify fun s => { s with requests := s.requests ++ [{
        url := o.request.url
        additionalHeaders := if o.proxyHasExtraHeaders then [] else o.request.headers
        trustedHeaderClient := o.proxyHasExtraHeaders }] }

/-- `std::move(on_before_send_headers_callback_).Run`, if there is one. -/
def runBeforeSendHeadersCallback (errorCode : Int) : WebSocketMethod Unit := do
  let o ← socket
  match o.onBeforeSendHeadersCallback with
  | none => pure ()
  | some call => do
    setSocket fun o => { o with onBeforeSendHeadersCallback := none }
    modify fun s => { s with
      upstream := s.upstream ++ [⟨some call, errorCode,
        .onBeforeSendHeaders (some o.request.headers)⟩] }

def onBeforeSendHeadersComplete (errorCode : Int) : WebSocketMethod Unit := do
  dcheckUnbound
  if errorCode ≠ OK then onSocketError errorCode
  else do
    runBeforeSendHeadersCallback errorCode
    let o ← socket
    if !o.proxyHasExtraHeaders then continueToStartRequestSocket errorCode else pure ()

def onBeforeSendHeadersCompleteFromProxy (ω : Ω) (errorCode : Int)
    (headers : Option HttpRequestHeaders) :
    WebSocketMethod Unit := do
  dcheckUnbound
  if errorCode ≠ OK then onSocketError errorCode
  else do
    setSocket fun o => { o with request := { o.request with headers := headers.getD [] } }
    let ctx ← makeSocketCtx
    let o ← socket
    let outcome := hooks.onBeforeStartTransaction ω ctx o.request.headers
    setSocket (·.write (outcome.writes.restrict .beforeStartTransaction))
    match outcome.result with
    | .blockedByClient => onSocketError ERR_BLOCKED_BY_CLIENT
    | .ioPending => suspendSocket .onBeforeSendHeadersComplete
    | .ok => onBeforeSendHeadersComplete OK

/-- `OnBeforeRequestComplete`, for a call of the network, or for the request that `Start` makes. -/
def onBeforeRequestComplete (ω : Ω) (call : Option Nat) (errorCode : Int) :
    WebSocketMethod Unit := do
  dcheckUnbound
  let o ← socket
  dcheck o.request.url.schemeIsWSOrWSS
  if errorCode ≠ OK then onSocketError errorCode
  else do
    let o ← socket
    if o.proxyHasExtraHeaders then
      modify fun s => { s with
        downstreamBeforeSend := s.downstreamBeforeSend ++ [(call, o.request.headers)]
        awaitedBeforeSend := s.awaitedBeforeSend ++ [call] }
    else onBeforeSendHeadersCompleteFromProxy hooks ω OK (some o.request.headers)

/-- `Start`; the id is the next of the generator. -/
def startSocket (ω : Ω) (id : UInt64) : WebSocketMethod Unit := do
  setSocket fun o => { o with requestId := id }
  let ctx ← makeSocketCtx
  let o ← socket
  let continuation : WebSocketContinuation :=
    if o.proxyHasExtraHeaders then .continueToStartRequest else .onBeforeRequestComplete
  let outcome := hooks.onBeforeURLRequest ω ctx
  setSocket (·.write (outcome.writes.restrict .beforeURLRequest))
  let o ← socket
  if outcome.result = .blockedByClient ∨ o.redirectUrl = emptyDataURI
    then onSocketError ERR_BLOCKED_BY_CLIENT
  else if outcome.result = .ioPending then suspendSocket continuation
  else if o.proxyHasExtraHeaders then continueToStartRequestSocket OK
  else onBeforeRequestComplete hooks ω none OK

def webSocketFactoryRun (ω : Ω) (id : UInt64) (url : GURL)
    (additionalHeaders : List (String × String)) (trustedHeaderClient : Bool) :
    WebSocketMethod Unit := do
  let o ← socket
  dcheck (!o.forwardingHandshakeClient)
  setSocket fun o => { o with
    proxyUrl := url
    forwardingHandshakeClient := true
    proxyAuthHandler := true
    proxyTrustedHeaderClient := trustedHeaderClient || o.proxyTrustedHeaderClient }
  let o ← socket
  if !o.proxyHasExtraHeaders then
    setSocket fun o => { o with request := { o.request with
      headers := HttpRequestHeaders.mergeFrom o.request.headers additionalHeaders } }
  else pure ()
  startSocket hooks ω id

/-! ## Messages of the network -/

/-- A message through `forwarding_handshake_client_` or `proxy_auth_handler_`. -/
def passOnHandshake (bound : DumbProxyingWebSocket → Bool) (m : HandshakeMessage) :
    WebSocketMethod Unit := do
  let o ← socket
  if bound o then modify fun s => { s with handshake := s.handshake ++ [m] }
    else throw .nullDereference

def onConnectionEstablished (remoteEndpoint : IPEndPoint) : WebSocketMethod Unit := do
  setSocket fun o => { o with remoteEndpoint }
  passOnHandshake (·.forwardingHandshakeClient) (.onConnectionEstablished remoteEndpoint)
  onSocketError ERR_FAILED

/-- `OnMojoConnectionError`; `ResetWithReason` does nothing to a client that is not bound. -/
def onMojoConnectionError (customReason : Nat) (description : String) : WebSocketMethod Unit := do
  let o ← socket
  if o.forwardingHandshakeClient then
    passOnHandshake (·.forwardingHandshakeClient) (.resetWithReason customReason description)
  else pure ()
  onSocketError ERR_FAILED

def onBeforeSendHeaders (ω : Ω) (headers : HttpRequestHeaders) : WebSocketMethod Unit := do
  let s ← get
  let call := s.beforeSendCalls.length
  modify fun s => { s with beforeSendCalls := s.beforeSendCalls ++ [headers] }
  let o ← socket
  dcheck o.proxyHasExtraHeaders
  setSocket fun o => { o with
    request := { o.request with headers }
    onBeforeSendHeadersCallback := some call }
  onBeforeRequestComplete hooks ω (some call) OK

/-- `OnHeadersReceivedCompleteFromProxy`; the program uses neither the error code nor the URL. -/
def onHeadersReceivedCompleteFromProxy (_errorCode : Int) (headers : Option String)
    (_preserveFragmentOnRedirectUrl : Option GURL) : WebSocketMethod Unit := do
  let o ← socket
  match o.onHeadersReceivedCallback with
  | none => pure ()
  | some call => do
    setSocket fun o => { o with onHeadersReceivedCallback := none }
    modify fun s => { s with upstream := s.upstream ++ [⟨some call, OK, .onHeadersReceived headers none⟩] }
  match o.overrideHeaders with
  | none => pure ()
  | some overrideHeaders =>
    setSocket fun o => { o with response := some overrideHeaders, overrideHeaders := none }
  resumeIncomingMethodCallProcessing

def onHeadersReceivedComplete (call : Nat) (errorCode : Int) : WebSocketMethod Unit := do
  if errorCode ≠ OK then onSocketError errorCode
  else do
    let o ← socket
    let headers := (o.overrideHeaders.map text.rawHeaders).getD ""
    if o.proxyHasExtraHeaders then
      modify fun s => { s with
        downstreamHeaders := s.downstreamHeaders ++
          [⟨call, headers, o.remoteEndpoint, o.overrideHeaders⟩]
        awaitedHeaders := s.awaitedHeaders ++ [call] }
    else onHeadersReceivedCompleteFromProxy errorCode (some headers) none

def continueToHeadersReceived (ω : Ω) (call : Nat) : WebSocketMethod Unit := do
  let ctx ← makeSocketCtx
  let o ← socket
  let outcome := hooks.onHeadersReceived ω ctx o.response
  setSocket (·.write (outcome.writes.restrict .headersReceived))
  let o ← socket
  if outcome.result = .blockedByClient ∨ o.redirectUrl = emptyDataURI
    then onSocketError ERR_BLOCKED_BY_CLIENT
  else if outcome.result = .ioPending then do
    suspendSocket (.onHeadersReceivedComplete call)
    pauseIncomingMethodCallProcessing
  else do
    pauseIncomingMethodCallProcessing
    onHeadersReceivedComplete text call OK

def onHeadersReceivedSocket (ω : Ω) (headers : String) (remoteEndpoint : IPEndPoint) :
    WebSocketMethod Unit := do
  let s ← get
  let call := s.headersCalls.length
  modify fun s => { s with headersCalls := s.headersCalls ++ [(headers, remoteEndpoint)] }
  let o ← socket
  dcheck o.proxyHasExtraHeaders
  setSocket fun o => { o with
    onHeadersReceivedCallback := some call
    response := some (text.parse headers) }
  continueToHeadersReceived text hooks ω call

/-! ## Answers -/

/-- The downstream client answers `OnBeforeSendHeaders`. -/
def answerBeforeSend (ω : Ω) (call : Option Nat) (errorCode : Int)
    (headers : Option HttpRequestHeaders) :
    WebSocketMethod Unit := do
  modify fun s => { s with answers := s.answers ++ [⟨call, errorCode, .onBeforeSendHeaders headers⟩] }
  onBeforeSendHeadersCompleteFromProxy hooks ω errorCode headers

/-- The downstream client answers `OnHeadersReceived`. -/
def answerHeaders (call : Nat) (errorCode : Int) (headers : Option String) (url : Option GURL) :
    WebSocketMethod Unit := do
  modify fun s => { s with answers := s.answers ++ [⟨some call, errorCode, .onHeadersReceived headers url⟩] }
  onHeadersReceivedCompleteFromProxy errorCode headers url

/-- The method that a continuation is bound to. -/
def runSocketContinuation (ω : Ω) (errorCode : Int) : WebSocketContinuation → WebSocketMethod Unit
  | .continueToStartRequest => continueToStartRequestSocket errorCode
  | .onBeforeRequestComplete => onBeforeRequestComplete hooks ω none errorCode
  | .onBeforeSendHeadersComplete => onBeforeSendHeadersComplete errorCode
  | .onHeadersReceivedComplete call => onHeadersReceivedComplete text call errorCode

/-- A suspended hook ends, with any last writes and any error code. -/
def resumeSocketHook (ω : Ω) (suspended : SuspendedWebSocket) (errorCode : Int)
    (writes : HookWrites) :
    WebSocketMethod Unit := do
  let s ← get
  if !s.alive then pure ()
  else do
    let writes := if suspended.ctxSerial = s.ctxSerial then writes else { writes with ctx := id }
    setSocket (·.write (writes.restrict suspended.continuation.hookPoint))
    runSocketContinuation text hooks ω errorCode suspended.continuation

end Methods

end DumbBrowser
