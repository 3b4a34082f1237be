import DumbBrowser.Lib.Exec
import DumbBrowser.Net.UrlContext

/-!
# The objects of the proxying loader factory

`DumbProxyingURLLoaderFactory`, its `InProgressRequest`s and their peers.

* A hook is any function of the outside world, the context and the headers; it answers at once, or
  it suspends the request and ends later.
* A slot holds a request object and what is not a field of the program: the network loader, the
  hooks that are suspended, the messages on the client's pipe, the heads that have been stored, and
  the returns of `ContinueToStartRequest`.
-/

namespace DumbBrowser

/-! ## Hooks -/

/-- Any other result is a failed `DCHECK`. -/
inductive HookResult where
  | ok | blockedByClient | ioPending
deriving DecidableEq, Repr

inductive HookPoint where
  | beforeURLRequest | beforeStartTransaction | headersReceived
deriving DecidableEq, Repr

/-- What a hook writes through its pointers. -/
structure HookWrites where
  ctx : DumbRequestInfo → DumbRequestInfo := id
  redirectUrl : GURL → GURL := id
  overrideHeaders : Option HttpResponseHeaders → Option HttpResponseHeaders := id
  headers : HttpRequestHeaders → HttpRequestHeaders := id

/-- The writes through the pointers that the hook is given: all have the context, the first
`redirect_url_`, the second the request's headers, the third `override_headers_` and
`redirect_url_`. -/
def HookWrites.restrict (w : HookWrites) : HookPoint → HookWrites
  | .beforeURLRequest => { ctx := w.ctx, redirectUrl := w.redirectUrl }
  | .beforeStartTransaction => { ctx := w.ctx, headers := w.headers }
  | .headersReceived =>
    { ctx := w.ctx, redirectUrl := w.redirectUrl, overrideHeaders := w.overrideHeaders }

structure HookOutcome where
  result : HookResult
  writes : HookWrites := {}

/-- The method that a suspended hook calls at its end. -/
inductive Continuation where
  | continueToBeforeSendHeaders
  | continueToSendHeaders
  | continueToResponseStarted
  | continueToBeforeRedirect (redirectInfo : RedirectInfo)
deriving DecidableEq, Repr

def Continuation.hookPoint : Continuation → HookPoint
  | continueToBeforeSendHeaders => .beforeURLRequest
  | continueToSendHeaders => .beforeStartTransaction
  | continueToResponseStarted | continueToBeforeRedirect _ => .headersReceived

/-- The request handler as the requests see it; `Ω` is what else its answers depend on. -/
structure Hooks (Ω : Type) where
  onBeforeURLRequest : Ω → DumbRequestInfo → HookOutcome
  onBeforeStartTransaction : Ω → DumbRequestInfo → HttpRequestHeaders → HookOutcome
  onHeadersReceived : Ω → DumbRequestInfo → Option HttpResponseHeaders → HookOutcome
  /-- The error code and the last writes of a suspended hook. -/
  resume : Ω → Continuation → Int × HookWrites

/-- What a call asks of the outside world: the hooks' answers, and whether a data pipe can be
created. -/
structure Env (Ω : Type) where
  hook : Ω
  dataPipe : Bool := true

/-! ## Objects -/

/-- An object's address; no two objects share one. -/
abbrev Ptr := Nat

inductive Receiver where
  | unbound
  | bound (paused : Bool)
deriving DecidableEq, Repr

def Receiver.isBound : Receiver → Bool
  | unbound => false
  | bound _ => true

structure InProgressRequest where
  ctx : Option DumbRequestInfo := none
  request : ResourceRequest
  requestId : UInt64
  networkServiceRequestId : Int := 0
  renderProcessId : Int := 0
  frameTreeNodeId : Int := 0
  options : Nat := 0
  trafficAnnotationTag : Nat := 0
  proxiedClientReceiver : Receiver := .unbound
  /-- `target_loader_` is bound. -/
  targetLoader : Bool := false
  /-- The head, and its place among the heads that have been stored. -/
  currentResponse : Option (Nat × URLResponseHead) := none
  overrideHeaders : Option HttpResponseHeaders := none
  redirectUrl : GURL := {}
  requestCompleted : Bool := false
  pendingFollowRedirectParams : Option FollowRedirectParams := none
deriving DecidableEq, Repr

/-- The messages on the client's pipe. All but `followRedirect` are sent to the client; a head that
has been stored is sent with its place, and one that has been moved away before is sent as null. -/
inductive ClientMessage where
  | followRedirect (params : FollowRedirectParams)
  | onReceiveResponse (source : Option Nat) (head : Option URLResponseHead)
  | onReceiveRedirect (source : Option Nat) (redirectInfo : RedirectInfo)
      (head : Option URLResponseHead)
  | onUploadProgress (currentPosition totalSize : Int)
  | onReceiveCachedMetadata (data : List UInt8)
  | onTransferSizeUpdated (transferSizeDiff : Int)
  | onStartLoadingResponseBody
  | onComplete (status : URLLoaderCompletionStatus)
deriving DecidableEq, Repr

def ClientMessage.isComplete : ClientMessage → Bool
  | onComplete _ => true
  | _ => false

inductive LoaderMessage where
  | followRedirect (params : FollowRedirectParams)
  | setPriority (priority intraPriorityValue : Int)
  | pauseReadingBodyFromNet
  | resumeReadingBodyFromNet
deriving DecidableEq, Repr

/-- Whether a loader still waits for `FollowRedirect` after the message. -/
def LoaderMessage.awaitsAfter (m : LoaderMessage) (awaits : Bool) : Bool :=
  match m with
  | followRedirect _ => false
  | _ => awaits

/-- The network loader of a request: what it was created with, and what it has been sent. -/
structure NetLoader where
  request : ResourceRequest
  networkServiceRequestId : Int
  options : Nat
  trafficAnnotationTag : Nat
  messages : List LoaderMessage := []
deriving DecidableEq, Repr

inductive HeadKind where
  | response | redirect | internalRedirect
deriving DecidableEq, Repr

/-- A head that `current_response_` has held, and the request at that time. -/
structure StoredHead where
  head : URLResponseHead
  kind : HeadKind
  request : ResourceRequest
deriving DecidableEq, Repr

/-- A return of `ContinueToStartRequest(net::OK)`. -/
structure StartRecord where
  loaderBound : Bool
  factoryBound : Bool
  /-- On return a loader is bound, or the client has its `OnComplete` and the request is gone. -/
  driven : Bool
deriving DecidableEq, Repr

structure Suspended where
  continuation : Continuation
  ctxSerial : Nat
deriving DecidableEq, Repr

structure Slot where
  alive : Bool := true
  object : InProgressRequest
  /-- How many contexts have been made for the object. -/
  ctxSerial : Nat := 0
  loader : Option NetLoader := none
  /-- The loader has sent a redirect and not been sent `FollowRedirect` since. -/
  loaderAwaits : Bool := false
  continuations : List Suspended := []
  /-- The mocked bodies that are still being written. -/
  writes : List String := []
  trace : List ClientMessage := []
  stored : List StoredHead := []
  starts : List StartRecord := []
  /-- The `NOTREACHED` of `ContinueToSendHeaders` has been reached. -/
  notReached : Bool := false
deriving DecidableEq, Repr

structure ProxyFactory where
  alive : Bool := true
  renderProcessId : Int := 0
  frameTreeNodeId : Int := 0
  proxyReceivers : List Nat := [0]
  nextReceiver : Nat := 1
  /-- `target_factory_` is bound. -/
  targetFactory : Bool := true
  requests : List Ptr := []
  nextPtr : Ptr := 0
  requestIdGenerator : UInt64 := 0
  /-- `disconnect_callback_` has not been moved out. -/
  disconnectCallback : Bool := true
  disconnectRuns : Nat := 0
  /-- The owner's `proxies_` holds this factory. -/
  inProxies : Bool := true
deriving DecidableEq, Repr

inductive Fault where
  | useAfterFree
  | requestNotFound
  | proxyNotFound
  | nullCallback
  | nullDereference
  | receiverNotBound
  | checkFailed
deriving DecidableEq, Repr

structure Frame where
  factory : ProxyFactory
  slot : Slot

abbrev Method := Exec Fault Frame

end DumbBrowser
