import DumbBrowser.Browser.DumbProxyingWebSocket
import DumbBrowser.Browser.RequestProtocol

/-!
# The protocol of a WebSocket handshake

The events of a handshake and the system that they make. A `SocketCore` is the part of a slot that
the network and the downstream client see, and `SocketStep` says how each event changes it.
-/

namespace DumbBrowser

open NetError

/-! ## Events -/

inductive WebSocketEvent (Ω : Type) where
  /-- The embedder takes the handshake client. -/
  | handshakeClient
  | start (id : UInt64) (ω : Ω)
  | webSocketFactoryRun (id : UInt64) (url : GURL) (additionalHeaders : List (String × String))
      (trustedHeaderClient : Bool) (ω : Ω)
  | onOpeningHandshakeStarted
  | onFailure
  | onConnectionEstablished (remoteEndpoint : IPEndPoint)
  | onMojoConnectionError (customReason : Nat) (description : String)
  | onAuthRequired
  | onBeforeSendHeaders (headers : HttpRequestHeaders) (ω : Ω)
  | onHeadersReceived (headers : String) (remoteEndpoint : IPEndPoint) (ω : Ω)
  | answerBeforeSend (place : Nat) (errorCode : Int) (headers : Option HttpRequestHeaders) (ω : Ω)
  | answerHeaders (place : Nat) (errorCode : Int) (headers : Option String) (url : Option GURL)
  | resumeHook (place : Nat) (errorCode : Int) (writes : HookWrites) (ω : Ω)

namespace WebSocketEvent

variable {Ω : Type}

/-- The embedder starts the proxy once; the network's messages wait while their receiver is paused;
the answers of the downstream client are dropped with the proxy. -/
def isEnabled (s : WebSocketSlot) : WebSocketEvent Ω → Bool
  | handshakeClient => s.alive
  | start .. | webSocketFactoryRun .. => s.alive && !s.started
  | onOpeningHandshakeStarted | onFailure | onConnectionEstablished _ =>
    s.alive && s.object.receiverAsHandshakeClient = .bound false
  | onMojoConnectionError .. => s.alive && s.object.receiverAsHandshakeClient.isBound
  | onAuthRequired => s.alive && s.object.receiverAsAuthHandler
  | onBeforeSendHeaders .. | onHeadersReceived .. =>
    s.alive && s.object.receiverAsHeaderClient = .bound false
  | answerBeforeSend place .. => s.alive && place < s.awaitedBeforeSend.length
  | answerHeaders place .. => s.alive && place < s.awaitedHeaders.length
  | resumeHook place .. => place < s.continuations.length

variable (text : HeaderText) (hooks : Hooks Ω)

def run : WebSocketEvent Ω → WebSocketMethod Unit
  | handshakeClient => setSocket fun o => { o with forwardingHandshakeClient := false }
  | start id ω => do
    modify fun s => { s with started := true }
    startSocket hooks ω id
  | webSocketFactoryRun id url additionalHeaders trustedHeaderClient ω => do
    modify fun s => { s with started := true }
    DumbBrowser.webSocketFactoryRun hooks ω id url additionalHeaders trustedHeaderClient
  | onOpeningHandshakeStarted =>
    passOnHandshake (·.forwardingHandshakeClient) .onOpeningHandshakeStarted
  | onFailure => pure ()
  | onConnectionEstablished remoteEndpoint => DumbBrowser.onConnectionEstablished remoteEndpoint
  | onMojoConnectionError customReason description =>
    DumbBrowser.onMojoConnectionError customReason description
  | onAuthRequired => passOnHandshake (·.proxyAuthHandler) .onAuthRequired
  | onBeforeSendHeaders headers ω => DumbBrowser.onBeforeSendHeaders hooks ω headers
  | onHeadersReceived headers remoteEndpoint ω =>
    onHeadersReceivedSocket text hooks ω headers remoteEndpoint
  | answerBeforeSend place errorCode headers ω => do
    let s ← get
    match s.awaitedBeforeSend[place]? with
    | none => pure ()
    | some call => do
      modify fun s => { s with awaitedBeforeSend := s.awaitedBeforeSend.eraseIdx place }
      DumbBrowser.answerBeforeSend hooks ω call errorCode headers
  | answerHeaders place errorCode headers url => do
    let s ← get
    match s.awaitedHeaders[place]? with
    | none => pure ()
    | some call => do
      modify fun s => { s with awaitedHeaders := s.awaitedHeaders.eraseIdx place }
      DumbBrowser.answerHeaders call errorCode headers url
  | resumeHook place errorCode writes ω => do
    let s ← get
    match s.continuations[place]? with
    | none => pure ()
    | some suspended => do
      modify fun s => { s with continuations := s.continuations.eraseIdx place }
      resumeSocketHook text hooks ω suspended errorCode writes

end WebSocketEvent

/-- `DumbProxyingWebSocket::DumbProxyingWebSocket`. -/
def DumbProxyingWebSocket.new (request : ResourceRequest) (processId frameTreeNodeId : Int) :
    DumbProxyingWebSocket :=
  { request, processId, frameTreeNodeId }

/-- A proxy and all that can happen to it. -/
def webSocketSystem {Ω : Type} (text : HeaderText) (hooks : Hooks Ω) (request : ResourceRequest)
    (processId frameTreeNodeId : Int) : System WebSocketSlot (WebSocketEvent Ω) Fault where
  init := { object := DumbProxyingWebSocket.new request processId frameTreeNodeId }
  enabled s e := e.isEnabled s = true
  exec s e := (e.run text hooks s).map (·.2)

instance {Ω : Type} {text : HeaderText} {hooks : Hooks Ω} {request : ResourceRequest}
    {processId frameTreeNodeId : Int} (s : WebSocketSlot) (e : WebSocketEvent Ω) :
    Decidable ((webSocketSystem text hooks request processId frameTreeNodeId).enabled s e) :=
  inferInstanceAs (Decidable (e.isEnabled s = true))

/-! ## Cores -/

structure SocketCore where
  alive : Bool
  started : Bool
  extraHeaders : Bool
  factory : Bool
  onDisconnect : Bool
  handshakeReceiver : Receiver
  headerReceiver : Receiver
  remoteEndpoint : IPEndPoint
  overrideHeaders : Option HttpResponseHeaders
  requestHeaders : HttpRequestHeaders
  beforeSendCallback : Option Nat
  headersCallback : Option Nat
  continuations : List WebSocketContinuation
  awaitedBeforeSend : List (Option Nat)
  awaitedHeaders : List Nat
  beforeSendCalls : List HttpRequestHeaders
  headersCalls : List (String × IPEndPoint)
  downstreamBeforeSend : List (Option Nat × HttpRequestHeaders)
  downstreamHeaders : List DownstreamHeaders
  answers : List HeaderAnswer
  upstream : List HeaderAnswer

def WebSocketSlot.core (s : WebSocketSlot) : SocketCore where
  alive := s.alive
  started := s.started
  extraHeaders := s.object.proxyHasExtraHeaders
  factory := s.object.factory
  onDisconnect := s.object.onDisconnect
  handshakeReceiver := s.object.receiverAsHandshakeClient
  headerReceiver := s.object.receiverAsHeaderClient
  remoteEndpoint := s.object.remoteEndpoint
  overrideHeaders := s.object.overrideHeaders
  requestHeaders := s.object.request.headers
  beforeSendCallback := s.object.onBeforeSendHeadersCallback
  headersCallback := s.object.onHeadersReceivedCallback
  continuations := s.continuations.map (·.continuation)
  awaitedBeforeSend := s.awaitedBeforeSend
  awaitedHeaders := s.awaitedHeaders
  beforeSendCalls := s.beforeSendCalls
  headersCalls := s.headersCalls
  downstreamBeforeSend := s.downstreamBeforeSend
  downstreamHeaders := s.downstreamHeaders
  answers := s.answers
  upstream := s.upstream

namespace SocketCore

/-- Both receivers are paused or resumed; that of the header client only if there is a downstream
client. -/
def setPaused (c : SocketCore) (paused : Bool) : SocketCore :=
  { c with
    handshakeReceiver := .bound paused
    headerReceiver := if c.extraHeaders then .bound paused else c.headerReceiver }

def suspended (c : SocketCore) (k : WebSocketContinuation) : SocketCore :=
  { c with continuations := c.continuations ++ [k] }

/-- The network has the request. -/
def requested (c : SocketCore) : SocketCore :=
  { c with
    factory := false
    headerReceiver := if c.extraHeaders then .bound false else c.headerReceiver
    handshakeReceiver := .bound false }

/-- The downstream client's `OnBeforeSendHeaders` is called. -/
def asksBeforeSend (c : SocketCore) (call : Option Nat) : SocketCore :=
  { c with
    downstreamBeforeSend := c.downstreamBeforeSend ++ [(call, c.requestHeaders)]
    awaitedBeforeSend := c.awaitedBeforeSend ++ [call] }

/-- The downstream client's `OnHeadersReceived` is called. -/
def asksHeaders (c : SocketCore) (text : HeaderText) (call : Nat) : SocketCore :=
  { c with
    downstreamHeaders := c.downstreamHeaders ++
      [⟨call, (c.overrideHeaders.map text.rawHeaders).getD "", c.remoteEndpoint, c.overrideHeaders⟩]
    awaitedHeaders := c.awaitedHeaders ++ [call] }

/-- The network's callback for `OnBeforeSendHeaders` is run, if there is one. -/
def repliesBeforeSend (c : SocketCore) : SocketCore :=
  { c with
    beforeSendCallback := none
    upstream := c.upstream ++ (c.beforeSendCallback.map fun call =>
      ⟨some call, OK, .onBeforeSendHeaders (some c.requestHeaders)⟩).toList }

/-- The network's callback for `OnHeadersReceived` is run, if there is one. -/
def repliesHeaders (c : SocketCore) (headers : Option String) : SocketCore :=
  { c with
    headersCallback := none
    overrideHeaders := none
    upstream := c.upstream ++ (c.headersCallback.map fun call =>
      ⟨some call, OK, .onHeadersReceived headers none⟩).toList }

end SocketCore

/-! ## How a run ends -/

/-- The proxy is gone, and nothing has been passed on since. -/
structure TornDown (c c' : SocketCore) : Prop where
  alive : c'.alive = false
  beforeSendCalls : c'.beforeSendCalls = c.beforeSendCalls
  headersCalls : c'.headersCalls = c.headersCalls
  downstreamHeaders : c'.downstreamHeaders = c.downstreamHeaders
  answers : c'.answers = c.answers
  upstream : c'.upstream = c.upstream

/-- The ends of `OnBeforeSendHeadersComplete`; a factory can be run once. -/
inductive BeforeSendReply (c : SocketCore) : SocketCore → Prop
  | replied : c.extraHeaders = true → BeforeSendReply c c.repliesBeforeSend
  | requested : c.extraHeaders = false → c.factory = true →
      BeforeSendReply c c.repliesBeforeSend.requested

/-- The ends of a run that has the headers of the request, and calls the hook before the start. -/
inductive BeforeSendExit {Ω : Type} (hooks : Hooks Ω) (c : SocketCore)
    (headers : HttpRequestHeaders) : SocketCore → Prop
  | tornDown {ω ctx c'} : (hooks.onBeforeStartTransaction ω ctx headers).result = .blockedByClient →
      TornDown c c' →
      BeforeSendExit hooks c headers c'
  | suspended {ω ctx} : (hooks.onBeforeStartTransaction ω ctx headers).result = .ioPending →
      BeforeSendExit hooks c headers
        ({ c with
          requestHeaders := (hooks.onBeforeStartTransaction ω ctx headers).writes.headers headers
        }.suspended .onBeforeSendHeadersComplete)
  | replied {ω ctx c'} : (hooks.onBeforeStartTransaction ω ctx headers).result = .ok →
      BeforeSendReply { c with
        requestHeaders := (hooks.onBeforeStartTransaction ω ctx headers).writes.headers headers } c' →
      BeforeSendExit hooks c headers c'

/-- The ends of `OnBeforeRequestComplete`. -/
inductive AskExit {Ω : Type} (hooks : Hooks Ω) (c : SocketCore) (call : Option Nat) : SocketCore → Prop
  | asked : c.extraHeaders = true → AskExit hooks c call (c.asksBeforeSend call)
  | unasked {c'} : c.extraHeaders = false → BeforeSendExit hooks c c.requestHeaders c' →
      AskExit hooks c call c'

/-- With no downstream client there is nobody to ask. -/
theorem AskExit.of_alone {Ω : Type} {hooks : Hooks Ω} {c c' : SocketCore} {call : Option Nat}
    (h : AskExit hooks c call c') (halone : c.extraHeaders = false) :
    BeforeSendExit hooks c c.requestHeaders c' := by
  cases h with
  | asked hextra => exact absurd (halone.symm.trans hextra) Bool.false_ne_true
  | unasked _ hexit => exact hexit

theorem AskExit.of_extraHeaders {Ω : Type} {hooks : Hooks Ω} {c c' : SocketCore} {call : Option Nat}
    (h : AskExit hooks c call c') (hextra : c.extraHeaders = true) :
    c' = c.asksBeforeSend call := by
  cases h with
  | asked _ => rfl
  | unasked halone _ => exact absurd (halone.symm.trans hextra) Bool.false_ne_true

/-- The method that `Start` goes on with. -/
def SocketCore.startContinuation (c : SocketCore) : WebSocketContinuation :=
  if c.extraHeaders then .continueToStartRequest else .onBeforeRequestComplete

/-- The ends of `Start`. -/
inductive SocketStartExit {Ω : Type} (hooks : Hooks Ω) (c : SocketCore) : SocketCore → Prop
  | tornDown {c'} : TornDown c c' → SocketStartExit hooks c c'
  | suspended : SocketStartExit hooks c (c.suspended c.startContinuation)
  | requested : c.extraHeaders = true → c.factory = true → SocketStartExit hooks c c.requested
  | unasked {c'} : c.extraHeaders = false → BeforeSendExit hooks c c.requestHeaders c' →
      SocketStartExit hooks c c'

/-- The outcome of a hook with a redirect URL ends the handshake. -/
def HookOutcome.Blocks (outcome : HookOutcome) (redirectUrl : GURL) : Prop :=
  outcome.result = .blockedByClient ∨ outcome.writes.redirectUrl redirectUrl = emptyDataURI

instance (outcome : HookOutcome) (redirectUrl : GURL) : Decidable (outcome.Blocks redirectUrl) :=
  inferInstanceAs (Decidable (_ ∨ _))

/-- The hook for the response headers has left its override, and the receivers are paused. -/
def SocketCore.hooked (c : SocketCore) (outcome : HookOutcome) : SocketCore :=
  { c.setPaused true with overrideHeaders := outcome.writes.overrideHeaders c.overrideHeaders }

/-- The ends of `ContinueToHeadersReceived`, for a call of the network. -/
inductive SocketHeadersExit (text : HeaderText) (c : SocketCore) (call : Nat)
    (outcome : HookOutcome) (redirectUrl : GURL) :
    SocketCore → Prop
  | tornDown {c'} : outcome.Blocks redirectUrl → TornDown c c' →
      SocketHeadersExit text c call outcome redirectUrl c'
  | suspended : ¬ outcome.Blocks redirectUrl → outcome.result = .ioPending →
      SocketHeadersExit text c call outcome redirectUrl
        ((c.hooked outcome).suspended (.onHeadersReceivedComplete call))
  | asked : ¬ outcome.Blocks redirectUrl → outcome.result = .ok →
      SocketHeadersExit text c call outcome redirectUrl ((c.hooked outcome).asksHeaders text call)

/-- The ends of a continuation that is run with `net::OK`. -/
inductive ResumeExit {Ω : Type} (text : HeaderText) (hooks : Hooks Ω) (c : SocketCore) :
    WebSocketContinuation → SocketCore → Prop
  | requested : c.factory = true → ResumeExit text hooks c .continueToStartRequest c.requested
  | ask {c'} : AskExit hooks c none c' → ResumeExit text hooks c .onBeforeRequestComplete c'
  | reply {c'} : BeforeSendReply c c' → ResumeExit text hooks c .onBeforeSendHeadersComplete c'
  | asked {call} : ResumeExit text hooks c (.onHeadersReceivedComplete call)
      (c.asksHeaders text call)

/-! ## Steps -/

/-- Messages that are passed on, if at all, to the client of the handshake. -/
inductive PassedOn {Ω : Type} : WebSocketEvent Ω → Prop
  | handshakeClient : PassedOn .handshakeClient
  | onOpeningHandshakeStarted : PassedOn .onOpeningHandshakeStarted
  | onFailure : PassedOn .onFailure
  | onAuthRequired : PassedOn .onAuthRequired

/-- Events that end the handshake. -/
inductive EndsHandshake {Ω : Type} : WebSocketEvent Ω → Prop
  | onConnectionEstablished {remoteEndpoint} : EndsHandshake
      (.onConnectionEstablished remoteEndpoint)
  | onMojoConnectionError {reason description} : EndsHandshake
      (.onMojoConnectionError reason description)

/-- A call of the network's `OnBeforeSendHeaders`. -/
def SocketCore.calledBeforeSend (c : SocketCore) (headers : HttpRequestHeaders) : SocketCore :=
  { c with
    requestHeaders := headers
    beforeSendCallback := some c.beforeSendCalls.length
    beforeSendCalls := c.beforeSendCalls ++ [headers] }

/-- A call of the network's `OnHeadersReceived`. -/
def SocketCore.calledHeaders (c : SocketCore) (headers : String) (remoteEndpoint : IPEndPoint) : SocketCore :=
  { c with
    headersCallback := some c.headersCalls.length
    headersCalls := c.headersCalls ++ [(headers, remoteEndpoint)] }

/-- An answer to the downstream client's call at `place` has arrived. -/
def SocketCore.answeredBeforeSend (c : SocketCore) (place : Nat) (a : HeaderAnswer) : SocketCore :=
  { c with awaitedBeforeSend := c.awaitedBeforeSend.eraseIdx place, answers := c.answers ++ [a] }

def SocketCore.answeredHeaders (c : SocketCore) (place : Nat) (a : HeaderAnswer) : SocketCore :=
  { c with awaitedHeaders := c.awaitedHeaders.eraseIdx place, answers := c.answers ++ [a] }

/-- The suspended hook at `place` has ended, with its last writes. -/
def SocketCore.resumed (c : SocketCore) (place : Nat) (writes : HookWrites) : SocketCore :=
  { c with
    continuations := c.continuations.eraseIdx place
    overrideHeaders := writes.overrideHeaders c.overrideHeaders
    requestHeaders := writes.headers c.requestHeaders }

/-- How an event changes the core of a proxy that is alive. -/
inductive SocketStep {Ω : Type} (text : HeaderText) (hooks : Hooks Ω) (c : SocketCore) :
    WebSocketEvent Ω → SocketCore → Prop
  | passedOn {e} : PassedOn e → SocketStep text hooks c e c
  | ended {e c'} : EndsHandshake e → TornDown c c' → SocketStep text hooks c e c'
  | start {id ω c'} : c.started = false → SocketStartExit hooks { c with started := true } c' →
      SocketStep text hooks c (.start id ω) c'
  | webSocketFactoryRun {id url additionalHeaders trustedHeaderClient ω extraHeaders
      requestHeaders c'} :
      c.started = false →
      SocketStartExit hooks { c with
        started := true, extraHeaders := extraHeaders, requestHeaders := requestHeaders } c' →
      SocketStep text hooks c (.webSocketFactoryRun id url additionalHeaders trustedHeaderClient ω) c'
  | onBeforeSendHeaders {headers ω c'} : c.headerReceiver = .bound false →
      AskExit hooks (c.calledBeforeSend headers) (some c.beforeSendCalls.length) c' →
      SocketStep text hooks c (.onBeforeSendHeaders headers ω) c'
  | onHeadersReceived {headers remoteEndpoint ω outcome redirectUrl c'} : c.headerReceiver = .bound false →
      SocketHeadersExit text (c.calledHeaders headers remoteEndpoint) c.headersCalls.length
        outcome redirectUrl c' →
      SocketStep text hooks c (.onHeadersReceived headers remoteEndpoint ω) c'
  | refusedBeforeSend {place errorCode headers ω call c'} : c.awaitedBeforeSend[place]? =
      some call → errorCode ≠ OK →
      TornDown (c.answeredBeforeSend place ⟨call, errorCode, .onBeforeSendHeaders headers⟩) c' →
      SocketStep text hooks c (.answerBeforeSend place errorCode headers ω) c'
  | answerBeforeSend {place errorCode headers ω call c'} : c.awaitedBeforeSend[place]? = some call →
      errorCode = OK →
      BeforeSendExit hooks (c.answeredBeforeSend place ⟨call, OK, .onBeforeSendHeaders headers⟩)
        (headers.getD []) c' →
      SocketStep text hooks c (.answerBeforeSend place errorCode headers ω) c'
  | answerHeaders {place errorCode headers url call} : c.awaitedHeaders[place]? = some call →
      SocketStep text hooks c (.answerHeaders place errorCode headers url)
        (((c.answeredHeaders place ⟨some call, errorCode,
          .onHeadersReceived headers url⟩).repliesHeaders
          headers).setPaused false)
  | failedHook {place errorCode writes ω k c'} : c.continuations[place]? = some k → errorCode ≠ OK →
      TornDown c c' → SocketStep text hooks c (.resumeHook place errorCode writes ω) c'
  | resumeHook {place errorCode writes ω k c'} : c.continuations[place]? = some k → errorCode = OK →
      ResumeExit text hooks (c.resumed place (writes.restrict k.hookPoint)) k c' →
      SocketStep text hooks c (.resumeHook place errorCode writes ω) c'

end DumbBrowser
