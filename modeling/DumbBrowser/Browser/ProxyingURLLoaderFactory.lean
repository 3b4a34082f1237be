import DumbBrowser.Browser.InProgressRequest
import DumbBrowser.Lib.System
import Mathlib.Logic.Function.Basic

/-!
# The proxying loader factory

The entry points of `DumbProxyingURLLoaderFactory`, and the system of one factory, its requests,
their clients and network loaders, and the hooks. An event is a message that is received, a pipe
that is closed, or a callback that is run.
-/

namespace DumbBrowser

open NetError

inductive RequestEvent (Ω : Type) where
  | followRedirect (params : FollowRedirectParams) (env : Env Ω)
  | setPriority (priority intraPriorityValue : Int)
  | pauseReadingBodyFromNet
  | resumeReadingBodyFromNet
  /-- The client has closed its end of `target_client_`. -/
  | clientDisconnect
  | onReceiveEarlyHints
  | onReceiveResponse (head : URLResponseHead) (env : Env Ω)
  | onReceiveRedirect (redirectInfo : RedirectInfo) (head : URLResponseHead) (env : Env Ω)
  | onUploadProgress (currentPosition totalSize : Int)
  | onReceiveCachedMetadata (data : List UInt8)
  | onTransferSizeUpdated (transferSizeDiff : Int)
  | onStartLoadingResponseBody
  | onComplete (status : URLLoaderCompletionStatus)
  /-- The hook with that place among the suspended ones ends. -/
  | resumeHook (place : Nat) (env : Env Ω)
  /-- The write of a mocked body with that place ends. -/
  | onWrite (place : Nat) (result : Bool)

inductive ProxyEvent (Ω : Type) where
  | createLoaderAndStart (receiver : Nat) (requestId : Int) (options : Nat)
      (request : ResourceRequest)
      (trafficAnnotationTag : Nat) (env : Env Ω)
  | clone (receiver : Nat)
  | proxyDisconnect (receiver : Nat)
  | targetFactoryError
  | request (p : Ptr) (e : RequestEvent Ω)

namespace RequestEvent

variable {Ω : Type}

/-- The network's messages wait while the receiver is paused; what has a weak pointer runs for a
deleted request too. -/
def isEnabled (s : Slot) : RequestEvent Ω → Bool
  | followRedirect .. | setPriority .. | pauseReadingBodyFromNet | resumeReadingBodyFromNet |
      clientDisconnect =>
    s.alive
  | onReceiveEarlyHints | onReceiveResponse .. | onReceiveRedirect .. | onUploadProgress .. |
    onReceiveCachedMetadata .. | onTransferSizeUpdated .. | onStartLoadingResponseBody | onComplete .. =>
    s.alive && s.object.proxiedClientReceiver = .bound false
  | resumeHook place _ => place < s.continuations.length
  | onWrite place _ => place < s.writes.length

variable (lib : NetLibrary) (hooks : Hooks Ω) (p : Ptr)

def run : RequestEvent Ω → Method Unit
  | followRedirect params env => do
    toClient (.followRedirect params)
    DumbBrowser.followRedirect lib hooks p params env
  | setPriority priority intraPriorityValue => DumbBrowser.setPriority priority intraPriorityValue
  | pauseReadingBodyFromNet => DumbBrowser.pauseReadingBodyFromNet
  | resumeReadingBodyFromNet => DumbBrowser.resumeReadingBodyFromNet
  | clientDisconnect => onRequestError p { errorCode := ERR_ABORTED }
  | onReceiveEarlyHints => pure ()
  | onReceiveResponse head env => DumbBrowser.onReceiveResponse lib hooks p head env
  | onReceiveRedirect redirectInfo head env => do
    modify fun f => { f with slot := { f.slot with loaderAwaits := true } }
    DumbBrowser.onReceiveRedirect lib hooks p redirectInfo head env
  | onUploadProgress currentPosition totalSize =>
    toClient (.onUploadProgress currentPosition totalSize)
  | onReceiveCachedMetadata data => toClient (.onReceiveCachedMetadata data)
  | onTransferSizeUpdated transferSizeDiff => toClient (.onTransferSizeUpdated transferSizeDiff)
  | onStartLoadingResponseBody => toClient .onStartLoadingResponseBody
  | onComplete status => DumbBrowser.onComplete p status
  | resumeHook place env => do
    let f ← get
    match f.slot.continuations[place]? with
    | none => pure ()
    | some suspended => do
      modify fun f => { f with slot := { f.slot with continuations := f.slot.continuations.eraseIdx place } }
      DumbBrowser.resumeHook lib hooks p suspended env
  | onWrite place result => do
    let f ← get
    match f.slot.writes[place]? with
    | none => pure ()
    | some data => do
      modify fun f => { f with slot := { f.slot with writes := f.slot.writes.eraseIdx place } }
      DumbBrowser.onWrite p data result

end RequestEvent

/-! ## The factory -/

structure ProxyWorld where
  factory : ProxyFactory
  slots : Ptr → Option Slot := fun _ => none

namespace ProxyFactory

/-- `RequestIDGenerator::Generate`. -/
def generate (f : ProxyFactory) : UInt64 × ProxyFactory :=
  (f.requestIdGenerator + 1, { f with requestIdGenerator := f.requestIdGenerator + 1 })

def clone (f : ProxyFactory) : ProxyFactory :=
  { f with proxyReceivers := f.proxyReceivers ++ [f.nextReceiver], nextReceiver := f.nextReceiver + 1 }

def onTargetFactoryError (f : ProxyFactory) : Except Fault ProxyFactory :=
  { f with targetFactory := false, proxyReceivers := [] }.maybeRemoveProxy

/-- The receiver has left the set before the handler runs. -/
def onProxyBindingError (f : ProxyFactory) : Except Fault ProxyFactory :=
  { f with targetFactory := if f.proxyReceivers.isEmpty then false else f.targetFactory }.maybeRemoveProxy

/-- `InProgressRequest::InProgressRequest`. -/
def newRequest (f : ProxyFactory) (requestId : UInt64)
    (networkServiceRequestId : Int) (options : Nat) (request : ResourceRequest)
    (trafficAnnotationTag : Nat) : InProgressRequest :=
  { request, requestId, networkServiceRequestId, options, trafficAnnotationTag
    renderProcessId := f.renderProcessId
    frameTreeNodeId := f.frameTreeNodeId }

def emplaceRequest (f : ProxyFactory) : ProxyFactory :=
  { f with requests := f.requests ++ [f.nextPtr], nextPtr := f.nextPtr + 1 }

end ProxyFactory

namespace ProxyWorld

variable {Ω : Type} (lib : NetLibrary) (hooks : Hooks Ω)

/-- A method runs on the slot of its request. -/
def runAt (w : ProxyWorld) (p : Ptr) (s : Slot) (m : Method Unit) : Except Fault ProxyWorld :=
  match m ⟨w.factory, s⟩ with
  | .error fault => .error fault
  | .ok (_, f) => .ok { factory := f.factory, slots := Function.update w.slots p (some f.slot) }

def createLoaderAndStart (w : ProxyWorld) (requestId : Int) (options : Nat)
    (request : ResourceRequest) (trafficAnnotationTag : Nat) (env : Env Ω) :
    Except Fault ProxyWorld :=
  let (id, factory) := w.factory.generate
  let p := factory.nextPtr
  let object := factory.newRequest id requestId options request trafficAnnotationTag
  { w with factory := factory.emplaceRequest }.runAt p { object } (restart lib hooks p env)

def isEnabled (w : ProxyWorld) : ProxyEvent Ω → Bool
  | .createLoaderAndStart receiver .. | .clone receiver | .proxyDisconnect receiver =>
    w.factory.alive && w.factory.proxyReceivers.contains receiver
  | .targetFactoryError => w.factory.alive && w.factory.targetFactory
  | .request p e => (w.slots p).any (e.isEnabled ·)

def exec (w : ProxyWorld) : ProxyEvent Ω → Except Fault ProxyWorld
  | .createLoaderAndStart _ requestId options request trafficAnnotationTag env =>
    w.createLoaderAndStart lib hooks requestId options request trafficAnnotationTag env
  | .clone _ => .ok { w with factory := w.factory.clone }
  | .proxyDisconnect receiver =>
    { w.factory with proxyReceivers := w.factory.proxyReceivers.erase receiver }.onProxyBindingError.map
      fun factory => { w with factory }
  | .targetFactoryError => w.factory.onTargetFactoryError.map fun factory => { w with factory }
  | .request p e =>
    match w.slots p with
    | none => .ok w
    | some s => w.runAt p s (e.run lib hooks p)

end ProxyWorld

/-- `DumbProxyingURLLoaderFactory::DumbProxyingURLLoaderFactory`; the generator is shared with
others. -/
def ProxyFactory.new (renderProcessId frameTreeNodeId : Int) (requestIdGenerator : UInt64) : ProxyFactory :=
  { renderProcessId, frameTreeNodeId, requestIdGenerator }

/-- A factory and all that can happen to it. -/
def proxySystem {Ω : Type} (lib : NetLibrary) (hooks : Hooks Ω)
    (renderProcessId frameTreeNodeId : Int) (requestIdGenerator : UInt64) :
    System ProxyWorld (ProxyEvent Ω) Fault where
  init := { factory := ProxyFactory.new renderProcessId frameTreeNodeId requestIdGenerator }
  enabled w e := w.isEnabled e = true
  exec w e := w.exec lib hooks e

instance {Ω : Type} {lib : NetLibrary} {hooks : Hooks Ω} {renderProcessId frameTreeNodeId : Int}
    {generator : UInt64} (w : ProxyWorld) (e : ProxyEvent Ω) :
    Decidable ((proxySystem lib hooks renderProcessId frameTreeNodeId generator).enabled w e) :=
  inferInstanceAs (Decidable (w.isEnabled e = true))

end DumbBrowser
