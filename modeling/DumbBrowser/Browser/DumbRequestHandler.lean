import DumbBrowser.Lib.System
import DumbBrowser.Net.UrlContext
import Mathlib.Logic.Function.Basic

/-!
# The request handler

`DumbRequestHandler` runs the callbacks that are registered for `OnBeforeURLRequest` one after
another, and it is entered again when a callback that has suspended a request ends. A pass is one
run through the callbacks; its context holds the place that it has reached. Passes are named by
numbers, in the order in which they begin.

* `handlerSystem` : the handler, any number of requests, and the callbacks that are suspended.
-/

namespace DumbBrowser

open NetError

/-! ## Callbacks -/

structure CallbackAnswer where
  result : Int
  edits : DumbRequestInfo → DumbRequestInfo := id
  /-- The callback has its own request destroyed before it returns. -/
  destroysRequest : Bool := false

/-- `Ω` is what else the answers depend on. -/
abbrev OnBeforeURLRequestCallback (Ω : Type) := Ω → DumbRequestInfo → CallbackAnswer

/-- The edits of a callback that leaves to the handler what is the handler's: the identifier, the
URL, the place and the event type. -/
def DumbRequestInfo.edited (ctx : DumbRequestInfo) (edits : DumbRequestInfo → DumbRequestInfo) :
    DumbRequestInfo :=
  { edits ctx with
    requestIdentifier := ctx.requestIdentifier
    requestUrl := ctx.requestUrl
    nextUrlRequestIndex := ctx.nextUrlRequestIndex
    eventType := ctx.eventType }

/-- `next_url_request_index++`. -/
def DumbRequestInfo.advanced (ctx : DumbRequestInfo) : DumbRequestInfo :=
  { ctx with nextUrlRequestIndex := ctx.nextUrlRequestIndex + 1 }

def DumbRequestInfo.isInternalScheme (ctx : DumbRequestInfo) : Bool :=
  ctx.requestUrl.schemeIs "chrome-extension" || ctx.requestUrl.schemeIs "chrome"

/-- What the loop over the callbacks leaves: the last result, and the callbacks that it has
called. -/
structure ChainRun where
  ctx : DumbRequestInfo
  rv : Int := OK
  called : List (Nat × Int) := []
  destroyed : Bool := false

/-- The loop of `RunNextCallback`, over the callbacks that are left. -/
def runCallbacks {Ω : Type} (ω : Ω) : List (OnBeforeURLRequestCallback Ω) →
    DumbRequestInfo → ChainRun
  | [], ctx => { ctx }
  | callback :: rest, ctx =>
    let answer := callback ω ctx.advanced
    let entry := (ctx.nextUrlRequestIndex, answer.result)
    let ctx := ctx.advanced.edited answer.edits
    if answer.result ≠ OK then
      { ctx, rv := answer.result, called := [entry], destroyed := answer.destroysRequest }
    else
      let run := runCallbacks ω rest ctx
      { run with called := entry :: run.called, destroyed := answer.destroysRequest || run.destroyed }

/-! ## The handler -/

inductive HandlerFault where
  /-- The iterator of a missing entry is dereferenced. -/
  | endIterator
  | nullCallback
  | useAfterFree
  /-- `before_url_request_callbacks_` has no callback at the place. -/
  | outOfRange
deriving DecidableEq, Repr

structure Pass where
  ctx : DumbRequestInfo
  /-- The request whose `redirect_url_` is the `new_url` of the context. -/
  request : UInt64
  /-- Which pass of its request it is. -/
  restart : Nat
  /-- A callback has returned `ERR_IO_PENDING` and has not ended. -/
  suspended : Bool := false
  /-- The callbacks that have been called, with their results. -/
  called : List (Nat × Int) := []

/-- The loop of `RunNextCallback` for a pass. -/
def Pass.run {Ω : Type} (beforeUrlRequestCallbacks : List (OnBeforeURLRequestCallback Ω))
    (ω : Ω) (pass : Pass) :
    ChainRun :=
  if pass.ctx.eventType = .onBeforeRequest then
    runCallbacks ω (beforeUrlRequestCallbacks.drop pass.ctx.nextUrlRequestIndex) pass.ctx
  else { ctx := pass.ctx }

/-- The callback that has suspended the pass has ended. -/
def Pass.resumed (pass : Pass) (edits : DumbRequestInfo → DumbRequestInfo) : Pass :=
  { pass with ctx := pass.ctx.edited edits, suspended := false }

/-- The pass after the loop over the callbacks. -/
def Pass.after (pass : Pass) (run : ChainRun) : Pass :=
  { pass with ctx := run.ctx, called := pass.called ++ run.called, suspended := run.rv = ERR_IO_PENDING }

/-- What the handler can reach of a request. -/
structure HandledRequest where
  alive : Bool := true
  redirectUrl : GURL := {}
  /-- How many passes it has begun: restarts that register nothing are not counted. -/
  restarts : Nat := 0
deriving DecidableEq, Repr

/-- A task that runs the completion of pass `completion`, posted by pass `poster`. -/
structure Posted where
  completion : Nat
  poster : Nat
  request : UInt64
  rv : Int
  live : Bool
deriving DecidableEq, Repr

/-- A write to `*new_url`; `current` if no later pass of the request has begun. -/
structure Written where
  poster : Nat
  request : UInt64
  current : Bool
deriving DecidableEq, Repr

/-- An entry of `callbacks_` that has been moved from stays as `some none`. The requests, the passes
and the logs are not the handler's own. -/
structure DumbRequestHandler where
  callbacks : UInt64 → Option (Option Nat) := fun _ => none
  requests : UInt64 → Option HandledRequest := fun _ => none
  passes : Nat → Option Pass := fun _ => none
  nextPass : Nat := 0
  posted : List Posted := []
  written : List Written := []

namespace DumbRequestHandler

def isAlive (h : DumbRequestHandler) (id : UInt64) : Bool := (h.requests id).any (·.alive)

def isRequestIdentifierValid (h : DumbRequestHandler) (id : UInt64) : Bool :=
  (h.callbacks id).isSome

def setRequest (h : DumbRequestHandler) (id : UInt64) (f : HandledRequest → HandledRequest) :
    DumbRequestHandler :=
  { h with requests := Function.update h.requests id ((h.requests id).map f) }

def setPass (h : DumbRequestHandler) (k : Nat) (pass : Pass) : DumbRequestHandler :=
  { h with passes := Function.update h.passes k (some pass) }

def onURLRequestDestroyed (h : DumbRequestHandler) (id : UInt64) : DumbRequestHandler :=
  { h with callbacks := Function.update h.callbacks id none }

/-- The destructor of a request. -/
def destroyRequest (h : DumbRequestHandler) (id : UInt64) : DumbRequestHandler :=
  (h.setRequest id fun r => { r with alive := false }).onURLRequestDestroyed id

section Lookup
variable {h : DumbRequestHandler} {k k' : Nat} {pass : Pass} {id id' : UInt64}

@[simp] theorem setPass_passes_self :
    (h.setPass k pass).passes k = some pass := Function.update_self ..

theorem setPass_passes_of_ne (hk : k' ≠ k) : (h.setPass k pass).passes k' = h.passes k' :=
  Function.update_of_ne hk ..

theorem setRequest_isAlive {f : HandledRequest → HandledRequest} (hf : ∀ r, (f r).alive = r.alive) :
    (h.setRequest id f).isAlive id' = h.isAlive id' := by
  simp only [setRequest, isAlive, Function.update_apply]
  split
  · next hid => cases hr : h.requests id <;> simp [hid, hr, hf]
  · rfl

theorem callbacks_destroyRequest {entry : Option Nat}
    (hentry : (h.destroyRequest id).callbacks id' = some entry) :
    id' ≠ id ∧ h.callbacks id' = some entry := by
  simp only [destroyRequest, onURLRequestDestroyed, setRequest, Function.update_apply] at hentry
  split at hentry
  · cases hentry
  · next hne => exact ⟨hne, hentry⟩

theorem destroyRequest_requests_of_ne (hne : id' ≠ id) :
    (h.destroyRequest id).requests id' = h.requests id' :=
  Function.update_of_ne hne ..

theorem destroyRequest_isAlive : (h.destroyRequest id).isAlive id = false := by
  simp only [destroyRequest, onURLRequestDestroyed, setRequest, isAlive, Function.update_self]
  cases h.requests id <;> rfl

end Lookup

def runCallbackForRequestIdentifier (h : DumbRequestHandler) (poster : Nat)
    (id : UInt64) (rv : Int) :
    Except HandlerFault DumbRequestHandler :=
  match h.callbacks id with
  | none => .error .endIterator
  | some none => .error .nullCallback
  | some (some completion) =>
    .ok { h with
      callbacks := Function.update h.callbacks id (some none)
      posted := h.posted ++ [⟨completion, poster, id, rv, h.isAlive id⟩] }

section Callbacks
variable {Ω : Type} (lib : NetLibrary)
  (beforeUrlRequestCallbacks : List (OnBeforeURLRequestCallback Ω))

/-- What the loop over the callbacks leaves. -/
def afterCallbacks (h : DumbRequestHandler) (k : Nat) (pass : Pass) (run : ChainRun) :
    DumbRequestHandler :=
  let h := h.setPass k (pass.after run)
  if run.destroyed then h.destroyRequest pass.ctx.requestIdentifier else h

/-- `*ctx->new_url = GURL(ctx->new_url_spec)`, a member of the request. -/
def writeNewUrl (h : DumbRequestHandler) (k : Nat) (pass : Pass) (ctx : DumbRequestInfo) :
    Except HandlerFault DumbRequestHandler :=
  match h.requests pass.request with
  | none => .error .useAfterFree
  | some r =>
    if !r.alive then .error .useAfterFree
    else .ok { h.setRequest pass.request fun r => { r with redirectUrl := lib.parseUrl ctx.newUrlSpec } with
      written := h.written ++ [⟨k, pass.request, r.restarts = pass.restart⟩] }

/-- `RunNextCallback` for the context of pass `k`. -/
def runNextCallback (h : DumbRequestHandler) (k : Nat) (ω : Ω) :
    Except HandlerFault DumbRequestHandler :=
  match h.passes k with
  | none => .ok h
  | some pass =>
    let id := pass.ctx.requestIdentifier
    if !h.isRequestIdentifierValid id then .ok h
    else
      let run := pass.run beforeUrlRequestCallbacks ω
      let h := h.afterCallbacks k pass run
      if run.rv = ERR_IO_PENDING then .ok h
      else if run.rv ≠ OK then h.runCallbackForRequestIdentifier k id run.rv
      else if run.ctx.eventType = .onBeforeRequest ∧ run.ctx.newUrlSpec ≠ "" ∧
          run.ctx.newUrlSpec ≠ run.ctx.requestUrl.spec ∧ h.isRequestIdentifierValid id = true then
        (h.writeNewUrl lib k pass run.ctx).bind fun h =>
          h.runCallbackForRequestIdentifier k id run.rv
      else h.runCallbackForRequestIdentifier k id run.rv

def newPass (h : DumbRequestHandler) (ctx : DumbRequestInfo) : Pass where
  ctx := { ctx with eventType := .onBeforeRequest }
  request := ctx.requestIdentifier
  restart := (h.requests ctx.requestIdentifier).elim 1 (·.restarts + 1)

/-- One more pass of the request. -/
def counted (h : DumbRequestHandler) (id : UInt64) : DumbRequestHandler :=
  h.setRequest id fun r => { r with restarts := r.restarts + 1 }

theorem counted_isAlive {h : DumbRequestHandler} {id id' : UInt64} :
    (h.counted id).isAlive id' = h.isAlive id' := by
  apply setRequest_isAlive
  intro r
  rfl

/-- `callbacks_[ctx->request_identifier] = std::move(callback)`; the completion is named by the
pass. -/
def beginPass (h : DumbRequestHandler) (pass : Pass) : DumbRequestHandler :=
  { (h.counted pass.request).setPass h.nextPass pass with
    callbacks := Function.update h.callbacks pass.ctx.requestIdentifier (some (some h.nextPass))
    nextPass := h.nextPass + 1 }

/-- `OnBeforeURLRequest` with its result. -/
def onBeforeURLRequest (h : DumbRequestHandler) (ctx : DumbRequestInfo) (ω : Ω) :
    Except HandlerFault (Int × DumbRequestHandler) :=
  if beforeUrlRequestCallbacks.isEmpty || ctx.isInternalScheme then .ok (OK, h)
  else
    ((h.beginPass (h.newPass ctx)).runNextCallback lib beforeUrlRequestCallbacks h.nextPass ω).map
      (ERR_IO_PENDING, ·)

/-- `redirect_url_ = GURL()`. -/
def restarted (h : DumbRequestHandler) (id : UInt64) : DumbRequestHandler :=
  h.setRequest id fun r => { r with redirectUrl := {} }

theorem restarted_isAlive {h : DumbRequestHandler} {id id' : UInt64} :
    (h.restarted id).isAlive id' = h.isAlive id' := by
  apply setRequest_isAlive
  intro r
  rfl

/-- `RestartInternal` up to its call of the handler, whose result is left to the request. -/
def restartInternal (h : DumbRequestHandler) (id : UInt64) (request : ResourceRequest)
    (renderProcessId frameTreeNodeId : Int) (oldCtx : Option DumbRequestInfo) (ω : Ω) :
    Except HandlerFault DumbRequestHandler :=
  let ctx := DumbRequestInfo.makeCTX request renderProcessId frameTreeNodeId id oldCtx
  ((h.restarted id).onBeforeURLRequest lib beforeUrlRequestCallbacks ctx ω).map (·.2)

/-- The callback that has suspended pass `k` ends: its last edits, and `next_callback`. -/
def resume (h : DumbRequestHandler) (k : Nat) (edits : DumbRequestInfo → DumbRequestInfo) (ω : Ω) :
    Except HandlerFault DumbRequestHandler :=
  match h.passes k with
  | none => .ok h
  | some pass =>
    (h.setPass k (pass.resumed edits)).runNextCallback lib beforeUrlRequestCallbacks k ω

end Callbacks

end DumbRequestHandler

/-! ## The system -/

inductive HandlerEvent (Ω : Type) where
  | createRequest (id : UInt64)
  /-- The first start of a request, or a `FollowRedirect` of its client. -/
  | restartInternal (id : UInt64) (request : ResourceRequest)
      (renderProcessId frameTreeNodeId : Int)
      (oldCtx : Option DumbRequestInfo) (ω : Ω)
  | resume (k : Nat) (edits : DumbRequestInfo → DumbRequestInfo) (ω : Ω)
  | destroyRequest (id : UInt64)

namespace DumbRequestHandler

variable {Ω : Type}

/-- Identifiers are not used again; a callback that has suspended a pass ends at most once. -/
def isEnabled (h : DumbRequestHandler) : HandlerEvent Ω → Bool
  | .createRequest id => (h.requests id).isNone
  | .restartInternal id .. => h.isAlive id
  | .resume k .. => (h.passes k).any (·.suspended)
  | .destroyRequest id => h.isAlive id

def exec (lib : NetLibrary) (beforeUrlRequestCallbacks : List (OnBeforeURLRequestCallback Ω))
    (h : DumbRequestHandler) :
    HandlerEvent Ω → Except HandlerFault DumbRequestHandler
  | .createRequest id => .ok { h with requests := Function.update h.requests id (some {}) }
  | .restartInternal id request renderProcessId frameTreeNodeId oldCtx ω =>
    h.restartInternal lib beforeUrlRequestCallbacks id request renderProcessId
      frameTreeNodeId oldCtx ω
  | .resume k edits ω => h.resume lib beforeUrlRequestCallbacks k edits ω
  | .destroyRequest id => .ok (h.destroyRequest id)

end DumbRequestHandler

def handlerSystem {Ω : Type} (lib : NetLibrary)
    (beforeUrlRequestCallbacks : List (OnBeforeURLRequestCallback Ω)) :
    System DumbRequestHandler (HandlerEvent Ω) HandlerFault where
  init := {}
  enabled h e := h.isEnabled e = true
  exec h e := h.exec lib beforeUrlRequestCallbacks e

instance {Ω : Type} {lib : NetLibrary}
    {beforeUrlRequestCallbacks : List (OnBeforeURLRequestCallback Ω)} (h : DumbRequestHandler)
    (e : HandlerEvent Ω) :
    Decidable ((handlerSystem lib beforeUrlRequestCallbacks).enabled h e) :=
  inferInstanceAs (Decidable (h.isEnabled e = true))

end DumbBrowser
