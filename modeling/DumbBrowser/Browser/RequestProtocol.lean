import DumbBrowser.Browser.ProxyingURLLoaderFactory

/-!
# The protocol of one request

What a request can do, seen from its pipes: a `Core` is the part of a slot that its client, its
network loader and its hooks see, and `CoreStep` says how each event changes it. A run of the
request's methods ends in one of a few ways, which `StartExit` and `DeliverExit` list.
-/

namespace DumbBrowser

structure Core where
  alive : Bool
  receiver : Receiver
  targetLoader : Bool
  loaderAwaits : Bool
  currentResponse : Option (Nat × URLResponseHead)
  overrideHeaders : Option HttpResponseHeaders
  continuations : List Continuation
  writes : List String
  trace : List ClientMessage
  stored : List StoredHead
  starts : List StartRecord

def Slot.core (s : Slot) : Core where
  alive := s.alive
  receiver := s.object.proxiedClientReceiver
  targetLoader := s.object.targetLoader
  loaderAwaits := s.loaderAwaits
  currentResponse := s.object.currentResponse
  overrideHeaders := s.object.overrideHeaders
  continuations := s.continuations.map (·.continuation)
  writes := s.writes
  trace := s.trace
  stored := s.stored
  starts := s.starts

def Receiver.resumed : Receiver → Receiver
  | unbound => unbound
  | bound _ => bound false

def Receiver.paused : Receiver → Receiver
  | unbound => unbound
  | bound _ => bound true

@[simp] theorem Receiver.resumed_resumed (r : Receiver) : r.resumed.resumed = r.resumed := by
  cases r <;> rfl

@[simp] theorem Receiver.paused_resumed (r : Receiver) : r.resumed.paused = r.paused := by
  cases r <;> rfl

@[simp] theorem Receiver.isBound_resumed (r : Receiver) : r.resumed.isBound = r.isBound := by
  cases r <;> rfl

theorem Receiver.paused_ne_receiving (r : Receiver) : r.paused ≠ .bound false := by
  cases r <;> simp [paused]

theorem Receiver.resumed_ne_paused (r : Receiver) : r.resumed ≠ .bound true := by
  cases r <;> simp [resumed]

theorem Receiver.unbound_ne_paused : unbound ≠ bound true := by decide

theorem Receiver.receiving_ne_paused : bound false ≠ bound true := by decide

theorem Receiver.paused_of_isBound {r : Receiver} (h : r.isBound = true) :
    r.paused = .bound true := by
  cases r with
  | unbound => cases h
  | bound _ => rfl

/-- The head with the headers of an override. -/
def URLResponseHead.withOverride (head : URLResponseHead)
    (override : Option HttpResponseHeaders) (url : GURL) :
    URLResponseHead :=
  match override with
  | none => head
  | some headers => { head with headers := some headers, parsedHeaders := some (headers, url) }

/-! ## How a run ends -/

/-- The request is gone, and `out` has been sent to the client since. -/
structure Removed (c c' : Core) (out : List ClientMessage) : Prop where
  alive : c'.alive = false
  trace : c'.trace = c.trace ++ out
  stored : c'.stored = c.stored
  starts : c'.starts = c.starts

/-- The last message of a request. -/
def Closing (out : List ClientMessage) : Prop := out = [] ∨ ∃ status, out = [.onComplete status]

/-- The messages of a redirect answered by the proxy itself have no loader behind them. -/
def Core.pipesReset (c : Core) : Core := { c with receiver := .unbound, targetLoader := false }

/-- The stored head goes to the client, in message `m`. -/
def Core.delivered (c : Core) (m : ClientMessage) : Core :=
  { c with currentResponse := none, trace := c.trace ++ [m] }

/-- The head that is stored goes to the client as a redirect. -/
def Core.redirected (c : Core) (redirectInfo : RedirectInfo) : Core :=
  { c.delivered (.onReceiveRedirect (c.currentResponse.map (·.1)) redirectInfo (c.currentResponse.map (·.2))) with
    receiver := c.receiver.resumed }

def Core.storedHead (c : Core) (head : StoredHead) : Core :=
  { c with currentResponse := some (c.stored.length, head.head), stored := c.stored ++ [head] }

def Core.suspended (c : Core) (k : Continuation) : Core :=
  { c with receiver := c.receiver.paused, continuations := c.continuations ++ [k] }

/-- Once nothing holds up the start: the loader there is, or a new one if the factory has its
target. -/
def Core.started (c : Core) (factoryBound loaderAwaits : Bool) : Core :=
  { c with
    receiver := if !c.targetLoader && factoryBound then .bound false else c.receiver.resumed
    targetLoader := c.targetLoader || factoryBound
    loaderAwaits := loaderAwaits
    starts := c.starts ++ [⟨c.targetLoader, factoryBound, c.targetLoader || factoryBound⟩] }

/-- The ends of a run that starts, or restarts, the request. -/
inductive StartExit (factoryBound : Bool) (c : Core) : Core → Prop
  | removed {c' out} : Closing out → Removed c c' out → StartExit factoryBound c c'
  | mockFailed {c' out} : Closing out → Removed c c' (.onReceiveResponse none (some {}) :: out) →
      StartExit factoryBound c c'
  | mocked : StartExit factoryBound c
      { c with
        receiver := c.receiver.resumed
        trace := c.trace ++ [.onReceiveResponse none (some {}), .onStartLoadingResponseBody]
        writes := c.writes ++ [""] }
  | redirected (head) {redirectInfo} : head.kind = .internalRedirect →
      StartExit factoryBound c
        ((c.pipesReset.storedHead head).delivered
          (.onReceiveRedirect (some c.stored.length) redirectInfo (some head.head)))
  | suspended {k} : k.hookPoint ≠ .headersReceived → StartExit factoryBound c (c.suspended k)
  | started {loaderAwaits} : (loaderAwaits = true → c.loaderAwaits = true) →
      StartExit factoryBound c (c.started factoryBound loaderAwaits)

/-- A receiver that has just been resumed makes no difference. -/
theorem StartExit.of_resumed {factoryBound : Bool} {c c' : Core}
    (h : StartExit factoryBound { c with receiver := c.receiver.resumed } c') :
    StartExit factoryBound c c' := by
  cases h with
  | removed hout hr => exact .removed hout ⟨hr.alive, hr.trace, hr.stored, hr.starts⟩
  | mockFailed hout hr => exact .mockFailed hout ⟨hr.alive, hr.trace, hr.stored, hr.starts⟩
  | mocked => simpa using StartExit.mocked (c := c)
  | redirected head hk => exact StartExit.redirected (c := c) head hk
  | suspended hk => simpa [Core.suspended] using StartExit.suspended (c := c) hk
  | @started loaderAwaits ha =>
    have hstarted : Core.started { c with receiver := c.receiver.resumed }
      factoryBound loaderAwaits =
        c.started factoryBound loaderAwaits := by simp only [Core.started, Receiver.resumed_resumed]
    exact hstarted ▸ StartExit.started ha

/-- The ends of a run that delivers the stored head. -/
inductive DeliverExit (lib : NetLibrary) (c : Core) : Continuation → Core → Prop
  | removed {k c' out} : Closing out → Removed c c' out → DeliverExit lib c k c'
  | response (url) : c.receiver.isBound = true →
      DeliverExit lib c .continueToResponseStarted
        { c.delivered (.onReceiveResponse (c.currentResponse.map (·.1))
            (c.currentResponse.map fun response => response.2.withOverride c.overrideHeaders url)) with
          receiver := .bound false }
  | overrideRedirect {n head} (url redirectInfo) : c.currentResponse = some (n, head) →
      (c.overrideHeaders.bind lib.isRedirect).isSome = true →
      DeliverExit lib c .continueToResponseStarted
        (c.pipesReset.delivered
          (.onReceiveRedirect (some n) redirectInfo
            (some (head.withOverride c.overrideHeaders url))))
  | redirect {redirectInfo} : DeliverExit lib c (.continueToBeforeRedirect redirectInfo)
      (c.redirected redirectInfo)

/-- A run of a continuation. -/
inductive ContinuationExit (lib : NetLibrary) (factoryBound : Bool) (c : Core) (k : Continuation) : Core → Prop
  | start {c'} : k.hookPoint ≠ .headersReceived → StartExit factoryBound c c' →
      ContinuationExit lib factoryBound c k c'
  | deliver {c'} : k.hookPoint = .headersReceived → DeliverExit lib c k c' →
      ContinuationExit lib factoryBound c k c'

/-- The outcome of the hook for the headers of `head`; other schemes have no hook. -/
def HeadersOutcome {Ω : Type} (hooks : Hooks Ω) (env : Env Ω) (head : StoredHead)
    (outcome : HookOutcome) : Prop :=
  if head.request.url.schemeIsHTTPOrHTTPS = true then
    ∃ (renderProcessId frameTreeNodeId : Int) (id : UInt64) (ctx : Option DumbRequestInfo),
      outcome = hooks.onHeadersReceived env.hook
        (DumbRequestInfo.makeCTX head.request renderProcessId frameTreeNodeId id ctx) head.head.headers
  else outcome = { result := .ok }

/-- The head is stored, and its hook has left its override. -/
def Core.seen (c : Core) (head : StoredHead) (outcome : HookOutcome) : Core :=
  { c.storedHead head with overrideHeaders := outcome.writes.overrideHeaders none }

/-- A head is stored, its hook runs, and it is delivered. -/
inductive HeadersExit {Ω : Type} (lib : NetLibrary) (hooks : Hooks Ω) (env : Env Ω)
    (c : Core) (head : StoredHead) (k : Continuation) : Core → Prop
  | suspended {outcome} : HeadersOutcome hooks env head outcome → outcome.result = .ioPending →
      c.receiver.isBound = true →
      HeadersExit lib hooks env c head k ((c.seen head outcome).suspended k)
  | delivered {outcome c'} : HeadersOutcome hooks env head outcome →
      DeliverExit lib (c.seen head outcome) k c' →
      HeadersExit lib hooks env c head k c'

/-! ## The events -/

/-- Messages of the network that the request passes on unread. -/
inductive Passed {Ω : Type} : RequestEvent Ω → ClientMessage → Prop
  | onUploadProgress {a b} : Passed (.onUploadProgress a b) (.onUploadProgress a b)
  | onReceiveCachedMetadata {data} : Passed (.onReceiveCachedMetadata data)
      (.onReceiveCachedMetadata data)
  | onTransferSizeUpdated {diff} : Passed (.onTransferSizeUpdated diff)
      (.onTransferSizeUpdated diff)
  | onStartLoadingResponseBody : Passed .onStartLoadingResponseBody .onStartLoadingResponseBody

/-- Events that leave the core as it is. -/
inductive Silent {Ω : Type} : RequestEvent Ω → Prop
  | setPriority {a b} : Silent (.setPriority a b)
  | pauseReadingBodyFromNet : Silent .pauseReadingBodyFromNet
  | resumeReadingBodyFromNet : Silent .resumeReadingBodyFromNet
  | onReceiveEarlyHints : Silent .onReceiveEarlyHints

/-- How an event changes the core of a request that is alive and asks for `request`. -/
inductive CoreStep {Ω : Type} (lib : NetLibrary) (hooks : Hooks Ω) (factoryBound : Bool)
    (request : ResourceRequest) (c : Core) : RequestEvent Ω → Core → Prop
  | silent {e} : Silent e → CoreStep lib hooks factoryBound request c e c
  | passed {e m} : Passed e m → CoreStep lib hooks factoryBound request c e { c with
      trace := c.trace ++ [m] }
  | followRedirect {params env c'} :
      StartExit factoryBound { c with trace := c.trace ++ [.followRedirect params] } c' →
      CoreStep lib hooks factoryBound request c (.followRedirect params env) c'
  | clientDisconnect {c' out} : Closing out → Removed c c' out →
      CoreStep lib hooks factoryBound request c .clientDisconnect c'
  | onReceiveResponse {head env c'} : c.receiver = .bound false →
      HeadersExit lib hooks env c ⟨head, .response, request⟩ .continueToResponseStarted c' →
      CoreStep lib hooks factoryBound request c (.onReceiveResponse head env) c'
  | onReceiveRedirect {redirectInfo head env c'} : c.receiver = .bound false →
      HeadersExit lib hooks env { c with loaderAwaits := true } ⟨head, .redirect, request⟩
        (.continueToBeforeRedirect redirectInfo) c' →
      CoreStep lib hooks factoryBound request c (.onReceiveRedirect redirectInfo head env) c'
  | onComplete {status c' out} : Closing out → Removed c c' out →
      CoreStep lib hooks factoryBound request c (.onComplete status) c'
  | resumeHook {place env k override c'} : c.continuations[place]? = some k →
      override = ((hooks.resume env.hook k).2.restrict k.hookPoint).overrideHeaders c.overrideHeaders →
      ContinuationExit lib factoryBound
        { c with continuations := c.continuations.eraseIdx place, overrideHeaders := override } k c' →
      CoreStep lib hooks factoryBound request c (.resumeHook place env) c'
  | onWrite {place result} : CoreStep lib hooks factoryBound request c (.onWrite place result)
      { c with writes := c.writes.eraseIdx place }
  | onWriteComplete {place c' out} : Closing out → Removed c c' out →
      CoreStep lib hooks factoryBound request c (.onWrite place true) c'

/-- A callback with a weak pointer to a request that is gone. -/
def Core.Ignores (c c' : Core) : Prop :=
  ∃ continuations writes, c' = { c with continuations := continuations, writes := writes }

end DumbBrowser
