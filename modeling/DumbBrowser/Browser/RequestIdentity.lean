import DumbBrowser.Browser.FactoryLifetime
import DumbBrowser.Browser.WebSocketProtocol

/-!
# The identity of a request

`request_id_` is what the handler knows a request or a WebSocket by. It is given by the generator
when the request is created, or the WebSocket started, and no other method changes it.

* `RequestEvent.run_preserves`, `WebSocketEvent.run_preserves` : what holds of every event.
-/

namespace DumbBrowser

open NetError Exec

variable {Ω : Type} {lib : NetLibrary} {hooks : Hooks Ω} {p : Ptr}

/-- What only `CreateLoaderAndStart` sets. -/
def Frame.identity (f : Frame) : UInt64 × UInt64 :=
  (f.factory.requestIdGenerator, f.slot.object.requestId)

/-! ## Access to members -/

theorem this_preserves : Preserves Frame.identity this := .bind .get fun _ =>
    .ite (.pure _) (.throw _)

theorem setThis_preserves {g : InProgressRequest → InProgressRequest}
    (hg : ∀ r, (g r).requestId = r.requestId) :
    Preserves Frame.identity (setThis g) :=
  .bind this_preserves fun _ => .modify fun f => congrArg (Prod.mk _) (hg f.slot.object)

theorem theFactory_preserves : Preserves Frame.identity theFactory :=
  .bind this_preserves fun _ => .bind .get fun _ => .ite (.pure _) (.throw _)

theorem theCtx_preserves : Preserves Frame.identity theCtx := by
  refine .bind this_preserves fun r => ?_
  split
  · exact .pure _
  · exact .throw _

theorem toClient_preserves (m : ClientMessage) : Preserves Frame.identity (toClient m) :=
  .bind this_preserves fun _ => .modify fun _ => rfl

theorem toLoader_preserves (m : LoaderMessage) : Preserves Frame.identity (toLoader m) :=
  .bind this_preserves fun _ => .modify fun _ => rfl

theorem pauseClientReceiver_preserves : Preserves Frame.identity pauseClientReceiver :=
  .bind this_preserves fun _ => .ite (setThis_preserves fun _ => rfl) (.throw _)

theorem resumeClientReceiver_preserves : Preserves Frame.identity resumeClientReceiver :=
  .bind this_preserves fun _ => .ite (setThis_preserves fun _ => rfl) (.throw _)

theorem pauseIfBound_preserves : Preserves Frame.identity pauseIfBound :=
  .bind this_preserves fun _ => .ite pauseClientReceiver_preserves (.pure _)

theorem resumeIfBound_preserves : Preserves Frame.identity resumeIfBound :=
  .bind this_preserves fun _ => .ite resumeClientReceiver_preserves (.pure _)

theorem resetPipes_preserves : Preserves Frame.identity resetPipes := setThis_preserves fun _ => rfl

theorem storeResponse_preserves (head : URLResponseHead) (kind : HeadKind) :
    Preserves Frame.identity (storeResponse head kind) :=
  .bind this_preserves fun _ => .bind (.modify fun _ => rfl) fun _ => .bind .get fun _ =>
    setThis_preserves fun _ => rfl

theorem takeResponse_preserves : Preserves Frame.identity takeResponse :=
  .bind this_preserves fun _ => .bind (setThis_preserves fun _ => rfl) fun _ => .pure _

theorem makeCtx_preserves : Preserves Frame.identity makeCtx :=
  .bind this_preserves fun _ => .bind (.modify fun _ => rfl) fun _ =>
    .bind (setThis_preserves fun _ => rfl) fun _ => .pure _

theorem suspend_preserves (k : Continuation) : Preserves Frame.identity (suspend k) :=
  .bind this_preserves fun _ => .modify fun _ => rfl

theorem write_preserves (w : HookWrites) : Preserves Frame.identity (setThis (·.write w)) :=
  setThis_preserves fun _ => rfl

/-! ## Removal -/

theorem ProxyFactory.maybeRemoveProxy_generator {f g : ProxyFactory}
    (h : f.maybeRemoveProxy = .ok g) :
    g.requestIdGenerator = f.requestIdGenerator := by
  unfold maybeRemoveProxy runDisconnectCallback at h
  split at h
  · cases h
  · split at h
    · cases h
      rfl
    · split at h
      · cases h
      · split at h
        · cases h
        · cases h
          rfl

theorem ProxyFactory.removeRequest_generator {f g : ProxyFactory} (h : f.removeRequest p = .ok g) :
    g.requestIdGenerator = f.requestIdGenerator := by
  unfold removeRequest at h
  split at h
  · cases h
  · split at h
    · cases h
    · exact (maybeRemoveProxy_generator h).trans rfl

theorem removeThis_preserves : Preserves Frame.identity (removeThis p) := by
  intro f
  simp only [removeThis, theFactory, this, wp_bind, wp_get]
  rw [wp_ite]
  refine ⟨fun _ => ?_, fun _ => trivial⟩
  rw [wp_pure, wp_ite]
  refine ⟨fun _ => ?_, fun _ => trivial⟩
  rw [wp_pure]
  split
  · exact trivial
  · next g hg => exact congrArg (Prod.mk · _) (ProxyFactory.removeRequest_generator hg)

theorem onRequestError_preserves (status : URLLoaderCompletionStatus) :
    Preserves Frame.identity (onRequestError p status) :=
  .bind this_preserves fun _ => .ite (.bind (toClient_preserves _) fun _ => removeThis_preserves)
    removeThis_preserves

/-! ## Starting a request -/

theorem startRequest_preserves : Preserves Frame.identity startRequest :=
  .bind this_preserves fun _ => .bind theFactory_preserves fun _ =>
    .ite (.bind (setThis_preserves fun _ => rfl) fun _ => .modify fun _ => rfl) (.pure _)

theorem continueToStartRequest_preserves (errorCode : Int) :
    Preserves Frame.identity (continueToStartRequest p errorCode) :=
  .ite (onRequestError_preserves _) (.bind .get fun _ => .bind resumeIfBound_preserves fun _ =>
    .bind startRequest_preserves fun _ => .modify fun _ => rfl)

theorem forwardFollowRedirect_preserves : Preserves Frame.identity forwardFollowRedirect := by
  refine .bind theCtx_preserves fun ctx => .bind this_preserves fun r => ?_
  split
  · exact .pure _
  · exact .bind (.modify fun _ => rfl) fun _ =>
      .ite (.bind (toLoader_preserves _) fun _ => setThis_preserves fun _ => rfl)
        (setThis_preserves fun _ => rfl)

theorem continueToSendHeaders_preserves (errorCode : Int) :
    Preserves Frame.identity (continueToSendHeaders p errorCode) :=
  .ite (onRequestError_preserves _) (.bind forwardFollowRedirect_preserves fun _ =>
    .bind resumeIfBound_preserves fun _ => continueToStartRequest_preserves _)

theorem deliverRedirect_preserves (redirectInfo : RedirectInfo) :
    Preserves Frame.identity (deliverRedirect lib redirectInfo) :=
  .bind resumeIfBound_preserves fun _ => .bind theCtx_preserves fun _ =>
    .bind (setThis_preserves fun _ => rfl) fun _ =>
    .bind takeResponse_preserves fun _ => .bind (toClient_preserves _) fun _ =>
      setThis_preserves fun _ => rfl

theorem continueToBeforeRedirect_preserves (redirectInfo : RedirectInfo) (errorCode : Int) :
    Preserves Frame.identity (continueToBeforeRedirect lib p redirectInfo errorCode) :=
  .ite (onRequestError_preserves _) (deliverRedirect_preserves _)

theorem setInternalRedirect_preserves (internalRedirect : Bool) :
    Preserves Frame.identity (setInternalRedirect internalRedirect) :=
  .bind theCtx_preserves fun _ => setThis_preserves fun _ => rfl

theorem handleBeforeRequestRedirect_preserves : Preserves Frame.identity
    (handleBeforeRequestRedirect lib p) :=
  .bind resetPipes_preserves fun _ => .bind this_preserves fun _ =>
    .bind (setThis_preserves fun _ => rfl) fun _ =>
    .bind (storeResponse_preserves _ _) fun _ => .bind (setInternalRedirect_preserves _) fun _ =>
      continueToBeforeRedirect_preserves _ _

theorem mockResponse_preserves (dataPipe : Bool) : Preserves Frame.identity
    (mockResponse p dataPipe) :=
  .bind (toClient_preserves _) fun _ =>
    .ite (onRequestError_preserves _) (.bind (toClient_preserves _) fun _ => .modify fun _ => rfl)

theorem beforeStartTransaction_preserves (env : Env Ω) :
    Preserves Frame.identity (beforeStartTransaction hooks p env) := by
  refine .bind this_preserves fun r => .ite ?_ (continueToSendHeaders_preserves _)
  refine .bind makeCtx_preserves fun ctx => .bind theFactory_preserves fun _ =>
    .bind (write_preserves _) fun _ => ?_
  split
  · exact onRequestError_preserves _
  · exact .bind (suspend_preserves _) fun _ => pauseIfBound_preserves
  · exact continueToSendHeaders_preserves _

theorem continueToBeforeSendHeaders_preserves (env : Env Ω) (errorCode : Int) :
    Preserves Frame.identity (continueToBeforeSendHeaders lib hooks p env errorCode) := by
  refine .ite (onRequestError_preserves _) (.bind this_preserves fun r =>
    .ite handleBeforeRequestRedirect_preserves ?_)
  refine .bind theCtx_preserves fun ctx => .bind (setThis_preserves fun _ => rfl) fun _ =>
    .bind resumeIfBound_preserves fun _ => .ite ?_ (beforeStartTransaction_preserves env)
  exact .ite (onRequestError_preserves _) (mockResponse_preserves _)

theorem restartInternal_preserves (env : Env Ω) : Preserves Frame.identity
    (restartInternal lib hooks p env) := by
  refine .bind (setThis_preserves fun _ => rfl) fun _ => .bind makeCtx_preserves fun ctx =>
    .bind theFactory_preserves fun _ => .bind (write_preserves _) fun _ => ?_
  split
  · exact onRequestError_preserves _
  · exact .bind (suspend_preserves _) fun _ => pauseIfBound_preserves
  · exact continueToBeforeSendHeaders_preserves env _

/-! ## Messages -/

theorem forwardToLoader_preserves (m : LoaderMessage) : Preserves Frame.identity
    (forwardToLoader m) :=
  .bind this_preserves fun _ => .ite (toLoader_preserves _) (.pure _)

/-- The response takes over the headers of the hook, and `m` goes on. -/
theorem overrideResponse_preserves (r : InProgressRequest) {m : Method Unit}
    (hm : Preserves Frame.identity m) :
    Preserves Frame.identity (do
      match r.overrideHeaders with
      | none => pure ()
      | some headers => do
        if r.currentResponse.isNone then throw .nullDereference else pure ()
        setThis fun r => { r with
          currentResponse := r.currentResponse.map fun (source, head) =>
            (source, { head with headers := some headers, parsedHeaders := some (headers, r.request.url) }) }
      m) := by
  split
  · exact hm
  · exact .ite (.bind (.throw _) fun _ => .bind (setThis_preserves fun _ => rfl) fun _ => hm)
      (.bind (setThis_preserves fun _ => rfl) fun _ => hm)

theorem deliverResponse_preserves : Preserves Frame.identity (deliverResponse lib p) := by
  refine .bind this_preserves fun r => ?_
  split
  · exact overrideResponse_preserves r (.bind resetPipes_preserves fun _ =>
      .bind (setInternalRedirect_preserves _) fun _ => continueToBeforeRedirect_preserves _ _)
  · exact overrideResponse_preserves r (.bind resumeClientReceiver_preserves fun _ =>
      .bind takeResponse_preserves fun _ => toClient_preserves _)

theorem continueToResponseStarted_preserves (errorCode : Int) :
    Preserves Frame.identity (continueToResponseStarted lib p errorCode) :=
  .ite (onRequestError_preserves _) deliverResponse_preserves

theorem runContinuation_preserves (env : Env Ω) (errorCode : Int) (k : Continuation) :
    Preserves Frame.identity (runContinuation lib hooks p env errorCode k) := by
  cases k with
  | continueToBeforeSendHeaders => exact continueToBeforeSendHeaders_preserves env _
  | continueToSendHeaders => exact continueToSendHeaders_preserves _
  | continueToResponseStarted => exact continueToResponseStarted_preserves _
  | continueToBeforeRedirect redirectInfo => exact continueToBeforeRedirect_preserves _ _

theorem handleResponseOrRedirectHeaders_preserves (k : Continuation) (env : Env Ω) :
    Preserves Frame.identity (handleResponseOrRedirectHeaders lib hooks p k env) := by
  refine .bind (setThis_preserves fun _ => rfl) fun _ => .bind this_preserves fun r =>
    .ite ?_ (runContinuation_preserves env _ _)
  refine .bind makeCtx_preserves fun ctx => .bind theFactory_preserves fun _ =>
    .bind (write_preserves _) fun _ => ?_
  split
  · exact onRequestError_preserves _
  · exact .bind (suspend_preserves _) fun _ => pauseClientReceiver_preserves
  · exact runContinuation_preserves env _ _

theorem onComplete_preserves (status : URLLoaderCompletionStatus) : Preserves Frame.identity
    (onComplete p status) :=
  .ite (onRequestError_preserves _) (.bind (toClient_preserves _) fun _ => removeThis_preserves)

theorem onWrite_preserves (data : String) (result : Bool) : Preserves Frame.identity
    (onWrite p data result) :=
  .bind .get fun _ => .ite (.pure _) (onComplete_preserves _)

theorem resumeHook_preserves (suspended : Suspended) (env : Env Ω) :
    Preserves Frame.identity (resumeHook lib hooks p suspended env) :=
  .bind .get fun _ => .ite (.pure _) (.bind (write_preserves _) fun _ =>
    runContinuation_preserves env _ _)

theorem RequestEvent.run_preserves (e : RequestEvent Ω) : Preserves Frame.identity
    (e.run lib hooks p) := by
  cases e with
  | followRedirect params env =>
    exact .bind (toClient_preserves _) fun _ => .bind (setThis_preserves fun _ => rfl) fun _ =>
      restartInternal_preserves env
  | setPriority => exact forwardToLoader_preserves _
  | pauseReadingBodyFromNet => exact forwardToLoader_preserves _
  | resumeReadingBodyFromNet => exact forwardToLoader_preserves _
  | clientDisconnect => exact onRequestError_preserves _
  | onReceiveEarlyHints => exact .pure _
  | onReceiveResponse head env =>
    exact .bind (storeResponse_preserves _ _) fun _ =>
      .bind (setInternalRedirect_preserves _) fun _ =>
      handleResponseOrRedirectHeaders_preserves _ env
  | onReceiveRedirect redirectInfo head env =>
    exact .bind (.modify fun _ => rfl) fun _ => .bind (storeResponse_preserves _ _) fun _ =>
      .bind (setInternalRedirect_preserves _) fun _ =>
        handleResponseOrRedirectHeaders_preserves _ env
  | onUploadProgress => exact toClient_preserves _
  | onReceiveCachedMetadata => exact toClient_preserves _
  | onTransferSizeUpdated => exact toClient_preserves _
  | onStartLoadingResponseBody => exact toClient_preserves _
  | onComplete status => exact onComplete_preserves _
  | resumeHook place env =>
    refine .bind .get fun f => ?_
    split
    · exact .pure _
    · exact .bind (.modify fun _ => rfl) fun _ => resumeHook_preserves _ env
  | onWrite place result =>
    refine .bind .get fun f => ?_
    split
    · exact .pure _
    · exact .bind (.modify fun _ => rfl) fun _ => onWrite_preserves _ _

/-! ## WebSockets -/

/-- What only a start sets. -/
def WebSocketSlot.identity (s : WebSocketSlot) : Bool × UInt64 := (s.started, s.object.requestId)

section WebSockets
variable {text : HeaderText}

theorem socket_preserves : Preserves WebSocketSlot.identity socket := .bind .get fun _ =>
    .ite (.pure _) (.throw _)

theorem setSocket_preserves {g : DumbProxyingWebSocket → DumbProxyingWebSocket}
    (hg : ∀ o, (g o).requestId = o.requestId) :
    Preserves WebSocketSlot.identity (setSocket g) :=
  .bind socket_preserves fun _ => .modify fun s => congrArg (Prod.mk _) (hg s.object)

theorem makeSocketCtx_preserves : Preserves WebSocketSlot.identity makeSocketCtx :=
  .bind socket_preserves fun _ => .bind (.modify fun _ => rfl) fun _ =>
    .bind (setSocket_preserves fun _ => rfl) fun _ => .pure _

theorem writeSocket_preserves (w : HookWrites) : Preserves WebSocketSlot.identity
    (setSocket (·.write w)) :=
  setSocket_preserves fun _ => rfl

theorem suspendSocket_preserves (k : WebSocketContinuation) : Preserves WebSocketSlot.identity
    (suspendSocket k) :=
  .bind socket_preserves fun _ => .modify fun _ => rfl

theorem dcheck_preserves (condition : Bool) : Preserves WebSocketSlot.identity (dcheck condition) :=
  .ite (.pure _) (.throw _)

theorem dcheckUnbound_preserves : Preserves WebSocketSlot.identity dcheckUnbound :=
  .bind socket_preserves fun _ => dcheck_preserves _

theorem onSocketError_preserves (errorCode : Int) : Preserves WebSocketSlot.identity
    (onSocketError errorCode) :=
  .bind (setSocket_preserves fun _ => rfl) fun _ => .bind socket_preserves fun _ =>
    .ite (.modify fun _ => rfl) (.throw _)

theorem setPaused_preserves (paused : Bool) (receiver : Receiver) :
    Preserves WebSocketSlot.identity (setPaused paused receiver) :=
  .ite (.pure _) (.throw _)

theorem setIncomingMethodCallProcessing_preserves (paused : Bool) :
    Preserves WebSocketSlot.identity (setIncomingMethodCallProcessing paused) := by
  refine .bind socket_preserves fun o => .bind (setPaused_preserves _ _) fun _ =>
    .bind (setSocket_preserves fun _ => rfl) fun _ => .ite ?_ (.pure _)
  exact .bind (setPaused_preserves _ _) fun _ => setSocket_preserves fun _ => rfl

theorem continueToStartRequestSocket_preserves (errorCode : Int) :
    Preserves WebSocketSlot.identity (continueToStartRequestSocket errorCode) := by
  refine .ite (onSocketError_preserves _) (.bind socket_preserves fun o => .ite (.throw _) ?_)
  exact .bind (setSocket_preserves fun _ => rfl) fun _ => .modify fun _ => rfl

theorem runBeforeSendHeadersCallback_preserves (errorCode : Int) :
    Preserves WebSocketSlot.identity (runBeforeSendHeadersCallback errorCode) := by
  refine .bind socket_preserves fun o => ?_
  split
  · exact .pure _
  · exact .bind (setSocket_preserves fun _ => rfl) fun _ => .modify fun _ => rfl

theorem onBeforeSendHeadersComplete_preserves (errorCode : Int) :
    Preserves WebSocketSlot.identity (onBeforeSendHeadersComplete errorCode) :=
  .bind dcheckUnbound_preserves fun _ => .ite (onSocketError_preserves _)
    (.bind (runBeforeSendHeadersCallback_preserves _) fun _ =>
      .bind socket_preserves fun _ => .ite (continueToStartRequestSocket_preserves _) (.pure _))

theorem onBeforeSendHeadersCompleteFromProxy_preserves (ω : Ω) (errorCode : Int)
    (headers : Option HttpRequestHeaders) :
    Preserves WebSocketSlot.identity
    (onBeforeSendHeadersCompleteFromProxy hooks ω errorCode headers) := by
  refine .bind dcheckUnbound_preserves fun _ =>
    .ite (onSocketError_preserves _) (.bind (setSocket_preserves fun _ => rfl) fun _ => ?_)
  refine .bind makeSocketCtx_preserves fun ctx => .bind socket_preserves fun o =>
    .bind (writeSocket_preserves _) fun _ => ?_
  split
  · exact onSocketError_preserves _
  · exact suspendSocket_preserves _
  · exact onBeforeSendHeadersComplete_preserves _

theorem onBeforeRequestComplete_preserves (ω : Ω) (call : Option Nat) (errorCode : Int) :
    Preserves WebSocketSlot.identity (onBeforeRequestComplete hooks ω call errorCode) :=
  .bind dcheckUnbound_preserves fun _ => .bind socket_preserves fun _ =>
    .bind (dcheck_preserves _) fun _ =>
    .ite (onSocketError_preserves _) (.bind socket_preserves fun _ =>
      .ite (.modify fun _ => rfl) (onBeforeSendHeadersCompleteFromProxy_preserves _ _ _))

theorem passOnHandshake_preserves (bound : DumbProxyingWebSocket → Bool) (m : HandshakeMessage) :
    Preserves WebSocketSlot.identity (passOnHandshake bound m) :=
  .bind socket_preserves fun _ => .ite (.modify fun _ => rfl) (.throw _)

theorem onHeadersReceivedCompleteFromProxy_preserves (errorCode : Int) (headers : Option String)
    (url : Option GURL) :
    Preserves WebSocketSlot.identity
    (onHeadersReceivedCompleteFromProxy errorCode headers url) := by
  refine .bind socket_preserves fun o => ?_
  have hresume : Preserves WebSocketSlot.identity resumeIncomingMethodCallProcessing :=
    setIncomingMethodCallProcessing_preserves false
  split
  · split
    · exact hresume
    · exact .bind (setSocket_preserves fun _ => rfl) fun _ => .bind (.modify fun _ => rfl) fun _ => hresume
  · split
    · exact .bind (setSocket_preserves fun _ => rfl) fun _ => hresume
    · exact .bind (setSocket_preserves fun _ => rfl) fun _ => .bind (.modify fun _ => rfl) fun _ =>
        .bind (setSocket_preserves fun _ => rfl) fun _ => hresume

theorem onHeadersReceivedComplete_preserves (call : Nat) (errorCode : Int) :
    Preserves WebSocketSlot.identity (onHeadersReceivedComplete text call errorCode) :=
  .ite (onSocketError_preserves _) (.bind socket_preserves fun _ =>
    .ite (.modify fun _ => rfl) (onHeadersReceivedCompleteFromProxy_preserves _ _ _))

theorem continueToHeadersReceived_preserves (ω : Ω) (call : Nat) :
    Preserves WebSocketSlot.identity (continueToHeadersReceived text hooks ω call) := by
  refine .bind makeSocketCtx_preserves fun ctx => .bind socket_preserves fun o =>
    .bind (writeSocket_preserves _) fun _ =>
    .bind socket_preserves fun o' => .ite (onSocketError_preserves _) (.ite ?_ ?_)
  · exact .bind (suspendSocket_preserves _) fun _ => setIncomingMethodCallProcessing_preserves true
  · exact .bind (setIncomingMethodCallProcessing_preserves true) fun _ =>
      onHeadersReceivedComplete_preserves _ _

theorem runSocketContinuation_preserves (ω : Ω) (errorCode : Int) (k : WebSocketContinuation) :
    Preserves WebSocketSlot.identity (runSocketContinuation text hooks ω errorCode k) := by
  cases k with
  | continueToStartRequest => exact continueToStartRequestSocket_preserves _
  | onBeforeRequestComplete => exact onBeforeRequestComplete_preserves _ _ _
  | onBeforeSendHeadersComplete => exact onBeforeSendHeadersComplete_preserves _
  | onHeadersReceivedComplete call => exact onHeadersReceivedComplete_preserves _ _

theorem resumeSocketHook_preserves (ω : Ω) (suspended : SuspendedWebSocket) (errorCode : Int)
    (writes : HookWrites) :
    Preserves WebSocketSlot.identity (resumeSocketHook text hooks ω suspended errorCode writes) :=
  .bind .get fun _ => .ite (.pure _) (.bind (writeSocket_preserves _) fun _ =>
    runSocketContinuation_preserves _ _ _)

/-- The id that an event starts a WebSocket with. -/
def WebSocketEvent.startId : WebSocketEvent Ω → Option UInt64
  | .start id _ | .webSocketFactoryRun id .. => some id
  | _ => none

theorem WebSocketEvent.run_preserves {e : WebSocketEvent Ω} (he : e.startId = none) :
    Preserves WebSocketSlot.identity (e.run text hooks) := by
  cases e with
  | handshakeClient =>
    exact setSocket_preserves (g := ({ · with forwardingHandshakeClient := false })) fun _ => rfl
  | start => cases he
  | webSocketFactoryRun => cases he
  | onOpeningHandshakeStarted => exact passOnHandshake_preserves _ _
  | onFailure => exact .pure _
  | onConnectionEstablished remoteEndpoint =>
    exact .bind (setSocket_preserves fun _ => rfl) fun _ =>
      .bind (passOnHandshake_preserves _ _) fun _ =>
      onSocketError_preserves _
  | onMojoConnectionError customReason description =>
    exact .bind socket_preserves fun _ =>
      .ite (.bind (passOnHandshake_preserves _ _) fun _ => onSocketError_preserves _)
        (onSocketError_preserves _)
  | onAuthRequired => exact passOnHandshake_preserves _ _
  | onBeforeSendHeaders headers ω =>
    exact .bind .get fun _ => .bind (.modify fun _ => rfl) fun _ => .bind socket_preserves fun _ =>
      .bind (dcheck_preserves _) fun _ => .bind (setSocket_preserves fun _ => rfl) fun _ =>
        onBeforeRequestComplete_preserves _ _ _
  | onHeadersReceived headers remoteEndpoint ω =>
    exact .bind .get fun _ => .bind (.modify fun _ => rfl) fun _ => .bind socket_preserves fun _ =>
      .bind (dcheck_preserves _) fun _ => .bind (setSocket_preserves fun _ => rfl) fun _ =>
        continueToHeadersReceived_preserves _ _
  | answerBeforeSend place errorCode headers ω =>
    refine .bind .get fun s => ?_
    split
    · exact .pure _
    · exact .bind (.modify fun _ => rfl) fun _ => .bind (.modify fun _ => rfl) fun _ =>
        onBeforeSendHeadersCompleteFromProxy_preserves _ _ _
  | answerHeaders place errorCode headers url =>
    refine .bind .get fun s => ?_
    split
    · exact .pure _
    · exact .bind (.modify fun _ => rfl) fun _ => .bind (.modify fun _ => rfl) fun _ =>
        onHeadersReceivedCompleteFromProxy_preserves _ _ _
  | resumeHook place errorCode writes ω =>
    refine .bind .get fun s => ?_
    split
    · exact .pure _
    · exact .bind (.modify fun _ => rfl) fun _ => resumeSocketHook_preserves _ _ _ _

theorem setSocket_ends (g : DumbProxyingWebSocket → DumbProxyingWebSocket) (s : WebSocketSlot) :
    wp (setSocket g) (fun _ => True) (fun _ s' => s' = { s with object := g s.object }) s := by
  simp only [setSocket, socket, wp_bind, wp_get]
  rw [wp_ite]
  exact ⟨fun _ => rfl, fun _ => trivial⟩

/-- `Start` sets the id first. -/
theorem startSocket_eq (ω : Ω) (id : UInt64) :
    ∃ rest : WebSocketMethod Unit, startSocket hooks ω id =
    (setSocket ({ · with requestId := id }) >>= fun _ => rest) ∧
      Preserves WebSocketSlot.identity rest := by
  refine ⟨_, rfl, ?_⟩
  refine .bind makeSocketCtx_preserves fun ctx => .bind socket_preserves fun o =>
    .bind (writeSocket_preserves _) fun _ =>
    .bind socket_preserves fun o' =>
      .ite (onSocketError_preserves _) (.ite (suspendSocket_preserves _) (.ite ?_ ?_))
  · exact continueToStartRequestSocket_preserves _
  · exact onBeforeRequestComplete_preserves _ _ _

/-- A started WebSocket ends with the id. -/
def TakesId (id : UInt64) (m : WebSocketMethod Unit) : Prop :=
  ∀ s, s.started = true → wp m (fun _ => True) (fun _ s' => s'.identity = (true, id)) s

theorem TakesId.bind {α : Type} {id : UInt64} {m : WebSocketMethod α} {f : α → WebSocketMethod Unit}
    (hm : Preserves WebSocketSlot.identity m) (hf : ∀ a, TakesId id (f a)) :
    TakesId id (m >>= f) := by
  intro s hs
  rw [wp_bind]
  refine wp_post (hm s) fun a t ht => hf a t ?_
  exact (congrArg Prod.fst ht).trans hs

theorem TakesId.ite {id : UInt64} {c : Prop} [Decidable c]
    {m n : WebSocketMethod Unit} (hm : TakesId id m) (hn : TakesId id n) :
    TakesId id (if c then m else n) := by
  split
  · exact hm
  · exact hn

theorem startSocket_takesId (ω : Ω) (id : UInt64) : TakesId id (startSocket hooks ω id) := by
  intro s hs
  obtain ⟨rest, heq, hrest⟩ := @startSocket_eq _ hooks ω id
  rw [heq, wp_bind]
  refine wp_post (setSocket_ends _ s) ?_
  rintro _ s' rfl
  rw [← hs]
  exact hrest _

theorem webSocketFactoryRun_takesId (ω : Ω) (id : UInt64) (url : GURL)
    (additionalHeaders : List (String × String)) (trustedHeaderClient : Bool) :
    TakesId id (webSocketFactoryRun hooks ω id url additionalHeaders trustedHeaderClient) :=
  .bind socket_preserves fun _ => .bind (dcheck_preserves _) fun _ =>
    .bind (setSocket_preserves fun _ => rfl) fun _ => .bind socket_preserves fun _ =>
      .ite (.bind (setSocket_preserves fun _ => rfl) fun _ => startSocket_takesId ω id)
        (startSocket_takesId ω id)

theorem WebSocketEvent.run_start {e : WebSocketEvent Ω} {id : UInt64} (he : e.startId = some id)
    (s : WebSocketSlot) :
    wp (e.run text hooks) (fun _ => True) (fun _ s' => s'.identity = (true, id)) s := by
  cases e with
  | start id' ω =>
    cases he
    exact startSocket_takesId ω id { s with started := true } rfl
  | webSocketFactoryRun id' url additionalHeaders trustedHeaderClient ω =>
    cases he
    exact webSocketFactoryRun_takesId ω id url additionalHeaders trustedHeaderClient { s with
      started := true } rfl
  | _ => cases he

end WebSockets

end DumbBrowser
