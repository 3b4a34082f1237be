import DumbBrowser.Browser.WebSocketProtocol
import Mathlib.Data.List.InsertIdx

/-!
# The handshake follows the protocol

Each method of a proxy that is alive ends as the protocol allows.

* `run_step` : every event changes the core of its proxy as `SocketStep` says.
-/

namespace DumbBrowser

open NetError Exec

/-- The proxy can be torn down. -/
structure WebSocketSlot.Ready (s : WebSocketSlot) : Prop where
  alive : s.alive = true
  onDisconnect : s.object.onDisconnect = true

theorem WebSocketSlot.Ready.congr {s s' : WebSocketSlot} (h : s.Ready) (ha : s'.alive = s.alive)
    (hd : s'.object.onDisconnect = s.object.onDisconnect) : s'.Ready :=
  ⟨ha ▸ h.alive, hd ▸ h.onDisconnect⟩

/-- A suspended hook has left its last writes; those to a context that has been replaced since are
lost. -/
def WebSocketSlot.resumed (s : WebSocketSlot) (place : Nat) (x : SuspendedWebSocket)
    (writes : HookWrites) : WebSocketSlot :=
  let writes := if x.ctxSerial = s.ctxSerial then writes else { writes with ctx := id }
  { s with
    continuations := s.continuations.eraseIdx place
    object := s.object.write (writes.restrict x.continuation.hookPoint) }

/-- The receivers of a handshake with a downstream client are bound. -/
structure WebSocketSlot.Bound (s : WebSocketSlot) : Prop where
  extraHeaders : s.object.proxyHasExtraHeaders = true
  handshake : s.object.receiverAsHandshakeClient.isBound = true
  header : s.object.receiverAsHeaderClient.isBound = true

/-- The events that rely on the receivers. -/
def WebSocketEvent.UsesReceivers {Ω : Type} (s : WebSocketSlot) : WebSocketEvent Ω → Prop
  | onHeadersReceived .. | answerHeaders .. => True
  | resumeHook place .. =>
    ∃ call, s.core.continuations[place]? = some (.onHeadersReceivedComplete call)
  | _ => False

theorem TornDown.of_eq {c c₁ c' : SocketCore} (h : TornDown c₁ c')
    (hbefore : c₁.beforeSendCalls = c.beforeSendCalls) (hheaders : c₁.headersCalls = c.headersCalls)
    (hdownstream : c₁.downstreamHeaders = c.downstreamHeaders) (hanswers : c₁.answers = c.answers)
    (hupstream : c₁.upstream = c.upstream) : TornDown c c' :=
  ⟨h.alive, h.beforeSendCalls.trans hbefore, h.headersCalls.trans hheaders,
    h.downstreamHeaders.trans hdownstream,
    h.answers.trans hanswers, h.upstream.trans hupstream⟩

/-! ## Access to members -/

section Access
variable {F : Fault → Prop} {s : WebSocketSlot} (ha : s.alive = true)
include ha

theorem runs_socket {Q : DumbProxyingWebSocket → WebSocketSlot → Prop} :
    wp socket F Q s ↔ Q s.object s := by
  simp [socket, wp_ite, ha]

theorem runs_setSocket {g : DumbProxyingWebSocket → DumbProxyingWebSocket}
    {Q : Unit → WebSocketSlot → Prop} :
    wp (setSocket g) F Q s ↔ Q () { s with object := g s.object } := by
  simp [setSocket, runs_socket ha]

theorem runs_makeSocketCtx {Q : DumbRequestInfo → WebSocketSlot → Prop} :
    wp makeSocketCtx F Q s ↔
      let o := s.object
      let ctx := DumbRequestInfo.makeCTX o.request o.processId o.frameTreeNodeId o.requestId o.ctx
      Q ctx { s with ctxSerial := s.ctxSerial + 1, object := { o with ctx := some ctx } } := by
  simp [makeSocketCtx, setSocket, socket, wp_ite, ha]

theorem suspendSocket_ends (k : WebSocketContinuation) : wp (suspendSocket k) F
    (fun _ s' => s'.alive = s.alive ∧ s'.object = s.object ∧ s'.core = s.core.suspended k) s := by
  simp only [suspendSocket, wp_bind, runs_socket ha, wp_modify]
  refine ⟨trivial, trivial, ?_⟩
  simp [WebSocketSlot.core, SocketCore.suspended]

theorem runs_dcheckUnbound {Q : Unit → WebSocketSlot → Prop} : wp dcheckUnbound F Q s ↔
    wp (dcheck (s.object.proxyHasExtraHeaders || !s.object.receiverAsHandshakeClient.isBound)) F Q s := by
  rw [dcheckUnbound, wp_bind, runs_socket ha]

theorem runs_onSocketError (hd : s.object.onDisconnect = true) {errorCode : Int}
    {Q : Unit → WebSocketSlot → Prop} :
    wp (onSocketError errorCode) F Q s ↔ Q () { s with
      alive := false
      object := { s.object with isDone := true, onDisconnect := false } } := by
  simp [onSocketError, setSocket, socket, wp_ite, ha, hd]

end Access

theorem wp_dcheck {F : Fault → Prop} {s : WebSocketSlot} {condition : Bool}
    {Q : Unit → WebSocketSlot → Prop} :
    wp (dcheck condition) F Q s ↔ (condition = true → Q () s) ∧
    (condition = false → F .checkFailed) := by
  cases condition <;> simp [dcheck]

/-- Where a check may fail, it may be taken to hold. -/
theorem wp_dcheck_of {s : WebSocketSlot} {condition : Bool}
    {Q : Unit → WebSocketSlot → Prop} (hQ : Q () s) :
    wp (dcheck condition) (fun _ => True) Q s :=
  wp_dcheck.2 ⟨fun _ => hQ, fun _ => trivial⟩

theorem runs_setPaused {F : Fault → Prop} {s : WebSocketSlot} {paused : Bool} {receiver : Receiver}
    (hbound : receiver.isBound = true) {Q : Receiver → WebSocketSlot → Prop} :
    wp (setPaused paused receiver) F Q s ↔ Q (.bound paused) s := by
  rw [setPaused, if_pos hbound, wp_pure]

theorem setIncomingMethodCallProcessing_ends {F : Fault → Prop} {s : WebSocketSlot}
    (ha : s.alive = true) (hb : s.Bound) (paused : Bool) :
    wp (setIncomingMethodCallProcessing paused) F
      (fun _ s' => s'.alive = true ∧ s'.object.onDisconnect = s.object.onDisconnect ∧
          s'.core = s.core.setPaused paused) s := by
  have hextra : s.object.proxyTrustedHeaderClient = true := hb.extraHeaders
  simp (disch := first | exact ha | exact hb.handshake | exact hb.header)
    only [setIncomingMethodCallProcessing, wp_bind,
    runs_socket, runs_setPaused, runs_setSocket, DumbProxyingWebSocket.proxyHasExtraHeaders, hextra, if_true]
  refine ⟨ha, trivial, ?_⟩
  simp [WebSocketSlot.core, SocketCore.setPaused, DumbProxyingWebSocket.proxyHasExtraHeaders, hextra]

/-! ## The request -/

section Methods
variable {Ω : Type} {text : HeaderText} {hooks : Hooks Ω} {F : Fault → Prop}
  {s : WebSocketSlot} (h : s.Ready)
include h

theorem onSocketError_ends {c : SocketCore} (hc : TornDown c { s.core with alive := false }) (errorCode : Int) :
    wp (onSocketError errorCode) F (fun _ s' => TornDown c s'.core) s := by
  rw [runs_onSocketError h.alive h.onDisconnect]
  exact ⟨rfl, hc.beforeSendCalls, hc.headersCalls, hc.downstreamHeaders, hc.answers, hc.upstream⟩

theorem continueToStartRequest_ends : wp (continueToStartRequestSocket OK) (fun _ => True)
    (fun _ s' => s.core.factory = true ∧ s'.core = s.core.requested) s := by
  simp only [continueToStartRequestSocket, ne_eq, not_true, if_false, wp_bind,
    runs_socket h.alive, wp_ite, wp_throw,
    implies_true, true_and, Bool.not_eq_true', Bool.not_eq_false]
  intro hfactory
  simp only [runs_setSocket h.alive, wp_modify]
  exact ⟨hfactory, rfl⟩

theorem onBeforeSendHeadersComplete_ends : wp (onBeforeSendHeadersComplete OK) (fun _ => True)
    (fun _ s' => BeforeSendReply s.core s'.core) s := by
  rw [onBeforeSendHeadersComplete, wp_bind, runs_dcheckUnbound h.alive]
  refine wp_dcheck_of ?_
  simp only [ne_eq, not_true, if_false, wp_bind]
  have hreplied : wp (runBeforeSendHeadersCallback OK) (fun _ => True)
      (fun _ s' => s'.Ready ∧ s'.core = s.core.repliesBeforeSend) s := by
    simp only [runBeforeSendHeadersCallback, wp_bind, runs_socket h.alive]
    rcases hcallback : s.object.onBeforeSendHeadersCallback with _ | call
    · refine ⟨h, ?_⟩
      simp [WebSocketSlot.core, SocketCore.repliesBeforeSend, hcallback]
    · simp only [wp_bind, runs_setSocket h.alive, wp_modify]
      refine ⟨h.congr rfl rfl, ?_⟩
      simp [WebSocketSlot.core, SocketCore.repliesBeforeSend,
        DumbProxyingWebSocket.proxyHasExtraHeaders, hcallback]
  refine wp_post hreplied ?_
  rintro _ s₁ ⟨hready, hcore⟩
  have hextra : s₁.object.proxyHasExtraHeaders = s.core.extraHeaders :=
    congrArg SocketCore.extraHeaders hcore
  simp only [runs_socket hready.alive, wp_ite, wp_pure, hextra,
    Bool.not_eq_true', Bool.not_eq_false]
  refine ⟨fun halone => ?_, fun hproxied => hcore ▸ .replied hproxied⟩
  refine wp_post (continueToStartRequest_ends hready) ?_
  rintro _ s' ⟨hfactory, hrequested⟩
  rw [hcore] at hfactory hrequested
  exact hrequested ▸ .requested halone hfactory

theorem onBeforeSendHeadersCompleteFromProxy_ends (ω : Ω) (headers : Option HttpRequestHeaders) :
    wp (onBeforeSendHeadersCompleteFromProxy hooks ω OK headers) (fun _ => True)
      (fun _ s' => BeforeSendExit hooks s.core (headers.getD []) s'.core) s := by
  rw [onBeforeSendHeadersCompleteFromProxy, wp_bind, runs_dcheckUnbound h.alive]
  refine wp_dcheck_of ?_
  simp (disch := exact h.alive) only [ne_eq, not_true, if_false, wp_bind, runs_setSocket,
    runs_makeSocketCtx, runs_socket]
  split
  · next hresult =>
    refine wp_post (onSocketError_ends (c := s.core) ?_ ?_ _) fun _ s' hdown =>
      .tornDown hresult hdown
    · exact h.congr rfl rfl
    · exact ⟨rfl, rfl, rfl, rfl, rfl, rfl⟩
  · next hresult =>
    refine wp_post (suspendSocket_ends ?_ _) ?_
    · exact h.alive
    · rintro _ s' ⟨_, _, hcore⟩
      exact hcore ▸ BeforeSendExit.suspended (c := s.core) hresult
  · next hresult =>
    refine wp_post (onBeforeSendHeadersComplete_ends ?_) fun _ s' hreply => .replied hresult hreply
    exact h.congr rfl rfl

theorem onBeforeRequestComplete_ends (ω : Ω) (call : Option Nat) :
    wp (onBeforeRequestComplete hooks ω call OK)
    (fun _ => True) (fun _ s' => AskExit hooks s.core call s'.core) s := by
  rw [onBeforeRequestComplete, wp_bind, runs_dcheckUnbound h.alive]
  refine wp_dcheck_of ?_
  rw [wp_bind, runs_socket h.alive, wp_bind]
  refine wp_dcheck_of ?_
  simp only [ne_eq, not_true, if_false, wp_bind, runs_socket h.alive, wp_ite, wp_modify]
  refine ⟨fun hextra => .asked hextra, fun hnone => ?_⟩
  refine wp_post (onBeforeSendHeadersCompleteFromProxy_ends h ω _) fun _ s' hexit => .unasked ?_ hexit
  exact Bool.eq_false_iff.2 hnone

theorem startSocket_ends (ω : Ω) (id : UInt64) : wp (startSocket hooks ω id) (fun _ => True)
    (fun _ s' => SocketStartExit hooks s.core s'.core) s := by
  simp (disch := exact h.alive) only [startSocket, wp_bind, runs_setSocket, runs_makeSocketCtx,
    runs_socket, wp_ite]
  refine ⟨fun _ => ?_, fun _ => ⟨fun _ => ?_, fun _ => ⟨fun hextra => ?_, fun hnone => ?_⟩⟩⟩
  · refine wp_post (onSocketError_ends (c := s.core) ?_ ?_ _) fun _ s' hdown => .tornDown hdown
    · exact h.congr rfl rfl
    · exact ⟨rfl, rfl, rfl, rfl, rfl, rfl⟩
  · refine wp_post (suspendSocket_ends ?_ _) ?_
    · exact h.alive
    · rintro _ s' ⟨_, _, hcore⟩
      exact hcore ▸ SocketStartExit.suspended (c := s.core)
  · refine wp_post (continueToStartRequest_ends ?_) ?_
    · exact h.congr rfl rfl
    · rintro _ s' ⟨hfactory, hrequested⟩
      exact hrequested ▸ .requested hextra hfactory
  · refine wp_post (onBeforeRequestComplete_ends ?_ ω none) fun _ s' hexit => ?_
    · exact h.congr rfl rfl
    · have halone : s.core.extraHeaders = false := Bool.eq_false_iff.2 hnone
      exact .unasked halone (hexit.of_alone halone)

/-! ## The response headers -/

theorem onHeadersReceivedComplete_ends (hextra : s.object.proxyHasExtraHeaders = true) (call : Nat) :
    wp (onHeadersReceivedComplete text call OK) F
    (fun _ s' => s'.core = s.core.asksHeaders text call) s := by
  simp only [onHeadersReceivedComplete, ne_eq, not_true, if_false, wp_bind, runs_socket h.alive,
    hextra, if_true, wp_modify]
  rfl

theorem continueToHeadersReceived_ends (hb : s.Bound) (ω : Ω) (call : Nat) :
    wp (continueToHeadersReceived text hooks ω call) F
      (fun _ s' => SocketHeadersExit text s.core call
          (hooks.onHeadersReceived ω (DumbRequestInfo.makeCTX s.object.request
        s.object.processId s.object.frameTreeNodeId s.object.requestId s.object.ctx) s.object.response)
        s.object.redirectUrl s'.core) s := by
  simp (disch := exact h.alive) only [continueToHeadersReceived, pauseIncomingMethodCallProcessing,
    wp_bind, runs_setSocket,
    runs_makeSocketCtx, runs_socket, wp_ite]
  set outcome := hooks.onHeadersReceived ω
    (DumbRequestInfo.makeCTX s.object.request s.object.processId
    s.object.frameTreeNodeId s.object.requestId s.object.ctx) s.object.response
  refine ⟨fun hblocks => ?_, fun hpasses => ⟨fun hpending => ?_, fun hok => ?_⟩⟩
  · refine wp_post (onSocketError_ends (c := s.core) ?_ ?_ _) fun _ s' hdown =>
      .tornDown hblocks hdown
    · exact h.congr rfl rfl
    · exact ⟨rfl, rfl, rfl, rfl, rfl, rfl⟩
  · refine wp_post (suspendSocket_ends ?_ _) ?_
    · exact h.alive
    · rintro _ s₁ ⟨ha, hobject, hcore⟩
      have hb₁ : s₁.Bound := ⟨hobject ▸ hb.extraHeaders, hobject ▸ hb.handshake,
        hobject ▸ hb.header⟩
      refine wp_post (setIncomingMethodCallProcessing_ends (ha.trans h.alive) hb₁ true) ?_
      rintro _ s' ⟨_, _, hpaused⟩
      rw [hpaused, hcore]
      exact SocketHeadersExit.suspended (c := s.core) hpasses hpending
  · refine wp_post (setIncomingMethodCallProcessing_ends ?_ ?_ true) ?_
    · exact h.alive
    · exact ⟨hb.extraHeaders, hb.handshake, hb.header⟩
    · rintro _ s₁ ⟨ha, hd, hpaused⟩
      have hextra : s₁.object.proxyHasExtraHeaders = true := by
        have hsame := congrArg SocketCore.extraHeaders hpaused
        exact hsame.trans hb.extraHeaders
      refine wp_post (onHeadersReceivedComplete_ends ⟨ha, hd.trans h.onDisconnect⟩ hextra call)
        fun _ s' hcore => ?_
      rw [hcore, hpaused]
      have hresult : outcome.result = .ok := by
        cases hr : outcome.result with
        | ok => rfl
        | blockedByClient => exact absurd (Or.inl hr) hpasses
        | ioPending => exact absurd hr hok
      exact SocketHeadersExit.asked (c := s.core) hpasses hresult

theorem onHeadersReceivedCompleteFromProxy_ends (hb : s.Bound) (errorCode : Int)
    (headers : Option String) (url : Option GURL) :
    wp (onHeadersReceivedCompleteFromProxy errorCode headers url) F
      (fun _ s' => s'.core = (s.core.repliesHeaders headers).setPaused false) s := by
  simp only [onHeadersReceivedCompleteFromProxy, resumeIncomingMethodCallProcessing, wp_bind,
    runs_socket h.alive]
  have hresume (s₁ : WebSocketSlot) (ha : s₁.alive = true) (hb₁ : s₁.Bound)
    (hcore : s₁.core = s.core.repliesHeaders headers) :
      wp (setIncomingMethodCallProcessing false) F
        (fun _ s' => s'.core = (s.core.repliesHeaders headers).setPaused false) s₁ := by
    refine wp_post (setIncomingMethodCallProcessing_ends ha hb₁ false) ?_
    rintro _ s' ⟨_, _, hresumed⟩
    rw [hresumed, hcore]
  rcases hcallback : s.object.onHeadersReceivedCallback with _ | call <;>
    rcases hoverride : s.object.overrideHeaders with _ | overrideHeaders <;>
    simp (disch := exact h.alive) only [wp_bind, runs_setSocket, wp_modify, hoverride] <;>
    refine hresume _ h.alive ⟨hb.extraHeaders, hb.handshake, hb.header⟩ ?_ <;>
    simp [WebSocketSlot.core, SocketCore.repliesHeaders, DumbProxyingWebSocket.proxyHasExtraHeaders,
      hcallback, hoverride]

/-! ## Events -/

theorem runSocketContinuation_ends {k : WebSocketContinuation}
    (hextra : ∀ call, k = .onHeadersReceivedComplete call → s.object.proxyHasExtraHeaders = true) (ω : Ω) :
    wp (runSocketContinuation text hooks ω OK k) (fun _ => True)
    (fun _ s' => ResumeExit text hooks s.core k s'.core) s := by
  cases k with
  | continueToStartRequest =>
    refine wp_post (continueToStartRequest_ends h) ?_
    rintro _ s' ⟨hfactory, hcore⟩
    exact hcore ▸ .requested hfactory
  | onBeforeRequestComplete =>
    exact wp_post (onBeforeRequestComplete_ends h ω none) fun _ s' hexit => .ask hexit
  | onBeforeSendHeadersComplete =>
    exact wp_post (onBeforeSendHeadersComplete_ends h) fun _ s' hexit => .reply hexit
  | onHeadersReceivedComplete call =>
    refine wp_post (onHeadersReceivedComplete_ends h (hextra call rfl) call) fun _ s' hcore => ?_
    exact hcore ▸ .asked

/-- A continuation that is run with an error. -/
theorem runSocketContinuation_failed {errorCode : Int} (herror : errorCode ≠ OK) (ω : Ω)
    (k : WebSocketContinuation) :
    wp (runSocketContinuation text hooks ω errorCode k) (fun _ => True)
    (fun _ s' => TornDown s.core s'.core) s := by
  have hdown : TornDown s.core { s.core with alive := false } := ⟨rfl, rfl, rfl, rfl, rfl, rfl⟩
  cases k with
  | continueToStartRequest =>
    rw [runSocketContinuation, continueToStartRequestSocket, if_pos herror]
    exact onSocketError_ends h hdown errorCode
  | onBeforeRequestComplete =>
    rw [runSocketContinuation, onBeforeRequestComplete, wp_bind, runs_dcheckUnbound h.alive]
    refine wp_dcheck_of ?_
    rw [wp_bind, runs_socket h.alive, wp_bind]
    refine wp_dcheck_of ?_
    rw [if_pos herror]
    exact onSocketError_ends h hdown errorCode
  | onBeforeSendHeadersComplete =>
    rw [runSocketContinuation, onBeforeSendHeadersComplete, wp_bind, runs_dcheckUnbound h.alive]
    refine wp_dcheck_of ?_
    rw [if_pos herror]
    exact onSocketError_ends h hdown errorCode
  | onHeadersReceivedComplete call =>
    rw [runSocketContinuation, onHeadersReceivedComplete, if_pos herror]
    exact onSocketError_ends h hdown errorCode

theorem passOnHandshake_ends (bound : DumbProxyingWebSocket → Bool) (m : HandshakeMessage) :
    wp (passOnHandshake bound m) (fun _ => True) (fun _ s' => s'.Ready ∧ s'.core = s.core) s := by
  simp only [passOnHandshake, wp_bind, runs_socket h.alive, wp_ite, wp_modify, wp_throw,
    implies_true, and_true]
  exact fun _ => ⟨h.congr rfl rfl, rfl⟩

/-- The last two calls of an event that ends the handshake. -/
theorem endsHandshake_ends (bound : DumbProxyingWebSocket → Bool)
    (m : HandshakeMessage) (errorCode : Int) :
    wp (do passOnHandshake bound m; onSocketError errorCode) (fun _ => True)
    (fun _ s' => TornDown s.core s'.core) s := by
  rw [wp_bind]
  refine wp_post (passOnHandshake_ends h bound m) ?_
  rintro _ s₁ ⟨hready, hcore⟩
  refine onSocketError_ends hready ?_ errorCode
  rw [hcore]
  exact ⟨rfl, rfl, rfl, rfl, rfl, rfl⟩

theorem onHeadersReceived_ends (hb : s.Bound) (ω : Ω) (headers : String)
    (remoteEndpoint : IPEndPoint) :
    wp ((WebSocketEvent.onHeadersReceived headers remoteEndpoint ω).run text hooks) F
      (fun _ s' => SocketHeadersExit text (s.core.calledHeaders headers remoteEndpoint)
          s.core.headersCalls.length
        (hooks.onHeadersReceived ω (DumbRequestInfo.makeCTX s.object.request s.object.processId
            s.object.frameTreeNodeId
          s.object.requestId s.object.ctx) (some (text.parse headers)))
            s.object.redirectUrl s'.core) s := by
  have hextra : s.object.proxyHasExtraHeaders = true := hb.extraHeaders
  simp (disch := exact h.alive) only [WebSocketEvent.run, onHeadersReceivedSocket, wp_bind, wp_get,
    wp_modify, runs_socket,
    wp_dcheck, hextra, true_implies, reduceCtorEq, false_implies, and_true, runs_setSocket]
  refine continueToHeadersReceived_ends ?_ ?_ ω _
  · exact h.congr rfl rfl
  · exact ⟨hb.extraHeaders, hb.handshake, hb.header⟩

theorem answerHeaders_ends (hb : s.Bound) {place : Nat} (hplace : place < s.awaitedHeaders.length)
    (errorCode : Int) (headers : Option String) (url : Option GURL) :
    wp ((WebSocketEvent.answerHeaders place errorCode headers url : WebSocketEvent Ω).run text hooks) F
      (fun _ s' => s'.core = ((s.core.answeredHeaders place
          ⟨some s.awaitedHeaders[place], errorCode,
        .onHeadersReceived headers url⟩).repliesHeaders headers).setPaused false) s := by
  simp only [WebSocketEvent.run, answerHeaders, wp_bind, wp_get, List.getElem?_eq_getElem hplace, wp_modify]
  refine onHeadersReceivedCompleteFromProxy_ends ?_ ?_ errorCode headers url
  · exact h.congr rfl rfl
  · exact ⟨hb.extraHeaders, hb.handshake, hb.header⟩

omit h in
theorem HookWrites.restrict_ctx (w : HookWrites) (f : DumbRequestInfo → DumbRequestInfo)
    (point : HookPoint) :
    { w with ctx := f }.restrict point = { w.restrict point with ctx := f } := by
  cases point <;> rfl

/-- A suspended hook ends: its last writes are made, and its continuation is run. -/
theorem runs_resumeHook {place : Nat} {x : SuspendedWebSocket}
    (hx : s.continuations[place]? = some x) {errorCode : Int} {writes : HookWrites} {ω : Ω}
    {Q : Unit → WebSocketSlot → Prop} :
    wp ((WebSocketEvent.resumeHook place errorCode writes ω).run text hooks) F Q s ↔
      wp (runSocketContinuation text hooks ω errorCode x.continuation) F Q
        (s.resumed place x writes) := by
  have hlive : ¬ (!s.alive) = true := by simp [h.alive]
  simp only [WebSocketEvent.run, resumeSocketHook, wp_bind, wp_get, hx, wp_modify, if_neg hlive]
  rw [runs_setSocket]
  · rfl
  · exact h.alive

theorem resumed_ready {place : Nat} {x : SuspendedWebSocket} {writes : HookWrites} :
    (s.resumed place x writes).Ready :=
  h.congr rfl rfl

omit h in
theorem resumed_core {place : Nat} {x : SuspendedWebSocket} {writes : HookWrites} :
    (s.resumed place x writes).core =
    s.core.resumed place (writes.restrict x.continuation.hookPoint) := by
  unfold WebSocketSlot.resumed
  split <;> simp [WebSocketSlot.core, SocketCore.resumed, DumbProxyingWebSocket.write,
    DumbProxyingWebSocket.proxyHasExtraHeaders, HookWrites.restrict_ctx, List.eraseIdx_map]

omit h in
theorem exists_suspended {place : Nat} {k : WebSocketContinuation}
    (hk : s.core.continuations[place]? = some k) :
    ∃ x, s.continuations[place]? = some x ∧ x.continuation = k := by
  rw [WebSocketSlot.core, List.getElem?_map] at hk
  exact Option.map_eq_some_iff.1 hk

theorem resumeHeaders_ends {place call : Nat} (hb : s.Bound)
    (hk : s.core.continuations[place]? = some (.onHeadersReceivedComplete call))
    (writes : HookWrites) (ω : Ω) :
    wp ((WebSocketEvent.resumeHook place OK writes ω).run text hooks) F
      (fun _ s' => s'.core = (s.core.resumed place (writes.restrict .headersReceived)).asksHeaders
          text call) s := by
  obtain ⟨x, hx, hcall⟩ := exists_suspended hk
  rw [runs_resumeHook h hx, hcall]
  refine wp_post (onHeadersReceivedComplete_ends (resumed_ready h) hb.extraHeaders call)
    fun _ s' hasked => ?_
  rw [hasked, resumed_core, hcall]
  rfl

/-- **Every event of a proxy that is alive is a step of the protocol.** -/
theorem run_step (e : WebSocketEvent Ω) (hen : e.isEnabled s = true)
    (hb : e.UsesReceivers s → s.Bound) :
    wp (e.run text hooks) (fun _ => True)
    (fun _ s' => SocketStep text hooks s.core e s'.core) s := by
  cases e with
  | handshakeClient =>
    rw [WebSocketEvent.run, runs_setSocket h.alive]
    exact .passedOn .handshakeClient
  | start id ω =>
    have hstarted : s.core.started = false := by
      simpa [WebSocketEvent.isEnabled, WebSocketSlot.core, h.alive] using hen
    simp only [WebSocketEvent.run, wp_bind, wp_modify]
    refine wp_post (startSocket_ends ?_ ω id) fun _ s' hexit => .start hstarted hexit
    exact h.congr rfl rfl
  | webSocketFactoryRun id url additionalHeaders trustedHeaderClient ω =>
    have hstarted : s.core.started = false := by
      simpa [WebSocketEvent.isEnabled, WebSocketSlot.core, h.alive] using hen
    simp (disch := exact h.alive) only [WebSocketEvent.run, webSocketFactoryRun, wp_bind,
      wp_modify, runs_setSocket,
      runs_socket, wp_dcheck, implies_true, and_true, wp_ite]
    refine fun _ => ⟨fun _ => ?_, fun _ => ?_⟩
    · refine wp_post (startSocket_ends ?_ ω id) fun _ s' hexit =>
        .webSocketFactoryRun hstarted hexit
      exact h.congr rfl rfl
    · refine wp_post (startSocket_ends ?_ ω id) fun _ s' hexit =>
        .webSocketFactoryRun hstarted hexit
      exact h.congr rfl rfl
  | onOpeningHandshakeStarted =>
    refine wp_post (passOnHandshake_ends h _ _) ?_
    rintro _ s' ⟨_, hcore⟩
    exact hcore ▸ .passedOn .onOpeningHandshakeStarted
  | onFailure => exact .passedOn .onFailure
  | onConnectionEstablished remoteEndpoint =>
    simp only [WebSocketEvent.run, onConnectionEstablished, wp_bind, runs_setSocket h.alive]
    rw [← wp_bind]
    refine wp_post (endsHandshake_ends ?_ _ _ _) fun _ s' hdown => ?_
    · exact h.congr rfl rfl
    · exact .ended .onConnectionEstablished (hdown.of_eq rfl rfl rfl rfl rfl)
  | onMojoConnectionError customReason description =>
    have hdown : TornDown s.core { s.core with alive := false } := ⟨rfl, rfl, rfl, rfl, rfl, rfl⟩
    rw [WebSocketEvent.run, onMojoConnectionError, wp_bind, runs_socket h.alive, wp_ite]
    refine ⟨fun _ => ?_, fun _ => ?_⟩
    · exact wp_post (endsHandshake_ends h _ _ _) fun _ s' hdown =>
        .ended .onMojoConnectionError hdown
    · exact wp_post (onSocketError_ends h hdown _) fun _ s' hdown =>
        .ended .onMojoConnectionError hdown
  | onAuthRequired =>
    refine wp_post (passOnHandshake_ends h _ _) ?_
    rintro _ s' ⟨_, hcore⟩
    exact hcore ▸ .passedOn .onAuthRequired
  | onBeforeSendHeaders headers ω =>
    have hreceiver : s.core.headerReceiver = .bound false := by
      simpa [WebSocketEvent.isEnabled, WebSocketSlot.core, h.alive] using hen
    simp (disch := exact h.alive) only [WebSocketEvent.run, onBeforeSendHeaders, wp_bind, wp_get,
      wp_modify, runs_socket,
      wp_dcheck, implies_true, and_true, runs_setSocket]
    refine fun _ => wp_post (onBeforeRequestComplete_ends ?_ ω _) fun _ s' hexit =>
      .onBeforeSendHeaders hreceiver hexit
    exact h.congr rfl rfl
  | onHeadersReceived headers remoteEndpoint ω =>
    have hreceiver : s.core.headerReceiver = .bound false := by
      simpa [WebSocketEvent.isEnabled, WebSocketSlot.core, h.alive] using hen
    refine wp_post (onHeadersReceived_ends h (hb trivial) ω headers remoteEndpoint)
      fun _ s' hexit => ?_
    exact .onHeadersReceived hreceiver hexit
  | answerBeforeSend place errorCode headers ω =>
    have hplace : place < s.awaitedBeforeSend.length := by
      simpa [WebSocketEvent.isEnabled, h.alive] using hen
    have hcall : s.core.awaitedBeforeSend[place]? = some s.awaitedBeforeSend[place] :=
      List.getElem?_eq_getElem hplace
    simp only [WebSocketEvent.run, answerBeforeSend, wp_bind, wp_get,
      List.getElem?_eq_getElem hplace, wp_modify]
    by_cases herror : errorCode = OK
    · subst herror
      refine wp_post (onBeforeSendHeadersCompleteFromProxy_ends ?_ ω headers) fun _ s' hexit => ?_
      · exact h.congr rfl rfl
      · exact .answerBeforeSend hcall rfl hexit
    · rw [onBeforeSendHeadersCompleteFromProxy, wp_bind, runs_dcheckUnbound]
      · refine wp_dcheck_of ?_
        rw [if_pos herror]
        refine wp_post (onSocketError_ends ?_ ?_ errorCode) fun _ s' hdown =>
          .refusedBeforeSend hcall herror hdown
        · exact h.congr rfl rfl
        · exact ⟨rfl, rfl, rfl, rfl, rfl, rfl⟩
      · exact h.alive
  | answerHeaders place errorCode headers url =>
    have hplace : place < s.awaitedHeaders.length := by
      simpa [WebSocketEvent.isEnabled, h.alive] using hen
    have hcall : s.core.awaitedHeaders[place]? = some s.awaitedHeaders[place] :=
      List.getElem?_eq_getElem hplace
    refine wp_post (answerHeaders_ends h (hb trivial) hplace errorCode headers url)
      fun _ s' hcore => ?_
    exact hcore ▸ .answerHeaders hcall
  | resumeHook place errorCode writes ω =>
    have hplace : place < s.continuations.length := by simpa [WebSocketEvent.isEnabled] using hen
    have hk : s.core.continuations[place]? = some s.continuations[place].continuation := by
      simp [WebSocketSlot.core, hplace]
    rw [runs_resumeHook h (List.getElem?_eq_getElem hplace)]
    by_cases herror : errorCode = OK
    · subst herror
      refine wp_post (runSocketContinuation_ends (resumed_ready h) (fun call hcall => ?_) ω)
        fun _ s' hexit => ?_
      · exact (hb ⟨call, hcall ▸ hk⟩).extraHeaders
      · exact .resumeHook hk rfl (resumed_core ▸ hexit)
    · refine wp_post (runSocketContinuation_failed (resumed_ready h) herror ω _)
        fun _ s' hdown => ?_
      rw [resumed_core] at hdown
      exact .failedHook hk herror (hdown.of_eq rfl rfl rfl rfl rfl)

end Methods

end DumbBrowser
