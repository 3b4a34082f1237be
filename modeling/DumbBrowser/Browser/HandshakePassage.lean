import DumbBrowser.Browser.HandshakeOrder

/-!
# What passes through a handshake

A `Passage` is the part of a slot that decides what is passed on: the request to the network in one
direction, the messages of the handshake in the other. `PassageStep` says how each event changes it.

* `run_passage` : every event of a proxy that is alive is a `PassageStep`, or its checks fail.
-/

namespace DumbBrowser

open NetError Exec

@[simp] theorem Receiver.isBound_bound (paused : Bool) :
    (Receiver.bound paused).isBound = true := rfl

structure Passage where
  alive : Bool
  started : Bool
  extraHeaders : Bool
  factory : Bool
  /-- `forwarding_handshake_client_` and `proxy_auth_handler_` are bound. -/
  client : Bool
  authHandler : Bool
  handshakeReceiver : Bool
  headerReceiver : Bool
  authReceiver : Bool
  continuations : List WebSocketContinuation
  awaitedBeforeSend : List (Option Nat)
  url : GURL
  requests : List WebSocketRequest
  handshake : List HandshakeMessage

def WebSocketSlot.passage (s : WebSocketSlot) : Passage where
  alive := s.alive
  started := s.started
  extraHeaders := s.object.proxyHasExtraHeaders
  factory := s.object.factory
  client := s.object.forwardingHandshakeClient
  authHandler := s.object.proxyAuthHandler
  handshakeReceiver := s.object.receiverAsHandshakeClient.isBound
  headerReceiver := s.object.receiverAsHeaderClient.isBound
  authReceiver := s.object.receiverAsAuthHandler
  continuations := s.continuations.map (·.continuation)
  awaitedBeforeSend := s.awaitedBeforeSend
  url := s.object.request.url
  requests := s.requests
  handshake := s.handshake

namespace Passage

def gone (p : Passage) : Passage := { p with alive := false }

def suspended (p : Passage) (k : WebSocketContinuation) : Passage :=
  { p with continuations := p.continuations ++ [k] }

/-- The network has the request. -/
def requested (p : Passage) (headers : HttpRequestHeaders) : Passage :=
  { p with
    factory := false
    handshakeReceiver := true
    headerReceiver := p.extraHeaders || p.headerReceiver
    authReceiver := true
    requests := p.requests ++ [⟨p.url, if p.extraHeaders then [] else headers, p.extraHeaders⟩] }

def passedOn (p : Passage) (m : HandshakeMessage) : Passage :=
  { p with handshake := p.handshake ++ [m] }

/-- The downstream client is asked about the headers of the request. -/
def asks (p : Passage) (call : Option Nat) : Passage :=
  { p with awaitedBeforeSend := p.awaitedBeforeSend ++ [call] }

end Passage

/-- The request can be made: `factory_` is there, and the handshake client is not bound. -/
structure Passage.Provides (p : Passage) : Prop where
  factory : p.factory = true
  handshakeReceiver : p.handshakeReceiver = false

/-- The request can be made whenever a method may lead to it. -/
structure Passage.Provided (p : Passage) : Prop where
  unstarted : p.started = false → p.Provides
  starting : .continueToStartRequest ∈ p.continuations → p.Provides
  alone : p.extraHeaders = false → p.headerReceiver = false ∧ p.awaitedBeforeSend = [] ∧
    (p.continuations ≠ [] → p.Provides)

/-- A message that ends the handshake. -/
def HandshakeMessage.isLast : HandshakeMessage → Bool
  | onConnectionEstablished _ | resetWithReason .. => true
  | onOpeningHandshakeStarted | onAuthRequired => false

/-- A message is to be passed on, and there is nobody to pass it on to; or the proxy is given a
handshake client, and has one. -/
def WebSocketEvent.Fails {Ω : Type} (s : WebSocketSlot) : WebSocketEvent Ω → Prop
  | onOpeningHandshakeStarted | onConnectionEstablished _ =>
    s.object.forwardingHandshakeClient = false
  | onAuthRequired => s.object.proxyAuthHandler = false
  | webSocketFactoryRun .. => s.object.forwardingHandshakeClient = true
  | _ => False

/-- The URL has the scheme of a WebSocket. -/
def WebSocketSlot.ForWebSocket (s : WebSocketSlot) : Prop :=
  s.object.request.url.schemeIsWSOrWSS = true

/-! ## How a run ends -/

section Ends
variable {Ω : Type} (hooks : Hooks Ω) (p : Passage)

/-- The hook before the request lets it pass. -/
def Hooks.LetsRequest : Prop :=
  ∃ ω ctx redirectUrl, (hooks.onBeforeURLRequest ω ctx).result = .ok ∧
    ¬ (hooks.onBeforeURLRequest ω ctx).Blocks redirectUrl

/-- The hook before the start lets the headers pass. -/
def Hooks.LetsHeaders : Prop := ∃ ω ctx headers,
    (hooks.onBeforeStartTransaction ω ctx headers).result = .ok

/-- The ends of `OnBeforeSendHeadersComplete`. -/
inductive ReplyPassage : Passage → Prop
  | replied : p.extraHeaders = true → ReplyPassage p
  | requested {headers} : p.extraHeaders = false → ReplyPassage (p.requested headers)

/-- The ends of `OnBeforeSendHeadersCompleteFromProxy`. -/
inductive TransactionPassage : Passage → Prop
  | gone : TransactionPassage p.gone
  | suspended : TransactionPassage (p.suspended .onBeforeSendHeadersComplete)
  | replied {p'} : hooks.LetsHeaders → ReplyPassage p p' → TransactionPassage p'

/-- The ends of `OnBeforeRequestComplete`. -/
inductive AskPassage (call : Option Nat) : Passage → Prop
  | asked : p.extraHeaders = true → AskPassage call (p.asks call)
  | unasked {p'} : p.extraHeaders = false → TransactionPassage hooks p p' → AskPassage call p'

theorem AskPassage.of_alone {hooks : Hooks Ω} {p p' : Passage} {call : Option Nat}
    (h : AskPassage hooks p call p') (halone : p.extraHeaders = false) :
    TransactionPassage hooks p p' := by
  cases h with
  | asked hextra => exact absurd (halone.symm.trans hextra) Bool.false_ne_true
  | unasked _ hexit => exact hexit

/-- The method that `Start` goes on with. -/
def Passage.startContinuation : WebSocketContinuation :=
  if p.extraHeaders then .continueToStartRequest else .onBeforeRequestComplete

/-- The ends of `Start`. -/
inductive StartPassage : Passage → Prop
  | gone : StartPassage p.gone
  | suspended : StartPassage (p.suspended p.startContinuation)
  | requested {headers} : hooks.LetsRequest → p.extraHeaders = true →
      StartPassage (p.requested headers)
  | unasked {p'} : hooks.LetsRequest → p.extraHeaders = false → TransactionPassage hooks p p' → StartPassage p'

/-- The ends of a continuation that is run with `net::OK`. -/
inductive ResumePassage : WebSocketContinuation → Passage → Prop
  | requested {headers} : ResumePassage .continueToStartRequest (p.requested headers)
  | ask {p'} : AskPassage hooks p none p' → ResumePassage .onBeforeRequestComplete p'
  | reply {p'} : ReplyPassage p p' → ResumePassage .onBeforeSendHeadersComplete p'
  | asked {call} : ResumePassage (.onHeadersReceivedComplete call) p

end Ends

/-! ## Steps -/

/-- How an event changes the passage of a proxy that is alive. -/
inductive PassageStep {Ω : Type} (hooks : Hooks Ω) (p : Passage) : WebSocketEvent Ω → Passage → Prop
  | handshakeClient : PassageStep hooks p .handshakeClient { p with client := false }
  | start {id ω p'} : p.started = false → StartPassage hooks { p with started := true } p' →
      PassageStep hooks p (.start id ω) p'
  | webSocketFactoryRun {id url additionalHeaders trustedHeaderClient ω p'} : p.started = false →
      StartPassage hooks { p with
        started := true
        extraHeaders := trustedHeaderClient || p.extraHeaders
        client := true
        authHandler := true } p' →
      PassageStep hooks p (.webSocketFactoryRun id url additionalHeaders trustedHeaderClient ω) p'
  | opened : p.handshakeReceiver = true →
      PassageStep hooks p .onOpeningHandshakeStarted (p.passedOn .onOpeningHandshakeStarted)
  | onFailure : PassageStep hooks p .onFailure p
  | ended {e m} : EndsHandshake e → p.handshakeReceiver = true → m.isLast = true →
      PassageStep hooks p e (p.passedOn m).gone
  | closed {customReason description} : p.handshakeReceiver = true →
      PassageStep hooks p (.onMojoConnectionError customReason description) p.gone
  | onAuthRequired : p.authReceiver = true →
      PassageStep hooks p .onAuthRequired (p.passedOn .onAuthRequired)
  | onBeforeSendHeaders {headers ω call p'} : p.headerReceiver = true →
      AskPassage hooks p (some call) p' →
      PassageStep hooks p (.onBeforeSendHeaders headers ω) p'
  | onHeadersReceived {headers remoteEndpoint ω p'} : p.headerReceiver = true →
      (p' = p.gone ∨ (∃ call, p' = p.suspended (.onHeadersReceivedComplete call)) ∨ p' = p) →
      PassageStep hooks p (.onHeadersReceived headers remoteEndpoint ω) p'
  | refusedBeforeSend {place errorCode headers ω} :
      PassageStep hooks p (.answerBeforeSend place errorCode headers ω)
        { p with awaitedBeforeSend := p.awaitedBeforeSend.eraseIdx place }.gone
  | answerBeforeSend {place errorCode headers ω p'} : place < p.awaitedBeforeSend.length →
      TransactionPassage hooks { p with awaitedBeforeSend := p.awaitedBeforeSend.eraseIdx place } p' →
      PassageStep hooks p (.answerBeforeSend place errorCode headers ω) p'
  | answerHeaders {place errorCode headers url} : PassageStep hooks p
      (.answerHeaders place errorCode headers url) p
  | failedHook {place errorCode writes ω} : PassageStep hooks p
      (.resumeHook place errorCode writes ω)
      { p with continuations := p.continuations.eraseIdx place }.gone
  | resumeHook {place writes ω k p'} : p.continuations[place]? = some k →
      ResumePassage hooks { p with continuations := p.continuations.eraseIdx place } k p' →
      PassageStep hooks p (.resumeHook place OK writes ω) p'

/-! ## Methods -/

theorem HookResult.ok_of_passes {result : HookResult} (hblocked : result ≠ .blockedByClient)
    (hpending : result ≠ .ioPending) :
    result = .ok := by
  cases result with
  | ok => rfl
  | blockedByClient => exact absurd rfl hblocked
  | ioPending => exact absurd rfl hpending

section Methods
variable {Ω : Type} {text : HeaderText} {hooks : Hooks Ω} {F : Fault → Prop}
  {s : WebSocketSlot} (h : s.Ready)
include h

theorem onSocketError_passage (errorCode : Int) :
    wp (onSocketError errorCode) F (fun _ s' => s'.passage = s.passage.gone) s := by
  rw [runs_onSocketError h.alive h.onDisconnect]
  rfl

theorem suspendSocket_passage (k : WebSocketContinuation) : wp (suspendSocket k) F
    (fun _ s' => s'.alive = true ∧ s'.object = s.object ∧ s'.passage = s.passage.suspended k) s := by
  simp only [suspendSocket, wp_bind, runs_socket h.alive, wp_modify]
  refine ⟨h.alive, trivial, ?_⟩
  simp [WebSocketSlot.passage, Passage.suspended]

theorem continueToStartRequest_passage (hfactory : s.passage.factory = true) :
    wp (continueToStartRequestSocket OK) F
    (fun _ s' => s'.passage = s.passage.requested s.object.request.headers) s := by
  have hmoved : ¬ (!s.object.factory) = true := by
    rw [Bool.not_eq_true', Bool.not_eq_false]
    exact hfactory
  simp only [continueToStartRequestSocket, ne_eq, not_true, if_false, wp_bind,
    runs_socket h.alive, if_neg hmoved,
    runs_setSocket h.alive, wp_modify]
  unfold WebSocketSlot.passage Passage.requested
  cases hextra : s.object.proxyHasExtraHeaders <;>
    simp [DumbProxyingWebSocket.proxyHasExtraHeaders] at hextra ⊢ <;>
    simp [hextra]

variable (hprovides : s.passage.extraHeaders = false → s.passage.Provides)
include hprovides

/-- The downstream client comes in between, or nothing is bound yet. -/
theorem runs_dcheckUnbound_of_provides {Q : Unit → WebSocketSlot → Prop} :
    wp dcheckUnbound F Q s ↔ Q () s := by
  have hcheck : (s.object.proxyHasExtraHeaders || !s.object.receiverAsHandshakeClient.isBound) = true := by
    rcases hextra : s.object.proxyHasExtraHeaders with _ | _
    · have hunbound : s.object.receiverAsHandshakeClient.isBound = false :=
        (hprovides hextra).handshakeReceiver
      simp [hunbound]
    · rfl
  rw [runs_dcheckUnbound h.alive, hcheck, wp_dcheck]
  simp

theorem onBeforeSendHeadersComplete_passage : wp (onBeforeSendHeadersComplete OK) F
    (fun _ s' => ReplyPassage s.passage s'.passage) s := by
  rw [onBeforeSendHeadersComplete, wp_bind, runs_dcheckUnbound_of_provides h hprovides]
  simp only [ne_eq, not_true, if_false, wp_bind]
  have hreplied : wp (runBeforeSendHeadersCallback OK) F (fun _ s' => s'.Ready ∧
      s'.passage = s.passage) s := by
    simp only [runBeforeSendHeadersCallback, wp_bind, runs_socket h.alive]
    rcases s.object.onBeforeSendHeadersCallback with _ | call
    · exact ⟨h, rfl⟩
    · simp only [wp_bind, runs_setSocket h.alive, wp_modify]
      exact ⟨h.congr rfl rfl, rfl⟩
  refine wp_post hreplied ?_
  rintro _ s₁ ⟨hready, hpassage⟩
  have hextra : s₁.object.proxyHasExtraHeaders = s.passage.extraHeaders :=
    congrArg Passage.extraHeaders hpassage
  simp only [runs_socket hready.alive, wp_ite, wp_pure, hextra,
    Bool.not_eq_true', Bool.not_eq_false]
  refine ⟨fun halone => ?_, fun hproxied => ?_⟩
  · refine wp_post (continueToStartRequest_passage hready ?_) fun _ s' hrequested => ?_
    · rw [hpassage]
      exact (hprovides halone).factory
    · rw [hrequested, hpassage]
      exact .requested halone
  · rw [hpassage]
    exact .replied hproxied

theorem onBeforeSendHeadersCompleteFromProxy_passage (ω : Ω) (headers : Option HttpRequestHeaders) :
    wp (onBeforeSendHeadersCompleteFromProxy hooks ω OK headers) F
      (fun _ s' => TransactionPassage hooks s.passage s'.passage) s := by
  rw [onBeforeSendHeadersCompleteFromProxy, wp_bind, runs_dcheckUnbound_of_provides h hprovides]
  simp (disch := exact h.alive) only [ne_eq, not_true, if_false, wp_bind, runs_setSocket,
    runs_makeSocketCtx, runs_socket]
  split
  · refine wp_post (onSocketError_passage ?_ _) fun _ s' hgone => ?_
    · exact h.congr rfl rfl
    · rw [hgone]
      exact TransactionPassage.gone (p := s.passage)
  · refine wp_post (suspendSocket_passage ?_ _) ?_
    · exact h.congr rfl rfl
    · rintro _ s' ⟨_, _, hsuspended⟩
      rw [hsuspended]
      exact TransactionPassage.suspended (p := s.passage)
  · next hresult =>
    refine wp_post (onBeforeSendHeadersComplete_passage ?_ ?_) fun _ s' hreply =>
      .replied ⟨_, _, _, hresult⟩ hreply
    · exact h.congr rfl rfl
    · exact hprovides

/-- Of the checks, only the one of the scheme can fail. -/
theorem onBeforeRequestComplete_passage (hF : ¬ s.ForWebSocket → F .checkFailed) (ω : Ω)
    (call : Option Nat) :
    wp (onBeforeRequestComplete hooks ω call OK) F
    (fun _ s' => AskPassage hooks s.passage call s'.passage) s := by
  rw [onBeforeRequestComplete, wp_bind, runs_dcheckUnbound_of_provides h hprovides]
  rw [wp_bind, runs_socket h.alive, wp_bind, wp_dcheck]
  refine ⟨fun _ => ?_, fun hscheme => hF (Bool.eq_false_iff.1 hscheme)⟩
  simp only [ne_eq, not_true, if_false, wp_bind, runs_socket h.alive, wp_ite, wp_modify]
  refine ⟨fun hextra => .asked hextra, fun hnone => ?_⟩
  refine wp_post (onBeforeSendHeadersCompleteFromProxy_passage h hprovides ω _) fun _ s' hexit =>
    .unasked ?_ hexit
  exact Bool.eq_false_iff.2 hnone

omit hprovides in
theorem startSocket_passage (hprovides : s.passage.Provides)
    (hF : ¬ s.ForWebSocket → F .checkFailed) (ω : Ω) (id : UInt64) :
    wp (startSocket hooks ω id) F (fun _ s' => StartPassage hooks s.passage s'.passage) s := by
  simp (disch := exact h.alive) only [startSocket, wp_bind, runs_setSocket, runs_makeSocketCtx,
    runs_socket, wp_ite]
  refine ⟨fun _ => ?_, fun hpasses => ⟨fun _ => ?_, fun hpending => ?_⟩⟩
  · refine wp_post (onSocketError_passage ?_ _) fun _ s' hgone => ?_
    · exact h.congr rfl rfl
    · rw [hgone]
      exact StartPassage.gone (p := s.passage)
  · refine wp_post (suspendSocket_passage ?_ _) ?_
    · exact h.congr rfl rfl
    · rintro _ s' ⟨_, _, hsuspended⟩
      rw [hsuspended]
      exact StartPassage.suspended (p := s.passage)
  · have hlets : hooks.LetsRequest :=
      ⟨_, _, _, HookResult.ok_of_passes (fun hblocked => hpasses (.inl hblocked)) hpending, hpasses⟩
    refine ⟨fun hextra => ?_, fun hnone => ?_⟩
    · refine wp_post (continueToStartRequest_passage ?_ ?_) fun _ s' hrequested => ?_
      · exact h.congr rfl rfl
      · exact hprovides.factory
      · rw [hrequested]
        exact StartPassage.requested (p := s.passage) hlets hextra
    · have halone : s.passage.extraHeaders = false := Bool.eq_false_iff.2 hnone
      refine wp_post (onBeforeRequestComplete_passage ?_ ?_ ?_ ω none) fun _ s' hexit => ?_
      · exact h.congr rfl rfl
      · exact fun _ => hprovides
      · exact hF
      · exact .unasked hlets halone (hexit.of_alone halone)

omit hprovides

/-! ## The response headers -/

theorem setIncomingMethodCallProcessing_passage (hb : s.Bound) (paused : Bool) :
    wp (setIncomingMethodCallProcessing paused) F
    (fun _ s' => s'.Ready ∧ s'.object.proxyHasExtraHeaders = true ∧
      s'.passage = s.passage) s := by
  have hextra : s.object.proxyTrustedHeaderClient = true := hb.extraHeaders
  simp (disch := first | exact h.alive | exact hb.handshake | exact hb.header)
    only [setIncomingMethodCallProcessing, wp_bind,
    runs_socket, runs_setPaused, runs_setSocket, DumbProxyingWebSocket.proxyHasExtraHeaders, hextra, if_true]
  refine ⟨h.congr rfl rfl, trivial, ?_⟩
  simp [WebSocketSlot.passage, DumbProxyingWebSocket.proxyHasExtraHeaders, hextra,
    hb.handshake, hb.header]

theorem onHeadersReceivedComplete_passage (hextra : s.object.proxyHasExtraHeaders = true) (call : Nat) :
    wp (onHeadersReceivedComplete text call OK) F (fun _ s' => s'.passage = s.passage) s := by
  simp only [onHeadersReceivedComplete, ne_eq, not_true, if_false, wp_bind, runs_socket h.alive,
    hextra, if_true, wp_modify]
  rfl

theorem onHeadersReceived_passage (hb : s.Bound) (ω : Ω) (headers : String)
    (remoteEndpoint : IPEndPoint) :
    wp (onHeadersReceivedSocket text hooks ω headers remoteEndpoint) F
    (fun _ s' => s'.passage = s.passage.gone ∨
      (∃ call, s'.passage = s.passage.suspended (.onHeadersReceivedComplete call)) ∨
        s'.passage = s.passage) s := by
  have hextra : s.object.proxyHasExtraHeaders = true := hb.extraHeaders
  simp (disch := exact h.alive) only [onHeadersReceivedSocket, continueToHeadersReceived,
    pauseIncomingMethodCallProcessing,
    wp_bind, wp_get, wp_modify, runs_socket, wp_dcheck, hextra, true_implies, reduceCtorEq,
      false_implies, and_true,
    runs_setSocket, runs_makeSocketCtx, wp_ite]
  refine ⟨fun _ => ?_, fun _ => ⟨fun _ => ?_, fun _ => ?_⟩⟩
  · refine wp_post (onSocketError_passage ?_ _) fun _ s' hgone => .inl hgone
    exact h.congr rfl rfl
  · refine wp_post (suspendSocket_passage ?_ _) ?_
    · exact h.congr rfl rfl
    · rintro _ s₁ ⟨ha, hobject, hsuspended⟩
      have hb₁ : s₁.Bound := ⟨hobject ▸ hb.extraHeaders, hobject ▸ hb.handshake,
        hobject ▸ hb.header⟩
      refine wp_post (setIncomingMethodCallProcessing_passage ⟨ha, ?_⟩ hb₁ true) ?_
      · rw [hobject]
        exact h.onDisconnect
      · rintro _ s' ⟨_, _, hpassage⟩
        exact .inr (.inl ⟨_, hpassage.trans hsuspended⟩)
  · refine wp_post (setIncomingMethodCallProcessing_passage ?_ ?_ true) ?_
    · exact h.congr rfl rfl
    · exact ⟨hb.extraHeaders, hb.handshake, hb.header⟩
    · rintro _ s₁ ⟨hready, hextra, hpassage⟩
      refine wp_post (onHeadersReceivedComplete_passage hready hextra _) fun _ s' hsame => ?_
      exact .inr (.inr (hsame.trans hpassage))

theorem onHeadersReceivedCompleteFromProxy_passage (hb : s.Bound) (errorCode : Int)
    (headers : Option String) (url : Option GURL) :
    wp (onHeadersReceivedCompleteFromProxy errorCode headers url) F
    (fun _ s' => s'.passage = s.passage) s := by
  simp only [onHeadersReceivedCompleteFromProxy, resumeIncomingMethodCallProcessing, wp_bind,
    runs_socket h.alive]
  have hresume (s₁ : WebSocketSlot) (hready : s₁.Ready) (hb₁ : s₁.Bound)
    (hpassage : s₁.passage = s.passage) :
      wp (setIncomingMethodCallProcessing false) F (fun _ s' => s'.passage = s.passage) s₁ := by
    refine wp_post (setIncomingMethodCallProcessing_passage hready hb₁ false) ?_
    rintro _ s' ⟨_, _, hsame⟩
    exact hsame.trans hpassage
  rcases s.object.onHeadersReceivedCallback with _ | call <;>
    rcases hoverride : s.object.overrideHeaders with _ | overrideHeaders <;>
    simp (disch := exact h.alive) only [wp_bind, runs_setSocket, wp_modify, hoverride] <;>
    exact hresume _ (h.congr rfl rfl) ⟨hb.extraHeaders, hb.handshake, hb.header⟩ rfl

/-! ## Events -/

theorem passOnHandshake_passage {bound : DumbProxyingWebSocket → Bool} {m : HandshakeMessage}
    (hF : bound s.object = false → F .nullDereference) :
    wp (passOnHandshake bound m) F
    (fun _ s' => s'.Ready ∧ s'.passage = s.passage.passedOn m) s := by
  simp only [passOnHandshake, wp_bind, runs_socket h.alive, wp_ite, wp_modify,
    wp_throw, Bool.not_eq_true]
  exact ⟨fun _ => ⟨h.congr rfl rfl, rfl⟩, hF⟩

theorem endsHandshake_passage {bound : DumbProxyingWebSocket → Bool}
    {m : HandshakeMessage} {errorCode : Int} (hF : bound s.object = false → F .nullDereference) :
    wp (do passOnHandshake bound m; onSocketError errorCode) F
    (fun _ s' => s'.passage = (s.passage.passedOn m).gone) s := by
  rw [wp_bind]
  refine wp_post (passOnHandshake_passage h hF) ?_
  rintro _ s₁ ⟨hready, hpassage⟩
  refine wp_post (onSocketError_passage hready errorCode) fun _ s' hgone => ?_
  rw [hgone, hpassage]

/-- A continuation that is run with an error. -/
theorem failedContinuation_passage {errorCode : Int} (herror : errorCode ≠ OK) (ω : Ω)
    (k : WebSocketContinuation) (hprovides : s.passage.extraHeaders = false → s.passage.Provides)
    (hF : ¬ s.ForWebSocket → F .checkFailed) :
    wp (runSocketContinuation text hooks ω errorCode k) F
    (fun _ s' => s'.passage = s.passage.gone) s := by
  cases k with
  | continueToStartRequest =>
    rw [runSocketContinuation, continueToStartRequestSocket, if_pos herror]
    exact onSocketError_passage h errorCode
  | onBeforeRequestComplete =>
    rw [runSocketContinuation, onBeforeRequestComplete, wp_bind,
      runs_dcheckUnbound_of_provides h hprovides, wp_bind,
      runs_socket h.alive, wp_bind, wp_dcheck, if_pos herror]
    exact ⟨fun _ => onSocketError_passage h errorCode, fun hscheme =>
      hF (Bool.eq_false_iff.1 hscheme)⟩
  | onBeforeSendHeadersComplete =>
    rw [runSocketContinuation, onBeforeSendHeadersComplete, wp_bind,
      runs_dcheckUnbound_of_provides h hprovides,
      if_pos herror]
    exact onSocketError_passage h errorCode
  | onHeadersReceivedComplete call =>
    rw [runSocketContinuation, onHeadersReceivedComplete, if_pos herror]
    exact onSocketError_passage h errorCode

theorem runSocketContinuation_passage {k : WebSocketContinuation}
    (hstart : k = .continueToStartRequest → s.passage.factory = true)
    (hprovides : s.passage.extraHeaders = false → s.passage.Provides)
    (hF : ¬ s.ForWebSocket → F .checkFailed)
    (hextra : ∀ call, k = .onHeadersReceivedComplete call → s.object.proxyHasExtraHeaders = true) (ω : Ω) :
    wp (runSocketContinuation text hooks ω OK k) F
    (fun _ s' => ResumePassage hooks s.passage k s'.passage) s := by
  cases k with
  | continueToStartRequest =>
    refine wp_post (continueToStartRequest_passage h (hstart rfl)) fun _ s' hrequested => ?_
    rw [hrequested]
    exact .requested
  | onBeforeRequestComplete =>
    exact wp_post (onBeforeRequestComplete_passage h hprovides hF ω none) fun _ s' hexit => .ask hexit
  | onBeforeSendHeadersComplete =>
    exact wp_post (onBeforeSendHeadersComplete_passage h hprovides) fun _ s' hreply => .reply hreply
  | onHeadersReceivedComplete call =>
    refine wp_post (onHeadersReceivedComplete_passage h (hextra call rfl) call) fun _ s' hsame => ?_
    rw [hsame]
    exact .asked

omit h in
theorem resumed_passage {place : Nat} {x : SuspendedWebSocket} {writes : HookWrites} :
    (s.resumed place x writes).passage =
    { s.passage with continuations := s.passage.continuations.eraseIdx place } := by
  simp [WebSocketSlot.resumed, WebSocketSlot.passage, DumbProxyingWebSocket.write,
    DumbProxyingWebSocket.proxyHasExtraHeaders, List.eraseIdx_map]

/-- **Every event of a proxy that is alive is a step of its passage**, unless a check of the clients
or of the scheme fails. -/
theorem run_passage (hprovided : s.passage.Provided) (e : WebSocketEvent Ω)
    (hen : e.isEnabled s = true) (hb : e.UsesReceivers s → s.Bound) :
    wp (e.run text hooks) (fun _ => e.Fails s ∨ ¬ s.ForWebSocket)
    (fun _ s' => PassageStep hooks s.passage e s'.passage) s := by
  have hbound {r : Receiver} (hreceiving : r = .bound false) : r.isBound = true := by
    rw [hreceiving, Receiver.isBound]
  cases e with
  | handshakeClient =>
    rw [WebSocketEvent.run, runs_setSocket h.alive]
    exact .handshakeClient
  | start id ω =>
    have hstarted : s.passage.started = false := by
      simpa [WebSocketEvent.isEnabled, WebSocketSlot.passage, h.alive] using hen
    simp only [WebSocketEvent.run, wp_bind, wp_modify]
    refine wp_post (startSocket_passage ?_ ?_ ?_ ω id) fun _ s' hexit => .start hstarted hexit
    · exact h.congr rfl rfl
    · have hprovides := hprovided.unstarted hstarted
      exact ⟨hprovides.factory, hprovides.handshakeReceiver⟩
    · exact Or.inr
  | webSocketFactoryRun id url additionalHeaders trustedHeaderClient ω =>
    have hstarted : s.passage.started = false := by
      simpa [WebSocketEvent.isEnabled, WebSocketSlot.passage, h.alive] using hen
    have hprovides := hprovided.unstarted hstarted
    simp (disch := exact h.alive) only [WebSocketEvent.run, webSocketFactoryRun, wp_bind,
      wp_modify, runs_setSocket,
      runs_socket, wp_dcheck, wp_ite]
    refine ⟨fun _ => ⟨fun _ => ?_, fun _ => ?_⟩, fun hclient =>
      .inl ((Bool.not_eq_false' _).mp hclient)⟩
    · refine wp_post (startSocket_passage ?_ ?_ ?_ ω id) fun _ s' hexit =>
        .webSocketFactoryRun hstarted hexit
      · exact h.congr rfl rfl
      · exact ⟨hprovides.factory, hprovides.handshakeReceiver⟩
      · exact Or.inr
    · refine wp_post (startSocket_passage ?_ ?_ ?_ ω id) fun _ s' hexit =>
        .webSocketFactoryRun hstarted hexit
      · exact h.congr rfl rfl
      · exact ⟨hprovides.factory, hprovides.handshakeReceiver⟩
      · exact Or.inr
  | onOpeningHandshakeStarted =>
    simp only [WebSocketEvent.isEnabled, Bool.and_eq_true, decide_eq_true_eq] at hen
    refine wp_post (passOnHandshake_passage h Or.inl) ?_
    rintro _ s' ⟨_, hpassage⟩
    exact hpassage ▸ .opened (hbound hen.2)
  | onFailure => exact .onFailure
  | onConnectionEstablished remoteEndpoint =>
    simp only [WebSocketEvent.isEnabled, Bool.and_eq_true, decide_eq_true_eq] at hen
    simp only [WebSocketEvent.run, onConnectionEstablished, wp_bind, runs_setSocket h.alive]
    rw [← wp_bind]
    refine wp_post (endsHandshake_passage ?_ ?_) fun _ s' hpassage => ?_
    · exact h.congr rfl rfl
    · exact Or.inl
    · rw [hpassage]
      exact .ended (p := s.passage) .onConnectionEstablished (hbound hen.2) rfl
  | onMojoConnectionError customReason description =>
    simp only [WebSocketEvent.isEnabled, Bool.and_eq_true] at hen
    rw [WebSocketEvent.run, onMojoConnectionError, wp_bind, runs_socket h.alive, wp_ite]
    refine ⟨fun hclient => ?_, fun _ => ?_⟩
    · refine wp_post (endsHandshake_passage h fun hnone => ?_) fun _ s' hpassage => ?_
      · exact absurd (hnone.symm.trans hclient) Bool.false_ne_true
      · rw [hpassage]
        exact .ended .onMojoConnectionError hen.2 rfl
    · refine wp_post (onSocketError_passage h _) fun _ s' hgone => ?_
      rw [hgone]
      exact .closed hen.2
  | onAuthRequired =>
    simp only [WebSocketEvent.isEnabled, Bool.and_eq_true] at hen
    refine wp_post (passOnHandshake_passage h Or.inl) ?_
    rintro _ s' ⟨_, hpassage⟩
    exact hpassage ▸ .onAuthRequired hen.2
  | onBeforeSendHeaders headers ω =>
    simp only [WebSocketEvent.isEnabled, Bool.and_eq_true, decide_eq_true_eq] at hen
    have hreceiver : s.passage.headerReceiver = true := hbound hen.2
    have hextra : s.object.proxyHasExtraHeaders = true := by
      by_contra halone
      exact absurd ((hprovided.alone (Bool.eq_false_iff.2 halone)).1.symm.trans hreceiver) Bool.false_ne_true
    simp (disch := exact h.alive) only [WebSocketEvent.run, onBeforeSendHeaders, wp_bind, wp_get,
      wp_modify, runs_socket,
      wp_dcheck, hextra, true_implies, reduceCtorEq, false_implies, and_true, runs_setSocket]
    refine wp_post (onBeforeRequestComplete_passage ?_ ?_ ?_ ω _) fun _ s' hexit =>
      .onBeforeSendHeaders hreceiver hexit
    · exact h.congr rfl rfl
    · exact fun halone => absurd (halone.symm.trans hextra) Bool.false_ne_true
    · exact Or.inr
  | onHeadersReceived headers remoteEndpoint ω =>
    simp only [WebSocketEvent.isEnabled, Bool.and_eq_true, decide_eq_true_eq] at hen
    exact wp_post (onHeadersReceived_passage h (hb trivial) ω headers remoteEndpoint) fun _ s' hexit =>
      .onHeadersReceived (hbound hen.2) hexit
  | answerBeforeSend place errorCode headers ω =>
    have hplace : place < s.awaitedBeforeSend.length := by
      simpa [WebSocketEvent.isEnabled, h.alive] using hen
    have hextra : s.passage.extraHeaders ≠ false := by
      intro halone
      have hnone : s.awaitedBeforeSend = [] := (hprovided.alone halone).2.1
      simp [hnone] at hplace
    simp only [WebSocketEvent.run, answerBeforeSend, wp_bind, wp_get,
      List.getElem?_eq_getElem hplace, wp_modify]
    by_cases herror : errorCode = OK
    · subst herror
      refine wp_post (onBeforeSendHeadersCompleteFromProxy_passage ?_ ?_ ω headers)
        fun _ s' hexit => ?_
      · exact h.congr rfl rfl
      · exact fun halone => absurd halone hextra
      · exact .answerBeforeSend hplace hexit
    · rw [onBeforeSendHeadersCompleteFromProxy, wp_bind, runs_dcheckUnbound_of_provides, if_pos herror]
      · refine wp_post (onSocketError_passage ?_ errorCode) fun _ s' hgone => ?_
        · exact h.congr rfl rfl
        · rw [hgone]
          exact .refusedBeforeSend
      · exact h.congr rfl rfl
      · exact fun halone => absurd halone hextra
  | answerHeaders place errorCode headers url =>
    have hplace : place < s.awaitedHeaders.length := by
      simpa [WebSocketEvent.isEnabled, h.alive] using hen
    have hbounds := hb trivial
    simp only [WebSocketEvent.run, answerHeaders, wp_bind, wp_get, List.getElem?_eq_getElem hplace, wp_modify]
    refine wp_post (onHeadersReceivedCompleteFromProxy_passage ?_ ?_ errorCode headers url)
      fun _ s' hpassage => ?_
    · exact h.congr rfl rfl
    · exact ⟨hbounds.extraHeaders, hbounds.handshake, hbounds.header⟩
    · rw [hpassage]
      exact .answerHeaders
  | resumeHook place errorCode writes ω =>
    have hplace : place < s.continuations.length := by simpa [WebSocketEvent.isEnabled] using hen
    have hk : s.passage.continuations[place]? = some s.continuations[place].continuation := by
      simp [WebSocketSlot.passage, hplace]
    rw [runs_resumeHook h (List.getElem?_eq_getElem hplace)]
    have hprovides {x : SuspendedWebSocket}
      (halone : (s.resumed place x writes).passage.extraHeaders = false) :
        (s.resumed place x writes).passage.Provides := by
      rw [resumed_passage] at halone ⊢
      have halone' := (hprovided.alone halone).2.2 (List.ne_nil_of_mem (List.mem_of_getElem? hk))
      exact ⟨halone'.factory, halone'.handshakeReceiver⟩
    by_cases herror : errorCode = OK
    · subst herror
      refine wp_post (runSocketContinuation_passage (resumed_ready h) (fun hstart => ?_) hprovides Or.inr
        (fun call hcall => ?_) ω) fun _ s' hexit => .resumeHook hk (resumed_passage ▸ hexit)
      · exact (hprovided.starting (hstart ▸ List.mem_of_getElem? hk)).factory
      · exact (hb ⟨call, hcall ▸ hk⟩).extraHeaders
    · refine wp_post (failedContinuation_passage (resumed_ready h) herror ω _ hprovides Or.inr)
        fun _ s' hgone => ?_
      rw [hgone, resumed_passage]
      exact .failedHook

end Methods

end DumbBrowser
