import DumbBrowser.Browser.HandshakeOrder
import DumbBrowser.Browser.HeadersReceived

/-!
# The response headers that the downstream client sees

The network's calls of `OnHeadersReceived`, and those of the downstream client that they lead to.

* `shown_headers_iff` : a call is passed on once, unless its hook blocks it; and when it is passed
  on with its own headers and endpoint.
-/

namespace DumbBrowser

open NetError Exec

/-! ## Calls of the downstream client -/

/-- What the downstream client is told of a call. -/
def DownstreamHeaders.Sent (text : HeaderText) (d : DownstreamHeaders) : Prop :=
  d.remoteEndpoint = {} ∧ d.headers = (d.overrideHeaders.map text.rawHeaders).getD ""

/-- The downstream client's `OnHeadersReceived` has not been called. -/
structure Unshown (c c' : SocketCore) : Prop where
  downstreamHeaders : c'.downstreamHeaders = c.downstreamHeaders
  calls : c.headersCalls.length ≤ c'.headersCalls.length

section Steps
variable {Ω : Type} {text : HeaderText} {hooks : Hooks Ω} {c c₁ c' : SocketCore}

theorem TornDown.unshown (h : TornDown c c') : Unshown c c' :=
  ⟨h.downstreamHeaders, Nat.le_of_eq (congrArg List.length h.headersCalls.symm)⟩

theorem Unshown.trans (h : Unshown c c₁) (h' : Unshown c₁ c') : Unshown c c' :=
  ⟨h'.downstreamHeaders.trans h.downstreamHeaders, Nat.le_trans h.calls h'.calls⟩

theorem BeforeSendReply.unshown (h : BeforeSendReply c c') : Unshown c c' := by
  cases h with
  | replied _ => exact ⟨rfl, Nat.le_refl _⟩
  | requested _ _ => exact ⟨rfl, Nat.le_refl _⟩

theorem BeforeSendExit.unshown {headers : HttpRequestHeaders}
    (h : BeforeSendExit hooks c headers c') : Unshown c c' := by
  cases h with
  | tornDown _ hdown => exact hdown.unshown
  | suspended _ => exact ⟨rfl, Nat.le_refl _⟩
  | replied _ hreply => exact ⟨hreply.unshown.downstreamHeaders, hreply.unshown.calls⟩

theorem AskExit.unshown {call : Option Nat} (h : AskExit hooks c call c') : Unshown c c' := by
  cases h with
  | asked _ => exact ⟨rfl, Nat.le_refl _⟩
  | unasked _ hexit => exact hexit.unshown

theorem SocketStartExit.unshown (h : SocketStartExit hooks c c') : Unshown c c' := by
  cases h with
  | tornDown hdown => exact hdown.unshown
  | suspended => exact ⟨rfl, Nat.le_refl _⟩
  | requested _ _ => exact ⟨rfl, Nat.le_refl _⟩
  | unasked _ hexit => exact hexit.unshown

/-- The downstream client has been called for a call of the network. -/
inductive ShowsCall (text : HeaderText) (c c' : SocketCore) : Prop
  | intro (call : Nat) (overrideHeaders : Option HttpResponseHeaders) (halive : c'.alive = c.alive)
      (hshown : c'.downstreamHeaders = c.downstreamHeaders ++
        [⟨call, (overrideHeaders.map text.rawHeaders).getD "", c.remoteEndpoint, overrideHeaders⟩])

theorem SocketStep.shows {e : WebSocketEvent Ω} (h : SocketStep text hooks c e c') : Unshown c c' ∨
    ShowsCall text c c' := by
  cases h with
  | passedOn _ => exact Or.inl ⟨rfl, Nat.le_refl _⟩
  | ended _ hdown => exact Or.inl hdown.unshown
  | start _ hexit => exact Or.inl ⟨hexit.unshown.downstreamHeaders, hexit.unshown.calls⟩
  | webSocketFactoryRun _ hexit =>
    exact Or.inl ⟨hexit.unshown.downstreamHeaders, hexit.unshown.calls⟩
  | onBeforeSendHeaders _ hexit =>
    exact Or.inl ⟨hexit.unshown.downstreamHeaders, hexit.unshown.calls⟩
  | @onHeadersReceived headers remoteEndpoint _ _ _ _ _ hexit =>
    have hcalled : Unshown c (c.calledHeaders headers remoteEndpoint) :=
      ⟨rfl, by simp [SocketCore.calledHeaders]⟩
    cases hexit with
    | tornDown _ hdown => exact Or.inl (hcalled.trans hdown.unshown)
    | suspended _ _ => exact Or.inl (hcalled.trans ⟨rfl, Nat.le_refl _⟩)
    | asked _ _ => exact Or.inr ⟨_, _, rfl, rfl⟩
  | refusedBeforeSend _ _ hdown =>
    exact Or.inl ⟨hdown.downstreamHeaders,
      Nat.le_of_eq (congrArg List.length hdown.headersCalls.symm)⟩
  | answerBeforeSend _ _ hexit =>
    exact Or.inl ⟨hexit.unshown.downstreamHeaders, hexit.unshown.calls⟩
  | answerHeaders _ => exact Or.inl ⟨rfl, Nat.le_refl _⟩
  | failedHook _ _ hdown => exact Or.inl hdown.unshown
  | resumeHook _ _ hexit =>
    cases hexit with
    | requested _ => exact Or.inl ⟨rfl, Nat.le_refl _⟩
    | ask hexit => exact Or.inl ⟨hexit.unshown.downstreamHeaders, hexit.unshown.calls⟩
    | reply hreply => exact Or.inl ⟨hreply.unshown.downstreamHeaders, hreply.unshown.calls⟩
    | asked => exact Or.inr ⟨_, _, rfl, rfl⟩

/-- A call is passed on at once, with the override of its hook, unless the hook blocks or suspends
it. -/
theorem SocketHeadersExit.passes {call : Nat} {outcome : HookOutcome} {redirectUrl : GURL}
    (h : SocketHeadersExit text c call outcome redirectUrl c') (ha : c.alive = true) :
    (c'.alive = false ↔ outcome.Blocks redirectUrl) ∧ (c'.alive = true → outcome.result = .ok →
      ∃ d ∈ c'.downstreamHeaders, d.call = call ∧
        d.overrideHeaders = outcome.writes.overrideHeaders c.overrideHeaders) := by
  cases h with
  | tornDown hblocks hdown =>
    refine ⟨⟨fun _ => hblocks, fun _ => hdown.alive⟩, fun hlive => ?_⟩
    simp [hdown.alive] at hlive
  | suspended hpasses hpending =>
    refine ⟨⟨fun hdead => absurd (hdead.symm.trans ha) Bool.false_ne_true, fun hblocks =>
      absurd hblocks hpasses⟩, ?_⟩
    intro _ hok
    simp [hpending] at hok
  | asked hpasses _ =>
    refine ⟨⟨fun hdead => absurd (hdead.symm.trans ha) Bool.false_ne_true, fun hblocks =>
      absurd hblocks hpasses⟩, ?_⟩
    exact fun _ _ => ⟨_, List.mem_append_right _ (List.mem_singleton_self _), rfl, rfl⟩

/-- What the downstream client is told, and in a proxy that is gone, which calls it has been told
of. -/
structure Shown (text : HeaderText) (c : SocketCore) : Prop where
  sent : ∀ d ∈ c.downstreamHeaders, d.Sent text
  inOrder : c.alive = false → ∃ m ≤ c.headersCalls.length,
    c.downstreamHeaders.map (·.call) = List.range m

theorem HeadersPhase.inOrder {p : HeadersPart} (h : HeadersPhase p) :
    ∃ m ≤ p.calls, p.asked = List.range m := by
  cases h with
  | idle _ _ hasked _ _ => exact ⟨_, Nat.le_refl _, hasked⟩
  | suspended n _ _ hcalls hasked _ _ => exact ⟨n, hcalls ▸ n.le_succ, hasked⟩
  | asked n _ _ hcalls hasked _ _ => exact ⟨n + 1, Nat.le_of_eq hcalls.symm, hasked⟩

theorem Shown.step {e : WebSocketEvent Ω} (h : Shown text c) (horder : Orderly c)
    (ha : c.alive = true) (hstep : SocketStep text hooks c e c') : Shown text c' := by
  rcases hstep.shows with hsame | ⟨call, overrideHeaders, halive, hshown⟩
  · refine ⟨hsame.downstreamHeaders ▸ h.sent, fun _ => ?_⟩
    obtain ⟨m, hm, hasked⟩ := horder.frame.phase.inOrder
    exact ⟨m, Nat.le_trans hm hsame.calls, by rw [hsame.downstreamHeaders]; exact hasked⟩
  · refine ⟨fun d hd => ?_, fun hdead => ?_⟩
    · rw [hshown, List.mem_append, List.mem_singleton] at hd
      rcases hd with hd | rfl
      · exact h.sent d hd
      · exact ⟨horder.frame.remoteEndpoint, rfl⟩
    · rw [halive, ha] at hdead
      cases hdead

end Steps

/-! ## Every run -/

/-- Call `n` has been passed on once: with its headers, or with those of an override, and with its
endpoint. -/
def Shows (text : HeaderText) (s : WebSocketSlot) (n : Nat) (headers : String)
    (remoteEndpoint : IPEndPoint) : Prop :=
  ∃ d, s.downstreamHeaders.filter (·.call = n) = [d] ∧ d.remoteEndpoint = remoteEndpoint ∧
    d.headers = d.overrideHeaders.elim headers text.rawHeaders

/-- When call `n` was passed on there was an override. -/
def Overridden (s : WebSocketSlot) (n : Nat) : Prop :=
  ∃ d ∈ s.downstreamHeaders, d.call = n ∧ d.overrideHeaders ≠ none

/-- The outcome of the hook for response headers. -/
def WebSocketSlot.headersOutcome {Ω : Type} (s : WebSocketSlot) (text : HeaderText)
    (hooks : Hooks Ω) (ω : Ω) (headers : String) : HookOutcome :=
  hooks.onHeadersReceived ω (DumbRequestInfo.makeCTX s.object.request s.object.processId
    s.object.frameTreeNodeId
    s.object.requestId s.object.ctx) (some (text.parse headers))

section Runs
variable {Ω : Type} {text : HeaderText} {hooks : Hooks Ω} {request : ResourceRequest}
  {processId frameTreeNodeId : Int} {s : WebSocketSlot}
  (h : (webSocketSystem text hooks request processId frameTreeNodeId).Reachable s)
include h

theorem shown_of_reachable : Shown text s.core ∧ (s.alive = true → Orderly s.core) := by
  refine socket_invariant (I := Shown text) ⟨fun d hd => absurd hd List.not_mem_nil, fun _ =>
    ⟨0, Nat.le_refl _, rfl⟩⟩
    ?_ ?_ h
  · exact fun s e c' hI horder ha _ hstep => hI.step horder ha hstep
  · exact fun c ks hI _ => ⟨hI.sent, hI.inOrder⟩

/-- The calls are passed on in order. -/
theorem calls_inOrder : ∃ m ≤ s.headersCalls.length, s.downstreamHeaders.map
    (·.call) = List.range m := by
  obtain ⟨hshown, horder⟩ := shown_of_reachable h
  rcases ha : s.alive with _ | _
  · exact hshown.inOrder ha
  · exact (horder ha).frame.phase.inOrder

theorem shown_once {d : DownstreamHeaders} (hd : d ∈ s.downstreamHeaders) :
    s.downstreamHeaders.filter (·.call = d.call) = [d] := by
  obtain ⟨m, -, hcalls⟩ := calls_inOrder h
  refine filter_eq_singleton ?_ hd
  rw [hcalls]
  exact List.nodup_range

theorem shows_iff {n : Nat} {headers : String} {remoteEndpoint : IPEndPoint} {d : DownstreamHeaders}
    (hd : d ∈ s.downstreamHeaders) (hn : d.call = n) :
    Shows text s n headers remoteEndpoint ↔ remoteEndpoint = {} ∧
    (Overridden s n ∨ headers = "") := by
  subst hn
  have honce := shown_once h hd
  obtain ⟨hendpoint, hsent⟩ := (shown_of_reachable h).1.sent d hd
  have hshows : Shows text s d.call headers remoteEndpoint ↔
      d.remoteEndpoint = remoteEndpoint ∧ d.headers = d.overrideHeaders.elim headers
        text.rawHeaders := by
    simp [Shows, honce]
  have hoverridden : Overridden s d.call ↔ d.overrideHeaders ≠ none := by
    refine ⟨fun ⟨d', hd', hcall, hsome⟩ => ?_, fun hsome => ⟨d, hd, rfl, hsome⟩⟩
    obtain rfl : d' = d := by
      have hmem : d' ∈ s.downstreamHeaders.filter (·.call = d.call) :=
        List.mem_filter.2 ⟨hd', decide_eq_true hcall⟩
      simpa [honce] using hmem
    exact hsome
  rw [hshows, hoverridden, hendpoint, hsent, eq_comm]
  refine and_congr_right fun _ => ?_
  cases d.overrideHeaders with
  | none => simp [eq_comm]
  | some overrideHeaders => simp

/-- **When the downstream client is shown the real headers.** A call of the network that its hook
does not block is passed on exactly once, with the override that the hook sets, if it sets one; but
with no headers otherwise, and never with the endpoint, which is still the default one. -/
theorem shown_headers_iff :
    (∀ headers remoteEndpoint ω,
      (WebSocketEvent.onHeadersReceived headers remoteEndpoint ω).isEnabled s = true →
      s.object.overrideHeaders = none ∧
      ∃ s', (webSocketSystem text hooks request processId frameTreeNodeId).exec s
          (.onHeadersReceived headers remoteEndpoint ω) = .ok s' ∧
        (s'.alive = false ↔ (s.headersOutcome text hooks ω headers).Blocks s.object.redirectUrl) ∧
        (s'.alive = true → (s.headersOutcome text hooks ω headers).result = .ok →
          ∃ d ∈ s'.downstreamHeaders, d.call = s.headersCalls.length ∧
            d.overrideHeaders = (s.headersOutcome text hooks ω headers).writes.overrideHeaders none)) ∧
    (∀ place n writes ω, s.alive = true →
      s.core.continuations[place]? = some (.onHeadersReceivedComplete n) →
      ∃ s', (webSocketSystem text hooks request processId frameTreeNodeId).exec s
        (.resumeHook place OK writes ω) = .ok s' ∧
        s'.alive = true ∧ ∃ d ∈ s'.downstreamHeaders, d.call = n ∧
          d.overrideHeaders = writes.overrideHeaders s.object.overrideHeaders) ∧
    (s.alive = true → ∀ n < s.headersCalls.length,
      .onHeadersReceivedComplete n ∉ s.core.continuations →
      ∃ d ∈ s.downstreamHeaders, d.call = n) ∧
    ∀ n headers remoteEndpoint, s.headersCalls[n]? = some (headers, remoteEndpoint) →
      (∃ d ∈ s.downstreamHeaders, d.call = n) →
      (Shows text s n headers remoteEndpoint ↔
          remoteEndpoint = {} ∧ (Overridden s n ∨ headers = "")) := by
  obtain ⟨hshown, horder⟩ := shown_of_reachable h
  refine ⟨fun headers remoteEndpoint ω hen => ?_, fun place n writes ω ha hk => ?_,
    fun ha n hn hpending => ?_,
    fun n headers remoteEndpoint _ ⟨d, hd, hn⟩ => shows_iff h hd hn⟩
  · have hlive : s.alive = true ∧ s.object.receiverAsHeaderClient = .bound false := by
      simpa only [WebSocketEvent.isEnabled, Bool.and_eq_true, decide_eq_true_eq] using hen
    obtain ⟨ha, hreceiver⟩ := hlive
    have hunpaused : s.core.frame.headers.receiver ≠ .bound true := fun hpaused =>
      absurd (hreceiver.symm.trans hpaused) Receiver.receiving_ne_paused
    have hnone : s.object.overrideHeaders = none :=
      ((horder ha).frame.phase.of_receiving hunpaused).1
    obtain ⟨_, s', hrun, hexit⟩ :=
      wp_total (@onHeadersReceived_ends Ω text hooks _ s ⟨ha, (horder ha).frame.onDisconnect⟩
      ((horder ha).frame.bound hen trivial) ω headers remoteEndpoint)
    have hpasses := hexit.passes ha
    rw [show (s.core.calledHeaders headers remoteEndpoint).overrideHeaders = none
      from hnone] at hpasses
    exact ⟨hnone, s', exec_of_run hrun, hpasses⟩
  · have hplace : (WebSocketEvent.resumeHook place OK writes ω).isEnabled s = true := by
      have hlength : place < s.core.continuations.length := (List.getElem?_eq_some_iff.1 hk).1
      simpa [WebSocketEvent.isEnabled, WebSocketSlot.core] using hlength
    obtain ⟨_, s', hrun, hcore⟩ :=
      wp_total (@resumeHeaders_ends Ω text hooks _ s ⟨ha, (horder ha).frame.onDisconnect⟩ place n
      ((horder ha).frame.bound hplace ⟨n, hk⟩) hk writes ω)
    let overrideHeaders := writes.overrideHeaders s.object.overrideHeaders
    have hlast : s'.downstreamHeaders = s.downstreamHeaders ++
        [⟨n, (overrideHeaders.map text.rawHeaders).getD "", s.object.remoteEndpoint,
          overrideHeaders⟩] :=
      congrArg SocketCore.downstreamHeaders hcore
    refine ⟨s', exec_of_run hrun, (congrArg SocketCore.alive hcore).trans ha, ?_⟩
    rw [hlast]
    exact ⟨_, List.mem_append_right _ (List.mem_singleton_self _), rfl, rfl⟩
  · have hcall : n ∈ s.core.frame.headers.asked ++ s.core.frame.headers.pending := by
      rw [(horder ha).frame.phase.asked_eq]
      exact List.mem_range.2 hn
    rcases List.mem_append.1 hcall with hasked | hsuspended
    · exact List.mem_map.1 hasked
    · obtain ⟨k, hk, hcall⟩ := List.mem_filterMap.1 hsuspended
      cases k <;> simp only [WebSocketContinuation.headersCall, reduceCtorEq,
        Option.some.injEq] at hcall
      exact absurd (hcall ▸ hk) hpending

end Runs

def socketRequest : ResourceRequest :=
  { url := { scheme := "wss", host := "echo.example", path := "/" } }

/-- The headers of a response that switches protocols. -/
def upgradeText : HeaderText where
  parse _ := ⟨101, [("Upgrade", "websocket")]⟩
  rawHeaders _ := "HTTP/1.1 101\x00Upgrade: websocket\x00\x00"

/-- Hooks that leave all to the network, but for an override of the response headers. -/
def overridingHooks : Hooks Unit :=
  { noCallbacks with
    onHeadersReceived := fun _ _ headers =>
      { result := .ok, writes := { overrideHeaders := fun _ => headers } } }

/-- An override reaches the downstream client. -/
theorem shown_headers_overridden : ∃ s,
    (webSocketSystem upgradeText overridingHooks socketRequest 0 0).Reachable s ∧
    Shows upgradeText s 0 "HTTP/1.1 101\x00\x00" {} := by
  have h := System.reach_of_replay
    (S := webSocketSystem upgradeText overridingHooks socketRequest 0 0)
    (C := fun _ _ => True) [.handshakeClient, .webSocketFactoryRun 1 socketRequest.url [] true (),
      .onHeadersReceived "HTTP/1.1 101\x00\x00" {} ()] rfl
  obtain ⟨s, h, hcalls, hshown⟩ : ∃ s,
    (webSocketSystem upgradeText overridingHooks socketRequest 0 0).Reachable s ∧
      s.headersCalls = [("HTTP/1.1 101\x00\x00", {})] ∧
      s.downstreamHeaders = [⟨0, upgradeText.rawHeaders ⟨101, []⟩, {},
        some (upgradeText.parse "")⟩] := ⟨_, h, rfl, rfl⟩
  have hd : (⟨0, upgradeText.rawHeaders ⟨101, []⟩, {}, some (upgradeText.parse "")⟩ :
    DownstreamHeaders) ∈
      s.downstreamHeaders := by simp [hshown]
  obtain ⟨-, -, -, hiff⟩ := shown_headers_iff h
  refine ⟨s, h, (hiff 0 _ _ ?_ ⟨_, hd, rfl⟩).2 ⟨rfl, Or.inl ⟨_, hd, rfl, Option.some_ne_none _⟩⟩⟩
  rw [hcalls]
  rfl

/-- Without one, the downstream client is shown neither the headers nor the endpoint. -/
theorem shown_headers_empty : ∃ s,
    (webSocketSystem upgradeText noCallbacks socketRequest 0 0).Reachable s ∧
    s.alive = true ∧ s.headersCalls =
    [("HTTP/1.1 101\x00Upgrade: websocket\x00\x00", ⟨[192, 0, 2, 1], 443⟩)] ∧
    s.downstreamHeaders = [⟨0, "", {}, none⟩] ∧
    ¬ Shows upgradeText s 0 "HTTP/1.1 101\x00Upgrade: websocket\x00\x00" ⟨[192, 0, 2, 1], 443⟩ := by
  have h := System.reach_of_replay (S := webSocketSystem upgradeText noCallbacks socketRequest 0 0)
    (C := fun _ _ => True) [.handshakeClient, .webSocketFactoryRun 1 socketRequest.url [] true (),
      .onHeadersReceived "HTTP/1.1 101\x00Upgrade: websocket\x00\x00" ⟨[192, 0, 2, 1], 443⟩ ()] rfl
  obtain ⟨s, h, halive, hcalls, hshown⟩ : ∃ s,
    (webSocketSystem upgradeText noCallbacks socketRequest 0 0).Reachable s ∧
      s.alive = true ∧ s.headersCalls = [("HTTP/1.1 101\x00Upgrade: websocket\x00\x00",
        ⟨[192, 0, 2, 1], 443⟩)] ∧
      s.downstreamHeaders = [⟨0, "", {}, none⟩] := ⟨_, h, rfl, rfl, rfl⟩
  refine ⟨s, h, halive, hcalls, hshown, fun ⟨d, hd, hendpoint, _⟩ => ?_⟩
  rw [hshown] at hd
  obtain rfl : DownstreamHeaders.mk 0 "" {} none = d := List.singleton_inj.1 hd
  exact absurd hendpoint (by decide)

end DumbBrowser
