import DumbBrowser.Browser.ClientProtocol
import DumbBrowser.Net.DumbStpUtil

/-!
# The headers of third parties

`DumbRequestHandler::OnHeadersReceived` takes the trackable security headers from a copy of a head,
which becomes the override of the request.

* `third_party_headers_iff` : which heads reach the client without them.
-/

namespace DumbBrowser

variable {Ω : Type}

/-! ## The hook -/

/-- `SetupCallbacks` registers no callback for the headers. -/
def headersReceivedCallbacks : List Unit := []

def onHeadersReceived (lib : NetLibrary) (ctx : DumbRequestInfo)
    (originalResponseHeaders : Option HttpResponseHeaders) :
    HookOutcome :=
  let suspends := !(headersReceivedCallbacks.isEmpty && !ctx.requestUrl.schemeIs "chrome")
  { result := if suspends then .ioPending else .ok
    writes :=
      { overrideHeaders := fun overrideResponseHeaders =>
          if !ctx.tabOrigin.isEmpty then
            removeTrackableSecurityHeadersForThirdParty lib ctx.requestUrl
              (Origin.create ctx.tabOrigin)
              originalResponseHeaders overrideResponseHeaders
          else overrideResponseHeaders
        ctx := fun ctx => if suspends then { ctx with eventType := .onHeadersReceived } else ctx } }

/-- The hooks of the request handler. What happens before a request is left open. -/
def handlerHooks (lib : NetLibrary) (onBeforeURLRequest : Ω → DumbRequestInfo → HookOutcome)
    (resume : Ω → Continuation → Int × HookWrites) : Hooks Ω where
  onBeforeURLRequest := onBeforeURLRequest
  onBeforeStartTransaction _ _ _ := { result := .ok }
  onHeadersReceived _ := onHeadersReceived lib
  resume := resume

/-! ## Third parties -/

/-- `tab_origin` of every context that is made for the request. -/
def ResourceRequest.tabOrigin (request : ResourceRequest) : GURL :=
  request.trustedParams.elim {} fun info => (info.topFrameOrigin.getD (.opaqueOrigin 0)).getURL

structure ThirdParty (lib : NetLibrary) (request : ResourceRequest) : Prop where
  http : request.url.schemeIsHTTPOrHTTPS = true
  tab : request.tabOrigin.isEmpty = false
  other : lib.sameDomainOrHost request.url (Origin.create request.tabOrigin) = false

variable {lib : NetLibrary} {ctx : DumbRequestInfo} {headers : Option HttpResponseHeaders}

theorem onHeadersReceived_result (hhttp : ctx.requestUrl.schemeIsHTTPOrHTTPS = true) :
    (onHeadersReceived lib ctx headers).result = .ok := by
  have hchrome : ctx.requestUrl.schemeIs "chrome" = false := by
    simp only [GURL.schemeIsHTTPOrHTTPS, GURL.schemeIs, Bool.or_eq_true, beq_iff_eq] at hhttp ⊢
    rcases hhttp with h | h <;> rw [h] <;> decide
  simp [onHeadersReceived, headersReceivedCallbacks, hchrome]

theorem onHeadersReceived_override (htab : ctx.tabOrigin.isEmpty = false)
    (hother : lib.sameDomainOrHost ctx.requestUrl (Origin.create ctx.tabOrigin) = false) :
    (onHeadersReceived lib ctx headers).writes.overrideHeaders none = headers.map otherHeaders := by
  rw [← removeTrackable_none hother]
  simp [onHeadersReceived, htab]

variable {onBeforeURLRequest : Ω → DumbRequestInfo → HookOutcome}
  {resume : Ω → Continuation → Int × HookWrites} {env : Env Ω} {head : StoredHead}
  {outcome : HookOutcome}

/-- The hook for the headers never suspends a request. -/
theorem HeadersOutcome.result
    (h : HeadersOutcome (handlerHooks lib onBeforeURLRequest resume) env head outcome) :
    outcome.result = .ok := by
  unfold HeadersOutcome at h
  split at h
  · next hhttp =>
    obtain ⟨_, _, _, _, rfl⟩ := h
    exact onHeadersReceived_result hhttp
  · rw [h]

/-- The override for a third party is what is left of the head. -/
theorem HeadersOutcome.override
    (h : HeadersOutcome (handlerHooks lib onBeforeURLRequest resume) env head outcome)
    (hthird : ThirdParty lib head.request) :
    outcome.writes.overrideHeaders none = head.head.headers.map otherHeaders := by
  rw [HeadersOutcome, if_pos hthird.http] at h
  obtain ⟨_, _, _, _, rfl⟩ := h
  exact onHeadersReceived_override hthird.tab hthird.other

/-! ## Delivered heads -/

/-- The stored head that the message delivers, and what the client gets of it. -/
def ClientMessage.delivers : ClientMessage → Option (Nat × URLResponseHead)
  | onReceiveResponse (some n) (some head) => some (n, head)
  | onReceiveRedirect (some n) _ (some head) => some (n, head)
  | _ => none

/-- What the client gets of a head of the network: a redirect as it is, a response without the
headers that the hook takes. -/
def Faithful (lib : NetLibrary) (stored : StoredHead) (head : URLResponseHead) : Prop :=
  match stored.kind with
  | .redirect => head = stored.head
  | .response => ThirdParty lib stored.request → head.headers = stored.head.headers.map otherHeaders
  | .internalRedirect => True

/-- No hook for the headers is suspended, and what has been delivered is faithful. -/
structure Delivers (lib : NetLibrary) (c : Core) : Prop where
  unsuspended : c.alive = true → ∀ k ∈ c.continuations, k.hookPoint ≠ .headersReceived
  faithful : ∀ m ∈ c.trace, ∀ n head, m.delivers = some (n, head) →
    ∃ stored, c.stored[n]? = some stored ∧ Faithful lib stored head

namespace Delivers

variable {c c' : Core}

theorem faithful_concat (h : Delivers lib c) {m : ClientMessage} (added : List StoredHead)
    (hm : ∀ n head, m.delivers = some (n, head) →
      ∃ stored, (c.stored ++ added)[n]? = some stored ∧ Faithful lib stored head) :
    ∀ x ∈ c.trace ++ [m], ∀ n head, x.delivers = some (n, head) →
      ∃ stored, (c.stored ++ added)[n]? = some stored ∧ Faithful lib stored head := by
  intro x hx n head hd
  rcases List.mem_append.1 hx with hx | hx
  · obtain ⟨stored, hstored, hfaithful⟩ := h.faithful x hx n head hd
    refine ⟨stored, ?_, hfaithful⟩
    rw [List.getElem?_append_left (List.getElem?_eq_some_iff.1 hstored).1, hstored]
  · exact hm n head (List.mem_singleton.1 hx ▸ hd)

/-- A message that delivers no stored head. -/
theorem send (h : Delivers lib c) {m : ClientMessage} (hm : m.delivers = none) :
    Delivers lib { c with trace := c.trace ++ [m] } where
  unsuspended := h.unsuspended
  faithful := by
    simpa using h.faithful_concat (m := m) [] fun n head hd => by simp [hm] at hd

theorem removed (h : Delivers lib c) {out : List ClientMessage} (hout : Closing out)
    (hr : Removed c c' out) :
    Delivers lib c' := by
  refine ⟨fun ha => by simp [hr.alive] at ha, ?_⟩
  rw [hr.trace, hr.stored]
  rcases hout with rfl | ⟨status, rfl⟩
  · simpa using h.faithful
  · exact (h.send rfl).faithful

theorem startExit (h : Delivers lib c) (ha : c.alive = true) {factoryBound : Bool}
    (hc : StartExit factoryBound c c') :
    Delivers lib c' := by
  cases hc with
  | removed hout hr => exact h.removed hout hr
  | mockFailed hout hr =>
    refine removed (h.send (m := .onReceiveResponse none (some {})) rfl) hout ?_
    exact ⟨hr.alive, by simp [hr.trace], hr.stored, hr.starts⟩
  | mocked =>
    have hsent := (h.send (m := .onReceiveResponse none (some {})) rfl).send
      (m := .onStartLoadingResponseBody) rfl
    simp only [List.append_assoc, List.singleton_append] at hsent
    exact { hsent with }
  | redirected head hkind =>
    refine ⟨h.unsuspended, h.faithful_concat [head] ?_⟩
    rintro n delivered ⟨⟩
    exact ⟨head, by simp, by simp [Faithful, hkind]⟩
  | @suspended k hk =>
    refine ⟨fun _ k' hk' => ?_, h.faithful⟩
    rcases List.mem_append.1 hk' with hk' | hk'
    · exact h.unsuspended ha k' hk'
    · exact List.mem_singleton.1 hk' ▸ hk
  | started _ => exact { h with }

/-- The head that has just been stored goes to the client in a message. -/
theorem deliverStored (h : Delivers lib c) {n : Nat} {sent : URLResponseHead} {m : ClientMessage}
    (hm : m.delivers = some (n, sent)) (hn : n = c.stored.length)
    (hfaithful : Faithful lib head sent) (hunsuspended : c'.continuations = c.continuations)
    (hlive : c'.alive = c.alive) (htrace : c'.trace = c.trace ++ [m])
    (hstored : c'.stored = c.stored ++ [head]) : Delivers lib c' := by
  refine ⟨by rw [hunsuspended, hlive]; exact h.unsuspended, ?_⟩
  rw [htrace, hstored]
  refine h.faithful_concat [head] fun n' sent' hd => ?_
  obtain ⟨rfl, rfl⟩ : n = n' ∧ sent = sent' := by simpa [hm] using hd
  exact ⟨head, by simp [hn], hfaithful⟩

theorem seen (h : Delivers lib c) (head : StoredHead) (outcome : HookOutcome) :
    Delivers lib (c.seen head outcome) := by
  refine ⟨h.unsuspended, fun m hm n sent hd => ?_⟩
  obtain ⟨stored, hstored, hfaithful⟩ := h.faithful m hm n sent hd
  refine ⟨stored, ?_, hfaithful⟩
  have hlt := (List.getElem?_eq_some_iff.1 hstored).1
  simpa [Core.seen, Core.storedHead, List.getElem?_append_left hlt] using hstored

/-- A final head is sent with its override. -/
theorem faithful_response (hkind : head.kind = .response)
    (houtcome : HeadersOutcome (handlerHooks lib onBeforeURLRequest resume) env head outcome) (url : GURL) :
    Faithful lib head (head.head.withOverride (outcome.writes.overrideHeaders none) url) := by
  rw [Faithful, hkind]
  intro hthird
  rw [houtcome.override hthird]
  cases hheaders : head.head.headers <;> simp [URLResponseHead.withOverride, hheaders]

theorem responseExit (h : Delivers lib c) (hkind : head.kind = .response)
    (hc : HeadersExit lib (handlerHooks lib onBeforeURLRequest resume) env c head
      .continueToResponseStarted c') :
    Delivers lib c' := by
  cases hc with
  | suspended houtcome hpending _ => simp [houtcome.result] at hpending
  | @delivered outcome _ houtcome hdeliver =>
    cases hdeliver with
    | removed hout hr => exact (h.seen head outcome).removed hout hr
    | response url _ =>
      exact h.deliverStored rfl rfl (faithful_response hkind houtcome url) rfl rfl rfl rfl
    | @overrideRedirect n sent url redirectInfo hcurrent _ =>
      obtain ⟨rfl, rfl⟩ : c.stored.length = n ∧ head.head = sent := by
        simpa [Core.seen, Core.storedHead] using hcurrent
      exact h.deliverStored rfl rfl (faithful_response hkind houtcome url) rfl rfl rfl rfl

theorem redirectExit (h : Delivers lib c) (hkind : head.kind = .redirect)
    {redirectInfo : RedirectInfo}
    (hc : HeadersExit lib (handlerHooks lib onBeforeURLRequest resume) env c head
      (.continueToBeforeRedirect redirectInfo) c') : Delivers lib c' := by
  cases hc with
  | suspended houtcome hpending _ => simp [houtcome.result] at hpending
  | @delivered outcome _ _ hdeliver =>
    cases hdeliver with
    | removed hout hr => exact (h.seen head outcome).removed hout hr
    | redirect =>
      have hfaithful : Faithful lib head head.head := by rw [Faithful, hkind]
      exact h.deliverStored rfl rfl hfaithful rfl rfl rfl rfl

theorem step (h : Delivers lib c) (ha : c.alive = true) {factoryBound : Bool}
    {request : ResourceRequest} {e : RequestEvent Ω}
    (hc : CoreStep lib (handlerHooks lib onBeforeURLRequest resume) factoryBound request c e c') :
    Delivers lib c' := by
  cases hc with
  | silent _ => exact h
  | passed hpassed => cases hpassed <;> exact h.send rfl
  | followRedirect hstart => exact startExit (h.send (m := .followRedirect _) rfl) ha hstart
  | clientDisconnect hout hr => exact h.removed hout hr
  | onReceiveResponse _ hheaders => exact h.responseExit rfl hheaders
  | onReceiveRedirect _ hheaders =>
    exact redirectExit (c := { c with loaderAwaits := true }) { h with } rfl hheaders
  | onComplete hout hr => exact h.removed hout hr
  | @resumeHook place env k override _ hk _ hcontinue =>
    cases hcontinue with
    | start _ hstart =>
      refine startExit
        (c := { c with
          continuations := c.continuations.eraseIdx place
          overrideHeaders := override }) ?_ ha hstart
      exact ⟨fun _ k' hk' => h.unsuspended ha k' (List.mem_of_mem_eraseIdx hk'), h.faithful⟩
    | deliver hpoint _ => exact absurd hpoint (h.unsuspended ha k (List.mem_of_getElem? hk))
  | onWrite => exact { h with }
  | onWriteComplete hout hr => exact h.removed hout hr

theorem fresh : Delivers lib .fresh where
  unsuspended _ _ hk := by cases hk
  faithful _ hm := by cases hm

theorem of_reachable {renderProcessId frameTreeNodeId : Int} {generator : UInt64} {w : ProxyWorld}
    (h : (proxySystem lib (handlerHooks lib onBeforeURLRequest resume) renderProcessId
      frameTreeNodeId generator).Reachable w)
    {p : Ptr} {s : Slot} (hs : w.slots p = some s) : Delivers lib s.core := by
  refine slot_invariant ?_ ?_ ?_ (Reachable.onRequests h) hs
  · exact fun _ _ hstart => Delivers.fresh.startExit rfl hstart
  · exact fun s e _ _ hI ha _ hc => hI.step ha hc
  · rintro c _ hI hdead ⟨ks, ws, rfl⟩
    exact ⟨fun ha => absurd hdead (by simp [show c.alive = true from ha]), hI.faithful⟩

end Delivers

/-- **Which heads of a third party reach the client without trackable security headers**: the final
ones, and the redirects that had none. -/
theorem third_party_headers_iff {renderProcessId frameTreeNodeId : Int}
    {generator : UInt64} {w : ProxyWorld}
    (h : (proxySystem lib (handlerHooks lib onBeforeURLRequest resume) renderProcessId
      frameTreeNodeId generator).Reachable w)
    {p : Ptr} {s : Slot} (hs : w.slots p = some s) {m : ClientMessage} (hm : m ∈ s.trace) {n : Nat}
    {sent : URLResponseHead} (hd : m.delivers = some (n, sent)) {stored : StoredHead}
    (hn : s.stored[n]? = some stored) (hnetwork : stored.kind ≠ .internalRedirect)
    (hthird : ThirdParty lib stored.request) :
    (NoTrackable sent.headers ∧ SameOthers sent.headers stored.head.headers) ↔
      (stored.kind = .response ∨ NoTrackable stored.head.headers) := by
  obtain ⟨stored', hstored, hfaithful⟩ := (Delivers.of_reachable h hs).faithful m hm n sent hd
  obtain rfl : stored' = stored := Option.some.inj (hstored.symm.trans hn)
  unfold Faithful at hfaithful
  split at hfaithful
  · next hkind => simp [hfaithful, hkind, SameOthers]
  · next hkind =>
    rw [hfaithful hthird]
    simp [hkind, noTrackable_otherHeaders, sameOthers_otherHeaders]
  · next hkind => exact absurd hkind hnetwork

/-- The handler with no callback registered. -/
def noCallbacks : Hooks Unit := handlerHooks plainLibrary (fun _ _ => { result := .ok }) fun _ _ =>
    (NetError.OK, {})

/-- A page of `news.example` asks `ads.example`. -/
def thirdPartyRequest : ResourceRequest :=
  { url := { scheme := "https", host := "ads.example", path := "/" }
    trustedParams := some { topFrameOrigin := some (.tuple "https" "news.example" none) } }

def trackingHead (responseCode : Int) : URLResponseHead :=
  { headers := some ⟨responseCode, [("Server", "ads"), ("strict-transport-security", "max-age=1")]⟩ }

theorem thirdPartyRequest_thirdParty : ThirdParty plainLibrary thirdPartyRequest :=
  ⟨by decide, by decide, by decide⟩

/-- A final head reaches the client without the header. -/
theorem third_party_headers_response : ∃ w,
    (proxySystem plainLibrary noCallbacks 0 0 0).Reachable w ∧
    ∃ s, w.slots 0 = some s ∧ ∃ m ∈ s.trace, ∃ sent, m.delivers = some (0, sent) ∧
      sent.headers = some ⟨200, [("Server", "ads")]⟩ ∧ NoTrackable sent.headers := by
  have h := System.reach_of_replay (S := proxySystem plainLibrary noCallbacks 0 0 0)
    (C := fun _ _ => True)
    [.createLoaderAndStart 0 1 0 thirdPartyRequest 0 ⟨(), true⟩,
      .request 0 (.onReceiveResponse (trackingHead 200) ⟨(), true⟩)] rfl
  refine ⟨_, h, _, rfl, _, List.mem_singleton.2 rfl, _, rfl, rfl, ?_⟩
  exact ((third_party_headers_iff h (p := 0) rfl (List.mem_singleton.2 rfl) rfl rfl nofun
    thirdPartyRequest_thirdParty).2
    (Or.inl rfl)).1

/-- A redirect reaches the client with it. -/
theorem third_party_redirect_leaks : ∃ w, (proxySystem plainLibrary noCallbacks 0 0 0).Reachable w ∧
    ∃ s, w.slots 0 = some s ∧ ∃ stored, s.stored[0]? = some stored ∧ stored.kind = .redirect ∧
      ThirdParty plainLibrary stored.request ∧ ∃ m ∈ s.trace, ∃ sent, m.delivers = some (0, sent) ∧
        ¬ NoTrackable sent.headers := by
  have h := System.reach_of_replay (S := proxySystem plainLibrary noCallbacks 0 0 0)
    (C := fun _ _ => True)
    [.createLoaderAndStart 0 1 0 thirdPartyRequest 0 ⟨(), true⟩,
      .request 0 (.onReceiveRedirect pageRedirect (trackingHead 302) ⟨(), true⟩)] rfl
  refine ⟨_, h, _, rfl, _, rfl, rfl, thirdPartyRequest_thirdParty, _, List.mem_singleton.2 rfl, _, rfl, ?_⟩
  intro hnone
  have := hnone _ rfl ("strict-transport-security", "max-age=1") (by decide)
  revert this
  decide

end DumbBrowser
