import DumbBrowser.Net.ResourceRequest

/-!
# Trackable security headers

A third party can keep an identifier in a security header;
`RemoveTrackableSecurityHeadersForThirdParty` takes these headers from its responses.
-/

namespace DumbBrowser

def trackableSecurityHeaders : List String :=
  ["Strict-Transport-Security", "Expect-CT", "Public-Key-Pins", "Public-Key-Pins-Report-Only"]

def isTrackableSecurityHeader (name : String) : Bool :=
  trackableSecurityHeaders.any (sameHeader name ·)

def removeTrackableSecurityHeaders (headers : HttpResponseHeaders) : HttpResponseHeaders :=
  trackableSecurityHeaders.foldl HttpResponseHeaders.removeHeader headers

/-- `RemoveTrackableSecurityHeadersForThirdParty`: the override that it leaves. -/
def removeTrackableSecurityHeadersForThirdParty (lib : NetLibrary) (requestUrl : GURL)
    (topFrameOrigin : Origin) (originalResponseHeaders overrideResponseHeaders : Option
      HttpResponseHeaders) : Option HttpResponseHeaders :=
  if originalResponseHeaders.isNone && overrideResponseHeaders.isNone then overrideResponseHeaders
  else if lib.sameDomainOrHost requestUrl topFrameOrigin then overrideResponseHeaders
  else (overrideResponseHeaders <|> originalResponseHeaders).map removeTrackableSecurityHeaders

theorem foldl_removeHeader (names : List String) (headers : HttpResponseHeaders) :
    names.foldl HttpResponseHeaders.removeHeader headers =
      { headers with headers := headers.headers.filter fun h => !names.any (sameHeader h.1 ·) } := by
  induction names generalizing headers with
  | nil => simp
  | cons name names ih =>
    rw [List.foldl_cons, ih]
    simp only [HttpResponseHeaders.removeHeader, List.filter_filter, List.any_cons,
      Bool.not_or, Bool.and_comm]

/-! ## Heads without them -/

/-- The headers that are not trackable, in their order. -/
def otherHeaders (headers : HttpResponseHeaders) : HttpResponseHeaders :=
  { headers with headers := headers.headers.filter fun h => !isTrackableSecurityHeader h.1 }

def NoTrackable (headers : Option HttpResponseHeaders) : Prop :=
  ∀ hs ∈ headers, ∀ h ∈ hs.headers, isTrackableSecurityHeader h.1 = false

/-- The same status, and the same headers that are not trackable. -/
def SameOthers (headers original : Option HttpResponseHeaders) : Prop :=
  headers.map otherHeaders = original.map otherHeaders

theorem removeTrackableSecurityHeaders_eq (headers : HttpResponseHeaders) :
    removeTrackableSecurityHeaders headers = otherHeaders headers :=
  foldl_removeHeader trackableSecurityHeaders headers

theorem removeTrackable_none {lib : NetLibrary} {requestUrl : GURL} {topFrameOrigin : Origin}
    (hthird : lib.sameDomainOrHost requestUrl topFrameOrigin = false)
    (original : Option HttpResponseHeaders) :
    removeTrackableSecurityHeadersForThirdParty lib requestUrl topFrameOrigin original
    none = original.map otherHeaders := by
  cases original with
  | none => rfl
  | some headers =>
    simp [removeTrackableSecurityHeadersForThirdParty, hthird, removeTrackableSecurityHeaders_eq]

theorem noTrackable_otherHeaders (headers : Option HttpResponseHeaders) :
    NoTrackable (headers.map otherHeaders) := by
  intro hs hmem h hh
  obtain ⟨original, -, rfl⟩ := Option.map_eq_some_iff.1 hmem
  simpa using (List.mem_filter.1 hh).2

theorem sameOthers_otherHeaders (headers : Option HttpResponseHeaders) :
    SameOthers (headers.map otherHeaders) headers := by
  rw [SameOthers, Option.map_map]
  congr 1
  funext hs
  simp [otherHeaders, List.filter_filter]

end DumbBrowser
