import DumbBrowser.Net.HttpHeaders
import DumbBrowser.Net.Url

/-!
# Requests, redirects and responses

The messages that pass between a client, the proxy and the network, and the functions of the network
library that the proxy calls.
-/

namespace DumbBrowser

namespace NetError

def OK : Int := 0
def ERR_IO_PENDING : Int := -1
def ERR_ABORTED : Int := -3
def ERR_INSUFFICIENT_RESOURCES : Int := -12
def ERR_BLOCKED_BY_CLIENT : Int := -20

end NetError

inductive ReferrerPolicy where
  | clearOnTransitionFromSecureToInsecure | reduceGranularityOnTransitionCrossOrigin
  | originOnlyOnTransitionCrossOrigin | neverClear | origin | clearOnTransitionCrossOrigin
  | originClearOnTransitionFromSecureToInsecure | noReferrer
deriving DecidableEq, Repr

inductive FirstPartyURLPolicy where
  | neverChangeUrl | updateUrlOnRedirect
deriving DecidableEq, Repr

structure SiteForCookies where
  scheme : String := ""
  registrableDomain : String := ""
deriving DecidableEq, Repr

structure IsolationInfo where
  topFrameOrigin : Option Origin := none
  frameOrigin : Option Origin := none
deriving DecidableEq, Repr

/-- An element of a request body: bytes, or something that is not in memory. -/
inductive DataElement where
  | bytes (bs : List UInt8)
  | other
deriving DecidableEq, Repr

structure ResourceRequest where
  method : String := "GET"
  url : GURL
  siteForCookies : SiteForCookies := {}
  updateFirstPartyUrlOnRedirect : Bool := false
  isMainFrame : Bool := false
  requestInitiator : Option Origin := none
  referrer : GURL := {}
  referrerPolicy : ReferrerPolicy := .clearOnTransitionFromSecureToInsecure
  headers : HttpRequestHeaders := []
  corsExemptHeaders : HttpRequestHeaders := []
  /-- The isolation info of the trusted parameters. -/
  trustedParams : Option IsolationInfo := none
  requestBody : Option (List DataElement) := none
  resourceType : Int := 0
deriving DecidableEq, Repr

def pageRequest : ResourceRequest :=
  { url := { scheme := "https", host := "page.example", path := "/" } }

structure RedirectInfo where
  newUrl : GURL
  newMethod : String
  newSiteForCookies : SiteForCookies := {}
  newReferrer : GURL := {}
  newReferrerPolicy : ReferrerPolicy := .clearOnTransitionFromSecureToInsecure
  statusCode : Int
deriving DecidableEq, Repr

structure URLResponseHead where
  headers : Option HttpResponseHeaders := none
  /-- What the parsed headers have been parsed from. -/
  parsedHeaders : Option (HttpResponseHeaders × GURL) := none
  encodedDataLength : Int := 0
deriving DecidableEq, Repr

structure URLLoaderCompletionStatus where
  errorCode : Int
  encodedDataLength : Int := 0
  encodedBodyLength : Int := 0
  decodedBodyLength : Int := 0
deriving DecidableEq, Repr

structure FollowRedirectParams where
  removedHeaders : List String := []
  modifiedHeaders : HttpRequestHeaders := []
  modifiedCorsExemptHeaders : HttpRequestHeaders := []
  newUrl : Option GURL := none
deriving DecidableEq, Repr

/-- The functions of the network library that are not part of the repository. -/
structure NetLibrary where
  /-- `GURL::GURL`. -/
  parseUrl : String → GURL
  /-- `HttpUtil::AssembleRawHeaders` and the headers of the result. -/
  assembleRawHeaders : String → HttpResponseHeaders
  /-- `HttpResponseHeaders::IsRedirect`, with the location. -/
  isRedirect : HttpResponseHeaders → Option String
  /-- `RedirectUtil::GetReferrerPolicyHeader`. -/
  getReferrerPolicyHeader : HttpResponseHeaders → Option String
  /-- `RedirectInfo::ComputeRedirectInfo`; its last three arguments are `false` in every call. -/
  computeRedirectInfo : (originalMethod : String) → (originalUrl : GURL) → SiteForCookies →
    FirstPartyURLPolicy →
    ReferrerPolicy → (originalReferrer : String) → (statusCode : Int) → (newUrl : GURL) →
    (referrerPolicyHeader : Option String) → RedirectInfo
  /-- `IsolationInfo::CreateForRedirect`. -/
  createForRedirect : IsolationInfo → Origin → IsolationInfo
  /-- `registry_controlled_domains::SameDomainOrHost`, private registries included. -/
  sameDomainOrHost : GURL → Origin → Bool

/-- The network library where there is no referrer and no `Referrer-Policy`, and domains are
hosts. -/
def plainLibrary : NetLibrary where
  parseUrl location := { scheme := "https", host := location, path := "/" }
  assembleRawHeaders raw := ⟨307, (raw.splitOn "\n").filterMap fun line =>
    match line.splitOn ": " with
    | [name, value] => some (name, value)
    | _ => none⟩
  isRedirect headers :=
    if headers.responseCode ∈ [301, 302, 303, 307, 308] then
      (headers.headers.find? fun h => sameHeader h.1 "location").map (·.2)
    else none
  getReferrerPolicyHeader _ := none
  computeRedirectInfo method _ site policy referrerPolicy _ statusCode newUrl _ :=
    { newUrl := newUrl
      newMethod := if statusCode = 303 ∧ method ≠ "HEAD" ∨ statusCode ∈ [301, 302] ∧ method = "POST"
        then "GET" else method
      newSiteForCookies := if policy = .updateUrlOnRedirect then ⟨newUrl.scheme, newUrl.host⟩ else site
      newReferrerPolicy := referrerPolicy
      statusCode := statusCode }
  createForRedirect info _ := info
  sameDomainOrHost url origin :=
    match origin with
    | .tuple _ host _ => url.host == host
    | .opaqueOrigin _ => false

/-- `CreateRedirectInfo`: a redirect as if the server had sent it. -/
def createRedirectInfo (lib : NetLibrary) (originalRequest : ResourceRequest) (newUrl : GURL)
    (responseCode : Int) (referrerPolicyHeader : Option String) : RedirectInfo :=
  let updateFirstPartyUrlOnRedirect := originalRequest.updateFirstPartyUrlOnRedirect ||
    originalRequest.isMainFrame
  lib.computeRedirectInfo originalRequest.method originalRequest.url originalRequest.siteForCookies
    (if updateFirstPartyUrlOnRedirect then .updateUrlOnRedirect else .neverChangeUrl)
    originalRequest.referrerPolicy originalRequest.referrer.spec responseCode newUrl
      referrerPolicyHeader

end DumbBrowser
