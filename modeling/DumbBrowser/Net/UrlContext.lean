import DumbBrowser.Net.ResourceRequest

/-!
# The context of a request

`DumbRequestInfo` is what the hooks of a request share. A new one is made at every hook; it takes
over two fields of the one before.
-/

namespace DumbBrowser

inductive DumbNetworkDelegateEventType where
  | onBeforeRequest | onBeforeStartTransaction | onHeadersReceived
      | onCanGetCookies | onCanSetCookies
  | unknownEventType
deriving DecidableEq, Repr

inductive BlockedBy where
  | notBlocked | adBlocked | otherBlocked
deriving DecidableEq, Repr

structure DumbRequestInfo where
  requestUrl : GURL := {}
  tabOrigin : GURL := {}
  initiatorUrl : GURL := {}
  internalRedirect : Bool := false
  redirectSource : GURL := {}
  referrer : GURL := {}
  referrerPolicy : ReferrerPolicy := .clearOnTransitionFromSecureToInsecure
  newReferrer : Option GURL := none
  newUrlSpec : String := ""
  isWebtorrentDisabled : Bool := false
  renderProcessId : Int := 0
  frameTreeNodeId : Int := 0
  requestIdentifier : UInt64 := 0
  nextUrlRequestIndex : Nat := 0
  setHeaders : List String := []
  removedHeaders : List String := []
  eventType : DumbNetworkDelegateEventType := .unknownEventType
  blockedBy : BlockedBy := .notBlocked
  mockDataUrl : String := ""
  resourceType : Int := -1
  uploadData : List UInt8 := []
deriving DecidableEq, Repr

namespace DumbRequestInfo

def shouldMockRequest (ctx : DumbRequestInfo) : Bool := !ctx.mockDataUrl.isEmpty

def getUploadData (request : ResourceRequest) : List UInt8 :=
  (request.requestBody.getD []).flatMap fun
    | .bytes bs => bs
    | .other => []

/-- `DumbRequestInfo::MakeCTX`. -/
def makeCTX (request : ResourceRequest) (renderProcessId frameTreeNodeId : Int)
    (requestIdentifier : UInt64) (oldCtx : Option DumbRequestInfo) : DumbRequestInfo where
  requestIdentifier := requestIdentifier
  requestUrl := request.url
  initiatorUrl := (request.requestInitiator.getD (.opaqueOrigin 0)).getURL
  referrer := request.referrer
  referrerPolicy := request.referrerPolicy
  resourceType := request.resourceType
  isWebtorrentDisabled := true
  renderProcessId := renderProcessId
  frameTreeNodeId := frameTreeNodeId
  tabOrigin := request.trustedParams.elim {} fun info =>
    (info.topFrameOrigin.getD (.opaqueOrigin 0)).getURL
  internalRedirect := oldCtx.elim false (·.internalRedirect)
  redirectSource := oldCtx.elim {} (·.redirectSource)
  uploadData := getUploadData request

end DumbRequestInfo

end DumbBrowser
