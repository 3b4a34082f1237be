import DumbBrowser.Lib.Re2
import DumbBrowser.Net.Url
import DumbBrowser.PrivacyGuard.Rule

/-!
# The purification delegate

`QueryMatcher`, `URLPurifyDelegate` and their functions, on the characters of the texts, for any
library of regular expressions.
-/

namespace DumbBrowser

structure QueryMatcher where
  name : String
  urlMatcher : RE2
  urlExceptionMatcher : Option RE2
  queryMatchers : List RE2

/-- The pattern of `query_appended_matcher`. -/
def appendedPattern (queryPattern : List Char) : List Char :=
  "^(".toList ++ queryPattern ++ ")=[^&]+$".toList

/-- The pattern of `query_first_matcher`. -/
def firstPattern (queryPattern : List Char) : List Char :=
  "^(".toList ++ queryPattern ++ ")=[^&]+&".toList

/-- The pattern of `query_only_matcher`. -/
def onlyPattern (queryPattern : List Char) : List Char :=
  "&(".toList ++ queryPattern ++ ")=[^&]+".toList

/-- `QueryMatcher::QueryMatcher`; every expression ignores case. -/
def QueryMatcher.ofRule (re2 : RE2Library) (rule : URLPurifyRule) : QueryMatcher :=
  let queryPattern := joinString rule.queryPatterns '|'
  { name := rule.name
    urlMatcher := re2 rule.urlPattern.toList false
    urlExceptionMatcher := rule.urlExceptions.map fun es => re2 (joinString es '|') false
    queryMatchers :=
      [re2 (appendedPattern queryPattern) false, re2 (firstPattern queryPattern) false,
        re2 (onlyPattern queryPattern) false] }

structure URLPurifyResult where
  newUrl : Option GURL
  count : Int
deriving DecidableEq, Repr

structure URLPurifyDelegate where
  enabled : Bool
  globalRulesMatcher : QueryMatcher
  perSiteMatchers : List QueryMatcher

/-- `URLPurifyDelegate::URLPurifyDelegate`. -/
def URLPurifyDelegate.default (re2 : RE2Library) : URLPurifyDelegate where
  enabled := true
  globalRulesMatcher := QueryMatcher.ofRule re2 getDefaultGlobalRules
  perSiteMatchers := getDefaultPerSiteRules.map (QueryMatcher.ofRule re2)

/-- A delegate for other rules. -/
def URLPurifyDelegate.ofRules (re2 : RE2Library) (enabled : Bool) (globalRule : URLPurifyRule)
    (perSiteRules : List URLPurifyRule) : URLPurifyDelegate where
  enabled := enabled
  globalRulesMatcher := QueryMatcher.ofRule re2 globalRule
  perSiteMatchers := perSiteRules.map (QueryMatcher.ofRule re2)

structure URLRequest where
  url : GURL
  referrer : GURL := {}
  /-- The referrer policy has been forced to `NO_REFERRER`. -/
  noReferrerPolicy : Bool := false
deriving DecidableEq, Repr

/-- The loop over the query matchers: one `GlobalReplace` each, with the empty text. -/
def applyQueryMatchers : List RE2 → Int → List Char → Int × List Char
  | [], count, newQuery => (count, newQuery)
  | m :: ms, count, newQuery =>
    let (q, n) := m.globalReplace newQuery []
    applyQueryMatchers ms (count + n) q

theorem applyQueryMatchers_nil (count : Int) (q : List Char) :
    applyQueryMatchers [] count q = (count, q) := rfl

theorem applyQueryMatchers_cons (m : RE2) (ms : List RE2) (count : Int) (q : List Char) :
    applyQueryMatchers (m :: ms) count q =
      applyQueryMatchers ms (count + (m.globalReplace q []).2) (m.globalReplace q []).1 := rfl

/-- `full_url.length() - 1` in `size_t`. -/
def urlLen (fullUrl : List Char) : Nat := (fullUrl.length + UInt64.size - 1) % UInt64.size

/-- `-2` : the rule is passed over; `-1` : one of its exceptions holds; otherwise the number of
replacements. -/
def tryApplyMatcher (matcher : QueryMatcher) (isGlobal : Bool) (fullUrl newQuery : List Char) :
    Int × List Char :=
  if !isGlobal && matcher.urlMatcher.matchUnanchored fullUrl 0 (urlLen fullUrl) then (-2, newQuery)
  else if !isGlobal && matcher.urlExceptionMatcher.any
    (·.matchUnanchored fullUrl 0 (urlLen fullUrl)) then
    (-1, newQuery)
  else applyQueryMatchers matcher.queryMatchers 0 newQuery

/-- The locals of `TruncateURLParameters`, and which per-site rules have run their query
matchers. -/
structure PurifyState where
  count : Int
  newQuery : List Char
  applied : List QueryMatcher

/-- The loop over the per-site rules. -/
def applyPerSiteRules (fullUrl : List Char) : List QueryMatcher → PurifyState → PurifyState
  | [], st => st
  | matcher :: rest, st =>
    let (ret, newQuery) := tryApplyMatcher matcher false fullUrl st.newQuery
    if ret = -1 then { st with newQuery }
    else if 0 ≤ ret then
      { count := st.count + ret, newQuery, applied := st.applied ++ [matcher] }
    else applyPerSiteRules fullUrl rest { st with newQuery }

namespace URLPurifyDelegate

/-- The state once the global rule has run on the query of `url`. -/
def applyGlobalRules (d : URLPurifyDelegate) (url : GURL) : PurifyState :=
  let (count, newQuery) := tryApplyMatcher d.globalRulesMatcher true url.spec.toList
    (url.query.getD "").toList
  { count, newQuery, applied := [] }

def applyRules (d : URLPurifyDelegate) (url : GURL) : PurifyState :=
  applyPerSiteRules url.spec.toList d.perSiteMatchers (d.applyGlobalRules url)

/-- The result for a URL whose rules have been applied. -/
def resultOf (url : GURL) (st : PurifyState) : URLPurifyResult :=
  if 0 < st.count then
    ⟨some (url.replaceQuery (if st.newQuery.isEmpty then none
      else some (String.ofList st.newQuery))), st.count⟩
  else ⟨none, 0⟩

/-- `URLPurifyDelegate::TruncateURLParameters`; the code does not read its second argument. -/
def truncateURLParameters (d : URLPurifyDelegate) (request : URLRequest) (_effectiveUrl : GURL) :
    URLPurifyResult :=
  if !d.enabled then ⟨none, 0⟩
  else if request.url.hasQuery then resultOf request.url (d.applyRules request.url)
  else ⟨none, 0⟩

end URLPurifyDelegate

end DumbBrowser
