import DumbBrowser.Lib.RegexLibrary
import DumbBrowser.PrivacyGuard.QueryMatcher

/-!
# Which per-site rule is applied

* `applyPerSiteRules_eq` : the rule the code selects;
* `applyRules_eq_intended_iff` : when that is the first rule whose pattern matches the URL.
-/

namespace DumbBrowser

section Selection
variable (re2 : RE2Library)

/-! ## The intended selection -/

namespace URLPurifyRule

def matchesURL (rule : URLPurifyRule) (url : GURL) : Bool :=
  (re2 rule.urlPattern.toList false).search url.spec.toList

def exceptsURL (rule : URLPurifyRule) (url : GURL) : Bool :=
  rule.urlExceptions.any (·.any fun e => (re2 e.toList false).search url.spec.toList)

/-- The pattern matches the URL without its last character. -/
def matchesWindow (rule : URLPurifyRule) (url : GURL) : Bool :=
  (re2 rule.urlPattern.toList false).matchUnanchored url.spec.toList 0 (urlLen url.spec.toList)

/-- The joined exceptions match the URL without its last character. -/
def exceptsWindow (rule : URLPurifyRule) (url : GURL) : Bool :=
  rule.urlExceptions.any fun es =>
    (re2 (joinString es '|') false).matchUnanchored url.spec.toList 0 (urlLen url.spec.toList)

end URLPurifyRule

def firstMatching (rules : List URLPurifyRule) (url : GURL) : Option URLPurifyRule :=
  rules.find? (·.matchesURL re2 url)

def firstNotMatching (rules : List URLPurifyRule) (url : GURL) : Option URLPurifyRule :=
  rules.find? (!·.matchesWindow re2 url)

/-- The query matchers of a rule run on the globally filtered query; of no rule, nothing changes. -/
def applyRule (st : PurifyState) : Option URLPurifyRule → PurifyState
  | none => st
  | some rule =>
    let (n, newQuery) := applyQueryMatchers (QueryMatcher.ofRule re2 rule).queryMatchers 0 st.newQuery
    { count := st.count + n, newQuery, applied := st.applied ++ [QueryMatcher.ofRule re2 rule] }

def intendedRule (rules : List URLPurifyRule) (url : GURL) : Option URLPurifyRule :=
  (firstMatching re2 rules url).filter (!·.exceptsURL re2 url)

/-! ## The selection of the code -/

def selectedRule (rules : List URLPurifyRule) (url : GURL) : Option URLPurifyRule :=
  (firstNotMatching re2 rules url).filter (!·.exceptsWindow re2 url)

end Selection

theorem le_applyQueryMatchers_count : ∀ (ms : List RE2) (count : Int) (q : List Char),
    count ≤ (applyQueryMatchers ms count q).1
  | [], _, _ => Int.le_refl _
  | m :: ms, count, q => by
    have hrest := le_applyQueryMatchers_count ms (count + (m.globalReplace q []).2)
      (m.globalReplace q []).1
    rw [applyQueryMatchers_cons]
    omega

section Run
variable {re2 : RE2Library} {rules : List URLPurifyRule} {url : GURL}

theorem tryApplyMatcher_eq (rule : URLPurifyRule) (q : List Char) :
    tryApplyMatcher (QueryMatcher.ofRule re2 rule) false url.spec.toList q =
      if rule.matchesWindow re2 url then (-2, q)
      else if rule.exceptsWindow re2 url then (-1, q)
      else applyQueryMatchers (QueryMatcher.ofRule re2 rule).queryMatchers 0 q := by
  rcases hexceptions : rule.urlExceptions with _ | exceptions
  · simp [tryApplyMatcher, QueryMatcher.ofRule, URLPurifyRule.matchesWindow,
      URLPurifyRule.exceptsWindow, hexceptions]
  · simp [tryApplyMatcher, QueryMatcher.ofRule, URLPurifyRule.matchesWindow,
      URLPurifyRule.exceptsWindow, hexceptions]

/-- The loop stops at the first rule whose pattern does not match. -/
theorem applyPerSiteRules_eq (url : GURL) : ∀ (rules : List URLPurifyRule) (st : PurifyState),
    applyPerSiteRules url.spec.toList (rules.map (QueryMatcher.ofRule re2)) st =
      applyRule re2 st (selectedRule re2 rules url)
  | [], _ => rfl
  | rule :: rules, st => by
    have hrest := applyPerSiteRules_eq url rules st
    have hcount := le_applyQueryMatchers_count (QueryMatcher.ofRule re2 rule).queryMatchers 0 st.newQuery
    rw [List.map_cons, applyPerSiteRules, tryApplyMatcher_eq, selectedRule,
      firstNotMatching, List.find?_cons]
    by_cases hmatch : rule.matchesWindow re2 url = true
    · simpa [hmatch, selectedRule, firstNotMatching] using hrest
    · by_cases hexcept : rule.exceptsWindow re2 url = true
      · simp [hmatch, hexcept, applyRule, Option.filter_some]
      · have hret : ¬ (applyQueryMatchers (QueryMatcher.ofRule re2 rule).queryMatchers 0
            st.newQuery).1 = -1 := by omega
        simp [hmatch, hexcept, applyRule, Option.filter_some, hcount, hret]

/-! ## When they agree -/

theorem find?_eq_of_both {α : Type} {p q : α → Bool} {a b : α} : ∀ {l : List α},
    l.find? p = some a → l.find? q = some b → p b = true → q a = true → a = b
  | [], h, _, _, _ => by cases h
  | x :: l, ha, hb, hpb, hqa => by
    have ih := fun ha hb => find?_eq_of_both (l := l) ha hb hpb hqa
    rw [List.find?_cons] at ha hb
    cases hpx : p x <;> cases hqx : q x <;> simp_all

/-- The selected rule and the intended one have the same matchers only if they are one rule. -/
theorem selectedRule_eq_intendedRule_iff :
    (selectedRule re2 rules url).map (QueryMatcher.ofRule re2) =
        (intendedRule re2 rules url).map (QueryMatcher.ofRule re2) ↔
      ((∀ rule, firstMatching re2 rules url = some rule → rule.exceptsURL re2 url = true) ∧
        ∀ rule, firstNotMatching re2 rules url = some rule → rule.exceptsWindow re2 url = true) ∨
      ∃ rule, firstMatching re2 rules url = some rule ∧ firstNotMatching re2 rules url = some rule ∧
        rule.exceptsURL re2 url = false ∧ rule.exceptsWindow re2 url = false := by
  -- what a rule matches is decided by its compiled expressions
  have hone : ∀ {rule rule'}, firstMatching re2 rules url = some rule →
    firstNotMatching re2 rules url = some rule' →
      QueryMatcher.ofRule re2 rule' = QueryMatcher.ofRule re2 rule → rule = rule' := by
    intro rule rule' hR hS heq
    have hurl : re2 rule'.urlPattern.toList false = re2 rule.urlPattern.toList false :=
      congrArg QueryMatcher.urlMatcher heq
    refine find?_eq_of_both hR hS ?_ ?_
    · have hmatches := List.find?_some hR
      rw [URLPurifyRule.matchesURL] at hmatches ⊢
      rwa [hurl]
    · have hmatches := List.find?_some hS
      rw [URLPurifyRule.matchesWindow] at hmatches ⊢
      rwa [← hurl]
  unfold selectedRule intendedRule
  rcases hR : firstMatching re2 rules url with _ | R <;> rcases hS : firstNotMatching re2
    rules url with _ | S
  · simp
  · simp [Option.filter_some]
  · simp [Option.filter_some]
  · by_cases hexR : R.exceptsURL re2 url = true <;> by_cases hexS : S.exceptsWindow re2 url = true
    · simp [Option.filter_some, hexR, hexS]
    · simp [Option.filter_some, hexR, hexS]
    · simp [Option.filter_some, hexR, hexS]
      grind
    · simp only [Option.filter_some, hexR, hexS, Bool.not_false, if_true,
        Option.map_some, Option.some.injEq]
      constructor
      · intro heq
        obtain rfl := hone hR hS heq
        exact Or.inr ⟨R, rfl, rfl, by simpa using hexR, by simpa using hexS⟩
      · rintro (⟨hall, -⟩ | ⟨rule, rfl, rfl, -⟩)
        · exact absurd (hall R rfl) hexR
        · rfl

theorem applyRule_applied (st : PurifyState) (rule : Option URLPurifyRule) :
    (applyRule re2 st rule).applied = st.applied ++
    (rule.map (QueryMatcher.ofRule re2)).toList := by
  cases rule <;> simp [applyRule]

theorem applyRule_congr (st : PurifyState) {r r' : Option URLPurifyRule}
    (h : r.map (QueryMatcher.ofRule re2) = r'.map (QueryMatcher.ofRule re2)) :
    applyRule re2 st r = applyRule re2 st r' := by
  rcases r with _ | r <;> rcases r' with _ | r' <;> simp_all [applyRule]

/-! ## When nothing is deleted -/

/-- One of the three expressions of the rule is found in the query. -/
def URLPurifyRule.OccursIn (re2 : RE2Library) (rule : URLPurifyRule) (q : List Char) : Prop :=
  ∃ m ∈ (QueryMatcher.ofRule re2 rule).queryMatchers, m.OccursIn q

section Counts
variable (hdocumented : re2.Documented)
include hdocumented

end Counts

/-! ## Selection -/

/-- **Which rule is applied**, for any library: the rules run as intended on a URL with a query
exactly when either neither the first rule that matches nor the first one that does not match is
free of exceptions, or they are one rule. -/
theorem applyRules_eq_intended_iff (re2 : RE2Library) (globalRule : URLPurifyRule)
    (rules : List URLPurifyRule) (request : URLRequest) (effectiveUrl : GURL)
    (hquery : request.url.hasQuery = true) :
    let d := URLPurifyDelegate.ofRules re2 true globalRule rules
    let url := request.url
    let intended := applyRule re2 (d.applyGlobalRules url) (intendedRule re2 rules url)
    (d.applyRules url = intended ∧
        d.truncateURLParameters request effectiveUrl = URLPurifyDelegate.resultOf url intended) ↔
      ((∀ rule, firstMatching re2 rules url = some rule → rule.exceptsURL re2 url = true) ∧
        ∀ rule, firstNotMatching re2 rules url = some rule → rule.exceptsWindow re2 url = true) ∨
      ∃ rule, firstMatching re2 rules url = some rule ∧ firstNotMatching re2 rules url = some rule ∧
        rule.exceptsURL re2 url = false ∧ rule.exceptsWindow re2 url = false := by
  intro d url intended
  have hrun : d.applyRules url = applyRule re2 (d.applyGlobalRules url)
      (selectedRule re2 rules url) :=
    applyPerSiteRules_eq url rules (d.applyGlobalRules url)
  have hresult : d.truncateURLParameters request effectiveUrl =
      URLPurifyDelegate.resultOf url (d.applyRules url) := by
    simp [URLPurifyDelegate.truncateURLParameters, d, url, hquery, URLPurifyDelegate.ofRules]
  rw [← selectedRule_eq_intendedRule_iff, hresult, hrun]
  constructor
  · rintro ⟨hstate, -⟩
    have happlied := congrArg PurifyState.applied hstate
    rw [applyRule_applied, applyRule_applied, List.append_cancel_left_eq] at happlied
    simpa using congrArg List.head? happlied
  · intro heq
    have hstate := applyRule_congr (d.applyGlobalRules url) heq
    exact ⟨hstate, congrArg _ hstate⟩

end Run

/-- Two of the default rules on the site of the first: the second is applied. -/
theorem second_rule_is_applied :
    let rules := getDefaultPerSiteRules.filter fun r => r.name == "Instagram" || r.name == "Steam"
    let url : GURL :=
      { scheme := "https", host := "www.instagram.com", path := "/p", query := some "a=1&igshid=2&snr=3" }
    let d := URLPurifyDelegate.ofRules Regex.library true getDefaultGlobalRules rules
    (intendedRule Regex.library rules url).map URLPurifyRule.name = some "Instagram" ∧
    (d.applyRules url).applied.map QueryMatcher.name = ["Steam"] ∧
    (d.truncateURLParameters { url } url).newUrl.bind GURL.query = some "a=1&igshid=2" := by
  decide +kernel

/-- The first rule matches, with the last character only; it is applied, and what it matches in the
query is deleted. -/
theorem applyRules_eq_intended_at_last :
    let rules : List URLPurifyRule :=
  [⟨"Shop", "ref=12", ["ref"], none⟩, ⟨"Other", "other", ["id"], none⟩]
    let url : GURL :=
      { scheme := "https", host := "shop.example", path := "/", query := some "id=1&ref=12" }
    let d := URLPurifyDelegate.ofRules Regex.library true ⟨"Global", ".*", ["utm"], none⟩ rules
    let intended := applyRule Regex.library (d.applyGlobalRules url)
      (intendedRule Regex.library rules url)
    intended.applied.map QueryMatcher.name = ["Shop"] ∧ intended.newQuery = "id=1".toList ∧
      d.applyRules url = intended ∧
      d.truncateURLParameters { url } url = URLPurifyDelegate.resultOf url intended := by
  intro rules url d intended
  have h := applyRules_eq_intended_iff Regex.library ⟨"Global", ".*", ["utm"], none⟩
    rules { url } url rfl
  refine ⟨by decide +kernel, by decide +kernel, h.mpr (Or.inr ⟨⟨"Shop", "ref=12", ["ref"], none⟩, ?_⟩)⟩
  decide +kernel

end DumbBrowser
