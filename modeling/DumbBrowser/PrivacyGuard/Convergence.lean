import DumbBrowser.PrivacyGuard.DefaultRules
import Mathlib.Logic.Function.Iterate

/-!
# Repeated purification

A purified URL comes back as a request of its own.

* `fieldCount_purify_lt` : a step that counts something leaves fewer components;
* `purify_converges` : re-running the delegate on its own result ends, and a second application of
  one matcher leaves nothing to remove.
-/

namespace DumbBrowser

/-! ## One step -/

namespace URLPurifyDelegate

/-- The number of removals for a request of `url`. -/
def purifyCount (d : URLPurifyDelegate) (url : GURL) : Int :=
  (d.truncateURLParameters { url } url).count

/-- The URL a request of `url` is sent to. -/
def purify (d : URLPurifyDelegate) (url : GURL) : GURL :=
  (d.truncateURLParameters { url } url).newUrl.getD url

end URLPurifyDelegate

/-- The number of `&`-separated components; a URL without a query has none. -/
def fieldCount (url : GURL) : Nat := url.query.elim 0 fun q => (fields q.toList).length

/-- The number of components, of a query that is dropped when it is empty. -/
def queryWeight (q : List Char) : Nat := if q.isEmpty then 0 else (fields q).length

theorem queryWeight_le (url : GURL) : queryWeight (url.query.getD "").toList ≤ fieldCount url := by
  rcases hq : url.query with _ | q
  · simp [queryWeight]
  · simp only [fieldCount, hq, Option.getD_some, Option.elim_some, queryWeight]
    split <;> omega

/-- Nothing changes, or something is counted and the query gets lighter. -/
def Lighter (count : Int) (q q' : List Char) : Prop :=
  (count = 0 ∧ q' = q) ∨ (0 < count ∧ queryWeight q' < queryWeight q)

theorem Lighter.trans {n m : Int} {q q' q'' : List Char} (h : Lighter n q q')
    (h' : Lighter m q' q'') :
    Lighter (n + m) q q'' := by
  rcases h with ⟨rfl, rfl⟩ | ⟨hn, hq⟩
  · simpa using h'
  · rcases h' with ⟨rfl, rfl⟩ | ⟨hm, hq'⟩
    · right
      simpa using ⟨hn, hq⟩
    · right
      constructor <;> omega

section Rules
variable {re2 : RE2Library} (hdocumented : re2.Documented) {rule globalRule : URLPurifyRule}
  {perSiteRules : List URLPurifyRule}
include hdocumented

theorem applyQueryMatchers_lighter (h : NamePatterns re2 rule.queryPatterns) (q : List Char) :
    Lighter (applyQueryMatchers (QueryMatcher.ofRule re2 rule).queryMatchers 0 q).1 q
      (applyQueryMatchers (QueryMatcher.ofRule re2 rule).queryMatchers 0 q).2 := by
  rw [h.applyQueryMatchers_eq hdocumented]
  generalize headName re2 (joinString rule.queryPatterns '|') = head
  generalize innerName re2 (joinString rule.queryPatterns '|') = inner
  have hfields := fields_stripFields head inner q
  rcases stripFields_count head inner (fields q) with hsame | ⟨hpos, hless⟩
  · left
    rw [hsame, fields, List.intercalate_splitOn]
    simp
  · right
    have hq : q ≠ [] := by
      rintro rfl
      simp [fields, stripFields] at hpos
    have hlen := List.length_pos_of_ne_nil (fields_ne_nil q)
    simp only [queryWeight, hfields, List.isEmpty_iff, if_neg hq]
    refine ⟨by omega, ?_⟩
    rcases hless with hnil | hlt
    · rw [hnil]
      simpa using hlen
    · split <;> omega

theorem tryApplyMatcher_lighter (h : NamePatterns re2 rule.queryPatterns) (isGlobal : Bool)
    (fullUrl q : List Char) :
    (isGlobal = false ∧ (tryApplyMatcher (QueryMatcher.ofRule re2 rule) isGlobal fullUrl q).1 < 0 ∧
        (tryApplyMatcher (QueryMatcher.ofRule re2 rule) isGlobal fullUrl q).2 = q) ∨
      Lighter (tryApplyMatcher (QueryMatcher.ofRule re2 rule) isGlobal fullUrl q).1 q
        (tryApplyMatcher (QueryMatcher.ofRule re2 rule) isGlobal fullUrl q).2 := by
  unfold tryApplyMatcher
  split
  · next hskip =>
    left
    simp_all
  · split
    · next hexcept =>
      left
      simp_all
    · exact Or.inr (applyQueryMatchers_lighter hdocumented h q)

theorem applyPerSiteRules_lighter (fullUrl : List Char) :
    ∀ (rules : List URLPurifyRule) (st : PurifyState),
    (∀ rule ∈ rules, NamePatterns re2 rule.queryPatterns) →
      ∃ n, (applyPerSiteRules fullUrl (rules.map (QueryMatcher.ofRule re2)) st).count = st.count + n ∧
        Lighter n st.newQuery (applyPerSiteRules fullUrl
            (rules.map (QueryMatcher.ofRule re2)) st).newQuery
  | [], st, _ => ⟨0, by simp [applyPerSiteRules], Or.inl ⟨rfl, rfl⟩⟩
  | rule :: rules, st, h => by
    have hrule := tryApplyMatcher_lighter hdocumented (h rule List.mem_cons_self)
      false fullUrl st.newQuery
    have hrest := applyPerSiteRules_lighter fullUrl rules { st with newQuery := st.newQuery }
      fun r hr => h r (List.mem_cons_of_mem _ hr)
    rw [List.map_cons, applyPerSiteRules]
    rcases htry : tryApplyMatcher (QueryMatcher.ofRule re2 rule) false fullUrl
      st.newQuery with ⟨ret, q⟩
    rw [htry] at hrule
    dsimp only at hrule ⊢
    rcases hrule with ⟨-, hneg, rfl⟩ | hlight
    · split
      · exact ⟨0, by simp, Or.inl ⟨rfl, rfl⟩⟩
      · rw [if_neg (by omega)]
        exact hrest
    · have hret : 0 ≤ ret := by
        rcases hlight with ⟨rfl, -⟩ | ⟨hpos, -⟩ <;> omega
      rw [if_neg (by omega), if_pos hret]
      exact ⟨ret, rfl, hlight⟩

variable (hglobal : NamePatterns re2 globalRule.queryPatterns)
  (hperSite : ∀ rule ∈ perSiteRules, NamePatterns re2 rule.queryPatterns) (enabled : Bool)
include hglobal hperSite

open URLPurifyDelegate

theorem applyRules_lighter (url : GURL) :
    Lighter ((ofRules re2 enabled globalRule perSiteRules).applyRules url).count
    (url.query.getD "").toList
      ((ofRules re2 enabled globalRule perSiteRules).applyRules url).newQuery := by
  have hstage := tryApplyMatcher_lighter hdocumented hglobal true url.spec.toList
    (url.query.getD "").toList
  obtain ⟨n, hn, hlight⟩ := applyPerSiteRules_lighter hdocumented url.spec.toList perSiteRules
    ((ofRules re2 enabled globalRule perSiteRules).applyGlobalRules url) hperSite
  have hcount : ((ofRules re2 enabled globalRule perSiteRules).applyRules url).count =
    ((ofRules re2 enabled globalRule perSiteRules).applyGlobalRules url).count + n := hn
  rw [hcount]
  refine Lighter.trans ?_ hlight
  rcases hstage with ⟨hfalse, -⟩ | hstage
  · cases hfalse
  · exact hstage

/-- Every step that counts something leaves fewer components. -/
theorem fieldCount_purify_lt (url : GURL)
    (hpos : 0 < (ofRules re2 enabled globalRule perSiteRules).purifyCount url) :
    fieldCount ((ofRules re2 enabled globalRule perSiteRules).purify url) < fieldCount url := by
  have hlight := applyRules_lighter hdocumented hglobal hperSite enabled url
  have hweight := queryWeight_le url
  revert hpos
  simp only [purifyCount, purify, truncateURLParameters, resultOf]
  generalize (ofRules re2 enabled globalRule perSiteRules).applyRules url = st at hlight
  intro hpos
  rcases hlight with ⟨hzero, -⟩ | ⟨hcount, hlt⟩
  · split at hpos
    · simp at hpos
    · simp [hzero] at hpos
  · split
    · simp_all
    · split
      · refine lt_of_lt_of_le (lt_of_le_of_lt ?_ hlt) hweight
        simp only [Option.getD_some, fieldCount, GURL.replaceQuery_query, queryWeight]
        split <;> simp
      · simp_all

end Rules

/-! ## All steps -/

/-- A measure that a function lowers as long as it is not done bounds the number of steps. -/
theorem exists_iterate_of_decreasing {α : Type} {f : α → α} {μ : α → Nat} (done : α → Prop)
    (h : ∀ a, ¬ done a → μ (f a) < μ a) (a : α) : ∃ n ≤ μ a, done (f^[n] a) := by
  induction hμ : μ a using Nat.strong_induction_on generalizing a with
  | _ k ih =>
    by_cases ha : done a
    · exact ⟨0, Nat.zero_le _, ha⟩
    · have hlt := h a ha
      obtain ⟨n, hn, hdone⟩ := ih (μ (f a)) (hμ ▸ hlt) (f a) rfl
      exact ⟨n + 1, by omega, hdone⟩

/-- **Purification converges**, in at most as many steps as there are components, and a second
application of one matcher whose patterns refer to no end of the text leaves nothing to delete. -/
theorem purify_converges (re2 : RE2Library) (hdocumented : re2.Documented) (enabled : Bool)
    (globalRule : URLPurifyRule) (perSiteRules : List URLPurifyRule)
    (hglobal : NamePatterns re2 globalRule.queryPatterns)
    (hperSite : ∀ rule ∈ perSiteRules, NamePatterns re2 rule.queryPatterns) :
    let d := URLPurifyDelegate.ofRules re2 enabled globalRule perSiteRules
    (∀ url, 0 < d.purifyCount url → fieldCount (d.purify url) < fieldCount url) ∧
    (∀ url, ∃ n ≤ fieldCount url, d.purifyCount (d.purify^[n] url) = 0) ∧
    (∀ rule ∈ globalRule :: perSiteRules, AnchorFree re2 rule.queryPatterns → ∀ q,
      let loop := applyQueryMatchers (QueryMatcher.ofRule re2 rule).queryMatchers 0
      let q₂ := (loop (loop q).2).2
      loop q₂ = (0, q₂) ∧ ∀ param ∈ fields q₂, ¬ Tracked re2 rule.queryPatterns param) := by
  intro d
  have hstep := fieldCount_purify_lt hdocumented hglobal hperSite enabled
  have hcount : ∀ url, 0 ≤ d.purifyCount url := by
    intro url
    simp only [URLPurifyDelegate.purifyCount, URLPurifyDelegate.truncateURLParameters,
      URLPurifyDelegate.resultOf]
    split
    · simp
    · split
      · split
        · simp
          omega
        · simp
      · simp
  refine ⟨hstep, fun url => ?_, fun rule hrule hfree q => ?_⟩
  · exact exists_iterate_of_decreasing (fun url => d.purifyCount url = 0)
      (fun url hne => hstep url (Int.lt_iff_le_and_ne.mpr ⟨hcount url, Ne.symm hne⟩)) url
  · have h : NamePatterns re2 rule.queryPatterns := by
      rcases List.mem_cons.mp hrule with rfl | hrule
      · exact hglobal
      · exact hperSite rule hrule
    obtain ⟨m, hm, heff⟩ := exists_effect_of_anchorFree hdocumented h hfree
    have hfields := fields_stripFields m m
    have hloop : ∀ q, (applyQueryMatchers (QueryMatcher.ofRule re2 rule).queryMatchers 0 q).2 =
        List.intercalate ['&'] (stripFields m m (fields q)).1 := fun q => by rw [heff]
    dsimp only
    rw [hloop, hloop]
    generalize hq₁ : List.intercalate ['&'] (stripFields m m (fields q)).1 = q₁
    generalize hq₂ : List.intercalate ['&'] (stripFields m m (fields q₁)).1 = q₂
    have huntracked : ∀ f ∈ fields q₂, fieldBy m f = false := by
      rw [← hq₂, hfields, ← hq₁, hfields]
      exact stripFields_twice
    refine ⟨?_, fun param hparam htracked => ?_⟩
    · rw [heff, stripFields_of_untracked huntracked, fields, List.intercalate_splitOn]
      simp
    · have := fieldBy_of_tracked hm h htracked
      simp [huntracked param hparam] at this

/-- Two applications do not suffice for a pattern with an anchor, nor for one that is no
expression. -/
theorem two_applications_do_not_suffice :
    (NamePatterns Regex.library ["^foo"] ∧
      let loop := applyQueryMatchers
        (QueryMatcher.ofRule Regex.library ⟨"anchored", ".*", ["^foo"], none⟩).queryMatchers 0
      let q₂ := (loop (loop "foo=1&foo=2&foo=3".toList).2).2
      loop q₂ ≠ (0, q₂) ∧ ∃ param ∈ fields q₂, Tracked Regex.library ["^foo"] param) ∧
    ((∀ name, matchesName Regex.library ["x)y|(z"] name = false) ∧
      let loop := applyQueryMatchers
        (QueryMatcher.ofRule Regex.library ⟨"split group", ".*", ["x)y|(z"], none⟩).queryMatchers 0
      let q₂ := (loop (loop "&&&xyxyxy".toList).2).2
      loop q₂ ≠ (0, q₂)) := by
  refine ⟨⟨namePatterns_library (by decide), by decide +kernel, "foo=3".toList, by decide +kernel,
    "foo".toList, "3".toList, by decide, by decide, by decide⟩, fun name => ?_, by decide +kernel⟩
  have hobject : Regex.library "x)y|(z".toList false = Regex.object none :=
    congrArg Regex.object (by decide : Regex.parse true "x)y|(z".toList = none)
  simp only [matchesName, List.any_cons, List.any_nil, hobject]
  rfl

/-- A tracking parameter behind two others, with a rule for all sites and one for its site. -/
theorem purify_converges_on_rules :
    let globalRule : URLPurifyRule := ⟨"Global", ".*", ["utm_[a-z]+", "ref_?"], none⟩
    let perSiteRules : List URLPurifyRule := [⟨"Shop", "shop\\.example", ["qid"], none⟩]
    let d := URLPurifyDelegate.ofRules Regex.library true globalRule perSiteRules
    (∀ url, 0 < d.purifyCount url → fieldCount (d.purify url) < fieldCount url) ∧
    (∀ url, ∃ n ≤ fieldCount url, d.purifyCount (d.purify^[n] url) = 0) ∧
    (∀ rule ∈ globalRule :: perSiteRules, AnchorFree Regex.library rule.queryPatterns → ∀ q,
      let loop := applyQueryMatchers (QueryMatcher.ofRule Regex.library rule).queryMatchers 0
      let q₂ := (loop (loop q).2).2
      loop q₂ = (0, q₂) ∧ ∀ param ∈ fields q₂, ¬ Tracked Regex.library rule.queryPatterns param) :=
  purify_converges Regex.library documented_library true _ _ (namePatterns_library (by decide))
    fun rule hrule => by
    rw [List.mem_singleton] at hrule
    subst hrule
    exact namePatterns_library (by decide)

end DumbBrowser
