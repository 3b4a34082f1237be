import DumbBrowser.Net.NetworkServiceNetworkDelegate

/-!
# What purification leaves of a query

* `tryApplyMatcher_deletes` : a matcher deletes tracked components, as many as it counts, and
  nothing else;
* `purification_deletes_tracked` : so does the delegate, and a URL is there whenever the count is
  positive.
-/

namespace DumbBrowser

/-! ## Lists with members deleted -/

namespace DeletesOnly

variable {α : Type} {P Q : α → Prop} {xs ys zs : List α}

theorem mono (hPQ : ∀ a, P a → Q a) (h : DeletesOnly P xs ys) : DeletesOnly Q xs ys := by
  induction h with
  | nil => exact .nil
  | keep _ ih => exact .keep ih
  | drop ha _ ih => exact .drop (hPQ _ ha) ih

theorem trans (h : DeletesOnly P xs ys) (h' : DeletesOnly P ys zs) : DeletesOnly P xs zs := by
  induction h generalizing zs with
  | nil => exact h'
  | keep _ ih =>
    cases h' with
    | keep h' => exact .keep (ih h')
    | drop ha h' => exact .drop ha (ih h')
  | drop ha _ ih => exact .drop ha (ih h')

theorem sublist (h : DeletesOnly P xs ys) : ys.Sublist xs := by
  induction h with
  | nil => exact .slnil
  | keep _ ih => exact ih.cons_cons _
  | drop _ _ ih => exact ih.cons _

theorem filter {p : α → Bool} (hp : ∀ a, p a = true → P a) :
    ∀ xs : List α, DeletesOnly P xs (xs.filter (!p ·))
  | [] => .nil
  | a :: xs => by
    rw [List.filter_cons]
    split
    · exact .keep (filter hp xs)
    · next ha => exact .drop (hp a (by simpa using ha)) (filter hp xs)

end DeletesOnly

/-! ## One matcher -/

/-- The components of `q` with `k` of them deleted, all tracked, give `q'`. -/
def Deletes (re2 : RE2Library) (patterns : List String) (k : Int) (q q' : List Char) : Prop :=
  ∃ kept, q' = List.intercalate ['&'] kept ∧ DeletesOnly (Tracked re2 patterns) (fields q) kept ∧
    ((fields q).length : Int) = kept.length + k

section Deletes
variable {re2 : RE2Library} {patterns patterns' : List String} {k : Int} {q q' : List Char}

theorem Deletes.none (re2 : RE2Library) (patterns : List String) (q : List Char) :
    Deletes re2 patterns 0 q q :=
  ⟨fields q, (List.intercalate_splitOn '&').symm, .refl _, by simp⟩

theorem Deletes.mono (hmono : ∀ p ∈ patterns, p ∈ patterns') (h : Deletes re2 patterns k q q') :
    Deletes re2 patterns' k q q' := by
  obtain ⟨kept, hq', hdel, hlen⟩ := h
  refine ⟨kept, hq', hdel.mono ?_, hlen⟩
  rintro f ⟨name, value, hf, hvalue, hname⟩
  refine ⟨name, value, hf, hvalue, ?_⟩
  obtain ⟨p, hp, hmatch⟩ := List.any_eq_true.mp hname
  exact List.any_eq_true.mpr ⟨p, hmono p hp, hmatch⟩

end Deletes

theorem stripFields_deletes {P : List Char → Prop} {head inner : List Char → Bool}
    (hhead : ∀ f, fieldBy head f = true → P f) (hinner : ∀ f, fieldBy inner f = true → P f)
    {fs : List (List Char)} (hne : fs ≠ []) :
    ∃ kept, List.intercalate ['&'] (stripFields head inner fs).1 = List.intercalate ['&'] kept ∧
      DeletesOnly P fs kept ∧ fs.length = kept.length + (stripFields head inner fs).2 := by
  rcases fs with _ | ⟨f, _ | ⟨g, fs⟩⟩
  · exact absurd rfl hne
  · by_cases hf : fieldBy head f = true
    · exact ⟨[], by simp [stripFields, hf], .drop (hhead f hf) .nil, by simp [stripFields, hf]⟩
    · exact ⟨[f], by simp [stripFields, hf], .refl _, by simp [stripFields, hf]⟩
  · by_cases hf : fieldBy head f = true
    · have hlen := fs.length_eq_length_filter_add (fieldBy inner)
      rw [← List.countP_eq_length_filter] at hlen
      refine ⟨_, rfl, ?_, ?_⟩
      · rw [stripFields, if_pos hf]
        exact .drop (hhead f hf) (.keep (.filter hinner fs))
      · simp only [stripFields, hf, if_true, List.length_cons]
        omega
    · have hlen := (g :: fs).length_eq_length_filter_add (fieldBy inner)
      rw [← List.countP_eq_length_filter] at hlen
      refine ⟨_, rfl, ?_, ?_⟩
      · rw [stripFields, if_neg hf]
        exact .keep (.filter hinner (g :: fs))
      · simp only [stripFields, if_neg hf, List.length_cons] at hlen ⊢
        omega

section Matcher
variable {re2 : RE2Library} (hdocumented : re2.Documented) {rule : URLPurifyRule}
  (hne : rule.queryPatterns ≠ []) (h : NamePatterns re2 rule.queryPatterns)
include hdocumented hne h

/-- What the joined pattern accepts as a name, some pattern matches. -/
theorem tracked_of_fieldBy {f : List Char}
    (hf : fieldBy (headName re2 (joinString rule.queryPatterns '|')) f = true ∨
      fieldBy (innerName re2 (joinString rule.queryPatterns '|')) f = true) : Tracked re2
        rule.queryPatterns f := by
  have hname {name : List Char}
    (hname : headName re2 (joinString rule.queryPatterns '|') name = true ∨
      innerName re2 (joinString rule.queryPatterns '|') name = true) : matchesName re2
        rule.queryPatterns name = true :=
    ((fullMatch_joined_iff h.alternation).mp (NamePatterns.fullMatch_of_name hdocumented
      hname)).resolve_left
      fun hnil => hne hnil.1
  rcases hf with hf | hf
  · obtain ⟨name, value, rfl, -, hvalue, hmatch⟩ := fieldBy_iff.mp hf
    exact ⟨name, value, rfl, hvalue, hname (Or.inl hmatch)⟩
  · obtain ⟨name, value, rfl, -, hvalue, hmatch⟩ := fieldBy_iff.mp hf
    exact ⟨name, value, rfl, hvalue, hname (Or.inr hmatch)⟩

/-- A matcher that is skipped changes nothing. -/
theorem tryApplyMatcher_deletes (isGlobal : Bool) (fullUrl q : List Char) :
    let result := tryApplyMatcher (QueryMatcher.ofRule re2 rule) isGlobal fullUrl q
    (isGlobal = false ∧ result.1 < 0 ∧ result.2 = q) ∨
      Deletes re2 rule.queryPatterns result.1 q result.2 := by
  obtain ⟨kept, hjoin, hdel, hlen⟩ := stripFields_deletes
    (fun f hf => tracked_of_fieldBy hdocumented hne h (Or.inl hf))
    (fun f hf => tracked_of_fieldBy hdocumented hne h (Or.inr hf)) (fields_ne_nil q)
  unfold tryApplyMatcher
  split
  · next hskip =>
      exact Or.inl ⟨by simpa using (Bool.and_eq_true_iff.mp hskip).1, show (-2 : Int) < 0 by decide, rfl⟩
  split
  · next hexcept =>
    exact Or.inl ⟨by simpa using (Bool.and_eq_true_iff.mp hexcept).1, show (-1 : Int) < 0 by decide, rfl⟩
  · right
    rw [h.applyQueryMatchers_eq hdocumented]
    exact ⟨kept, hjoin, hdel, by dsimp only; omega⟩

end Matcher

/-! ## The delegate -/

section Chain
variable {re2 : RE2Library} {patterns : List String}

theorem not_tracked_nil : ¬ Tracked re2 patterns [] := by
  rintro ⟨name, value, hnil, -⟩
  simp at hnil

/-- Once no component is left, nothing is there to delete. -/
theorem Deletes.trans {k m : Int} {q q' q'' : List Char} (h : Deletes re2 patterns k q q')
    (h' : Deletes re2 patterns m q' q'') : Deletes re2 patterns (k + m) q q'' := by
  obtain ⟨kept, rfl, hdel, hlen⟩ := h
  obtain ⟨kept', rfl, hdel', hlen'⟩ := h'
  rcases eq_or_ne kept [] with rfl | hne
  · have hfields : fields (List.intercalate ['&'] ([] : List (List Char))) = [[]] := rfl
    rw [hfields] at hdel' hlen'
    cases hdel' with
    | drop hnil _ => exact absurd hnil not_tracked_nil
    | keep hrest =>
      cases hrest
      refine ⟨[], rfl, hdel, ?_⟩
      simp only [List.length_cons, List.length_nil] at hlen hlen' ⊢
      omega
  · have hfields : fields (List.intercalate ['&'] kept) = kept :=
      fields_intercalate hne fun f hf => not_mem_of_mem_splitOn q f (hdel.sublist.subset hf)
    rw [hfields] at hdel' hlen'
    exact ⟨kept', rfl, hdel.trans hdel', by omega⟩

/-- The rule has patterns, and they match names only. -/
def WellFormedRule (re2 : RE2Library) (rule : URLPurifyRule) : Prop :=
  rule.queryPatterns ≠ [] ∧ NamePatterns re2 rule.queryPatterns

theorem applyPerSiteRules_deletes (hdocumented : re2.Documented) (fullUrl : List Char) :
    ∀ (rules : List URLPurifyRule) (st : PurifyState),
      (∀ rule ∈ rules, WellFormedRule re2 rule ∧ ∀ p ∈ rule.queryPatterns, p ∈ patterns) →
        let result := applyPerSiteRules fullUrl (rules.map (QueryMatcher.ofRule re2)) st
        ∃ n, result.count = st.count + n ∧ Deletes re2 patterns n st.newQuery result.newQuery
  | [], st, _ => ⟨0, by simp [applyPerSiteRules], .none re2 patterns _⟩
  | rule :: rules, st, h => by
    obtain ⟨⟨hne, hnames⟩, hsub⟩ := h rule List.mem_cons_self
    have hrule := tryApplyMatcher_deletes hdocumented hne hnames false fullUrl st.newQuery
    have hrest := applyPerSiteRules_deletes hdocumented fullUrl rules st fun r hr =>
      h r (List.mem_cons_of_mem _ hr)
    rw [List.map_cons, applyPerSiteRules]
    rcases htry : tryApplyMatcher (QueryMatcher.ofRule re2 rule) false fullUrl
      st.newQuery with ⟨ret, q⟩
    rw [htry] at hrule
    dsimp only at hrule ⊢
    rcases hrule with ⟨-, hneg, rfl⟩ | hdel
    · split
      · exact ⟨0, by simp, .none re2 patterns _⟩
      · rw [if_neg (by omega)]
        exact hrest
    · have hret : 0 ≤ ret := by
        obtain ⟨kept, -, hkept, hlen⟩ := hdel
        have := hkept.sublist.length_le
        omega
      rw [if_neg (by omega), if_pos hret]
      exact ⟨ret, rfl, hdel.mono hsub⟩

theorem applyRules_deletes (hdocumented : re2.Documented) {globalRule : URLPurifyRule}
    {perSiteRules : List URLPurifyRule}
    (hrules : ∀ rule ∈ globalRule :: perSiteRules, WellFormedRule re2 rule)
    (enabled : Bool) (url : GURL) :
    let st := (URLPurifyDelegate.ofRules re2 enabled globalRule perSiteRules).applyRules url
    Deletes re2 (trackedPatterns globalRule perSiteRules) st.count
      (url.query.getD "").toList st.newQuery := by
  have hsub : ∀ rule ∈ perSiteRules, WellFormedRule re2 rule ∧
      ∀ p ∈ rule.queryPatterns, p ∈ trackedPatterns globalRule perSiteRules := fun rule hrule =>
    ⟨hrules rule (List.mem_cons_of_mem _ hrule),
      fun p hp => List.mem_append_right _ (List.mem_flatMap.mpr ⟨rule, hrule, hp⟩)⟩
  obtain ⟨hne, hnames⟩ := hrules globalRule List.mem_cons_self
  have hglobal := tryApplyMatcher_deletes hdocumented hne hnames true url.spec.toList
    (url.query.getD "").toList
  obtain ⟨n, hcount, hdel⟩ := applyPerSiteRules_deletes hdocumented url.spec.toList perSiteRules
    ((URLPurifyDelegate.ofRules re2 enabled globalRule perSiteRules).applyGlobalRules url) hsub
  simp only [URLPurifyDelegate.applyRules]
  rw [show (URLPurifyDelegate.ofRules re2 enabled globalRule perSiteRules).perSiteMatchers =
    perSiteRules.map (QueryMatcher.ofRule re2) from rfl, hcount]
  refine Deletes.trans (Deletes.mono (fun p hp => List.mem_append_left _ hp) ?_) hdel
  exact hglobal.resolve_left fun hskip => Bool.noConfusion hskip.1

end Chain

/-- The check of an empty optional never fails. -/
theorem onBeforeURLRequest_isSome (d : NetworkServiceNetworkDelegate) (request : URLRequest)
    (loader : Option URLLoader) (newUrl : GURL) :
    (d.onBeforeURLRequest request loader newUrl).isSome = true := by
  unfold NetworkServiceNetworkDelegate.onBeforeURLRequest
  rcases loader with _ | loader
  · rfl
  rcases d.networkService with _ | service
  · rfl
  dsimp only
  split
  · next hcount =>
    rw [Option.isSome_map]
    rw [truncateURLParameters_eq] at hcount ⊢
    split at hcount
    · next hremoved =>
      rw [if_pos hremoved]
      rfl
    · exact absurd rfl hcount
  · rfl

/-- **Purification removes nothing else**: a matcher that is not skipped deletes tracked components
only, as many as it counts; the delegate gives a new URL exactly when it has counted something, and
that URL is the old one with the components of its query so deleted, without a query if nothing is
left; the network delegate always has a value. -/
theorem purification_deletes_tracked (re2 : RE2Library) (hdocumented : re2.Documented)
    (globalRule : URLPurifyRule) (perSiteRules : List URLPurifyRule)
    (hrules : ∀ rule ∈ globalRule :: perSiteRules, WellFormedRule re2 rule) :
    (∀ rule ∈ globalRule :: perSiteRules, ∀ isGlobal fullUrl q,
      let result := tryApplyMatcher (QueryMatcher.ofRule re2 rule) isGlobal fullUrl q
      (isGlobal = false ∧ result.1 < 0 ∧ result.2 = q) ∨
        Deletes re2 rule.queryPatterns result.1 q result.2) ∧
    (∀ enabled request effectiveUrl,
      let result :=
        (URLPurifyDelegate.ofRules re2 enabled globalRule perSiteRules).truncateURLParameters
          request effectiveUrl
      (result.newUrl.isSome = true ↔ 0 < result.count) ∧
      ∀ u ∈ result.newUrl, GURL.SameButQuery u request.url ∧
        ∃ q, Deletes re2 (trackedPatterns globalRule perSiteRules) result.count
          (request.url.query.getD "").toList q ∧
          u.query = if q.isEmpty then none else some (String.ofList q)) ∧
    ∀ (d : NetworkServiceNetworkDelegate) request loader newUrl,
      (d.onBeforeURLRequest request loader newUrl).isSome = true := by
  refine ⟨fun rule hrule isGlobal fullUrl q => ?_, fun enabled request effectiveUrl => ?_,
    onBeforeURLRequest_isSome⟩
  · obtain ⟨hne, hnames⟩ := hrules rule hrule
    exact tryApplyMatcher_deletes hdocumented hne hnames isGlobal fullUrl q
  · dsimp only
    rw [truncateURLParameters_eq]
    split
    · next hremoved =>
      refine ⟨by simpa using hremoved.2.2, ?_⟩
      rintro u ⟨⟩
      exact ⟨rfl, _, applyRules_deletes hdocumented hrules enabled request.url, rfl⟩
    · exact ⟨by simp, by simp⟩

/-- The default global rule on a query with a tracked component between two others. -/
theorem purification_deletes_tracked_default :
    let url : GURL :=
      { scheme := "https", host := "example.com", path := "/", query := some "a=1&utm_source=b&c=2" }
    let result := (URLPurifyDelegate.ofRules Regex.library true getDefaultGlobalRules
      []).truncateURLParameters { url } url
    result.count = 1 ∧ result.newUrl.isSome = true ∧ ∀ u ∈ result.newUrl, GURL.SameButQuery u url ∧
      ∃ q, Deletes Regex.library (trackedPatterns getDefaultGlobalRules []) result.count
        "a=1&utm_source=b&c=2".toList q ∧
        u.query = if q.isEmpty then none else some (String.ofList q) := by
  intro url result
  have hrules : ∀ rule ∈ [getDefaultGlobalRules], WellFormedRule Regex.library rule := by
    intro rule hrule
    rw [List.mem_singleton.mp hrule]
    exact ⟨by decide, namePatterns_getDefaultGlobalRules⟩
  have h := (purification_deletes_tracked Regex.library documented_library getDefaultGlobalRules []
    hrules).2.1 true { url } url
  have hcount : result.count = 1 := by decide +kernel
  exact ⟨hcount, h.1.mpr (by rw [show _ = (1 : Int) from hcount]; decide), h.2⟩

theorem Deletes.eq_zero {re2 : RE2Library} {patterns : List String} {k : Int} {q q' : List Char}
    (hnone : ∀ name, matchesName re2 patterns name = false) (h : Deletes re2 patterns k q q') : k = 0 := by
  obtain ⟨kept, -, hdel, hlen⟩ := h
  have hkeep : ∀ {xs ys : List (List Char)}, DeletesOnly (Tracked re2 patterns) xs ys →
      xs.length = ys.length := by
    intro xs ys hdel
    induction hdel with
    | nil => rfl
    | keep _ ih => simp [ih]
    | drop hf _ _ =>
      obtain ⟨name, _, -, -, hname⟩ := hf
      simp [hnone] at hname
  have := hkeep hdel
  omega

/-- A rule without a pattern empties a query without a name; a text that is no expression by itself
splits the expression that it is put into, which then deletes a part of a component. -/
theorem untracked_deleted :
    (NamePatterns Regex.library [] ∧
      ∃ q', tryApplyMatcher (QueryMatcher.ofRule Regex.library ⟨"", ".*", [], none⟩) true []
      "=1".toList = (1, q') ∧
      ¬ Deletes Regex.library [] 1 "=1".toList q') ∧
    (∀ name, matchesName Regex.library ["x)y|(z"] name = false) ∧
    ∃ q', tryApplyMatcher (QueryMatcher.ofRule Regex.library ⟨"", ".*", ["x)y|(z"], none⟩) true
    [] "az=1".toList = (1, q') ∧
      ¬ Deletes Regex.library ["x)y|(z"] 1 "az=1".toList q' := by
  have hinvalid : ∀ name, matchesName Regex.library ["x)y|(z"] name = false := by
    intro name
    have hobject : Regex.library "x)y|(z".toList false = Regex.object none :=
      congrArg Regex.object (by decide +kernel : Regex.parse true "x)y|(z".toList = none)
    simp only [matchesName, List.any_cons, List.any_nil, hobject]
    rfl
  refine ⟨⟨namePatterns_library (by simp), [], by decide +kernel, fun h => ?_⟩, hinvalid,
    "a".toList, by decide +kernel,
    fun h => ?_⟩
  · exact absurd (h.eq_zero fun _ => rfl) (by decide)
  · exact absurd (h.eq_zero hinvalid) (by decide)

end DumbBrowser
