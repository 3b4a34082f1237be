import DumbBrowser.PrivacyGuard.QueryFilter

/-!
# Tracked parameters

A parameter `name=value` is tracked by a list of patterns when one of them matches the whole name
and the value is not empty.

* `NamePatterns` : patterns of names that are read in the expressions of a matcher as they are
  alone.
* `NamePatterns.applyQueryMatchers_eq` : a matcher deletes whole parameters, decided by their names;
* `globalStage_untracked` : when the global stage leaves no tracked parameter.
-/

namespace DumbBrowser

/-! ## Patterns and their joined expression -/

section Patterns
variable (re2 : RE2Library) (patterns : List String)

/-- One of the patterns matches the whole name. -/
def matchesName (name : List Char) : Bool := patterns.any fun p =>
    (re2 p.toList false).fullMatch name

/-- The parameter is `name=value` with a matched name and a non-empty value. -/
def Tracked (param : List Char) : Prop :=
  ∃ name value, param = name ++ '=' :: value ∧ value ≠ [] ∧ matchesName re2 patterns name = true

/-- The patterns are read in the expressions of a matcher as they are alone, and match no name with
an `&` or `=`. -/
structure NamePatterns : Prop where
  alternation : re2.Alternation patterns
  grouping : Grouping re2 (joinString patterns '|')
  plain : ∀ name, matchesName re2 patterns name = true → '&' ∉ name ∧ '=' ∉ name

/-- A name that matches alone matches before a `=`, at the start and after an `&`: the pattern
refers to no end of the text. -/
def AnchorFree : Prop :=
  ∀ p ∈ patterns, ∀ name, (re2 p.toList false).fullMatch name = true →
    (re2 p.toList false).matchesAt [] name ['='] = true ∧
      (re2 p.toList false).matchesAt ['&'] name ['='] = true

/-- What the matcher of a rule accepts as a name, for patterns that refer to no end of the text. -/
structure AcceptsNames (m : List Char → Bool) : Prop where
  of_matches : ∀ name, matchesName re2 patterns name = true → m name = true
  matches_of : patterns ≠ [] → ∀ name, m name = true → matchesName re2 patterns name = true

end Patterns

section Names
variable {re2 : RE2Library} {patterns : List String} {m : List Char → Bool} {f name : List Char}

theorem matchesName_iff :
    matchesName re2 patterns name = true ↔ ∃ p ∈ patterns,
    (re2 p.toList false).fullMatch name = true := List.any_eq_true

theorem fullMatch_joined_iff (halternation : re2.Alternation patterns) :
    (re2 (joinString patterns '|') false).fullMatch name = true ↔
      (patterns = [] ∧ name = []) ∨ matchesName re2 patterns name = true := by
  rw [matchesName_iff]
  exact halternation [] name []

theorem NamePatterns.avoiding (h : NamePatterns re2 patterns) :
    Avoiding re2 (joinString patterns '|') := by
  intro n hn
  rcases (fullMatch_joined_iff h.alternation).mp hn with ⟨-, rfl⟩ | hn
  · simp
  · exact h.plain n hn

/-- What is matched as a name is matched alone. -/
theorem NamePatterns.fullMatch_of_name (hdocumented : re2.Documented)
    (hname : headName re2 (joinString patterns '|') name = true ∨
      innerName re2 (joinString patterns '|') name = true) :
    (re2 (joinString patterns '|') false).fullMatch name = true := by
  have hre := hdocumented (joinString patterns '|') false
  rcases hname with hname | hname
  · exact hre.alone [] name ['='] (by simp) (by simp [isWordChar]) hname
  · exact hre.alone ['&'] name ['='] (by simp [isWordChar]) (by simp [isWordChar]) hname

/-- Patterns that refer to no end of the text accept the same names at the start and further on. -/
theorem NamePatterns.exists_names (hdocumented : re2.Documented)
    (halternation : re2.Alternation patterns) (hfree : AnchorFree re2 patterns) :
    ∃ m, AcceptsNames re2 patterns m ∧
      headName re2 (joinString patterns '|') = m ∧ innerName re2 (joinString patterns '|') = m := by
  have hanywhere {name : List Char}
    (hname : (re2 (joinString patterns '|') false).fullMatch name = true) :
      headName re2 (joinString patterns '|') name = true ∧
        innerName re2 (joinString patterns '|') name = true := by
    rw [headName, innerName, halternation, halternation]
    rcases (fullMatch_joined_iff halternation).mp hname with hnil | hname
    · exact ⟨Or.inl hnil, Or.inl hnil⟩
    · obtain ⟨p, hp, hmatch⟩ := matchesName_iff.mp hname
      exact ⟨Or.inr ⟨p, hp, (hfree p hp name hmatch).1⟩, Or.inr ⟨p, hp, (hfree p hp name hmatch).2⟩⟩
  refine ⟨(re2 (joinString patterns '|') false).fullMatch,
    ⟨fun name hname => ?_, fun hne name hname => ?_⟩, ?_, ?_⟩
  · exact (fullMatch_joined_iff halternation).mpr (Or.inr hname)
  · exact ((fullMatch_joined_iff halternation).mp hname).resolve_left fun hnil => hne hnil.1
  · funext name
    exact Bool.eq_iff_iff.mpr ⟨fun hname => fullMatch_of_name hdocumented (Or.inl hname),
      fun hname => (hanywhere hname).1⟩
  · funext name
    exact Bool.eq_iff_iff.mpr ⟨fun hname => fullMatch_of_name hdocumented (Or.inr hname),
      fun hname => (hanywhere hname).2⟩

@[simp] theorem fieldBy_nil (m : List Char → Bool) : fieldBy m [] = false := rfl

theorem fieldBy_of_tracked (hm : AcceptsNames re2 patterns m) (h : NamePatterns re2 patterns)
    (hf : Tracked re2 patterns f) : fieldBy m f = true := by
  obtain ⟨name, value, rfl, hvalue, hname⟩ := hf
  exact fieldBy_iff.mpr ⟨name, value, rfl, (h.plain name hname).2, hvalue, hm.of_matches name hname⟩

theorem tracked_iff_fieldBy (hm : AcceptsNames re2 patterns m) (h : NamePatterns re2 patterns)
    (hne : patterns ≠ []) :
    Tracked re2 patterns f ↔ fieldBy m f = true := by
  refine ⟨fieldBy_of_tracked hm h, fun hf => ?_⟩
  obtain ⟨name, value, rfl, -, hvalue, hname⟩ := fieldBy_iff.mp hf
  exact ⟨name, value, rfl, hvalue, hm.matches_of hne name hname⟩

end Names

/-! ## One application of a matcher -/

section Strip
variable {head inner m : List Char → Bool} {fs : List (List Char)}

theorem stripFields_ne_nil (h : fs ≠ []) : (stripFields head inner fs).1 ≠ [] := by
  rcases fs with _ | ⟨f, _ | ⟨g, fs⟩⟩
  · exact absurd rfl h
  all_goals
    rw [stripFields]
    split <;> simp

theorem mem_of_mem_stripFields {f : List Char} (h : f ∈ (stripFields head inner fs).1) :
    f = [] ∨ f ∈ fs := by
  rcases fs with _ | ⟨f, _ | ⟨g, fs⟩⟩
  · simp [stripFields] at h
  all_goals
    rw [stripFields] at h
    split at h
    · simp only [List.mem_cons, List.mem_filter, List.not_mem_nil] at h
      grind
    · simp only [List.mem_cons, List.mem_filter, List.not_mem_nil] at h
      grind

/-- Nothing is deleted, or a lone field is emptied, or there are fewer fields. -/
theorem stripFields_count (head inner : List Char → Bool) (fs : List (List Char)) :
    stripFields head inner fs = (fs, 0) ∨
      0 < (stripFields head inner fs).2 ∧ ((stripFields head inner fs).1 = [[]] ∨
        (stripFields head inner fs).1.length < fs.length) := by
  rcases fs with _ | ⟨f, _ | ⟨g, fs⟩⟩
  · simp [stripFields]
  · by_cases hf : fieldBy head f = true <;> simp [stripFields, hf]
  · by_cases hf : fieldBy head f = true
    · have hlen := fs.length_eq_length_filter_add (fieldBy inner)
      rw [← List.countP_eq_length_filter] at hlen
      simp only [stripFields, hf, if_true, List.length_cons]
      omega
    · have hlen := (g :: fs).length_eq_length_filter_add (fieldBy inner)
      rw [← List.countP_eq_length_filter] at hlen
      simp only [stripFields, hf, List.length_cons] at hlen ⊢
      rcases Nat.eq_zero_or_pos ((g :: fs).countP (fieldBy inner)) with h | h
      · left
        have : (g :: fs).filter (!fieldBy inner ·) = g :: fs := by
          rw [List.filter_eq_self]
          intro x hx
          simpa using List.countP_eq_zero.mp h x hx
        simp [h, this]
      · right
        simp only [if_false, Bool.false_eq_true] at hlen ⊢
        exact ⟨h, Or.inr (by simp only [List.length_cons]; omega)⟩

/-- When no field is matched nothing changes. -/
theorem stripFields_of_untracked (h : ∀ f ∈ fs, fieldBy m f = false) :
    stripFields m m fs = (fs, 0) := by
  have hfilter : ∀ gs : List (List Char), (∀ f ∈ gs, fieldBy m f = false) →
      gs.filter (!fieldBy m ·) = gs ∧ gs.countP (fieldBy m) = 0 := by
    intro gs hgs
    exact ⟨List.filter_eq_self.mpr
      fun f hf => by simp [hgs f hf], List.countP_eq_zero.mpr fun f hf => by simp [hgs f hf]⟩
  rcases fs with _ | ⟨f, _ | ⟨g, fs⟩⟩
  · rfl
  · simp [stripFields, h f List.mem_cons_self]
  · obtain ⟨h₁, h₂⟩ := hfilter (g :: fs) fun x hx => h x (List.mem_cons_of_mem _ hx)
    rw [stripFields, if_neg (by simp [h f List.mem_cons_self]), h₁, h₂]

/-- Only the first field that is left can still be matched. -/
theorem stripFields_tail_untracked (m : List Char → Bool) (fs : List (List Char)) :
    ∀ f ∈ (stripFields m m fs).1.tail, fieldBy m f = false := by
  intro f hf
  rcases fs with _ | ⟨f', _ | ⟨g, fs⟩⟩
  · simp [stripFields] at hf
  all_goals
    rw [stripFields] at hf
    split at hf <;> simp_all

/-- The first field that is left is matched when the first two were. -/
theorem stripFields_untracked_iff :
    (∀ f ∈ (stripFields m m fs).1, fieldBy m f = false) ↔
      ¬ ∃ f g rest, fs = f :: g :: rest ∧ fieldBy m f = true ∧ fieldBy m g = true := by
  have htail := stripFields_tail_untracked m fs
  rcases fs with _ | ⟨f, _ | ⟨g, fs⟩⟩
  · simp [stripFields]
  · by_cases hf : fieldBy m f = true
    · simp [stripFields, hf]
    · simp [stripFields, hf]
  · rw [stripFields] at htail ⊢
    by_cases hf : fieldBy m f = true
    · simp_all
    · simp_all

/-- After a second application nothing is matched. -/
theorem stripFields_twice : ∀ f ∈ (stripFields m m (stripFields m m fs).1).1,
    fieldBy m f = false := by
  rw [stripFields_untracked_iff]
  rintro ⟨f, g, rest, hfs, -, hg⟩
  have := stripFields_tail_untracked m fs g (by simp [hfs])
  simp [hg] at this

end Strip

/-! ## One matcher on a query -/

/-- The `&`-separated components of a query. -/
def fields (q : List Char) : List (List Char) := q.splitOn '&'

theorem fields_intercalate {fs : List (List Char)} (hne : fs ≠ []) (h : ∀ f ∈ fs, '&' ∉ f) :
    fields (List.intercalate ['&'] fs) = fs := List.splitOn_intercalate '&' h hne

theorem fields_ne_nil (q : List Char) : fields q ≠ [] := List.splitOn_ne_nil '&' q

section Matcher
variable {re2 : RE2Library} (hdocumented : re2.Documented) {rule : URLPurifyRule}
  (h : NamePatterns re2 rule.queryPatterns)
include hdocumented h

/-- A matcher acts on the fields. -/
theorem NamePatterns.applyQueryMatchers_eq (count : Int) (q : List Char) :
    let head := headName re2 (joinString rule.queryPatterns '|')
    let inner := innerName re2 (joinString rule.queryPatterns '|')
    applyQueryMatchers (QueryMatcher.ofRule re2 rule).queryMatchers count q =
      (count + (stripFields head inner (fields q)).2,
        List.intercalate ['&'] (stripFields head inner (fields q)).1) :=
  DumbBrowser.applyQueryMatchers_eq hdocumented h.grouping h.avoiding count q

theorem exists_effect_of_anchorFree (hfree : AnchorFree re2 rule.queryPatterns) :
    ∃ m, AcceptsNames re2 rule.queryPatterns m ∧
      ∀ count q, applyQueryMatchers (QueryMatcher.ofRule re2 rule).queryMatchers count q =
        (count + (stripFields m m (fields q)).2,
            List.intercalate ['&'] (stripFields m m (fields q)).1) := by
  obtain ⟨m, hm, hhead, hinner⟩ := NamePatterns.exists_names hdocumented h.alternation hfree
  refine ⟨m, hm, fun count q => ?_⟩
  have heffect := h.applyQueryMatchers_eq hdocumented count q
  rwa [hhead, hinner] at heffect

end Matcher

theorem fields_stripFields (head inner : List Char → Bool) (q : List Char) :
    fields (List.intercalate ['&'] (stripFields head inner (fields q)).1) =
    (stripFields head inner (fields q)).1 := by
  refine fields_intercalate (stripFields_ne_nil (fields_ne_nil q)) fun f hf => ?_
  rcases mem_of_mem_stripFields hf with rfl | hf
  · simp
  · exact not_mem_of_mem_splitOn q f hf

/-! ## The global stage -/

/-- No tracked parameter is left exactly when the first two parameters of the query were not both
tracked. -/
theorem globalStage_untracked {re2 : RE2Library} (hdocumented : re2.Documented)
    (h : NamePatterns re2 getDefaultGlobalRules.queryPatterns)
    (hfree : AnchorFree re2 getDefaultGlobalRules.queryPatterns) (url : GURL) :
    (∀ param ∈ fields ((URLPurifyDelegate.default re2).applyGlobalRules url).newQuery,
        ¬ Tracked re2 getDefaultGlobalRules.queryPatterns param) ↔
      ¬ ∃ param₁ param₂ rest, fields (url.query.getD "").toList = param₁ :: param₂ :: rest ∧
        Tracked re2 getDefaultGlobalRules.queryPatterns param₁ ∧
        Tracked re2 getDefaultGlobalRules.queryPatterns param₂ := by
  obtain ⟨m, hm, heff⟩ := exists_effect_of_anchorFree hdocumented h hfree
  have htracked : ∀ f, Tracked re2 getDefaultGlobalRules.queryPatterns f ↔
      fieldBy m f = true := fun f =>
    tracked_iff_fieldBy hm h (by simp [getDefaultGlobalRules])
  have hstage : ((URLPurifyDelegate.default re2).applyGlobalRules url).newQuery =
      List.intercalate ['&'] (stripFields m m (fields (url.query.getD "").toList)).1 := by
    simp [URLPurifyDelegate.applyGlobalRules, URLPurifyDelegate.default, tryApplyMatcher, heff]
  rw [hstage, fields_stripFields]
  simp only [htracked, Bool.not_eq_true]
  exact stripFields_untracked_iff

end DumbBrowser
