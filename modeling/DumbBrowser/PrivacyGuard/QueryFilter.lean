import DumbBrowser.PrivacyGuard.QueryMatcher
import Mathlib.Data.List.TakeWhile

/-!
# What the query matchers do to a query

A query is a list of fields joined by `&`. For a name pattern that is read in the expressions of a
matcher as it is alone (`Grouping`) and that matches neither `&` nor `=`, the three replacements
delete whole fields `name=value` (`applyQueryMatchers_eq`): a lone field, else the first field,
once, and then every matched field that is not the first.
-/

namespace DumbBrowser

/-! ## Fields -/

/-- The field is `name=value` with a non-empty value and a name that `m` accepts; the name ends at
the first `=`. -/
def fieldBy (m : List Char → Bool) (f : List Char) : Bool :=
  match f.dropWhile (· != '=') with
  | [] => false
  | _ :: v => !v.isEmpty && m (f.takeWhile (· != '='))

theorem fieldBy_iff {m : List Char → Bool} {f : List Char} :
    fieldBy m f = true ↔ ∃ n v, f = n ++ '=' :: v ∧ '=' ∉ n ∧ v ≠ [] ∧ m n = true := by
  have hsplit := List.takeWhile_append_dropWhile (p := (· != '=')) (l := f)
  constructor
  · intro h
    unfold fieldBy at h
    split at h
    · cases h
    · next x v hdrop =>
      have hx : x = '=' := by
        have := List.head_dropWhile_not (p := (· != '=')) (l := f) (by simp [hdrop])
        simpa [hdrop] using this
      simp only [Bool.and_eq_true, Bool.not_eq_true', List.isEmpty_eq_false_iff] at h
      refine ⟨f.takeWhile (· != '='), v, ?_, ?_, h.1, h.2⟩
      · rw [hx] at hdrop
        rw [← hdrop, hsplit]
      · intro hmem
        have := List.mem_takeWhile_imp hmem
        simp at this
  · rintro ⟨n, v, rfl, hn, hv, hm⟩
    have hall : ∀ x ∈ n, (x != '=') = true := by
      intro x hx
      simpa using fun h : x = '=' => hn (h ▸ hx)
    unfold fieldBy
    rw [List.dropWhile_append_of_pos hall, List.takeWhile_append_of_pos hall]
    simp [hv, hm]

/-- The fields after the first one, each with the `&` before it. -/
def tailText (fs : List (List Char)) : List Char := fs.flatMap ('&' :: ·)

theorem intercalate_cons_eq (f : List Char) : ∀ fs : List (List Char),
    List.intercalate ['&'] (f :: fs) = f ++ tailText fs
  | [] => by simp [tailText]
  | g :: fs => by
    rw [List.intercalate_cons_cons, intercalate_cons_eq g fs]
    simp [tailText]

/-- No field ends inside `u`: what reads on past `f` has to read the `&`. -/
theorem prefix_of_no_separator {f u s : List Char} {fs : List (List Char)} (hu : '&' ∉ u)
    (h : f ++ tailText fs = u ++ s) : ∃ v, f = u ++ v ∧ s = v ++ tailText fs := by
  rcases List.append_eq_append_iff.mp h with ⟨a, rfl, ha⟩ | ⟨v, rfl, hv⟩
  · rcases fs with _ | ⟨g, fs⟩
    · obtain ⟨rfl, rfl⟩ := List.append_eq_nil_iff.mp ha.symm
      exact ⟨[], by simp, by simp [tailText]⟩
    · rcases a with _ | ⟨x, a⟩
      · exact ⟨[], by simp, by simpa using ha.symm⟩
      · have hx : '&' = x := by
          have := congrArg List.head? ha
          simpa [tailText] using this
        subst hx
        exact absurd (by simp) hu
  · exact ⟨v, rfl, hv⟩

/-! ## The three expressions of a matcher -/

/-- The pattern in parentheses is one item of each of the three expressions, whose other items are
characters, ends of the text and `[^&]+`, which takes all it can. So it is for a pattern that is an
expression, closes no group that it has not opened, and sets no flag and opens no quotation that
lasts beyond it. -/
structure Grouping (re2 : RE2Library) (queryPattern : List Char) : Prop where
  appended : ∀ pre w post, (re2 (appendedPattern queryPattern) false).matchesAt pre w post = true ↔
    pre = [] ∧ post = [] ∧ ∃ n v, w = n ++ '=' :: v ∧ v ≠ [] ∧ '&' ∉ v ∧
      (re2 queryPattern false).matchesAt [] n ('=' :: v) = true
  first : ∀ pre w post, (re2 (firstPattern queryPattern) false).matchesAt pre w post = true ↔
    pre = [] ∧ ∃ n v, w = n ++ '=' :: (v ++ ['&']) ∧ v ≠ [] ∧ '&' ∉ v ∧
      (re2 queryPattern false).matchesAt [] n ('=' :: (v ++ '&' :: post)) = true
  only : ∀ pre w post, (re2 (onlyPattern queryPattern) false).matchesAt pre w post = true ↔
    ∃ n v, w = '&' :: (n ++ '=' :: v) ∧ v ≠ [] ∧ '&' ∉ v ∧
      (re2 queryPattern false).matchesAt ('&' :: pre) n ('=' :: (v ++ post)) = true
  greedy : ∀ c e, (re2 (onlyPattern queryPattern) false).preferred c = some e →
    ∀ x ∈ e.post.head?, x = '&'

section Names
variable (re2 : RE2Library) (queryPattern : List Char)

/-- The name is matched at the start of the query. -/
def headName (n : List Char) : Bool := (re2 queryPattern false).matchesAt [] n ['=']

/-- The name is matched further on. -/
def innerName (n : List Char) : Bool := (re2 queryPattern false).matchesAt ['&'] n ['=']

/-- The pattern matches no name with a separator in it. -/
def Avoiding : Prop := ∀ n, (re2 queryPattern false).fullMatch n = true → '&' ∉ n ∧ '=' ∉ n

end Names

section Expressions
variable {re2 : RE2Library} {queryPattern pre n v w post : List Char}
  (hre : (re2 queryPattern false).Documented) (havoiding : Avoiding re2 queryPattern)
  (hgroup : Grouping re2 queryPattern)

include hre havoiding in
theorem Avoiding.of_matchesAt (hpre : ∀ x ∈ pre.head?, x = '&')
    (hmatch : (re2 queryPattern false).matchesAt pre n ('=' :: post) = true) :
    '&' ∉ n ∧ '=' ∉ n := by
  refine havoiding n (hre.alone pre n ('=' :: post) (fun x hx => ?_) (fun x hx => ?_) hmatch)
  · rw [hpre x hx]
    decide
  · obtain rfl : '=' = x := by simpa using hx
    decide

/-- A name and a value with no separator in either are a field. -/
theorem fieldBy_of_name {m : List Char → Bool} (hn : '&' ∉ n ∧ '=' ∉ n)
    (hv : v ≠ []) (hamp : '&' ∉ v) (hm : m n = true) : '&' ∉ n ++ '=' :: v ∧ fieldBy m
    (n ++ '=' :: v) = true := by
  refine ⟨by simp [hn.1, hamp], fieldBy_iff.mpr ⟨n, v, rfl, hn.2, hv, hm⟩⟩

include hre in
theorem matchesAt_head_iff :
    (re2 queryPattern false).matchesAt [] n ('=' :: post) = headName re2 queryPattern n :=
  hre.near [] [] n _ _ rfl rfl

include hre in
theorem matchesAt_inner_iff :
    (re2 queryPattern false).matchesAt ('&' :: pre) n
    ('=' :: post) = innerName re2 queryPattern n :=
  hre.near _ _ n _ _ rfl rfl

include hre havoiding hgroup

/-- `^(P)=[^&]+$` matches a whole text that is a field. -/
theorem appended_iff : (re2 (appendedPattern queryPattern) false).matchesAt pre w post = true ↔
    pre = [] ∧ post = [] ∧ '&' ∉ w ∧ fieldBy (headName re2 queryPattern) w = true := by
  rw [hgroup.appended]
  refine and_congr_right fun _ => and_congr_right fun _ => ?_
  constructor
  · rintro ⟨n, v, rfl, hv, hamp, hmatch⟩
    have hn := havoiding.of_matchesAt hre (by simp) hmatch
    rw [matchesAt_head_iff hre] at hmatch
    exact fieldBy_of_name hn hv hamp hmatch
  · rintro ⟨hw, hfield⟩
    obtain ⟨n, v, rfl, -, hv, hname⟩ := fieldBy_iff.mp hfield
    refine ⟨n, v, rfl, hv, fun hamp => hw (by simp [hamp]), ?_⟩
    rwa [matchesAt_head_iff hre]

/-- `^(P)=[^&]+&` matches a field and the `&` after it. -/
theorem first_iff : (re2 (firstPattern queryPattern) false).matchesAt pre w post = true ↔
    pre = [] ∧ ∃ f, w = f ++ ['&'] ∧ '&' ∉ f ∧ fieldBy (headName re2 queryPattern) f = true := by
  rw [hgroup.first]
  refine and_congr_right fun _ => ?_
  constructor
  · rintro ⟨n, v, rfl, hv, hamp, hmatch⟩
    have hn := havoiding.of_matchesAt hre (by simp) hmatch
    rw [matchesAt_head_iff hre] at hmatch
    exact ⟨n ++ '=' :: v, by simp, fieldBy_of_name hn hv hamp hmatch⟩
  · rintro ⟨f, rfl, hf, hfield⟩
    obtain ⟨n, v, rfl, -, hv, hname⟩ := fieldBy_iff.mp hfield
    refine ⟨n, v, by simp, hv, fun hamp => hf (by simp [hamp]), ?_⟩
    rwa [matchesAt_head_iff hre]

/-- `&(P)=[^&]+` matches a field and the `&` before it. -/
theorem only_iff : (re2 (onlyPattern queryPattern) false).matchesAt pre w post = true ↔
    ∃ f, w = '&' :: f ∧ '&' ∉ f ∧ fieldBy (innerName re2 queryPattern) f = true := by
  rw [hgroup.only]
  constructor
  · rintro ⟨n, v, rfl, hv, hamp, hmatch⟩
    have hn := havoiding.of_matchesAt hre (by simp) hmatch
    rw [matchesAt_inner_iff hre] at hmatch
    exact ⟨_, rfl, fieldBy_of_name hn hv hamp hmatch⟩
  · rintro ⟨f, rfl, hf, hfield⟩
    obtain ⟨n, v, rfl, -, hv, hname⟩ := fieldBy_iff.mp hfield
    refine ⟨n, v, rfl, hv, fun hamp => hf (by simp [hamp]), ?_⟩
    rwa [matchesAt_inner_iff hre]

end Expressions

/-! ## The three replacements -/

section Passes
variable {re : RE2} {m : List Char → Bool} {f : List Char} (hre : re.Documented)
include hre

theorem preferred_of_pre (hstart : ∀ {pre w post}, re.matchesAt pre w post = true → pre = []) {p t : List Char}
    (hp : p ≠ []) : re.preferred ⟨p, t⟩ = none :=
  hre.preferred_eq_none.mpr fun _ _ _ => Bool.eq_false_iff.mpr fun hmatch => hp (hstart hmatch)

/-- `^(P)=[^&]+$` deletes a matched lone field. -/
theorem globalReplace_appended (hiff : ∀ {pre w post}, re.matchesAt pre w post = true ↔
      pre = [] ∧ post = [] ∧ '&' ∉ w ∧ fieldBy m w = true) (fs : List (List Char)) (hf : '&' ∉ f) :
    re.globalReplace (f ++ tailText fs) [] =
      if fs = [] ∧ fieldBy m f then ([], 1) else (f ++ tailText fs, 0) := by
  have hstart := @replaceAll_of_start re.preferred []
    (fun p t hp => preferred_of_pre hre (fun hmatch => (hiff.mp hmatch).1) hp) (f ++ tailText fs)
  rw [hre.leftmost]
  by_cases hlone : fs = [] ∧ fieldBy m f = true
  · obtain ⟨rfl, hfield⟩ := hlone
    have hmatch : re.matchesAt [] f [] = true := hiff.mpr ⟨rfl, rfl, hf, hfield⟩
    have hpreferred := hre.preferred_eq_some hmatch fun w' s' hws hmatch' _ => by
      obtain ⟨-, rfl, -, -⟩ := hiff.mp hmatch'
      simpa using hws.symm
    have hne : f ≠ [] := by
      rintro rfl
      cases hfield
    rw [if_pos ⟨rfl, hfield⟩, hstart.1 (Cursor.after [] f [])
      (by simpa [tailText, Cursor.start] using hpreferred)
      (by simp [Cursor.after, hne])
        (by simpa [tailText, Cursor.after] using List.length_pos_of_ne_nil hne)]
    rfl
  · rw [if_neg hlone]
    refine hstart.2 (hre.preferred_eq_none.mpr fun w s htext => Bool.eq_false_iff.mpr fun hmatch => hlone ?_)
    obtain ⟨-, rfl, hw, hfield⟩ := hiff.mp hmatch
    rw [List.append_nil] at htext
    rcases fs with _ | ⟨g, fs⟩
    · exact ⟨rfl, by rw [← htext] at hfield; simpa [tailText] using hfield⟩
    · exact absurd (by simp [← htext, tailText]) hw

/-- `^(P)=[^&]+&` deletes a matched first field that is not alone. -/
theorem globalReplace_first (hiff : ∀ {pre w post}, re.matchesAt pre w post = true ↔
      pre = [] ∧ ∃ f, w = f ++ ['&'] ∧ '&' ∉ f ∧ fieldBy m f = true)
        (fs : List (List Char)) (hf : '&' ∉ f) :
    re.globalReplace (f ++ tailText fs) [] =
      match fs with
      | [] => (f, 0)
      | g :: fs => if fieldBy m f then (g ++ tailText fs, 1) else (f ++ tailText (g :: fs), 0) := by
  have hstart := @replaceAll_of_start re.preferred []
    (fun p t hp => preferred_of_pre hre (fun hmatch => (hiff.mp hmatch).1) hp) (f ++ tailText fs)
  rw [hre.leftmost]
  -- a match is the whole first field
  have hfirst : ∀ w s, f ++ tailText fs = w ++ s → re.matchesAt [] w s = true →
      w = f ++ ['&'] ∧ fs ≠ [] ∧ fieldBy m f = true := by
    intro w s htext hmatch
    obtain ⟨-, f', rfl, hf', hfield⟩ := hiff.mp hmatch
    rw [List.append_assoc] at htext
    obtain ⟨v, rfl, hv⟩ := prefix_of_no_separator hf' htext
    have hnil : v = [] := by
      rcases v with _ | ⟨x, v⟩
      · rfl
      · obtain rfl : '&' = x := (List.cons.inj hv).1
        exact absurd (by simp) hf
    subst hnil
    refine ⟨by simp, ?_, by simpa using hfield⟩
    rintro rfl
    simp [tailText] at hv
  rcases fs with _ | ⟨g, fs⟩
  · have hnone := hstart.2 (hre.preferred_eq_none.mpr fun w s htext =>
      Bool.eq_false_iff.mpr fun hmatch =>
      (hfirst w s htext hmatch).2.1 rfl)
    simpa [tailText] using hnone
  · dsimp only
    by_cases hfield : fieldBy m f = true
    · have hmatch : re.matchesAt [] (f ++ ['&']) (g ++ tailText fs) = true :=
        hiff.mpr ⟨rfl, f, rfl, hf, hfield⟩
      have hpreferred := hre.preferred_eq_some hmatch fun w' s' hws hmatch' _ =>
        (hfirst w' s' (by simpa [tailText] using hws) hmatch').1
      rw [if_pos hfield, hstart.1 (Cursor.after [] (f ++ ['&']) (g ++ tailText fs))
        (by simpa [tailText, Cursor.start] using hpreferred) (by simp [Cursor.after])
        (by simp [tailText, Cursor.after]; omega)]
      rfl
    · rw [if_neg hfield]
      exact hstart.2 (hre.preferred_eq_none.mpr fun w s htext => Bool.eq_false_iff.mpr fun hmatch =>
        hfield (hfirst w s htext hmatch).2.2)

section Only
variable (hiff : ∀ {pre w post}, re.matchesAt pre w post = true ↔
    ∃ f, w = '&' :: f ∧ '&' ∉ f ∧ fieldBy m f = true)
  (hgreedy : ∀ c e, re.preferred c = some e → ∀ x ∈ e.post.head?, x = '&')
include hiff

theorem preferred_only_of_ne {p t : List Char} (ht : t.head? ≠ some '&') :
    re.preferred ⟨p, t⟩ = none := by
  refine hre.preferred_eq_none.mpr fun w s htext => Bool.eq_false_iff.mpr fun hmatch => ht ?_
  obtain ⟨f, rfl, -⟩ := hiff.mp hmatch
  rw [htext]
  rfl

include hgreedy

/-- At an `&` the preferred match is the whole field after it. -/
theorem preferred_only (fs : List (List Char)) (hf : '&' ∉ f) (p : List Char) :
    re.preferred ⟨p, '&' :: (f ++ tailText fs)⟩ =
      if fieldBy m f then some (Cursor.after p ('&' :: f) (tailText fs)) else none := by
  -- a preferred match takes the whole field
  have hwhole : ∀ w s, '&' :: (f ++ tailText fs) = w ++ s → re.matchesAt p w s = true →
      (∀ x ∈ s.head?, x = '&') → w = '&' :: f ∧ fieldBy m f = true := by
    intro w s htext hmatch hend
    obtain ⟨f', rfl, hf', hfield⟩ := hiff.mp hmatch
    obtain ⟨v, rfl, rfl⟩ := prefix_of_no_separator hf' (List.cons.inj htext).2
    rcases v with _ | ⟨x, v⟩
    · simpa using hfield
    · obtain rfl : x = '&' := hend x (by simp)
      exact absurd (by simp) hf
  by_cases hfield : fieldBy m f = true
  · have hmatch : re.matchesAt p ('&' :: f) (tailText fs) = true := hiff.mpr ⟨f, rfl, hf, hfield⟩
    rw [if_pos hfield]
    exact hre.preferred_eq_some hmatch fun w' s' hws hmatch' he =>
      (hwhole w' s' hws hmatch' (hgreedy _ _ he)).1
  · rw [if_neg hfield]
    rcases he : re.preferred ⟨p, '&' :: (f ++ tailText fs)⟩ with _ | e
    · rfl
    · obtain ⟨w, s, htext, rfl, hmatch⟩ := hre.sound _ _ e he
      exact absurd (hwhole w s htext hmatch (hgreedy _ _ he)).2 hfield

/-- `&(P)=[^&]+`, from an `&` on, deletes the matched fields. -/
theorem replaceFrom_only : ∀ (fs : List (List Char)) (n : Nat) (moved : Bool) (p : List Char),
    (∀ f ∈ fs, '&' ∉ f) → (tailText fs).length ≤ n →
      replaceFrom re.preferred [] n moved ⟨p, tailText fs⟩ =
        (tailText (fs.filter fun f => !fieldBy m f), fs.countP (fieldBy m))
  | [], n, moved, p, _, _ =>
    replaceFrom_none [] n moved p fun u v huv => preferred_only_of_ne hre hiff (by simp_all)
  | f :: fs, n, moved, p, hfs, hn => by
    have hf : '&' ∉ f := hfs f List.mem_cons_self
    have hlen : ('&' :: f).length + (tailText fs).length ≤ n := by
      simpa [tailText, Nat.add_assoc, Nat.add_comm, Nat.add_left_comm] using hn
    have hrest := fun k moved q (hk : (tailText fs).length ≤ k) =>
      replaceFrom_only fs k moved q (fun g hg => hfs g (List.mem_cons_of_mem _ hg)) hk
    have hpreferred := preferred_only hre hiff hgreedy fs hf p
    rw [show tailText (f :: fs) = ('&' :: f) ++ tailText fs from rfl]
    by_cases hfield : fieldBy m f = true
    · rw [if_pos hfield] at hpreferred
      obtain ⟨k, rfl⟩ : ∃ k, n = k + 1 := ⟨n - 1, by simp at hlen; omega⟩
      rw [List.cons_append, replaceFrom_match hpreferred
        (by simp only [Cursor.after, List.length_cons, List.length_append]; omega), Cursor.after,
        hrest k false _ (by simp at hlen; omega)]
      simp [hfield]
    · rw [if_neg hfield] at hpreferred
      obtain ⟨k, rfl⟩ : ∃ k, n = k + ('&' :: f).length := ⟨n - ('&' :: f).length, by omega⟩
      rw [replaceFrom_append ('&' :: f) k moved p (tailText fs) (by simp),
        hrest k true _ (by omega)]
      · simp [hfield, tailText]
      · intro a b hab hb
        rcases a with _ | ⟨x, a⟩
        · rw [List.nil_append] at hab
          rw [← hab]
          exact hpreferred
        · refine preferred_only_of_ne hre hiff ?_
          obtain ⟨y, b, rfl⟩ := List.exists_cons_of_ne_nil hb
          have hy : y ≠ '&' := by
            rintro rfl
            have := (List.cons.inj hab).2
            exact hf (by simp [this])
          simpa using hy

theorem globalReplace_only (fs : List (List Char)) (hfs : ∀ g ∈ f :: fs, '&' ∉ g) :
    re.globalReplace (f ++ tailText fs) [] =
      (f ++ tailText (fs.filter fun g => !fieldBy m g), fs.countP (fieldBy m)) := by
  have hrest := fun k moved q (hk : (tailText fs).length ≤ k) =>
    replaceFrom_only hre hiff hgreedy fs k moved q (fun g hg => hfs g (List.mem_cons_of_mem _ hg)) hk
  rw [hre.leftmost, replaceAll, Cursor.start]
  by_cases hne : f = []
  · subst hne
    exact hrest _ true [] (by simp; omega)
  · obtain ⟨k, hk⟩ : ∃ k, 2 * (f ++ tailText fs).length + 2 = k + f.length :=
      ⟨f.length + 2 * (tailText fs).length + 2, by simp; omega⟩
    rw [hk, replaceFrom_append f k true [] (tailText fs) hne, hrest k true _ (by simp at hk; omega)]
    intro a b hab hb
    refine preferred_only_of_ne hre hiff ?_
    obtain ⟨y, b, rfl⟩ := List.exists_cons_of_ne_nil hb
    have hy : y ≠ '&' := by
      rintro rfl
      exact hfs f List.mem_cons_self (by simp [hab])
    simpa using hy

end Only

end Passes

/-! ## A whole matcher -/

/-- The fields a matcher leaves, and how many it deletes: a lone first field becomes empty, a first
field that is not alone disappears. -/
def stripFields (head inner : List Char → Bool) : List (List Char) → List (List Char) × Nat
  | [] => ([], 0)
  | [f] => if fieldBy head f then ([[]], 1) else ([f], 0)
  | f :: g :: fs =>
    if fieldBy head f then (g :: fs.filter (!fieldBy inner ·), fs.countP (fieldBy inner) + 1)
    else (f :: (g :: fs).filter (!fieldBy inner ·), (g :: fs).countP (fieldBy inner))

theorem not_mem_of_mem_splitOn (q : List Char) : ∀ f ∈ q.splitOn '&', '&' ∉ f := by
  induction q with
  | nil => simp
  | cons x q ih =>
    rw [List.splitOn_cons_eq_if_modifyHead]
    split
    · simpa using ih
    · next hx =>
      obtain ⟨g, gs, hgs⟩ := List.exists_cons_of_ne_nil (List.splitOn_ne_nil '&' q)
      rw [hgs] at ih ⊢
      simp only [List.modifyHead_cons, List.mem_cons, forall_eq_or_imp, not_or] at ih ⊢
      exact ⟨⟨fun h => hx (by simp [← h]), ih.1⟩, ih.2⟩

/-- The three replacements together. -/
theorem applyQueryMatchers_of_replacements {appended first only : RE2}
    {head inner : List Char → Bool}
    (happended : ∀ f fs, '&' ∉ f → appended.globalReplace (f ++ tailText fs) [] =
      if fs = [] ∧ fieldBy head f then ([], 1) else (f ++ tailText fs, 0))
    (hfirst : ∀ f fs, '&' ∉ f → first.globalReplace (f ++ tailText fs) [] =
      match fs with
      | [] => (f, 0)
      | g :: fs => if fieldBy head f then (g ++ tailText fs, 1) else (f ++ tailText (g :: fs), 0))
    (honly : ∀ f fs, (∀ g ∈ f :: fs, '&' ∉ g) → only.globalReplace (f ++ tailText fs) [] =
      (f ++ tailText (fs.filter fun g => !fieldBy inner g), fs.countP (fieldBy inner)))
    (count : Int) (q : List Char) :
    applyQueryMatchers [appended, first, only] count q =
      (count + (stripFields head inner (q.splitOn '&')).2,
        List.intercalate ['&'] (stripFields head inner (q.splitOn '&')).1) := by
  have hamp := not_mem_of_mem_splitOn q
  have hq : List.intercalate ['&'] (q.splitOn '&') = q := List.intercalate_splitOn '&'
  obtain ⟨f, fs, hfs⟩ := List.exists_cons_of_ne_nil (List.splitOn_ne_nil '&' q)
  rw [hfs, intercalate_cons_eq] at hq
  rw [hfs] at hamp ⊢
  have hf : '&' ∉ f := hamp f List.mem_cons_self
  simp only [applyQueryMatchers_cons, applyQueryMatchers_nil, ← hq, happended f fs hf]
  rcases fs with _ | ⟨g, fs⟩
  · by_cases hfield : fieldBy head f = true
    · have h₂ : first.globalReplace [] [] = ([], 0) := hfirst [] [] (by simp)
      have h₃ : only.globalReplace [] [] = ([], 0) := honly [] [] (by simp)
      simp [stripFields, hfield, h₂, h₃]
    · have h₂ := hfirst f [] hf
      have h₃ := honly f [] (by simpa using hf)
      simp only [tailText, List.flatMap_nil, List.append_nil] at h₂ h₃
      simp [stripFields, hfield, h₂, h₃, tailText]
  · have h₂ := hfirst f (g :: fs) hf
    dsimp only at h₂
    by_cases hfield : fieldBy head f = true
    · have h₃ := honly g fs fun x hx => hamp x (List.mem_cons_of_mem _ hx)
      rw [if_pos hfield] at h₂
      simp only [stripFields, hfield, if_true, reduceCtorEq, false_and, if_false, h₂, h₃,
        intercalate_cons_eq]
      refine congrArg₂ Prod.mk ?_ rfl
      omega
    · have h₃ := honly f (g :: fs) hamp
      rw [if_neg hfield] at h₂
      simp only [stripFields, hfield, reduceCtorEq, false_and, if_false, h₂, h₃,
        intercalate_cons_eq]
      simp

/-- **A matcher deletes fields**: its three replacements act on the fields as `stripFields` does. -/
theorem applyQueryMatchers_eq {re2 : RE2Library} {rule : URLPurifyRule}
    (hdocumented : re2.Documented)
    (hgroup : Grouping re2 (joinString rule.queryPatterns '|'))
    (havoiding : Avoiding re2 (joinString rule.queryPatterns '|')) (count : Int) (q : List Char) :
    let head := headName re2 (joinString rule.queryPatterns '|')
    let inner := innerName re2 (joinString rule.queryPatterns '|')
    applyQueryMatchers (QueryMatcher.ofRule re2 rule).queryMatchers count q =
      (count + (stripFields head inner (q.splitOn '&')).2,
        List.intercalate ['&'] (stripFields head inner (q.splitOn '&')).1) := by
  have hre := hdocumented (joinString rule.queryPatterns '|') false
  refine applyQueryMatchers_of_replacements (fun f fs hf => ?_) (fun f fs hf => ?_)
    (fun f fs hfs => ?_) count q
  · exact globalReplace_appended (hdocumented _ _) (appended_iff hre havoiding hgroup) fs hf
  · exact globalReplace_first (hdocumented _ _) (first_iff hre havoiding hgroup) fs hf
  · exact globalReplace_only (hdocumented _ _) (only_iff hre havoiding hgroup) hgroup.greedy fs hfs

end DumbBrowser
