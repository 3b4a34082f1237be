import DumbBrowser.Lib.Python
import Mathlib.Data.List.Infix

/-!
# Separators

Where a separator can occur in a text that is put together with it, for separators without a border:
no proper start of them is an end of them.

* `split_flatMap` : pieces without the separator are cut as they were put together;
* `not_infix_of_mem_split` : and no other pieces are cut;
* `greedyBefore_twice` : the greedy match in a line that says the same twice.
-/

namespace DumbBrowser.Python

/-! ## Borders -/

section Borders
variable {α : Type} {sep r v y z : List α}

def Borderless (sep : List α) : Prop := ∀ w ∈ sep.inits, w <:+ sep → w = [] ∨ w = sep

instance [DecidableEq α] (sep : List α) : Decidable (Borderless sep) :=
  inferInstanceAs (Decidable (∀ w ∈ sep.inits, w <:+ sep → w = [] ∨ w = sep))

/-- An end of the separator that goes on as the separator does is empty or all of it. -/
theorem Borderless.end_cases {w : List α} (hb : Borderless sep)
    (hsep : sep = v ++ w) (h : w <+: sep) :
    w = [] ∨ v = [] := by
  refine (hb w ((List.mem_inits w sep).2 h) ⟨v, hsep.symm⟩).imp_right fun hw => ?_
  rw [hw] at hsep
  exact List.self_eq_append_left.1 hsep

/-- The separator does not begin in a text and end in the separator after it. -/
theorem Borderless.prefix_of_append (hb : Borderless sep) (hv : v ≠ [])
    (h : sep <+: v ++ (sep ++ z)) :
    sep <+: v := by
  rcases Nat.le_total sep.length v.length with hle | hle
  · exact List.prefix_of_prefix_length_le h (List.prefix_append v _) hle
  · obtain ⟨w, hw⟩ := List.prefix_of_prefix_length_le (List.prefix_append v _) h hle
    have hend : w <+: sep := by
      have hlong : w <+: sep ++ z := by
        rw [← hw] at h
        exact (List.prefix_append_right_inj v).1 (hw ▸ h)
      refine List.prefix_of_prefix_length_le hlong (List.prefix_append sep z) ?_
      rw [← hw, List.length_append]
      exact Nat.le_add_left _ _
    rcases hb.end_cases hw.symm hend with rfl | hnil
    · rw [← hw, List.append_nil]
    · exact absurd hnil hv

/-- A second separator in `sep ++ z` is in `z`. -/
theorem Borderless.infix_of_prefix (hb : Borderless sep) (hr : r ≠ []) (h : r ++ sep <+: sep ++ z) :
    sep <:+: z := by
  rcases Nat.le_total sep.length r.length with hle | hle
  · obtain ⟨u, rfl⟩ := List.prefix_of_prefix_length_le (List.prefix_append sep z)
      ((List.prefix_append r sep).trans h) hle
    rw [List.append_assoc, List.prefix_append_right_inj] at h
    exact (List.suffix_append u sep).isInfix.trans h.isInfix
  · obtain ⟨w, hw⟩ := List.prefix_of_prefix_length_le ((List.prefix_append r sep).trans h)
      (List.prefix_append sep z) hle
    have hrest : sep <+: w ++ z := by
      rw [← List.prefix_append_right_inj r, ← List.append_assoc, hw]
      exact h
    have hend : w <+: sep := by
      refine List.prefix_of_prefix_length_le (List.prefix_append w z) hrest ?_
      rw [← hw, List.length_append]
      exact Nat.le_add_left _ _
    rcases hb.end_cases hw.symm hend with rfl | hnil
    · exact hrest.isInfix
    · exact absurd hnil hr

end Borders

/-! ## Splitting -/

section Split
variable {sep : Bytes}

theorem splitFrom_length (skipped bs : Bytes) : splitFrom sep skipped.length
    (skipped ++ bs) = split bs sep := by
  induction skipped with
  | nil => rfl
  | cons b skipped ih => rw [List.length_cons, List.cons_append, splitFrom, ih]

theorem split_sep_append (hsep : sep ≠ []) (bs : Bytes) :
    split (sep ++ bs) sep = [] :: split bs sep := by
  obtain ⟨b, skipped, rfl⟩ := List.exists_cons_of_ne_nil hsep
  have hstarts : (b :: skipped).isPrefixOf (b :: (skipped ++ bs)) = true :=
    List.isPrefixOf_iff_prefix.2 (List.prefix_append (b :: skipped) bs)
  rw [split, List.cons_append, splitFrom, if_pos hstarts, List.length_cons,
    Nat.add_sub_cancel, splitFrom_length]

/-- A text in which no separator begins stays in one piece. -/
theorem split_append {rest : Bytes} : ∀ {bs : Bytes},
    (∀ v w, v ++ w = bs → w ≠ [] → ¬ sep <+: w ++ rest) →
    split (bs ++ rest) sep = (split rest sep).modifyHead (bs ++ ·) := by
  intro bs
  induction bs with
  | nil =>
    intro _
    exact (congrFun List.modifyHead_id _).symm
  | cons b bs ih =>
    intro h
    have hb : ¬ sep.isPrefixOf (b :: (bs ++ rest)) = true := by
      rw [List.isPrefixOf_iff_prefix]
      exact h [] (b :: bs) rfl (List.cons_ne_nil b bs)
    have hbs := ih fun v w hvw hw => h (b :: v) w (by rw [List.cons_append, hvw]) hw
    rw [split] at hbs
    rw [split, List.cons_append, splitFrom, if_neg hb, hbs, List.modifyHead_modifyHead]
    rfl

/-- **Pieces without the separator are cut as they were put together.** -/
theorem split_flatMap (hb : Borderless sep) (hsep : sep ≠ []) : ∀ {pieces : List Bytes},
    (∀ piece ∈ pieces, ¬ sep <:+: piece) →
    split (pieces.flatMap (sep ++ ·)) sep = [] :: pieces := by
  intro pieces
  induction pieces with
  | nil => exact fun _ => rfl
  | cons piece pieces ih =>
    intro h
    obtain ⟨hpiece, hpieces⟩ := List.forall_mem_cons.1 h
    have hinside : ∀ v w, v ++ w = piece → w ≠ [] → ¬ sep <+: w ++ pieces.flatMap (sep ++ ·) := by
      intro v w hvw hw hstarts
      have hsuffix : w <:+ piece := ⟨v, hvw⟩
      cases pieces with
      | nil =>
        rw [List.flatMap_nil, List.append_nil] at hstarts
        exact hpiece (hstarts.isInfix.trans hsuffix.isInfix)
      | cons next pieces =>
        rw [List.flatMap_cons, List.append_assoc] at hstarts
        exact hpiece ((hb.prefix_of_append hw hstarts).isInfix.trans hsuffix.isInfix)
    rw [List.flatMap_cons, List.append_assoc, split_sep_append hsep,
      split_append hinside, ih hpieces,
      List.modifyHead_cons, List.append_nil]

/-- The first piece is the start of the text. -/
theorem exists_split_eq_cons (sep bs : Bytes) :
    ∃ head tail, split bs sep = head :: tail ∧ head <+: bs := by
  induction bs with
  | nil => exact ⟨[], [], rfl, List.nil_prefix⟩
  | cons b bs ih =>
    obtain ⟨head, tail, hsplit, hhead⟩ := ih
    rw [split] at hsplit
    rw [split, splitFrom]
    split
    · exact ⟨[], _, rfl, List.nil_prefix⟩
    · exact ⟨b :: head, tail, by
        rw [hsplit, List.modifyHead_cons], List.prefix_cons_inj b |>.2 hhead⟩

theorem not_infix_of_mem_splitFrom (hsep : sep ≠ []) {skip : Nat} {bs : Bytes} :
    ∀ piece ∈ splitFrom sep skip bs, ¬ sep <:+: piece := by
  have hnil : ¬ sep <:+: [] := fun h => hsep (List.infix_nil.1 h)
  fun_induction splitFrom sep skip bs with
  | case1 => exact List.forall_mem_singleton.2 hnil
  | case2 skip b bs ih => exact ih
  | case3 b bs hstarts ih => exact List.forall_mem_cons.2 ⟨hnil, ih⟩
  | case4 b bs hstarts ih =>
    obtain ⟨head, tail, hsplit, hhead⟩ := exists_split_eq_cons sep bs
    rw [split] at hsplit
    rw [hsplit] at ih ⊢
    rw [List.modifyHead_cons]
    obtain ⟨hfirst, hrest⟩ := List.forall_mem_cons.1 ih
    refine List.forall_mem_cons.2 ⟨fun hinfix => ?_, hrest⟩
    rcases List.infix_cons_iff.1 hinfix with hstart | hinfix
    · exact hstarts (List.isPrefixOf_iff_prefix.2 (hstart.trans ((List.prefix_cons_inj b).2 hhead)))
    · exact hfirst hinfix

/-- **No piece holds the separator.** -/
theorem not_infix_of_mem_split (hsep : sep ≠ []) {bs piece : Bytes} (h : piece ∈ split bs sep) :
    ¬ sep <:+: piece :=
  not_infix_of_mem_splitFrom hsep piece h

end Split

/-! ## The greedy match -/

section Greedy
variable {after : Bytes}

theorem greedyBefore_sound : ∀ {bs found : Bytes}, greedyBefore after bs = some found →
    found ++ after <+: bs := by
  intro bs
  induction bs with
  | nil =>
    intro found h
    rw [greedyBefore, Option.ite_none_right_eq_some] at h
    rw [← Option.some.inj h.2, h.1]
    exact List.prefix_rfl
  | cons b bs ih =>
    intro found h
    rw [greedyBefore] at h
    split at h
    · next rest hrest =>
      obtain ⟨-, hrest⟩ := Option.ite_none_left_eq_some.1 hrest
      cases h
      exact (List.prefix_cons_inj b).2 (ih hrest)
    · rw [Option.ite_none_right_eq_some] at h
      rw [← Option.some.inj h.2]
      exact List.isPrefixOf_iff_prefix.1 h.1

theorem greedyBefore_longest : ∀ {bs m : Bytes}, 10 ∉ m → m ++ after <+: bs →
    ∃ found, greedyBefore after bs = some found ∧ m.length ≤ found.length := by
  intro bs
  induction bs with
  | nil =>
    intro m _ h
    obtain ⟨rfl, rfl⟩ := List.append_eq_nil_iff.1 (List.prefix_nil.1 h)
    exact ⟨[], rfl, Nat.le_refl _⟩
  | cons b bs ih =>
    intro m hm h
    rw [greedyBefore]
    split
    · next rest hrest =>
      refine ⟨b :: rest, rfl, ?_⟩
      cases m with
      | nil => exact Nat.zero_le _
      | cons c m =>
        rw [List.cons_append, List.cons_prefix_cons] at h
        obtain ⟨rfl, h⟩ := h
        obtain ⟨found, hfound, hlength⟩ := ih (fun h10 => hm (List.mem_cons_of_mem c h10)) h
        obtain ⟨-, hrest⟩ := Option.ite_none_left_eq_some.1 hrest
        rw [hfound] at hrest
        rw [← Option.some.inj hrest]
        exact Nat.succ_le_succ hlength
    · next hnone =>
      cases m with
      | nil => exact ⟨[], if_pos (List.isPrefixOf_iff_prefix.2 h), Nat.le_refl _⟩
      | cons c m =>
        rw [List.cons_append, List.cons_prefix_cons] at h
        obtain ⟨rfl, h⟩ := h
        rw [List.mem_cons, not_or] at hm
        obtain ⟨found, hfound, -⟩ := ih hm.2 h
        rw [if_neg fun h10 => hm.1 h10.symm, hfound] at hnone
        cases hnone

/-- What has no end of a line is in the first line. -/
theorem prefix_line {w line rest : Bytes} (hw : 10 ∉ w) (h : w <+: line ++ 10 :: rest) : w <+: line := by
  rcases Nat.le_total w.length line.length with hle | hle
  · exact List.prefix_of_prefix_length_le h (List.prefix_append line _) hle
  · obtain ⟨v, rfl⟩ := List.prefix_of_prefix_length_le (List.prefix_append line _) h hle
    cases v with
    | nil => rw [List.append_nil]
    | cons b v =>
      rw [List.prefix_append_right_inj, List.cons_prefix_cons] at h
      exact absurd (List.mem_append_right line (h.1 ▸ List.mem_cons_self)) hw

/-- **The greedy match in a line that says the same twice.** -/
theorem greedyBefore_twice (hb : Borderless after) (hafter : after ≠ [])
    (hline : 10 ∉ after) {said : Bytes} (hsaid : 10 ∉ said) (rest : Bytes) :
    greedyBefore after (said ++ (after ++ (said ++ 10 :: rest))) = some said ↔
    ¬ after <:+: said := by
  constructor
  · rintro h ⟨u, v, rfl⟩
    simp only [List.mem_append, not_or] at hsaid
    have hlate : 10 ∉ u ++ after ++ v ++ after ++ u := by simp [hsaid]
    have hagain : u ++ after ++ v ++ after ++ u ++ after <+:
        u ++ after ++ v ++ (after ++ (u ++ after ++ v ++ 10 :: rest)) :=
          ⟨v ++ 10 :: rest, by simp [List.append_assoc]⟩
    obtain ⟨found, hfound, hlength⟩ := greedyBefore_longest hlate hagain
    rw [h] at hfound
    rw [← Option.some.inj hfound] at hlength
    have hpos := List.length_pos_iff.2 hafter
    simp only [List.length_append] at hlength
    omega
  · intro h
    have hfirst : said ++ after <+: said ++ (after ++ (said ++ 10 :: rest)) :=
      ⟨_, List.append_assoc _ _ _⟩
    obtain ⟨found, hfound, hlength⟩ := greedyBefore_longest hsaid hfirst
    have hsound := greedyBefore_sound hfound
    have h10 := newline_not_mem_of_greedyBefore hfound
    obtain ⟨r, rfl⟩ := List.prefix_of_prefix_length_le (List.prefix_append said _)
      ((List.prefix_append found after).trans hsound) hlength
    rw [hfound]
    rw [List.append_assoc, List.prefix_append_right_inj, ← List.append_assoc after] at hsound
    rw [List.mem_append, not_or] at h10
    have hinline := prefix_line (by simp [h10.2, hline]) hsound
    by_cases hr : r = []
    · rw [hr, List.append_nil]
    · exact absurd (hb.infix_of_prefix hr hinline) h

end Greedy

end DumbBrowser.Python
