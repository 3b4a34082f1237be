import DumbBrowser.Lib.Re2
import Mathlib.Logic.Relation
import Mathlib.Order.Basic

/-!
# Regular expressions with leftmost-first matching

An engine for a part of the syntax.

* `Regex.run` : the ends of the matches of an expression from a cursor, most preferred first;
* `mem_run_*` : the matches by the shape of the expression; `mem_run_star` : a star is a chain of
  steps that each consume something;
* `MatchesAt.context` : a match depends on its surroundings only through the two text ends, and not
  at all when the expression has no anchor;
* `searchFrom` : unanchored search.
-/

namespace DumbBrowser

/-- Characters by ranges, matched up to case when `foldCase` is set. -/
structure CharSet where
  negated : Bool
  foldCase : Bool
  ranges : List (Char × Char)
deriving DecidableEq, Repr

/-- The representative of the simple case folding of `c`. Outside ASCII only the two characters that
fold onto ASCII letters, the Kelvin sign and the long s, are folded. -/
def foldChar (c : Char) : Char :=
  if c = '\u212a' then 'k' else if c = '\u017f' then 's' else c.toLower

/-- The characters that fold like `c`. -/
def foldOrbit (c : Char) : List Char :=
  foldChar c :: (foldChar c).toUpper ::
    (if foldChar c = 'k' then ['\u212a'] else if foldChar c = 's' then ['\u017f'] else [])

def CharSet.inRanges (s : CharSet) (c : Char) : Bool :=
  s.ranges.any fun r => r.1 ≤ c && c ≤ r.2

def CharSet.mem (s : CharSet) (c : Char) : Bool :=
  s.negated != (s.inRanges c || (s.foldCase && (foldOrbit c).any s.inRanges))

inductive Regex where
  | empty
  | set (s : CharSet)
  | seq (r s : Regex)
  | alt (r s : Regex)
  | star (greedy : Bool) (r : Regex)
  | bot
  | eot
deriving DecidableEq, Repr

namespace Regex

/-! ## Matching -/

/-- At most `n` rounds of `step`, each of which has to consume something. -/
def iterate (step : Cursor → List Cursor) (greedy : Bool) : Nat → Cursor → List Cursor
  | 0, c => [c]
  | n + 1, c =>
    let more := ((step c).filter fun d => d.post.length < c.post.length).flatMap
      (iterate step greedy n)
    if greedy then more ++ [c] else c :: more

/-- The ends of the matches that start at a cursor, most preferred first. -/
def run : Regex → Cursor → List Cursor
  | empty, c => [c]
  | set s, c =>
    match c.post with
    | [] => []
    | x :: xs => if s.mem x then [⟨x :: c.pre, xs⟩] else []
  | seq r s, c => (run r c).flatMap (run s)
  | alt r s, c => run r c ++ run s c
  | star greedy r, c => iterate (run r) greedy c.post.length c
  | bot, c => if c.pre = [] then [c] else []
  | eot, c => if c.post = [] then [c] else []

def lit (foldCase : Bool) (x : Char) : Regex := set ⟨false, foldCase, [(x, x)]⟩

/-- The empty set of characters: no match. -/
def fail : Regex := set ⟨false, false, []⟩

def seqs (rs : List Regex) : Regex := rs.foldr seq empty

def alts (rs : List Regex) : Regex := rs.foldr alt fail

def opt (greedy : Bool) (r : Regex) : Regex := if greedy then alt r empty else alt empty r

def plus (greedy : Bool) (r : Regex) : Regex := seq r (star greedy r)

/-- `n` matches of `r`, then any number, or up to `m - n`, more. -/
def count (greedy : Bool) (r : Regex) (n : Nat) (m : Option Nat) : Regex :=
  seqs (List.replicate n r ++
    match m with
    | none => [star greedy r]
    | some m => [(List.range (m - n)).foldl (fun t _ => opt greedy (seq r t)) empty])

/-- The expression mentions neither end of the text. -/
def anchorFree : Regex → Bool
  | empty | set _ => true
  | seq r s | alt r s => anchorFree r && anchorFree s
  | star _ r => anchorFree r
  | bot | eot => false

/-- It does not mention the start. -/
def startFree : Regex → Bool
  | empty | set _ | eot => true
  | seq r s | alt r s => startFree r && startFree s
  | star _ r => startFree r
  | bot => false

/-- It does not mention the end. -/
def endFree : Regex → Bool
  | empty | set _ | bot => true
  | seq r s | alt r s => endFree r && endFree s
  | star _ r => endFree r
  | eot => false

/-- The expression never reads `x`. -/
def avoids (x : Char) : Regex → Bool
  | empty | bot | eot => true
  | set s => !s.mem x
  | seq r s | alt r s => avoids x r && avoids x s
  | star _ r => avoids x r

def searchFrom (r : Regex) (pre : List Char) : List Char → Bool
  | [] => !(run r ⟨pre, []⟩).isEmpty
  | x :: xs => !(run r ⟨pre, x :: xs⟩).isEmpty || searchFrom r (x :: pre) xs

/-! ## Matches by the shape of the expression -/

theorem iterate_zero (step : Cursor → List Cursor) (greedy : Bool) (c : Cursor) :
    iterate step greedy 0 c = [c] := rfl

theorem iterate_succ (step : Cursor → List Cursor) (greedy : Bool) (n : Nat) (c : Cursor) :
    iterate step greedy (n + 1) c =
      let more := ((step c).filter fun d => d.post.length < c.post.length).flatMap
        (iterate step greedy n)
      if greedy then more ++ [c] else c :: more := rfl

theorem run_empty (c : Cursor) : run empty c = [c] := rfl

theorem run_set_nil (s : CharSet) (p : List Char) : run (set s) ⟨p, []⟩ = [] := rfl

theorem run_set_cons (s : CharSet) (p : List Char) (x : Char) (xs : List Char) :
    run (set s) ⟨p, x :: xs⟩ = if s.mem x then [⟨x :: p, xs⟩] else [] := rfl

theorem run_seq (r s : Regex) (c : Cursor) : run (seq r s) c = (run r c).flatMap (run s) := rfl

theorem run_alt (r s : Regex) (c : Cursor) : run (alt r s) c = run r c ++ run s c := rfl

theorem run_star (greedy : Bool) (r : Regex) (c : Cursor) :
    run (star greedy r) c = iterate (run r) greedy c.post.length c := rfl

theorem run_bot (c : Cursor) : run bot c = if c.pre = [] then [c] else [] := rfl

theorem run_eot (c : Cursor) : run eot c = if c.post = [] then [c] else [] := rfl

/-- One round of a star. -/
def Progress (r : Regex) (c d : Cursor) : Prop := d ∈ run r c ∧ d.post.length < c.post.length

theorem mem_iterate (r : Regex) (greedy : Bool) :
    ∀ (n : Nat) (c : Cursor), c.post.length ≤ n →
      ∀ e, e ∈ iterate (run r) greedy n c ↔ Relation.ReflTransGen (Progress r) c e := by
  intro n
  induction n with
  | zero =>
    intro c hc e
    constructor
    · intro h
      rw [iterate_zero, List.mem_singleton] at h
      rw [h]
    · intro h
      rcases Relation.ReflTransGen.cases_head h with rfl | ⟨d, hd, -⟩
      · simp [iterate_zero]
      · have := hd.2
        omega
  | succ n ih =>
    intro c hc e
    have key : (∃ d, Progress r c d ∧ e ∈ iterate (run r) greedy n d) ↔
        ∃ d, Progress r c d ∧ Relation.ReflTransGen (Progress r) d e := by
      refine exists_congr fun d => and_congr_right fun hd => ih d ?_ e
      have := hd.2
      omega
    have hsplit : e ∈ iterate (run r) greedy (n + 1) c ↔
        e = c ∨ ∃ d, Progress r c d ∧ e ∈ iterate (run r) greedy n d := by
      cases greedy <;> simp [iterate_succ, Progress, and_assoc, or_comm]
    rw [hsplit, key, Relation.ReflTransGen.cases_head_iff]
    exact or_congr_left eq_comm

@[simp] theorem mem_run_empty {c e : Cursor} : e ∈ run empty c ↔ e = c := by simp [run_empty]

theorem mem_run_set {s : CharSet} {c e : Cursor} :
    e ∈ run (set s) c ↔ ∃ x, s.mem x = true ∧ c.post = x :: e.post ∧ e.pre = x :: c.pre := by
  rcases c with ⟨p, _ | ⟨x, xs⟩⟩ <;> rcases e with ⟨q, t⟩
  · simp [run_set_nil]
  · by_cases hx : s.mem x
    · simp only [run_set_cons, hx, if_true, List.mem_singleton, Cursor.mk.injEq, List.cons.injEq]
      constructor
      · rintro ⟨rfl, rfl⟩
        exact ⟨x, hx, ⟨rfl, rfl⟩, rfl⟩
      · rintro ⟨y, -, ⟨rfl, rfl⟩, rfl⟩
        exact ⟨rfl, rfl⟩
    · simp only [run_set_cons, hx]
      grind

@[simp] theorem mem_run_seq {r s : Regex} {c e : Cursor} :
    e ∈ run (seq r s) c ↔ ∃ d ∈ run r c, e ∈ run s d := by simp [run_seq]

@[simp] theorem mem_run_alt {r s : Regex} {c e : Cursor} :
    e ∈ run (alt r s) c ↔ e ∈ run r c ∨ e ∈ run s c := by simp [run_alt]

theorem mem_run_star {greedy : Bool} {r : Regex} {c e : Cursor} :
    e ∈ run (star greedy r) c ↔ Relation.ReflTransGen (Progress r) c e :=
  mem_iterate r greedy _ c (Nat.le_refl _) e

@[simp] theorem mem_run_bot {c e : Cursor} : e ∈ run bot c ↔ c.pre = [] ∧ e = c := by
  by_cases h : c.pre = [] <;> simp [run_bot, h]

@[simp] theorem mem_run_eot {c e : Cursor} : e ∈ run eot c ↔ c.post = [] ∧ e = c := by
  by_cases h : c.post = [] <;> simp [run_eot, h]

@[simp] theorem run_fail (c : Cursor) : run fail c = [] := by
  rcases c with ⟨p, _ | ⟨x, xs⟩⟩ <;> simp [fail, run_set_nil, run_set_cons,
    CharSet.mem, CharSet.inRanges]

@[simp] theorem mem_run_alts {rs : List Regex} {c e : Cursor} :
    e ∈ run (alts rs) c ↔ ∃ r ∈ rs, e ∈ run r c := by
  induction rs with
  | nil => simp [alts]
  | cons r rs ih =>
    rw [show alts (r :: rs) = alt r (alts rs) from rfl, mem_run_alt, ih]
    simp

/-- A match consumes what stands between its two ends. -/
theorem run_consumes {r : Regex} : ∀ {c e : Cursor}, e ∈ run r c →
    ∃ w, c.post = w ++ e.post ∧ e.pre = w.reverse ++ c.pre := by
  induction r with
  | empty =>
    intro c e h
    rw [mem_run_empty.mp h]
    exact ⟨[], rfl, rfl⟩
  | set s =>
    intro c e h
    obtain ⟨x, -, hpost, hpre⟩ := mem_run_set.mp h
    exact ⟨[x], by simpa using hpost, by simpa using hpre⟩
  | seq r s ihr ihs =>
    intro c e h
    obtain ⟨d, hd, he⟩ := mem_run_seq.mp h
    obtain ⟨w₁, h₁, g₁⟩ := ihr hd
    obtain ⟨w₂, h₂, g₂⟩ := ihs he
    exact ⟨w₁ ++ w₂, by rw [h₁, h₂, List.append_assoc], by rw [g₂, g₁]; simp⟩
  | alt r s ihr ihs =>
    intro c e h
    exact (mem_run_alt.mp h).elim ihr ihs
  | star g r ih =>
    intro c e h
    rw [mem_run_star] at h
    induction h with
    | refl => exact ⟨[], rfl, rfl⟩
    | tail _ hstep ihc =>
      obtain ⟨w₁, h₁, g₁⟩ := ihc
      obtain ⟨w₂, h₂, g₂⟩ := ih hstep.1
      exact ⟨w₁ ++ w₂, by rw [h₁, h₂, List.append_assoc], by rw [g₂, g₁]; simp⟩
  | bot =>
    intro c e h
    rw [(mem_run_bot.mp h).2]
    exact ⟨[], rfl, rfl⟩
  | eot =>
    intro c e h
    rw [(mem_run_eot.mp h).2]
    exact ⟨[], rfl, rfl⟩

/-- A match of `w` where `s` follows, as an equation of cursors. -/
theorem eq_after_of_mem_run {r : Regex} {p t : List Char} {e : Cursor} (h : e ∈ run r ⟨p, t⟩) :
    ∃ w s, t = w ++ s ∧ e = Cursor.after p w s := by
  obtain ⟨w, hpost, hpre⟩ := run_consumes h
  exact ⟨w, e.post, hpost, by cases e; simp_all [Cursor.after]⟩

/-! ## Matches and their surroundings -/

/-- `r` matches `w` between `p` and `s`. -/
def MatchesAt (r : Regex) (p w s : List Char) : Prop := Cursor.after p w s ∈ run r ⟨p, w ++ s⟩

instance (r : Regex) (p w s : List Char) : Decidable (MatchesAt r p w s) :=
  inferInstanceAs (Decidable (_ ∈ _))

theorem matchesAt_seq {r s : Regex} {p w t : List Char} :
    MatchesAt (seq r s) p w t ↔
      ∃ u v, w = u ++ v ∧ MatchesAt r p u (v ++ t) ∧ MatchesAt s (u.reverse ++ p) v t := by
  simp only [MatchesAt, mem_run_seq]
  constructor
  · rintro ⟨d, hd, he⟩
    obtain ⟨u, v', hu, rfl⟩ := eq_after_of_mem_run hd
    obtain ⟨v, hv, -⟩ := run_consumes he
    simp only [Cursor.after] at hv he hd
    subst hv
    rw [← List.append_assoc] at hu
    obtain rfl := List.append_cancel_right hu
    exact ⟨u, v, rfl, by simpa [Cursor.after] using hd, by simpa [Cursor.after] using he⟩
  · rintro ⟨u, v, rfl, hu, hv⟩
    refine ⟨_, by rwa [List.append_assoc], ?_⟩
    simpa [Cursor.after] using hv

/-- A chain of star rounds reads its word round by round. -/
theorem matchesAt_star {g : Bool} {r : Regex} {p w s : List Char} :
    MatchesAt (star g r) p w s ↔
      w = [] ∨ ∃ u v, w = u ++ v ∧ u ≠ [] ∧ MatchesAt r p u (v ++ s) ∧
        MatchesAt (star g r) (u.reverse ++ p) v s := by
  simp only [MatchesAt, mem_run_star]
  constructor
  · intro h
    rcases Relation.ReflTransGen.cases_head h with heq | ⟨d, hd, hrest⟩
    · left
      simpa [Cursor.after] using congrArg Cursor.post heq
    · right
      obtain ⟨u, v', hu, rfl⟩ := eq_after_of_mem_run hd.1
      obtain ⟨v, hv, -⟩ := run_consumes ((@mem_run_star g r _ _).mpr hrest)
      obtain ⟨hd, hlt⟩ := hd
      simp only [Cursor.after] at hv hd hrest hlt
      subst hv
      rw [← List.append_assoc] at hu
      obtain rfl := List.append_cancel_right hu
      refine ⟨u, v, rfl, ?_, by simpa [Cursor.after] using hd, by simpa [Cursor.after] using hrest⟩
      rintro rfl
      simp at hlt
  · rintro (rfl | ⟨u, v, rfl, hu, hr, hrest⟩)
    · exact Relation.ReflTransGen.refl
    · refine Relation.ReflTransGen.head ⟨by rwa [List.append_assoc], ?_⟩ ?_
      · simp only [Cursor.after, List.length_append]
        have := List.length_pos_of_ne_nil hu
        omega
      · simpa [Cursor.after] using hrest

/-- Moving a match to other surroundings: what is an end of the text has to stay one, unless the
expression does not mention that end. -/
theorem MatchesAt.context {r : Regex} : ∀ {p₁ p₂ w s₁ s₂ : List Char},
    (r.startFree = false → p₁ = [] → p₂ = []) → (r.endFree = false → s₁ = [] → s₂ = []) →
    MatchesAt r p₁ w s₁ → MatchesAt r p₂ w s₂ := by
  induction r with
  | empty =>
    intro p₁ p₂ w s₁ s₂ _ _ h
    have hw : w = [] := by simpa [MatchesAt, Cursor.after] using congrArg Cursor.post (mem_run_empty.mp h)
    simp [hw, MatchesAt, Cursor.after]
  | set c =>
    intro p₁ p₂ w s₁ s₂ _ _ h
    obtain ⟨x, hx, hpost, hpre⟩ := mem_run_set.mp h
    have hw : w = [x] := by
      simp only [Cursor.after] at hpost
      exact List.append_cancel_right (by simpa using hpost)
    exact mem_run_set.mpr ⟨x, hx, by simp [hw, Cursor.after], by simp [hw, Cursor.after]⟩
  | seq r s ihr ihs =>
    intro p₁ p₂ w s₁ s₂ hp hs h
    obtain ⟨u, v, rfl, hu, hv⟩ := matchesAt_seq.mp h
    have hstart : (seq r s).startFree = (r.startFree && s.startFree) := rfl
    have hend : (seq r s).endFree = (r.endFree && s.endFree) := rfl
    refine matchesAt_seq.mpr ⟨u, v, rfl,
      ihr (fun ha => hp (by simp [hstart, ha])) (fun ha => ?_) hu,
      ihs (fun ha => ?_) (fun ha => hs (by simp [hend, ha])) hv⟩
    · simpa using fun hv' hs₁ => ⟨hv', hs (by simp [hend, ha]) hs₁⟩
    · simpa using fun hu' hp₁ => ⟨hu', hp (by simp [hstart, ha]) hp₁⟩
  | alt r s ihr ihs =>
    intro p₁ p₂ w s₁ s₂ hp hs h
    have hstart : (alt r s).startFree = (r.startFree && s.startFree) := rfl
    have hend : (alt r s).endFree = (r.endFree && s.endFree) := rfl
    rcases mem_run_alt.mp h with h | h
    · exact mem_run_alt.mpr (Or.inl (ihr (by grind) (by grind) h))
    · exact mem_run_alt.mpr (Or.inr (ihs (by grind) (by grind) h))
  | star g r ih =>
    intro p₁ p₂ w
    -- one round is shorter than the whole word, so the rounds are taken by its length
    induction hn : w.length using Nat.strongRecOn generalizing p₁ p₂ w with
    | ind n ihn =>
      intro s₁ s₂ hp hs h
      rcases matchesAt_star.mp h with rfl | ⟨u, v, rfl, hu, hr, hrest⟩
      · exact matchesAt_star.mpr (Or.inl rfl)
      · have hpos := List.length_pos_of_ne_nil hu
        have hlen : v.length < n := by
          rw [← hn, List.length_append]
          omega
        refine matchesAt_star.mpr (Or.inr ⟨u, v, rfl, hu, ih ?_ ?_ hr, ihn _ hlen rfl ?_ hs hrest⟩)
        · exact hp
        · intro ha
          simpa using fun hv hs₁ => ⟨hv, hs ha hs₁⟩
        · intro ha
          simpa using fun hu' => absurd hu' hu
  | bot =>
    intro p₁ p₂ w s₁ s₂ hp _ h
    obtain ⟨hpre, heq⟩ := mem_run_bot.mp h
    have hw : w = [] := by simpa [Cursor.after] using congrArg Cursor.post heq
    have hp₂ : p₂ = [] := hp rfl hpre
    simp [hw, hp₂, MatchesAt, Cursor.after]
  | eot =>
    intro p₁ p₂ w s₁ s₂ _ hs h
    obtain ⟨hpost, heq⟩ := mem_run_eot.mp h
    obtain ⟨hw, hs₁⟩ := List.append_eq_nil_iff.mp hpost
    have hs₂ : s₂ = [] := hs rfl hs₁
    simp [hw, hs₂, MatchesAt, Cursor.after]

theorem anchorFree_eq : ∀ r : Regex, r.anchorFree = (r.startFree && r.endFree)
  | empty | set _ | bot | eot => rfl
  | seq r s | alt r s => by
    rw [anchorFree, startFree, endFree, anchorFree_eq r, anchorFree_eq s]
    cases r.startFree <;> cases s.startFree <;> cases r.endFree <;> cases s.endFree <;> rfl
  | star _ r => anchorFree_eq r

theorem MatchesAt.anywhere {r : Regex} {p₁ p₂ w s₁ s₂ : List Char} (hr : r.anchorFree = true)
    (h : MatchesAt r p₁ w s₁) : MatchesAt r p₂ w s₂ := by
  rw [anchorFree_eq, Bool.and_eq_true] at hr
  exact h.context (by simp [hr.1]) (by simp [hr.2])

/-- A search succeeds if some part of the text is a match. -/
theorem searchFrom_iff {r : Regex} : ∀ {p t : List Char}, searchFrom r p t = true ↔
    ∃ u w s, t = u ++ (w ++ s) ∧ MatchesAt r (u.reverse ++ p) w s := by
  have hhere : ∀ {p t : List Char}, (!(run r ⟨p, t⟩).isEmpty) = true ↔ ∃ w s, t = w ++ s ∧
      MatchesAt r p w s := by
    intro p t
    rw [Bool.not_eq_true', List.isEmpty_eq_false_iff_exists_mem]
    constructor
    · rintro ⟨e, he⟩
      obtain ⟨w, s, rfl, rfl⟩ := eq_after_of_mem_run he
      exact ⟨w, s, rfl, he⟩
    · rintro ⟨w, s, rfl, h⟩
      exact ⟨_, h⟩
  intro p t
  induction t generalizing p with
  | nil =>
    rw [searchFrom, hhere]
    constructor
    · rintro ⟨w, s, ht, h⟩
      exact ⟨[], w, s, ht, h⟩
    · rintro ⟨u, w, s, ht, h⟩
      obtain ⟨rfl, hws⟩ := List.append_eq_nil_iff.mp ht.symm
      exact ⟨w, s, hws.symm, h⟩
  | cons x xs ih =>
    rw [searchFrom, Bool.or_eq_true, hhere, ih]
    constructor
    · rintro (⟨w, s, ht, h⟩ | ⟨u, w, s, rfl, h⟩)
      · exact ⟨[], w, s, ht, h⟩
      · exact ⟨x :: u, w, s, rfl, by simpa using h⟩
    · rintro ⟨u, w, s, ht, h⟩
      cases u with
      | nil => exact Or.inl ⟨w, s, ht, h⟩
      | cons y u =>
        rw [List.cons_append, List.cons.injEq] at ht
        obtain ⟨rfl, rfl⟩ := ht
        exact Or.inr ⟨u, w, s, rfl, by simpa using h⟩

theorem MatchesAt.not_mem_of_avoids {x : Char} {r : Regex} : ∀ {p w s : List Char},
    r.avoids x = true → MatchesAt r p w s → x ∉ w := by
  induction r with
  | empty =>
    intro p w s _ h
    have hw : w = [] := by simpa [Cursor.after] using congrArg Cursor.post (mem_run_empty.mp h)
    simp [hw]
  | set c =>
    intro p w s hx h
    obtain ⟨y, hy, hpost, -⟩ := mem_run_set.mp h
    have hw : w = [y] := by
      simp only [Cursor.after] at hpost
      exact List.append_cancel_right (by simpa using hpost)
    rw [hw, List.mem_singleton]
    rintro rfl
    simp [avoids, hy] at hx
  | seq r t ihr iht =>
    intro p w s hx h
    rw [avoids, Bool.and_eq_true] at hx
    obtain ⟨u, v, rfl, hu, hv⟩ := matchesAt_seq.mp h
    rw [List.mem_append, not_or]
    exact ⟨ihr hx.1 hu, iht hx.2 hv⟩
  | alt r t ihr iht =>
    intro p w s hx h
    rw [avoids, Bool.and_eq_true] at hx
    exact (mem_run_alt.mp h).elim (ihr hx.1) (iht hx.2)
  | star g r ih =>
    intro p w
    induction hn : w.length using Nat.strongRecOn generalizing p w with
    | ind n ihn =>
      intro s hx h
      rcases matchesAt_star.mp h with rfl | ⟨u, v, rfl, hu, hr, hrest⟩
      · simp
      · have hpos := List.length_pos_of_ne_nil hu
        have hlen : v.length < n := by
          rw [← hn, List.length_append]
          omega
        rw [List.mem_append, not_or]
        exact ⟨ih hx hr, ihn _ hlen rfl hx hrest⟩
  | bot =>
    intro p w s _ h
    have hw : w = [] := by simpa [Cursor.after] using congrArg Cursor.post (mem_run_bot.mp h).2
    simp [hw]
  | eot =>
    intro p w s _ h
    have hw : w = [] := by simpa [Cursor.after] using congrArg Cursor.post (mem_run_eot.mp h).2
    simp [hw]

theorem matchesAt_alts {rs : List Regex} {p w s : List Char} :
    MatchesAt (alts rs) p w s ↔ ∃ r ∈ rs, MatchesAt r p w s := mem_run_alts

/-! ## Characters without case -/

theorem toLower_cases (c : Char) : c.toLower = c ∨ 97 ≤ c.toLower.toNat := by
  unfold Char.toLower
  split
  · rename_i h
    have hlo : 65 ≤ c.val.toNat := h.1
    have hhi : c.val.toNat ≤ 90 := h.2
    have hadd : (c.val + ('a'.val - 'A'.val)).toNat = c.val.toNat + 32 := by
      rw [UInt32.toNat_add, show ('a'.val - 'A'.val).toNat = 32 from rfl]
      omega
    simp only [Char.toNat, hadd]
    omega
  · exact Or.inl rfl

theorem toUpper_cases (c : Char) : c.toUpper = c ∨ 65 ≤ c.toUpper.toNat := by
  unfold Char.toUpper
  split
  · rename_i h
    have hlo : 97 ≤ c.val.toNat := h.1
    have hhi : c.val.toNat ≤ 122 := h.2
    have hadd : (c.val + ('A'.val - 'a'.val)).toNat = c.val.toNat - 32 := by
      rw [UInt32.toNat_add, show ('A'.val - 'a'.val).toNat = 2 ^ 32 - 32 from rfl]
      omega
    simp only [Char.toNat, hadd]
    omega
  · exact Or.inl rfl

/-- A character below the letters folds like no other character. -/
theorem eq_of_mem_foldOrbit {x y : Char} (hx : x.toNat < 65) (h : x ∈ foldOrbit y) : y = x := by
  have hfold : foldChar y = x → y = x := by
    intro hxy
    unfold foldChar at hxy
    split_ifs at hxy
    · rw [← hxy] at hx
      exact absurd hx (by decide)
    · rw [← hxy] at hx
      exact absurd hx (by decide)
    · rcases toLower_cases y with hy | hy
      · rw [← hxy, hy]
      · rw [hxy] at hy
        omega
  rw [foldOrbit, List.mem_cons, List.mem_cons] at h
  rcases h with h | h | h
  · exact hfold h.symm
  · rcases toUpper_cases (foldChar y) with hu | hu
    · exact hfold (by rw [h, hu])
    · rw [← h] at hu
      omega
  · split_ifs at h
    · rw [List.mem_singleton.mp h] at hx
      exact absurd hx (by decide)
    · rw [List.mem_singleton.mp h] at hx
      exact absurd hx (by decide)
    · cases h

theorem inRanges_single {n f : Bool} {x y : Char} :
    (⟨n, f, [(x, x)]⟩ : CharSet).inRanges y = true ↔ y = x := by
  simp only [CharSet.inRanges, List.any_cons, List.any_nil, Bool.or_false,
    Bool.and_eq_true, decide_eq_true_eq]
  exact ⟨fun h => Char.le_antisymm h.2 h.1, fun h => by simp [h]⟩

theorem mem_single {n f : Bool} {x y : Char} (hx : x.toNat < 65) :
    (⟨n, f, [(x, x)]⟩ : CharSet).mem y = (n != decide (y = x)) := by
  have hany : (foldOrbit y).any (⟨n, f, [(x, x)]⟩ : CharSet).inRanges = true → y = x := by
    intro h
    obtain ⟨z, hz, hzx⟩ := List.any_eq_true.mp h
    exact eq_of_mem_foldOrbit hx (inRanges_single.mp hzx ▸ hz)
  have hr := inRanges_single (n := n) (f := f) (x := x) (y := y)
  unfold CharSet.mem
  congr 1
  by_cases hy : y = x
  · rw [hr.mpr hy, Bool.true_or]
    simp [hy]
  · rw [Bool.eq_false_iff.mpr (mt hr.mp hy), Bool.eq_false_iff.mpr (mt hany hy)]
    simp [hy]

theorem run_lit {f : Bool} {x : Char} (hx : x.toNat < 65) (p t : List Char) :
    run (lit f x) ⟨p, t⟩ = if t.head? = some x then [⟨x :: p, t.tail⟩] else [] := by
  rcases t with _ | ⟨y, t⟩
  · simp [lit, run_set_nil]
  · by_cases hy : y = x <;> simp [lit, run_set_cons, mem_single hx, hy]

/-! ## Preferred matches -/

/-- A greedy star over a set of characters takes all it can. -/
theorem head?_iterate_set {s : CharSet} {t : List Char} (ht : ∀ x ∈ t.head?, s.mem x = false) :
    ∀ (v : List Char) (n : Nat) (q : List Char), (∀ x ∈ v, s.mem x = true) → v.length ≤ n →
      (iterate (run (set s)) true n ⟨q, v ++ t⟩).head? = some (Cursor.after q v t)
  | [], 0, q, _, _ => by simp [iterate_zero, Cursor.after]
  | [], n + 1, q, _, _ => by
    have hrun : run (set s) ⟨q, t⟩ = [] := by
      rcases t with _ | ⟨x, t⟩
      · rfl
      · simp [run_set_cons, ht x rfl]
    simp [iterate_succ, hrun, Cursor.after]
  | x :: v, 0, q, _, hn => by simp at hn
  | x :: v, n + 1, q, hv, hn => by
    have hx : s.mem x = true := hv x List.mem_cons_self
    have hrun : run (set s) ⟨q, x :: (v ++ t)⟩ = [⟨x :: q, v ++ t⟩] := by simp [run_set_cons, hx]
    have ih := head?_iterate_set ht v n (x :: q) (fun y hy => hv y (List.mem_cons_of_mem _ hy))
      (by simpa using hn)
    have hafter : Cursor.after (x :: q) v t = Cursor.after q (x :: v) t := by simp [Cursor.after]
    rw [List.cons_append, iterate_succ, hrun]
    simp [ih, hafter]

theorem head?_run_plus_set {s : CharSet} {v t q : List Char} (hv : ∀ x ∈ v, s.mem x = true)
    (ht : ∀ x ∈ t.head?, s.mem x = false) :
    (run (plus true (set s)) ⟨q, v ++ t⟩).head? = if v = [] then none
    else some (Cursor.after q v t) := by
  rcases v with _ | ⟨x, v⟩
  · rcases t with _ | ⟨x, t⟩
    · simp [plus, run_seq, run_set_nil]
    · simp [plus, run_seq, run_set_cons, ht x rfl]
  · have hx : s.mem x = true := hv x List.mem_cons_self
    have hrun : run (set s) ⟨q, x :: (v ++ t)⟩ = [⟨x :: q, v ++ t⟩] := by simp [run_set_cons, hx]
    have hstar := head?_iterate_set ht v (v ++ t).length (x :: q)
      (fun y hy => hv y (List.mem_cons_of_mem _ hy)) (by simp)
    have hafter : Cursor.after (x :: q) v t = Cursor.after q (x :: v) t := by simp [Cursor.after]
    rw [List.cons_append, plus, run_seq, hrun, List.flatMap_singleton, run_star, hstar, hafter]
    simp

theorem mem_run_plus_set {s : CharSet} {c e : Cursor} :
    e ∈ run (plus true (set s)) c ↔ ∃ v, v ≠ [] ∧ (∀ x ∈ v, s.mem x = true) ∧ c.post = v ++ e.post ∧
      e.pre = v.reverse ++ c.pre := by
  have hstar : ∀ {c e : Cursor}, e ∈ run (star true (set s)) c ↔
      ∃ v, (∀ x ∈ v, s.mem x = true) ∧ c.post = v ++ e.post ∧ e.pre = v.reverse ++ c.pre := by
    intro c e
    rw [mem_run_star]
    constructor
    · intro h
      induction h with
      | refl => exact ⟨[], by simp⟩
      | tail _ hstep ih =>
        obtain ⟨v, hv, hpost, hpre⟩ := ih
        obtain ⟨x, hx, hpost', hpre'⟩ := mem_run_set.mp hstep.1
        refine ⟨v ++ [x], ?_, by simp [hpost, hpost'], by simp [hpre', hpre]⟩
        intro y hy
        rcases List.mem_append.mp hy with hy | hy
        · exact hv y hy
        · rwa [List.mem_singleton.mp hy]
    · rintro ⟨v, hv, hpost, hpre⟩
      induction v generalizing c with
      | nil =>
        obtain ⟨p, t⟩ := c
        obtain ⟨q, u⟩ := e
        simp only [List.nil_append, List.reverse_nil] at hpost hpre
        rw [hpost, hpre]
      | cons x v ih =>
        refine Relation.ReflTransGen.head (b := ⟨x :: c.pre, v ++ e.post⟩) ⟨?_, ?_⟩ ?_
        · exact mem_run_set.mpr ⟨x, hv x List.mem_cons_self, by simpa using hpost, rfl⟩
        · simp [hpost]
        · exact ih (fun y hy => hv y (List.mem_cons_of_mem _ hy)) rfl (by simpa using hpre)
  rw [plus, mem_run_seq]
  constructor
  · rintro ⟨d, hd, he⟩
    obtain ⟨x, hx, hpost, hpre⟩ := mem_run_set.mp hd
    obtain ⟨v, hv, hpost', hpre'⟩ := hstar.mp he
    refine ⟨x :: v, by simp, ?_, by simp [hpost, hpost'], by simp [hpre', hpre]⟩
    intro y hy
    rcases List.mem_cons.mp hy with rfl | hy
    · exact hx
    · exact hv y hy
  · rintro ⟨v, hne, hv, hpost, hpre⟩
    obtain ⟨x, v, rfl⟩ := List.exists_cons_of_ne_nil hne
    refine ⟨⟨x :: c.pre, v ++ e.post⟩,
      mem_run_set.mpr ⟨x, hv x List.mem_cons_self, by simpa using hpost, rfl⟩,
      hstar.mpr ⟨v, fun y hy => hv y (List.mem_cons_of_mem _ hy), rfl, by simpa using hpre⟩⟩

end Regex

end DumbBrowser
