import DumbBrowser.Lib.RegexSyntax
import Mathlib.Data.List.Forall2

/-!
# The engine as a library

* `Regex.library` : a library with the behaviour that is relied on, for patterns that it can read.
* `documented_object`, `windowed_object`, `alternation_library` : it has this behaviour.
-/

namespace DumbBrowser.Regex

/-- An object whose pattern was rejected matches nothing. -/
def object (prog : Option Regex) : RE2 where
  matchUnanchored text startpos endpos :=
    match prog with
    | none => false
    | some r =>
      if endpos < startpos || text.length < endpos then false
      else searchFrom r (text.take startpos).reverse ((text.take endpos).drop startpos)
  globalReplace text rewrite :=
    replaceAll (fun c => prog.bind fun r => (run r c).head?) rewrite text
  matchesAt p w s := prog.any fun r => decide (MatchesAt r p w s)
  preferred c := prog.bind fun r => (run r c).head?

/-- The engine as a library; it reads a part of the syntax. -/
def library : RE2Library := fun pattern caseSensitive => object (parse (!caseSensitive) pattern)

section Object
variable {prog : Option Regex} {r : Regex} {p w s text : List Char}

theorem matchesAt_object : (object prog).matchesAt p w s = true ↔
    ∃ r ∈ prog, MatchesAt r p w s := by
  cases prog <;> simp [object]

theorem documented_object : (object prog).Documented where
  leftmost _ := rfl
  sound p t e he := by
    obtain ⟨r, hprog, hhead⟩ := Option.bind_eq_some_iff.mp he
    obtain ⟨w, s, rfl, rfl⟩ := eq_after_of_mem_run (List.mem_of_mem_head? hhead)
    exact ⟨w, s, rfl, rfl, matchesAt_object.mpr ⟨r, hprog, List.mem_of_mem_head? hhead⟩⟩
  complete p w s hmatch := by
    obtain ⟨r, rfl, hr⟩ := matchesAt_object.mp hmatch
    have hmem : Cursor.after p w s ∈ run r ⟨p, w ++ s⟩ := hr
    exact List.isSome_head?.mpr (List.ne_nil_of_mem hmem)
  near p p' w s s' hp hs := by
    rw [Bool.eq_iff_iff, matchesAt_object, matchesAt_object]
    have hpre : p = [] ↔ p' = [] := by rw [← List.head?_eq_none_iff, hp, List.head?_eq_none_iff]
    have hpost : s = [] ↔ s' = [] := by rw [← List.head?_eq_none_iff, hs, List.head?_eq_none_iff]
    constructor
    · rintro ⟨r, hr, hmatch⟩
      exact ⟨r, hr, hmatch.context (fun _ => hpre.mp) (fun _ => hpost.mp)⟩
    · rintro ⟨r, hr, hmatch⟩
      exact ⟨r, hr, hmatch.context (fun _ => hpre.mpr) (fun _ => hpost.mpr)⟩
  alone p w s _ _ hmatch := by
    obtain ⟨r, hr, hmatch⟩ := matchesAt_object.mp hmatch
    exact matchesAt_object.mpr ⟨r, hr, hmatch.context (fun _ _ => rfl) (fun _ _ => rfl)⟩

/-- A search in a window finds a match that lies in it. -/
theorem matchUnanchored_object {endpos : Nat} : (object prog).matchUnanchored text 0 endpos = true ↔
    endpos ≤ text.length ∧ (object prog).OccursIn (text.take endpos) := by
  rcases prog with _ | r
  · simp [object, RE2.OccursIn]
  · have hmatches : ∀ p w s, (object (some r)).matchesAt p w s = true ↔ MatchesAt r p w s := by
      simp [matchesAt_object]
    simp only [RE2.OccursIn, hmatches]
    simp only [object, Nat.not_lt_zero, decide_false, Bool.false_or, decide_eq_true_eq,
      List.take_zero, List.reverse_nil, List.drop_zero]
    split
    · next hlt => exact ⟨nofun, fun h => absurd h.1 (Nat.not_le.mpr hlt)⟩
    · next hle => rw [searchFrom_iff]; simp [Nat.not_lt.mp hle]

theorem search_object : (object prog).search text = true ↔ (object prog).OccursIn text := by
  rw [RE2.search, matchUnanchored_object, List.take_length]
  simp

theorem windowed_object : (object prog).Windowed := by
  intro text endpos
  rw [matchUnanchored_object, search_object]

end Object

/-! ## Joined patterns -/

/-- The engine can read the pattern. -/
def Reads (pattern : String) : Prop := (parse true pattern.toList).isSome = true

instance (pattern : String) : Decidable (Reads pattern) := inferInstanceAs (Decidable (_ = _))

theorem Reads.exists_parseAlts {p : String} (h : Reads p) :
    ∃ rs, parseAlts true p.toList = some rs ∧ parse true p.toList = some (alts rs) := by
  simp only [Reads, parse, Option.isSome_map, Option.isSome_iff_exists] at h
  obtain ⟨rs, hrs⟩ := h
  exact ⟨rs, hrs, by simp [parse, hrs]⟩

theorem exists_left_of_forall₂ {α β : Type} {R : α → β → Prop} {as : List α} {bs : List β}
    (h : List.Forall₂ R as bs) {b : β} (hb : b ∈ bs) : ∃ a ∈ as, R a b := by
  induction h with
  | nil => cases hb
  | cons hab _ ih =>
    rcases List.mem_cons.mp hb with rfl | hb
    · exact ⟨_, List.mem_cons_self, hab⟩
    · obtain ⟨a, ha, hR⟩ := ih hb
      exact ⟨a, List.mem_cons_of_mem _ ha, hR⟩

theorem exists_right_of_forall₂ {α β : Type} {R : α → β → Prop} {as : List α} {bs : List β}
    (h : List.Forall₂ R as bs) {a : α} (ha : a ∈ as) : ∃ b ∈ bs, R a b :=
  exists_left_of_forall₂ (R := flip R) h.flip ha

theorem exists_parseAlts_all : ∀ {patterns : List String}, (∀ p ∈ patterns, Reads p) →
    ∃ rss, (patterns.map String.toList).mapM (parseAlts true) = some rss ∧
      List.Forall₂ (fun p rs => parse true p.toList = some (alts rs)) patterns rss
  | [], _ => ⟨[], rfl, List.Forall₂.nil⟩
  | p :: ps, h => by
    obtain ⟨rs, hrs, hp⟩ := (h p List.mem_cons_self).exists_parseAlts
    obtain ⟨rss, hrss, hall⟩ := exists_parseAlts_all fun q hq => h q (List.mem_cons_of_mem _ hq)
    exact ⟨rs :: rss, by simp [hrs, hrss], List.Forall₂.cons hp hall⟩

/-- The alternatives of the joined expression are those of the patterns. -/
theorem exists_joined {patterns : List String} (h : ∀ p ∈ patterns, Reads p) :
    ∃ rs, parseAlts true (joinString patterns '|') = some rs ∧
      ∀ pre n post, MatchesAt (alts rs) pre n post ↔
        (patterns = [] ∧ n = []) ∨ ∃ p ∈ patterns, ∃ r ∈ parse true p.toList,
          MatchesAt r pre n post := by
  rcases patterns with _ | ⟨p, ps⟩
  · refine ⟨[empty], rfl, fun pre n post => ?_⟩
    rw [matchesAt_alts]
    simp [MatchesAt, Cursor.after, run]
  · obtain ⟨rs, hrs, hp⟩ := (h p List.mem_cons_self).exists_parseAlts
    obtain ⟨rss, hrss, hall⟩ := exists_parseAlts_all fun q hq => h q (List.mem_cons_of_mem _ hq)
    refine ⟨rs ++ rss.flatten, parseAlts_join hrs hrss, fun pre n post => ?_⟩
    simp only [reduceCtorEq, false_and, false_or, matchesAt_alts, List.mem_append, List.mem_flatten]
    constructor
    · rintro ⟨r, hr | ⟨qs, hqs, hr⟩, hm⟩
      · exact ⟨p, List.mem_cons_self, _, hp, matchesAt_alts.mpr ⟨r, hr, hm⟩⟩
      · obtain ⟨q, hq, hparse⟩ := exists_left_of_forall₂ hall hqs
        exact ⟨q, List.mem_cons_of_mem _ hq, _, hparse, matchesAt_alts.mpr ⟨r, hr, hm⟩⟩
    · rintro ⟨q, hq, r, hr, hm⟩
      rcases List.mem_cons.mp hq with rfl | hq
      · obtain rfl := Option.some.inj (hp.symm.trans hr)
        obtain ⟨r, hr, hm⟩ := matchesAt_alts.mp hm
        exact ⟨r, Or.inl hr, hm⟩
      · obtain ⟨qs, hqs, hparse⟩ := exists_right_of_forall₂ hall hq
        obtain rfl := Option.some.inj (hparse.symm.trans hr)
        obtain ⟨r, hr, hm⟩ := matchesAt_alts.mp hm
        exact ⟨r, Or.inr ⟨qs, hqs, hr⟩, hm⟩

theorem alternation_library {patterns : List String} (h : ∀ p ∈ patterns, Reads p) :
    library.Alternation patterns := by
  obtain ⟨rs, hrs, hmatch⟩ := exists_joined h
  have hjoined : library (joinString patterns '|') false = object (some (alts rs)) := by
    simp [library, parse, hrs]
  intro p w s
  rw [hjoined, matchesAt_object]
  simpa [library, matchesAt_object] using hmatch p w s

theorem search_library {pattern text : List Char} {caseSensitive : Bool} :
    (library pattern caseSensitive).search text = true ↔
    (library pattern caseSensitive).OccursIn text := search_object

theorem searchesEach_library {patterns : List String} (hne : patterns ≠ [])
    (h : ∀ p ∈ patterns, Reads p) :
    library.SearchesEach patterns := by
  intro text
  simp only [search_library]
  exact (alternation_library h).occursIn hne

end DumbBrowser.Regex
