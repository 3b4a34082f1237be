import DumbBrowser.Lib.RegexLibrary
import DumbBrowser.PrivacyGuard.Tracking

/-!
# Rules that the engine reads

* `grouping_library` : the engine reads a pattern in the expressions of a matcher as it does alone;
* `globalStage_untracked_iff` : when the global stage of the default rules leaves no tracked
  parameter.
-/

namespace DumbBrowser

open Regex

/-! ## Matches of `name=value` -/

/-- `[^&]`. -/
def notAmp : CharSet := ⟨true, true, [('&', '&')]⟩

theorem notAmp_mem {x : Char} : notAmp.mem x = true ↔ x ≠ '&' := by
  rw [notAmp, mem_single (by decide)]
  simp

/-- `=[^&]+`, and what follows in the expression. -/
def valuePart (k : List Regex) : List Regex := lit true '=' :: plus true (set notAmp) :: k

section Parts
variable {p w s v : List Char} {r : Regex} {rs k : List Regex} {x : Char}

theorem matchesAt_lit (hx : x.toNat < 65) : MatchesAt (lit true x) p w s ↔ w = [x] := by
  rw [MatchesAt, lit, mem_run_set]
  constructor
  · rintro ⟨y, hy, hpost, -⟩
    obtain rfl : y = x := by simpa [mem_single hx] using hy
    exact List.append_cancel_right hpost
  · rintro rfl
    exact ⟨x, by simp [mem_single hx], rfl, rfl⟩

theorem matchesAt_plus_notAmp : MatchesAt (plus true (set notAmp)) p w s ↔ w ≠ [] ∧ '&' ∉ w := by
  rw [MatchesAt, mem_run_plus_set]
  constructor
  · rintro ⟨v, hv, hset, hpost, -⟩
    obtain rfl : w = v := List.append_cancel_right hpost
    exact ⟨hv, fun hmem => notAmp_mem.mp (hset _ hmem) rfl⟩
  · rintro ⟨hw, hamp⟩
    refine ⟨w, hw, fun x hx => ?_, rfl, rfl⟩
    exact notAmp_mem.mpr fun h => hamp (h ▸ hx)

theorem matchesAt_seqs_cons : MatchesAt (seqs (r :: rs)) p w s ↔
    ∃ u v, w = u ++ v ∧ MatchesAt r p u (v ++ s) ∧ MatchesAt (seqs rs) (u.reverse ++ p) v s := matchesAt_seq

theorem matchesAt_empty : MatchesAt empty p w s ↔ w = [] := by
  rw [MatchesAt, mem_run_empty]
  simp [Cursor.after]

theorem matchesAt_singleton : MatchesAt (seqs [r]) p w s ↔ MatchesAt r p w s := by
  rw [matchesAt_seqs_cons, show seqs [] = empty from rfl]
  simp only [matchesAt_empty]
  constructor
  · rintro ⟨u, _, rfl, hmatch, rfl⟩
    simpa using hmatch
  · exact fun hmatch => ⟨w, [], by simp, hmatch, rfl⟩

theorem matchesAt_bot : MatchesAt bot p w s ↔ p = [] ∧ w = [] := by
  rw [MatchesAt, mem_run_bot]
  refine and_congr_right fun hp => ?_
  simp [Cursor.after]

theorem matchesAt_eot : MatchesAt eot p w s ↔ w = [] ∧ s = [] := by
  rw [MatchesAt, mem_run_eot]
  constructor
  · rintro ⟨hnil, -⟩
    exact List.append_eq_nil_iff.mp hnil
  · rintro ⟨rfl, rfl⟩
    exact ⟨rfl, rfl⟩

/-- A name, a value and what follows. -/
theorem matchesAt_field : MatchesAt (seqs (r :: valuePart k)) p w s ↔
    ∃ n v u, w = n ++ '=' :: (v ++ u) ∧ v ≠ [] ∧ '&' ∉ v ∧ MatchesAt r p n ('=' :: (v ++ u ++ s)) ∧
      MatchesAt (seqs k) (v.reverse ++ '=' :: (n.reverse ++ p)) u s := by
  simp only [valuePart, matchesAt_seqs_cons, matchesAt_lit (show '='.toNat < 65 by decide),
    matchesAt_plus_notAmp]
  constructor
  · rintro ⟨n, t, rfl, hname, _, t', rfl, rfl, v, u, rfl, ⟨hv, hamp⟩, hrest⟩
    exact ⟨n, v, u, rfl, hv, hamp, by simpa using hname, by simpa using hrest⟩
  · rintro ⟨n, v, u, rfl, hv, hamp, hname, hrest⟩
    exact ⟨n, _, rfl, by simpa using hname, ['='], v ++ u, rfl, rfl, v, u, rfl, ⟨hv, hamp⟩, by simpa using hrest⟩

end Parts

/-! ## The three expressions of a matcher -/

def appendedRegex (P : Regex) : Regex := alts [seqs (bot :: P :: valuePart [eot])]

def firstRegex (P : Regex) : Regex := alts [seqs (bot :: P :: valuePart [lit true '&'])]

def onlyRegex (P : Regex) : Regex := alts [seqs (lit true '&' :: P :: valuePart [])]

section Expressions
variable {P : Regex} {pre w post : List Char}

theorem matchesAt_appended : MatchesAt (appendedRegex P) pre w post ↔
    pre = [] ∧ post = [] ∧ ∃ n v, w = n ++ '=' :: v ∧ v ≠ [] ∧ '&' ∉ v ∧ MatchesAt P
    [] n ('=' :: v) := by
  rw [appendedRegex, matchesAt_alts]
  simp only [List.mem_singleton, exists_eq_left]
  rw [matchesAt_seqs_cons]
  simp only [matchesAt_bot, matchesAt_field, matchesAt_singleton, matchesAt_eot]
  constructor
  · rintro ⟨_, _, rfl, ⟨rfl, rfl⟩, n, v, _, rfl, hv, hamp, hname, rfl, rfl⟩
    exact ⟨rfl, rfl, n, v, by simp, hv, hamp, by simpa using hname⟩
  · rintro ⟨rfl, rfl, n, v, rfl, hv, hamp, hname⟩
    exact ⟨[], _, rfl, ⟨rfl, rfl⟩, n, v, [], by simp, hv, hamp, by simpa using hname, rfl, rfl⟩

theorem matchesAt_first : MatchesAt (firstRegex P) pre w post ↔
    pre = [] ∧ ∃ n v, w = n ++ '=' :: (v ++ ['&']) ∧ v ≠ [] ∧ '&' ∉ v ∧
      MatchesAt P [] n ('=' :: (v ++ '&' :: post)) := by
  rw [firstRegex, matchesAt_alts]
  simp only [List.mem_singleton, exists_eq_left]
  rw [matchesAt_seqs_cons]
  simp only [matchesAt_bot, matchesAt_field, matchesAt_singleton,
    matchesAt_lit (show '&'.toNat < 65 by decide)]
  constructor
  · rintro ⟨_, _, rfl, ⟨rfl, rfl⟩, n, v, _, rfl, hv, hamp, hname, rfl⟩
    exact ⟨rfl, n, v, by simp, hv, hamp, by simpa using hname⟩
  · rintro ⟨rfl, n, v, rfl, hv, hamp, hname⟩
    exact ⟨[], _, rfl, ⟨rfl, rfl⟩, n, v, ['&'], rfl, hv, hamp, by simpa using hname, rfl⟩

theorem matchesAt_only : MatchesAt (onlyRegex P) pre w post ↔
    ∃ n v, w = '&' :: (n ++ '=' :: v) ∧ v ≠ [] ∧ '&' ∉ v ∧ MatchesAt P ('&' :: pre) n
    ('=' :: (v ++ post)) := by
  rw [onlyRegex, matchesAt_alts]
  simp only [List.mem_singleton, exists_eq_left]
  rw [matchesAt_seqs_cons]
  simp only [matchesAt_field, matchesAt_lit (show '&'.toNat < 65 by decide),
    show seqs [] = empty from rfl,
    matchesAt_empty]
  constructor
  · rintro ⟨_, _, rfl, rfl, n, v, _, rfl, hv, hamp, hname, rfl⟩
    exact ⟨n, v, by simp, hv, hamp, by simpa using hname⟩
  · rintro ⟨n, v, rfl, hv, hamp, hname⟩
    exact ⟨['&'], _, rfl, rfl, n, v, [], by simp, hv, hamp, by simpa using hname, rfl⟩

end Expressions

/-- `(pattern)` and then the text `t`, read after the item `x`. -/
theorem parse_of_group {s t : List Char} {rs k : List Regex} {x : Regex}
    (hs : parseAlts true s = some rs)
    (hk : ∀ y, (t.foldlM (step true) ⟨.normal, [⟨[], [y, x]⟩]⟩).bind
      State.finish = some [seqs (x :: y :: k)])
    {c : Char} (hc : step true State.init c = some ⟨.normal, [⟨[], [x]⟩]⟩) :
    parse true (c :: '(' :: s ++ ')' :: t) = some (alts [seqs (x :: alts rs :: k)]) := by
  have hgroup := foldlM_group hs (F := [⟨[], [x]⟩]) (by simp)
  rw [parse, parseAlts, show c :: '(' :: s ++ ')' :: t = c :: (('(' :: s ++ [')']) ++ t) by simp,
    List.foldlM_cons, hc]
  rw [Option.bind_eq_bind, Option.bind_some, List.foldlM_append, hgroup]
  simp [push, hk]

section Parse
variable {s : List Char} {rs : List Regex} (hs : parseAlts true s = some rs)
include hs

theorem parse_appended : parse true (appendedPattern s) = some (appendedRegex (alts rs)) :=
  parse_of_group hs (t := "=[^&]+$".toList) (fun _ => rfl) rfl

theorem parse_first : parse true (firstPattern s) = some (firstRegex (alts rs)) :=
  parse_of_group hs (t := "=[^&]+&".toList) (fun _ => rfl) rfl

theorem parse_only : parse true (onlyPattern s) = some (onlyRegex (alts rs)) :=
  parse_of_group hs (t := "=[^&]+".toList) (fun _ => rfl) rfl

end Parse

/-! ## Preferred matches -/

theorem run_valuePart (k : List Regex) (p t : List Char) :
    run (seqs (valuePart k)) ⟨p, t⟩ =
      if t.head? = some '=' then (run (plus true (set notAmp)) ⟨'=' :: p, t.tail⟩).flatMap
        (run (seqs k)) else [] := by
  rw [show seqs (valuePart k) = seq (lit true '=') (seq (plus true (set notAmp)) (seqs k)) from rfl, run,
    run_lit (by decide)]
  split <;> simp [run]

theorem exists_of_head?_flatMap {α β : Type} {g : α → List β} {e : β} : ∀ {l : List α},
    (l.flatMap g).head? = some e → ∃ a ∈ l, (g a).head? = some e
  | [], h => by simp at h
  | a :: l, h => by
    rw [List.flatMap_cons, List.head?_append, Option.or_eq_some_iff] at h
    rcases h with ha | ⟨-, hl⟩
    · exact ⟨a, List.mem_cons_self, ha⟩
    · obtain ⟨b, hb, he⟩ := exists_of_head?_flatMap hl
      exact ⟨b, List.mem_cons_of_mem _ hb, he⟩

/-- The value takes all it can. -/
theorem head?_run_value {c e : Cursor} (h : (run (seqs (valuePart [])) c).head? = some e) :
    ∀ x ∈ e.post.head?, x = '&' := by
  obtain ⟨p, t⟩ := c
  rw [run_valuePart] at h
  split at h
  · have hsplit := List.takeWhile_append_dropWhile (p := notAmp.mem) (l := t.tail)
    have hend : ∀ x ∈ (t.tail.dropWhile notAmp.mem).head?, notAmp.mem x = false := by
      intro x hx
      have := List.head?_dropWhile_not notAmp.mem t.tail
      rw [Option.mem_def] at hx
      simpa [hx] using this
    have hplus := head?_run_plus_set (q := '=' :: p) (v := t.tail.takeWhile notAmp.mem)
      (fun x hx => List.mem_takeWhile_imp hx) hend
    rw [show seqs [] = empty from rfl, show run empty = fun c => [c] from rfl,
      List.flatMap_singleton', ← hsplit,
      hplus] at h
    split at h
    · cases h
    · obtain rfl := Option.some.inj h
      intro x hx
      have hx' := hend x hx
      by_contra hne
      rw [notAmp_mem.mpr hne] at hx'
      cases hx'
  · cases h

theorem run_alts_singleton (r : Regex) (c : Cursor) : run (alts [r]) c = run r c := by
  rw [show alts [r] = alt r fail from rfl, run, run_fail, List.append_nil]

/-! ## The engine on rules -/

section Library
variable {patterns : List String}

theorem library_eq {pattern : List Char} {r : Regex} (h : parse true pattern = some r) :
    library pattern false = object (some r) := by
  simp [library, h]

/-- A pattern that the engine reads is one item of each expression. -/
theorem grouping_library {s : List Char} {rs : List Regex} (hs : parseAlts true s = some rs) :
    Grouping library s := by
  have hobject {r : Regex} {p w t : List Char} : (object (some r)).matchesAt p w t = true ↔
      MatchesAt r p w t := by
    simp [matchesAt_object]
  have hname : library s false = object (some (alts rs)) := library_eq (by simp [parse, hs])
  refine ⟨fun pre w post => ?_, fun pre w post => ?_, fun pre w post => ?_, fun c e he => ?_⟩
  · simp only [library_eq (parse_appended hs), hname, hobject]
    exact matchesAt_appended
  · simp only [library_eq (parse_first hs), hname, hobject]
    exact matchesAt_first
  · simp only [library_eq (parse_only hs), hname, hobject]
    exact matchesAt_only
  · rw [library_eq (parse_only hs)] at he
    have hhead : (run (onlyRegex (alts rs)) c).head? = some e := he
    rw [onlyRegex, run_alts_singleton, show seqs (lit true '&' :: alts rs :: valuePart []) =
      seq (lit true '&') (seq (alts rs) (seqs (valuePart []))) from rfl, run_seq] at hhead
    obtain ⟨d, -, hhead⟩ := exists_of_head?_flatMap hhead
    rw [run_seq] at hhead
    obtain ⟨d', -, hhead⟩ := exists_of_head?_flatMap hhead
    exact head?_run_value hhead

/-- The engine reads the pattern, as one of names. -/
def NamePattern (pattern : String) : Prop :=
  (parse true pattern.toList).any (fun r => r.avoids '&' && r.avoids '=') = true

instance (pattern : String) : Decidable (NamePattern pattern) := inferInstanceAs (Decidable (_ = _))

theorem NamePattern.reads {p : String} (h : NamePattern p) : Reads p := by
  obtain ⟨r, hr, -⟩ := Option.any_eq_true _ _ |>.mp h
  rw [Reads, hr]
  rfl

theorem namePatterns_library (h : ∀ p ∈ patterns, NamePattern p) :
    NamePatterns library patterns := by
  have hreads : ∀ p ∈ patterns, Reads p := fun p hp => (h p hp).reads
  obtain ⟨rs, hrs, -⟩ := exists_joined hreads
  refine ⟨alternation_library hreads, grouping_library hrs, fun name hname => ?_⟩
  obtain ⟨p, hp, hmatch⟩ := matchesName_iff.mp hname
  obtain ⟨r, hr, havoids⟩ := (Option.any_eq_true _ _).mp (h p hp)
  rw [Bool.and_eq_true] at havoids
  obtain ⟨r', hr', hmatch⟩ := matchesAt_object.mp hmatch
  obtain rfl := Option.some.inj (hr.symm.trans hr')
  exact ⟨hmatch.not_mem_of_avoids havoids.1, hmatch.not_mem_of_avoids havoids.2⟩

theorem anchorFree_library (h : ∀ p ∈ patterns, (parse true p.toList).all Regex.anchorFree = true) :
    AnchorFree library patterns := by
  intro p hp name hname
  obtain ⟨r, hr, hmatch⟩ := matchesAt_object.mp hname
  have hfree : r.anchorFree = true := by
    have hall := h p hp
    rw [show parse true p.toList = some r from hr] at hall
    exact hall
  exact ⟨matchesAt_object.mpr ⟨r, hr, hmatch.anywhere hfree⟩,
    matchesAt_object.mpr ⟨r, hr, hmatch.anywhere hfree⟩⟩

theorem documented_library : library.Documented := fun _ _ => documented_object

end Library

/-! ## The default rules -/

theorem namePatterns_getDefaultGlobalRules :
    NamePatterns library getDefaultGlobalRules.queryPatterns :=
  namePatterns_library (by decide +kernel)

theorem anchorFree_getDefaultGlobalRules : AnchorFree library getDefaultGlobalRules.queryPatterns :=
  anchorFree_library (by decide +kernel)

/-- **When the global stage is complete**: no tracked parameter is left exactly when the first two
parameters of the query were not both tracked. -/
theorem globalStage_untracked_iff (url : GURL) :
    (∀ param ∈ fields ((URLPurifyDelegate.default library).applyGlobalRules url).newQuery,
        ¬ Tracked library getDefaultGlobalRules.queryPatterns param) ↔
      ¬ ∃ param₁ param₂ rest, fields (url.query.getD "").toList = param₁ :: param₂ :: rest ∧
        Tracked library getDefaultGlobalRules.queryPatterns param₁ ∧
        Tracked library getDefaultGlobalRules.queryPatterns param₂ :=
  globalStage_untracked documented_library namePatterns_getDefaultGlobalRules
    anchorFree_getDefaultGlobalRules url

/-- Two tracked parameters at the start: the second one stays. -/
theorem globalStage_keeps_second :
    ∃ param ∈ fields ((URLPurifyDelegate.default library).applyGlobalRules
        { scheme := "https", host := "example.com", path := "/"
          query := some "utm_source=a&utm_medium=b" }).newQuery,
      Tracked library getDefaultGlobalRules.queryPatterns param := by
  refine ⟨"utm_medium=b".toList,
    by decide +kernel, "utm_medium".toList, "b".toList, by decide, by decide, ?_⟩
  decide +kernel

end DumbBrowser
