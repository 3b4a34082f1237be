import DumbBrowser.Canvas.Components
import Mathlib.Algebra.Ring.Parity
import Mathlib.Data.List.Induction

/-!
# The components of a BGRA pixel

What a visit makes of red, green and blue, and from which stored component it takes each.

* `levelsOf_shuffleBgra` : a visit, component by component;
* `separated_iff` : the visits that keep the components apart;
* `forall_even_visits_iff` : the calls that exchange each pixel back;
* `bgra_separates_iff` : the calls that keep them apart.
-/

namespace DumbBrowser.Canvas

open Machine

/-! ## Components -/

inductive Component where
  | red | green | blue
deriving DecidableEq, Repr

namespace Component

/-- Where the component is in a stored pixel. -/
def shift : Component → Nat
  | red => 16
  | green => 8
  | blue => 0

/-- The stored component that its value is taken from. -/
def source (r32Shift : Nat) : Component → Component
  | red => if r32Shift = 0 then red else blue
  | green => green
  | blue => if r32Shift = 0 then blue else red

def amount (δ : Deltas) : Component → Nat
  | red => δ.shuffleR
  | green => δ.shuffleG
  | blue => δ.shuffleB

/-- The one stored above it. -/
inductive Above : Component → Component → Prop
  | green : Above red green
  | blue : Above green blue

theorem forall_iff {p : Component → Prop} : (∀ ch, p ch) ↔ p red ∧ p green ∧ p blue := by
  constructor
  · intro h
    exact ⟨h red, h green, h blue⟩
  · intro h ch
    obtain ⟨hred, hgreen, hblue⟩ := h
    cases ch <;> assumption

theorem source_involutive (r32Shift : Nat) : Function.Involutive (source r32Shift) := by
  intro ch
  cases ch with
  | green => rfl
  | red => by_cases h : r32Shift = 0 <;> simp [source, h]
  | blue => by_cases h : r32Shift = 0 <;> simp [source, h]

end Component

abbrev Levels := Component → Nat

def levelsOf (pixel : Nat) : Levels := fun ch => field ch.shift 8 pixel

/-- What the macro makes of each component. -/
def shuffledLevels (r32Shift : Nat) (δ : Deltas) (levels : Levels) : Levels := fun ch =>
  shuffleComponent (levels (ch.source r32Shift)) (uint8Max - 1) (ch.amount δ)

/-- What spills into a component from the one below it. -/
def spilled (levels : Levels) : Levels
  | .red => levels .green / 256
  | .green => levels .blue / 256
  | .blue => 0

/-- A visit, component by component. -/
def visit (r32Shift : Nat) (levels : Levels) (δ : Deltas) : Levels := fun ch =>
  shuffledLevels r32Shift δ levels ch % 256 ||| spilled (shuffledLevels r32Shift δ levels) ch

/-! ## The visit of a pixel -/

theorem levelsOf_lt (pixel : Nat) (ch : Component) : levelsOf pixel ch < 256 := field_lt _ _ _

theorem Deltas.Bounded.amount_le {δ : Deltas} (hδ : δ.Bounded) (ch : Component) :
    ch.amount δ ≤ 4 := by
  have hR := hδ.shuffleR
  have hG := hδ.shuffleG
  have hB := hδ.shuffleB
  cases ch <;> simp only [Component.amount] <;> omega

theorem shuffledLevels_lt (r32Shift : Nat) {δ : Deltas} (hδ : ∀ ch : Component, ch.amount δ ≤ 4)
    (levels : Levels) (ch : Component) : shuffledLevels r32Shift δ levels ch < 512 := by
  have hamount := hδ ch
  unfold shuffledLevels
  rcases shuffleComponent_eq (levels (ch.source r32Shift)) (uint8Max - 1)
    (ch.amount δ) with ⟨-, heq⟩ | ⟨hmax, heq⟩
  · rw [heq]
    unfold uint8Max
    omega
  · rw [heq]
    unfold uint8Max at hmax
    omega

theorem shuffleBgra_eq {sk : Skia} (hsk : sk.Documented) (δ : Deltas) (pixel : Nat) :
    shuffleBgra sk δ pixel = (field 24 8 pixel <<< 24) |||
      (shuffledLevels sk.r32Shift δ (levelsOf pixel) .red <<< 16) |||
      (shuffledLevels sk.r32Shift δ (levelsOf pixel) .green <<< 8) |||
      (shuffledLevels sk.r32Shift δ (levelsOf pixel) .blue <<< 0) := by
  obtain ⟨hA, hR, hG, hB⟩ := hsk.shiftsBgra
  simp only [shuffleBgra, hsk.getPackedA32, hsk.getPackedR32, hsk.getPackedG32,
    hsk.getPackedB32, hA, hR, hG, hB]
  rcases hsk.native with ⟨hr, hb⟩ | ⟨hr, hb⟩ <;> rw [hr, hb] <;> rfl

theorem field_kept (place n : Nat) : field place 8 (n <<< place) = n % 256 :=
  field_shiftLeft_self place 8 n

/-- What a value leaves in the component above its own. -/
theorem field_spilled (place : Nat) {n : Nat} (hn : n < 512) :
    field (place + 8) 8 (n <<< place) = n / 256 := by
  rw [field_shiftLeft_next, Nat.shiftRight_eq_div_pow]
  omega

/-- A visit, component by component. -/
theorem levelsOf_shuffleBgra {sk : Skia} (hsk : sk.Documented) {δ : Deltas}
    (hδ : ∀ ch : Component, ch.amount δ ≤ 4) (pixel : Nat) :
    levelsOf (shuffleBgra sk δ pixel % 256 ^ 4) = visit sk.r32Shift (levelsOf pixel) δ := by
  have hword : (256 : Nat) ^ 4 = 2 ^ 32 := by norm_num
  have hlt := shuffledLevels_lt sk.r32Shift hδ (levelsOf pixel)
  have hsmall : ∀ ch, shuffledLevels sk.r32Shift δ (levelsOf pixel) ch < 2 ^ 16 := fun ch =>
    (hlt ch).trans (by norm_num)
  funext ch
  rw [levelsOf, hword, field_mod (by cases ch <;> decide), shuffleBgra_eq hsk, field_or,
    field_or, field_or, visit]
  cases ch with
  | red =>
    have hgreen : field 16 8 (shuffledLevels sk.r32Shift δ (levelsOf pixel) .green <<< 8) = _ :=
      field_spilled 8 (hlt .green)
    simp only [Component.shift, spilled]
    rw [field_shiftLeft_above (by norm_num), field_kept, hgreen,
      field_shiftLeft_below (hsmall .blue),
      Nat.zero_or, Nat.or_zero]
  | green =>
    have hblue : field 8 8 (shuffledLevels sk.r32Shift δ (levelsOf pixel) .blue <<< 0) = _ :=
      field_spilled 0 (hlt .blue)
    simp only [Component.shift, spilled]
    rw [field_shiftLeft_above (by norm_num), field_shiftLeft_above (by norm_num), field_kept, hblue,
      Nat.zero_or, Nat.zero_or]
  | blue =>
    simp only [Component.shift, spilled]
    rw [field_shiftLeft_above (by norm_num), field_shiftLeft_above (by norm_num),
      field_shiftLeft_above (by norm_num),
      field_kept, Nat.zero_or, Nat.zero_or, Nat.zero_or, Nat.or_zero]

/-- The visits to a pixel, component by component. -/
theorem levelsOf_foldl {sk : Skia} (hsk : sk.Documented) {l : List Deltas}
    (hδs : ∀ δ ∈ l, δ.Bounded) (pixel : Nat) :
    levelsOf (l.foldl (fun v δ => shuffleBgra sk δ v % 256 ^ 4) pixel) =
      l.foldl (visit sk.r32Shift) (levelsOf pixel) := by
  induction l generalizing pixel with
  | nil => rfl
  | cons δ l ih =>
    obtain ⟨hδ, hδs⟩ := List.forall_mem_cons.1 hδs
    rw [List.foldl_cons, List.foldl_cons, ih hδs, levelsOf_shuffleBgra hsk hδ.amount_le]

/-- The alpha stays when no red spills into it. -/
theorem alpha_shuffleBgra {sk : Skia} (hsk : sk.Documented) {δ : Deltas}
    (hδ : ∀ ch : Component, ch.amount δ ≤ 4) {pixel : Nat}
    (hred : shuffledLevels sk.r32Shift δ (levelsOf pixel) .red < 256) :
    field 24 8 (shuffleBgra sk δ pixel % 256 ^ 4) = field 24 8 pixel := by
  have hword : (256 : Nat) ^ 4 = 2 ^ 32 := by norm_num
  have hlt := shuffledLevels_lt sk.r32Shift hδ (levelsOf pixel)
  have hspilled : field 24 8 (shuffledLevels sk.r32Shift δ (levelsOf pixel) .red <<< 16) = _ :=
    field_spilled 16 (hlt .red)
  rw [hword, field_mod (by norm_num), shuffleBgra_eq hsk, field_or, field_or, field_or,
    field_kept, hspilled,
    Nat.div_eq_of_lt hred, field_shiftLeft_below ((hlt .green).trans (by norm_num)),
    field_shiftLeft_below ((hlt .blue).trans (by norm_num)), Nat.or_zero, Nat.or_zero, Nat.or_zero]
  exact Nat.mod_eq_of_lt (field_lt 24 8 pixel)

theorem field_eq (shift bits v : Nat) : field shift bits v = v / 2 ^ shift % 2 ^ bits := by
  rw [field, Nat.shiftRight_eq_div_pow]

/-- A pixel is its components and its alpha. -/
theorem pixel_ext {pixel pixel' : Nat} (hlt : pixel < 256 ^ 4) (hlt' : pixel' < 256 ^ 4)
    (hlevels : levelsOf pixel = levelsOf pixel') (halpha : field 24 8 pixel = field 24 8 pixel') :
    pixel = pixel' := by
  have hred := congrFun hlevels .red
  have hgreen := congrFun hlevels .green
  have hblue := congrFun hlevels .blue
  simp only [levelsOf, Component.shift, field_eq] at hred hgreen hblue halpha
  omega

/-- Each choice of components is that of a pixel. -/
theorem exists_levelsOf {levels : Levels} (hlevels : ∀ ch, levels ch < 256) :
    ∃ pixel < 256 ^ 4, levelsOf pixel = levels := by
  have hred := hlevels .red
  have hgreen := hlevels .green
  have hblue := hlevels .blue
  refine ⟨levels .red * 65536 + levels .green * 256 + levels .blue, by omega, ?_⟩
  funext ch
  cases ch <;> simp only [levelsOf, Component.shift, field_eq] <;> omega

/-! ## Visits that keep the components apart -/

/-- Each component at the end comes from the same one at the start. -/
def Separated (r32Shift : Nat) (l : List Deltas) : Prop :=
  ∀ ch levels levels', (∀ d, levels d < 256) → (∀ d, levels' d < 256) → levels ch = levels' ch →
    l.foldl (visit r32Shift) levels ch = l.foldl (visit r32Shift) levels' ch

/-- An amount that lets nothing spill. -/
def Deltas.Small (δ : Deltas) : Prop := δ.shuffleG ≠ 3 ∧ δ.shuffleB ≠ 3

instance (δ : Deltas) : Decidable δ.Small := inferInstanceAs (Decidable (_ ∧ _))

section Apart
variable {r32Shift : Nat} {δ : Deltas} {levels levels' : Levels} {l : List Deltas} {ch : Component}

theorem spilled_eq_zero (hδ : δ.Bounded) (hsmall : δ.Small) (ch : Component) :
    spilled (shuffledLevels r32Shift δ levels) ch = 0 := by
  obtain ⟨hG, hB⟩ := hsmall
  have hG' := hδ.shuffleG
  have hB' := hδ.shuffleB
  have hfits : ∀ level delta, delta ≤ 2 →
      shuffleComponent level (uint8Max - 1) delta / 256 = 0 := by
    intro level delta hdelta
    unfold uint8Max
    rcases shuffleComponent_eq level (255 - 1) delta with ⟨hmax, heq⟩ |
      ⟨hmax, heq⟩ <;> rw [heq] <;> omega
  cases ch with
  | red => exact hfits _ δ.shuffleG (by omega)
  | green => exact hfits _ δ.shuffleB (by omega)
  | blue => rfl

theorem visit_congr (hδ : δ.Bounded) (hsmall : δ.Small)
    (h : levels (ch.source r32Shift) = levels' (ch.source r32Shift)) :
    visit r32Shift levels δ ch = visit r32Shift levels' δ ch := by
  rw [visit, visit, spilled_eq_zero hδ hsmall, spilled_eq_zero hδ hsmall,
    shuffledLevels, shuffledLevels, h]

theorem foldl_visit_congr (hδ : ∀ δ ∈ l, δ.Bounded) (hsmall : ∀ δ ∈ l, δ.Small)
    (h : levels ((Component.source r32Shift)^[l.length] ch) = levels'
      ((Component.source r32Shift)^[l.length] ch)) :
    l.foldl (visit r32Shift) levels ch = l.foldl (visit r32Shift) levels' ch := by
  induction l generalizing levels levels' with
  | nil => exact h
  | cons δ l ih =>
    obtain ⟨hδ, hδs⟩ := List.forall_mem_cons.1 hδ
    obtain ⟨hsmall, hsmalls⟩ := List.forall_mem_cons.1 hsmall
    rw [List.length_cons, Function.iterate_succ_apply'] at h
    exact ih hδs hsmalls (visit_congr hδ hsmall h)

/-- Each component comes back to where it was. -/
theorem iterate_source (h : r32Shift = 0 ∨ Even l.length) (ch : Component) :
    (Component.source r32Shift)^[l.length] ch = ch := by
  rcases h with rfl | heven
  · exact Function.iterate_fixed (by cases ch <;> rfl) _
  · rw [(Component.source_involutive r32Shift).iterate_even heven]
    rfl

theorem separated_of_small (hδ : ∀ δ ∈ l, δ.Bounded) (hsmall : ∀ δ ∈ l, δ.Small)
    (horder : r32Shift = 0 ∨ Even l.length) : Separated r32Shift l := by
  intro ch levels levels' _ _ h
  refine foldl_visit_congr hδ hsmall ?_
  rw [iterate_source horder]
  exact h

end Apart

/-! ## Visits that do not -/

/-- A visit that only adds. -/
def added (r32Shift : Nat) (levels : Levels) (δ : Deltas) : Levels := fun ch =>
  levels (ch.source r32Shift) + ch.amount δ

/-- What the visits add. -/
def total (r32Shift : Nat) (l : List Deltas) : Levels := l.foldl (added r32Shift) fun _ => 0

section Adding
variable {r32Shift : Nat} {δ : Deltas} {levels levels' : Levels} {l : List Deltas} {ch : Component}

theorem shuffledLevels_eq_added (h : levels (ch.source r32Shift) < 254) :
    shuffledLevels r32Shift δ levels ch = added r32Shift levels δ ch := by
  unfold shuffledLevels shuffleComponent uint8Max added
  rw [if_neg (by omega)]

theorem visit_eq_added (h : ∀ ch, added r32Shift levels δ ch ≤ 253) :
    visit r32Shift levels δ = added r32Shift levels δ := by
  have hadded : shuffledLevels r32Shift δ levels = added r32Shift levels δ := by
    funext ch
    have hch := h ch
    exact shuffledLevels_eq_added (by unfold added at hch; omega)
  funext ch
  have hspilled : spilled (added r32Shift levels δ) ch = 0 := by
    have hgreen := h .green
    have hblue := h .blue
    cases ch <;> simp only [spilled] <;> omega
  have hch := h ch
  rw [visit, hadded, hspilled, Nat.or_zero, Nat.mod_eq_of_lt (by omega)]

/-- As long as the sums stay below the maximum, the visits only add. -/
theorem foldl_visit_eq_added (h : ∀ ch, l.foldl (added r32Shift) levels ch ≤ 253) :
    l.foldl (visit r32Shift) levels = l.foldl (added r32Shift) levels := by
  induction l using List.reverseRecOn with
  | nil => rfl
  | append_singleton l δ ih =>
    rw [List.foldl_append, List.foldl_append] at *
    have hbefore : ∀ ch, l.foldl (added r32Shift) levels ch ≤ 253 := by
      intro ch
      have hch := h (ch.source r32Shift)
      simp only [List.foldl_cons, List.foldl_nil, added,
        Component.source_involutive r32Shift ch] at hch
      omega
    rw [ih hbefore]
    exact visit_eq_added h

theorem foldl_added (levels : Levels) (l : List Deltas) (ch : Component) :
    l.foldl (added r32Shift) levels ch =
    levels ((Component.source r32Shift)^[l.length] ch) + total r32Shift l ch := by
  induction l using List.reverseRecOn generalizing ch with
  | nil => rfl
  | append_singleton l δ ih =>
    rw [total, List.foldl_append, List.foldl_append, ← total, List.length_append,
      List.length_singleton,
      Function.iterate_succ_apply]
    change l.foldl (added r32Shift) levels (ch.source r32Shift) + ch.amount δ = _ +
      (total r32Shift l _ + ch.amount δ)
    rw [ih, Nat.add_assoc]

theorem total_le (r32Shift : Nat) (hδ : ∀ δ ∈ l, δ.Bounded) (ch : Component) :
    total r32Shift l ch ≤ 4 * l.length := by
  induction l using List.reverseRecOn generalizing ch with
  | nil => exact Nat.zero_le _
  | append_singleton l δ ih =>
    have hbefore := ih (fun δ' hδ' => hδ δ' (List.mem_append_left _ hδ')) (ch.source r32Shift)
    have hamount := (hδ δ (List.mem_append_right _ List.mem_cons_self)).amount_le ch
    rw [total, List.foldl_append, ← total, List.length_append, List.length_singleton]
    change total r32Shift l (ch.source r32Shift) + ch.amount δ ≤ _
    omega

theorem total_zero (hzeros : ∀ δ ∈ l, δ = ⟨0, 0, 0⟩) (ch : Component) :
    total r32Shift l ch = 0 := by
  induction l using List.reverseRecOn generalizing ch with
  | nil => rfl
  | append_singleton l δ ih =>
    have hbefore := ih (fun δ' hδ' => hzeros δ' (List.mem_append_left _ hδ')) (ch.source r32Shift)
    rw [total, List.foldl_append, ← total, hzeros δ (List.mem_append_right _ List.mem_cons_self)]
    change total r32Shift l (ch.source r32Shift) + ch.amount ⟨0, 0, 0⟩ = 0
    rw [hbefore]
    cases ch <;> rfl

/-- Visits without amounts. -/
theorem foldl_visit_zero (hzeros : ∀ δ ∈ l, δ = ⟨0, 0, 0⟩)
    (hlow : ∀ ch, levels ch < 254) (ch : Component) :
    l.foldl (visit r32Shift) levels ch = levels ((Component.source r32Shift)^[l.length] ch) := by
  have hadded : ∀ ch, l.foldl (added r32Shift) levels ch = levels
      ((Component.source r32Shift)^[l.length] ch) := by
    intro ch
    rw [foldl_added, total_zero hzeros, Nat.add_zero]
  rw [foldl_visit_eq_added fun ch => ?_, hadded]
  rw [hadded]
  exact Nat.le_of_lt_succ (hlow _)

theorem alpha_foldl_zero {sk : Skia} (hsk : sk.Documented)
    (hzeros : ∀ δ ∈ l, δ = ⟨0, 0, 0⟩) {pixel : Nat} (hlow : ∀ ch, levelsOf pixel ch < 254) :
    field 24 8 (l.foldl (fun v δ => shuffleBgra sk δ v % 256 ^ 4) pixel) = field 24 8 pixel := by
  induction l generalizing pixel with
  | nil => rfl
  | cons δ l ih =>
    obtain ⟨rfl, hrest⟩ := List.forall_mem_cons.1 hzeros
    have hδ : ∀ ch : Component, ch.amount ⟨0, 0, 0⟩ ≤ 4 := fun ch => by cases ch <;> decide
    have hlow' : ∀ ch, levelsOf (shuffleBgra sk ⟨0, 0, 0⟩ pixel % 256 ^ 4) ch < 254 := by
      intro ch
      have hone : visit sk.r32Shift (levelsOf pixel) ⟨0, 0, 0⟩ ch = levelsOf pixel
          (ch.source sk.r32Shift) :=
        foldl_visit_zero (l := [⟨0, 0, 0⟩]) (by simp) hlow ch
      rw [levelsOf_shuffleBgra hsk hδ, hone]
      exact hlow _
    rw [List.foldl_cons, ih hrest hlow', alpha_shuffleBgra hsk hδ]
    rw [shuffledLevels_eq_added (hlow _)]
    exact (hlow _).trans (by omega)

/-- An odd number of visits in the order that exchanges red and blue. -/
theorem not_separated_of_swap (hδ : ∀ δ ∈ l, δ.Bounded) (hlen : l.length ≤ 11) (hr : r32Shift ≠ 0)
    (hodd : Odd l.length) : ¬ Separated r32Shift l := by
  intro hseparated
  have hsource : (Component.source r32Shift)^[l.length] .red = .blue := by
    rw [(Component.source_involutive r32Shift).iterate_odd hodd, Component.source, if_neg hr]
  have hred : ∀ levels : Levels, (∀ ch, levels ch ≤ 100) →
      l.foldl (visit r32Shift) levels .red = levels .blue + total r32Shift l .red := by
    intro levels hlevels
    rw [foldl_visit_eq_added, foldl_added, hsource]
    intro ch
    have htotal := total_le r32Shift hδ ch
    have hlevel := hlevels ((Component.source r32Shift)^[l.length] ch)
    rw [foldl_added]
    omega
  have hblue : ∀ ch, Function.update (fun _ => 0 : Levels) .blue 100 ch ≤ 100 := by
    intro ch
    cases ch <;> simp [Function.update]
  have heq := hseparated .red (fun _ => 0) (Function.update (fun _ => 0) .blue 100) (fun _ => by omega)
    (fun ch => (hblue ch).trans_lt (by omega)) rfl
  rw [hred _ fun _ => by omega, hred _ hblue, Function.update_self] at heq
  omega

end Adding

/-! ### A visit that spills -/

section Spill
variable {r32Shift : Nat} {δ : Deltas} {low high : Component}

theorem Component.Above.ne (habove : high.Above low) : high ≠ low := by
  cases habove <;> decide

theorem spilled_above (habove : high.Above low) (levels : Levels) :
    spilled levels high = levels low / 256 := by
  cases habove <;> rfl

theorem spilled_other (habove : high.Above low) {levels : Levels}
    (hlevels : ∀ ch, ch ≠ low → levels ch ≤ 255) {ch : Component} (hch : ch ≠ high) :
    spilled levels ch = 0 := by
  have hfits : ∀ ch, ch ≠ low → levels ch / 256 = 0 := fun ch hch =>
    Nat.div_eq_of_lt (Nat.lt_succ_of_le (hlevels ch hch))
  cases habove <;> cases ch
  case green.red => exact absurd rfl hch
  case green.green => exact hfits .blue (by decide)
  case green.blue => rfl
  case blue.red => exact hfits .green (by decide)
  case blue.green => exact absurd rfl hch
  case blue.blue => rfl

/-- What a visit with the amount 3 makes of a component of 253, when the others are small. -/
theorem visit_spills (hδ : δ.Bounded) (habove : high.Above low)
    (hlow : low.amount δ = 3) {levels : Levels} (hlevel : levels (low.source r32Shift) = 253)
    (hothers : ∀ ch, ch ≠ low → levels (ch.source r32Shift) ≤ 100)
    (heven : Even (added r32Shift levels δ high)) (ch : Component) : visit r32Shift levels δ ch =
      if ch = low then 0 else if ch = high then added r32Shift levels δ high + 1
        else added r32Shift levels δ ch := by
  have hlowest : added r32Shift levels δ low = 256 := by rw [added, hlevel, hlow]
  have hrest : ∀ ch, ch ≠ low → added r32Shift levels δ ch ≤ 104 := fun ch hch =>
    Nat.add_le_add (hothers ch hch) (hδ.amount_le ch)
  have hadded : shuffledLevels r32Shift δ levels = added r32Shift levels δ := by
    funext ch
    refine shuffledLevels_eq_added ?_
    by_cases hch : ch = low
    · rw [hch, hlevel]
      omega
    · exact (hothers ch hch).trans_lt (by omega)
  rw [visit, hadded]
  by_cases hch : ch = high
  · obtain ⟨n, hn⟩ := heven
    have hfits := hrest high habove.ne
    rw [if_neg (hch ▸ habove.ne), if_pos hch, hch, spilled_above habove, hlowest,
      Nat.mod_eq_of_lt (by omega), hn,
      ← two_mul]
    exact (Nat.two_pow_add_eq_or_of_lt (i := 1) (by omega) n).symm
  · rw [spilled_other habove (fun ch hch => (hrest ch hch).trans (by omega)) hch,
      Nat.or_zero, if_neg hch]
    by_cases hch' : ch = low
    · rw [if_pos hch', hch', hlowest]
    · have hfits := hrest ch hch'
      rw [if_neg hch', Nat.mod_eq_of_lt (by omega)]

/-- What it makes of small components. -/
theorem visit_small (hδ : δ.Bounded) {levels : Levels}
    (hlevels : ∀ ch : Component, levels (ch.source r32Shift) ≤ 100) :
    visit r32Shift levels δ = added r32Shift levels δ := by
  refine visit_eq_added fun ch => ?_
  have hlevel := hlevels ch
  have hamount := hδ.amount_le ch
  unfold added
  omega

/-- Its first component is the only one that green is exchanged with. -/
theorem iterate_source_green (r32Shift n : Nat) : (Component.source r32Shift)^[n] .green = .green :=
  Function.iterate_fixed rfl n

theorem iterate_source_injective (r32Shift n : Nat) :
    Function.Injective (Component.source r32Shift)^[n] :=
  (Component.source_involutive r32Shift).injective.iterate n

/-- The one that spills and the one above it come from different components. -/
theorem Component.Above.iterate_source_ne (habove : high.Above low) (n m : Nat) :
    (Component.source r32Shift)^[n] high ≠ (Component.source r32Shift)^[m] low := by
  intro heq
  cases habove with
  | green =>
    rw [iterate_source_green, ← iterate_source_green r32Shift n] at heq
    cases iterate_source_injective r32Shift n heq
  | blue =>
    rw [iterate_source_green, ← iterate_source_green r32Shift m] at heq
    cases iterate_source_injective r32Shift m heq

/-- A level for one component, and the same for the others. -/
def oneLevel (place : Component) (level rest : Nat) : Levels :=
  fun ch => if ch = place then level else rest

theorem oneLevel_lt (place : Component) {level rest : Nat} (hlevel : level < 256)
    (hrest : rest < 256) (ch : Component) : oneLevel place level rest ch < 256 := by
  unfold oneLevel
  split <;> assumption

/-- The component that a visit after `n` others takes for `ch`. -/
def origin (r32Shift n : Nat) (ch : Component) : Component :=
  (Component.source r32Shift)^[n] (ch.source r32Shift)

theorem origin_injective (r32Shift n : Nat) : Function.Injective (origin r32Shift n) :=
  (iterate_source_injective r32Shift n).comp (Component.source_involutive r32Shift).injective

theorem iterate_source_self (r32Shift n : Nat) (ch : Component) :
    (Component.source r32Shift)^[n] ((Component.source r32Shift)^[n] ch) = ch :=
  Function.LeftInverse.iterate (Component.source_involutive r32Shift) n ch

/-- What the visits before make of it. -/
theorem foldl_visit_oneLevel (r32Shift : Nat) {l : List Deltas} (hδs : ∀ δ ∈ l, δ.Bounded)
    (hlen : l.length ≤ 10) (low : Component) (level : Nat) {rest : Nat} (hrest : rest ≤ 1)
    (hlevel : level + total r32Shift l (low.source r32Shift) ≤ 253) (ch : Component) :
    l.foldl (visit r32Shift) (oneLevel (origin r32Shift l.length low) level rest)
    (ch.source r32Shift) =
      (if ch = low then level else rest) + total r32Shift l (ch.source r32Shift) := by
  have hadded : ∀ ch,
      l.foldl (added r32Shift) (oneLevel (origin r32Shift l.length low) level rest)
        (ch.source r32Shift) =
      (if ch = low then level else rest) + total r32Shift l (ch.source r32Shift) := by
    intro ch
    have hplace : origin r32Shift l.length ch = origin r32Shift l.length low ↔ ch = low :=
      (origin_injective r32Shift l.length).eq_iff
    rw [foldl_added, oneLevel]
    exact congrArg (· + _) (if_congr hplace rfl rfl)
  rw [foldl_visit_eq_added, hadded]
  intro ch
  have htotal := total_le r32Shift hδs ch
  rw [← Component.source_involutive r32Shift ch, hadded, Component.source_involutive r32Shift ch]
  split
  case isTrue hch =>
    rw [← hch, Component.source_involutive r32Shift ch] at hlevel
    exact hlevel
  case isFalse hch => omega

/-- What the visits after it make of small components. -/
theorem foldl_visit_small {l : List Deltas} (hδs : ∀ δ ∈ l, δ.Bounded)
    (hlen : l.length ≤ 10) {levels : Levels} (hlevels : ∀ ch, levels ch ≤ 105) (ch : Component) :
    l.foldl (visit r32Shift) levels ((Component.source r32Shift)^[l.length] ch) =
      levels ch + total r32Shift l ((Component.source r32Shift)^[l.length] ch) := by
  rw [foldl_visit_eq_added, foldl_added, iterate_source_self]
  intro ch
  have htotal := total_le r32Shift hδs ch
  have hlevel := hlevels ((Component.source r32Shift)^[l.length] ch)
  rw [foldl_added]
  omega

/-- The bit that spills is still there at the end. -/
theorem foldl_visit_spills {l : List Deltas} (hδs : ∀ δ' ∈ δ :: l, δ'.Bounded)
    (hlen : l.length ≤ 10) (habove : high.Above low) (hlow : low.amount δ = 3)
    (levels levels' : Levels) (hlevel : levels (low.source r32Shift) = 253)
    (hlevel' : levels' (low.source r32Shift) ≤ 100)
    (hothers : ∀ ch, ch ≠ low → levels (ch.source r32Shift) = levels' (ch.source r32Shift) ∧
      levels' (ch.source r32Shift) ≤ 100) (heven : Even (added r32Shift levels' δ high)) :
    (δ :: l).foldl (visit r32Shift) levels ((Component.source r32Shift)^[l.length] high) =
      (δ :: l).foldl (visit r32Shift) levels'
        ((Component.source r32Shift)^[l.length] high) + 1 := by
  obtain ⟨hδ, hδs⟩ := List.forall_mem_cons.1 hδs
  have hsame : ∀ ch, ch ≠ low → added r32Shift levels δ ch = added r32Shift levels' δ ch := fun ch hch =>
    congrArg (· + ch.amount δ) (hothers ch hch).1
  have hbefore : ∀ ch : Component, levels' (ch.source r32Shift) ≤ 100 := by
    intro ch
    by_cases hch : ch = low
    · exact hch ▸ hlevel'
    · exact (hothers ch hch).2
  have hfits : ∀ ch, added r32Shift levels' δ ch ≤ 104 :=
    fun ch => Nat.add_le_add (hbefore ch) (hδ.amount_le ch)
  have hspills := visit_spills hδ habove hlow hlevel (fun ch hch =>
    (hothers ch hch).1 ▸ (hothers ch hch).2)
    (hsame high habove.ne ▸ heven)
  have hsmall : visit r32Shift levels' δ = added r32Shift levels' δ := visit_small hδ hbefore
  have hspilled : ∀ ch, visit r32Shift levels δ ch ≤ 105 := by
    intro ch
    have hch := hfits ch
    have hhigh := hfits high
    rw [hspills, hsame high habove.ne]
    by_cases hch' : ch = low
    · rw [if_pos hch']
      omega
    · rw [if_neg hch', hsame ch hch']
      split <;> omega
  rw [List.foldl_cons, List.foldl_cons, foldl_visit_small hδs hlen hspilled,
    foldl_visit_small hδs hlen (fun ch => hsmall ▸ (hfits ch).trans (by omega)), hspills,
      if_neg habove.ne, if_pos rfl,
    hsmall, hsame high habove.ne]
  omega

/-- A visit with the amount 3, somewhere among the visits. -/
theorem not_separated_of_spill {l₁ l₂ : List Deltas} (hδs : ∀ δ' ∈ l₁ ++ δ :: l₂, δ'.Bounded)
    (hlen : (l₁ ++ δ :: l₂).length ≤ 11) (habove : high.Above low) (hlow : low.amount δ = 3) :
    ¬ Separated r32Shift (l₁ ++ δ :: l₂) := by
  obtain ⟨hδ₁, hδs⟩ := List.forall_mem_append.1 hδs
  rw [List.length_append, List.length_cons] at hlen
  have htotal := total_le r32Shift hδ₁
  have hlowest := htotal (low.source r32Shift)
  -- The component is 253 when it is visited, or small; the one above it is even then.
  let start := oneLevel (origin r32Shift l₁.length low)
  let level := 253 - total r32Shift l₁ (low.source r32Shift)
  let parity := (total r32Shift l₁ (high.source r32Shift) + high.amount δ) % 2
  have hparity : parity ≤ 1 := by omega
  have hbefore := foldl_visit_oneLevel r32Shift hδ₁ (by omega) low level hparity (by omega)
  have hbefore' := foldl_visit_oneLevel r32Shift hδ₁ (by omega) low 0 hparity (by omega)
  have hdiffer := foldl_visit_spills hδs (by omega) habove hlow
    (l₁.foldl (visit r32Shift) (start level parity))
    (l₁.foldl (visit r32Shift) (start 0 parity)) (by rw [hbefore, if_pos rfl]; omega)
    (by rw [hbefore', if_pos rfl]; omega)
    (fun ch hch => by
      have hch' := htotal (ch.source r32Shift)
      rw [hbefore, hbefore', if_neg hch, if_neg hch]
      omega)
    (by rw [added, hbefore', if_neg habove.ne, Nat.even_iff]; omega)
  have hplace : (Component.source r32Shift)^[l₂.length] high ≠ origin r32Shift l₁.length low :=
    habove.iterate_source_ne l₂.length (l₁.length + 1)
  intro hseparated
  have hsame := hseparated ((Component.source r32Shift)^[l₂.length] high)
    (start level parity) (start 0 parity)
    (oneLevel_lt _ (by omega) (by omega)) (oneLevel_lt _ (by omega) (by omega))
    ((if_neg hplace).trans (if_neg hplace).symm)
  rw [List.foldl_append, List.foldl_append, hdiffer] at hsame
  omega

end Spill

/-- The visits that keep the components apart. -/
theorem separated_iff {r32Shift : Nat} {l : List Deltas} (hδs : ∀ δ ∈ l, δ.Bounded)
    (hlen : l.length ≤ 11) :
    Separated r32Shift l ↔ (∀ δ ∈ l, δ.Small) ∧ (r32Shift = 0 ∨ Even l.length) := by
  refine ⟨fun hseparated => ⟨fun δ hδ => ?_, ?_⟩, fun ⟨hsmall, horder⟩ =>
    separated_of_small hδs hsmall horder⟩
  · obtain ⟨l₁, l₂, rfl⟩ := List.append_of_mem hδ
    constructor
    · intro hgreen
      exact not_separated_of_spill hδs hlen .green hgreen hseparated
    · intro hblue
      exact not_separated_of_spill hδs hlen .blue hblue hseparated
  · by_contra hnot
    obtain ⟨hr, hodd⟩ := not_or.1 hnot
    exact not_separated_of_swap hδs hlen hr (Nat.not_even_iff_odd.1 hodd) hseparated

/-! ## Calls -/

/-- The pixel is in the image. -/
def ImageInfo.Has (info : ImageInfo) (x y : Int) : Prop := 0 ≤ x ∧ x < info.width ∧
    0 ≤ y ∧ y < info.height

namespace Call

/-- The pixel of a BGRA image. -/
def pixelAt (c : Call) (memory : Memory) (x y : Int) : Nat :=
  load memory 4 (writableAddr 4 c.fRowBytes x y)

/-- Each component of a pixel is derived from the same one before, and without amounts nothing
changes. -/
structure Separates (c : Call) : Prop where
  derived : ∀ x y, c.info.Has x y → ∀ ch memory memory',
    levelsOf (c.pixelAt memory x y) ch = levelsOf (c.pixelAt memory' x y) ch →
    levelsOf (c.pixelAt (c.shuffleSubchannelColorData memory) x y) ch =
      levelsOf (c.pixelAt (c.shuffleSubchannelColorData memory') x y) ch
  unchanged : (∀ n < c.iterations, c.deltasAt n = ⟨0, 0, 0⟩) → ∀ memory,
    (∀ x y, c.info.Has x y → ∀ ch, levelsOf (c.pixelAt memory x y) ch < 254) →
      ∀ x y, c.info.Has x y →
    c.pixelAt (c.shuffleSubchannelColorData memory) x y = c.pixelAt memory x y

/-- No visit has the amount 3 for green or blue, and either the order of red and blue is that of the
format or both bisections start over together, an even number of times in all. -/
structure Separable (c : Call) : Prop where
  amounts : ∀ n < c.iterations, (c.deltasAt n).Small
  order : c.sk.r32Shift = 0 ∨
    2 * Nat.lcm (bisections c.w c.draws.bisectX) (bisections c.h c.draws.bisectY) ∣ c.iterations

variable {c : Call}

theorem deltasAt_bounded (htiny : ¬ c.Tiny) (n : Nat) : (c.deltasAt n).Bounded :=
  (head_extents htiny n _).deltas_bounded

theorem visits_length_le (x y : Int) (n : Nat) : (c.visits x y n).length ≤ n := by
  rw [visits, List.length_map]
  exact (List.length_filter_le _ _).trans_eq List.length_range

theorem iterations_le (c : Call) : c.iterations ≤ 11 := by
  have hcap := c.cap_bounds
  unfold iterations
  omega

theorem mem_visits {x y : Int} {n : Nat} {δ : Deltas} :
    δ ∈ c.visits x y n ↔ ∃ t < n, (c.xAt t = x ∧ c.yAt t = y) ∧ c.deltasAt t = δ := by
  simp only [visits, List.mem_map, List.mem_filter, List.mem_range, decide_eq_true_eq, and_assoc]

theorem visits_length (x y : Int) (n : Nat) :
    (c.visits x y n).length = Nat.count (fun t => c.xAt t = x ∧ c.yAt t = y) n := by
  rw [visits, List.length_map, ← List.countP_eq_length_filter]
  rfl

/-- The calls that visit every pixel an even number of times. -/
theorem forall_even_visits_iff (htiny : ¬ c.Tiny) (n : Nat) :
    (∀ x y, c.info.Has x y → Even (c.visits x y n).length) ↔
      2 * Nat.lcm (bisections c.w c.draws.bisectX) (bisections c.h c.draws.bisectY) ∣ n := by
  have hpairs : (∀ s, Even (Nat.count (fun t => c.xAt t = c.xAt s ∧ c.yAt t = c.yAt s) n)) ↔
      2 * Nat.lcm (bisections c.w c.draws.bisectX) (bisections c.h c.draws.bisectY) ∣ n := by
    simp only [xAt_eq_walk, yAt_eq_walk]
    exact Walks.forall_even_count_walks_iff (descends_w htiny) (descends_h htiny)
  rw [← hpairs]
  simp only [visits_length]
  constructor
  · intro heven s
    exact heven _ _ (xAt_bounds htiny s)
  · intro heven x y _
    by_cases hvisited : ∃ s, c.xAt s = x ∧ c.yAt s = y
    · obtain ⟨s, rfl, rfl⟩ := hvisited
      exact heven s
    · have hnever : Nat.count (fun t => c.xAt t = x ∧ c.yAt t = y) n = 0 :=
        Nat.count_of_forall_not fun t _ ht => hvisited ⟨t, ht⟩
      rw [hnever]
      exact Even.zero

theorem Separable.paired (h : c.Separable) (htiny : ¬ c.Tiny) {x y : Int} (hxy : c.info.Has x y) :
    c.sk.r32Shift = 0 ∨ Even (c.visits x y c.iterations).length :=
  h.order.imp_right fun hdvd => (forall_even_visits_iff htiny _).2 hdvd x y hxy

theorem visits_bounded (htiny : ¬ c.Tiny) (x y : Int) (n : Nat) :
    ∀ δ ∈ c.visits x y n, δ.Bounded := by
  intro δ hδ
  obtain ⟨t, -, -, rfl⟩ := mem_visits.1 hδ
  exact deltasAt_bounded htiny t

section Bgra
variable (hsk : c.sk.Documented) (hct : c.info.colorType = .bgra8888) (htiny : ¬ c.Tiny)
include hsk hct htiny

theorem pixelAt_shuffleSubchannelColorData {x y : Int} (hxy : c.info.Has x y) (memory : Memory) :
    c.pixelAt (c.shuffleSubchannelColorData memory) x y =
      (c.visits x y c.iterations).foldl (fun v δ => shuffleBgra c.sk δ v % 256 ^ 4)
        (c.pixelAt memory x y) := by
  have hk : pixelCase c.sk c.info.colorType = some ⟨4, shuffleBgra c.sk⟩ := by rw [hct, pixelCase]
  rw [shuffleSubchannelColorData_eq hk htiny]
  exact load_memoryAt hsk hk htiny ⟨hxy.1, hxy.2.1⟩ c.iterations

theorem levelsOf_pixelAt {x y : Int} (hxy : c.info.Has x y) (memory : Memory) :
    levelsOf (c.pixelAt (c.shuffleSubchannelColorData memory) x y) =
      (c.visits x y c.iterations).foldl (visit c.sk.r32Shift)
        (levelsOf (c.pixelAt memory x y)) := by
  rw [pixelAt_shuffleSubchannelColorData hsk hct htiny hxy,
    levelsOf_foldl hsk (visits_bounded htiny x y _)]

/-- The components of each pixel are derived apart if the visits to it keep them apart. -/
theorem derived_iff_separated : (∀ x y, c.info.Has x y → ∀ ch memory memory',
      levelsOf (c.pixelAt memory x y) ch = levelsOf (c.pixelAt memory' x y) ch →
      levelsOf (c.pixelAt (c.shuffleSubchannelColorData memory) x y) ch =
        levelsOf (c.pixelAt (c.shuffleSubchannelColorData memory') x y) ch) ↔
    ∀ x y, c.info.Has x y → Separated c.sk.r32Shift (c.visits x y c.iterations) := by
  refine forall₃_congr fun x y hxy => ⟨fun hderived ch levels levels' hlt hlt' heq => ?_,
    fun hseparated ch memory memory' heq => ?_⟩
  · have hpixel : ∀ pixel < 256 ^ 4,
        c.pixelAt (store 4 (writableAddr 4 c.fRowBytes x y) pixel fun _ => 0) x y = pixel := by
      intro pixel hpixel
      rw [pixelAt, load_store, Nat.mod_eq_of_lt hpixel]
    obtain ⟨pixel, hfits, rfl⟩ := exists_levelsOf hlt
    obtain ⟨pixel', hfits', rfl⟩ := exists_levelsOf hlt'
    have hsame := hderived ch (store 4 (writableAddr 4 c.fRowBytes x y) pixel fun _ => 0)
      (store 4 (writableAddr 4 c.fRowBytes x y) pixel' fun _ => 0)
    rw [hpixel pixel hfits, hpixel pixel' hfits', levelsOf_pixelAt hsk hct htiny hxy,
      levelsOf_pixelAt hsk hct htiny hxy, hpixel pixel hfits, hpixel pixel' hfits'] at hsame
    exact hsame heq
  · rw [levelsOf_pixelAt hsk hct htiny hxy, levelsOf_pixelAt hsk hct htiny hxy]
    exact hseparated ch _ _ (levelsOf_lt _) (levelsOf_lt _) heq

theorem derived_iff_separable : (∀ x y, c.info.Has x y → ∀ ch memory memory',
      levelsOf (c.pixelAt memory x y) ch = levelsOf (c.pixelAt memory' x y) ch →
      levelsOf (c.pixelAt (c.shuffleSubchannelColorData memory) x y) ch =
        levelsOf (c.pixelAt (c.shuffleSubchannelColorData memory') x y) ch) ↔ c.Separable := by
  rw [derived_iff_separated hsk hct htiny]
  have hiff : ∀ x y, Separated c.sk.r32Shift (c.visits x y c.iterations) ↔
      (∀ δ ∈ c.visits x y c.iterations, δ.Small) ∧
        (c.sk.r32Shift = 0 ∨ Even (c.visits x y c.iterations).length) :=
    fun x y => separated_iff (visits_bounded htiny x y _)
      ((visits_length_le x y _).trans c.iterations_le)
  constructor
  · intro hseparated
    refine ⟨fun n hn => ?_, ?_⟩
    · have hin : c.info.Has (c.xAt n) (c.yAt n) := xAt_bounds htiny n
      exact ((hiff _ _).1 (hseparated _ _ hin)).1 _ (mem_visits.2 ⟨n, hn, ⟨rfl, rfl⟩, rfl⟩)
    · by_cases hr : c.sk.r32Shift = 0
      · exact .inl hr
      · refine .inr ((forall_even_visits_iff htiny _).1 fun x y hxy => ?_)
        exact ((hiff x y).1 (hseparated x y hxy)).2.resolve_left hr
  · intro hseparable x y hxy
    refine (hiff x y).2 ⟨fun δ hδ => ?_, hseparable.paired htiny hxy⟩
    obtain ⟨n, hn, -, rfl⟩ := mem_visits.1 hδ
    exact hseparable.amounts n hn

/-- Visits without amounts, each of the components back in its place. -/
theorem Separable.unchanged (hseparable : c.Separable)
    (hzero : ∀ n < c.iterations, c.deltasAt n = ⟨0, 0, 0⟩) {memory : Memory} {x y : Int}
    (hxy : c.info.Has x y) (hlow : ∀ ch, levelsOf (c.pixelAt memory x y) ch < 254) :
    c.pixelAt (c.shuffleSubchannelColorData memory) x y = c.pixelAt memory x y := by
  have hzeros : ∀ δ ∈ c.visits x y c.iterations, δ = ⟨0, 0, 0⟩ := by
    intro δ hδ
    obtain ⟨n, hn, -, rfl⟩ := mem_visits.1 hδ
    exact hzero n hn
  refine pixel_ext (load_lt _ _ _) (load_lt _ _ _) ?_ ?_
  · rw [levelsOf_pixelAt hsk hct htiny hxy]
    funext ch
    rw [foldl_visit_zero hzeros hlow, iterate_source (hseparable.paired htiny hxy)]
  · rw [pixelAt_shuffleSubchannelColorData hsk hct htiny hxy]
    exact alpha_foldl_zero hsk hzeros hlow

end Bgra

end Call

/-- **The calls that keep the components of a BGRA image apart.** -/
theorem bgra_separates_iff (c : Call) (hsk : c.sk.Documented) (hct : c.info.colorType = .bgra8888) :
    c.Separates ↔ c.Tiny ∨ c.Separable := by
  by_cases htiny : c.Tiny
  · have hsame : ∀ memory, c.shuffleSubchannelColorData memory = memory :=
      fun memory => if_pos htiny
    simp only [htiny, true_or, iff_true]
    refine ⟨fun x y _ ch memory memory' heq => ?_, fun _ memory _ x y _ => ?_⟩
    · rw [hsame, hsame]
      exact heq
    · rw [hsame]
  · simp only [htiny, false_or]
    refine ⟨fun h => (Call.derived_iff_separable hsk hct htiny).1 h.derived, fun h => ?_⟩
    exact ⟨(Call.derived_iff_separable hsk hct htiny).2 h,
      fun hzero memory hlow x y hxy => h.unchanged hsk hct htiny hzero hxy (hlow x y hxy)⟩

/-- In the order that the formats share, and with small amounts. -/
theorem bgra_separates_small : (smallCall .bgra8888 0).Separates := by
  refine (bgra_separates_iff (smallCall .bgra8888 0) (smallCall_documented .bgra8888 0) rfl).2
    (.inr ⟨?_, .inl rfl⟩)
  have hsmall : ∀ n < 3, ((smallCall .bgra8888 0).deltasAt n).Small := by decide +kernel
  exact hsmall

/-- The other native order. -/
def swappedCall : Call := { smallCall .bgra8888 0 with sk := skiaOf 16 0 }

/-- A blue pixel that is visited once, and without amounts: it becomes red. -/
theorem bgra_exchanges : swappedCall.deltasAt 0 = ⟨0, 0, 0⟩ ∧
    swappedCall.pixelAt (store 4 144 0x000064 fun _ => 0) 4 4 = 0x000064 ∧
    swappedCall.pixelAt (swappedCall.shuffleSubchannelColorData (store 4 144 0x000064 fun _ => 0)) 4
    4 = 0x640000 ∧
    ¬ swappedCall.Separates := by
  have hafter : ∀ memory, swappedCall.shuffleSubchannelColorData memory =
      swappedCall.memoryAt ⟨4, shuffleBgra (skiaOf 16 0)⟩ memory 3 :=
    fun memory => Call.shuffleSubchannelColorData_eq rfl (smallCall_not_tiny .bgra8888 0)
  refine ⟨by decide +kernel, by decide +kernel, ?_, fun hseparates => ?_⟩
  · rw [hafter]
    decide +kernel
  · have hred := hseparates.derived 4 4 (by unfold ImageInfo.Has; decide) .red
      (store 4 144 0x000064 fun _ => 0)
      (fun _ => 0) (by decide +kernel)
    rw [hafter, hafter] at hred
    revert hred
    decide +kernel

end DumbBrowser.Canvas
