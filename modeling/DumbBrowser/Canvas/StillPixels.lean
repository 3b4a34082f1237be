import DumbBrowser.Canvas.ChannelSeparation

/-!
# Still pixels

The pixels that a visit leaves as they are, for each colour type.

* `still_iff` : a visit leaves a pixel as it is if it keeps each of its components.
-/

namespace DumbBrowser.Canvas

open Machine

/-- A component of so many bits is kept by an amount. -/
def KeptBy (bits old delta : Nat) : Prop :=
  match bits with
  | 8 => delta = 0 ∧ old ≠ 255
  | 6 => old = 0 ∧ delta = 0 ∨ old + delta = 63
  | 5 => old = 0 ∧ delta = 0 ∨ old + delta = 31
  | _ => delta = 0

/-- Each component of the colour type is kept. -/
def AllKept (sk : Skia) (δ : Deltas) (pixel : Nat) (ct : ColorType) : Prop :=
  ∀ ch ∈ channels sk ct, KeptBy ch.bits (ch.stored pixel) (ch.delta δ)

/-- The pixel stays as it is in a visit. -/
def Still (sk : Skia) (δ : Deltas) (pixel : Nat) : ColorType → Prop
  | .alpha8 => KeptBy 8 pixel δ.shuffleB
  | .gray8 => AllKept sk δ pixel .gray8
  | .rgb565 => AllKept sk δ pixel .rgb565
  | .argb4444 => AllKept sk δ pixel .argb4444
  | .rgba8888 => AllKept sk δ pixel .rgba8888
  -- Red and blue can be exchanged, and exchanged they can be the same.
  | .bgra8888 =>
    ∀ ch : Component, shuffledLevels sk.r32Shift δ (levelsOf pixel) ch = levelsOf pixel ch
  | .other _ => True

/-! ## The arithmetic of a component -/

section Arithmetic
variable {old delta shift : Nat} {field : Deltas → Nat}

theorem keptBy_eight (hdelta : delta ≤ 4) (hold : old < 256) :
    KeptBy 8 old delta ↔ shuffleComponent old (uint8Max - 1) delta = old := by
  simp only [KeptBy, uint8Max]
  rcases shuffleComponent_eq old (255 - 1) delta with ⟨hmax, heq⟩ |
    ⟨hmax, heq⟩ <;> rw [heq] <;> omega

/-- Cut off, it is not kept by any other amount. -/
theorem keptBy_eight_iff_mod (hdelta : delta ≤ 4) (hold : old < 256) :
    KeptBy 8 old delta ↔ shuffleComponent old (uint8Max - 1) delta % 256 = old := by
  simp only [KeptBy, uint8Max]
  rcases shuffleComponent_eq old (255 - 1) delta with ⟨hmax, heq⟩ |
    ⟨hmax, heq⟩ <;> rw [heq] <;> omega

theorem keptBy_four (hdelta : delta ≤ 4) (hold : old < 16) :
    KeptBy 4 old delta ↔ shuffleComponent old 15 delta % 16 = old := by
  simp only [KeptBy]
  rcases shuffleComponent_eq old 15 delta with ⟨hmax, heq⟩ | ⟨hmax, heq⟩ <;> rw [heq] <;> omega

theorem keptBy_five (hdelta : delta ≤ 4) (hold : old < 32) :
    KeptBy 5 old delta ↔ shuffleComponent (expand5 old) 31 delta % 32 = old := by
  have hread := expand5_eq hold
  simp only [KeptBy]
  rcases shuffleComponent_eq (expand5 old) 31 delta with ⟨hmax, heq⟩ | ⟨hmax, heq⟩
  · rw [heq, Nat.mod_eq_of_lt (by omega)]
    omega
  · rw [heq, Nat.mod_eq_of_lt (by omega)]
    omega

theorem keptBy_six (hdelta : delta ≤ 3) (hold : old < 64) :
    KeptBy 6 old delta ↔ shuffleComponent (expand6 old) 63 delta % 64 = old := by
  have hread := expand6_eq hold
  simp only [KeptBy]
  rcases shuffleComponent_eq (expand6 old) 63 delta with ⟨hmax, heq⟩ | ⟨hmax, heq⟩
  · rw [heq, Nat.mod_eq_of_lt (by omega)]
    omega
  · rw [heq, Nat.mod_eq_of_lt (by omega)]
    omega

end Arithmetic

/-! ## Pixels whose components are cut off -/

section CutOff
variable {sk : Skia} {δ : Deltas} {ct : ColorType} {k : PixelCase} {pixel pixel' : Nat}

theorem keptBy_iff (hct : CutOff ct) (hδ : δ.Bounded) {ch : Channel}
    (hch : ch ∈ channels sk ct) (pixel : Nat) :
    KeptBy ch.bits (ch.stored pixel) (ch.delta δ) ↔
    ch.shuffled δ pixel % 2 ^ ch.bits = ch.stored pixel := by
  have hR := hδ.shuffleR
  have hG := hδ.shuffleG
  have hB := hδ.shuffleB
  cases hct with
  | gray8 =>
    simp only [channels, List.mem_singleton] at hch
    subst hch
    exact keptBy_eight_iff_mod (by simp only; omega) (field_lt _ _ _)
  | rgb565 =>
    simp only [channels, List.mem_cons, List.not_mem_nil, or_false] at hch
    rcases hch with rfl | rfl | rfl
    · exact keptBy_five hR (field_lt _ _ _)
    · exact keptBy_six hG (field_lt _ _ _)
    · exact keptBy_five (by simp only; omega) (field_lt _ _ _)
  | argb4444 =>
    simp only [channels, List.mem_cons, List.not_mem_nil, or_false] at hch
    rcases hch with rfl | rfl | rfl <;> exact keptBy_four (by simp only; omega) (field_lt _ _ _)

/-- A pixel is its pieces. -/
theorem pixel_eq_of_channels (hct : CutOff ct) (hk : pixelCase sk ct = some k)
    (hpixel : pixel < 256 ^ k.size) (hpixel' : pixel' < 256 ^ k.size)
    (halpha : alpha ct pixel = alpha ct pixel')
    (hchannels : ∀ ch ∈ channels sk ct, ch.stored pixel = ch.stored pixel') : pixel = pixel' := by
  cases hct <;> cases hk <;>
    simp only [channels, List.forall_mem_cons, Channel.stored, field_eq, alpha] at hchannels halpha <;>
    norm_num at hpixel hpixel' hchannels halpha
  case gray8 => omega
  case rgb565 => omega
  case argb4444 => omega

theorem still_cutOff_iff (hsk : sk.Documented) (hct : CutOff ct)
    (hk : pixelCase sk ct = some k) (hδ : δ.Bounded) (hpixel : pixel < 256 ^ k.size) :
    k.shuffle δ pixel % 256 ^ k.size = pixel ↔ AllKept sk δ pixel ct := by
  have hstored : ∀ ch ∈ channels sk ct, ch.stored (k.shuffle δ pixel % 256 ^ k.size) =
      ch.shuffled δ pixel % 2 ^ ch.bits := fun ch hch =>
    field_cutOff hsk hct hk hpixel (List.mem_append_right _ (List.mem_map_of_mem hch))
  constructor
  · intro hsame ch hch
    rw [keptBy_iff hct hδ hch, ← hstored ch hch, hsame]
  · intro hkept
    have hlt : k.shuffle δ pixel % 256 ^ k.size < 256 ^ k.size := Nat.mod_lt _ (by positivity)
    refine pixel_eq_of_channels hct hk hlt hpixel ?_ fun ch hch => ?_
    · exact alpha_eq_field fun p hp => field_cutOff hsk hct hk hpixel (List.mem_append_left _ hp)
    · rw [hstored ch hch, (keptBy_iff hct hδ hch pixel).1 (hkept ch hch)]

end CutOff

/-! ## Pixels of four bytes -/

section Bytes
variable {r32Shift : Nat} {δ : Deltas} {levels : Levels}

/-- What the macro makes of a component, if that does not fit into its byte. -/
theorem shuffleComponent_overflow {old delta : Nat} (hdelta : delta ≤ 4)
    (h : 256 ≤ shuffleComponent old (uint8Max - 1) delta) :
    252 ≤ old ∧ shuffleComponent old (uint8Max - 1) delta ≤ 257 := by
  unfold uint8Max at *
  rcases shuffleComponent_eq old (255 - 1) delta with ⟨hmax, heq⟩ | ⟨hmax, heq⟩ <;> omega

theorem shuffleComponent_small {old delta : Nat} (hdelta : delta ≤ 4) (hold : old ≤ 1) :
    shuffleComponent old (uint8Max - 1) delta ≤ 5 := by
  unfold uint8Max
  rcases shuffleComponent_eq old (255 - 1) delta with ⟨hmax, heq⟩ | ⟨hmax, heq⟩ <;> omega

theorem shuffleComponent_eq_of_mod {old delta : Nat} (hdelta : delta ≤ 4) (hold : old < 256)
    (h : shuffleComponent old (uint8Max - 1) delta % 256 = old) :
    shuffleComponent old (uint8Max - 1) delta = old :=
  (keptBy_eight hdelta hold).1 ((keptBy_eight_iff_mod hdelta hold).2 h)

/-- Red and blue that a visit exchanges, and finds the same again, fit into their bytes. -/
theorem exchanged_fit {red blue shuffleR shuffleB spilled : Nat}
    (hR : shuffleR ≤ 4) (hB : shuffleB ≤ 4) (hspilled : spilled ≤ 1)
    (hred : shuffleComponent blue (uint8Max - 1) shuffleR % 256 ||| spilled = red)
    (hblue : shuffleComponent red (uint8Max - 1) shuffleB % 256 = blue) :
    shuffleComponent blue (uint8Max - 1) shuffleR < 256 ∧ shuffleComponent red
    (uint8Max - 1) shuffleB < 256 := by
  have hfits : shuffleComponent red (uint8Max - 1) shuffleB < 256 := by
    by_contra hover
    obtain ⟨hhigh, hleast⟩ := shuffleComponent_overflow hB (Nat.le_of_not_lt hover)
    have hsmall := shuffleComponent_small hR (show blue ≤ 1 by omega)
    have hor : shuffleComponent blue (uint8Max - 1) shuffleR % 256 ||| spilled < 2 ^ 3 :=
      Nat.or_lt_two_pow (by omega) (by omega)
    omega
  refine ⟨?_, hfits⟩
  by_contra hover
  obtain ⟨hhigh, hleast⟩ := shuffleComponent_overflow hR (Nat.le_of_not_lt hover)
  have hor : shuffleComponent blue (uint8Max - 1) shuffleR % 256 ||| spilled < 2 ^ 1 :=
    Nat.or_lt_two_pow (by omega) (by omega)
  have hsmall := shuffleComponent_small hB (show red ≤ 1 by omega)
  omega

section Kept
variable (hδ : ∀ ch : Component, ch.amount δ ≤ 4) (hlt : ∀ ch, levels ch < 256)
  (hsame : visit r32Shift levels δ = levels)

include hsame in
theorem blue_of_visit_eq : shuffledLevels r32Shift δ levels .blue % 256 = levels .blue := by
  have hblue : shuffledLevels r32Shift δ levels .blue % 256 ||| 0 = levels .blue :=
    congrFun hsame .blue
  rwa [Nat.or_zero] at hblue

include hδ hlt hsame

/-- Nothing spills from blue, so green is as it was. -/
theorem green_of_visit_eq (hfits : shuffledLevels r32Shift δ levels .blue < 256) :
    shuffledLevels r32Shift δ levels .green = levels .green := by
  have hgreen : shuffledLevels r32Shift δ levels .green % 256 |||
    shuffledLevels r32Shift δ levels .blue / 256 =
      levels .green := congrFun hsame .green
  rw [Nat.div_eq_of_lt hfits, Nat.or_zero] at hgreen
  exact shuffleComponent_eq_of_mod (hδ .green) (hlt .green) hgreen

theorem red_of_visit_eq (hfits : shuffledLevels r32Shift δ levels .blue < 256) :
    shuffledLevels r32Shift δ levels .red % 256 = levels .red := by
  have hred : shuffledLevels r32Shift δ levels .red % 256 |||
    shuffledLevels r32Shift δ levels .green / 256 =
      levels .red := congrFun hsame .red
  rwa [green_of_visit_eq hδ hlt hsame hfits, Nat.div_eq_of_lt (hlt .green), Nat.or_zero] at hred

/-- In the order that keeps red and blue, each component is as it was, from the lowest one on. -/
theorem kept_of_own_order (hr : r32Shift = 0) (ch : Component) :
    shuffledLevels r32Shift δ levels ch = levels ch := by
  subst hr
  have hblue : shuffledLevels 0 δ levels .blue = levels .blue :=
    shuffleComponent_eq_of_mod (hδ .blue) (hlt .blue) (blue_of_visit_eq hsame)
  have hfits : shuffledLevels 0 δ levels .blue < 256 := hblue ▸ hlt .blue
  cases ch with
  | red =>
    exact shuffleComponent_eq_of_mod (hδ .red) (hlt .red) (red_of_visit_eq hδ hlt hsame hfits)
  | green => exact green_of_visit_eq hδ hlt hsame hfits
  | blue => exact hblue

/-- In the other one, red and blue would not find each other again if one of them did not fit. -/
theorem kept_of_exchanged_order (hr : r32Shift ≠ 0) (ch : Component) :
    shuffledLevels r32Shift δ levels ch = levels ch := by
  have hsourceR : shuffledLevels r32Shift δ levels .red =
      shuffleComponent (levels .blue) (uint8Max - 1) (Component.red.amount δ) := by
    rw [shuffledLevels, Component.source, if_neg hr]
  have hsourceB : shuffledLevels r32Shift δ levels .blue =
      shuffleComponent (levels .red) (uint8Max - 1) (Component.blue.amount δ) := by
    rw [shuffledLevels, Component.source, if_neg hr]
  have hspilled : shuffledLevels r32Shift δ levels .green / 256 ≤ 1 := by
    have hgreen := shuffledLevels_lt r32Shift hδ levels .green
    omega
  have hred : shuffledLevels r32Shift δ levels .red % 256 |||
    shuffledLevels r32Shift δ levels .green / 256 =
      levels .red := congrFun hsame .red
  have hblue := blue_of_visit_eq hsame
  obtain ⟨hfitsR, hfitsB⟩ := exchanged_fit (hδ .red) (hδ .blue) hspilled
    (hsourceR ▸ hred) (hsourceB ▸ hblue)
  rw [← hsourceR] at hfitsR
  rw [← hsourceB] at hfitsB
  cases ch with
  | red => rw [← Nat.mod_eq_of_lt hfitsR, red_of_visit_eq hδ hlt hsame hfitsB]
  | green => exact green_of_visit_eq hδ hlt hsame hfitsB
  | blue => rw [← Nat.mod_eq_of_lt hfitsB, hblue]

end Kept

/-- A visit keeps the components if it gives each of them back: what spills would change one of
them. -/
theorem visit_eq_self_iff (hδ : ∀ ch : Component, ch.amount δ ≤ 4) (hlt : ∀ ch, levels ch < 256) :
    visit r32Shift levels δ = levels ↔ ∀ ch, shuffledLevels r32Shift δ levels ch = levels ch := by
  constructor
  · intro hsame
    by_cases hr : r32Shift = 0
    · exact kept_of_own_order hδ hlt hsame hr
    · exact kept_of_exchanged_order hδ hlt hsame hr
  · intro hkept
    have hkept' : shuffledLevels r32Shift δ levels = levels := funext hkept
    funext ch
    have hspilled : spilled levels ch = 0 := by
      cases ch with
      | red => exact Nat.div_eq_of_lt (hlt .green)
      | green => exact Nat.div_eq_of_lt (hlt .blue)
      | blue => rfl
    rw [visit, hkept', hspilled, Nat.or_zero, Nat.mod_eq_of_lt (hlt ch)]

theorem still_bgra_iff {sk : Skia} (hsk : sk.Documented) (hδ : ∀ ch : Component, ch.amount δ ≤ 4) {pixel : Nat}
    (hpixel : pixel < 256 ^ 4) : shuffleBgra sk δ pixel % 256 ^ 4 = pixel ↔
      ∀ ch, shuffledLevels sk.r32Shift δ (levelsOf pixel) ch = levelsOf pixel ch := by
  rw [← visit_eq_self_iff hδ (levelsOf_lt pixel), ← levelsOf_shuffleBgra hsk hδ]
  refine ⟨fun hsame => congrArg levelsOf hsame, fun hlevels => ?_⟩
  have hkept := (visit_eq_self_iff hδ (levelsOf_lt pixel)).1
    (levelsOf_shuffleBgra hsk hδ pixel ▸ hlevels)
  refine pixel_ext (Nat.mod_lt _ (by norm_num)) hpixel hlevels (alpha_shuffleBgra hsk hδ ?_)
  rw [hkept]
  exact levelsOf_lt pixel .red

/-- The amounts, with those of red and blue exchanged where the native order has them so. -/
def nativeDeltas (sk : Skia) (δ : Deltas) : Deltas :=
  if sk.r32Shift = 0 then ⟨δ.shuffleB, δ.shuffleG, δ.shuffleR⟩ else δ

theorem nativeDeltas_amount_le {sk : Skia} (hδ : δ.Bounded) (ch : Component) :
    ch.amount (nativeDeltas sk δ) ≤ 4 := by
  have hR := hδ.shuffleR
  have hG := hδ.shuffleG
  have hB := hδ.shuffleB
  unfold nativeDeltas
  split <;> cases ch <;> simp only [Component.amount] <;> omega

/-- A pixel in the native order is shuffled like one of BGRA in the order that keeps red and
blue. -/
theorem shuffleRgba_eq_bgra {sk : Skia} (hsk : sk.Documented) (δ : Deltas) (pixel : Nat) :
    shuffleRgba sk δ pixel = shuffleBgra (skiaOf 0 16) (nativeDeltas sk δ) pixel := by
  obtain ⟨hA, hG⟩ := hsk.shifts32
  have hor : ∀ a b c d : Nat, a ||| b ||| c ||| d = a ||| d ||| c ||| b := by
    intro a b c d
    ac_rfl
  rw [shuffleBgra_eq (skiaOf_documented (.inl ⟨rfl, rfl⟩))]
  simp only [shuffleRgba, hsk.getPackedA32, hsk.getPackedR32, hsk.getPackedG32,
    hsk.getPackedB32, hA, hG]
  rcases hsk.native with ⟨hr, hb⟩ | ⟨hr, hb⟩
  · rw [hr, hb, nativeDeltas, if_pos hr]
    exact hor _ _ _ _
  · rw [hr, hb, nativeDeltas, if_neg (by omega)]
    rfl

theorem still_rgba_iff {sk : Skia} (hsk : sk.Documented) (hδ : δ.Bounded) {pixel : Nat}
    (hpixel : pixel < 256 ^ 4) :
    shuffleRgba sk δ pixel % 256 ^ 4 = pixel ↔ AllKept sk δ pixel .rgba8888 := by
  have hR := hδ.shuffleR
  have hG := hδ.shuffleG
  have hB := hδ.shuffleB
  have hbgra : (skiaOf 0 16).Documented := skiaOf_documented (.inl ⟨rfl, rfl⟩)
  rw [shuffleRgba_eq_bgra hsk, still_bgra_iff hbgra (nativeDeltas_amount_le hδ) hpixel]
  have hkept : ∀ {shift delta}, delta ≤ 4 → (KeptBy 8 (field shift 8 pixel) delta ↔
      shuffleComponent (field shift 8 pixel) (uint8Max - 1) delta = field shift 8 pixel) := fun hdelta =>
    keptBy_eight hdelta (field_lt _ _ _)
  rw [Component.forall_iff]
  simp only [AllKept, channels, List.forall_mem_cons, Channel.stored, List.not_mem_nil,
    false_implies, implies_true,
    and_true]
  rw [hkept hR, hkept (by omega), hkept (by omega)]
  rcases hsk.native with ⟨hr, hb⟩ | ⟨hr, hb⟩
  · rw [hr, hb, nativeDeltas, if_pos hr]
    constructor <;> intro h <;> exact ⟨h.2.2, h.2.1, h.1⟩
  · rw [hr, hb, nativeDeltas, if_neg (by omega)]
    exact Iff.rfl

theorem still_alpha8_iff {sk : Skia} (hsk : sk.Documented) (hδ : δ.Bounded) {pixel : Nat}
    (hpixel : pixel < 256) :
    shuffleAlpha8 sk δ pixel % 256 = pixel ↔ KeptBy 8 pixel δ.shuffleB := by
  have hB := hδ.shuffleB
  have hstored : field 0 8 pixel = pixel := Nat.mod_eq_of_lt hpixel
  have hlow : shuffleAlpha8 sk δ pixel % 256 = shuffleComponent pixel (uint8Max - 1)
      δ.shuffleB % 256 := by
    change field 0 8 (shuffleAlpha8 sk δ pixel) = field 0 8
      (shuffleComponent pixel (uint8Max - 1) δ.shuffleB)
    simp only [shuffleAlpha8, hsk.colorSetARGB, hsk.colorGetB, hstored]
    rw [field_or, field_or, field_or, field_shiftLeft_above (by norm_num),
      field_shiftLeft_above (by norm_num),
      field_shiftLeft_above (by norm_num), Nat.zero_or, Nat.zero_or, Nat.zero_or]
  rw [hlow, keptBy_eight_iff_mod (by omega) hpixel]

end Bytes

/-- **The pixels that a visit leaves as they are.** -/
theorem still_iff {sk : Skia} (hsk : sk.Documented) {ct : ColorType} {k : PixelCase}
    (hk : pixelCase sk ct = some k) {δ : Deltas} (hδ : δ.Bounded) {pixel : Nat}
    (hpixel : pixel < 256 ^ k.size) :
    k.shuffle δ pixel % 256 ^ k.size = pixel ↔ Still sk δ pixel ct := by
  cases ct with
  | gray8 => exact still_cutOff_iff hsk .gray8 hk hδ hpixel
  | rgb565 => exact still_cutOff_iff hsk .rgb565 hk hδ hpixel
  | argb4444 => exact still_cutOff_iff hsk .argb4444 hk hδ hpixel
  | alpha8 =>
    cases hk
    exact still_alpha8_iff hsk hδ hpixel
  | rgba8888 =>
    cases hk
    exact still_rgba_iff hsk hδ hpixel
  | bgra8888 =>
    cases hk
    exact still_bgra_iff hsk hδ.amount_le hpixel
  | other bytesPerPixel => cases hk

theorem still_of_unhandled {sk : Skia} {ct : ColorType} (hk : pixelCase sk ct = none)
    {δ : Deltas} {pixel : Nat} :
    Still sk δ pixel ct := by
  cases ct with
  | other bytesPerPixel => trivial
  | _ => cases hk

end DumbBrowser.Canvas
