import DumbBrowser.Canvas.StaticBitmapImage
import Mathlib.Data.Rat.Floor

/-!
# Bounds of the canvas noise

The extents that the loop bisects stay within the image, and so do the pixels that it visits.

* `Run.extents`, `Run.counts` : what holds at the head of the loop;
* `loop_run` : the loop ends in one of these states;
* `canvas_noise_inside` : nothing outside of the buffer is written.
-/

namespace DumbBrowser.Canvas

open Machine

/-! ## Coordinates -/

theorem truncate_of_nonneg {q : Rat} (hq : 0 ≤ q) : truncate q = ⌊q⌋ := by
  rw [truncate, Rat.floor_def', Int.tdiv_eq_ediv_of_nonneg (Rat.num_nonneg.2 hq)]

namespace Arithmetic

variable {a : Arithmetic} {q : Rat} {extent : Int}

theorem product_bounds (hq : a.Fraction q) (he : 1 ≤ extent) :
    0 ≤ a.product extent q ∧ a.product extent q < extent := by
  have hpos : (0 : Rat) < extent := by exact_mod_cast he
  cases a with
  | double =>
    obtain ⟨hq0, hq1⟩ := hq
    have hexact : (0 : Rat) ≤ extent * q := mul_nonneg hpos.le hq0
    refine ⟨Binary.roundTo_nonneg hexact, Binary.roundTo_lt hpos hexact ?_⟩
    calc extent * q ≤ extent * (1 - 1 / 9007199254740992) := mul_le_mul_of_nonneg_left hq1 hpos.le
      _ = extent - extent / 2 ^ 53 := by ring
  | exact =>
    obtain ⟨hq0, hq1⟩ := hq
    refine ⟨mul_nonneg hpos.le hq0, ?_⟩
    calc extent * q < extent * 1 := mul_lt_mul_of_pos_left hq1 hpos
      _ = extent := mul_one _

/-- A coordinate is within the extent that it is drawn from. -/
theorem bisect_bounds (hq : a.Fraction q) (he : 1 ≤ extent) :
    0 ≤ a.bisect q extent ∧ a.bisect q extent < extent := by
  obtain ⟨hnonneg, hlt⟩ := product_bounds hq he
  rw [bisect, truncate_of_nonneg hnonneg]
  exact ⟨Int.floor_nonneg.2 hnonneg, Int.floor_lt.2 hlt⟩

/-- The rounded product is an integer that the exact one is below. -/
example : double.bisect (2573485501354569 / 9007199254740992) 14 = 4 ∧
    exact.bisect (2573485501354569 / 9007199254740992) 14 = 3 := by
  decide +kernel

end Arithmetic

namespace Call

variable {c : Call} {s : LoopState} {memory memory' : Memory}

theorem cap_bounds (c : Call) : 2 ≤ c.cap ∧ c.cap ≤ 10 := by
  dsimp only [cap]
  split
  · omega
  · split <;> omega

/-! ## The head of the loop -/

structure Extents (c : Call) (s : LoopState) : Prop where
  one_le_currentW : 1 ≤ s.currentW
  currentW_le : s.currentW ≤ c.w
  one_le_currentH : 1 ≤ s.currentH
  currentH_le : s.currentH ≤ c.h

namespace Extents

variable (he : c.Extents s)
include he

theorem x_bounds : 0 ≤ c.x s ∧ c.x s < s.currentW :=
  Arithmetic.bisect_bounds c.draws.shuffleX_fraction he.one_le_currentW

theorem y_bounds : 0 ≤ c.y s ∧ c.y s < s.currentH :=
  Arithmetic.bisect_bounds c.draws.shuffleY_fraction he.one_le_currentH

theorem next (memory : Memory) : c.Extents (c.next s memory) := by
  obtain ⟨hx, hxw⟩ := he.x_bounds
  obtain ⟨hy, hyh⟩ := he.y_bounds
  have hw := he.one_le_currentW
  have hw' := he.currentW_le
  have hh := he.one_le_currentH
  have hh' := he.currentH_le
  refine ⟨?_, ?_, ?_, ?_⟩ <;> simp only [Call.next] <;> split <;> omega

end Extents

theorem Run.extents (hr : c.Run memory s) : c.Extents s := by
  induction hr with
  | start htiny =>
    unfold Tiny at htiny
    refine ⟨?_, le_refl _, ?_, le_refl _⟩ <;> simp only [Call.start] <;> omega
  | next _ _ _ ih => exact ih.next _

/-- As many iterations have been made as are missing from the maximum. -/
theorem Run.counts (hr : c.Run memory s) : s.pixels = c.cap - s.drawn ∧ -1 ≤ s.pixels := by
  induction hr with
  | start _ =>
    have hcap := c.cap_bounds
    constructor <;> simp only [Call.start] <;> omega
  | next _ hpixels _ ih =>
    obtain ⟨hcount, hleast⟩ := ih
    constructor <;> simp only [Call.next] <;> push_cast <;> omega

/-- The loop goes on to the end of a run. -/
theorem loop_run (hr : c.Run memory s) :
    c.Run memory (c.loop s) ∧ ((c.loop s).pixels < 0 ∨ c.shufflePixel (c.loop s) = none) := by
  fun_induction c.loop s with
  | case1 s hpixels hnone => exact ⟨hr, .inr hnone⟩
  | case2 s hpixels memory' hsome ih => exact ih (hr.next hpixels hsome)
  | case3 s hpixels => exact ⟨hr, .inl (by omega)⟩

theorem shuffleSubchannelColorData_run (memory : Memory) (htiny : ¬ c.Tiny) : ∃ s, c.Run memory s ∧
    (s.pixels < 0 ∨ c.shufflePixel s = none) ∧ c.shuffleSubchannelColorData memory = s.memory := by
  obtain ⟨hr, hend⟩ := loop_run (.start htiny : c.Run memory (c.start memory))
  refine ⟨_, hr, hend, ?_⟩
  rw [shuffleSubchannelColorData, if_neg htiny]

/-! ## The buffer -/

/-- Where the visited pixel is. -/
def pixelAddr (c : Call) (k : PixelCase) (s : LoopState) : Int :=
  writableAddr k.size c.fRowBytes (c.x s) (c.y s)

theorem size_eq_bytesPerPixel {sk : Skia} {ct : ColorType} {k : PixelCase}
    (hk : pixelCase sk ct = some k) :
    k.size = ct.bytesPerPixel := by
  cases ct <;> cases hk <;> rfl

theorem shufflePixel_eq_some (hs : c.shufflePixel s = some memory') :
    ∃ k, pixelCase c.sk c.info.colorType = some k ∧
    memory' = store k.size (c.pixelAddr k s)
    (k.shuffle (c.deltas s) (load s.memory k.size (c.pixelAddr k s)))
      s.memory := by
  obtain ⟨k, hk, hmemory⟩ := Option.map_eq_some_iff.1 hs
  exact ⟨k, hk, hmemory.symm⟩

/-- The bytes of a pixel of the image are in its rows. -/
theorem writableAddr_bounds {size width height : Nat} {x y : Int} (hx : 0 ≤ x)
    (hxw : x < width) (hy : 0 ≤ y) (hyh : y < height) : 0 ≤ writableAddr size (width * size) x y ∧
      writableAddr size (width * size) x y + size ≤ height * (width * size : Nat) := by
  unfold writableAddr
  push_cast
  constructor
  · positivity
  · have hrow : (x + 1) * size ≤ (width : Int) * size :=
      mul_le_mul_of_nonneg_right (by omega) (by positivity)
    have hrows : (y + 1) * ((width : Int) * size) ≤ height * (width * size) :=
      mul_le_mul_of_nonneg_right (by omega) (by positivity)
    linarith

theorem Extents.pixelAddr_bounds (he : c.Extents s) (hsk : c.sk.Documented) {k : PixelCase}
    (hk : pixelCase c.sk c.info.colorType = some k) :
    0 ≤ c.pixelAddr k s ∧ c.pixelAddr k s + k.size ≤ c.info.height * c.sk.minRowBytes c.info := by
  obtain ⟨hx, hxw⟩ := he.x_bounds
  obtain ⟨hy, hyh⟩ := he.y_bounds
  have hwidth := he.currentW_le
  have hheight := he.currentH_le
  unfold w at hwidth
  unfold h at hheight
  rw [pixelAddr, fRowBytes, hsk.minRowBytes, ← size_eq_bytesPerPixel hk]
  exact writableAddr_bounds hx (by omega) hy (by omega)

/-- What an iteration should keep to. -/
structure Inside (c : Call) (s : LoopState) : Prop where
  currentW : 1 ≤ s.currentW ∧ s.currentW ≤ c.info.width - c.srcX
  currentH : 1 ≤ s.currentH ∧ s.currentH ≤ c.info.height - c.srcY
  x : 0 ≤ c.x s ∧ c.x s < s.currentW
  y : 0 ≤ c.y s ∧ c.y s < s.currentH
  /-- The bytes of the visited pixel are in the buffer, and only they are written. -/
  writes : ∀ k memory', pixelCase c.sk c.info.colorType = some k → c.shufflePixel s = some memory' →
    0 ≤ c.pixelAddr k s ∧ c.pixelAddr k s + k.size ≤ c.info.height * c.sk.minRowBytes c.info ∧
    ∀ b, b < c.pixelAddr k s ∨ c.pixelAddr k s + k.size ≤ b → memory' b = s.memory b

theorem Run.inside (hr : c.Run memory s) (hsk : c.sk.Documented) : c.Inside s where
  currentW := ⟨hr.extents.one_le_currentW, hr.extents.currentW_le⟩
  currentH := ⟨hr.extents.one_le_currentH, hr.extents.currentH_le⟩
  x := hr.extents.x_bounds
  y := hr.extents.y_bounds
  writes k memory' hk hs := by
    obtain ⟨hlow, hhigh⟩ := hr.extents.pixelAddr_bounds hsk hk
    refine ⟨hlow, hhigh, fun b hb => ?_⟩
    obtain ⟨k', hk', rfl⟩ := shufflePixel_eq_some hs
    obtain rfl := Option.some.inj (hk'.symm.trans hk)
    exact store_outside hb

theorem Run.outside (hr : c.Run memory s) (hsk : c.sk.Documented) {b : Int}
    (hb : b < 0 ∨ c.info.height * c.sk.minRowBytes c.info ≤ b) : s.memory b = memory b := by
  induction hr with
  | start _ => rfl
  | next hr _ hs ih =>
    obtain ⟨k, hk, -⟩ := shufflePixel_eq_some hs
    obtain ⟨hlow, hhigh, hframe⟩ := (hr.inside hsk).writes k _ hk hs
    exact (hframe b (by omega)).trans ih

end Call

/-- **The noise stays inside of the buffer, and the loop ends.** -/
theorem canvas_noise_inside (c : Call) (hsk : c.sk.Documented) (memory : Memory) :
    (∀ s, c.Run memory s → c.Inside s ∧ s.drawn ≤ c.cap + 1) ∧
    (¬ c.Tiny → ∃ s, c.Run memory s ∧ (s.pixels < 0 ∨ c.shufflePixel s = none) ∧
      c.shuffleSubchannelColorData memory = s.memory) ∧
    (∀ b : Int, b < 0 ∨ c.info.height * c.sk.minRowBytes c.info ≤ b →
      c.shuffleSubchannelColorData memory b = memory b) ∧
    (c.Tiny → c.shuffleSubchannelColorData memory = memory) := by
  refine ⟨fun s hr => ⟨hr.inside hsk, ?_⟩, Call.shuffleSubchannelColorData_run memory, fun b hb => ?_,
    fun htiny => if_pos htiny⟩
  · have hcounts := hr.counts
    omega
  · by_cases htiny : c.Tiny
    · rw [Call.shuffleSubchannelColorData, if_pos htiny]
    · obtain ⟨s, hr, -, heq⟩ := Call.shuffleSubchannelColorData_run memory htiny
      rw [heq]
      exact hr.outside hsk hb

/-! ## A small image -/

theorem half_fraction : Arithmetic.double.Fraction (1 / 2) := by
  unfold Arithmetic.Fraction
  norm_num

/-- Half of the extents, and always the same amount. -/
def halves (shuffleR : Fin 5) : Draws where
  arithmetic := .double
  shuffleX := 1 / 2
  shuffleY := 1 / 2
  shuffleR _ := shuffleR
  shuffleX_fraction := half_fraction
  shuffleY_fraction := half_fraction

/-- An image of eight by eight pixels. -/
def smallCall (colorType : ColorType) (shuffleR : Fin 5) : Call where
  sk := skiaOf 0 16
  info := ⟨8, 8, colorType⟩
  srcX := 0
  srcY := 0
  draws := halves shuffleR

theorem smallCall_documented (colorType : ColorType) (shuffleR : Fin 5) :
    (smallCall colorType shuffleR).sk.Documented := skiaOf_documented (.inl ⟨rfl, rfl⟩)

theorem smallCall_not_tiny (colorType : ColorType) (shuffleR : Fin 5) :
    ¬ (smallCall colorType shuffleR).Tiny := by
  have hbig : ¬ ((8 : Int) - 0 < 8 ∨ (8 : Int) - 0 < 8) := by decide
  exact hbig

/-- The bytes before and after the 64 of a grey image. -/
theorem canvas_noise_inside_gray :
    (smallCall .gray8 1).shuffleSubchannelColorData (fun _ => 0) (-1) = 0 ∧
    (smallCall .gray8 1).shuffleSubchannelColorData (fun _ => 0) 64 = 0 := by
  obtain ⟨-, -, houtside, -⟩ :=
    canvas_noise_inside (smallCall .gray8 1) (smallCall_documented .gray8 1) fun _ => 0
  exact ⟨houtside (-1) (.inl (by decide)), houtside 64 (.inr (by decide))⟩

end DumbBrowser.Canvas
