import DumbBrowser.Canvas.Bounds
import DumbBrowser.Lib.ResetWalk

/-!
# The visited pixels

Where the loop goes depends on the draws alone, and what becomes of a pixel on its own contents and
the visits to it.

* `extentAt_eq_walk` : the bisection of an extent, which starts over at zero;
* `shuffleSubchannelColorData_eq` : the memory at the end, for a colour type that is handled;
* `load_memoryAt` : a pixel after some iterations.
-/

namespace DumbBrowser.Canvas

open Machine

/-! ## The walk -/

/-- The extent after some iterations, each of which bisects it. -/
def extentAt (whole : Int) (bisect : Int → Int) : Nat → Int
  | 0 => whole
  | n + 1 =>
    if bisect (extentAt whole bisect n) = 0 then whole else bisect (extentAt whole bisect n)

/-- How many bisections it takes until an extent is zero. -/
noncomputable def bisections (whole : Int) (bisect : Int → Int) : Nat := Walks.period bisect 0 whole

theorem extentAt_eq_walk (whole : Int) (bisect : Int → Int) (n : Nat) :
    extentAt whole bisect n = Walks.walk bisect 0 whole n := by
  induction n with
  | zero => rfl
  | succ n ih => rw [extentAt, ih, Walks.walk]

theorem Arithmetic.bisect_zero (a : Arithmetic) (q : Rat) : a.bisect q 0 = 0 := by
  have hproduct : a.product 0 q = 0 := by cases a <;> simp [product]
  rw [bisect, hproduct]
  rfl

theorem Arithmetic.descends_bisect {a : Arithmetic} {q : Rat} {whole : Int} (hq : a.Fraction q)
    (hwhole : 0 < whole) :
    Walks.Descends (a.bisect q) 0 whole :=
  Walks.descends_of_lt (a.bisect_zero q) (fun _ he => bisect_bounds hq he) hwhole

/-! ## The iterations -/

namespace Call

variable (c : Call)

/-- The head of the loop after `n` iterations. -/
def head (n : Nat) (memory : Memory) : LoopState :=
  ⟨c.cap - n, n, extentAt c.w c.draws.bisectX n, extentAt c.h c.draws.bisectY n, memory⟩

def xAt (n : Nat) : Int := c.draws.bisectX (extentAt c.w c.draws.bisectX n)

def yAt (n : Nat) : Int := c.draws.bisectY (extentAt c.h c.draws.bisectY n)

def deltasAt (n : Nat) : Deltas := c.deltas (c.head n fun _ => 0)

/-- The pixel at a place of the image. -/
def addr (k : PixelCase) (x y : Int) : Int := writableAddr k.size c.fRowBytes x y

def memoryAt (k : PixelCase) (memory : Memory) : Nat → Memory
  | 0 => memory
  | n + 1 =>
    let before := memoryAt k memory n
    let pixel := c.addr k (c.xAt n) (c.yAt n)
    store k.size pixel (k.shuffle (c.deltasAt n) (load before k.size pixel)) before

/-- How many iterations there are. -/
def iterations : Nat := c.cap.toNat + 1

/-- The randomisation amounts of the visits to a place, in their order. -/
def visits (x y : Int) (n : Nat) : List Deltas :=
  ((List.range n).filter fun t => c.xAt t = x ∧ c.yAt t = y).map c.deltasAt

variable {c} {k : PixelCase} {s : LoopState} {memory memory' : Memory}

/-! ## The memory after an iteration -/

theorem shufflePixel_head (hk : pixelCase c.sk c.info.colorType = some k) (n : Nat) :
    c.shufflePixel (c.head n (c.memoryAt k memory n)) = some (c.memoryAt k memory (n + 1)) := by
  rw [shufflePixel, hk]
  rfl

theorem next_head (n : Nat) (memory memory' : Memory) : c.next (c.head n memory) memory' = c.head
    (n + 1) memory' := by
  have hpixels : c.cap - (n : Int) - 1 = c.cap - ((n + 1 : Nat) : Int) := by
    push_cast
    ring
  unfold next
  rw [show (c.head n memory).pixels = c.cap - n from rfl, hpixels]
  rfl

theorem start_eq_head : c.start memory = c.head 0 memory := by
  unfold start head
  rw [Nat.cast_zero, sub_zero]
  rfl

/-- The states of a run, one after another. -/
theorem Run.eq_head (hk : pixelCase c.sk c.info.colorType = some k) (hr : c.Run memory s) :
    s = c.head s.drawn (c.memoryAt k memory s.drawn) := by
  induction hr with
  | start _ => exact start_eq_head
  | @next s memory' _ _ hs ih =>
    have hmemory : memory' = c.memoryAt k memory (s.drawn + 1) := by
      rw [ih, shufflePixel_head hk] at hs
      exact (Option.some.inj hs).symm
    change c.next s memory' = c.head (s.drawn + 1) (c.memoryAt k memory (s.drawn + 1))
    rw [ih, next_head, hmemory]
    rfl

theorem shuffleSubchannelColorData_eq (hk : pixelCase c.sk c.info.colorType = some k)
    (htiny : ¬ c.Tiny) :
    c.shuffleSubchannelColorData memory = c.memoryAt k memory c.iterations := by
  obtain ⟨s, hr, hend, heq⟩ := shuffleSubchannelColorData_run memory htiny
  have hpixels : s.pixels < 0 := by
    refine hend.resolve_right fun hnone => ?_
    rw [hr.eq_head hk, shufflePixel_head hk] at hnone
    cases hnone
  have hdrawn : s.drawn = c.iterations := by
    have hcounts := hr.counts
    have hcap := c.cap_bounds
    unfold iterations
    omega
  rw [heq, hr.eq_head hk, hdrawn]
  rfl

theorem shuffleSubchannelColorData_unhandled (hk : pixelCase c.sk c.info.colorType = none) :
    c.shuffleSubchannelColorData memory = memory := by
  by_cases htiny : c.Tiny
  · exact if_pos htiny
  · rw [shuffleSubchannelColorData, if_neg htiny, loop]
    have hnone : c.shufflePixel (c.start memory) = none := by rw [shufflePixel, hk, Option.map_none]
    split
    · rw [hnone]
      rfl
    · rfl

/-! ## The pixels -/

theorem head_extents (htiny : ¬ c.Tiny) (n : Nat) (memory : Memory) :
    c.Extents (c.head n memory) := by
  induction n with
  | zero => exact start_eq_head ▸ (Run.start htiny).extents
  | succ n ih => exact next_head n _ _ ▸ ih.next memory

theorem xAt_bounds (htiny : ¬ c.Tiny) (n : Nat) :
    0 ≤ c.xAt n ∧ c.xAt n < c.info.width ∧ 0 ≤ c.yAt n ∧
    c.yAt n < c.info.height := by
  have hextents := head_extents htiny n fun _ => 0
  obtain ⟨hx, hxw⟩ := hextents.x_bounds
  obtain ⟨hy, hyh⟩ := hextents.y_bounds
  have hw := hextents.currentW_le
  have hh := hextents.currentH_le
  unfold w at hw
  unfold h at hh
  refine ⟨hx, ?_, hy, ?_⟩
  · exact lt_of_lt_of_le hxw (by omega)
  · exact lt_of_lt_of_le hyh (by omega)

theorem xAt_eq_walk (n : Nat) :
    c.xAt n = c.draws.bisectX (Walks.walk c.draws.bisectX 0 c.w n) := by
  rw [xAt, extentAt_eq_walk]

theorem yAt_eq_walk (n : Nat) :
    c.yAt n = c.draws.bisectY (Walks.walk c.draws.bisectY 0 c.h n) := by
  rw [yAt, extentAt_eq_walk]

theorem descends_w (htiny : ¬ c.Tiny) : Walks.Descends c.draws.bisectX 0 c.w := by
  unfold Tiny at htiny
  exact Arithmetic.descends_bisect c.draws.shuffleX_fraction (by omega)

theorem descends_h (htiny : ¬ c.Tiny) : Walks.Descends c.draws.bisectY 0 c.h := by
  unfold Tiny at htiny
  exact Arithmetic.descends_bisect c.draws.shuffleY_fraction (by omega)

/-- Two pixels of the image have no byte in common. -/
theorem addr_disjoint (hsk : c.sk.Documented) (hk : pixelCase c.sk c.info.colorType = some k) {x y x' y' : Int}
    (hx : 0 ≤ x ∧ x < c.info.width) (hx' : 0 ≤ x' ∧ x' < c.info.width) (hne : ¬ (x' = x ∧ y' = y)) :
    c.addr k x y + k.size ≤ c.addr k x' y' ∨ c.addr k x' y' + k.size ≤ c.addr k x y := by
  have hplace : ∀ x y : Int, c.addr k x y = (y * c.info.width + x) * k.size := by
    intro x y
    rw [addr, writableAddr, fRowBytes, hsk.minRowBytes, ← size_eq_bytesPerPixel hk]
    push_cast
    ring
  have hrow : ∀ x y x' y' : Int, 0 ≤ x' → x < c.info.width → y < y' →
      y * c.info.width + x + 1 ≤ y' * c.info.width + x' := by
    intro x y x' y' hx' hx hy
    have hrows : (y + 1) * (c.info.width : Int) ≤ y' * c.info.width :=
      mul_le_mul_of_nonneg_right (by omega) (by positivity)
    linarith
  have happart : y * c.info.width + x + 1 ≤ y' * c.info.width + x' ∨
      y' * c.info.width + x' + 1 ≤ y * c.info.width + x := by
    rcases lt_trichotomy y y' with hy | rfl | hy
    · exact .inl (hrow x y x' y' hx'.1 hx.2 hy)
    · omega
    · exact .inr (hrow x' y' x y hx.1 hx'.2 hy)
  rw [hplace, hplace]
  refine happart.imp (fun hle => ?_) fun hle => ?_
  · calc (y * c.info.width + x) * (k.size : Int) +
      k.size = (y * c.info.width + x + 1) * k.size := by ring
      _ ≤ _ := mul_le_mul_of_nonneg_right hle (by positivity)
  · calc (y' * c.info.width + x') * (k.size : Int) +
      k.size = (y' * c.info.width + x' + 1) * k.size := by ring
      _ ≤ _ := mul_le_mul_of_nonneg_right hle (by positivity)

theorem visits_succ (x y : Int) (n : Nat) : c.visits x y (n + 1) =
    c.visits x y n ++ if c.xAt n = x ∧ c.yAt n = y then [c.deltasAt n] else [] := by
  rw [visits, List.range_succ, List.filter_append, List.map_append, ← visits]
  by_cases hvisit : c.xAt n = x ∧ c.yAt n = y
  · simp [hvisit]
  · simp [hvisit]

/-- **A pixel after some iterations: the visits to it, one after another.** -/
theorem load_memoryAt (hsk : c.sk.Documented) (hk : pixelCase c.sk c.info.colorType = some k) (htiny : ¬ c.Tiny)
    {x y : Int} (hx : 0 ≤ x ∧ x < c.info.width) (n : Nat) :
    load (c.memoryAt k memory n) k.size (c.addr k x y) =
      (c.visits x y n).foldl (fun v δ => k.shuffle δ v % 256 ^ k.size)
        (load memory k.size (c.addr k x y)) := by
  induction n with
  | zero => rfl
  | succ n ih =>
    obtain ⟨hxn, hxnw, -⟩ := xAt_bounds htiny n
    rw [memoryAt, visits_succ, List.foldl_append, ← ih]
    by_cases hvisit : c.xAt n = x ∧ c.yAt n = y
    · rw [if_pos hvisit, hvisit.1, hvisit.2, load_store]
      rfl
    · rw [if_neg hvisit, load_store_disjoint (addr_disjoint hsk hk hx ⟨hxn, hxnw⟩ hvisit)]
      rfl

end Call

end DumbBrowser.Canvas
