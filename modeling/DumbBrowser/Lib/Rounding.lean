import Mathlib.Data.Int.Log
import Mathlib.Data.Rat.Floor
import Mathlib.Tactic.FieldSimp
import Mathlib.Tactic.Linarith
import Mathlib.Tactic.Positivity

/-!
# Rounding to a number of significant bits

The nearest number with `p` significant bits, and of two nearest ones the even one. The exponent is
not bounded.

* `roundTo p q` : the rounded number;
* `roundTo_le` : it is above `q` by half a step at most;
* `roundTo_lt` : it stays below a bound that `q` is below by a part of `2 ^ p`.
-/

namespace DumbBrowser.Binary

/-- The nearest integer, and of two nearest ones the even one. -/
def roundEven (q : Rat) : Int :=
  let below := ⌊q⌋
  if 2 * (q - below) < 1 then below
  else if 1 < 2 * (q - below) then below + 1
  else if below % 2 = 0 then below
  else below + 1

/-- The step between the numbers with `p` significant bits where `q` is. -/
def ulp (p : Nat) (q : Rat) : Rat := 2 ^ (Int.log 2 |q| + 1 - p)

def roundTo (p : Nat) (q : Rat) : Rat := roundEven (q / ulp p q) * ulp p q

/-! ## Integers -/

theorem roundEven_le (q : Rat) : (roundEven q : Rat) ≤ q + 1 / 2 := by
  have hfloor := Int.floor_le q
  unfold roundEven
  dsimp only
  split
  · linarith
  split
  · push_cast
    linarith
  split
  · linarith
  · push_cast
    linarith

theorem roundEven_nonneg {q : Rat} (hq : 0 ≤ q) : 0 ≤ roundEven q := by
  have hfloor := Int.floor_nonneg.2 hq
  unfold roundEven
  dsimp only
  split
  · exact hfloor
  split
  · omega
  split <;> omega

/-! ## Significant bits -/

section Rounded
variable {p : Nat} {q : Rat}

theorem ulp_pos (p : Nat) (q : Rat) : 0 < ulp p q := zpow_pos (by norm_num) _

theorem roundTo_le (p : Nat) (q : Rat) : roundTo p q ≤ q + ulp p q / 2 := by
  have hulp := ulp_pos p q
  calc roundTo p q ≤ (q / ulp p q + 1 / 2) * ulp p q :=
        mul_le_mul_of_nonneg_right (roundEven_le _) hulp.le
    _ = q + ulp p q / 2 := by field_simp

theorem roundTo_nonneg (hq : 0 ≤ q) : 0 ≤ roundTo p q := by
  have hulp := ulp_pos p q
  have hrounded : 0 ≤ roundEven (q / ulp p q) := roundEven_nonneg (div_nonneg hq hulp.le)
  exact mul_nonneg (by exact_mod_cast hrounded) hulp.le

@[simp] theorem roundTo_zero (p : Nat) : roundTo p 0 = 0 := by simp [roundTo, roundEven]

/-- Half a step is a part of `2 ^ p` at most. -/
theorem half_ulp_le (hq : 0 < q) : ulp p q / 2 ≤ q / 2 ^ p := by
  have hlog : (2 : Rat) ^ Int.log 2 q ≤ q := by exact_mod_cast Int.zpow_log_le_self (by norm_num) hq
  have hulp : ulp p q / 2 = 2 ^ Int.log 2 q / 2 ^ p := by
    unfold ulp
    rw [abs_of_pos hq, add_sub_right_comm, zpow_add_one₀ (by norm_num),
      zpow_sub₀ (by norm_num), zpow_natCast]
    ring
  rw [hulp]
  gcongr

/-- What is below a bound by a part of `2 ^ p` is not rounded up to it. -/
theorem roundTo_lt {bound : Rat} (hbound : 0 < bound) (hq : 0 ≤ q) (h : q ≤ bound - bound / 2 ^ p) :
    roundTo p q < bound := by
  rcases hq.eq_or_lt with rfl | hq
  · rwa [roundTo_zero]
  have hpart : 0 < bound / 2 ^ p := by positivity
  have hhalf : ulp p q / 2 < bound / 2 ^ p := by
    refine lt_of_le_of_lt (half_ulp_le hq) ?_
    gcongr
    linarith
  have hrounded := roundTo_le p q
  linarith

end Rounded

end DumbBrowser.Binary
