import Mathlib.Algebra.Ring.Parity
import Mathlib.Data.Int.CardIntervalMod
import Mathlib.Data.Int.ConditionallyCompleteOrder
import Mathlib.Data.Nat.ModEq
import Mathlib.Logic.Function.Iterate
import Mathlib.Order.Lattice.Nat

/-!
# Walks that start over

A walk goes down by a function, and starts over when it comes to its stop.

* `walk_eq_iterate` : where the walk is after some steps;
* `apply_walk_eq_iff` : when it comes to the same place again;
* `injOn_walks_iff` : two walks side by side;
* `forall_even_count_walks_iff` : the walks that come to every place an even number of times.
-/

namespace DumbBrowser.Walks

variable {α β : Type}

def walk [DecidableEq α] (f : α → α) (stop start : α) : Nat → α
  | 0 => start
  | n + 1 => if f (walk f stop start n) = stop then start else f (walk f stop start n)

/-- How many steps it takes to the stop. -/
noncomputable def period (f : α → α) (stop start : α) : Nat := sInf {n | 0 < n ∧ f^[n] start = stop}

/-- The walk goes down to its stop. -/
structure Descends [Preorder α] (f : α → α) (stop start : α) : Prop where
  stops : ∃ n, 0 < n ∧ f^[n] start = stop
  lt : ∀ n, f^[n] start ≠ stop → f^[n + 1] start < f^[n] start

/-- Numbers that get smaller, but not negative. -/
theorem descends_of_lt {f : Int → Int} (hzero : f 0 = 0)
    (hf : ∀ e, 0 < e → 0 ≤ f e ∧ f e < e) {start : Int} (hstart : 0 < start) :
    Descends f 0 start := by
  have hnonneg : ∀ n, 0 ≤ f^[n] start := by
    intro n
    induction n with
    | zero => exact hstart.le
    | succ n ih =>
      rw [Function.iterate_succ_apply']
      rcases ih.eq_or_lt with h | h
      · rw [← h, hzero]
      · exact (hf _ h).1
  have hlt : ∀ n, f^[n] start ≠ 0 → f^[n + 1] start < f^[n] start := by
    intro n hne
    rw [Function.iterate_succ_apply']
    exact (hf _ (lt_of_le_of_ne (hnonneg n) (Ne.symm hne))).2
  refine ⟨?_, hlt⟩
  by_contra hnever
  -- Without a stop, as many steps as the start is high lead below zero.
  have hbelow : ∀ n : Nat, f^[n] start ≤ start - n := by
    intro n
    induction n with
    | zero => simp
    | succ n ih =>
      have hne : f^[n] start ≠ 0 := by
        intro hstop
        rcases Nat.eq_zero_or_pos n with rfl | hn
        · exact hstart.ne' hstop
        · exact hnever ⟨n, hn, hstop⟩
      have hstep := hlt n hne
      push_cast
      omega
  have hlast := hbelow (start.toNat + 1)
  have hlast' := hnonneg (start.toNat + 1)
  push_cast at hlast
  omega

theorem iterate_ne_stop {f : α → α} {stop start : α} {n : Nat} (hn : 0 < n)
    (hlt : n < period f stop start) :
    f^[n] start ≠ stop := fun hstop => Nat.notMem_of_lt_sInf hlt ⟨hn, hstop⟩

namespace Descends

variable {f : α → α} {stop start : α} [Preorder α] (h : Descends f stop start)
include h

theorem period_pos : 0 < period f stop start := (Nat.sInf_mem h.stops).1

theorem iterate_period : f^[period f stop start] start = stop := (Nat.sInf_mem h.stops).2

theorem iterate_lt {i j : Nat} (hi : 0 < i) (hij : i < j) (hj : j ≤ period f stop start) :
    f^[j] start < f^[i] start := by
  induction j, hij using Nat.le_induction with
  | base => exact h.lt i (iterate_ne_stop hi hj)
  | succ j hij ih => exact (h.lt j (iterate_ne_stop (by omega) hj)).trans (ih (by omega))

variable [DecidableEq α]

/-- Where the walk is after some steps. -/
theorem walk_eq_iterate (n : Nat) : walk f stop start n = f^[n % period f stop start] start := by
  induction n with
  | zero => rw [Nat.zero_mod]; rfl
  | succ n ih =>
    have hnext : f (walk f stop start n) = f^[n % period f stop start + 1] start := by
      rw [ih, Function.iterate_succ_apply']
    have hmod := Nat.mod_lt n h.period_pos
    rw [walk, hnext, ← Nat.mod_add_mod]
    by_cases hlast : n % period f stop start + 1 = period f stop start
    · rw [hlast, if_pos h.iterate_period, Nat.mod_self]
      rfl
    · have hlt : n % period f stop start + 1 < period f stop start := by omega
      rw [if_neg (iterate_ne_stop (Nat.succ_pos _) hlt), Nat.mod_eq_of_lt hlt]

theorem apply_walk_eq_iterate (n : Nat) :
    f (walk f stop start n) = f^[n % period f stop start + 1] start := by
  rw [h.walk_eq_iterate, Function.iterate_succ_apply']

/-- When the walk comes to the same place again. -/
theorem apply_walk_eq_iff {n m : Nat} :
    f (walk f stop start n) = f (walk f stop start m) ↔ n ≡ m [MOD period f stop start] := by
  rw [h.apply_walk_eq_iterate, h.apply_walk_eq_iterate]
  refine ⟨fun heq => ?_, fun heq => by rw [show n % _ = m % _ from heq]⟩
  have hn := Nat.mod_lt n h.period_pos
  have hm := Nat.mod_lt m h.period_pos
  rcases Nat.lt_trichotomy (n % period f stop start) (m % period f stop start) with hlt | heq' | hlt
  · exact absurd heq (h.iterate_lt (Nat.succ_pos _) (Nat.succ_lt_succ hlt) hm).ne'
  · exact heq'
  · exact absurd heq (h.iterate_lt (Nat.succ_pos _) (Nat.succ_lt_succ hlt) hn).ne

end Descends

/-! ## Two walks -/

theorem modEq_lcm_iff {n m a b : Nat} : n ≡ m [MOD Nat.lcm a b] ↔
    n ≡ m [MOD a] ∧ n ≡ m [MOD b] := by
  rcases Nat.le_total n m with hle | hle
  · rw [Nat.modEq_iff_dvd' hle, Nat.modEq_iff_dvd' hle, Nat.modEq_iff_dvd' hle, Nat.lcm_dvd_iff]
  · rw [Nat.ModEq.comm, Nat.modEq_iff_dvd' hle, Nat.ModEq.comm,
      Nat.modEq_iff_dvd' hle, Nat.ModEq.comm,
      Nat.modEq_iff_dvd' hle, Nat.lcm_dvd_iff]

theorem forall_even_count_modEq_iff {l n : Nat} (hl : 0 < l) :
    (∀ s, Even (Nat.count (fun t => t ≡ s [MOD l]) n)) ↔ 2 * l ∣ n := by
  simp only [Nat.count_modEq_card n hl]
  constructor
  · intro heven
    have hmod := Nat.mod_lt n hl
    have hfirst := heven 0
    have hlast := heven (l - 1)
    rw [Nat.zero_mod] at hfirst
    rw [Nat.mod_eq_of_lt (by omega), if_neg (by omega), add_zero] at hlast
    have hrest : n % l = 0 := by
      by_contra hne
      rw [if_pos (Nat.pos_of_ne_zero hne)] at hfirst
      exact (Nat.even_add_one.1 hfirst) hlast
    obtain ⟨k, hk⟩ := hlast
    refine ⟨k, ?_⟩
    calc n = l * (n / l) := (Nat.mul_div_cancel' (Nat.dvd_of_mod_eq_zero hrest)).symm
      _ = 2 * l * k := by rw [hk]; ring
  · rintro ⟨k, rfl⟩ s
    have hrest : 2 * l * k % l = 0 := by rw [mul_assoc, mul_left_comm]; exact Nat.mul_mod_right _ _
    have hdiv : 2 * l * k / l = 2 * k := by
      rw [mul_assoc, mul_left_comm, Nat.mul_div_cancel_left _ hl]
    rw [hrest, if_neg (Nat.not_lt_zero _), hdiv]
    exact even_two_mul k

section Pair
variable {f : α → α} {g : β → β} {stop start : α} {stop' start' : β} [Preorder α]
  [Preorder β] [DecidableEq α] [DecidableEq β]

theorem apply_walks_eq_iff (h : Descends f stop start) (h' : Descends g stop' start') {n m : Nat} :
    f (walk f stop start n) = f (walk f stop start m) ∧ g (walk g stop' start' n) = g
    (walk g stop' start' m) ↔
      n ≡ m [MOD Nat.lcm (period f stop start) (period g stop' start')] := by
  rw [h.apply_walk_eq_iff, h'.apply_walk_eq_iff, modEq_lcm_iff]

/-- The places of two walks side by side are different until both start over. -/
theorem injOn_walks_iff (h : Descends f stop start) (h' : Descends g stop' start') {n : Nat} :
    Set.InjOn (fun t => (f (walk f stop start t), g (walk g stop' start' t))) (Set.Iio n) ↔
      n ≤ Nat.lcm (period f stop start) (period g stop' start') := by
  have hpos : 0 < Nat.lcm (period f stop start) (period g stop' start') :=
    Nat.lcm_pos h.period_pos h'.period_pos
  constructor
  · intro hinj
    by_contra hlt
    have hsame := hinj (Set.mem_Iio.2 (hpos.trans (by omega))) (Set.mem_Iio.2 (by omega))
      (Prod.ext_iff.2 ((apply_walks_eq_iff h h').2 (Nat.zero_mod _ |>.trans (Nat.mod_self _).symm)))
    exact hpos.ne hsame
  · intro hle s hs t ht heq
    have hmod := (apply_walks_eq_iff h h').1 (Prod.ext_iff.1 heq)
    exact hmod.eq_of_lt_of_lt (lt_of_lt_of_le hs hle) (lt_of_lt_of_le ht hle)

/-- The two come to every place an even number of times if they end where both start over for an
even time. -/
theorem forall_even_count_walks_iff (h : Descends f stop start)
    (h' : Descends g stop' start') {n : Nat} :
    (∀ s, Even (Nat.count (fun t => f (walk f stop start t) = f (walk f stop start s) ∧
      g (walk g stop' start' t) = g (walk g stop' start' s)) n)) ↔
    2 * Nat.lcm (period f stop start) (period g stop' start') ∣ n := by
  simp only [apply_walks_eq_iff h h']
  exact forall_even_count_modEq_iff (Nat.lcm_pos h.period_pos h'.period_pos)

end Pair

end DumbBrowser.Walks
