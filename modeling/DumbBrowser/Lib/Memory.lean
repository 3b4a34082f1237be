import Mathlib.Data.Nat.Bitwise
import Mathlib.Logic.Function.Basic
import Mathlib.Algebra.Ring.Nat

/-!
# Memory

Bytes at addresses, words of some bytes with the lowest first, and the bit fields of a word.

* `load_store` : a word that was stored is loaded, as far as it fits;
* `load_store_disjoint`, `store_outside` : nothing else has changed;
* `field_pack` : the fields of a word that is put together by shifts.
-/

namespace DumbBrowser.Machine

abbrev Memory := Int → UInt8

def load (m : Memory) : Nat → Int → Nat
  | 0, _ => 0
  | n + 1, a => (m a).toNat + 256 * load m n (a + 1)

def store : Nat → Int → Nat → Memory → Memory
  | 0, _, _, m => m
  | n + 1, a, v, m => Function.update (store n (a + 1) (v / 256) m) a (UInt8.ofNat v)

/-! ## Loads and stores -/

theorem load_lt (m : Memory) : ∀ (n : Nat) (a : Int), load m n a < 256 ^ n
  | 0, _ => by simp [load]
  | n + 1, a => by
    have hrest := load_lt m n (a + 1)
    have hbyte : (m a).toNat < 256 := (m a).toNat_lt
    rw [load, pow_succ]
    omega

theorem load_congr {m m' : Memory} : ∀ {n : Nat} {a : Int}, (∀ b, a ≤ b → b < a + n → m b = m' b) →
    load m n a = load m' n a
  | 0, _, _ => rfl
  | n + 1, a, h => by
    rw [load, load, h a (by omega) (by omega), load_congr fun b hb hb' =>
      h b (by omega) (by push_cast at hb' ⊢; omega)]

theorem store_outside {b : Int} : ∀ {n : Nat} {a : Int} {v : Nat} {m : Memory}, b < a ∨ a + n ≤ b →
    store n a v m b = m b
  | 0, _, _, _, _ => rfl
  | n + 1, a, v, m, h => by
    have hne : b ≠ a := by omega
    rw [store, Function.update_of_ne hne, store_outside (by omega)]

theorem load_store_disjoint {n k : Nat} {a b : Int} {v : Nat} {m : Memory}
    (h : b + k ≤ a ∨ a + n ≤ b) :
    load (store n a v m) k b = load m k b :=
  load_congr fun c hc hc' => store_outside (by omega)

/-- A word that was stored is loaded, as far as it fits. -/
theorem load_store : ∀ (n : Nat) (a : Int) (v : Nat) (m : Memory), load
    (store n a v m) n a = v % 256 ^ n
  | 0, _, v, _ => by simp [load, Nat.mod_one]
  | n + 1, a, v, m => by
    have hrest : load (store (n + 1) a v m) n (a + 1) = load (store n (a + 1) (v / 256) m) n (a + 1) :=
      load_congr fun b hb _ => Function.update_of_ne (by omega) _ _
    have hbyte : (store (n + 1) a v m a).toNat = v % 256 := by
      rw [store, Function.update_self]
      exact UInt8.toNat_ofNat'
    rw [load, hrest, load_store n, hbyte, pow_succ, mul_comm (256 ^ n), Nat.mod_mul]

/-! ## Bit fields -/

def field (shift bits v : Nat) : Nat := v >>> shift % 2 ^ bits

theorem field_lt (shift bits v : Nat) : field shift bits v < 2 ^ bits :=
  Nat.mod_lt _ (Nat.two_pow_pos bits)

theorem testBit_field (shift bits v i : Nat) :
    (field shift bits v).testBit i = (decide (i < bits) && v.testBit (shift + i)) := by
  rw [field, Nat.testBit_mod_two_pow, Nat.testBit_shiftRight]

theorem field_or (shift bits v w : Nat) : field shift bits (v ||| w) = field shift bits v |||
    field shift bits w := by
  apply Nat.eq_of_testBit_eq
  intro i
  rw [Nat.testBit_or, testBit_field, testBit_field, testBit_field, Nat.testBit_or,
    Bool.and_or_distrib_left]

/-- The field that the word was shifted to. -/
theorem field_shiftLeft_self (shift bits v : Nat) :
    field shift bits (v <<< shift) = v % 2 ^ bits := by
  rw [field, Nat.shiftLeft_shiftRight]

/-- A field below the word. -/
theorem field_shiftLeft_above {shift bits place : Nat} (h : shift + bits ≤ place) (v : Nat) :
    field shift bits (v <<< place) = 0 := by
  apply Nat.eq_of_testBit_eq
  intro i
  rw [testBit_field, Nat.testBit_shiftLeft, Nat.zero_testBit]
  by_cases hi : i < bits
  · have hlow : ¬ shift + i ≥ place := by omega
    simp [hlow]
  · simp [hi]

/-- A field above the word. -/
theorem field_shiftLeft_below {shift bits place v : Nat} (hv : v < 2 ^ (shift - place)) :
    field shift bits (v <<< place) = 0 := by
  apply Nat.eq_of_testBit_eq
  intro i
  rw [testBit_field, Nat.testBit_shiftLeft, Nat.zero_testBit]
  have hbit : v.testBit (shift + i - place) = false :=
    Nat.testBit_lt_two_pow (lt_of_lt_of_le hv (Nat.pow_le_pow_right (by decide) (by omega)))
  simp [hbit]

/-- A field that the word does not reach. -/
theorem field_shiftLeft_other {shift bits place bits' v : Nat}
    (h : shift + bits ≤ place ∨ place + bits' ≤ shift) (hv : v < 2 ^ bits') :
    field shift bits (v <<< place) = 0 := by
  rcases h with habove | hbelow
  · exact field_shiftLeft_above habove v
  · exact field_shiftLeft_below (lt_of_lt_of_le hv (Nat.pow_le_pow_right (by decide) (by omega)))

/-- The fields of a word that is cut off above them. -/
theorem field_mod {shift bits n : Nat} (h : shift + bits ≤ n) (v : Nat) :
    field shift bits (v % 2 ^ n) = field shift bits v := by
  apply Nat.eq_of_testBit_eq
  intro i
  rw [testBit_field, testBit_field, Nat.testBit_mod_two_pow]
  by_cases hi : i < bits
  · have hlow : shift + i < n := by omega
    simp [hlow]
  · simp [hi]

/-! ### Packed words -/

/-- A value in bits of its own. -/
structure Piece where
  shift : Nat
  bits : Nat
  value : Nat

def Piece.Apart (p q : Piece) : Prop := p.shift + p.bits ≤ q.shift ∨ q.shift + q.bits ≤ p.shift

instance (p q : Piece) : Decidable (p.Apart q) := inferInstanceAs (Decidable (_ ∨ _))

theorem Piece.Apart.symm {p q : Piece} (h : p.Apart q) : q.Apart p := Or.symm h

def pack : List Piece → Nat
  | [] => 0
  | p :: ps => (p.value <<< p.shift) ||| pack ps

theorem field_pack_apart {p : Piece} : ∀ {ps : List Piece}, (∀ q ∈ ps, q.value < 2 ^ q.bits) →
    (∀ q ∈ ps, p.Apart q) →
    field p.shift p.bits (pack ps) = 0 := by
  intro ps
  induction ps with
  | nil =>
    intro _ _
    rw [pack, field, Nat.zero_shiftRight, Nat.zero_mod]
  | cons q ps ih =>
    intro hfit hapart
    obtain ⟨hq, hfit⟩ := List.forall_mem_cons.1 hfit
    obtain ⟨hpq, hapart⟩ := List.forall_mem_cons.1 hapart
    rw [pack, field_or, ih hfit hapart, field_shiftLeft_other hpq hq, Nat.or_zero]

/-- The values of a packed word, each in its own bits. -/
theorem field_pack {p : Piece} : ∀ {ps : List Piece}, (∀ q ∈ ps, q.value < 2 ^ q.bits) →
    ps.Pairwise Piece.Apart →
    p ∈ ps → field p.shift p.bits (pack ps) = p.value := by
  intro ps
  induction ps with
  | nil => exact fun _ _ hp => absurd hp List.not_mem_nil
  | cons q ps ih =>
    intro hfit hapart hp
    obtain ⟨hq, hfits⟩ := List.forall_mem_cons.1 hfit
    obtain ⟨hqs, haparts⟩ := List.pairwise_cons.1 hapart
    rw [pack, field_or]
    rcases List.mem_cons.1 hp with rfl | hmem
    · rw [field_pack_apart hfits hqs, field_shiftLeft_self, Nat.mod_eq_of_lt hq, Nat.or_zero]
    · rw [ih hfits haparts hmem, field_shiftLeft_other (hqs p hmem).symm hq, Nat.zero_or]

/-- The next field: what the word carries over. -/
theorem field_shiftLeft_next {place bits v : Nat} :
    field (place + bits) bits (v <<< place) = v >>> bits % 2 ^ bits := by
  apply Nat.eq_of_testBit_eq
  intro i
  rw [testBit_field, Nat.testBit_shiftLeft, Nat.testBit_mod_two_pow, Nat.testBit_shiftRight]
  have hplace : place + bits + i ≥ place := by omega
  have hindex : place + bits + i - place = bits + i := by omega
  simp [hplace, hindex]

end DumbBrowser.Machine
