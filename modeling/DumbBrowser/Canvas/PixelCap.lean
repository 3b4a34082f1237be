import DumbBrowser.Canvas.StillPixels
import Mathlib.Data.Finset.Card
import Mathlib.Data.Finset.Prod

/-!
# The maximum of pixels to change

The loop makes one iteration more than the maximum, and all of them change a pixel unless two of
them visit the same one or one leaves its pixel as it is.

* `injOn_place_iff` : the pixels are different until both bisections start over;
* `pixel_cap_iff` : the calls that keep to the maximum.
-/

namespace DumbBrowser.Canvas

open Machine

/-! ## The pixels that change -/

namespace Call

/-- The pixel that an iteration visits. -/
def place (c : Call) (n : Nat) : Int × Int := (c.xAt n, c.yAt n)

/-- The contents of a pixel. -/
def contents (c : Call) (memory : Memory) (x y : Int) : Nat :=
  load memory c.info.colorType.bytesPerPixel
    (writableAddr c.info.colorType.bytesPerPixel c.fRowBytes x y)

/-- The pixels of the image that have changed. -/
def changedPixels (c : Call) (memory : Memory) : Finset (Nat × Nat) :=
  (Finset.range c.info.width ×ˢ Finset.range c.info.height).filter fun p =>
    c.contents (c.shuffleSubchannelColorData memory) p.1 p.2 ≠ c.contents memory p.1 p.2

/-- The pixel of an iteration stays as it is. -/
def StillAt (c : Call) (memory : Memory) (n : Nat) : Prop :=
  Still c.sk (c.deltasAt n) (c.contents memory (c.xAt n) (c.yAt n)) c.info.colorType

variable {c : Call} {k : PixelCase} {memory : Memory}

theorem cap_eq (htiny : ¬ c.Tiny) : c.cap = min 10 (max 2 ((c.w + c.h) / 128)) := by
  unfold Tiny at htiny
  unfold cap
  rw [Int.tdiv_eq_ediv_of_nonneg (by omega)]
  dsimp only
  split
  · omega
  · split <;> omega

/-- The visited pixels are different until both of the bisections start over. -/
theorem injOn_place_iff (htiny : ¬ c.Tiny) {n : Nat} : Set.InjOn c.place (Set.Iio n) ↔
    n ≤ Nat.lcm (bisections c.w c.draws.bisectX) (bisections c.h c.draws.bisectY) := by
  have hplace : c.place = fun t => (c.draws.bisectX (Walks.walk c.draws.bisectX 0 c.w t),
      c.draws.bisectY (Walks.walk c.draws.bisectY 0 c.h t)) := by
    funext t
    rw [place, xAt_eq_walk, yAt_eq_walk]
  rw [hplace]
  exact Walks.injOn_walks_iff (descends_w htiny) (descends_h htiny)

/-! ## The changed pixels -/

theorem contents_eq (hk : pixelCase c.sk c.info.colorType = some k) (memory : Memory) (x y : Int) :
    c.contents memory x y = load memory k.size (c.addr k x y) := by
  rw [contents, ← size_eq_bytesPerPixel hk]
  rfl

/-- The pixel that an iteration visits, in the image. -/
def visited (c : Call) (n : Nat) : Nat × Nat := ((c.xAt n).toNat, (c.yAt n).toNat)

theorem visited_injOn (htiny : ¬ c.Tiny) {s : Set Nat} : Set.InjOn c.visited s ↔
    Set.InjOn c.place s := by
  have hiff : ∀ n m, c.visited n = c.visited m ↔ c.place n = c.place m := by
    intro n m
    obtain ⟨hx, -, hy, -⟩ := xAt_bounds htiny n
    obtain ⟨hx', -, hy', -⟩ := xAt_bounds htiny m
    simp only [visited, place, Prod.mk.injEq]
    omega
  simp only [Set.InjOn, hiff]

/-- A pixel that is visited once. -/
theorem visits_place (hinj : Set.InjOn c.place (Set.Iio c.iterations)) {n : Nat}
    (hn : n < c.iterations) :
    c.visits (c.xAt n) (c.yAt n) c.iterations = [c.deltasAt n] := by
  have honce : (List.range c.iterations).filter (fun t =>
      decide (c.xAt t = c.xAt n ∧ c.yAt t = c.yAt n)) = [n] := by
    have hsame : ∀ t ∈ List.range c.iterations, decide (c.xAt t = c.xAt n ∧ c.yAt t = c.yAt n) =
        decide (t = n) := by
      intro t ht
      refine decide_eq_decide.2 ⟨fun heq => ?_, fun heq => by rw [heq]; exact ⟨rfl, rfl⟩⟩
      exact hinj (List.mem_range.1 ht) hn (Prod.ext_iff.2 heq)
    rw [List.filter_congr hsame, List.filter_eq,
      List.count_eq_one_of_mem List.nodup_range (List.mem_range.2 hn), List.replicate_one]
  rw [visits, honce, List.map_singleton]

section Changed
variable (hsk : c.sk.Documented) (hk : pixelCase c.sk c.info.colorType = some k) (htiny : ¬ c.Tiny)
include hsk hk htiny

theorem contents_shuffleSubchannelColorData {x y : Int} (hx : 0 ≤ x ∧ x < c.info.width) :
    c.contents (c.shuffleSubchannelColorData memory) x y =
      (c.visits x y c.iterations).foldl (fun v δ => k.shuffle δ v % 256 ^ k.size)
        (c.contents memory x y) := by
  rw [contents_eq hk, contents_eq hk, shuffleSubchannelColorData_eq hk htiny]
  exact load_memoryAt hsk hk htiny hx c.iterations

/-- Only visited pixels have changed. -/
theorem changedPixels_subset (memory : Memory) :
    c.changedPixels memory ⊆ (Finset.range c.iterations).image c.visited := by
  intro p hp
  obtain ⟨hin, hchanged⟩ := Finset.mem_filter.1 hp
  obtain ⟨hx, hy⟩ := Finset.mem_product.1 hin
  by_contra hnot
  refine hchanged ?_
  rw [contents_shuffleSubchannelColorData hsk hk htiny
    ⟨by omega, by exact_mod_cast Finset.mem_range.1 hx⟩]
  have hnone : c.visits p.1 p.2 c.iterations = [] := by
    refine List.eq_nil_iff_forall_not_mem.2 fun δ hδ => hnot ?_
    obtain ⟨n, hn, ⟨hxn, hyn⟩, -⟩ := mem_visits.1 hδ
    refine Finset.mem_image.2 ⟨n, Finset.mem_range.2 hn, ?_⟩
    rw [visited, hxn, hyn]
    rfl
  rw [hnone]
  rfl

/-- A pixel that is visited once has changed if the visit does not leave it as it is. -/
theorem visited_mem_changedPixels (memory : Memory)
    (hinj : Set.InjOn c.place (Set.Iio c.iterations)) {n : Nat} (hn : n < c.iterations) :
    c.visited n ∈ c.changedPixels memory ↔ ¬ c.StillAt memory n := by
  obtain ⟨hx, hxw, hy, hyh⟩ := xAt_bounds htiny n
  have hin : c.visited n ∈ Finset.range c.info.width ×ˢ Finset.range c.info.height := by
    refine Finset.mem_product.2 ⟨Finset.mem_range.2 ?_, Finset.mem_range.2 ?_⟩ <;>
      simp only [visited] <;> omega
  have hpixel : c.contents memory (c.xAt n) (c.yAt n) < 256 ^ k.size :=
    contents_eq hk memory _ _ ▸ load_lt _ _ _
  simp only [changedPixels, Finset.mem_filter, hin, true_and]
  simp only [visited, Int.toNat_of_nonneg hx, Int.toNat_of_nonneg hy]
  rw [contents_shuffleSubchannelColorData hsk hk htiny ⟨hx, hxw⟩, visits_place hinj hn, StillAt,
    ← still_iff hsk hk (deltasAt_bounded htiny n) hpixel]
  rfl

/-- If two iterations visit the same pixel, not as many have changed. -/
theorem changedPixels_card_of_not_injOn (memory : Memory)
    (hinj : ¬ Set.InjOn c.place (Set.Iio c.iterations)) :
    (c.changedPixels memory).card < c.iterations := by
  have hrange : (Finset.range c.iterations : Set Nat) = Set.Iio c.iterations := Finset.coe_range _
  have hne : ((Finset.range c.iterations).image c.visited).card ≠
      (Finset.range c.iterations).card := fun heq =>
    hinj ((visited_injOn htiny).1 (hrange ▸ Finset.card_image_iff.1 heq))
  calc (c.changedPixels memory).card ≤ ((Finset.range c.iterations).image c.visited).card :=
        Finset.card_le_card (changedPixels_subset hsk hk htiny memory)
    _ < (Finset.range c.iterations).card := lt_of_le_of_ne Finset.card_image_le hne
    _ = c.iterations := Finset.card_range _

/-- If all of them are different, as many have changed unless one is left as it is. -/
theorem changedPixels_card_of_injOn (memory : Memory)
    (hinj : Set.InjOn c.place (Set.Iio c.iterations)) :
    (c.changedPixels memory).card < c.iterations ↔ ∃ n < c.iterations, c.StillAt memory n := by
  have hrange : (Finset.range c.iterations : Set Nat) = Set.Iio c.iterations := Finset.coe_range _
  have hcard : ((Finset.range c.iterations).image c.visited).card = c.iterations := by
    rw [Finset.card_image_of_injOn (hrange ▸ (visited_injOn htiny).2 hinj), Finset.card_range]
  have hsubset := changedPixels_subset hsk hk htiny memory
  constructor
  · intro hlt
    by_contra hnever
    have hall : (Finset.range c.iterations).image c.visited ⊆ c.changedPixels memory := by
      intro p hp
      obtain ⟨n, hn, rfl⟩ := Finset.mem_image.1 hp
      exact (visited_mem_changedPixels hsk hk htiny memory hinj (Finset.mem_range.1 hn)).2 fun hstill =>
        hnever ⟨n, Finset.mem_range.1 hn, hstill⟩
    have hle := Finset.card_le_card hall
    omega
  · intro ⟨n, hn, hstill⟩
    have hmissing : c.visited n ∉ c.changedPixels memory := fun hin =>
      (visited_mem_changedPixels hsk hk htiny memory hinj hn).1 hin hstill
    have hssubset : c.changedPixels memory ⊂ (Finset.range c.iterations).image c.visited :=
      Finset.ssubset_iff_of_subset hsubset |>.2
        ⟨c.visited n, Finset.mem_image_of_mem _ (Finset.mem_range.2 hn), hmissing⟩
    exact (Finset.card_lt_card hssubset).trans_eq hcard

end Changed

/-! ## The maximum -/

/-- Two iterations visit the same pixel, or one leaves its pixel as it is. -/
def Spares (c : Call) (memory : Memory) : Prop :=
  (Nat.lcm (bisections c.w c.draws.bisectX) (bisections c.h c.draws.bisectY) : Int) ≤ c.cap ∨
    ∃ n < c.iterations, c.StillAt memory n

theorem changedPixels_card_iff (hsk : c.sk.Documented)
    (hk : pixelCase c.sk c.info.colorType = some k) (htiny : ¬ c.Tiny) :
    (c.changedPixels memory).card < c.iterations ↔ c.Spares memory := by
  have hiterations : (c.iterations : Int) = c.cap + 1 := by
    have hcap := c.cap_bounds
    unfold iterations
    omega
  by_cases hinj : Set.InjOn c.place (Set.Iio c.iterations)
  · have hlcm := (injOn_place_iff htiny).1 hinj
    rw [changedPixels_card_of_injOn hsk hk htiny memory hinj]
    exact ⟨.inr, fun hspares => hspares.resolve_left (by omega)⟩
  · have hlcm := mt (injOn_place_iff htiny).2 hinj
    exact iff_of_true (changedPixels_card_of_not_injOn hsk hk htiny memory hinj) (.inl (by omega))

end Call

/-- **The calls that keep to the maximum of pixels to change.** -/
theorem pixel_cap_iff (c : Call) (hsk : c.sk.Documented) (hw : 8 ≤ c.w)
    (hh : 8 ≤ c.h) (memory : Memory) :
    ((c.changedPixels memory).card : Int) ≤ min 10 (max 2 ((c.w + c.h) / 128)) ↔
    c.Spares memory := by
  have htiny : ¬ c.Tiny := by
    unfold Call.Tiny
    omega
  have hcap := c.cap_bounds
  rw [← Call.cap_eq htiny]
  cases hk : pixelCase c.sk c.info.colorType with
  | none =>
    have hnothing : c.changedPixels memory = ∅ := by
      refine Finset.filter_eq_empty_iff.2 fun p _ => not_not.2 ?_
      rw [Call.shuffleSubchannelColorData_unhandled hk]
    rw [hnothing, Finset.card_empty]
    refine iff_of_true (by omega) (.inr ⟨0, Nat.succ_pos _, still_of_unhandled hk⟩)
  | some k =>
    rw [← Call.changedPixels_card_iff hsk hk htiny, Call.iterations]
    omega

/-- Amounts of zero for blue in the first iteration. -/
theorem pixel_cap_gray : (((smallCall .gray8 0).changedPixels fun _ => 0).card : Int) ≤
    min 10 (max 2 ((8 + 8) / 128)) := by
  refine (pixel_cap_iff (smallCall .gray8 0) (smallCall_documented .gray8 0) (by decide)
    (by decide) fun _ => 0).2
    (.inr ⟨0, by decide, ?_⟩)
  have hamount : ((smallCall .gray8 0).deltasAt 0).shuffleB = 0 := by decide +kernel
  exact List.forall_mem_singleton.2 ⟨hamount, by decide +kernel⟩

/-- Three pixels change, where two may. -/
theorem pixel_cap_exceeded :
    ((smallCall .gray8 1).changedPixels fun _ => 0) = {(4, 4), (2, 2), (1, 1)} ∧
    ¬ (((smallCall .gray8 1).changedPixels fun _ => 0).card : Int) ≤ min 10
    (max 2 ((8 + 8) / 128)) := by
  have hafter : (smallCall .gray8 1).shuffleSubchannelColorData (fun _ => 0) =
      (smallCall .gray8 1).memoryAt ⟨1, shuffleGray8⟩ (fun _ => 0) 3 :=
    Call.shuffleSubchannelColorData_eq rfl (smallCall_not_tiny .gray8 1)
  have hchanged : ((smallCall .gray8 1).changedPixels fun _ => 0) = {(4, 4), (2, 2), (1, 1)} := by
    unfold Call.changedPixels
    rw [hafter]
    decide +kernel
  refine ⟨hchanged, ?_⟩
  rw [hchanged]
  decide

end DumbBrowser.Canvas
