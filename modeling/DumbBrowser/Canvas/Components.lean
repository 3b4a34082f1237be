import DumbBrowser.Canvas.Visits

/-!
# The components of a pixel

A pixel as its colour components, each in bits of its own, and what an iteration should make of
them.

* `shuffled_channel` : with room for every component, each gets what the macro makes of it;
* `noise_clean_iff` : the iterations that corrupt no pixel.
-/

namespace DumbBrowser.Canvas

open Machine

/-! ## Channels -/

/-- A colour component: where it is stored, how the code reads it, and what the macro is given. -/
structure Channel where
  shift : Nat
  bits : Nat
  max : Nat
  read : Nat → Nat
  delta : Deltas → Nat

namespace Channel

variable (ch : Channel)

def stored (pixel : Nat) : Nat := field ch.shift ch.bits pixel

def shuffled (δ : Deltas) (pixel : Nat) : Nat :=
  shuffleComponent (ch.read (ch.stored pixel)) ch.max (ch.delta δ)

end Channel

/-- The components of the colour types that the noise is meant for. -/
def channels (sk : Skia) : ColorType → List Channel
  | .gray8 => [⟨0, 8, uint8Max - 1, id, Deltas.shuffleB⟩]
  | .rgb565 => [⟨11, 5, 31, expand5, Deltas.shuffleR⟩, ⟨5, 6, 63, expand6, Deltas.shuffleG⟩,
      ⟨0, 5, 31, expand5, Deltas.shuffleB⟩]
  | .argb4444 =>
    [⟨12, 4, 15, id, Deltas.shuffleR⟩, ⟨8, 4, 15, id, Deltas.shuffleG⟩,
      ⟨4, 4, 15, id, Deltas.shuffleB⟩]
  | .rgba8888 =>
    [⟨sk.r32Shift, 8, uint8Max - 1, id, Deltas.shuffleR⟩, ⟨8, 8, uint8Max - 1, id, Deltas.shuffleG⟩,
      ⟨sk.b32Shift, 8, uint8Max - 1, id, Deltas.shuffleB⟩]
  | .alpha8 | .bgra8888 | .other _ => []

def alpha : ColorType → Nat → Nat
  | .argb4444, pixel => field 0 4 pixel
  | .rgba8888, pixel => field 24 8 pixel
  | .alpha8, _ | .gray8, _ | .rgb565, _ | .bgra8888, _ | .other _, _ => 0

inductive Noisy : ColorType → Prop
  | gray8 : Noisy .gray8
  | rgb565 : Noisy .rgb565
  | argb4444 : Noisy .argb4444
  | rgba8888 : Noisy .rgba8888

/-- A component of so many bits has room for an amount. -/
def RoomFor (bits old delta : Nat) : Prop :=
  match bits with
  | 8 => 254 ≤ old ∨ old + delta ≤ 255
  | 6 => 3 * old + delta ≤ 5 ∨ 58 ≤ old + delta
  | 5 => 7 * old + delta ≤ 5 ∨ 26 ≤ old + delta
  | _ => old = 15 ∨ old + delta ≤ 15

/-- A component is in its range, is what the macro has made of it, and is near to what it was. -/
structure Channel.Clean (ch : Channel) (δ : Deltas) (old new : Nat) : Prop where
  range : ch.shuffled δ old < 2 ^ ch.bits
  stored : ch.stored new = ch.shuffled δ old
  near : ch.stored new ≤ ch.stored old + 5 ∧ ch.stored old ≤ ch.stored new + 5

/-- An iteration that corrupts no pixel. -/
structure Call.Clean (c : Call) (k : PixelCase) (s : LoopState) (memory' : Memory) : Prop where
  /-- Nothing but the visited pixel changes. -/
  others : ∀ b, b < c.pixelAddr k s ∨ c.pixelAddr k s + k.size ≤ b → memory' b = s.memory b
  components : ∀ ch ∈ channels c.sk c.info.colorType,
    ch.Clean (c.deltas s) (load s.memory k.size (c.pixelAddr k s))
      (load memory' k.size (c.pixelAddr k s))
  alpha : ∀ x y : Int, 0 ≤ x → x < c.info.width → 0 ≤ y → y < c.info.height →
    alpha c.info.colorType (load memory' k.size (c.addr k x y)) =
      alpha c.info.colorType (load s.memory k.size (c.addr k x y))

/-- The visited pixel has room for the amounts. -/
def Call.Room (c : Call) (k : PixelCase) (s : LoopState) : Prop :=
  ∀ ch ∈ channels c.sk c.info.colorType,
    RoomFor ch.bits (ch.stored (load s.memory k.size (c.pixelAddr k s))) (ch.delta (c.deltas s))

/-- What a pixel is packed of: its alpha, and a value for each component. -/
def alphaPieces (pixel : Nat) : ColorType → List Piece
  | .argb4444 => [⟨0, 4, field 0 4 pixel⟩]
  | .rgba8888 => [⟨24, 8, field 24 8 pixel⟩]
  | .alpha8 | .gray8 | .rgb565 | .bgra8888 | .other _ => []

def pieces (sk : Skia) (ct : ColorType) (pixel : Nat) (value : Channel → Nat) : List Piece :=
  alphaPieces pixel ct ++ (channels sk ct).map fun ch => ⟨ch.shift, ch.bits, value ch⟩

/-! ## Amounts -/

structure Deltas.Bounded (δ : Deltas) : Prop where
  shuffleR : δ.shuffleR ≤ 4
  shuffleG : δ.shuffleG ≤ 3
  shuffleB : δ.shuffleB ≤ 3

theorem toUint8_tmod_le {n : Int} (hn : 0 ≤ n) : toUint8 (n.tmod 4) ≤ 3 := by
  unfold toUint8
  rw [Int.tmod_eq_emod_of_nonneg hn]
  omega

theorem Call.Extents.deltas_bounded {c : Call} {s : LoopState} (he : c.Extents s) :
    (c.deltas s).Bounded := by
  obtain ⟨hx, -⟩ := he.x_bounds
  obtain ⟨hy, -⟩ := he.y_bounds
  refine ⟨?_, toUint8_tmod_le (by omega), toUint8_tmod_le (by omega)⟩
  have hdrawn := (c.draws.shuffleR s.drawn).isLt
  simp only [deltas]
  omega

/-! ## The arithmetic of a component -/

theorem expand5_eq : ∀ {old}, old < 32 → expand5 old = 8 * old + old / 4 := by decide

theorem expand6_eq : ∀ {old}, old < 64 → expand6 old = 4 * old + old / 16 := by decide

theorem shuffleComponent_eq (color max delta : Nat) :
    max ≤ color ∧ shuffleComponent color max delta = max - delta ∨
      color < max ∧ shuffleComponent color max delta = color + delta := by
  unfold shuffleComponent
  by_cases h : color ≥ max
  · rw [if_pos h]
    exact .inl ⟨h, rfl⟩
  · rw [if_neg h]
    exact .inr ⟨by omega, rfl⟩

/-- What the macro makes of a component is in its range and near to it. -/
def Sound (ch : Channel) (old delta : Nat) : Prop :=
  shuffleComponent (ch.read old) ch.max delta < 2 ^ ch.bits ∧
    shuffleComponent (ch.read old) ch.max delta ≤ old + 5 ∧
      old ≤ shuffleComponent (ch.read old) ch.max delta + 5

section Arithmetic
variable {old delta shift : Nat} {field : Deltas → Nat}

theorem roomFor_eight (hdelta : delta ≤ 4) (hold : old < 2 ^ 8) :
    RoomFor 8 old delta ↔ Sound ⟨shift, 8, uint8Max - 1, id, field⟩ old delta := by
  simp only [RoomFor, Sound, uint8Max, id]
  rcases shuffleComponent_eq old (255 - 1) delta with ⟨hmax, heq⟩ |
    ⟨hmax, heq⟩ <;> rw [heq] <;> omega

theorem roomFor_four (hdelta : delta ≤ 4) (hold : old < 2 ^ 4) :
    RoomFor 4 old delta ↔ Sound ⟨shift, 4, 15, id, field⟩ old delta := by
  simp only [RoomFor, Sound, id]
  rcases shuffleComponent_eq old 15 delta with ⟨hmax, heq⟩ | ⟨hmax, heq⟩ <;> rw [heq] <;> omega

/-- The macro is given the expanded component, and the bound of the stored one. -/
theorem roomFor_five (hdelta : delta ≤ 4) (hold : old < 2 ^ 5) :
    RoomFor 5 old delta ↔ Sound ⟨shift, 5, 31, expand5, field⟩ old delta := by
  have hread := expand5_eq hold
  simp only [RoomFor, Sound]
  rcases shuffleComponent_eq (expand5 old) 31 delta with ⟨hmax, heq⟩ |
    ⟨hmax, heq⟩ <;> rw [heq] <;> omega

theorem roomFor_six (hdelta : delta ≤ 3) (hold : old < 2 ^ 6) :
    RoomFor 6 old delta ↔ Sound ⟨shift, 6, 63, expand6, field⟩ old delta := by
  have hread := expand6_eq hold
  simp only [RoomFor, Sound]
  rcases shuffleComponent_eq (expand6 old) 63 delta with ⟨hmax, heq⟩ |
    ⟨hmax, heq⟩ <;> rw [heq] <;> omega

end Arithmetic

/-! ## The cases of the switch -/

section Switch
variable {sk : Skia} {δ : Deltas} {pixel : Nat}

theorem roomFor_channel (hδ : δ.Bounded) {ct : ColorType} {ch : Channel}
    (hch : ch ∈ channels sk ct) (pixel : Nat) :
    RoomFor ch.bits (ch.stored pixel) (ch.delta δ) ↔ Sound ch (ch.stored pixel) (ch.delta δ) := by
  have hR := hδ.shuffleR
  have hG := hδ.shuffleG
  have hB := hδ.shuffleB
  cases ct with
  | gray8 =>
    simp only [channels, List.mem_singleton] at hch
    subst hch
    exact roomFor_eight (by simp only; omega) (field_lt _ _ _)
  | rgb565 =>
    simp only [channels, List.mem_cons, List.not_mem_nil, or_false] at hch
    rcases hch with rfl | rfl | rfl
    · exact roomFor_five hR (field_lt _ _ _)
    · exact roomFor_six hG (field_lt _ _ _)
    · exact roomFor_five (by simp only; omega) (field_lt _ _ _)
  | argb4444 =>
    simp only [channels, List.mem_cons, List.not_mem_nil, or_false] at hch
    rcases hch with rfl | rfl | rfl <;> exact roomFor_four (by simp only; omega) (field_lt _ _ _)
  | rgba8888 =>
    simp only [channels, List.mem_cons, List.not_mem_nil, or_false] at hch
    rcases hch with rfl | rfl | rfl <;> exact roomFor_eight (by simp only; omega) (field_lt _ _ _)
  | alpha8 => simp [channels] at hch
  | bgra8888 => simp [channels] at hch
  | other bytesPerPixel => simp [channels] at hch

theorem and_fifteen (v : Nat) : v &&& 0xF = v % 2 ^ 4 := Nat.and_two_pow_sub_one_eq_mod v 4

theorem and_thirty_one (v : Nat) : v &&& 31 = v % 2 ^ 5 := Nat.and_two_pow_sub_one_eq_mod v 5

theorem and_sixty_three (v : Nat) : v &&& 63 = v % 2 ^ 6 := Nat.and_two_pow_sub_one_eq_mod v 6

/-- The colour types whose components are cut off, so that none is carried into another. -/
inductive CutOff : ColorType → Prop
  | gray8 : CutOff .gray8
  | rgb565 : CutOff .rgb565
  | argb4444 : CutOff .argb4444

theorem Noisy.cutOff_or {ct : ColorType} (hct : Noisy ct) : CutOff ct ∨ ct = .rgba8888 := by
  cases hct with
  | gray8 => exact .inl .gray8
  | rgb565 => exact .inl .rgb565
  | argb4444 => exact .inl .argb4444
  | rgba8888 => exact .inr rfl

theorem shuffle_cutOff (hsk : sk.Documented) {ct : ColorType} (hct : CutOff ct) {k : PixelCase}
    (hk : pixelCase sk ct = some k) (hpixel : pixel < 256 ^ k.size) :
    k.shuffle δ pixel % 256 ^ k.size =
      pack (pieces sk ct pixel fun ch => ch.shuffled δ pixel % 2 ^ ch.bits) % 256 ^ k.size := by
  cases hct with
  | gray8 =>
    cases hk
    have hstored : field 0 8 pixel = pixel := Nat.mod_eq_of_lt hpixel
    simp only [pieces, alphaPieces, channels, List.map_cons, List.map_nil, List.nil_append,
      pack, Channel.shuffled,
      Channel.stored, hstored, id, Nat.shiftLeft_zero, Nat.or_zero]
    exact (Nat.mod_mod _ _).symm
  | rgb565 =>
    cases hk
    obtain ⟨hmR, hmG, hmB⟩ := hsk.masks16
    obtain ⟨hR, hG, hB⟩ := hsk.shifts16
    simp only [shuffle565, hsk.packed16ToR32, hsk.packed16ToG32, hsk.packed16ToB32, hmR,
      hmG, hmB, hR, hG, hB,
      and_thirty_one, and_sixty_three]
    simp only [pieces, alphaPieces, channels, List.map_cons, List.map_nil, List.nil_append,
      pack, Channel.shuffled,
      Channel.stored, Nat.or_zero]
    rw [Nat.or_assoc]
  | argb4444 =>
    cases hk
    obtain ⟨hA, hR, hG, hB⟩ := hsk.shifts4444
    have halpha : field 0 4 pixel % 2 ^ 4 = field 0 4 pixel := Nat.mod_eq_of_lt (field_lt 0 4 pixel)
    simp only [shuffle4444, hsk.getPackedA4444, hsk.getPackedR4444, hsk.getPackedG4444,
      hsk.getPackedB4444, hA, hR, hG,
      hB, and_fifteen, halpha]
    simp only [pieces, alphaPieces, channels, List.map_cons, List.map_nil,
      List.singleton_append, pack,
      Channel.shuffled, Channel.stored, id, Nat.or_zero]
    congr 1
    ac_rfl

theorem shuffleRgba_eq_pack (hsk : sk.Documented) :
    shuffleRgba sk δ pixel = pack (pieces sk .rgba8888 pixel fun ch => ch.shuffled δ pixel) := by
  obtain ⟨hA, hG⟩ := hsk.shifts32
  simp only [shuffleRgba, hsk.getPackedA32, hsk.getPackedR32, hsk.getPackedG32,
    hsk.getPackedB32, hA, hG]
  simp only [pieces, alphaPieces, channels, List.map_cons, List.map_nil, List.singleton_append,
    pack, Channel.shuffled,
    Channel.stored, id, Nat.or_zero]
  rw [Nat.or_assoc, Nat.or_assoc]

/-! ### Reading the pieces -/

section Pieces
variable {ct : ColorType} {k : PixelCase} {value : Channel → Nat}

theorem pieces_apart (hsk : sk.Documented) (ct : ColorType) :
    (pieces sk ct pixel value).Pairwise Piece.Apart := by
  cases ct with
  | rgba8888 =>
    rcases hsk.native with ⟨hr, hb⟩ | ⟨hr, hb⟩ <;>
      simp [pieces, alphaPieces, channels, Piece.Apart, hr, hb]
  | _ => simp [pieces, alphaPieces, channels, Piece.Apart]

theorem pieces_fit (hvalue : ∀ ch ∈ channels sk ct, value ch < 2 ^ ch.bits) :
    ∀ p ∈ pieces sk ct pixel value, p.value < 2 ^ p.bits := by
  intro p hp
  rcases List.mem_append.1 hp with halpha | hchannel
  · cases ct <;> simp only [alphaPieces, List.mem_singleton, List.not_mem_nil] at halpha
    · exact halpha ▸ field_lt _ _ _
    · exact halpha ▸ field_lt _ _ _
  · obtain ⟨ch, hch, rfl⟩ := List.mem_map.1 hchannel
    exact hvalue ch hch

theorem pieces_within (hsk : sk.Documented) (hk : pixelCase sk ct = some k) :
    ∀ p ∈ pieces sk ct pixel value, p.shift + p.bits ≤ 8 * k.size := by
  cases ct with
  | rgba8888 =>
    cases hk
    rcases hsk.native with ⟨hr, hb⟩ | ⟨hr, hb⟩ <;> simp [pieces, alphaPieces, channels, hr, hb]
  | other bytesPerPixel => cases hk
  | _ =>
    cases hk
    simp [pieces, alphaPieces, channels]

/-- Each piece of a pixel can be read from its bits. -/
theorem field_pieces (hsk : sk.Documented) (hk : pixelCase sk ct = some k)
    (hvalue : ∀ ch ∈ channels sk ct, value ch < 2 ^ ch.bits) {word : Nat}
    (hword : word % 256 ^ k.size = pack (pieces sk ct pixel value) % 256 ^ k.size) {p : Piece}
    (hp : p ∈ pieces sk ct pixel value) : field p.shift p.bits (word % 256 ^ k.size) = p.value := by
  have hsize : 256 ^ k.size = 2 ^ (8 * k.size) := by
    rw [pow_mul]
    rfl
  rw [hword, hsize, field_mod (pieces_within hsk hk p hp)]
  exact field_pack (pieces_fit hvalue) (pieces_apart hsk ct) hp

/-- With room for each component, the pixel holds what the macro has made of them. -/
theorem shuffle_eq_pack (hsk : sk.Documented) (hct : Noisy ct) (hk : pixelCase sk ct = some k)
    (hrange : ∀ ch ∈ channels sk ct, ch.shuffled δ pixel < 2 ^ ch.bits)
    (hpixel : pixel < 256 ^ k.size) :
    k.shuffle δ pixel % 256 ^ k.size = pack
    (pieces sk ct pixel fun ch => ch.shuffled δ pixel) % 256 ^ k.size := by
  rcases hct.cutOff_or with hcut | rfl
  · have hsame : pieces sk ct pixel (fun ch => ch.shuffled δ pixel % 2 ^ ch.bits) =
        pieces sk ct pixel fun ch => ch.shuffled δ pixel := by
      refine congrArg (alphaPieces pixel ct ++ ·) (List.map_congr_left fun ch hch => ?_)
      exact congrArg (Piece.mk ch.shift ch.bits) (Nat.mod_eq_of_lt (hrange ch hch))
    rw [shuffle_cutOff hsk hcut hk hpixel, hsame]
  · cases hk
    rw [← shuffleRgba_eq_pack hsk]

theorem field_shuffle (hsk : sk.Documented) (hct : Noisy ct) (hk : pixelCase sk ct = some k)
    (hrange : ∀ ch ∈ channels sk ct, ch.shuffled δ pixel < 2 ^ ch.bits)
    (hpixel : pixel < 256 ^ k.size) {p : Piece}
    (hp : p ∈ pieces sk ct pixel fun ch => ch.shuffled δ pixel) :
    field p.shift p.bits (k.shuffle δ pixel % 256 ^ k.size) = p.value :=
  field_pieces hsk hk hrange (shuffle_eq_pack hsk hct hk hrange hpixel) hp

theorem field_cutOff (hsk : sk.Documented) (hct : CutOff ct) (hk : pixelCase sk ct = some k)
    (hpixel : pixel < 256 ^ k.size) {p : Piece}
    (hp : p ∈ pieces sk ct pixel fun ch => ch.shuffled δ pixel % 2 ^ ch.bits) :
    field p.shift p.bits (k.shuffle δ pixel % 256 ^ k.size) = p.value :=
  field_pieces hsk hk (fun _ _ => Nat.mod_lt _ (Nat.two_pow_pos _))
    (shuffle_cutOff hsk hct hk hpixel) hp

end Pieces

/-- The alpha is a piece of its own. -/
theorem alpha_eq_field {ct : ColorType} {word : Nat}
    (hpieces : ∀ p ∈ alphaPieces pixel ct, field p.shift p.bits word = p.value) :
    alpha ct word = alpha ct pixel := by
  cases ct with
  | argb4444 => exact hpieces _ List.mem_cons_self
  | rgba8888 => exact hpieces _ List.mem_cons_self
  | _ => rfl

end Switch

/-! ## Every iteration -/

section Iterations
variable {c : Call} {k : PixelCase} {s : LoopState} {memory memory' : Memory}

/-- The visited pixel after the iteration. -/
theorem Call.load_shufflePixel (hk : pixelCase c.sk c.info.colorType = some k)
    (hs : c.shufflePixel s = some memory') : load memory' k.size (c.pixelAddr k s) =
      k.shuffle (c.deltas s) (load s.memory k.size (c.pixelAddr k s)) % 256 ^ k.size := by
  obtain ⟨k', hk', rfl⟩ := shufflePixel_eq_some hs
  obtain rfl := Option.some.inj (hk'.symm.trans hk)
  exact load_store _ _ _ _

theorem Call.Room.clean (hroom : c.Room k s) (hsk : c.sk.Documented) (hct : Noisy c.info.colorType)
    (hk : pixelCase c.sk c.info.colorType = some k) (hr : c.Run memory s)
    (hs : c.shufflePixel s = some memory') :
    c.Clean k s memory' := by
  have hδ := hr.extents.deltas_bounded
  have hsound : ∀ ch ∈ channels c.sk c.info.colorType,
      Sound ch (ch.stored (load s.memory k.size (c.pixelAddr k s))) (ch.delta (c.deltas s)) :=
    fun ch hch => (roomFor_channel hδ hch _).1 (hroom ch hch)
  have hrange : ∀ ch ∈ channels c.sk c.info.colorType,
      ch.shuffled (c.deltas s) (load s.memory k.size (c.pixelAddr k s)) < 2 ^ ch.bits :=
        fun ch hch => (hsound ch hch).1
  have hpixel := load_lt s.memory k.size (c.pixelAddr k s)
  have hframe := ((hr.inside hsk).writes k memory' hk hs).2.2
  refine ⟨hframe, fun ch hch => ?_, fun x y hx hxw hy hyh => ?_⟩
  · have hstored : ch.stored (load memory' k.size (c.pixelAddr k s)) =
        ch.shuffled (c.deltas s) (load s.memory k.size (c.pixelAddr k s)) := by
      rw [load_shufflePixel hk hs]
      exact field_shuffle hsk hct hk hrange hpixel
        (List.mem_append_right _ (List.mem_map_of_mem hch))
    exact ⟨hrange ch hch, hstored, hstored ▸ (hsound ch hch).2⟩
  · by_cases hvisit : c.x s = x ∧ c.y s = y
    · obtain ⟨rfl, rfl⟩ := hvisit
      change alpha _ (load memory' k.size (c.pixelAddr k s)) = alpha _
        (load s.memory k.size (c.pixelAddr k s))
      rw [load_shufflePixel hk hs]
      exact alpha_eq_field fun p hp =>
        field_shuffle hsk hct hk hrange hpixel (List.mem_append_left _ hp)
    · obtain ⟨hxs, hxsw⟩ := hr.extents.x_bounds
      have hwidth := hr.extents.currentW_le
      unfold Call.w at hwidth
      have hapart := Call.addr_disjoint hsk hk ⟨hx, hxw⟩ ⟨hxs, by omega⟩ hvisit
      exact congrArg (alpha _) (load_congr fun b hb hb' => hframe b (by
        change b < c.addr k (c.x s) (c.y s) ∨ c.addr k (c.x s) (c.y s) + k.size ≤ b
        omega))

theorem Call.Clean.room (hclean : c.Clean k s memory') (hr : c.Run memory s) : c.Room k s := by
  intro ch hch
  obtain ⟨hrange, hstored, hnear⟩ := hclean.components ch hch
  rw [hstored] at hnear
  exact (roomFor_channel hr.extents.deltas_bounded hch _).2 ⟨hrange, hnear⟩

end Iterations

/-- **The iterations that corrupt no pixel.** -/
theorem noise_clean_iff (c : Call) (hsk : c.sk.Documented)
    (hct : Noisy c.info.colorType) {k : PixelCase} (hk : pixelCase c.sk c.info.colorType = some k)
    {memory memory' : Memory} {s : LoopState} (hr : c.Run memory s)
    (hs : c.shufflePixel s = some memory') : c.Clean k s memory' ↔ c.Room k s :=
  ⟨fun hclean => hclean.room hr, fun hroom => hroom.clean hsk hct hk hr hs⟩

/-- The first iteration on a black image. -/
theorem noise_clean_black : ∃ memory',
    (smallCall .rgba8888 4).shufflePixel ((smallCall .rgba8888 4).start fun _ => 0) =
      some memory' ∧ (smallCall .rgba8888 4).Clean ⟨4, shuffleRgba (skiaOf 0 16)⟩
        ((smallCall .rgba8888 4).start fun _ => 0) memory' := by
  refine ⟨_, rfl, (noise_clean_iff _ (smallCall_documented .rgba8888 4) .rgba8888 rfl
    (.start (smallCall_not_tiny .rgba8888 4)) rfl).2 ?_⟩
  refine List.forall_mem_cons.2 ⟨Or.inr ?_,
    List.forall_mem_cons.2 ⟨Or.inr ?_, List.forall_mem_singleton.2 (Or.inr ?_)⟩⟩
  · decide +kernel
  · decide +kernel
  · decide +kernel

/-- A red component of 252 and the amount 4: it wraps to 0, and carries a bit into green. -/
theorem noise_carries : ∃ memory',
    (smallCall .rgba8888 4).shufflePixel ((smallCall .rgba8888 4).start fun _ => 252) =
      some memory' ∧
    load memory' 4 144 = 0xFCFCFD00 ∧
    ¬ (smallCall .rgba8888 4).Clean ⟨4, shuffleRgba (skiaOf 0 16)⟩
    ((smallCall .rgba8888 4).start fun _ => 252)
      memory' := by
  refine ⟨_, rfl, by decide +kernel, fun hclean => ?_⟩
  have hroom := hclean.room (.start (smallCall_not_tiny .rgba8888 4))
  have hred : RoomFor 8 252 4 := hroom _ List.mem_cons_self
  have hmax : ¬ (254 ≤ 252 ∨ 252 + 4 ≤ 255) := by omega
  exact hmax hred

end DumbBrowser.Canvas
