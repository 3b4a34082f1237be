import DumbBrowser.Lib.Memory
import DumbBrowser.Lib.Rounding

/-!
# Canvas noise

`StaticBitmapImage::ShuffleSubchannelColorData`. Addresses are relative to `addr`, and no sum or
product overflows: the dimensions of a Skia image are far below the range of `int`.

* `Skia` : the macros and constants of Skia that the code uses, and `Documented`, what they are
  documented to be;
* `Arithmetic` : the products of the code are rounded to doubles; `exact` is without the rounding;
* `Call` : the arguments of a call and what is drawn in it; `Call.Run` : the states at the head of
  its loop.
-/

namespace DumbBrowser.Canvas

open Machine

/-! ## Images -/

inductive ColorType where
  | alpha8 | gray8 | rgb565 | argb4444 | rgba8888 | bgra8888
  | other (bytesPerPixel : Nat)
deriving DecidableEq, Repr

def ColorType.bytesPerPixel : ColorType → Nat
  | alpha8 | gray8 => 1
  | rgb565 | argb4444 => 2
  | rgba8888 | bgra8888 => 4
  | other bytesPerPixel => bytesPerPixel

structure ImageInfo where
  width : Nat
  height : Nat
  colorType : ColorType
deriving DecidableEq, Repr

structure Skia where
  minRowBytes : ImageInfo → Nat
  colorGetA : Nat → Nat
  colorGetR : Nat → Nat
  colorGetG : Nat → Nat
  colorGetB : Nat → Nat
  colorSetARGB : Nat → Nat → Nat → Nat → Nat
  packed16ToR32 : Nat → Nat
  packed16ToG32 : Nat → Nat
  packed16ToB32 : Nat → Nat
  r16Mask : Nat
  g16Mask : Nat
  b16Mask : Nat
  r16Shift : Nat
  g16Shift : Nat
  b16Shift : Nat
  getPackedA4444 : Nat → Nat
  getPackedR4444 : Nat → Nat
  getPackedG4444 : Nat → Nat
  getPackedB4444 : Nat → Nat
  a4444Shift : Nat
  r4444Shift : Nat
  g4444Shift : Nat
  b4444Shift : Nat
  getPackedA32 : Nat → Nat
  getPackedR32 : Nat → Nat
  getPackedG32 : Nat → Nat
  getPackedB32 : Nat → Nat
  a32Shift : Nat
  r32Shift : Nat
  g32Shift : Nat
  b32Shift : Nat
  bgraA32Shift : Nat
  bgraR32Shift : Nat
  bgraG32Shift : Nat
  bgraB32Shift : Nat

/-- A component of five or six bits, expanded to eight. -/
def expand5 (c : Nat) : Nat := (c <<< 3) ||| (c >>> 2)

def expand6 (c : Nat) : Nat := (c <<< 2) ||| (c >>> 4)

/-- What Skia is documented to be; it can be built with either native order of red and blue. -/
structure Skia.Documented (sk : Skia) : Prop where
  minRowBytes : ∀ info, sk.minRowBytes info = info.width * info.colorType.bytesPerPixel
  colorGetA : ∀ c, sk.colorGetA c = field 24 8 c
  colorGetR : ∀ c, sk.colorGetR c = field 16 8 c
  colorGetG : ∀ c, sk.colorGetG c = field 8 8 c
  colorGetB : ∀ c, sk.colorGetB c = field 0 8 c
  colorSetARGB : ∀ a r g b, sk.colorSetARGB a r g b = (a <<< 24) ||| (r <<< 16) ||| (g <<< 8) ||| b
  packed16ToR32 : ∀ c, sk.packed16ToR32 c = expand5 (field 11 5 c)
  packed16ToG32 : ∀ c, sk.packed16ToG32 c = expand6 (field 5 6 c)
  packed16ToB32 : ∀ c, sk.packed16ToB32 c = expand5 (field 0 5 c)
  masks16 : sk.r16Mask = 31 ∧ sk.g16Mask = 63 ∧ sk.b16Mask = 31
  shifts16 : sk.r16Shift = 11 ∧ sk.g16Shift = 5 ∧ sk.b16Shift = 0
  getPackedA4444 : ∀ c, sk.getPackedA4444 c = field 0 4 c
  getPackedR4444 : ∀ c, sk.getPackedR4444 c = field 12 4 c
  getPackedG4444 : ∀ c, sk.getPackedG4444 c = field 8 4 c
  getPackedB4444 : ∀ c, sk.getPackedB4444 c = field 4 4 c
  shifts4444 : sk.a4444Shift = 0 ∧ sk.r4444Shift = 12 ∧ sk.g4444Shift = 8 ∧ sk.b4444Shift = 4
  getPackedA32 : ∀ c, sk.getPackedA32 c = field 24 8 c
  getPackedR32 : ∀ c, sk.getPackedR32 c = field sk.r32Shift 8 c
  getPackedG32 : ∀ c, sk.getPackedG32 c = field 8 8 c
  getPackedB32 : ∀ c, sk.getPackedB32 c = field sk.b32Shift 8 c
  shifts32 : sk.a32Shift = 24 ∧ sk.g32Shift = 8
  native : sk.r32Shift = 0 ∧ sk.b32Shift = 16 ∨ sk.r32Shift = 16 ∧ sk.b32Shift = 0
  shiftsBgra : sk.bgraA32Shift = 24 ∧ sk.bgraR32Shift = 16 ∧
    sk.bgraG32Shift = 8 ∧ sk.bgraB32Shift = 0

/-- Skia with a native order of red and blue. -/
def skiaOf (r32Shift b32Shift : Nat) : Skia where
  minRowBytes info := info.width * info.colorType.bytesPerPixel
  colorGetA := field 24 8
  colorGetR := field 16 8
  colorGetG := field 8 8
  colorGetB := field 0 8
  colorSetARGB a r g b := (a <<< 24) ||| (r <<< 16) ||| (g <<< 8) ||| b
  packed16ToR32 c := expand5 (field 11 5 c)
  packed16ToG32 c := expand6 (field 5 6 c)
  packed16ToB32 c := expand5 (field 0 5 c)
  r16Mask := 31
  g16Mask := 63
  b16Mask := 31
  r16Shift := 11
  g16Shift := 5
  b16Shift := 0
  getPackedA4444 := field 0 4
  getPackedR4444 := field 12 4
  getPackedG4444 := field 8 4
  getPackedB4444 := field 4 4
  a4444Shift := 0
  r4444Shift := 12
  g4444Shift := 8
  b4444Shift := 4
  getPackedA32 := field 24 8
  getPackedR32 := field r32Shift 8
  getPackedG32 := field 8 8
  getPackedB32 := field b32Shift 8
  a32Shift := 24
  r32Shift := r32Shift
  g32Shift := 8
  b32Shift := b32Shift
  bgraA32Shift := 24
  bgraR32Shift := 16
  bgraG32Shift := 8
  bgraB32Shift := 0

theorem skiaOf_documented {r32Shift b32Shift : Nat}
    (h : r32Shift = 0 ∧ b32Shift = 16 ∨ r32Shift = 16 ∧ b32Shift = 0) :
    (skiaOf r32Shift b32Shift).Documented where
  minRowBytes _ := rfl
  colorGetA _ := rfl
  colorGetR _ := rfl
  colorGetG _ := rfl
  colorGetB _ := rfl
  colorSetARGB _ _ _ _ := rfl
  packed16ToR32 _ := rfl
  packed16ToG32 _ := rfl
  packed16ToB32 _ := rfl
  masks16 := ⟨rfl, rfl, rfl⟩
  shifts16 := ⟨rfl, rfl, rfl⟩
  getPackedA4444 _ := rfl
  getPackedR4444 _ := rfl
  getPackedG4444 _ := rfl
  getPackedB4444 _ := rfl
  shifts4444 := ⟨rfl, rfl, rfl, rfl⟩
  getPackedA32 _ := rfl
  getPackedR32 _ := rfl
  getPackedG32 _ := rfl
  getPackedB32 _ := rfl
  shifts32 := ⟨rfl, rfl⟩
  native := h
  shiftsBgra := ⟨rfl, rfl, rfl, rfl⟩

/-! ## Pixels -/

def uint8Max : Nat := 255

/-- The macro `shuffleComponent`. -/
def shuffleComponent (color max delta : Nat) : Nat :=
  if color ≥ max then max - delta else color + delta

/-- The macro `writable_addr`, where `size` is `sizeof(T)`. -/
def writableAddr (size stride : Nat) (x y : Int) : Int := y * stride + x * size

/-- The randomisation amounts of an iteration. -/
structure Deltas where
  shuffleR : Nat
  shuffleG : Nat
  shuffleB : Nat
deriving DecidableEq, Repr

section Cases
variable (sk : Skia) (δ : Deltas) (pixel : Nat)

def shuffleAlpha8 : Nat :=
  let r := shuffleComponent (sk.colorGetR pixel) (uint8Max - 1) δ.shuffleR
  let g := shuffleComponent (sk.colorGetG pixel) (uint8Max - 1) δ.shuffleG
  let b := shuffleComponent (sk.colorGetB pixel) (uint8Max - 1) δ.shuffleB
  sk.colorSetARGB (sk.colorGetA pixel) r g b

def shuffleGray8 : Nat := shuffleComponent pixel (uint8Max - 1) δ.shuffleB

def shuffle565 : Nat :=
  let r := shuffleComponent (sk.packed16ToR32 pixel) 31 δ.shuffleR
  let g := shuffleComponent (sk.packed16ToG32 pixel) 63 δ.shuffleG
  let b := shuffleComponent (sk.packed16ToB32 pixel) 31 δ.shuffleB
  ((r &&& sk.r16Mask) <<< sk.r16Shift) ||| ((g &&& sk.g16Mask) <<< sk.g16Shift) |||
    ((b &&& sk.b16Mask) <<< sk.b16Shift)

def shuffle4444 : Nat :=
  let r := shuffleComponent (sk.getPackedR4444 pixel) 15 δ.shuffleR
  let g := shuffleComponent (sk.getPackedG4444 pixel) 15 δ.shuffleG
  let b := shuffleComponent (sk.getPackedB4444 pixel) 15 δ.shuffleB
  ((r &&& 0xF) <<< sk.r4444Shift) ||| ((b &&& 0xF) <<< sk.b4444Shift) |||
    ((g &&& 0xF) <<< sk.g4444Shift) |||
    ((sk.getPackedA4444 pixel &&& 0xF) <<< sk.a4444Shift)

def shuffleRgba : Nat :=
  let r := shuffleComponent (sk.getPackedR32 pixel) (uint8Max - 1) δ.shuffleR
  let g := shuffleComponent (sk.getPackedG32 pixel) (uint8Max - 1) δ.shuffleG
  let b := shuffleComponent (sk.getPackedB32 pixel) (uint8Max - 1) δ.shuffleB
  (sk.getPackedA32 pixel <<< sk.a32Shift) ||| (r <<< sk.r32Shift) |||
    (g <<< sk.g32Shift) ||| (b <<< sk.b32Shift)

/-- Blue is taken with the macro for red, and red with the one for blue. -/
def shuffleBgra : Nat :=
  let r := shuffleComponent (sk.getPackedB32 pixel) (uint8Max - 1) δ.shuffleR
  let g := shuffleComponent (sk.getPackedG32 pixel) (uint8Max - 1) δ.shuffleG
  let b := shuffleComponent (sk.getPackedR32 pixel) (uint8Max - 1) δ.shuffleB
  (sk.getPackedA32 pixel <<< sk.bgraA32Shift) ||| (r <<< sk.bgraR32Shift) |||
    (g <<< sk.bgraG32Shift) |||
    (b <<< sk.bgraB32Shift)

end Cases

/-- A case of the switch: the size of the pixel's type, and what is done to the pixel. -/
structure PixelCase where
  size : Nat
  shuffle : Deltas → Nat → Nat

/-- The switch. The default returns. -/
def pixelCase (sk : Skia) : ColorType → Option PixelCase
  | .alpha8 => some ⟨1, shuffleAlpha8 sk⟩
  | .gray8 => some ⟨1, shuffleGray8⟩
  | .rgb565 => some ⟨2, shuffle565 sk⟩
  | .argb4444 => some ⟨2, shuffle4444 sk⟩
  | .rgba8888 => some ⟨4, shuffleRgba sk⟩
  | .bgra8888 => some ⟨4, shuffleBgra sk⟩
  | .other _ => none

/-! ## Products -/

/-- How an `int` is multiplied by a fraction: in doubles, as in C++, or exactly. -/
inductive Arithmetic where
  | double | exact
deriving DecidableEq, Repr

/-- The conversion of a number to `int`. -/
def truncate (q : Rat) : Int := q.num.tdiv q.den

namespace Arithmetic

/-- An `int` is a double, so only the product is rounded, to 53 significant bits. A product that is
too small to have them all is below one, rounded or not. -/
def product : Arithmetic → Int → Rat → Rat
  | double, n, q => Binary.roundTo 53 (n * q)
  | exact, n, q => n * q

/-- The fractions that can be drawn; no double below one is greater than `1 - 2⁻⁵³`. -/
def Fraction : Arithmetic → Rat → Prop
  | double, q => 0 ≤ q ∧ q ≤ 1 - 1 / 9007199254740992
  | exact, q => 0 ≤ q ∧ q < 1

/-- A coordinate of the visited pixel, from the extent that is bisected. -/
def bisect (a : Arithmetic) (q : Rat) (extent : Int) : Int := truncate (a.product extent q)

end Arithmetic

/-! ## Calls -/

/-- `base::RandDouble` for each axis, and `base::RandInt(0, 4)` for each iteration. -/
structure Draws where
  arithmetic : Arithmetic
  shuffleX : Rat
  shuffleY : Rat
  shuffleR : Nat → Fin 5
  shuffleX_fraction : arithmetic.Fraction shuffleX
  shuffleY_fraction : arithmetic.Fraction shuffleY

def Draws.bisectX (d : Draws) : Int → Int := d.arithmetic.bisect d.shuffleX

def Draws.bisectY (d : Draws) : Int → Int := d.arithmetic.bisect d.shuffleY

structure Call where
  sk : Skia
  info : ImageInfo
  srcX : Nat
  srcY : Nat
  draws : Draws

/-- The variables of the loop, and how many amounts have been drawn. -/
structure LoopState where
  pixels : Int
  drawn : Nat
  currentW : Int
  currentH : Int
  memory : Memory

/-- The conversion of an `int` to `uint8_t`. -/
def toUint8 (n : Int) : Nat := (n % 256).toNat

namespace Call

variable (c : Call)

def w : Int := c.info.width - c.srcX

def h : Int := c.info.height - c.srcY

def Tiny : Prop := c.w < 8 ∨ c.h < 8

instance : Decidable c.Tiny := inferInstanceAs (Decidable (_ ∨ _))

/-- The maximum of pixels to change. -/
def cap : Int :=
  let pixels := (c.w + c.h).tdiv 128
  if pixels > 10 then 10 else if pixels < 2 then 2 else pixels

def fRowBytes : Nat := c.sk.minRowBytes c.info

section Iteration
variable (s : LoopState)

def x : Int := c.draws.bisectX s.currentW

def y : Int := c.draws.bisectY s.currentH

def deltas : Deltas :=
  let shuffleR : Nat := c.draws.shuffleR s.drawn
  let shuffleG := toUint8 ((shuffleR + c.x s).tmod 4)
  let shuffleB := toUint8 ((shuffleG + c.y s).tmod 4)
  ⟨shuffleR, shuffleG, shuffleB⟩

/-- The switch at the visited pixel. -/
def shufflePixel : Option Memory :=
  (pixelCase c.sk c.info.colorType).map fun k =>
    let pixel := writableAddr k.size c.fRowBytes (c.x s) (c.y s)
    store k.size pixel (k.shuffle (c.deltas s) (load s.memory k.size pixel)) s.memory

/-- The end of an iteration: bisecting goes on, or the extents are reset. -/
def next (memory : Memory) : LoopState where
  pixels := s.pixels - 1
  drawn := s.drawn + 1
  currentW := if c.x s = 0 then c.w else c.x s
  currentH := if c.y s = 0 then c.h else c.y s
  memory := memory

end Iteration

def loop (s : LoopState) : LoopState :=
  if s.pixels ≥ 0 then
    match c.shufflePixel s with
    | none => s
    | some memory => loop (c.next s memory)
  else s
termination_by (s.pixels + 1).toNat
decreasing_by
  simp only [next]
  omega

def start (memory : Memory) : LoopState := ⟨c.cap, 0, c.w, c.h, memory⟩

def shuffleSubchannelColorData (memory : Memory) : Memory :=
  if c.Tiny then memory else (c.loop (c.start memory)).memory

/-- The states at the head of the loop. -/
inductive Run (memory : Memory) : LoopState → Prop
  | start : ¬ c.Tiny → Run memory (c.start memory)
  | next {s : LoopState} {memory' : Memory} : Run memory s → s.pixels ≥ 0 →
      c.shufflePixel s = some memory' →
      Run memory (c.next s memory')

end Call

end DumbBrowser.Canvas
