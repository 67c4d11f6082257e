/-
Pixels and their form on the wire.

A pixel's four levels are single-precision numbers, kept as their bits so
that a copied pixel is the same pixel, whatever it holds. On the wire a
level is one byte: the level, held between zero and one, times 255,
rounded to the nearest step with a half going up. The product itself is a
single-precision number, so it is rounded to twenty-four digits first.
-/
import Luminaire.Bytes

namespace Luminaire

/-- A colour level: the bits of a single-precision number. -/
abbrev Level := UInt32

structure Pixel where
  r : Level
  g : Level
  b : Level
  w : Level
  deriving DecidableEq, Repr

/-- All levels zero. -/
def Pixel.dark : Pixel := ⟨0, 0, 0, 0⟩

instance : Inhabited Pixel := ⟨Pixel.dark⟩

/-- How many pixels can be addressed at all: each takes sixteen bytes. -/
def Pixel.addressable : Nat := addressableBytes / 16

-- ========================================================== levels

/-- The quotient by `2 ^ digits`, to the nearest whole number, a half going
to the even neighbour. -/
def roundToEven (value digits : Nat) : Nat :=
  let unit := 1 <<< digits
  let quotient := value / unit
  let rest := value % unit
  if unit < 2 * rest ∨ (2 * rest = unit ∧ quotient % 2 = 1) then quotient + 1 else quotient

/-- The byte for a level. Not-a-number is dark. -/
def quantize (level : Level) : UInt8 :=
  let bits := level.toNat
  if 0x80000000 ≤ bits ∨ 0x7f800000 < bits then 0
  else if 0x3f800000 ≤ bits then 255
  else
    let exponent := bits / 0x800000
    let product := 255 * (0x800000 + bits % 0x800000)
    -- the product is `product * 2 ^ (exponent - 150)`, and has 31 or 32 digits
    let excess := if product < 0x80000000 then 7 else 8
    let kept := roundToEven product excess
    let places := 150 - exponent - excess
    ((2 * kept + (1 <<< places)) / (1 <<< (places + 1))).toUInt8

-- ========================================================= formats

/-- The levels a node wants per pixel. -/
inductive PixelFormat where
  | rgb
  | rgbw
  deriving DecidableEq, Repr

namespace PixelFormat

def code : PixelFormat → UInt8
  | .rgb => 0
  | .rgbw => 1

def ofCode? (code : UInt8) : Option PixelFormat :=
  match code.toNat with
  | 0 => some .rgb
  | 1 => some .rgbw
  | _ => none

def bytesPerPixel : PixelFormat → Nat
  | .rgb => 3
  | .rgbw => 4

def name : PixelFormat → String
  | .rgb => "Rgb"
  | .rgbw => "Rgbw"

theorem ofCode?_code (format : PixelFormat) : ofCode? format.code = some format := by
  cases format <;> rfl

end PixelFormat

/-- One pixel's bytes. -/
def Pixel.encode (format : PixelFormat) (pixel : Pixel) : Bytes :=
  match format with
  | .rgb => [quantize pixel.r, quantize pixel.g, quantize pixel.b]
  | .rgbw => [quantize pixel.r, quantize pixel.g, quantize pixel.b, quantize pixel.w]

@[simp] theorem Pixel.length_encode (format : PixelFormat) (pixel : Pixel) :
    (pixel.encode format).length = format.bytesPerPixel := by
  cases format <;> rfl

/-- The bytes of a run of pixels. -/
def encodePixels (format : PixelFormat) (pixels : List Pixel) : Bytes :=
  pixels.flatMap (Pixel.encode format)

theorem length_encodePixels (format : PixelFormat) (pixels : List Pixel) :
    (encodePixels format pixels).length = pixels.length * format.bytesPerPixel := by
  induction pixels with
  | nil => simp [encodePixels]
  | cons pixel pixels ih =>
      simp only [encodePixels, List.flatMap_cons, List.length_append,
        Pixel.length_encode, List.length_cons, Nat.succ_mul] at ih ⊢
      omega

end Luminaire
