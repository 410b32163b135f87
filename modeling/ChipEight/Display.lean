import ChipEight.Fault
import ChipEight.Position

/-!
# Display

A bitmap of lit and dark pixels, stored row after row. Sprites are drawn by exclusive disjunction:
a set bit of the sprite inverts the pixel below it. Bits beyond the right or the lower edge are
dropped. To the left of the bitmap and above it pixels are numbered on, backwards, and such a
number is a position from the end of the row of all pixels.

The width and the height may be any integers. A bitmap has no pixels unless both are above zero.
One whose pixels cannot be numbered or kept is not made.
-/

namespace ChipEight

/-- The number of pixels of a bitmap. -/
abbrev pixelCount (width height : Int) : Nat := width.toNat * height.toNat

/-- The pixels of a bitmap, row after row; lit ones are `true`. -/
structure Display (width height : Int) where
  pixels : Vector Bool (pixelCount width height)
  deriving DecidableEq, Repr

/-- Why a bitmap is not made. -/
inductive BitmapFault where
  /-- The width or the height is not a number of positions. -/
  | notASize
  /-- There is no room for the pixels. -/
  | outOfMemory
  deriving DecidableEq, Repr

/-- The wording of the fault. -/
def BitmapFault.message : BitmapFault → String
  | notASize => Fault.noPositionMessage
  | outOfMemory => ""

/-- The number of pixels that there is room for. -/
def pixelRoom : Nat := 0x40000000

namespace Display

variable {width height : Int}

/-- All pixels are dark. -/
def dark : Display width height := ⟨Vector.replicate (pixelCount width height) false⟩

/-- A bitmap with a width and a height, all of whose pixels are dark. The width is looked at first:
there must be room for a row, whatever the height. -/
def create (width height : Int) : Except BitmapFault (Display width height) :=
  if !Fault.isPosition width then .error .notASize
  else if pixelRoom < width.toNat then .error .outOfMemory
  else if !Fault.isPosition height then .error .notASize
  else if pixelRoom < pixelCount width height then .error .outOfMemory
  else .ok dark

/-- The number of the pixel in column `x` and row `y`. -/
def pixelNumber (width x y : Int) : Int := y * width + x

/-- Whether a pixel is lit. -/
def isLit (display : Display width height) (pixel : Fin (pixelCount width height)) : Bool :=
  display.pixels[pixel]

/-- Whether the pixel in column `x` and row `y` is lit. -/
def query (display : Display width height) (x y : Int) : Except Fault Bool :=
  let number := pixelNumber width x y
  match cellAt (pixelCount width height) number with
  | some pixel => .ok (display.isLit pixel)
  | none => .error (.noCell .read number)

/-- The eight bits of a row of a sprite, the most significant first. -/
def rowBits (row : UInt8) : List Bool :=
  (List.range 8).map fun column => row.toBitVec.getLsbD (7 - column)

/-- The bits of one row of a sprite with the numbers of the pixels that they fall on, from left to
right and up to the right edge. -/
def rowTargets (width : Int) (row : UInt8) (x y : Int) : List (Int × Bool) :=
  (((rowBits row).zipIdx).takeWhile fun (_, column) => x + column < width).map
    fun (bit, column) => (pixelNumber width (x + column) y, bit)

/-- The bits of a sprite with the numbers of the pixels that they fall on, row after row and down
to the lower edge. -/
def spriteTargets (width height : Int) (sprite : List UInt8) (x y : Int) : List (Int × Bool) :=
  ((sprite.zipIdx).takeWhile fun (_, row) => y + row < height).flatMap
    fun (bits, row) => rowTargets width bits x (y + row)

/-- Draws bits onto numbered pixels, one after the other. The answer is whether a lit pixel was
darkened, in addition to what was `hit` before. A number without a pixel ends this, and the pixels
drawn before it stay. -/
def drawTargets (display : Display width height) (hit : Bool) :
    List (Int × Bool) → Display width height × Except Fault Bool
  | [] => (display, .ok hit)
  | (number, bit) :: rest =>
    match cellAt (pixelCount width height) number with
    | none => (display, .error (.noCell .read number))
    | some pixel =>
      let lit := display.isLit pixel
      drawTargets ⟨display.pixels.set pixel (lit != bit)⟩ (hit || (lit && bit)) rest

/-- Draws a sprite with its upper left corner in column `x` and row `y`. The answer is whether a
lit pixel was darkened. -/
def draw (display : Display width height) (sprite : List UInt8) (x y : Int) :
    Display width height × Except Fault Bool :=
  display.drawTargets false (spriteTargets width height sprite x y)

/-- A pixel is as it was last set, and the others are as they were. -/
theorem isLit_set (display : Display width height) (pixel other : Fin (pixelCount width height))
    (lit : Bool) :
    isLit ⟨display.pixels.set pixel lit⟩ other =
      if pixel = other then lit else display.isLit other := by
  simp only [isLit, Fin.getElem_fin, Vector.getElem_set, Fin.ext_iff]

end Display

end ChipEight
