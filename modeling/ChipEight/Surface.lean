import ChipEight.Mosaic

/-!
# Surface

The surface of a window gives each of its pixels a colour. Filling it and painting a rectangle are
the only ways to change it, and single pixels can be read.

Sizes, rectangles and pixels are given by integers. Coordinates may be unbounded, which makes every
integer stand for itself. On a window they are signed 32-bit numbers: sizes and rectangles are
given by the last 32 bits of 64-bit numbers, and a pixel that is to be read must have 32-bit
coordinates to begin with.
-/

namespace ChipEight

/-- A colour by its three components. -/
structure Color where
  red : UInt8
  green : UInt8
  blue : UInt8
  deriving DecidableEq, Repr

/-- Why an operation on a window was refused. -/
inductive ScreenFault where
  /-- A component of a colour does not fit in a byte. -/
  | notAColor
  /-- The extent of a window is not a 64-bit number. -/
  | notASize
  /-- The extent of a window is negative. -/
  | negativeSize
  /-- The extent of a window is larger than any window. -/
  | tooLarge
  /-- A lit pixel cannot be placed because there are no columns. -/
  | noColumns
  /-- A number that gives a rectangle is not a 64-bit number. -/
  | notARectangle
  /-- A coordinate of a pixel that was to be read is not a 32-bit number. -/
  | notACoordinate (coordinate : Int)
  /-- A pixel that was to be read lies outside the window. -/
  | outsideWindow
  deriving DecidableEq, Repr

namespace ScreenFault

/-- The wording for a coordinate that is out of range. -/
def coordinateMessage (coordinate : Int) : String :=
  if coordinate < -0x8000000000000000 ∨ 0x8000000000000000 ≤ coordinate then
    "Python int too large to convert to C long"
  else if coordinate < 0 then "signed integer is less than minimum"
  else "signed integer is greater than maximum"

/-- The wording of a fault. -/
def message : ScreenFault → String
  | notAColor => "invalid color argument"
  | notASize => "size must be two numbers"
  | negativeSize => "Cannot set negative sized display mode"
  | tooLarge => "Window is too large."
  | noColumns => "integer modulo by zero"
  | notARectangle => "rect argument is invalid"
  | notACoordinate coordinate => coordinateMessage coordinate
  | outsideWindow => "pixel index out of range"

end ScreenFault

/-- The colour with given components. -/
def Color.ofComponents (red green blue : Int) : Except ScreenFault Color :=
  if [red, green, blue].all fun component => 0 ≤ component && component < 256 then
    .ok ⟨UInt8.ofInt red, UInt8.ofInt green, UInt8.ofInt blue⟩
  else .error .notAColor

/-- The numbers that are coordinates. -/
inductive Coordinates where
  /-- All integers. -/
  | unbounded
  /-- The signed 32-bit numbers. -/
  | signed32
  deriving DecidableEq, Repr

namespace Coordinates

/-- The coordinate that the last bits of a 64-bit number stand for. Other integers are refused. -/
def cut (coordinates : Coordinates) (refusal : ScreenFault) (value : Int) :
    Except ScreenFault Int :=
  match coordinates with
  | unbounded => .ok value
  | signed32 =>
    if -0x8000000000000000 ≤ value ∧ value < 0x8000000000000000 then
      .ok (value.bmod 0x100000000)
    else .error refusal

/-- An integer as a coordinate of a pixel that is to be read. -/
def exactly (coordinates : Coordinates) (value : Int) : Except ScreenFault Int :=
  match coordinates with
  | unbounded => .ok value
  | signed32 =>
    if -0x80000000 ≤ value ∧ value < 0x80000000 then .ok value
    else .error (.notACoordinate value)

/-- A small 64-bit number is cut to itself. -/
theorem cut_of_small (coordinates : Coordinates) (refusal : ScreenFault) {value : Int}
    (aboveLeast : -0x80000000 ≤ value) (belowGreatest : value < 0x80000000) :
    coordinates.cut refusal value = .ok value := by
  cases coordinates with
  | unbounded => rfl
  | signed32 =>
    have fits : -0x8000000000000000 ≤ value ∧ value < 0x8000000000000000 := by omega
    have same : value.bmod 0x100000000 = value := by
      rw [Int.bmod_def]
      split <;> omega
    simp only [cut, fits, same, and_self, ↓reduceIte]

end Coordinates

/-- A window with the colours of its pixels. Those outside the window cannot be read. -/
structure Surface where
  width : Nat
  height : Nat
  coordinates : Coordinates
  mosaic : Mosaic Color

namespace Surface

/-- The extents of the window that extents of zero in both directions stand for. -/
def desktopSize : Nat × Nat := (1024, 768)

/-- The largest extent of a window in each direction. -/
def largestExtent : Int := 16384

/-- The extents of a window that is opened with given ones. A single extent of zero becomes one. -/
def openedSize (coordinates : Coordinates) (width height : Int) :
    Except ScreenFault (Nat × Nat) := do
  let width ← coordinates.cut .notASize width
  let height ← coordinates.cut .notASize height
  if width < 0 ∨ height < 0 then throw .negativeSize
  if width = 0 ∧ height = 0 then return desktopSize
  if coordinates = .signed32 ∧ (largestExtent < width ∨ largestExtent < height) then throw .tooLarge
  return (max 1 width.toNat, max 1 height.toNat)

/-- The level of a square that holds the whole window. -/
def level (surface : Surface) : Nat := (max surface.width surface.height).log2 + 1

/-- The colour of a pixel. -/
def colorAt (surface : Surface) (x y : Int) : Color :=
  surface.mosaic.colorAt surface.level x y

/-- All pixels get one colour. -/
def fill (surface : Surface) (color : Color) : Surface :=
  { surface with mosaic := .plain color }

/-- The pixels of a rectangle get a colour. -/
def paint (surface : Surface) (rectangle : Rectangle) (color : Color) : Surface :=
  { surface with mosaic := surface.mosaic.paint color surface.level rectangle }

/-- The pixels of the window lie in the square that holds it. -/
theorem lt_side (surface : Surface) {x y : Int}
    (inWindow : (0 ≤ x ∧ x < surface.width) ∧ (0 ≤ y ∧ y < surface.height)) :
    (0 ≤ x ∧ x < Mosaic.side surface.level) ∧ (0 ≤ y ∧ y < Mosaic.side surface.level) := by
  have larger : max surface.width surface.height < 2 ^ surface.level := Nat.lt_log2_self
  have length : Mosaic.side surface.level = ((2 ^ surface.level : Nat) : Int) := by
    rw [Mosaic.side, Nat.one_shiftLeft]
  omega

/-- After filling, every pixel has the one colour. -/
theorem colorAt_fill (surface : Surface) (color : Color) (x y : Int) :
    (surface.fill color).colorAt x y = color := by
  simp only [colorAt, fill, Mosaic.colorAt]

/-- Painting changes the pixels of the window that belong to the rectangle, and no others. -/
theorem colorAt_paint (surface : Surface) (rectangle : Rectangle) (color : Color) {x y : Int}
    (inWindow : (0 ≤ x ∧ x < surface.width) ∧ (0 ≤ y ∧ y < surface.height)) :
    (surface.paint rectangle color).colorAt x y =
      if rectangle.Contains x y then color else surface.colorAt x y :=
  Mosaic.colorAt_paint color surface.level surface.mosaic rectangle (surface.lt_side inWindow)

/-- The pixels of a rectangle that is given by any integers get a colour. -/
def fillRectangle (surface : Surface) (left top width height : Int) (color : Color) :
    Except ScreenFault Surface := do
  let left ← surface.coordinates.cut .notARectangle left
  let top ← surface.coordinates.cut .notARectangle top
  let width ← surface.coordinates.cut .notARectangle width
  let height ← surface.coordinates.cut .notARectangle height
  return surface.paint ⟨left, top, width, height⟩ color

/-- The colour of a pixel of the window. -/
def read (surface : Surface) (x y : Int) : Except ScreenFault Color := do
  let x ← surface.coordinates.exactly x
  let y ← surface.coordinates.exactly y
  if (0 ≤ x ∧ x < surface.width) ∧ (0 ≤ y ∧ y < surface.height) then
    return surface.colorAt x y
  else throw .outsideWindow

end Surface

end ChipEight
