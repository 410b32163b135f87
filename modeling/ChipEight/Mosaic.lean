/-!
# Mosaic

A square picture whose side is a power of two. A part of one colour is kept as a whole, and any
other part is cut into quarters, so that painting a rectangle visits only the parts along its edges.

The main statement says what painting means: the pixels of the rectangle have the new colour, and
the others have the colour that they had before.
-/

namespace ChipEight

/-- A rectangle of pixels. Its left and upper edges belong to it, the others do not. -/
structure Rectangle where
  left : Int
  top : Int
  width : Int
  height : Int
  deriving DecidableEq, Repr

namespace Rectangle

/-- Whether a pixel belongs to a rectangle. There is none without a width and a height above zero.
-/
def Contains (rectangle : Rectangle) (x y : Int) : Prop :=
  (rectangle.left ≤ x ∧ x < rectangle.left + rectangle.width) ∧
    (rectangle.top ≤ y ∧ y < rectangle.top + rectangle.height)

instance (rectangle : Rectangle) (x y : Int) : Decidable (rectangle.Contains x y) :=
  inferInstanceAs (Decidable (_ ∧ _))

/-- Whether all pixels of a square at the origin belong to a rectangle. -/
def covers (rectangle : Rectangle) (side : Int) : Bool :=
  (rectangle.left ≤ 0 && side ≤ rectangle.left + rectangle.width)
    && (rectangle.top ≤ 0 && side ≤ rectangle.top + rectangle.height)

/-- Whether no pixel of a square at the origin can belong to a rectangle. -/
def misses (rectangle : Rectangle) (side : Int) : Bool :=
  (rectangle.width ≤ 0 || rectangle.left + rectangle.width ≤ 0 || side ≤ rectangle.left)
    || (rectangle.height ≤ 0 || rectangle.top + rectangle.height ≤ 0 || side ≤ rectangle.top)

/-- The rectangle as it is seen from a point. -/
def seenFrom (rectangle : Rectangle) (x y : Int) : Rectangle :=
  { rectangle with left := rectangle.left - x, top := rectangle.top - y }

/-- A rectangle that covers a square contains its pixels. -/
theorem contains_of_covers {rectangle : Rectangle} {side x y : Int}
    (covered : rectangle.covers side = true)
    (inSquare : (0 ≤ x ∧ x < side) ∧ (0 ≤ y ∧ y < side)) : rectangle.Contains x y := by
  simp only [covers, Bool.and_eq_true, decide_eq_true_eq] at covered
  simp only [Contains]
  omega

/-- A rectangle that misses a square contains none of its pixels. -/
theorem not_contains_of_misses {rectangle : Rectangle} {side x y : Int}
    (missed : rectangle.misses side = true)
    (inSquare : (0 ≤ x ∧ x < side) ∧ (0 ≤ y ∧ y < side)) : ¬ rectangle.Contains x y := by
  simp only [misses, Bool.or_eq_true, decide_eq_true_eq] at missed
  simp only [Contains]
  omega

/-- From a point, a pixel of a rectangle is seen in the rectangle as it is seen from there. -/
theorem contains_seenFrom (rectangle : Rectangle) (originX originY x y : Int) :
    (rectangle.seenFrom originX originY).Contains (x - originX) (y - originY) ↔
      rectangle.Contains x y := by
  simp only [Contains, seenFrom]
  omega

end Rectangle

/-- A square of pixels, in one colour or cut into quarters. -/
inductive Mosaic (α : Type) where
  | plain (color : α)
  | quartered (upperLeft upperRight lowerLeft lowerRight : Mosaic α)

namespace Mosaic

variable {α : Type}

/-- The side of a square that can be cut into quarters a number of times. -/
def side (level : Nat) : Int := ((1 <<< level : Nat) : Int)

/-- The colour of a pixel in a square of a level. -/
def colorAt : Mosaic α → Nat → Int → Int → α
  | plain color, _, _, _ => color
  | quartered upperLeft upperRight lowerLeft lowerRight, level, x, y =>
    let half := side (level - 1)
    if y < half then
      if x < half then upperLeft.colorAt (level - 1) x y
      else upperRight.colorAt (level - 1) (x - half) y
    else
      if x < half then lowerLeft.colorAt (level - 1) x (y - half)
      else lowerRight.colorAt (level - 1) (x - half) (y - half)

/-- The square, cut into quarters. -/
def quarters : Mosaic α → Mosaic α × Mosaic α × Mosaic α × Mosaic α
  | plain color => (plain color, plain color, plain color, plain color)
  | quartered upperLeft upperRight lowerLeft lowerRight =>
    (upperLeft, upperRight, lowerLeft, lowerRight)

/-- The pixels of a rectangle get a colour. -/
def paint (color : α) : Nat → Mosaic α → Rectangle → Mosaic α
  | 0, mosaic, rectangle => if rectangle.covers 1 then plain color else mosaic
  | level + 1, mosaic, rectangle =>
    if rectangle.misses (side (level + 1)) then mosaic
    else if rectangle.covers (side (level + 1)) then plain color
    else
      let half := side level
      let (upperLeft, upperRight, lowerLeft, lowerRight) := mosaic.quarters
      quartered (upperLeft.paint color level rectangle)
        (upperRight.paint color level (rectangle.seenFrom half 0))
        (lowerLeft.paint color level (rectangle.seenFrom 0 half))
        (lowerRight.paint color level (rectangle.seenFrom half half))

/-- A side is twice as long as that of a quarter. -/
theorem side_succ (level : Nat) : side (level + 1) = 2 * side level := by
  simp only [side, Nat.shiftLeft_eq, Nat.pow_succ]
  omega

/-- A pixel is found in the quarter where it lies. -/
theorem colorAt_eq_quarters (mosaic : Mosaic α) (level : Nat) (x y : Int) :
    mosaic.colorAt (level + 1) x y =
      if y < side level then
        if x < side level then mosaic.quarters.1.colorAt level x y
        else mosaic.quarters.2.1.colorAt level (x - side level) y
      else
        if x < side level then mosaic.quarters.2.2.1.colorAt level x (y - side level)
        else mosaic.quarters.2.2.2.colorAt level (x - side level) (y - side level) := by
  cases mosaic with
  | plain color => simp [colorAt, quarters]
  | quartered => rfl

/-- Painting changes the pixels of the rectangle to the colour and no others. -/
theorem colorAt_paint (color : α) (level : Nat) (mosaic : Mosaic α) (rectangle : Rectangle)
    {x y : Int} (inSquare : (0 ≤ x ∧ x < side level) ∧ (0 ≤ y ∧ y < side level)) :
    (mosaic.paint color level rectangle).colorAt level x y =
      if rectangle.Contains x y then color else mosaic.colorAt level x y := by
  induction level generalizing mosaic rectangle x y with
  | zero =>
    have sideOfPixel : side 0 = 1 := rfl
    rw [sideOfPixel] at inSquare
    have covered : rectangle.covers 1 = true ↔ rectangle.Contains x y := by
      simp only [Rectangle.covers, Rectangle.Contains, Bool.and_eq_true, decide_eq_true_eq]
      omega
    by_cases contained : rectangle.Contains x y
    · simp [paint, covered, contained, colorAt]
    · simp [paint, covered, contained]
  | succ level inductionHypothesis =>
    by_cases missed : rectangle.misses (side (level + 1)) = true
    · simp [paint, missed, Rectangle.not_contains_of_misses missed inSquare]
    by_cases covered : rectangle.covers (side (level + 1)) = true
    · simp [paint, missed, covered, colorAt, Rectangle.contains_of_covers covered inSquare]
    have doubled := side_succ level
    simp only [paint, missed, covered, colorAt_eq_quarters, quarters, Bool.false_eq_true,
      ↓reduceIte]
    by_cases upper : y < side level <;> by_cases leftHalf : x < side level <;>
      simp only [upper, leftHalf, ↓reduceIte]
    · exact inductionHypothesis _ rectangle (by omega)
    · rw [inductionHypothesis _ _ (by omega)]
      have seen := rectangle.contains_seenFrom (side level) 0 x y
      rw [Int.sub_zero] at seen
      simp only [seen]
    · rw [inductionHypothesis _ _ (by omega)]
      have seen := rectangle.contains_seenFrom 0 (side level) x y
      rw [Int.sub_zero] at seen
      simp only [seen]
    · rw [inductionHypothesis _ _ (by omega)]
      simp only [Rectangle.contains_seenFrom]

end Mosaic

end ChipEight
