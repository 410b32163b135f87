import ChipEight.Proofs.Drawing
import Mathlib.Algebra.GroupWithZero.Nat

/-!
# Sprites as masks

Wherever a sprite is drawn, also to the left of the bitmap and above it, what it does is settled
before any pixel is looked at. Each of its set bits that is not dropped falls on the pixel that its
number names, counted from the front or from the end, and a tall sprite may reach the same pixel
both ways. The pixels with an odd coverage are inverted, and no others.

A number without a pixel can only lie before all those that name pixels, and the first bit has the
lowest number of all. So a sprite is refused at its first bit or not at all, and a refused one has
changed nothing.
-/

namespace ChipEight.Display

variable {width height : Int}

/-- A bit in some column and row falls on a pixel: it is not dropped, and its number names the pixel
from the front or from the end. -/
def FallsOn (width height column row : Int) (pixel : Nat) : Prop :=
  (row < height ∧ column < width) ∧
    (row * width + column = pixel ∨ row * width + column = pixel - width * height)

instance (width height column row : Int) (pixel : Nat) :
    Decidable (FallsOn width height column row pixel) :=
  inferInstanceAs (Decidable (_ ∧ _))

/-- How many set bits of a sprite fall on a pixel, over all of its rows and their eight columns. -/
def coverage (width height : Int) (sprite : List UInt8) (x y : Int) (pixel : Nat) : Nat :=
  (sprite.zipIdx.map fun (bits, row) =>
    (List.range 8).countP fun column =>
      bits.toBitVec.getLsbD (7 - column) &&
        decide (FallsOn width height (x + column) (y + row) pixel)).sum

/-- The first bit of a sprite is not dropped, and its number lies before those that name pixels. -/
def StartsBefore (width height : Int) (sprite : List UInt8) (x y : Int) : Prop :=
  sprite ≠ [] ∧ x < width ∧ y < height ∧ y * width + x < -(width * height)

instance (width height : Int) (sprite : List UInt8) (x y : Int) :
    Decidable (StartsBefore width height sprite x y) :=
  inferInstanceAs (Decidable (_ ∧ _))

/-! ## The numbers of a series -/

section Numbers

variable (wide : 0 ≤ width) (high : 0 ≤ height)
include wide high

/-- The number of pixels of a bitmap is its width times its height. -/
theorem natCast_pixelCount : ((pixelCount width height : Nat) : Int) = width * height := by
  rw [pixelCount, Int.natCast_mul, Int.toNat_of_nonneg wide, Int.toNat_of_nonneg high]

/-- A number names a pixel if it is the pixel's own, or that less the number of all pixels. -/
theorem cellAt_eq_some_iff_number (number : Int) (pixel : Fin (pixelCount width height)) :
    cellAt (pixelCount width height) number = some pixel ↔
      number = pixel.val ∨ number = pixel.val - width * height := by
  rw [cellAt_eq_some_iff, natCast_pixelCount wide high]

omit high in
/-- The numbers of a sprite's bits are not below that of its first one, and all of them are below
the number of pixels. -/
theorem bounds_of_mem_spriteTargets {sprite : List UInt8} {x y : Int} {target : Int × Bool}
    (member : target ∈ spriteTargets width height sprite x y) :
    (sprite ≠ [] ∧ x < width ∧ y < height) ∧
      y * width + x ≤ target.1 ∧ target.1 < width * height := by
  obtain ⟨column, row, ⟨_, reach⟩, ⟨counted, visible⟩, rfl⟩ := (mem_spriteTargets ..).mp member
  have lower : y * width ≤ (y + row) * width := Int.mul_le_mul_of_nonneg_right (by omega) wide
  have upper : (y + row + 1) * width ≤ height * width :=
    Int.mul_le_mul_of_nonneg_right (by omega) wide
  rw [Int.add_mul, Int.one_mul, Int.mul_comm height] at upper
  refine ⟨⟨List.ne_nil_of_length_pos (by omega), by omega, by omega⟩, ?_, ?_⟩
  · simp only [pixelNumber]
    omega
  · simp only [pixelNumber]
    omega

/-- Unless the first bit of a sprite lies before all pixels, every bit has a pixel. -/
theorem named_of_not_startsBefore {sprite : List UInt8} {x y : Int}
    (begins : ¬ StartsBefore width height sprite x y) :
    ∀ target ∈ spriteTargets width height sprite x y,
      ∃ pixel, cellAt (pixelCount width height) target.1 = some pixel := by
  intro target member
  obtain ⟨⟨rows, reach, visible⟩, lower, upper⟩ := bounds_of_mem_spriteTargets wide member
  have inside : ¬ y * width + x < -(width * height) := fun before =>
    begins ⟨rows, reach, visible, before⟩
  rw [← Option.ne_none_iff_exists', ne_eq, cellAt_eq_none_iff, natCast_pixelCount wide high]
  omega

/-- The series of a row covers a pixel as often as the row has set bits that fall on it. -/
theorem strokes_rowTargets (bits : UInt8) (x : Int) {y : Int} (visible : y < height)
    (pixel : Fin (pixelCount width height)) :
    strokes width height (rowTargets width bits x y) pixel =
      (List.range 8).countP fun column =>
        bits.toBitVec.getLsbD (7 - column) &&
          decide (FallsOn width height (x + column) y pixel.val) := by
  have numbered : (rowBits bits).zipIdx = (List.range 8).map fun column =>
      (bits.toBitVec.getLsbD (7 - column), column) := rfl
  rw [strokes, rowTargets, takeWhile_zipIdx_eq_filter, numbered, List.countP_map,
    List.countP_filter, List.countP_map]
  apply List.countP_congr
  intro column _
  simp only [Function.comp_apply, Bool.and_eq_true, beq_iff_eq, decide_eq_true_eq,
    cellAt_eq_some_iff_number wide high, pixelNumber]
  constructor
  · rintro ⟨⟨set, named⟩, reach⟩
    exact ⟨set, ⟨visible, reach⟩, named⟩
  · rintro ⟨set, ⟨_, reach⟩, named⟩
    exact ⟨⟨set, named⟩, reach⟩

/-- The series of a sprite covers a pixel as often as the sprite does. Rows that are dropped have no
bits that fall on it. -/
theorem strokes_spriteTargets (sprite : List UInt8) (x y : Int)
    (pixel : Fin (pixelCount width height)) :
    strokes width height (spriteTargets width height sprite x y) pixel =
      coverage width height sprite x y pixel.val := by
  rw [spriteTargets, takeWhile_zipIdx_eq_filter, strokes, coverage, List.countP_flatMap]
  induction sprite.zipIdx with
  | nil => rfl
  | cons entry rest inductionHypothesis =>
    rw [List.filter_cons, List.map_cons, List.sum_cons, ← inductionHypothesis]
    by_cases visible : y + entry.2 < height
    · have row := strokes_rowTargets wide high entry.1 x visible pixel
      simp only [visible, decide_true, if_true, List.map_cons, List.sum_cons, ← row]
      rfl
    · have dropped : ((List.range 8).countP fun column =>
          entry.1.toBitVec.getLsbD (7 - column) &&
            decide (FallsOn width height (x + column) (y + entry.2) pixel.val)) = 0 := by
        rw [List.countP_eq_zero]
        intro column _ covered
        rw [Bool.and_eq_true, decide_eq_true_eq] at covered
        exact visible covered.2.1.1
      simp only [visible, decide_false, Bool.false_eq_true, if_false, dropped, Nat.zero_add]

end Numbers

/-! ## Drawing anywhere -/

/-- A sprite whose first bit lies before all pixels is refused at this bit. -/
theorem draw_of_startsBefore (wide : 0 ≤ width) (high : 0 ≤ height)
    (display : Display width height) {sprite : List UInt8} {x y : Int}
    (before : StartsBefore width height sprite x y) :
    display.draw sprite x y = (display, .error (.noCell .read (y * width + x))) := by
  obtain ⟨rows, reach, visible, outside⟩ := before
  obtain ⟨bits, rest, rfl⟩ := List.exists_cons_of_ne_nil rows
  have unnamed : cellAt (pixelCount width height) (y * width + x) = none := by
    rw [cellAt_eq_none_iff, natCast_pixelCount wide high]
    exact Or.inl outside
  obtain ⟨others, series⟩ : ∃ others, spriteTargets width height (bits :: rest) x y =
      (y * width + x, bits.toBitVec.getLsbD 7) :: others := by
    simp [spriteTargets, rowTargets, rowBits, List.range_succ, visible, reach, pixelNumber]
  rw [draw, series, drawTargets, unnamed]

/-- Any other sprite is drawn to its end, and inverts the pixels with an odd coverage. -/
theorem draw_of_not_startsBefore (wide : 0 ≤ width) (high : 0 ≤ height)
    (display : Display width height) {sprite : List UInt8} {x y : Int}
    (begins : ¬ StartsBefore width height sprite x y) :
    (∃ hit, (display.draw sprite x y).2 = .ok hit) ∧
      ∀ pixel : Fin (pixelCount width height), (display.draw sprite x y).1.isLit pixel =
        (display.isLit pixel !=
          decide (coverage width height sprite x y pixel.val % 2 = 1)) := by
  obtain ⟨after, hit, drawn, pixels⟩ := display.drawTargets_pixels false
    (spriteTargets width height sprite x y) (named_of_not_startsBefore wide high begins)
  rw [draw, drawn]
  refine ⟨⟨hit, rfl⟩, ?_⟩
  intro pixel
  rw [pixels pixel, strokes_spriteTargets wide high]

/-- Bitmaps with the same lit pixels are the same. -/
theorem ext_of_isLit {display other : Display width height}
    (same : ∀ pixel, display.isLit pixel = other.isLit pixel) : display = other := by
  obtain ⟨pixels⟩ := display
  obtain ⟨others⟩ := other
  congr 1
  apply Vector.ext
  intro position inside
  exact same ⟨position, inside⟩

/-- What drawing a sprite anywhere does to a bitmap. -/
structure DrawsAsMask (display : Display width height) (sprite : List UInt8) (x y : Int) :
    Prop where
  /-- It is refused exactly if the first bit lies before all pixels. -/
  refused_iff : (∃ fault, (display.draw sprite x y).2 = .error fault) ↔
    StartsBefore width height sprite x y
  /-- A refusal names the number of the first bit, and no pixel has changed. -/
  refused : ∀ fault, (display.draw sprite x y).2 = .error fault →
    fault = .noCell .read (y * width + x) ∧ (display.draw sprite x y).1 = display
  /-- Otherwise the pixels with an odd coverage are inverted, and no others. -/
  inverts : ∀ hit, (display.draw sprite x y).2 = .ok hit →
    ∀ pixel : Fin (pixelCount width height), (display.draw sprite x y).1.isLit pixel =
      (display.isLit pixel != decide (coverage width height sprite x y pixel.val % 2 = 1))
  /-- The order of two drawings that are not refused does not matter. -/
  commutes : ∀ other left above, ¬ StartsBefore width height sprite x y →
    ¬ StartsBefore width height other left above →
    ((display.draw sprite x y).1.draw other left above).1 =
      ((display.draw other left above).1.draw sprite x y).1
  /-- Drawing the same again restores the bitmap. -/
  restores : ((display.draw sprite x y).1.draw sprite x y).1 = display
  /-- The number of pixels stays. -/
  size : ((display.draw sprite x y).1.pixels.toList.length : Int) = width * height

/-- Drawing a sprite inverts a bitmap by a mask that depends on the sprite and its place alone, or
is refused before it has changed anything.

Proof: where the first bit has a pixel, all bits have one, so that the series of the sprite is drawn
to its end. Inverting by two masks gives the same in either order, and inverting twice gives what
was there before. -/
theorem draw_asMask (wide : 0 ≤ width) (high : 0 ≤ height) (display : Display width height)
    (sprite : List UInt8) (x y : Int) : DrawsAsMask display sprite x y where
  refused_iff := by
    constructor
    · rintro ⟨fault, failed⟩
      apply Decidable.byContradiction
      intro begins
      obtain ⟨⟨hit, drawn⟩, -⟩ := display.draw_of_not_startsBefore wide high begins
      exact nomatch failed.symm.trans drawn
    · intro before
      rw [display.draw_of_startsBefore wide high before]
      exact ⟨_, rfl⟩
  refused := by
    intro fault failed
    by_cases before : StartsBefore width height sprite x y
    · rw [display.draw_of_startsBefore wide high before] at failed ⊢
      exact ⟨(Except.error.inj failed).symm, rfl⟩
    · obtain ⟨⟨hit, drawn⟩, -⟩ := display.draw_of_not_startsBefore wide high before
      exact nomatch failed.symm.trans drawn
  inverts := by
    intro hit drawn
    apply (display.draw_of_not_startsBefore wide high _).2
    intro before
    rw [display.draw_of_startsBefore wide high before] at drawn
    cases drawn
  commutes := by
    intro other left above begins otherBegins
    apply ext_of_isLit
    intro pixel
    rw [(draw_of_not_startsBefore wide high _ otherBegins).2,
      (draw_of_not_startsBefore wide high _ begins).2,
      (draw_of_not_startsBefore wide high _ begins).2,
      (draw_of_not_startsBefore wide high _ otherBegins).2, Bool.bne_assoc, Bool.bne_assoc]
    rw [bne_comm (a := decide (coverage width height sprite x y pixel.val % 2 = 1))]
  restores := by
    by_cases before : StartsBefore width height sprite x y
    · rw [display.draw_of_startsBefore wide high before,
        display.draw_of_startsBefore wide high before]
    · apply ext_of_isLit
      intro pixel
      rw [(draw_of_not_startsBefore wide high _ before).2,
        (draw_of_not_startsBefore wide high _ before).2, Bool.bne_assoc, bne_self_eq_false,
        Bool.bne_false]
  size := by
    rw [Vector.length_toList, natCast_pixelCount wide high]

/-- On a bitmap of eight columns and two rows, a sprite of three rows is drawn from two rows above
the bitmap on. Its first row and its last one fall on the same pixels, of which those with a set bit
in both stay dark. From three rows above on, the first row is refused. -/
theorem draw_asMask_of_row_covered_twice :
    ((0 : Int) ≤ 8 ∧ (0 : Int) ≤ 2) ∧
      let bitmap : Display 8 2 := dark
      (bitmap.draw [0xF0, 0x0F, 0xFF] 0 (-2)).1.isLit ⟨0, by decide⟩ = false ∧
      (bitmap.draw [0xF0, 0x0F, 0xFF] 0 (-2)).1.isLit ⟨4, by decide⟩ = true ∧
      bitmap.draw [0xF0] 0 (-3) = (bitmap, .error (.noCell .read (-24))) := by
  refine ⟨⟨by decide, by decide⟩, ?_⟩
  intro bitmap
  have twice : DrawsAsMask bitmap [0xF0, 0x0F, 0xFF] 0 (-2) :=
    draw_asMask (by decide) (by decide) bitmap _ _ _
  have outside : DrawsAsMask bitmap [0xF0] 0 (-3) :=
    draw_asMask (by decide) (by decide) bitmap _ _ _
  obtain ⟨hit, drawn⟩ : ∃ hit, (bitmap.draw [0xF0, 0x0F, 0xFF] 0 (-2)).2 = .ok hit := by
    cases answer : (bitmap.draw [0xF0, 0x0F, 0xFF] 0 (-2)).2 with
    | ok hit => exact ⟨hit, rfl⟩
    | error fault => exact absurd (twice.refused_iff.mp ⟨fault, answer⟩) (by decide)
  obtain ⟨fault, failed⟩ := outside.refused_iff.mpr (by decide)
  obtain ⟨rfl, kept⟩ := outside.refused fault failed
  refine ⟨?_, ?_, Prod.ext kept failed⟩
  · rw [twice.inverts hit drawn]
    decide +kernel
  · rw [twice.inverts hit drawn]
    decide +kernel

end ChipEight.Display
