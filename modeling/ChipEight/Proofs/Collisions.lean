import ChipEight.Proofs.Drawing
import Mathlib.Data.Finset.Prod
import Mathlib.Data.Finset.SymmDiff
import Mathlib.Data.Fintype.Basic

/-!
# Collisions

The footprint of a sprite is the set of places inside the bitmap that its set bits fall on. Bits
beyond the right or the lower edge are not in it, so that they neither invert nor collide.

Drawing inverts the footprint. The answer is that of the bitmap as it was before: whether some
place of the footprint was lit. Drawing goes from bit to bit and looks at each pixel only when it
comes to it, but it comes to each pixel once. Drawing the same again finds the footprint inverted,
so that its answer is whether some place of the footprint was dark at first. Different places are
different pixels, which makes the number of lit pixels a matter of counting places.
-/

namespace ChipEight.Display

variable {width height : Int}

/-- The places inside a bitmap that the set bits of a sprite fall on, if its upper left corner is in
column `x` and row `y`. -/
def footprint (width height : Int) (sprite : List UInt8) (x y : Int) : Finset (Int × Int) :=
  ((Finset.range 8 ×ˢ Finset.range sprite.length).filter fun (column, row) =>
    (x + column < width ∧ y + row < height) ∧
      ((sprite[row]?).getD 0).toBitVec.getLsbD (7 - column) = true).image
        fun (column, row) => (x + column, y + row)

/-- The number of lit pixels of a bitmap. -/
def litCount (display : Display width height) : Nat := display.pixels.toList.count true

/-- The lit pixels of a bitmap. -/
def litPixels (display : Display width height) : Finset (Fin (pixelCount width height)) :=
  Finset.univ.filter fun pixel => display.isLit pixel = true

/-- The pixels at some places. -/
def pixelsAt (width height : Int) (places : Finset (Int × Int)) :
    Finset (Fin (pixelCount width height)) :=
  Finset.univ.filter fun pixel => ∃ place ∈ places,
    cellAt (pixelCount width height) (pixelNumber width place.1 place.2) = some pixel

/-- Counting the lit pixels in their order is counting them as a set. -/
theorem litCount_eq_card (display : Display width height) :
    display.litCount = display.litPixels.card := by
  have numbered : display.pixels.toList = (List.finRange _).map display.isLit := by
    apply List.ext_getElem
    · rw [Vector.length_toList, List.length_map, List.length_finRange]
    · intro position _ _
      simp [isLit]
  have listed : display.litPixels = ((List.finRange _).filter display.isLit).toFinset := by
    ext pixel
    simp [litPixels]
  rw [listed, List.toFinset_card_of_nodup ((List.nodup_finRange _).filter _), litCount, numbered,
    List.count_eq_countP, List.countP_map, ← List.countP_eq_length_filter]
  congr 1
  funext pixel
  simp

/-- Different places inside the bitmap are different pixels. -/
theorem card_pixelsAt {places : Finset (Int × Int)}
    (inside : ∀ place ∈ places, Inside width height place.1 place.2) :
    (pixelsAt width height places).card = places.card := by
  have numbers : (pixelsAt width height places).image (fun pixel => (pixel.val : Int)) =
      places.image fun place => pixelNumber width place.1 place.2 := by
    ext number
    simp only [pixelsAt, Finset.mem_image, Finset.mem_filter, Finset.mem_univ, true_and]
    constructor
    · rintro ⟨pixel, ⟨place, member, found⟩, rfl⟩
      obtain ⟨other, otherFound, count⟩ := cellAt_of_inside (inside place member)
      obtain rfl := Option.some.inj (found.symm.trans otherFound)
      exact ⟨place, member, count.symm⟩
    · rintro ⟨place, member, rfl⟩
      obtain ⟨pixel, found, count⟩ := cellAt_of_inside (inside place member)
      exact ⟨pixel, ⟨place, member, found⟩, count⟩
  have distinctPixels : Function.Injective fun pixel : Fin (pixelCount width height) =>
      (pixel.val : Int) := fun first second same => Fin.ext (Int.ofNat.inj same)
  have distinctPlaces : Set.InjOn (fun place : Int × Int => pixelNumber width place.1 place.2)
      places := by
    intro first member second otherMember same
    obtain ⟨column, row⟩ := pixelNumber_injective (inside first member).1
      (inside second otherMember).1 same
    exact Prod.ext column row
  rw [← Finset.card_image_of_injective _ distinctPixels, numbers,
    Finset.card_image_of_injOn distinctPlaces]

/-- The lit pixels at some places are those at the lit ones of the places. -/
theorem litPixels_inter_pixelsAt (display : Display width height) (places : Finset (Int × Int)) :
    display.litPixels ∩ pixelsAt width height places =
      pixelsAt width height (places.filter fun place =>
        display.query place.1 place.2 = .ok true) := by
  ext pixel
  simp only [litPixels, pixelsAt, Finset.mem_inter, Finset.mem_filter, Finset.mem_univ, true_and]
  constructor
  · rintro ⟨lit, place, member, found⟩
    exact ⟨place, ⟨member, (query_of_cellAt found).trans (congrArg _ lit)⟩, found⟩
  · rintro ⟨place, ⟨member, lit⟩, found⟩
    exact ⟨Except.ok.inj ((query_of_cellAt found).symm.trans lit), place, member, found⟩

/-- What is in exactly one of two sets is counted twice less if it is in both. -/
theorem card_symmDiff {α : Type} [DecidableEq α] (first second : Finset α) :
    (symmDiff first second).card + 2 * (first ∩ second).card = first.card + second.card := by
  have left := Finset.card_sdiff_add_card_inter first second
  have right := Finset.card_sdiff_add_card_inter second first
  have apart : Disjoint (first \ second) (second \ first) := disjoint_sdiff_sdiff
  rw [Finset.inter_comm] at right
  rw [Finset.symmDiff_def, Finset.card_union_of_disjoint apart]
  omega

section Corner

variable (sprite : List UInt8) {x y : Int} (right : 0 ≤ x) (below : 0 ≤ y)
include right below

/-- The footprint of a sprite consists of the places below its set bits. -/
theorem mem_footprint_iff (column row : Int) :
    (column, row) ∈ footprint width height sprite x y ↔
      Inside width height column row ∧ spriteBit sprite (column - x) (row - y) = true := by
  simp only [footprint, Finset.mem_image, Finset.mem_filter, Finset.mem_product, Finset.mem_range,
    Prod.mk.injEq, Prod.exists]
  constructor
  · rintro ⟨across, down, ⟨⟨within, short⟩, ⟨reach, visible⟩, set⟩, rfl, rfl⟩
    refine ⟨⟨by omega, by omega⟩, ?_⟩
    have columns : x + across - x = (across : Int) := by omega
    have rows : y + down - y = (down : Int) := by omega
    have bounds : ((0 : Int) ≤ across ∧ (across : Int) < 8) ∧ (0 : Int) ≤ down := by omega
    rw [columns, rows, spriteBit, decide_eq_true bounds]
    exact set
  · rintro ⟨⟨columnInside, rowInside⟩, set⟩
    obtain ⟨columns, rows⟩ := bounds_of_spriteBit set
    rw [spriteBit, Bool.and_eq_true] at set
    exact ⟨(column - x).toNat, (row - y).toNat,
      ⟨⟨by omega, by omega⟩, ⟨by omega, by omega⟩, set.2⟩, by omega, by omega⟩

/-- The footprint lies inside the bitmap. -/
theorem inside_of_mem_footprint {place : Int × Int}
    (member : place ∈ footprint width height sprite x y) :
    Inside width height place.1 place.2 :=
  ((mem_footprint_iff sprite right below place.1 place.2).mp member).1

/-- Drawing inverts the pixels of the footprint and no others. -/
theorem litPixels_draw (display : Display width height) :
    (display.draw sprite x y).1.litPixels =
      symmDiff display.litPixels (pixelsAt width height (footprint width height sprite x y)) := by
  obtain ⟨after, hit, drawn, pixels⟩ := drawTargets_pixels display false
    (spriteTargets width height sprite x y) (cellAt_spriteTargets sprite right below)
  rw [draw, drawn]
  ext pixel
  have named : (∃ target ∈ spriteTargets width height sprite x y, target.2 = true ∧
      cellAt (pixelCount width height) target.1 = some pixel) ↔
        pixel ∈ pixelsAt width height (footprint width height sprite x y) := by
    simp only [pixelsAt, Finset.mem_filter, Finset.mem_univ, true_and]
    constructor
    · rintro ⟨target, member, set, found⟩
      obtain ⟨column, row, inside, number, bit⟩ :=
        place_of_mem_spriteTargets sprite right below member
      exact ⟨(column, row), (mem_footprint_iff sprite right below column row).mpr
        ⟨inside, bit.symm.trans set⟩, number ▸ found⟩
    · rintro ⟨⟨column, row⟩, member, found⟩
      obtain ⟨inside, set⟩ := (mem_footprint_iff sprite right below column row).mp member
      exact ⟨_, mem_spriteTargets_of_spriteBit sprite inside set, rfl, found⟩
  rw [Finset.mem_symmDiff, ← named,
    ← odd_strokes_iff _ _ (distinct_spriteTargets sprite right below)]
  simp only [litPixels, Finset.mem_filter, Finset.mem_univ, true_and, pixels pixel]
  by_cases odd : strokes width height (spriteTargets width height sprite x y) pixel % 2 = 1
  · simp [odd]
  · simp [odd]

/-- How many pixels are lit after a drawing. -/
theorem litCount_draw (display : Display width height) :
    ((display.draw sprite x y).1.litCount : Int) =
      display.litCount + (footprint width height sprite x y).card -
        2 * ((footprint width height sprite x y).filter fun place =>
          display.query place.1 place.2 = .ok true).card := by
  have inside : ∀ place ∈ footprint width height sprite x y,
      Inside width height place.1 place.2 :=
    fun place member => inside_of_mem_footprint sprite right below member
  have litInside : ∀ place ∈ (footprint width height sprite x y).filter fun place =>
      display.query place.1 place.2 = .ok true, Inside width height place.1 place.2 :=
    fun place member => inside place (Finset.mem_filter.mp member).1
  have counted := card_symmDiff display.litPixels
    (pixelsAt width height (footprint width height sprite x y))
  rw [← litPixels_draw sprite right below, litPixels_inter_pixelsAt, card_pixelsAt inside,
    card_pixelsAt litInside, ← litCount_eq_card, ← litCount_eq_card] at counted
  omega

/-- A drawing in terms of its footprint. -/
theorem draw_footprint (display : Display width height) :
    ∃ hit, (display.draw sprite x y).2 = .ok hit ∧
      (∀ column row, Inside width height column row →
        (display.draw sprite x y).1.query column row = (display.query column row).map
          (· != decide ((column, row) ∈ footprint width height sprite x y))) ∧
      (hit = true ↔ ∃ place ∈ footprint width height sprite x y,
        display.query place.1 place.2 = .ok true) := by
  obtain ⟨after, hit, drawn, inverts, meaning⟩ := draw_sprite sprite right below display
  rw [drawn]
  refine ⟨hit, rfl, ?_, ?_⟩
  · intro column row inside
    have covered : decide ((column, row) ∈ footprint width height sprite x y) =
        spriteBit sprite (column - x) (row - y) := by
      rw [Bool.eq_iff_iff, decide_eq_true_eq, mem_footprint_iff sprite right below]
      exact and_iff_right inside
    rw [inverts column row inside, covered]
  · rw [meaning]
    constructor
    · rintro ⟨column, row, inside, lit, set⟩
      have member := (mem_footprint_iff sprite right below column row).mpr ⟨inside, set⟩
      exact ⟨(column, row), member, lit⟩
    · rintro ⟨⟨column, row⟩, member, lit⟩
      obtain ⟨inside, set⟩ := (mem_footprint_iff sprite right below column row).mp member
      exact ⟨column, row, inside, lit, set⟩

/-- After a drawing, the lit places of its footprint are those that were dark before it. -/
theorem query_draw_eq_true_iff (display : Display width height) {place : Int × Int}
    (member : place ∈ footprint width height sprite x y) :
    (display.draw sprite x y).1.query place.1 place.2 = .ok true ↔
      display.query place.1 place.2 = .ok false := by
  have inside := inside_of_mem_footprint sprite right below member
  obtain ⟨hit, -, inverts, -⟩ := draw_footprint sprite right below display
  obtain ⟨lit, found⟩ := query_of_inside display inside
  rw [inverts _ _ inside, found, decide_eq_true member]
  cases lit
  · exact ⟨fun _ => rfl, fun _ => rfl⟩
  · exact ⟨nofun, nofun⟩

end Corner

/-- What drawing a sprite twice in a row at the same place does to a bitmap, and what the two
drawings answer. -/
structure DrawnTwice (display : Display width height) (sprite : List UInt8) (x y : Int)
    (hit again : Bool) : Prop where
  /-- The first drawing is completed. -/
  drawn : (display.draw sprite x y).2 = .ok hit
  /-- So is the second one. -/
  redrawn : ((display.draw sprite x y).1.draw sprite x y).2 = .ok again
  /-- The first one answers whether some place of the footprint was lit. -/
  hit_iff : hit = true ↔ ∃ place ∈ footprint width height sprite x y,
    display.query place.1 place.2 = .ok true
  /-- It inverts the places of the footprint and no others. -/
  inverts : ∀ column row, Inside width height column row →
    (display.draw sprite x y).1.query column row = (display.query column row).map
      (· != decide ((column, row) ∈ footprint width height sprite x y))
  /-- The dark places of the footprint are added to those that are lit, and its lit ones are taken
  away. -/
  litCount : ((display.draw sprite x y).1.litCount : Int) =
    display.litCount + (footprint width height sprite x y).card -
      2 * ((footprint width height sprite x y).filter fun place =>
        display.query place.1 place.2 = .ok true).card
  /-- One of the two finds a lit place, unless the footprint is empty. -/
  hit_or_again_iff : hit = true ∨ again = true ↔ (footprint width height sprite x y).Nonempty
  /-- The second one answers whether some place of the footprint was dark at first. -/
  again_iff : again = true ↔ ∃ place ∈ footprint width height sprite x y,
    display.query place.1 place.2 = .ok false

/-- A sprite whose upper left corner has no negative coordinate is drawn twice in a row: each time
its footprint is inverted, and the answer is whether some place of the footprint was lit.

Proof: after the first drawing, the places of the footprint that are lit are those that were dark
before it. -/
theorem draw_twice {x y : Int} (right : 0 ≤ x) (below : 0 ≤ y) (display : Display width height)
    (sprite : List UInt8) : ∃ hit again, DrawnTwice display sprite x y hit again := by
  obtain ⟨hit, drawn, inverts, hitIff⟩ := draw_footprint sprite right below display
  obtain ⟨again, redrawn, -, litIff⟩ :=
    draw_footprint sprite right below (display.draw sprite x y).1
  have againIff : again = true ↔ ∃ place ∈ footprint width height sprite x y,
      display.query place.1 place.2 = .ok false := by
    rw [litIff]
    constructor
    · rintro ⟨place, member, lit⟩
      exact ⟨place, member, (query_draw_eq_true_iff sprite right below display member).mp lit⟩
    · rintro ⟨place, member, dark⟩
      exact ⟨place, member, (query_draw_eq_true_iff sprite right below display member).mpr dark⟩
  refine ⟨hit, again, drawn, redrawn, hitIff, inverts, litCount_draw sprite right below display, ?_,
    againIff⟩
  rw [hitIff, againIff]
  constructor
  · rintro (⟨place, member, -⟩ | ⟨place, member, -⟩)
    · exact ⟨place, member⟩
    · exact ⟨place, member⟩
  · rintro ⟨place, member⟩
    have inside := inside_of_mem_footprint sprite right below member
    obtain ⟨lit, found⟩ := query_of_inside display inside
    cases lit with
    | true => exact Or.inl ⟨place, member, found⟩
    | false => exact Or.inr ⟨place, member, found⟩

/-- On a dark bitmap of ten columns and two rows, a sprite of two full rows is drawn twice in the
lower right corner, where five of its bits are left. The first drawing hits nothing and lights five
pixels, and the second one darkens them. -/
theorem draw_twice_of_clipped_sprite :
    ((0 : Int) ≤ 5 ∧ (0 : Int) ≤ 1) ∧
      let bitmap : Display 10 2 := dark
      (bitmap.draw [0xFF, 0xFF] 5 1).2 = .ok false ∧
      (bitmap.draw [0xFF, 0xFF] 5 1).1.litCount = 5 ∧
      ((bitmap.draw [0xFF, 0xFF] 5 1).1.draw [0xFF, 0xFF] 5 1).2 = .ok true := by
  refine ⟨⟨by decide, by decide⟩, ?_⟩
  intro bitmap
  obtain ⟨hit, again, twice⟩ :=
    @draw_twice 10 2 5 1 (by decide) (by decide) bitmap [0xFF, 0xFF]
  have noneLit : ¬ ∃ place ∈ footprint 10 2 [0xFF, 0xFF] 5 1,
      bitmap.query place.1 place.2 = .ok true := by decide +kernel
  obtain rfl : hit = false := Bool.eq_false_iff.mpr fun wasHit => noneLit (twice.hit_iff.mp wasHit)
  obtain rfl : again = true := twice.again_iff.mpr (by decide +kernel)
  have counted := twice.litCount
  refine ⟨twice.drawn, ?_, twice.redrawn⟩
  have before : bitmap.litCount = 0 := by decide +kernel
  have five : (footprint 10 2 [0xFF, 0xFF] 5 1).card = 5 := by decide +kernel
  have none : ((footprint 10 2 [0xFF, 0xFF] 5 1).filter fun place =>
      bitmap.query place.1 place.2 = .ok true).card = 0 := by decide +kernel
  omega

end ChipEight.Display
