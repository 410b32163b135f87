import ChipEight.Display

/-!
# What drawing does to a bitmap

A sprite is drawn as a series of bits with the numbers of the pixels that they fall on. Drawing a
series of numbered bits inverts a pixel once for each set bit that names it, so that only the
parity of their number counts. If no pixel is named twice, then the answer is whether a set bit
names a pixel that was lit.

A sprite whose upper left corner has no negative coordinate names each pixel at most once, since
the numbers go up from bit to bit. Its bits beyond the right and the lower edge name nothing. So
such a sprite is always drawn, it inverts exactly the pixels under its set bits, and the answer is
whether one of them was lit.
-/

namespace ChipEight.Display

variable {width height : Int}

/-! ## Series of numbered bits -/

/-- How many set bits of a series name a pixel. -/
def strokes (width height : Int) (targets : List (Int × Bool))
    (pixel : Fin (pixelCount width height)) : Nat :=
  targets.countP fun target => target.2 && cellAt (pixelCount width height) target.1 == some pixel

/-- A series that names pixels only is drawn to its end. It inverts each pixel as often as its set
bits name it. -/
theorem drawTargets_pixels (display : Display width height) (hit : Bool)
    (targets : List (Int × Bool))
    (named : ∀ target ∈ targets, ∃ pixel, cellAt (pixelCount width height) target.1 = some pixel) :
    ∃ after answer, display.drawTargets hit targets = (after, .ok answer) ∧
      ∀ pixel : Fin (pixelCount width height), after.isLit pixel =
        (display.isLit pixel != decide (strokes width height targets pixel % 2 = 1)) := by
  induction targets generalizing display hit with
  | nil => exact ⟨display, hit, rfl, fun pixel => by simp [strokes]⟩
  | cons target rest inductionHypothesis =>
    obtain ⟨number, bit⟩ := target
    obtain ⟨first, found⟩ := named (number, bit) List.mem_cons_self
    have others : ∀ target ∈ rest,
        ∃ pixel, cellAt (pixelCount width height) target.1 = some pixel :=
      fun target member => named target (List.mem_cons_of_mem _ member)
    obtain ⟨after, answer, drawn, pixels⟩ := inductionHypothesis
      ⟨display.pixels.set first (display.isLit first != bit)⟩
      (hit || (display.isLit first && bit)) others
    refine ⟨after, answer, ?_, ?_⟩
    · simp only [drawTargets, found]
      exact drawn
    · intro pixel
      have counted : strokes width height ((number, bit) :: rest) pixel =
          strokes width height rest pixel + if bit = true ∧ first = pixel then 1 else 0 := by
        simp only [strokes, List.countP_cons, found, Option.some_beq_some, Bool.and_eq_true,
          beq_iff_eq]
      rw [pixels pixel, counted]
      simp only [isLit_set]
      have parity : strokes width height rest pixel % 2 = 0 ∨
          strokes width height rest pixel % 2 = 1 := Nat.mod_two_eq_zero_or_one _
      by_cases same : first = pixel
      · subst same
        cases bit
        · simp
        · rcases parity with even | odd
          · simp [Nat.add_mod, even]
          · simp [Nat.add_mod, odd]
      · simp [same]

/-- Whether the pixel that a number names is lit. -/
def litAt (display : Display width height) (number : Int) : Bool :=
  match cellAt (pixelCount width height) number with
  | some pixel => display.isLit pixel
  | none => false

/-- The answer of a series that names no pixel twice: a set bit names a lit pixel. Since a pixel is
drawn on only once, it is still as it was at the beginning when its turn comes. -/
theorem drawTargets_answer (display : Display width height) (hit : Bool)
    (targets : List (Int × Bool))
    (named : ∀ target ∈ targets, ∃ pixel, cellAt (pixelCount width height) target.1 = some pixel)
    (distinct : targets.Pairwise fun first second =>
      cellAt (pixelCount width height) first.1 ≠ cellAt (pixelCount width height) second.1) :
    ∃ answer, (display.drawTargets hit targets).2 = .ok answer ∧
      (answer = true ↔
        hit = true ∨ ∃ target ∈ targets, target.2 = true ∧ display.litAt target.1 = true) := by
  induction targets generalizing display hit with
  | nil => exact ⟨hit, rfl, by simp⟩
  | cons target rest inductionHypothesis =>
    obtain ⟨number, bit⟩ := target
    obtain ⟨first, found⟩ := named (number, bit) List.mem_cons_self
    have others : ∀ target ∈ rest,
        ∃ pixel, cellAt (pixelCount width height) target.1 = some pixel :=
      fun target member => named target (List.mem_cons_of_mem _ member)
    obtain ⟨apart, restDistinct⟩ := List.pairwise_cons.mp distinct
    have untouched : ∀ target ∈ rest,
        litAt ⟨display.pixels.set first (display.isLit first != bit)⟩ target.1 =
          display.litAt target.1 := by
      intro target member
      obtain ⟨pixel, pixelFound⟩ := others target member
      have differs : first ≠ pixel := by
        intro same
        apply apart target member
        rw [found, pixelFound, same]
      simp only [litAt, pixelFound, isLit_set, if_neg differs]
    obtain ⟨answer, drawn, meaning⟩ := inductionHypothesis
      ⟨display.pixels.set first (display.isLit first != bit)⟩
      (hit || (display.isLit first && bit)) others restDistinct
    refine ⟨answer, ?_, ?_⟩
    · simp only [drawTargets, found]
      exact drawn
    · have headLit : display.litAt number = display.isLit first := by simp only [litAt, found]
      rw [meaning, Bool.or_eq_true, Bool.and_eq_true]
      constructor
      · rintro ((hitBefore | ⟨lit, set⟩) | ⟨target, member, set, lit⟩)
        · exact Or.inl hitBefore
        · exact Or.inr ⟨(number, bit), List.mem_cons_self, set, headLit.trans lit⟩
        · rw [untouched target member] at lit
          exact Or.inr ⟨target, List.mem_cons_of_mem _ member, set, lit⟩
      · rintro (hitBefore | ⟨target, member, set, lit⟩)
        · exact Or.inl (Or.inl hitBefore)
        · rcases List.mem_cons.mp member with rfl | member
          · exact Or.inl (Or.inr ⟨headLit.symm.trans lit, set⟩)
          · rw [← untouched target member] at lit
            exact Or.inr ⟨target, member, set, lit⟩

/-! ## The series of a sprite -/

/-- A pixel has its column and its row inside the bitmap. -/
def Inside (width height column row : Int) : Prop :=
  (0 ≤ column ∧ column < width) ∧ 0 ≤ row ∧ row < height

/-- Counting from the left and downwards, the numbers of the pixels go up from row to row. -/
theorem pixelNumber_lt_of_row_lt {column row other below : Int}
    (first : 0 ≤ column ∧ column < width) (second : 0 ≤ other ∧ other < width)
    (lower : row < below) : pixelNumber width column row < pixelNumber width other below := by
  have rows : (row + 1) * width ≤ below * width :=
    Int.mul_le_mul_of_nonneg_right (by omega) (by omega)
  have next : (row + 1) * width = row * width + width := by rw [Int.add_mul, Int.one_mul]
  unfold pixelNumber
  omega

/-- Two places inside the bitmap have different numbers. -/
theorem pixelNumber_injective {column row other below : Int}
    (first : 0 ≤ column ∧ column < width) (second : 0 ≤ other ∧ other < width)
    (same : pixelNumber width column row = pixelNumber width other below) :
    column = other ∧ row = below := by
  rcases Int.lt_trichotomy row below with lower | level | higher
  · have := pixelNumber_lt_of_row_lt first second lower
    omega
  · subst level
    unfold pixelNumber at same
    omega
  · have := pixelNumber_lt_of_row_lt second first higher
    omega

/-- A place inside the bitmap has a pixel, which is the one with its number. -/
theorem cellAt_of_inside {column row : Int} (inside : Inside width height column row) :
    ∃ pixel, cellAt (pixelCount width height) (pixelNumber width column row) = some pixel ∧
      (pixel.val : Int) = pixelNumber width column row := by
  obtain ⟨columnInside, rowInside⟩ := inside
  have count : ((pixelCount width height : Nat) : Int) = height * width := by
    rw [pixelCount, Int.natCast_mul, Int.toNat_of_nonneg (by omega), Int.toNat_of_nonneg (by omega),
      Int.mul_comm]
  have nonneg : 0 ≤ pixelNumber width column row := by
    have := Int.mul_nonneg rowInside.1 (show 0 ≤ width by omega)
    unfold pixelNumber
    omega
  have bounded : pixelNumber width column row < height * width := by
    have := pixelNumber_lt_of_row_lt columnInside
      (⟨Int.le_refl 0, by omega⟩ : (0 : Int) ≤ 0 ∧ 0 < width) rowInside.2
    simpa [pixelNumber] using this
  have room : (pixelNumber width column row).toNat < pixelCount width height := by omega
  refine ⟨⟨(pixelNumber width column row).toNat, room⟩, ?_, Int.toNat_of_nonneg nonneg⟩
  rw [cellAt_eq_some_iff]
  exact Or.inl (Int.toNat_of_nonneg nonneg).symm

/-- Since positions go up, keeping them up to the first one that reaches a limit is keeping all
those below it. -/
theorem takeWhile_zipIdx_eq_filter {α : Type} (values : List α) (first : Nat)
    (origin limit : Int) :
    (values.zipIdx first).takeWhile (fun entry => origin + entry.2 < limit) =
      (values.zipIdx first).filter fun entry => origin + entry.2 < limit := by
  induction values generalizing first with
  | nil => rfl
  | cons head rest inductionHypothesis =>
    rw [List.zipIdx_cons, List.takeWhile_cons, List.filter_cons, inductionHypothesis]
    by_cases before : origin + first < limit
    · simp only [before, decide_true, if_true]
    · have later :
          (rest.zipIdx (first + 1)).filter (fun entry => origin + entry.2 < limit) = [] := by
        rw [List.filter_eq_nil_iff]
        rintro ⟨value, position⟩ member
        have above := List.le_snd_of_mem_zipIdx member
        simp only [decide_eq_true_eq]
        omega
      simp only [before, decide_false, Bool.false_eq_true, if_false, later]

/-- So an entry is kept exactly if its position is below the limit. -/
theorem mem_takeWhile_zipIdx {α : Type} (values : List α) (first : Nat) (origin limit : Int)
    (value : α) (position : Nat) :
    (value, position) ∈ (values.zipIdx first).takeWhile (fun entry => origin + entry.2 < limit) ↔
      (value, position) ∈ values.zipIdx first ∧ origin + position < limit := by
  rw [takeWhile_zipIdx_eq_filter, List.mem_filter, decide_eq_true_eq]

/-- The positions of a list go up, also in a part of it from the beginning. -/
theorem pairwise_takeWhile_zipIdx {α : Type} (values : List α) (kept : α × Nat → Bool) :
    (values.zipIdx.takeWhile kept).Pairwise fun first second => first.2 < second.2 := by
  apply List.Pairwise.sublist (List.takeWhile_sublist kept)
  rw [← List.pairwise_map (f := Prod.snd) (R := fun first second => first < second),
    List.zipIdx_map_snd]
  exact List.pairwise_lt_range'

/-- The bit of a sprite in a column, counted from the left, and a row, counted from above. There are
no set bits to either side of the eight columns, above the sprite or below it. -/
def spriteBit (sprite : List UInt8) (column row : Int) : Bool :=
  decide ((0 ≤ column ∧ column < 8) ∧ 0 ≤ row) &&
    ((sprite[row.toNat]?).getD 0).toBitVec.getLsbD (7 - column.toNat)

/-- A set bit of a sprite is in one of its eight columns and in one of its rows. -/
theorem bounds_of_spriteBit {sprite : List UInt8} {column row : Int}
    (set : spriteBit sprite column row = true) :
    (0 ≤ column ∧ column < 8) ∧ 0 ≤ row ∧ row < sprite.length := by
  unfold spriteBit at set
  rw [Bool.and_eq_true, decide_eq_true_eq] at set
  obtain ⟨⟨columns, above⟩, bit⟩ := set
  refine ⟨columns, above, ?_⟩
  rcases Int.lt_or_le row sprite.length with within | below
  · exact within
  · rw [List.getElem?_eq_none (by omega)] at bit
    simp at bit

/-- The series of a row: one entry for each of the eight columns up to the right edge. -/
theorem mem_rowTargets (bits : UInt8) (x y : Int) (target : Int × Bool) :
    target ∈ rowTargets width bits x y ↔ ∃ column : Nat, column < 8 ∧ x + column < width ∧
      target = (pixelNumber width (x + column) y, bits.toBitVec.getLsbD (7 - column)) := by
  have entry (bit : Bool) (column : Nat) : (bit, column) ∈ (rowBits bits).zipIdx ↔
      column < 8 ∧ bit = bits.toBitVec.getLsbD (7 - column) := by
    rw [List.mk_mem_zipIdx_iff_getElem?, rowBits, List.getElem?_map]
    by_cases within : column < 8
    · simp [within, eq_comm]
    · simp [within]
  unfold rowTargets
  rw [List.mem_map]
  constructor
  · rintro ⟨⟨bit, column⟩, member, rfl⟩
    obtain ⟨counted, visible⟩ := (mem_takeWhile_zipIdx _ 0 x width bit column).mp member
    obtain ⟨within, rfl⟩ := (entry bit column).mp counted
    exact ⟨column, within, visible, rfl⟩
  · rintro ⟨column, within, visible, rfl⟩
    refine ⟨(bits.toBitVec.getLsbD (7 - column), column), ?_, rfl⟩
    rw [mem_takeWhile_zipIdx]
    exact ⟨(entry _ column).mpr ⟨within, rfl⟩, visible⟩

/-- The series of a sprite: one entry for each of its bits up to the right and the lower edge. -/
theorem mem_spriteTargets (sprite : List UInt8) (x y : Int) (target : Int × Bool) :
    target ∈ spriteTargets width height sprite x y ↔
      ∃ column row : Nat, (column < 8 ∧ x + column < width) ∧
        (row < sprite.length ∧ y + row < height) ∧
        target = (pixelNumber width (x + column) (y + row), spriteBit sprite column row) := by
  have bit {row : Nat} {bits : UInt8} (counted : sprite[row]? = some bits) {column : Nat}
      (within : column < 8) :
      spriteBit sprite column row = bits.toBitVec.getLsbD (7 - column) := by
    have inside : ((0 : Int) ≤ column ∧ (column : Int) < 8) ∧ (0 : Int) ≤ row := by omega
    simp [spriteBit, inside, counted]
  unfold spriteTargets
  rw [List.mem_flatMap]
  constructor
  · rintro ⟨⟨bits, row⟩, member, inRow⟩
    obtain ⟨counted, visible⟩ := (mem_takeWhile_zipIdx _ 0 y height bits row).mp member
    rw [List.mk_mem_zipIdx_iff_getElem?] at counted
    obtain ⟨column, within, reach, rfl⟩ := (mem_rowTargets bits x (y + row) target).mp inRow
    obtain ⟨short, -⟩ := List.getElem?_eq_some_iff.mp counted
    exact ⟨column, row, ⟨within, reach⟩, ⟨short, visible⟩, by rw [bit counted within]⟩
  · rintro ⟨column, row, ⟨within, reach⟩, ⟨short, visible⟩, rfl⟩
    have counted : sprite[row]? = some sprite[row] := List.getElem?_eq_getElem short
    refine ⟨(sprite[row], row), ?_, ?_⟩
    · rw [mem_takeWhile_zipIdx, List.mk_mem_zipIdx_iff_getElem?]
      exact ⟨counted, visible⟩
    · rw [mem_rowTargets]
      exact ⟨column, within, reach, by rw [bit counted within]⟩

/-- With its upper left corner not to the left of the bitmap, the series of a sprite names numbers
that go up. -/
theorem pairwise_spriteTargets (sprite : List UInt8) {x : Int} (y : Int) (right : 0 ≤ x) :
    (spriteTargets width height sprite x y).Pairwise fun first second => first.1 < second.1 := by
  unfold spriteTargets
  rw [List.pairwise_flatMap]
  constructor
  · rintro ⟨bits, row⟩ -
    unfold rowTargets
    rw [List.pairwise_map]
    apply (pairwise_takeWhile_zipIdx (rowBits bits) _).imp
    intro first second later
    simp only [pixelNumber]
    omega
  · apply (pairwise_takeWhile_zipIdx sprite _).imp
    rintro ⟨bits, row⟩ ⟨others, below⟩ later first firstMember second secondMember
    obtain ⟨column, -, reach, rfl⟩ := (mem_rowTargets bits x _ first).mp firstMember
    obtain ⟨other, -, otherReach, rfl⟩ := (mem_rowTargets others x _ second).mp secondMember
    apply pixelNumber_lt_of_row_lt
    · omega
    · omega
    · simp only at later
      omega

/-! ## Drawing a sprite -/

/-- A series that names no pixel twice inverts the pixels that its set bits name. -/
theorem odd_strokes_iff (targets : List (Int × Bool)) (pixel : Fin (pixelCount width height))
    (distinct : targets.Pairwise fun first second =>
      cellAt (pixelCount width height) first.1 ≠ cellAt (pixelCount width height) second.1) :
    strokes width height targets pixel % 2 = 1 ↔
      ∃ target ∈ targets, target.2 = true ∧
        cellAt (pixelCount width height) target.1 = some pixel := by
  induction targets with
  | nil => simp [strokes]
  | cons target rest inductionHypothesis =>
    obtain ⟨apart, restDistinct⟩ := List.pairwise_cons.mp distinct
    have law := inductionHypothesis restDistinct
    unfold strokes at law ⊢
    rw [List.countP_cons]
    by_cases stroke : target.2 = true ∧ cellAt (pixelCount width height) target.1 = some pixel
    · -- This bit is the only one that names the pixel.
      have alone : rest.countP (fun other =>
          other.2 && cellAt (pixelCount width height) other.1 == some pixel) = 0 := by
        rw [List.countP_eq_zero]
        intro other member named
        rw [Bool.and_eq_true, beq_iff_eq] at named
        exact apart other member (stroke.2.trans named.2.symm)
      rw [alone]
      constructor
      · intro _
        exact ⟨target, List.mem_cons_self, stroke⟩
      · intro _
        simp [stroke.1, stroke.2]
    · have idle :
          (target.2 && cellAt (pixelCount width height) target.1 == some pixel) = false := by
        rw [Bool.and_eq_false_imp]
        intro set
        rw [beq_eq_false_iff_ne]
        intro named
        exact stroke ⟨set, named⟩
      rw [idle, if_neg Bool.false_ne_true, Nat.add_zero, law]
      constructor
      · rintro ⟨other, member, named⟩
        exact ⟨other, List.mem_cons_of_mem _ member, named⟩
      · rintro ⟨other, member, named⟩
        rcases List.mem_cons.mp member with rfl | member
        · exact absurd named stroke
        · exact ⟨other, member, named⟩

/-- Inside the bitmap, a query answers with the pixel that has the place's number. -/
theorem query_of_cellAt {display : Display width height} {column row : Int}
    {pixel : Fin (pixelCount width height)}
    (named : cellAt (pixelCount width height) (pixelNumber width column row) = some pixel) :
    display.query column row = .ok (display.isLit pixel) := by
  simp only [query, named]

/-- A query inside the bitmap has an answer. -/
theorem query_of_inside (display : Display width height) {column row : Int}
    (inside : Inside width height column row) : ∃ lit, display.query column row = .ok lit := by
  obtain ⟨pixel, named, -⟩ := cellAt_of_inside inside
  exact ⟨_, query_of_cellAt named⟩

/-- A dark bitmap is dark everywhere. -/
theorem query_dark {column row : Int} (inside : Inside width height column row) :
    (dark : Display width height).query column row = .ok false := by
  obtain ⟨pixel, named, -⟩ := cellAt_of_inside inside
  rw [query_of_cellAt named]
  simp only [isLit, dark, Fin.getElem_fin, Vector.getElem_replicate]

section Corner

variable (sprite : List UInt8) {x y : Int} (right : 0 ≤ x) (below : 0 ≤ y)
include right below

/-- Each entry of the series of a sprite is the bit of a place inside the bitmap. -/
theorem place_of_mem_spriteTargets {target : Int × Bool}
    (member : target ∈ spriteTargets width height sprite x y) :
    ∃ column row, Inside width height column row ∧ target.1 = pixelNumber width column row ∧
      target.2 = spriteBit sprite (column - x) (row - y) := by
  obtain ⟨column, row, ⟨-, reach⟩, ⟨-, visible⟩, rfl⟩ := (mem_spriteTargets ..).mp member
  refine ⟨x + column, y + row, ⟨by omega, by omega⟩, rfl, ?_⟩
  rw [show x + column - x = (column : Int) by omega, show y + row - y = (row : Int) by omega]

/-- So each entry names a pixel. -/
theorem cellAt_spriteTargets : ∀ target ∈ spriteTargets width height sprite x y,
    ∃ pixel, cellAt (pixelCount width height) target.1 = some pixel := by
  intro target member
  obtain ⟨column, row, inside, number, -⟩ := place_of_mem_spriteTargets sprite right below member
  obtain ⟨pixel, found, -⟩ := cellAt_of_inside inside
  exact ⟨pixel, number ▸ found⟩

/-- No two entries name the same pixel. -/
theorem distinct_spriteTargets :
    (spriteTargets width height sprite x y).Pairwise fun first second =>
      cellAt (pixelCount width height) first.1 ≠ cellAt (pixelCount width height) second.1 := by
  apply (pairwise_spriteTargets sprite y right).imp_of_mem
  intro first second firstMember secondMember lower same
  obtain ⟨column, row, inside, number, -⟩ :=
    place_of_mem_spriteTargets sprite right below firstMember
  obtain ⟨other, line, otherInside, otherNumber, -⟩ :=
    place_of_mem_spriteTargets sprite right below secondMember
  obtain ⟨pixel, found, count⟩ := cellAt_of_inside inside
  obtain ⟨twin, otherFound, otherCount⟩ := cellAt_of_inside otherInside
  rw [number, found, otherNumber, otherFound, Option.some.injEq] at same
  subst same
  omega

omit right below in
/-- A set bit of the sprite above a place inside the bitmap is in the series. -/
theorem mem_spriteTargets_of_spriteBit {column row : Int} (inside : Inside width height column row)
    (set : spriteBit sprite (column - x) (row - y) = true) :
    (pixelNumber width column row, true) ∈ spriteTargets width height sprite x y := by
  obtain ⟨columns, rows⟩ := bounds_of_spriteBit set
  obtain ⟨columnInside, rowInside⟩ := inside
  rw [mem_spriteTargets]
  refine ⟨(column - x).toNat, (row - y).toNat, by omega, by omega, ?_⟩
  rw [Int.toNat_of_nonneg columns.1, Int.toNat_of_nonneg rows.1, set,
    show x + (column - x) = column by omega, show y + (row - y) = row by omega]

/-- The series inverts the pixels under the set bits of the sprite and no others. -/
theorem odd_strokes_spriteTargets {column row : Int} (inside : Inside width height column row)
    {pixel : Fin (pixelCount width height)}
    (found : cellAt (pixelCount width height) (pixelNumber width column row) = some pixel) :
    strokes width height (spriteTargets width height sprite x y) pixel % 2 = 1 ↔
      spriteBit sprite (column - x) (row - y) = true := by
  rw [odd_strokes_iff _ _ (distinct_spriteTargets sprite right below)]
  constructor
  · rintro ⟨target, member, set, targetFound⟩
    obtain ⟨other, line, otherInside, number, bit⟩ :=
      place_of_mem_spriteTargets sprite right below member
    obtain ⟨pixel, otherFound, count⟩ := cellAt_of_inside inside
    obtain ⟨twin, twinFound, twinCount⟩ := cellAt_of_inside otherInside
    rw [number, ← found, otherFound, twinFound, Option.some.injEq] at targetFound
    subst targetFound
    obtain ⟨rfl, rfl⟩ :=
      pixelNumber_injective inside.1 otherInside.1 (count.symm.trans twinCount)
    exact bit.symm.trans set
  · intro set
    exact ⟨_, mem_spriteTargets_of_spriteBit sprite inside set, rfl, found⟩

/-- A sprite whose upper left corner has no negative coordinate is always drawn. Inside the bitmap
it inverts the pixels under its set bits and no others, and the answer is whether one of those was
lit. -/
theorem draw_sprite (display : Display width height) :
    ∃ after hit, display.draw sprite x y = (after, .ok hit) ∧
      (∀ column row, Inside width height column row →
        after.query column row =
          (display.query column row).map (· != spriteBit sprite (column - x) (row - y))) ∧
      (hit = true ↔ ∃ column row, Inside width height column row ∧
        display.query column row = .ok true ∧
        spriteBit sprite (column - x) (row - y) = true) := by
  obtain ⟨after, hit, drawn, pixels⟩ := drawTargets_pixels display false
    (spriteTargets width height sprite x y) (cellAt_spriteTargets sprite right below)
  obtain ⟨answer, answered, meaning⟩ := drawTargets_answer display false
    (spriteTargets width height sprite x y) (cellAt_spriteTargets sprite right below)
    (distinct_spriteTargets sprite right below)
  have same : hit = answer := by
    rw [drawn] at answered
    exact Except.ok.inj answered
  subst same
  refine ⟨after, hit, drawn, ?_, ?_⟩
  · intro column row inside
    obtain ⟨pixel, found, -⟩ := cellAt_of_inside inside
    have inverted : decide (strokes width height (spriteTargets width height sprite x y)
        pixel % 2 = 1) = spriteBit sprite (column - x) (row - y) := by
      rw [Bool.eq_iff_iff, decide_eq_true_eq]
      exact odd_strokes_spriteTargets sprite right below inside found
    rw [query_of_cellAt found, query_of_cellAt found, pixels pixel, inverted]
    rfl
  · rw [meaning]
    constructor
    · rintro (never | ⟨target, member, set, lit⟩)
      · exact absurd never Bool.false_ne_true
      · obtain ⟨column, row, inside, number, bit⟩ :=
          place_of_mem_spriteTargets sprite right below member
        obtain ⟨pixel, found, -⟩ := cellAt_of_inside inside
        rw [litAt, number, found] at lit
        exact ⟨column, row, inside, (query_of_cellAt found).trans (congrArg _ lit),
          bit.symm.trans set⟩
    · rintro ⟨column, row, inside, lit, set⟩
      obtain ⟨pixel, found, -⟩ := cellAt_of_inside inside
      refine Or.inr ⟨_, mem_spriteTargets_of_spriteBit sprite inside set, rfl, ?_⟩
      rw [query_of_cellAt found] at lit
      simp only [litAt, found]
      exact Except.ok.inj lit

/-- The answer of a drawing: some pixel was lit before it and is dark after it. -/
theorem draw_darkens {display after : Display width height} {hit : Bool}
    (drawn : display.draw sprite x y = (after, .ok hit)) :
    hit = true ↔ ∃ column row, Inside width height column row ∧
      display.query column row = .ok true ∧ after.query column row = .ok false := by
  obtain ⟨other, otherHit, otherDrawn, pixels, meaning⟩ := draw_sprite sprite right below display
  obtain ⟨rfl, same⟩ := Prod.mk.inj (drawn.symm.trans otherDrawn)
  obtain rfl := Except.ok.inj same
  rw [meaning]
  constructor
  · rintro ⟨column, row, inside, lit, set⟩
    refine ⟨column, row, inside, lit, ?_⟩
    rw [pixels column row inside, lit, set]
    rfl
  · rintro ⟨column, row, inside, lit, dark⟩
    rw [pixels column row inside, lit] at dark
    refine ⟨column, row, inside, lit, ?_⟩
    cases bit : spriteBit sprite (column - x) (row - y) with
    | true => rfl
    | false =>
      rw [bit] at dark
      cases dark

end Corner

end ChipEight.Display
