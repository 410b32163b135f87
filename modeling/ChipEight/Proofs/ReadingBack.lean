import ChipEight.Proofs.Painting

/-!
# Reading back what was painted

A window that was opened with some columns, rows and a scale is as large as its squares together, as
long as the coordinates can name its extent. Rendering a bitmap on it replaces its pixels and
nothing else. Afterwards every pixel of the window shows the entry of its square, every square is
read back as its entry, and what lies outside the window cannot be read. What was rendered before
does not matter, also if it was refused halfway.

With unbounded coordinates every window and every square can be named. Coordinates of 32 bits name
those of them that are small enough.
-/

namespace ChipEight

/-- If a place is taken for itself, then so are the places before it. -/
theorem Coordinates.Takes.of_le {coordinates : Coordinates} {place last scale : Int}
    (takes : coordinates.Takes (last * scale)) (nonneg : 0 ≤ place) (before : place ≤ last)
    (scaleNonneg : 0 ≤ scale) : coordinates.Takes (place * scale) := by
  have start : 0 ≤ place * scale := Int.mul_nonneg nonneg scaleNonneg
  have finish : place * scale ≤ last * scale := Int.mul_le_mul_of_nonneg_right before scaleNonneg
  rcases takes with unbounded | small
  · exact .inl unbounded
  · exact .inr (by omega)

/-- A step that is followed by others has an answer if all of them together have one. -/
theorem exists_of_bind_eq_ok {α β : Type} {first : Except ScreenFault α}
    {rest : α → Except ScreenFault β} {answer : β} (completed : first.bind rest = .ok answer) :
    ∃ value, first = .ok value ∧ rest value = .ok answer := by
  cases first with
  | error fault => cases completed
  | ok value => exact ⟨value, rfl, completed⟩

/-- Painting a rectangle replaces the pixels of a surface. -/
theorem Surface.fillRectangle_frame {surface painted : Surface} {left top width height : Int}
    {color : Color} (filled : surface.fillRectangle left top width height color = .ok painted) :
    ∃ pixels, painted = { surface with mosaic := pixels } := by
  obtain ⟨left, _, filled⟩ := exists_of_bind_eq_ok filled
  obtain ⟨top, _, filled⟩ := exists_of_bind_eq_ok filled
  obtain ⟨width, _, filled⟩ := exists_of_bind_eq_ok filled
  obtain ⟨height, _, filled⟩ := exists_of_bind_eq_ok filled
  exact ⟨_, (Except.ok.inj filled).symm⟩

/-- A window is opened with the extents that are asked for, if these are positive and not cut,
unless a 32-bit one is too large. -/
theorem Surface.openedSize_eq {coordinates : Coordinates} {width height : Int} (wide : 1 ≤ width)
    (high : 1 ≤ height) (takesWidth : coordinates.Takes width)
    (takesHeight : coordinates.Takes height) :
    openedSize coordinates width height =
      if coordinates = .signed32 ∧ (largestExtent < width ∨ largestExtent < height) then
        .error .tooLarge
      else .ok (width.toNat, height.toNat) := by
  have notNegative : ¬ (width < 0 ∨ height < 0) := by omega
  have notEmpty : ¬ (width = 0 ∧ height = 0) := by omega
  have sameWidth : max 1 width.toNat = width.toNat := by omega
  have sameHeight : max 1 height.toNat = height.toNat := by omega
  simp only [openedSize, takesWidth.cut_eq, takesHeight.cut_eq, bind, Except.bind, notNegative,
    notEmpty, sameWidth, sameHeight, if_false]
  split <;> rfl

namespace Screen

variable {screen : Screen}

/-- Painting a square replaces the pixels of a window. -/
theorem paintSquare_frame {painted : Screen} {number : Nat}
    (completed : screen.paintSquare number = .ok painted) :
    ∃ pixels, painted = screen.withPixels pixels := by
  unfold paintSquare at completed
  split at completed
  · cases completed
  · cases filled : screen.surface.fillRectangle (screen.columnOf number * screen.scale)
        (screen.rowOf number * screen.scale) screen.scale screen.scale screen.foreground with
    | error fault =>
      rw [filled] at completed
      cases completed
    | ok surface =>
      obtain ⟨pixels, rfl⟩ := Surface.fillRectangle_frame filled
      rw [filled] at completed
      exact ⟨pixels, (Except.ok.inj completed).symm⟩

/-- So does painting several squares, also if one of them is refused. -/
theorem paintSquares_frame (numbers : List Nat) :
    ∃ pixels, (screen.paintSquares numbers).1 = screen.withPixels pixels := by
  induction numbers generalizing screen with
  | nil => exact ⟨_, rfl⟩
  | cons number rest inductionHypothesis =>
    rw [paintSquares]
    cases completed : screen.paintSquare number with
    | error fault => exact ⟨_, rfl⟩
    | ok painted =>
      obtain ⟨first, rfl⟩ := paintSquare_frame completed
      exact @inductionHypothesis (screen.withPixels first)

/-- The window after some bitmaps were rendered on it, one over the other. -/
def renderAll (screen : Screen) (bitmaps : List (List Bool)) : Screen :=
  bitmaps.foldl (fun shown bitmap => (shown.render bitmap).1) screen

/-- Rendering bitmaps replaces the pixels of a window. -/
theorem renderAll_frame (bitmaps : List (List Bool)) :
    ∃ pixels, screen.renderAll bitmaps = screen.withPixels pixels := by
  induction bitmaps generalizing screen with
  | nil => exact ⟨_, rfl⟩
  | cons bitmap rest inductionHypothesis =>
    obtain ⟨first, rendered⟩ : ∃ pixels, (screen.render bitmap).1 = screen.withPixels pixels :=
      screen.cleared.paintSquares_frame (litFrom 0 bitmap)
    rw [renderAll, List.foldl_cons, rendered]
    exact @inductionHypothesis (screen.withPixels first)

/-- What a window of some measures and colours shows of a bitmap. The pixels have the colours of
their squares' entries. Squares are read back as their entries, or all as dark when the two colours
are the same, and whatever lies elsewhere is outside of the window. -/
structure Shows (screen : Screen) (coordinates : Coordinates) (columns rows scale : Int)
    (background foreground : Color) (bitmap : List Bool) : Prop where
  pixels : ∀ x y, (0 ≤ x ∧ x < columns * scale) ∧ (0 ≤ y ∧ y < rows * scale) →
    screen.surface.colorAt x y =
      if bitmap[(y / scale * columns + x / scale).toNat]? = some true then foreground
      else background
  squares : foreground ≠ background →
    ∀ column row, (0 ≤ column ∧ column < columns) ∧ (0 ≤ row ∧ row < rows) →
      screen.readSquare column row =
        .ok (bitmap[(row * columns + column).toNat]? == some true)
  alike : foreground = background →
    ∀ column row, (0 ≤ column ∧ column < columns) ∧ (0 ≤ row ∧ row < rows) →
      screen.readSquare column row = .ok false
  elsewhere : ∀ column row, ¬ ((0 ≤ column ∧ column < columns) ∧ (0 ≤ row ∧ row < rows)) →
    coordinates.Takes (column * scale) → coordinates.Takes (row * scale) →
    screen.readSquare column row = .error .outsideWindow

/-- What lies outside of the columns and rows is not read. -/
theorem readSquare_outside (fitted : screen.Fitted) {column row : Int}
    (outside : ¬ ((0 ≤ column ∧ column < screen.columns) ∧ (0 ≤ row ∧ row < screen.rows)))
    (left : screen.surface.coordinates.Takes (column * screen.scale))
    (top : screen.surface.coordinates.Takes (row * screen.scale)) :
    screen.readSquare column row = .error .outsideWindow := by
  have notInWindow : ¬ screen.InWindow (column * screen.scale) (row * screen.scale) := by
    intro inWindow
    unfold InWindow at inWindow
    rw [fitted.width, fitted.height, Int.mul_nonneg_iff_of_pos_right fitted.scale,
      Int.mul_nonneg_iff_of_pos_right fitted.scale, Int.mul_lt_mul_right fitted.scale,
      Int.mul_lt_mul_right fitted.scale] at inWindow
    exact outside inWindow
  unfold InWindow at notInWindow
  simp only [readSquare, Surface.read, left.exactly_eq, top.exactly_eq, bind, Except.bind,
    if_neg notInWindow]
  rfl

/-- The entries of a bitmap can be placed if the width of the window and the row of the last entry
are taken. -/
theorem places_of_takes (fitted : screen.Fitted) {bitmap : List Bool}
    (width : screen.surface.coordinates.Takes (screen.columns * screen.scale))
    (last : screen.surface.coordinates.Takes (bitmap.length / screen.columns * screen.scale))
    {number : Nat} (entry : number < bitmap.length) : screen.Places number := by
  have columns := fitted.columns
  have scale := Int.le_of_lt fitted.scale
  obtain ⟨column, row⟩ := columnOf_rowOf columns number
  refine ⟨?_, ?_, ?_⟩
  · rw [column]
    exact width.of_le (Int.emod_nonneg _ (Int.ne_of_gt columns))
      (Int.le_of_lt (Int.emod_lt_of_pos _ columns)) scale
  · rw [row]
    exact last.of_le (Int.ediv_nonneg (Int.natCast_nonneg number) (Int.le_of_lt columns))
      (Int.ediv_le_ediv columns (by omega)) scale
  · rw [← Int.one_mul screen.scale]
    exact width.of_le Int.one_nonneg columns scale

/-- Rendering a bitmap on a window that is as large as its squares makes the window show it. -/
theorem shows_render (fitted : screen.Fitted) {bitmap : List Bool}
    (width : screen.surface.coordinates.Takes (screen.columns * screen.scale))
    (height : screen.surface.coordinates.Takes (screen.rows * screen.scale))
    (last : screen.surface.coordinates.Takes (bitmap.length / screen.columns * screen.scale)) :
    (screen.render bitmap).2 = .ok () ∧
      (screen.render bitmap).1.Shows screen.surface.coordinates screen.columns screen.rows
        screen.scale screen.background screen.foreground bitmap := by
  have scale := Int.le_of_lt fitted.scale
  have places : ∀ number : Nat, number < bitmap.length → screen.Places number :=
    fun number entry => places_of_takes fitted width last entry
  obtain ⟨pixels, rendered, colors⟩ := render_eq fitted places
  rw [rendered]
  refine ⟨rfl, ?_, ?_, ?_, ?_⟩
  · intro x y inWindow
    rw [← fitted.width, ← fitted.height] at inWindow
    exact colors x y inWindow
  · intro distinct column row inside
    have readBack := readSquare_render fitted distinct places inside
      (width.of_le inside.1.1 (Int.le_of_lt inside.1.2) scale)
      (height.of_le inside.2.1 (Int.le_of_lt inside.2.2) scale)
    rw [rendered] at readBack
    exact readBack
  · intro alike column row inside
    have readBack := readSquare_rendered fitted places inside
      (width.of_le inside.1.1 (Int.le_of_lt inside.1.2) scale)
      (height.of_le inside.2.1 (Int.le_of_lt inside.2.2) scale)
    rw [rendered, alike, ite_self, bne_self_eq_false] at readBack
    exact readBack
  · intro column row outside left top
    exact readSquare_outside (fitted.withPixels pixels) outside left top

/-- A window with positive measures is opened as large as its squares together, if it is opened. -/
theorem create_eq {coordinates : Coordinates} {columns rows scale : Int}
    {background foreground : Color} (wide : 1 ≤ columns * scale) (high : 1 ≤ rows * scale)
    (width : coordinates.Takes (columns * scale)) (height : coordinates.Takes (rows * scale))
    (created : create coordinates columns rows scale background foreground = .ok screen) :
    screen = ⟨columns, rows, scale, background, foreground,
      ⟨(columns * scale).toNat, (rows * scale).toNat, coordinates, .plain background⟩⟩ := by
  rw [create, Surface.openedSize_eq wide high width height] at created
  split at created
  · cases created
  · exact (Except.ok.inj created).symm

/-- With unbounded coordinates every window with positive measures is opened. -/
theorem create_unbounded {columns rows scale : Int} (wide : 1 ≤ columns * scale)
    (high : 1 ≤ rows * scale) (background foreground : Color) :
    ∃ screen, create .unbounded columns rows scale background foreground = .ok screen := by
  rw [create, Surface.openedSize_eq wide high (.inl rfl) (.inl rfl), if_neg nofun]
  exact ⟨_, rfl⟩

/-- Painting and then reading back is the identity on every window with at least one column and one
row and with any scale. Whatever was rendered before, rendering a bitmap of any length makes the
window show it. With unbounded coordinates all such windows are opened and nothing else is asked of
the measures. With 32-bit ones, the extents of the window and the place of the last entry have to be
coordinates.

Proof: rendering before has replaced pixels only, so that the window is still as large as its
squares together, and the entries can be placed on it. -/
theorem painting_reads_back {columns rows scale : Int} (columnsPositive : 1 ≤ columns)
    (rowsPositive : 1 ≤ rows) (scalePositive : 1 ≤ scale) (background foreground : Color) :
    (∃ screen, create .unbounded columns rows scale background foreground = .ok screen) ∧
    ∀ (coordinates : Coordinates) (screen : Screen),
      create coordinates columns rows scale background foreground = .ok screen →
      coordinates.Takes (columns * scale) → coordinates.Takes (rows * scale) →
      ∀ (earlier : List (List Bool)) (bitmap : List Bool),
        coordinates.Takes (bitmap.length / columns * scale) →
        ((screen.renderAll earlier).render bitmap).2 = .ok () ∧
          ((screen.renderAll earlier).render bitmap).1.Shows coordinates columns rows scale
            background foreground bitmap := by
  have wide : 1 ≤ columns * scale := Int.mul_pos columnsPositive scalePositive
  have high : 1 ≤ rows * scale := Int.mul_pos rowsPositive scalePositive
  refine ⟨create_unbounded wide high background foreground, ?_⟩
  intro coordinates screen created width height earlier bitmap last
  obtain rfl := create_eq wide high width height created
  obtain ⟨pixels, before⟩ := renderAll_frame earlier
  rw [before]
  have fitted : Fitted ⟨columns, rows, scale, background, foreground,
      ⟨(columns * scale).toNat, (rows * scale).toNat, coordinates, .plain background⟩⟩ :=
    ⟨columnsPositive, scalePositive, Int.toNat_of_nonneg (Int.le_of_lt wide),
      Int.toNat_of_nonneg (Int.le_of_lt high)⟩
  exact shows_render (fitted.withPixels pixels) width height last

/-- On a window of three columns and two rows, a bitmap of seven entries is shown without the last
one, and what was painted before is gone. -/
theorem painting_reads_back_of_longer_bitmap :
    ∃ screen, create .signed32 3 2 2 blue lightBlue = .ok screen ∧
      let shown := (screen.renderAll [[true, false, false]]).render
        [false, true, false, false, false, true, true]
      shown.2 = .ok () ∧ shown.1.surface.colorAt 3 1 = lightBlue ∧
        shown.1.surface.colorAt 0 0 = blue ∧ shown.1.readSquare 2 1 = .ok true ∧
        shown.1.readSquare 0 2 = .error .outsideWindow := by
  have created : create .signed32 3 2 2 blue lightBlue =
      .ok ⟨3, 2, 2, blue, lightBlue, ⟨6, 4, .signed32, .plain blue⟩⟩ := rfl
  obtain ⟨_, readBack⟩ :=
    @painting_reads_back 3 2 2 (by decide) (by decide) (by decide) blue lightBlue
  obtain ⟨rendered, shows⟩ := readBack .signed32 _ created (.inr (by decide)) (.inr (by decide))
    [[true, false, false]] [false, true, false, false, false, true, true] (.inr (by decide))
  refine ⟨_, created, rendered, ?_, ?_, ?_, ?_⟩
  · exact shows.pixels 3 1 (by decide)
  · exact shows.pixels 0 0 (by decide)
  · exact shows.squares (by decide) 2 1 (by decide)
  · exact shows.elsewhere 0 2 (by decide) (.inr (by decide)) (.inr (by decide))

end Screen

end ChipEight
