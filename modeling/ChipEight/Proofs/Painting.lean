import ChipEight.Screen

/-!
# What painting does to a window

A window as large as all its squares together is cut into them without a rest: each of its pixels
lies in one square, whose number says which entry of a bitmap it shows. Painting squares gives their
pixels the foreground's colour and leaves the others alone. After rendering, a pixel of the window
has the foreground's colour exactly if the entry of its square is lit, whatever was painted before,
and a square is read back as the entry that it shows.

Squares can be painted as long as the coordinates can name them. A bitmap may have more entries than
the window has squares; the entries beyond the window are painted outside of it.
-/

namespace ChipEight

/-- Coordinates that take an integer for itself. -/
def Coordinates.Takes (coordinates : Coordinates) (value : Int) : Prop :=
  coordinates = .unbounded ∨ (-0x80000000 ≤ value ∧ value < 0x80000000)

namespace Coordinates.Takes

variable {coordinates : Coordinates} {value : Int}

/-- An integer that is taken for itself is not cut. -/
theorem cut_eq (takes : coordinates.Takes value) (refusal : ScreenFault) :
    coordinates.cut refusal value = .ok value := by
  rcases takes with rfl | small
  · rfl
  · exact coordinates.cut_of_small refusal small.1 small.2

/-- An integer that is taken for itself is a coordinate of a pixel. -/
theorem exactly_eq (takes : coordinates.Takes value) : coordinates.exactly value = .ok value := by
  rcases takes with rfl | small
  · rfl
  · cases coordinates with
    | unbounded => rfl
    | signed32 => exact if_pos small

end Coordinates.Takes

namespace Screen

/-- A window that is as large as its squares are together. -/
structure Fitted (screen : Screen) : Prop where
  columns : 0 < screen.columns
  scale : 0 < screen.scale
  width : (screen.surface.width : Int) = screen.columns * screen.scale
  height : (screen.surface.height : Int) = screen.rows * screen.scale

/-- The place and the size of a square are coordinates. -/
structure Places (screen : Screen) (number : Nat) : Prop where
  left : screen.surface.coordinates.Takes (screen.columnOf number * screen.scale)
  top : screen.surface.coordinates.Takes (screen.rowOf number * screen.scale)
  size : screen.surface.coordinates.Takes screen.scale

/-- A pixel belongs to the window. -/
def InWindow (screen : Screen) (x y : Int) : Prop :=
  (0 ≤ x ∧ x < screen.surface.width) ∧ 0 ≤ y ∧ y < screen.surface.height

/-- The number of the square in which a pixel lies. -/
def squareAt (screen : Screen) (x y : Int) : Int :=
  y / screen.scale * screen.columns + x / screen.scale

/-- The same window with other pixels. -/
def withPixels (screen : Screen) (pixels : Mosaic Color) : Screen :=
  { screen with surface := { screen.surface with mosaic := pixels } }

variable {screen : Screen}

/-- A window stays as large as its squares, whatever is painted on it. -/
theorem Fitted.withPixels (fitted : screen.Fitted) (pixels : Mosaic Color) :
    (screen.withPixels pixels).Fitted :=
  ⟨fitted.columns, fitted.scale, fitted.width, fitted.height⟩

/-- Squares of one length lie side by side: a position is in the one that division gives. -/
theorem between_iff_ediv_eq {position length index : Int} (positive : 0 < length) :
    (index * length ≤ position ∧ position < index * length + length) ↔
      position / length = index := by
  have next : (index + 1) * length = index * length + length := by
    rw [Int.add_mul, Int.one_mul]
  rw [← Int.le_ediv_iff_mul_le positive, ← next, ← Int.ediv_lt_iff_lt_mul positive]
  omega

/-- With columns to count by, the place of a square is found by ordinary division. -/
theorem columnOf_rowOf (columns : 0 < screen.columns) (number : Nat) :
    screen.columnOf number = number % screen.columns ∧
      screen.rowOf number = number / screen.columns :=
  ⟨Int.fmod_eq_emod_of_nonneg _ (Int.le_of_lt columns),
    Int.fdiv_eq_ediv_of_nonneg _ (Int.le_of_lt columns)⟩

/-- The squares of a window are numbered from zero on. -/
theorem squareAt_nonneg (fitted : screen.Fitted) {x y : Int} (inWindow : screen.InWindow x y) :
    0 ≤ screen.squareAt x y := by
  have scale := Int.le_of_lt fitted.scale
  have row : 0 ≤ y / screen.scale := Int.ediv_nonneg inWindow.2.1 scale
  have column : 0 ≤ x / screen.scale := Int.ediv_nonneg inWindow.1.1 scale
  exact Int.add_nonneg (Int.mul_nonneg row (Int.le_of_lt fitted.columns)) column

/-- A pixel of the window lies in the square with a number exactly if it lies in the square's column
and in its row. -/
theorem squareAt_eq_iff (fitted : screen.Fitted) {x y : Int} (inWindow : screen.InWindow x y)
    (number : Nat) :
    screen.squareAt x y = number ↔
      x / screen.scale = screen.columnOf number ∧ y / screen.scale = screen.rowOf number := by
  have columns := fitted.columns
  have left : 0 ≤ x / screen.scale := Int.ediv_nonneg inWindow.1.1 (Int.le_of_lt fitted.scale)
  have right : x / screen.scale < screen.columns := by
    rw [Int.ediv_lt_iff_lt_mul fitted.scale, ← fitted.width]
    exact inWindow.1.2
  have unique := Int.ediv_emod_unique (a := number) (r := x / screen.scale)
    (q := y / screen.scale) columns
  rw [(columnOf_rowOf columns number).1, (columnOf_rowOf columns number).2, squareAt, Int.add_comm,
    Int.mul_comm (y / screen.scale)]
  constructor
  · intro same
    obtain ⟨row, column⟩ := unique.mpr ⟨same, left, right⟩
    exact ⟨column.symm, row.symm⟩
  · rintro ⟨column, row⟩
    exact (unique.mp ⟨row.symm, column.symm⟩).1

/-- A square that can be placed is painted: the pixels that lie in it get the foreground's colour,
and the others keep theirs. -/
theorem paintSquare_eq (fitted : screen.Fitted) {number : Nat} (places : screen.Places number) :
    ∃ pixels, screen.paintSquare number = .ok (screen.withPixels pixels) ∧
      ∀ x y, screen.InWindow x y → (screen.withPixels pixels).surface.colorAt x y =
        if screen.squareAt x y = number then screen.foreground else screen.surface.colorAt x y := by
  let square : Rectangle := ⟨screen.columnOf number * screen.scale,
    screen.rowOf number * screen.scale, screen.scale, screen.scale⟩
  have counted : screen.columns ≠ 0 := Int.ne_of_gt fitted.columns
  refine ⟨(screen.surface.paint square screen.foreground).mosaic, ?_, ?_⟩
  · simp only [paintSquare, if_neg counted, Surface.fillRectangle, places.left.cut_eq,
      places.top.cut_eq, places.size.cut_eq]
    rfl
  · intro x y inWindow
    have contains : square.Contains x y ↔ screen.squareAt x y = number := by
      rw [squareAt_eq_iff fitted inWindow, ← between_iff_ediv_eq fitted.scale,
        ← between_iff_ediv_eq fitted.scale]
      exact Iff.rfl
    have painted := screen.surface.colorAt_paint square screen.foreground inWindow
    simp only [contains] at painted
    exact painted

/-- Squares that can be placed are painted one after the other: the pixels that lie in one of them
get the foreground's colour, and the others keep theirs. -/
theorem paintSquares_eq (fitted : screen.Fitted) {numbers : List Nat}
    (places : ∀ number ∈ numbers, screen.Places number) :
    ∃ pixels, screen.paintSquares numbers = (screen.withPixels pixels, .ok ()) ∧
      ∀ x y, screen.InWindow x y → (screen.withPixels pixels).surface.colorAt x y =
        if ∃ number ∈ numbers, screen.squareAt x y = (number : Nat) then screen.foreground
        else screen.surface.colorAt x y := by
  induction numbers generalizing screen with
  | nil => exact ⟨screen.surface.mosaic, rfl, fun x y _ => by simp [withPixels]⟩
  | cons number rest inductionHypothesis =>
    obtain ⟨first, painted, firstColors⟩ := paintSquare_eq fitted (places number List.mem_cons_self)
    have others : ∀ number ∈ rest, (screen.withPixels first).Places number := by
      intro number later
      have placed := places number (List.mem_cons_of_mem _ later)
      exact ⟨placed.left, placed.top, placed.size⟩
    obtain ⟨pixels, restPainted, colors⟩ := inductionHypothesis (fitted.withPixels first) others
    refine ⟨pixels, ?_, ?_⟩
    · simp only [paintSquares, painted]
      exact restPainted
    · intro x y inWindow
      have same : (screen.withPixels first).squareAt x y = screen.squareAt x y := rfl
      refine (colors x y inWindow).trans ?_
      rw [firstColors x y inWindow, same]
      simp only [withPixels]
      by_cases here : screen.squareAt x y = number
      · simp [here]
      · simp [here]

/-- Rendering a bitmap whose lit entries can be placed: a pixel of the window gets the foreground's
colour if the entry of its square is lit, and the background's otherwise, whatever was painted
before. -/
theorem render_eq (fitted : screen.Fitted) {bitmap : List Bool}
    (places : ∀ number : Nat, number < bitmap.length → screen.Places number) :
    ∃ pixels, screen.render bitmap = (screen.withPixels pixels, .ok ()) ∧
      ∀ x y, screen.InWindow x y → (screen.withPixels pixels).surface.colorAt x y =
        if bitmap[(screen.squareAt x y).toNat]? = some true then screen.foreground
        else screen.background := by
  have clearFitted : screen.cleared.Fitted :=
    ⟨fitted.columns, fitted.scale, fitted.width, fitted.height⟩
  have litPlaces : ∀ number ∈ litFrom 0 bitmap, screen.cleared.Places number := by
    intro number lit
    have entry := ((mem_litFrom bitmap 0 number).mp lit).2
    have placed := places number (List.getElem?_eq_some_iff.mp entry).1
    exact ⟨placed.left, placed.top, placed.size⟩
  obtain ⟨pixels, painted, colors⟩ := paintSquares_eq clearFitted litPlaces
  refine ⟨pixels, painted, ?_⟩
  intro x y inWindow
  have before : screen.cleared.surface.colorAt x y = screen.background :=
    Surface.colorAt_fill ..
  have nonneg : 0 ≤ screen.squareAt x y := squareAt_nonneg fitted inWindow
  have lit : (∃ number ∈ litFrom 0 bitmap, screen.cleared.squareAt x y = (number : Nat)) ↔
      bitmap[(screen.squareAt x y).toNat]? = some true := by
    constructor
    · rintro ⟨number, listed, same⟩
      have entry := ((mem_litFrom bitmap 0 number).mp listed).2
      have number_eq : (screen.squareAt x y).toNat = number - 0 := by
        change screen.squareAt x y = number at same
        omega
      rw [number_eq]
      exact entry
    · intro entry
      exact ⟨(screen.squareAt x y).toNat, (mem_litFrom ..).mpr ⟨Nat.zero_le _, entry⟩,
        (Int.toNat_of_nonneg nonneg).symm⟩
  have after := colors x y inWindow
  rw [before] at after
  simp only [lit] at after
  exact after

/-- A square of a window is read back by the pixel in its upper left corner. -/
theorem readSquare_eq (fitted : screen.Fitted) {column row : Int}
    (inside : (0 ≤ column ∧ column < screen.columns) ∧ 0 ≤ row ∧ row < screen.rows)
    (left : screen.surface.coordinates.Takes (column * screen.scale))
    (top : screen.surface.coordinates.Takes (row * screen.scale)) :
    screen.InWindow (column * screen.scale) (row * screen.scale) ∧
      screen.squareAt (column * screen.scale) (row * screen.scale) =
        row * screen.columns + column ∧
      screen.readSquare column row =
        .ok (screen.surface.colorAt (column * screen.scale) (row * screen.scale) !=
          screen.background) := by
  have scaled := Int.ne_of_gt fitted.scale
  have inWindow : screen.InWindow (column * screen.scale) (row * screen.scale) := by
    refine ⟨⟨?_, ?_⟩, ?_, ?_⟩
    · exact Int.mul_nonneg inside.1.1 (Int.le_of_lt fitted.scale)
    · rw [fitted.width]
      exact Int.mul_lt_mul_of_pos_right inside.1.2 fitted.scale
    · exact Int.mul_nonneg inside.2.1 (Int.le_of_lt fitted.scale)
    · rw [fitted.height]
      exact Int.mul_lt_mul_of_pos_right inside.2.2 fitted.scale
  refine ⟨inWindow, ?_, ?_⟩
  · rw [squareAt, Int.mul_ediv_cancel _ scaled, Int.mul_ediv_cancel _ scaled]
  · have within := inWindow
    unfold InWindow at within
    simp only [readSquare, Surface.read, left.exactly_eq, top.exactly_eq, bind, Except.bind,
      if_pos within]
    rfl

/-- After rendering, a square is read back by the colour that its entry of the bitmap gives it. -/
theorem readSquare_rendered (fitted : screen.Fitted) {bitmap : List Bool}
    (places : ∀ number : Nat, number < bitmap.length → screen.Places number) {column row : Int}
    (inside : (0 ≤ column ∧ column < screen.columns) ∧ 0 ≤ row ∧ row < screen.rows)
    (left : screen.surface.coordinates.Takes (column * screen.scale))
    (top : screen.surface.coordinates.Takes (row * screen.scale)) :
    (screen.render bitmap).1.readSquare column row =
      .ok ((if bitmap[(row * screen.columns + column).toNat]? = some true then screen.foreground
        else screen.background) != screen.background) := by
  obtain ⟨pixels, rendered, colors⟩ := render_eq fitted places
  obtain ⟨inWindow, number, readBack⟩ :
      screen.InWindow (column * screen.scale) (row * screen.scale) ∧
        screen.squareAt (column * screen.scale) (row * screen.scale) =
          row * screen.columns + column ∧
        (screen.withPixels pixels).readSquare column row =
          .ok ((screen.withPixels pixels).surface.colorAt (column * screen.scale)
            (row * screen.scale) != screen.background) :=
    readSquare_eq (fitted.withPixels pixels) inside left top
  rw [rendered, readBack, colors _ _ inWindow, number]

/-- After rendering, a square is read back as lit exactly if its entry of the bitmap is lit, as long
as the two colours can be told apart. -/
theorem readSquare_render (fitted : screen.Fitted)
    (distinct : screen.foreground ≠ screen.background)
    {bitmap : List Bool} (places : ∀ number : Nat, number < bitmap.length → screen.Places number)
    {column row : Int}
    (inside : (0 ≤ column ∧ column < screen.columns) ∧ 0 ≤ row ∧ row < screen.rows)
    (left : screen.surface.coordinates.Takes (column * screen.scale))
    (top : screen.surface.coordinates.Takes (row * screen.scale)) :
    (screen.render bitmap).1.readSquare column row =
      .ok (bitmap[(row * screen.columns + column).toNat]? == some true) := by
  rw [readSquare_rendered fitted places inside left top]
  split
  · rename_i lit
    rw [lit, bne_iff_ne.mpr distinct, beq_self_eq_true]
  · rename_i dark
    rw [bne_self_eq_false, beq_eq_false_iff_ne.mpr dark]

end Screen

end ChipEight
