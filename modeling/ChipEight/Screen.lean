import ChipEight.Surface

/-!
# Screen

A window on which a bitmap is painted in squares of equal size. What was painted can be read back:
a square counts as lit when the pixel in its upper left corner does not have the background's
colour.

The numbers of columns and rows and the size of the squares may be any integers, of which the
extent of the window is a product. A window is opened if the products are not negative and not too
large, and it is never without pixels.
-/

namespace ChipEight

/-- A window that shows `columns` by `rows` squares of `scale` by `scale` pixels. -/
structure Screen where
  columns : Int
  rows : Int
  scale : Int
  background : Color
  foreground : Color
  surface : Surface

namespace Screen

/-- The background of the machine's window. -/
def blue : Color := ⟨80, 69, 155⟩

/-- The foreground of the machine's window. -/
def lightBlue : Color := ⟨136, 126, 203⟩

/-- A new window in the background's colour. -/
def create (coordinates : Coordinates) (columns rows scale : Int)
    (background foreground : Color) : Except ScreenFault Screen :=
  (Surface.openedSize coordinates (columns * scale) (rows * scale)).map fun (width, height) =>
    { columns, rows, scale, background, foreground
      surface := ⟨width, height, coordinates, .plain background⟩ }

/-- The window of the machine's display. -/
def standard : Screen where
  columns := 64
  rows := 32
  scale := 15
  background := blue
  foreground := lightBlue
  surface := ⟨960, 480, .signed32, .plain blue⟩

-- The window of the machine's display is opened like any other one.
example : create .signed32 64 32 15 blue lightBlue = .ok standard := rfl

/-- The column of the square with a number. Squares are counted row after row. -/
def columnOf (screen : Screen) (number : Nat) : Int := Int.fmod number screen.columns

/-- The row of the square with a number. -/
def rowOf (screen : Screen) (number : Nat) : Int := Int.fdiv number screen.columns

/-- The square with a number is painted in the foreground's colour. There is none without columns
to count by. -/
def paintSquare (screen : Screen) (number : Nat) : Except ScreenFault Screen :=
  if screen.columns = 0 then .error .noColumns
  else
    (screen.surface.fillRectangle (screen.columnOf number * screen.scale)
      (screen.rowOf number * screen.scale) screen.scale screen.scale screen.foreground).map
        fun surface => { screen with surface := surface }

/-- Paints squares one after the other. The first one that is refused ends this, and those before it
stay. -/
def paintSquares (screen : Screen) : List Nat → Screen × Except ScreenFault Unit
  | [] => (screen, .ok ())
  | number :: rest =>
    match screen.paintSquare number with
    | .ok painted => painted.paintSquares rest
    | .error fault => (screen, .error fault)

/-- The numbers of the lit pixels of a bitmap, counted from a number on. -/
def litFrom (number : Nat) : List Bool → List Nat
  | [] => []
  | lit :: rest => if lit then number :: litFrom (number + 1) rest else litFrom (number + 1) rest

/-- The window without anything painted on its background. -/
def cleared (screen : Screen) : Screen :=
  { screen with surface := screen.surface.fill screen.background }

/-- Paints a bitmap, row after row, over whatever was painted before. -/
def render (screen : Screen) (bitmap : List Bool) : Screen × Except ScreenFault Unit :=
  screen.cleared.paintSquares (litFrom 0 bitmap)

/-- Whether the square in a column and a row is lit. -/
def readSquare (screen : Screen) (column row : Int) : Except ScreenFault Bool :=
  (screen.surface.read (column * screen.scale) (row * screen.scale)).map
    fun color => color != screen.background

/-- Reads back squares from a number on, after those that were `seen` before, the last one first. -/
def readFrom (screen : Screen) (number : Nat) (seen : List Bool) :
    Nat → Except ScreenFault (List Bool)
  | 0 => .ok seen.reverse
  | count + 1 =>
    match screen.readSquare (screen.columnOf number) (screen.rowOf number) with
    | .ok lit => screen.readFrom (number + 1) (lit :: seen) count
    | .error fault => .error fault

/-- Reads back the whole bitmap, row after row. -/
def readBitmap (screen : Screen) : Except ScreenFault (List Bool) :=
  screen.readFrom 0 [] (screen.columns * screen.rows).toNat

/-- The lit numbers are those of the lit entries of the bitmap. -/
theorem mem_litFrom (bitmap : List Bool) (start number : Nat) :
    number ∈ litFrom start bitmap ↔ start ≤ number ∧ bitmap[number - start]? = some true := by
  induction bitmap generalizing start with
  | nil => simp [litFrom]
  | cons lit rest inductionHypothesis =>
    rcases Nat.lt_trichotomy number start with before | same | after
    · have notLater : ¬ start + 1 ≤ number := by omega
      have notStart : ¬ start ≤ number := by omega
      have differs : number ≠ start := by omega
      cases lit <;> simp [litFrom, inductionHypothesis, notLater, notStart, differs]
    · subst same
      have notLater : ¬ number + 1 ≤ number := by omega
      cases lit <;> simp [litFrom, inductionHypothesis, notLater]
    · have later : start + 1 ≤ number := after
      have shifted : number - start = number - (start + 1) + 1 := by omega
      have differs : number ≠ start := by omega
      cases lit <;>
        simp [litFrom, inductionHypothesis, later, Nat.le_of_lt after, shifted, differs]

end Screen

end ChipEight
