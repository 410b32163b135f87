/-!
# Positions counted from either end

A cell in a row of cells is named by an integer. Counting starts at zero from the front and at
minus one from the back, so that each cell has exactly two names and every other integer has no
cell.
-/

namespace ChipEight

/-- The cell that an integer names in a row of `size` cells, if there is one. -/
def cellAt (size : Nat) (position : Int) : Option (Fin size) :=
  if front : 0 ≤ position ∧ position < size then
    some ⟨position.toNat, by omega⟩
  else if back : -size ≤ position ∧ position < 0 then
    some ⟨(position + size).toNat, by omega⟩
  else none

/-- An integer names a cell exactly when its distance from zero, on the side of its sign, lies
inside the row. -/
theorem cellAt_eq_none_iff (size : Nat) (position : Int) :
    cellAt size position = none ↔ position < -size ∨ (size : Int) ≤ position := by
  unfold cellAt
  split
  · rename_i front
    simp only [reduceCtorEq, false_iff]
    omega
  · rename_i notFront
    split
    · rename_i back
      simp only [reduceCtorEq, false_iff]
      omega
    · rename_i notBack
      simp only [true_iff]
      omega

/-- The named cell differs from the integer by nothing or by the length of the row. -/
theorem cellAt_eq_some_iff (size : Nat) (position : Int) (cell : Fin size) :
    cellAt size position = some cell ↔ position = cell.val ∨ position = cell.val - size := by
  have inside := cell.isLt
  unfold cellAt
  split
  · simp only [Option.some.injEq, Fin.ext_iff]
    omega
  · split
    · simp only [Option.some.injEq, Fin.ext_iff]
      omega
    · simp only [reduceCtorEq, false_iff]
      omega

end ChipEight
