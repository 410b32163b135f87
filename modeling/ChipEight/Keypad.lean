import ChipEight.Fault
import ChipEight.Position

/-!
# Keypad

Sixteen keys, each of them held down or not. The keys are numbered from zero; an integer names a
key by its position from either end of the row.
-/

namespace ChipEight

/-- The number of a key. -/
abbrev Key := Fin 16

/-- Which of the keys are held down. -/
structure Keypad where
  held : Vector Bool 16
  deriving DecidableEq, Repr

namespace Keypad

/-- No key is held down. -/
def released : Keypad := ⟨Vector.replicate 16 false⟩

/-- Whether a key is held down. -/
def isHeld (keypad : Keypad) (key : Key) : Bool := keypad.held[key]

/-- A key is pressed or let go. -/
def assign (keypad : Keypad) (key : Key) (down : Bool) : Keypad :=
  ⟨keypad.held.set key down⟩

/-- Whether the key that an integer names is held down. -/
def query (keypad : Keypad) (position : Int) : Except Fault Bool :=
  match cellAt 16 position with
  | some key => .ok (keypad.isHeld key)
  | none => .error (.noCell .read position)

/-- The key that an integer names is pressed or let go. -/
def set (keypad : Keypad) (position : Int) (down : Bool) : Except Fault Keypad :=
  match cellAt 16 position with
  | some key => .ok (keypad.assign key down)
  | none => .error (.noCell .write position)

/-- The held keys in ascending order. -/
def heldKeys (keypad : Keypad) : List Key := (List.finRange 16).filter keypad.isHeld

/-- The lowest key that is held down, if any is. -/
def lowest? (keypad : Keypad) : Option Key := (List.finRange 16).find? keypad.isHeld

/-- Whether no key is held down. -/
def untouched (keypad : Keypad) : Bool := !keypad.held.any id

/-- The held keys as upper-case digits in ascending order, or a dash when there is none. -/
def text (keypad : Keypad) : String :=
  if keypad.untouched then "-"
  else String.join (keypad.heldKeys.map fun key => Text.upperHexadecimal 1 key.val)

/-- A key is in the state last assigned to it, and the others keep theirs. -/
theorem isHeld_assign (keypad : Keypad) (key other : Key) (down : Bool) :
    (keypad.assign key down).isHeld other = if key = other then down else keypad.isHeld other := by
  simp only [assign, isHeld, Fin.getElem_fin, Vector.getElem_set, Fin.ext_iff]

/-- There is no lowest key exactly when no key is held down. -/
theorem lowest?_eq_none_iff (keypad : Keypad) :
    keypad.lowest? = none ↔ ∀ key, keypad.isHeld key = false := by
  simp [lowest?, List.find?_eq_none, List.mem_finRange]

/-- A keypad is untouched exactly when no key is held down. -/
theorem untouched_iff (keypad : Keypad) :
    keypad.untouched = true ↔ ∀ key, keypad.isHeld key = false := by
  simp only [untouched, Bool.not_eq_true', Vector.any_eq_false, id_eq, Bool.not_eq_true, isHeld,
    Fin.getElem_fin]
  exact ⟨fun all key => all key.val key.isLt, fun all position inside => all ⟨position, inside⟩⟩

/-- There is a lowest key exactly when the keypad is not untouched. -/
theorem isSome_lowest? (keypad : Keypad) : keypad.lowest?.isSome = !keypad.untouched := by
  rw [Bool.eq_iff_iff, Bool.not_eq_true', Bool.eq_false_iff, ne_eq, untouched_iff,
    ← lowest?_eq_none_iff, Option.isSome_iff_ne_none]

/-- A keypad that is not untouched has a lowest key. -/
theorem isSome_lowest?_of_touched {keypad : Keypad} (touched : ¬ keypad.untouched = true) :
    keypad.lowest?.isSome = true := by
  rw [isSome_lowest?, eq_false_of_ne_true touched, Bool.not_false]

/-- The lowest key is held down, and no key below it is. -/
theorem lowest?_eq_some_iff (keypad : Keypad) (key : Key) :
    keypad.lowest? = some key ↔
      keypad.isHeld key = true ∧ ∀ lower < key, keypad.isHeld lower = false := by
  simp only [lowest?, List.find?_eq_some_iff_getElem, List.getElem_finRange, List.length_finRange,
    Bool.not_eq_true']
  constructor
  · rintro ⟨held, position, inside, rfl, below⟩
    exact ⟨held, fun lower less => below lower.val less⟩
  · rintro ⟨held, below⟩
    exact ⟨held, key.val, key.isLt, rfl, fun position less =>
      below ⟨position, Nat.lt_trans less key.isLt⟩ less⟩

end Keypad

end ChipEight
