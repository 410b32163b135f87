import ChipEight.Text.IntegerReader

/-!
# Settings

Tracing is a setting of the environment: it is on when the setting's value is an integer of at
least one, and off when there is no value. A value that is not an integer is an error.
-/

namespace ChipEight

/-- Whether a value of the setting switches tracing on. -/
def tracingSetting : Option String → Except Text.NumeralError Bool
  | none => .ok false
  | some value => (Text.readInteger value).map fun level => 1 ≤ level

end ChipEight
