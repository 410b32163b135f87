import ChipEight.Text.DecimalDigit
import ChipEight.Text.Quoted

/-!
# Reading decimal integers

A numeral may be surrounded by blanks. It has at most one sign and at least one digit, and single
underscores may stand between digits. Digits of any script count. A numeral of more than 4300
digits is refused before the text after it is looked at; every other departure from this form is
one and the same error, which quotes the whole text.
-/

namespace ChipEight.Text

/-- Why a text was not read as an integer. -/
inductive NumeralError where
  /-- The text is not a numeral surrounded by blanks. -/
  | malformed (text : String)
  /-- The numeral has this many digits, more than a numeral may have. -/
  | tooLong (digitCount : Nat)
  deriving DecidableEq, Repr

/-- The greatest number of digits that is read. -/
def maximalDigitCount : Nat := 4300

/-- The error's wording. The quotation is cut after its two hundredth character. -/
def NumeralError.message : NumeralError → String
  | .malformed text =>
    "invalid literal for int() with base 10: " ++ String.ofList ((quoted text).toList.take 200)
  | .tooLong digitCount =>
    "Exceeds the limit (" ++ decimal maximalDigitCount
      ++ " digits) for integer string conversion: value has " ++ decimal digitCount
      ++ " digits; use sys.set_int_max_str_digits() to increase the limit"

/-- The digits that open a text, with single underscores between them, and what follows. An
underscore that no digit follows leaves nothing readable. -/
def readDigits : List Char → Option (List Nat × List Char)
  | [] => none
  | character :: rest =>
    match decimalValue? character, rest with
    | none, _ => none
    | some value, [] => some ([value], [])
    | some value, next :: later =>
      if next = '_' then (readDigits later).map fun (values, after) => (value :: values, after)
      else if (decimalValue? next).isSome then
        (readDigits (next :: later)).map fun (values, after) => (value :: values, after)
      else some ([value], next :: later)

/-- The number that digits write, the most significant first. -/
def valueOfDigits (values : List Nat) : Nat :=
  values.foldl (fun total value => 10 * total + value) 0

/-- A sign that opens a text, as whether it negates, and what follows. -/
def readSign : List Char → Bool × List Char
  | '-' :: rest => (true, rest)
  | '+' :: rest => (false, rest)
  | text => (false, text)

/-- The integer that a text writes. -/
def readInteger (text : String) : Except NumeralError Int :=
  let (negative, unsigned) := readSign (text.toList.dropWhile isBlank)
  match readDigits unsigned with
  | none => .error (.malformed text)
  | some (values, after) =>
    if values.length > maximalDigitCount then .error (.tooLong values.length)
    else if after.all isBlank then
      .ok (if negative then -(valueOfDigits values : Int) else valueOfDigits values)
    else .error (.malformed text)

example : readDigits "1_0 ".toList = some ([1, 0], [' ']) := by decide +kernel
example : readDigits "1_".toList = none := by decide +kernel
example : readDigits "1__0".toList = none := by decide +kernel

end ChipEight.Text
