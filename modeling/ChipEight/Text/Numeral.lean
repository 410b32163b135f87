/-!
# Written integers

An integer is written as an optional minus sign, padding zeros and its digits. The sign counts
toward the width and the zeros stand after it, so that the width bounds the whole numeral from
below. Decimal numerals are never padded; hexadecimal ones come in either letter case.
-/

namespace ChipEight.Text

/-- The digits of a magnitude, most significant first; zero has the one digit `0`. -/
def digits (base magnitude : Nat) : List Char := Nat.toDigits base magnitude

/-- A numeral of at least `width` characters. The minus sign of a negative value is one of them,
and the zeros that fill the width stand between the sign and the digits. -/
def padded (magnitudeDigits : Nat → List Char) (width : Nat) (value : Int) : List Char :=
  let sign := if value < 0 then ['-'] else []
  let body := magnitudeDigits value.natAbs
  sign ++ List.replicate (width - (sign.length + body.length)) '0' ++ body

/-- The plain decimal numeral of an integer. -/
def decimal (value : Int) : String :=
  String.ofList (padded (digits 10) 0 value)

/-- The lower-case hexadecimal numeral of an integer, padded to a width. -/
def hexadecimal (width : Nat) (value : Int) : String :=
  String.ofList (padded (digits 16) width value)

/-- The upper-case hexadecimal numeral of an integer, padded to a width. -/
def upperHexadecimal (width : Nat) (value : Int) : String :=
  String.ofList (padded (fun magnitude => (digits 16 magnitude).map Char.toUpper) width value)

example : hexadecimal 4 (-1) = "-001" := by decide
example : hexadecimal 3 0x1002 = "1002" := by decide
example : upperHexadecimal 4 0xABC = "0ABC" := by decide
example : decimal (-45) = "-45" := by decide

end ChipEight.Text
