/-!
# Decimal digits and blanks of all scripts

Every script with decimal digits has its ten digits at consecutive code points, so a digit's value
is its distance from the zero of its run. The runs beyond ASCII are those of version 14 of the
character database. A blank separates a numeral from what surrounds it; inside ASCII only the
space and the codes from tab to carriage return are blanks.
-/

namespace ChipEight.Text

/-- The code points of the digit zero in each run of ten decimal digits, in ascending order. -/
def zeroCodes : List Nat := [
  0x30,
  0x660, 0x6f0, 0x7c0, 0x966, 0x9e6, 0xa66, 0xae6, 0xb66, 0xbe6, 0xc66, 0xce6, 0xd66, 0xde6,
  0xe50, 0xed0, 0xf20, 0x1040, 0x1090, 0x17e0, 0x1810, 0x1946, 0x19d0, 0x1a80, 0x1a90, 0x1b50,
  0x1bb0, 0x1c40, 0x1c50, 0xa620, 0xa8d0, 0xa900, 0xa9d0, 0xa9f0, 0xaa50, 0xabf0, 0xff10,
  0x104a0, 0x10d30, 0x11066, 0x110f0, 0x11136, 0x111d0, 0x112f0, 0x11450, 0x114d0, 0x11650,
  0x116c0, 0x11730, 0x118e0, 0x11950, 0x11c50, 0x11d50, 0x11da0, 0x16a60, 0x16ac0, 0x16b50,
  0x1d7ce, 0x1d7d8, 0x1d7e2, 0x1d7ec, 0x1d7f6, 0x1e140, 0x1e2f0, 0x1e950, 0x1fbf0]

/-- The value of a decimal digit of any script, or nothing for another character. -/
def decimalValue? (character : Char) : Option Nat :=
  let code := character.toNat
  (zeroCodes.find? fun first => first ≤ code && code < first + 10).map (code - ·)

/-- Closed ranges of the code points of blanks, in ascending order. -/
def blankRanges : List (Nat × Nat) := [
  (0x9, 0xd), (0x20, 0x20), (0x85, 0x85), (0xa0, 0xa0), (0x1680, 0x1680), (0x2000, 0x200a),
  (0x2028, 0x2029), (0x202f, 0x202f), (0x205f, 0x205f), (0x3000, 0x3000)]

/-- Whether a character may stand before or after a numeral. -/
def isBlank (character : Char) : Bool :=
  blankRanges.any fun (low, high) => low ≤ character.toNat && character.toNat ≤ high

example : decimalValue? '7' = some 7 := by decide
example : decimalValue? (Char.ofNat 0x663) = some 3 := by decide
example : decimalValue? 'a' = none := by decide +kernel

end ChipEight.Text
