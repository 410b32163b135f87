import ChipEight.Text.Numeral
import ChipEight.Text.Printable

/-!
# Quoted text

Text is shown between two equal marks. The mark is the apostrophe, unless the text holds an
apostrophe and no quotation mark, in which case it is the quotation mark. Inside, the mark and the
backslash are preceded by a backslash, line feed, carriage return and tab have short escapes, and
any other character that is not printable is given by its code in two, four or eight digits.
-/

namespace ChipEight.Text

/-- The mark `'`, by its code. -/
def apostrophe : Char := Char.ofNat 0x27

/-- The mark `"`, by its code. -/
def quotationMark : Char := Char.ofNat 0x22

/-- The escape character `\`, by its code. -/
def backslash : Char := Char.ofNat 0x5C

/-- The mark that needs the fewest escapes, the apostrophe when both would need some. -/
def markFor (text : List Char) : Char :=
  if text.contains apostrophe && !text.contains quotationMark then quotationMark else apostrophe

/-- A code in hexadecimal, after the letter that announces its width. -/
def codeEscape (character : Char) : List Char :=
  let code := character.toNat
  if code < 0x100 then 'x' :: padded (digits 16) 2 code
  else if code < 0x10000 then 'u' :: padded (digits 16) 4 code
  else 'U' :: padded (digits 16) 8 code

/-- One character as it stands between two marks. -/
def escaped (mark character : Char) : List Char :=
  if character = mark ∨ character = backslash then [backslash, character]
  else if character = '\n' then [backslash, 'n']
  else if character = '\r' then [backslash, 'r']
  else if character = '\t' then [backslash, 't']
  else if isPrintable character then [character]
  else backslash :: codeEscape character

/-- Text between its marks. -/
def quoted (text : String) : String :=
  let mark := markFor text.toList
  String.ofList (mark :: text.toList.flatMap (escaped mark) ++ [mark])

end ChipEight.Text
