import ChipEight.Instruction
import ChipEight.Word

/-!
# Recognising instructions

A word is recognised by masks. Each row of the pattern table keeps some bits of the word and asks
whether what is left is one of its keys; the first row that says yes decides. The key is the word
with its operands blanked out, and a second table gives for each key the instruction that a word
with this key denotes. Words are taken from integers of any size, of which only the low sixteen
bits matter.
-/

namespace ChipEight

/-- A row of the pattern table: the bits that it keeps and the keys that it knows. -/
structure PatternRow where
  mask : Word
  keys : List Word
  deriving DecidableEq, Repr

/-- The rows in the order in which they are tried, from the most bits kept to the fewest. -/
def patternTable : List PatternRow := [
  ⟨0xFFFF, [0x00E0, 0x00EE]⟩,
  ⟨0xF0FF, [0xE09E, 0xE0A1, 0xF007, 0xF00A, 0xF015, 0xF018, 0xF01E, 0xF029, 0xF033, 0xF055,
    0xF065]⟩,
  ⟨0xF00F, [0x5000, 0x8000, 0x8001, 0x8002, 0x8003, 0x8004, 0x8005, 0x8006, 0x8007, 0x800E,
    0x9000]⟩,
  ⟨0xF000, [0x1000, 0x2000, 0x3000, 0x4000, 0x6000, 0x7000, 0xA000, 0xB000, 0xC000, 0xD000]⟩]

/-- What a row leaves of a word, if that is one of its keys. -/
def PatternRow.key? (row : PatternRow) (word : Word) : Option Word :=
  let kept := word &&& row.mask
  if kept ∈ row.keys then some kept else none

/-- The key that the first matching row of a table finds in a word. -/
def matchKey? (rows : List PatternRow) (word : Word) : Option Word :=
  rows.findSome? (·.key? word)

namespace Instruction

/-- The instruction that each key stands for, given the word that holds its operands. -/
def constructors : List (Word × (Word → Instruction)) := [
  (0x00E0, fun _ => clearDisplay),
  (0x00EE, fun _ => returnFromCall),
  (0x1000, fun word => jump word.nnn),
  (0x2000, fun word => call word.nnn),
  (0x3000, fun word => skipIfByte word.x word.kk),
  (0x4000, fun word => skipUnlessByte word.x word.kk),
  (0x5000, fun word => skipIfSame word.x word.y),
  (0x6000, fun word => loadByte word.x word.kk),
  (0x7000, fun word => addByte word.x word.kk),
  (0x8000, fun word => copy word.x word.y),
  (0x8001, fun word => or word.x word.y),
  (0x8002, fun word => and word.x word.y),
  (0x8003, fun word => xor word.x word.y),
  (0x8004, fun word => add word.x word.y),
  (0x8005, fun word => subtract word.x word.y),
  (0x8006, fun word => shiftRight word.x word.y),
  (0x8007, fun word => subtractFrom word.x word.y),
  (0x800E, fun word => shiftLeft word.x word.y),
  (0x9000, fun word => skipUnlessSame word.x word.y),
  (0xA000, fun word => loadIndex word.nnn),
  (0xB000, fun word => jumpOffset word.nnn),
  (0xC000, fun word => random word.x word.kk),
  (0xD000, fun word => draw word.x word.y word.n),
  (0xE09E, fun word => skipIfHeld word.x),
  (0xE0A1, fun word => skipUnlessHeld word.x),
  (0xF007, fun word => readDelay word.x),
  (0xF00A, fun word => awaitKey word.x),
  (0xF015, fun word => setDelay word.x),
  (0xF018, fun word => setSound word.x),
  (0xF01E, fun word => addToIndex word.x),
  (0xF029, fun word => selectGlyph word.x),
  (0xF033, fun word => storeDecimal word.x),
  (0xF055, fun word => storeRegisters word.x),
  (0xF065, fun word => loadRegisters word.x)]

/-- The instruction that a key stands for. -/
def ofKey? (key word : Word) : Option Instruction :=
  (constructors.lookup key).map (· word)

/-- The instruction that a word denotes, if any. -/
def ofWord? (word : Word) : Option Instruction := do
  let key ← matchKey? patternTable word
  ofKey? key word

/-- The key of the instruction that an integer denotes, if any. -/
def key? (value : Int) : Option Word := matchKey? patternTable (Word.ofInt value)

/-- The instruction that an integer denotes, if any. -/
def decode? (value : Int) : Option Instruction := ofWord? (Word.ofInt value)

/-- Every key of the pattern table stands for an instruction. -/
theorem constructors_cover_patterns (row : PatternRow) (listed : row ∈ patternTable)
    (key : Word) (known : key ∈ row.keys) : (constructors.lookup key).isSome := by
  have covered : patternTable.all (fun row => row.keys.all fun key =>
      (constructors.lookup key).isSome) = true := by decide +kernel
  exact List.all_eq_true.mp (List.all_eq_true.mp covered row listed) key known

example : decode? 0x8AB6 = some (.shiftRight 0xA 0xB) := by decide +kernel
example : decode? 0x8AB8 = none := by decide +kernel
example : decode? (-1) = none := by decide +kernel

end Instruction

end ChipEight
