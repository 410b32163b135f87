/-!
# Instruction words

An instruction is a word of four nibbles. The first nibble selects a family; the others are
operands, read one by one or together: `x`, `y` and `n` are the second, third and fourth nibble,
`kk` is the low byte and `nnn` the low twelve bits.
-/

namespace ChipEight

/-- Sixteen bits that may select an instruction. -/
abbrev Word := BitVec 16

namespace Word

/-- The low sixteen bits of an integer in two's complement; the others select nothing. -/
def ofInt (value : Int) : Word := BitVec.ofInt 16 value

/-- The word of two bytes, the most significant first. -/
def ofBytes (high low : UInt8) : Word := high.toBitVec ++ low.toBitVec

/-- The first nibble. -/
def family (word : Word) : Fin 16 := (word.extractLsb' 12 4).toFin

/-- The second nibble, which names a register. -/
def x (word : Word) : Fin 16 := (word.extractLsb' 8 4).toFin

/-- The third nibble, which names a register. -/
def y (word : Word) : Fin 16 := (word.extractLsb' 4 4).toFin

/-- The fourth nibble, a small number. -/
def n (word : Word) : Fin 16 := (word.extractLsb' 0 4).toFin

/-- The low byte. -/
def kk (word : Word) : UInt8 := UInt8.ofBitVec (word.extractLsb' 0 8)

/-- The low twelve bits, an address. -/
def nnn (word : Word) : Fin 4096 := (word.extractLsb' 0 12).toFin

/-- The value of a word is made of its nibbles. -/
theorem toNat_eq_nibbles (word : Word) :
    word.toNat = 4096 * word.family.val + 256 * word.x.val + 16 * word.y.val + word.n.val := by
  have bound := word.isLt
  simp only [family, x, y, n, BitVec.toFin_extractLsb', Fin.val_ofNat, Nat.shiftRight_eq_div_pow]
  omega

/-- Integers that agree modulo 65536 have the same word, and no others do. -/
theorem ofInt_eq_ofInt_iff (first second : Int) :
    ofInt first = ofInt second ↔ first % 65536 = second % 65536 := by
  rw [ofInt, ofInt, ← BitVec.toNat_inj, BitVec.toNat_ofInt, BitVec.toNat_ofInt]
  omega

end Word

end ChipEight
