import ChipEight.Instruction
import ChipEight.Text.Numeral

/-!
# Mnemonics

The text of an instruction in the machine's assembly language. Registers are named by one
upper-case digit after a `V`; addresses and random masks are hexadecimal, other bytes and sprite
heights decimal. All operands are shown, so that the text determines the instruction.
-/

namespace ChipEight.Instruction

/-- The name of a register. -/
def registerName (register : Register) : String :=
  "V" ++ Text.upperHexadecimal 1 register.val

/-- An address as it is shown. -/
def addressText (address : Fin 4096) : String := "0x" ++ Text.hexadecimal 3 address.val

/-- An operation on one register. -/
def unaryText (operation : String) (x : Register) (rest : String) : String :=
  operation ++ " " ++ registerName x ++ rest

/-- An operation on a register and a byte. -/
def byteText (operation : String) (x : Register) (byte : UInt8) : String :=
  operation ++ " " ++ registerName x ++ ", " ++ Text.decimal byte.toNat

/-- An operation on two registers. -/
def binaryText (operation : String) (x y : Register) : String :=
  operation ++ " " ++ registerName x ++ ", " ++ registerName y

/-- The text of an instruction. -/
def mnemonic : Instruction → String
  | clearDisplay => "CLS"
  | returnFromCall => "RET"
  | jump target => "JP " ++ addressText target
  | call target => "CALL " ++ addressText target
  | skipIfByte x byte => byteText "SE" x byte
  | skipUnlessByte x byte => byteText "SNE" x byte
  | skipIfSame x y => binaryText "SE" x y
  | loadByte x byte => byteText "LD" x byte
  | addByte x byte => byteText "ADD" x byte
  | copy x y => binaryText "LD" x y
  | or x y => binaryText "OR" x y
  | and x y => binaryText "AND" x y
  | xor x y => binaryText "XOR" x y
  | add x y => binaryText "ADD" x y
  | subtract x y => binaryText "SUB" x y
  | shiftRight x y => binaryText "SHR" x y
  | subtractFrom x y => binaryText "SUBN" x y
  | shiftLeft x y => binaryText "SHL" x y
  | skipUnlessSame x y => binaryText "SNE" x y
  | loadIndex address => "LD I, " ++ addressText address
  | jumpOffset base => "JP V0, " ++ addressText base
  | random x mask => unaryText "RND" x (", 0x" ++ Text.hexadecimal 2 mask.toNat)
  | draw x y height => binaryText "DRW" x y ++ ", " ++ Text.decimal height.val
  | skipIfHeld x => unaryText "SKP" x ""
  | skipUnlessHeld x => unaryText "SKNP" x ""
  | readDelay x => unaryText "LD" x ", DT"
  | awaitKey x => unaryText "LD" x ", K"
  | setDelay x => "LD DT, " ++ registerName x
  | setSound x => "LD ST, " ++ registerName x
  | addToIndex x => "ADD I, " ++ registerName x
  | selectGlyph x => "LD F, " ++ registerName x
  | storeDecimal x => "LD B, " ++ registerName x
  | storeRegisters x => "LD [I], " ++ registerName x
  | loadRegisters x => unaryText "LD" x ", [I]"

example : mnemonic (draw 1 2 5) = "DRW V1, V2, 5" := by decide +kernel
example : mnemonic (random 0xA 0x0F) = "RND VA, 0x0f" := by decide +kernel

end ChipEight.Instruction
