/-!
# Instructions

The thirty-four instructions with their operands. Registers are named by numbers below sixteen,
addresses lie in the memory, and immediate values are bytes; the sprite height of `draw` is one
nibble. What each instruction does is said in `ChipEight.Machine.Execute`.
-/

namespace ChipEight

/-- The number of a register. -/
abbrev Register := Fin 16

/-- The register that arithmetic and drawing use for their flag. -/
def flagRegister : Register := Fin.last 15

/-- One instruction with its operands. -/
inductive Instruction where
  /-- `00E0`: darken the display. -/
  | clearDisplay
  /-- `00EE`: return from a subroutine. -/
  | returnFromCall
  /-- `1nnn`: go to an address. -/
  | jump (target : Fin 4096)
  /-- `2nnn`: call the subroutine at an address. -/
  | call (target : Fin 4096)
  /-- `3xkk`: skip if a register equals a byte. -/
  | skipIfByte (x : Register) (byte : UInt8)
  /-- `4xkk`: skip unless a register equals a byte. -/
  | skipUnlessByte (x : Register) (byte : UInt8)
  /-- `5xy0`: skip if two registers are equal. -/
  | skipIfSame (x y : Register)
  /-- `6xkk`: load a byte. -/
  | loadByte (x : Register) (byte : UInt8)
  /-- `7xkk`: add a byte, leaving the flag alone. -/
  | addByte (x : Register) (byte : UInt8)
  /-- `8xy0`: copy a register. -/
  | copy (x y : Register)
  /-- `8xy1`: bitwise disjunction. -/
  | or (x y : Register)
  /-- `8xy2`: bitwise conjunction. -/
  | and (x y : Register)
  /-- `8xy3`: bitwise exclusive disjunction. -/
  | xor (x y : Register)
  /-- `8xy4`: add with carry. -/
  | add (x y : Register)
  /-- `8xy5`: subtract the second register from the first. -/
  | subtract (x y : Register)
  /-- `8xy6`: shift right by one bit. -/
  | shiftRight (x y : Register)
  /-- `8xy7`: subtract the first register from the second. -/
  | subtractFrom (x y : Register)
  /-- `8xyE`: shift left by one bit. -/
  | shiftLeft (x y : Register)
  /-- `9xy0`: skip unless two registers are equal. -/
  | skipUnlessSame (x y : Register)
  /-- `Annn`: load the index. -/
  | loadIndex (address : Fin 4096)
  /-- `Bnnn`: go to an address plus the first register. -/
  | jumpOffset (base : Fin 4096)
  /-- `Cxkk`: load a random byte, masked. -/
  | random (x : Register) (mask : UInt8)
  /-- `Dxyn`: draw a sprite of `height` rows. -/
  | draw (x y : Register) (height : Fin 16)
  /-- `Ex9E`: skip if a key is held. -/
  | skipIfHeld (x : Register)
  /-- `ExA1`: skip unless a key is held. -/
  | skipUnlessHeld (x : Register)
  /-- `Fx07`: load the delay timer. -/
  | readDelay (x : Register)
  /-- `Fx0A`: wait for a key. -/
  | awaitKey (x : Register)
  /-- `Fx15`: set the delay timer. -/
  | setDelay (x : Register)
  /-- `Fx18`: set the sound timer. -/
  | setSound (x : Register)
  /-- `Fx1E`: add to the index. -/
  | addToIndex (x : Register)
  /-- `Fx29`: point the index at a glyph. -/
  | selectGlyph (x : Register)
  /-- `Fx33`: store three decimal digits. -/
  | storeDecimal (x : Register)
  /-- `Fx55`: store the registers up to one. -/
  | storeRegisters (x : Register)
  /-- `Fx65`: load the registers up to one. -/
  | loadRegisters (x : Register)
  deriving DecidableEq, Repr

end ChipEight
