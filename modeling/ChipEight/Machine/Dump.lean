import ChipEight.Machine

/-!
# Dump

The registers of the machine as five lines of text: the address registers and the other ones, the
call stack, the timers, the keypad, and the two flags.
-/

namespace ChipEight

/-- A truth value as it is shown. -/
def truthText (value : Bool) : String := if value then "True" else "False"

/-- The registers as a bracketed list of decimal numerals. -/
def registersText (registers : Registers) : String :=
  "[" ++ String.intercalate ", " (registers.toList.map Text.decimal) ++ "]"

namespace Machine

/-- The five lines, of which the last one does not end with a line feed. -/
def dump (machine : Machine) : String :=
  "PC_REGISTER:0x" ++ Text.hexadecimal 3 machine.counter
    ++ " | IDX_REGISTER:0x" ++ Text.hexadecimal 4 machine.index
    ++ " | VARIABLE_REGISTERS:" ++ registersText machine.registers
    ++ "\nSTACK:" ++ machine.calls.text
    ++ "\nDT:" ++ Text.decimal machine.timers.delay
    ++ " | ST:" ++ Text.decimal machine.timers.sound
    ++ "\nKEYPAD:" ++ machine.keypad.text
    ++ "\nDRAW: " ++ truthText machine.redraw
    ++ " | WAITING_FOR_KEY: " ++ truthText machine.awaiting.isSome

end Machine

end ChipEight
