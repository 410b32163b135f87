import ChipEight.CallStack
import ChipEight.Display
import ChipEight.Instruction
import ChipEight.Keypad
import ChipEight.Memory
import ChipEight.RandomSource
import ChipEight.Timers

/-!
# The machine

The state of the machine, and the machine that a program starts in. The memory holds bytes by its
type. Registers, timers, the index, the program counter and the return addresses are integers:
running a program keeps them in the ranges that matter, but nothing else does. A timer that the
host has set beyond a byte, say, is read into a register as it is.
-/

namespace ChipEight

/-- The sixteen registers. -/
abbrev Registers := Vector Int 16

/-- The number of return addresses that the machine's call stack accepts. -/
abbrev callLimit : Int := 16

/-- The state of the machine. -/
structure Machine where
  memory : Memory
  registers : Registers
  /-- The address that sprites, stores and loads refer to. -/
  index : Int
  /-- The address of the next instruction. -/
  counter : Int
  calls : CallStack callLimit
  display : Display 64 32
  keypad : Keypad
  timers : Timers
  random : RandomSource
  /-- Shifts read the register that they write, instead of their second operand. -/
  shiftInPlace : Bool
  /-- The reading of the clock at the last cycle that was not skipped. -/
  lastCycle : Option Seconds
  /-- The register that waits for a key, if the machine waits. -/
  awaiting : Option Register
  /-- The last cycle may have changed the display. -/
  redraw : Bool

namespace Machine

/-- The machine before a program is loaded. Its timers rest since `now`. -/
def blank (now : Seconds) (random : RandomSource) (shiftInPlace : Bool) : Machine where
  memory := Memory.blank
  registers := Vector.replicate 16 0
  index := 0
  counter := Memory.programStart
  calls := CallStack.empty
  display := Display.dark
  keypad := Keypad.released
  timers := Timers.start now Timers.standardPeriod
  random := random
  shiftInPlace := shiftInPlace
  lastCycle := none
  awaiting := none
  redraw := false

/-- Places a program in the memory; nothing else changes. -/
def load (machine : Machine) (program : List UInt8) : Except Fault Machine :=
  (machine.memory.load program).map fun memory => { machine with memory := memory }

/-- The machine that starts a program. -/
def boot (program : List UInt8) (now : Seconds) (random : RandomSource) (shiftInPlace : Bool) :
    Except Fault Machine :=
  (blank now random shiftInPlace).load program

/-- What a register holds. -/
def register (machine : Machine) (register : Register) : Int := machine.registers[register]

/-- A value is put into a register. -/
def setRegister (machine : Machine) (register : Register) (value : Int) : Machine :=
  { machine with registers := machine.registers.set register value }

/-- The flag register is set to one or to zero. -/
def setFlag (machine : Machine) (flag : Bool) : Machine :=
  machine.setRegister flagRegister (if flag then 1 else 0)

/-- The host presses a key or lets it go, naming it by an integer. -/
def handleKey (machine : Machine) (position : Int) (down : Bool) : Except Fault Machine :=
  (machine.keypad.set position down).map fun keypad => { machine with keypad := keypad }

/-- The timers are offered a reading of the clock. -/
def tick (machine : Machine) (now : Seconds) : Machine :=
  { machine with timers := (machine.timers.tick now).1 }

/-- A register holds what was last put into it, and the others hold what they held. -/
theorem register_setRegister (machine : Machine) (register other : Register) (value : Int) :
    (machine.setRegister register value).register other =
      if register = other then value else machine.register other := by
  simp only [Machine.register, setRegister, Fin.getElem_fin, Vector.getElem_set, Fin.ext_iff]

end Machine

/-- How the program counter moves after an instruction. -/
inductive Flow where
  /-- On to the next instruction. -/
  | next
  /-- Over the next instruction. -/
  | skip
  /-- Nowhere: the machine waits for a key. -/
  | wait
  /-- To an address. -/
  | jump (target : Int)
  deriving DecidableEq, Repr

/-- Where the program counter goes. -/
def Flow.follow (counter : Int) : Flow → Int
  | next => counter + 2
  | skip => counter + 4
  | wait => counter
  | jump target => target

/-- What an attempt leaves: the machine, whether the attempt succeeded or not, the answer, and the
text that was printed on the way. -/
structure Attempt (ε α : Type) where
  machine : Machine
  result : Except ε α
  trace : String

end ChipEight
