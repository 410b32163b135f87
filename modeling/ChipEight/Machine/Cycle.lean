import ChipEight.Instruction.Decode
import ChipEight.Instruction.Mnemonic
import ChipEight.Machine.Error
import ChipEight.Machine.Execute

/-!
# Cycles

One cycle fetches a word, recognises it, executes it, moves the program counter and offers the
reading of the clock to the timers. A machine that waits for a key looks at the keypad instead. A
cycle that comes too early after the last one does nothing but offer the reading to the timers.

A failing cycle leaves the program counter and the timers alone. When tracing is on, a word is
reported when it has been fetched, and its instruction when it has been recognised, before it is
executed. Tracing has no other effect.
-/

namespace ChipEight

/-- The least time between two cycles, a thousandth of a second. -/
def cyclePeriod : Seconds := 0.001

/-- What is reported of a word that is to be recognised. -/
def wordReport (word : Int) : String := "opcode: 0x" ++ Text.hexadecimal 4 word ++ "    "

/-- What is reported of an instruction that is to be executed. -/
def instructionReport (address : Int) (instruction : Instruction) : String :=
  "mem_addr: 0x" ++ Text.hexadecimal 4 address ++ "    instruction: " ++ instruction.mnemonic
    ++ "\n"

/-- A report, which is empty when tracing is off. -/
def reportWhen (tracing : Bool) (report : String) : String := if tracing then report else ""

namespace Machine

/-- The word at the program counter. -/
def fetch (machine : Machine) : Except Fault Word := do
  let high ← machine.memory.read machine.counter
  let low ← machine.memory.read (machine.counter + 1)
  return Word.ofBytes high low

/-- Recognises and executes a word, wherever it comes from. The program counter stays. -/
def perform (tracing : Bool) (machine : Machine) (word : Int) : Attempt Stop Flow :=
  match Instruction.decode? word with
  | none => ⟨machine, .error .unknown, reportWhen tracing (wordReport word)⟩
  | some instruction =>
    let (after, result) := machine.execute instruction
    ⟨after, result.mapError .refused,
      reportWhen tracing (wordReport word ++ instructionReport machine.counter instruction)⟩

/-- Recognises and executes a word, wherever it comes from. An error names the word and the program
counter. -/
def handleWord (tracing : Bool) (machine : Machine) (value : Int) : Attempt MachineError Flow :=
  let attempt := machine.perform tracing value
  ⟨attempt.machine, attempt.result.mapError (MachineError.ofStop value machine.counter),
    attempt.trace⟩

/-- Fetches, recognises and executes the word at the program counter, which stays. -/
def executeNext (tracing : Bool) (machine : Machine) : Attempt MachineError Flow :=
  match machine.fetch with
  | .error fault => ⟨machine, .error (.execution none machine.counter fault), ""⟩
  | .ok word => machine.handleWord tracing word.toNat

/-- Whether a cycle at a reading of the clock comes too early. -/
def isThrottled (machine : Machine) (now : Seconds) : Bool :=
  match machine.lastCycle with
  | none => false
  | some last => now - last < cyclePeriod

/-- What a cycle does before the program counter moves: it looks at the keypad if the machine
waits, and executes an instruction otherwise. -/
def act (tracing : Bool) (machine : Machine) : Attempt MachineError Flow :=
  match machine.awaiting with
  | some register => ⟨(machine.pollKeypad register).1, .ok (machine.pollKeypad register).2, ""⟩
  | none => machine.executeNext tracing

/-- The program counter moves. -/
def advance (machine : Machine) (flow : Flow) : Machine :=
  { machine with counter := flow.follow machine.counter }

/-- One cycle at a reading of the clock. The answer is how the program counter moved, or nothing
when the cycle came too early. -/
def step (tracing : Bool) (machine : Machine) (now : Seconds) :
    Attempt MachineError (Option Flow) :=
  let undrawn := { machine with redraw := false }
  if machine.isThrottled now then ⟨undrawn.tick now, .ok none, ""⟩
  else
    let attempt := { undrawn with lastCycle := some now }.act tracing
    match attempt.result with
    | .error error => ⟨attempt.machine, .error error, attempt.trace⟩
    | .ok flow => ⟨(attempt.machine.advance flow).tick now, .ok (some flow), attempt.trace⟩

end Machine

end ChipEight
