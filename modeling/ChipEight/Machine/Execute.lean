import ChipEight.Bits
import ChipEight.Machine

/-!
# Executing instructions

The effect of each instruction on the machine, apart from the program counter, whose movement is
the answer. Operands are read before anything is written, and arithmetic writes its flag last, so
that the flag wins when the result goes to the flag register. Sums, differences and doubled values
are cut to a byte; copies, combinations of bits and halved values are not, nor is the bit shifted
out to the left. An instruction that is refused keeps what it did before: bytes already stored stay
stored and registers already loaded stay loaded.
-/

namespace ChipEight.Machine

/-- The registers from the first one up to and including a given one, in ascending order. -/
def registersUpTo (last : Register) : List Register :=
  (List.finRange 16).filter (· ≤ last)

/-- Loads registers from the bytes at an address on, each from its own distance. The first byte
that cannot be read ends this, and the registers loaded before it stay loaded. -/
def loadFrom (machine : Machine) (address : Int) : List Register → Machine × Except Fault Unit
  | [] => (machine, .ok ())
  | register :: rest =>
    match machine.memory.read (address + register.val) with
    | .ok byte => (machine.setRegister register byte.toNat).loadFrom address rest
    | .error fault => (machine, .error fault)

/-- Puts values at the index and after it. -/
def writeAtIndex (machine : Machine) (values : List Int) : Machine × Except Fault Unit :=
  let (memory, result) := machine.memory.writeAll machine.index values
  ({ machine with memory := memory }, result)

/-- The hundreds of a value, its tens and its ones. The tens and the ones are decimal digits, and so
are the hundreds of a byte. -/
def decimalDigits (value : Int) : List Int := [value / 100, value / 10 % 10, value % 10]

/-- Draws a sprite and sets the flag to whether a lit pixel was darkened. -/
def drawSprite (machine : Machine) (sprite : List UInt8) (x y : Int) :
    Machine × Except Fault Unit :=
  match machine.display.draw sprite x y with
  | (display, .ok hit) =>
    ({ { machine with display := display }.setFlag hit with redraw := true }, .ok ())
  | (display, .error fault) => ({ machine with display := display }, .error fault)

/-- Looks at the keypad for a register that waits. While the keypad is untouched the machine waits
on. Otherwise some key is held down, and the lowest one ends the wait. -/
def pollKeypad (machine : Machine) (register : Register) : Machine × Flow :=
  if untouched : machine.keypad.untouched = true then
    ({ machine with awaiting := some register }, .wait)
  else
    let key := machine.keypad.lowest?.get (Keypad.isSome_lowest?_of_touched untouched)
    ({ machine.setRegister register key.val with awaiting := none }, .next)

/-- The value that a shift reads. -/
def shiftSource (machine : Machine) (x y : Register) : Int :=
  if machine.shiftInPlace then machine.register x else machine.register y

/-- Skips the next instruction if a condition holds. -/
def skipWhen (condition : Bool) : Flow := if condition then .skip else .next

/-- An effect that goes on to the next instruction unless it was refused. -/
def thenNext (effect : Machine × Except Fault Unit) : Machine × Except Fault Flow :=
  (effect.1, effect.2.map fun _ => .next)

/-- The effect of an instruction. -/
def execute (machine : Machine) : Instruction → Machine × Except Fault Flow
  | .clearDisplay => ({ machine with display := Display.dark, redraw := true }, .ok .next)
  | .returnFromCall =>
    match machine.calls.pop with
    | .ok (address, calls) => ({ machine with calls := calls }, .ok (.jump address))
    | .error fault => (machine, .error fault)
  | .jump target => (machine, .ok (.jump target.val))
  | .call target =>
    match machine.calls.push (machine.counter + 2) with
    | .ok calls => ({ machine with calls := calls }, .ok (.jump target.val))
    | .error fault => (machine, .error fault)
  | .skipIfByte x byte => (machine, .ok (skipWhen (machine.register x == byte.toNat)))
  | .skipUnlessByte x byte => (machine, .ok (skipWhen (machine.register x != byte.toNat)))
  | .skipIfSame x y =>
    (machine, .ok (skipWhen (machine.register x == machine.register y)))
  | .skipUnlessSame x y =>
    (machine, .ok (skipWhen (machine.register x != machine.register y)))
  | .loadByte x byte => (machine.setRegister x byte.toNat, .ok .next)
  | .addByte x byte =>
    (machine.setRegister x ((machine.register x + byte.toNat) % 256), .ok .next)
  | .copy x y => (machine.setRegister x (machine.register y), .ok .next)
  | .or x y =>
    (machine.setRegister x (Bits.or (machine.register x) (machine.register y)), .ok .next)
  | .and x y =>
    (machine.setRegister x (Bits.and (machine.register x) (machine.register y)), .ok .next)
  | .xor x y =>
    (machine.setRegister x (Bits.xor (machine.register x) (machine.register y)), .ok .next)
  | .add x y =>
    let first := machine.register x
    let second := machine.register y
    ((machine.setRegister x ((first + second) % 256)).setFlag (255 < first + second), .ok .next)
  | .subtract x y =>
    let first := machine.register x
    let second := machine.register y
    ((machine.setRegister x ((first - second) % 256)).setFlag (second ≤ first), .ok .next)
  | .subtractFrom x y =>
    let first := machine.register x
    let second := machine.register y
    ((machine.setRegister x ((second - first) % 256)).setFlag (first ≤ second), .ok .next)
  | .shiftRight x y =>
    let source := machine.shiftSource x y
    ((machine.setRegister x (source / 2)).setRegister flagRegister (source % 2), .ok .next)
  | .shiftLeft x y =>
    let source := machine.shiftSource x y
    ((machine.setRegister x (2 * source % 256)).setRegister flagRegister (source / 128),
      .ok .next)
  | .loadIndex address => ({ machine with index := address.val }, .ok .next)
  | .jumpOffset base => (machine, .ok (.jump (base.val + machine.registers[0])))
  | .random x mask =>
    let (byte, random) := machine.random.next
    ({ machine with random := random }.setRegister x (byte &&& mask).toNat, .ok .next)
  | .draw x y height =>
    match machine.memory.sprite machine.index height.val with
    | .ok sprite =>
      thenNext (machine.drawSprite sprite (machine.register x) (machine.register y))
    | .error fault => (machine, .error fault)
  | .skipIfHeld x => (machine, (machine.keypad.query (machine.register x)).map skipWhen)
  | .skipUnlessHeld x =>
    (machine, (machine.keypad.query (machine.register x)).map fun held => skipWhen !held)
  | .readDelay x => (machine.setRegister x machine.timers.delay, .ok .next)
  | .awaitKey x => ((machine.pollKeypad x).1, .ok (machine.pollKeypad x).2)
  | .setDelay x =>
    ({ machine with timers := { machine.timers with delay := machine.register x } }, .ok .next)
  | .setSound x =>
    ({ machine with timers := { machine.timers with sound := machine.register x } }, .ok .next)
  | .addToIndex x =>
    ({ machine with index := (machine.index + machine.register x) % 65536 }, .ok .next)
  | .selectGlyph x =>
    match Memory.glyphAddress (machine.register x) with
    | .ok address => ({ machine with index := address }, .ok .next)
    | .error fault => (machine, .error fault)
  | .storeDecimal x => thenNext (machine.writeAtIndex (decimalDigits (machine.register x)))
  | .storeRegisters x =>
    thenNext (machine.writeAtIndex ((registersUpTo x).map machine.register))
  | .loadRegisters x => thenNext (machine.loadFrom machine.index (registersUpTo x))

/-- Looking for whether a key is held down and looking for the lowest one agree, so that looking for
the lowest one is enough. -/
theorem pollKeypad_eq (machine : Machine) (register : Register) :
    machine.pollKeypad register =
      match machine.keypad.lowest? with
      | some key => ({ machine.setRegister register key.val with awaiting := none }, .next)
      | none => ({ machine with awaiting := some register }, .wait) := by
  unfold pollKeypad
  split
  case isTrue untouched =>
    rw [(machine.keypad.lowest?_eq_none_iff).mpr (machine.keypad.untouched_iff.mp untouched)]
  case isFalse touched =>
    obtain ⟨key, lowest⟩ :=
      Option.isSome_iff_exists.mp (Keypad.isSome_lowest?_of_touched touched)
    simp only [lowest, Option.get_some]

/-- The tens and the ones of any value are decimal digits, the hundreds of a byte are one too, and
the three of them write the value. -/
theorem decimalDigits_value (value : Int) :
    ∃ hundreds tens ones : Int, decimalDigits value = [hundreds, tens, ones] ∧
      (0 ≤ tens ∧ tens ≤ 9) ∧ (0 ≤ ones ∧ ones ≤ 9) ∧
      (0 ≤ value → value ≤ 255 → 0 ≤ hundreds ∧ hundreds ≤ 9) ∧
      100 * hundreds + 10 * tens + ones = value :=
  ⟨_, _, _, rfl, by omega, by omega, by omega, by omega⟩

/-- The registers up to one are those whose number is not above its own. -/
theorem mem_registersUpTo (register last : Register) :
    register ∈ registersUpTo last ↔ register ≤ last := by
  simp [registersUpTo, List.mem_finRange]

end ChipEight.Machine
