import ChipEight.Proofs.Ranges

/-!
# Arithmetic with a flag

Five operations on two registers put a byte into the first one and a flag into the flag register.
The byte alone does not tell the true sum, difference or shifted value, but the byte and the flag
together do: the flag is what a byte has no room for, or says that nothing had to be borrowed. No
other byte and flag would do.

Both come from the operands as they were before. This holds also where an operand or the result is
the flag register. If the result would go there, then the flag is put over it, and only the result
is lost.
-/

namespace ChipEight

/-- The operations that set the flag register beside their result. -/
inductive Arithmetic where
  | add
  | subtract
  | shiftRight
  | subtractFrom
  | shiftLeft
  deriving DecidableEq, Repr

namespace Arithmetic

/-- The operation as an instruction on two registers. -/
def instruction (x y : Register) : Arithmetic → Instruction
  | add => .add x y
  | subtract => .subtract x y
  | shiftRight => .shiftRight x y
  | subtractFrom => .subtractFrom x y
  | shiftLeft => .shiftLeft x y

/-- The last nibble of the operation's words. -/
def selector : Arithmetic → Nat
  | add => 0x4
  | subtract => 0x5
  | shiftRight => 0x6
  | subtractFrom => 0x7
  | shiftLeft => 0xE

/-- The word of the operation on two registers. -/
def word (x y : Register) (operation : Arithmetic) : Word :=
  BitVec.ofNat 16 (0x8000 + 256 * x.val + 16 * y.val + operation.selector)

/-- A byte and a flag that stand for what an operation makes of its two operands, or of the one that
it shifts. -/
structure Yields (operation : Arithmetic) (first second shifted result flag : Int) : Prop where
  byte : IsByte result
  bit : flag = 0 ∨ flag = 1
  value : match operation with
    | add => 256 * flag + result = first + second
    | subtract => result = first - second + 256 * (1 - flag)
    | shiftRight => 2 * result + flag = shifted
    | subtractFrom => result = second - first + 256 * (1 - flag)
    | shiftLeft => 256 * flag + result = 2 * shifted

variable {operation : Arithmetic} {first second shifted result flag : Int}

/-- There is only one such byte and only one such flag. -/
theorem Yields.unique (yields : operation.Yields first second shifted result flag)
    {other otherFlag : Int} (otherYields : operation.Yields first second shifted other otherFlag) :
    other = result ∧ otherFlag = flag := by
  obtain ⟨byte, bit, value⟩ := yields
  obtain ⟨otherByte, otherBit, otherValue⟩ := otherYields
  unfold IsByte at byte otherByte
  cases operation <;> simp only at value otherValue <;> omega

/-- The word of an operation is recognised as its instruction. -/
theorem ofWord?_word (operation : Arithmetic) (x y : Register) :
    Instruction.ofWord? (operation.word x y) = some (operation.instruction x y) := by
  have left := x.isLt
  have right := y.isLt
  rw [Instruction.ofWord?_eq_some_iff, word, BitVec.toNat_ofNat]
  cases operation <;> simp only [instruction, Instruction.code, selector] <;> omega

end Arithmetic

namespace Machine

variable {machine : Machine}

/-- An operation puts its byte into the first register and after that its flag into the flag
register. -/
theorem execute_arithmetic (bytes : ∀ register : Register, IsByte (machine.register register))
    (operation : Arithmetic) (x y : Register) :
    ∃ result flag, operation.Yields (machine.register x) (machine.register y)
        (machine.shiftSource x y) result flag ∧
      machine.execute (operation.instruction x y) =
        ((machine.setRegister x result).setRegister flagRegister flag, .ok .next) := by
  obtain ⟨_, _⟩ := bytes x
  obtain ⟨_, _⟩ := bytes y
  obtain ⟨_, _⟩ := isByte_shiftSource bytes x y
  cases operation with
  | add | subtract | subtractFrom =>
    -- The flag is a comparison, and its two outcomes are the two values that were cut off.
    refine ⟨_, _, ⟨?_, ?_, ?_⟩, rfl⟩
    · constructor <;> omega
    · split <;> simp
    · simp only [decide_eq_true_eq]
      split <;> omega
  | shiftRight | shiftLeft =>
    -- The flag is a quotient or a remainder, and a bit only because the shifted value is a byte.
    refine ⟨_, _, ⟨?_, ?_, ?_⟩, rfl⟩
    · constructor <;> omega
    · omega
    · simp only
      omega

/-- What performing an operation makes of a machine. There are a byte and a flag that stand for the
operation's value, the flag is in the flag register, the byte is in the first register unless that
is the flag register itself, and nothing else changed in the registers. -/
structure Computes (machine : Machine) (operation : Arithmetic) (x y : Register)
    (after : Machine) : Prop where
  possible : ∃ result flag, operation.Yields (machine.register x) (machine.register y)
    (if machine.shiftInPlace then machine.register x else machine.register y) result flag
  left : ∀ result flag, operation.Yields (machine.register x) (machine.register y)
      (if machine.shiftInPlace then machine.register x else machine.register y) result flag →
    after.register flagRegister = flag ∧ (x ≠ flagRegister → after.register x = result)
  others : ∀ register, register ≠ x → register ≠ flagRegister →
    after.register register = machine.register register

/-- Performing the word of an operation goes on to the next instruction and makes exactly this. -/
theorem perform_computes (bytes : ∀ register : Register, IsByte (machine.register register))
    (tracing : Bool) (operation : Arithmetic) (x y : Register) :
    (machine.perform tracing (operation.word x y).toNat).result = .ok .next ∧
      machine.Computes operation x y
        (machine.perform tracing (operation.word x y).toNat).machine := by
  obtain ⟨result, flag, yields, executed⟩ := execute_arithmetic bytes operation x y
  obtain ⟨after, answer⟩ := machine.perform_of_recognised tracing (operation.ofWord?_word x y)
  rw [executed] at after answer
  rw [after, answer]
  refine ⟨rfl, ⟨result, flag, yields⟩, ?_, ?_⟩
  · intro other otherFlag otherYields
    obtain ⟨rfl, rfl⟩ := yields.unique otherYields
    refine ⟨by rw [register_setRegister, if_pos rfl], ?_⟩
    intro apart
    rw [register_setRegister, if_neg apart.symm, register_setRegister, if_pos rfl]
  · intro register otherThanFirst otherThanFlag
    rw [register_setRegister, if_neg otherThanFlag.symm, register_setRegister,
      if_neg otherThanFirst.symm]

/-- Registers that hold bytes still do so after an operation. -/
theorem Computes.bytes {operation : Arithmetic} {x y : Register} {after : Machine}
    (computes : machine.Computes operation x y after)
    (bytes : ∀ register : Register, IsByte (machine.register register)) (register : Register) :
    IsByte (after.register register) := by
  obtain ⟨result, flag, yields⟩ := computes.possible
  obtain ⟨flagLeft, resultLeft⟩ := computes.left result flag yields
  by_cases isFlag : register = flagRegister
  · rw [isFlag, flagLeft]
    rcases yields.bit with rfl | rfl <;> decide
  · by_cases isFirst : register = x
    · subst isFirst
      rw [resultLeft isFlag]
      exact yields.byte
    · rw [computes.others register isFirst isFlag]
      exact bytes register

/-- Taking away what was added gives back what was there. -/
theorem Computes.restored {x y : Register} {added after : Machine}
    (first : machine.Computes .add x y added) (second : added.Computes .subtract x y after)
    (byte : IsByte (machine.register x)) (distinct : x ≠ y) (resultKept : x ≠ flagRegister)
    (operandKept : y ≠ flagRegister) : after.register x = machine.register x := by
  obtain ⟨sum, carry, sumYields⟩ := first.possible
  obtain ⟨difference, spared, differenceYields⟩ := second.possible
  have operand := first.others y distinct.symm operandKept
  have sumLeft := (first.left sum carry sumYields).2 resultKept
  have differenceLeft := (second.left difference spared differenceYields).2 resultKept
  have total : 256 * carry + sum = machine.register x + machine.register y := sumYields.value
  have remaining : difference = added.register x - added.register y + 256 * (1 - spared) :=
    differenceYields.value
  obtain ⟨_, _⟩ := byte
  obtain ⟨_, _⟩ := differenceYields.byte
  rw [sumLeft, operand] at remaining
  rw [differenceLeft]
  omega

/-- The arithmetic of a machine whose registers hold bytes is exact. Every operation, on every two
registers, goes on to the next instruction and leaves the only byte and the only flag that stand for
its value. Taking a register away again that was added to another one restores the other one, if
neither of the two is the flag register. -/
theorem perform_arithmetic_exact
    (bytes : ∀ register : Register, IsByte (machine.register register)) (tracing : Bool) :
    (∀ (operation : Arithmetic) (x y : Register),
      (machine.perform tracing (operation.word x y).toNat).result = .ok .next ∧
        machine.Computes operation x y
          (machine.perform tracing (operation.word x y).toNat).machine) ∧
    ∀ x y : Register, x ≠ y → x ≠ flagRegister → y ≠ flagRegister →
      let added := (machine.perform tracing (Arithmetic.add.word x y).toNat).machine
      let restored := (added.perform tracing (Arithmetic.subtract.word x y).toNat).machine
      restored.register x = machine.register x := by
  refine ⟨perform_computes bytes tracing, ?_⟩
  intro x y distinct resultKept operandKept added restored
  have first : machine.Computes .add x y added := (perform_computes bytes tracing .add x y).2
  have second : added.Computes .subtract x y restored :=
    (perform_computes (first.bytes bytes) tracing .subtract x y).2
  exact first.restored second (bytes x) distinct resultKept operandKept

/-- The sum of 200 and 100 does not fit into a byte. Adding into the flag register leaves only that,
and adding into another one and taking away again restores the 200. -/
theorem perform_arithmetic_exact_of_carry :
    ∃ machine : Machine, (∀ register : Register, IsByte (machine.register register)) ∧
      machine.register 3 = 200 ∧ machine.register flagRegister = 100 ∧
      (let overwritten := (machine.perform false 0x8F34).machine
       overwritten.register flagRegister = 1 ∧ overwritten.register 3 = 200) ∧
      let added := (machine.perform false 0x8344).machine
      let restored := (added.perform false 0x8345).machine
      restored.register 3 = 200 := by
  let machine : Machine := { Machine.blank 0 (.cycling #[]) false with
    registers := #v[0, 0, 0, 200, 100, 0, 0, 0, 0, 0, 0, 0, 0, 0, 0, 100] }
  have bytes : ∀ register : Register, IsByte (machine.register register) := by decide +kernel
  obtain ⟨exactly, restoring⟩ := perform_arithmetic_exact bytes false
  obtain ⟨_, computes⟩ := exactly .add 15 3
  have carried : Arithmetic.add.Yields 100 200 200 44 1 := ⟨by decide, .inr rfl, by decide⟩
  refine ⟨machine, bytes, by decide +kernel, by decide +kernel, ⟨?_, ?_⟩, ?_⟩
  · exact (computes.left 44 1 carried).1
  · exact computes.others 3 (by decide) (by decide)
  · exact restoring 3 4 (by decide) (by decide) (by decide)

end Machine

end ChipEight
