import ChipEight.Proofs.Refusals
import ChipEight.Proofs.Transfers
import Mathlib.Control.Monad.Basic

/-!
# What a failing cycle leaves behind

A cycle that answers an error has begun: the display counts as unchanged, and the reading of the
clock is that of the last cycle. It has not ended: the program counter has not moved, and the timers
were not offered the reading. In between most instructions look first and change nothing when they
are refused. Only the three transfers between registers and memory leave something behind, the part
of the transfer that lies in the memory.

`FailsInto` says this of every part of the machine, in terms of the instruction whose code stands at
the program counter.
-/

namespace ChipEight.Machine

/-- The word at the program counter is that of an instruction. -/
def IsAt (machine : Machine) (instruction : Instruction) : Prop :=
  ∃ word, machine.HoldsWord machine.counter word ∧ instruction.code = word.toNat

/-- There is one instruction at the program counter. -/
theorem IsAt.unique {machine : Machine} {instruction other : Instruction}
    (isAt : machine.IsAt instruction) (otherIsAt : machine.IsAt other) : instruction = other := by
  obtain ⟨word, held, coded⟩ := isAt
  obtain ⟨_, otherHeld, otherCoded⟩ := otherIsAt
  obtain rfl := held.unique otherHeld
  have recognised := (Instruction.ofWord?_eq_some_iff word instruction).mpr coded
  have otherRecognised := (Instruction.ofWord?_eq_some_iff word other).mpr otherCoded
  exact Option.some.inj (recognised.symm.trans otherRecognised)

/-- No other instruction is at the program counter. -/
theorem IsAt.excludes {machine : Machine} {instruction other : Instruction}
    (isAt : machine.IsAt instruction) (differs : instruction ≠ other) : ¬ machine.IsAt other :=
  fun otherIsAt => differs (isAt.unique otherIsAt)

/-- What a failing cycle at a reading of the clock leaves of a machine. -/
structure FailsInto (before : Machine) (now : Seconds) (after : Machine) : Prop where
  /-- Apart from the registers and the memory, the cycle has begun and nothing else has changed. -/
  begun : after = { before with
    redraw := false, lastCycle := some now, registers := after.registers, memory := after.memory }
  /-- Only loading changes registers. -/
  registers_kept : (∀ x, ¬ before.IsAt (.loadRegisters x)) → after.registers = before.registers
  /-- Loading changes the registers whose bytes lie in the memory. -/
  loaded : ∀ x, before.IsAt (.loadRegisters x) → ∀ register : Register,
    (register ≤ x ∧ before.index + register.val ≤ 4095 →
      ∃ byte : UInt8, before.memory.read (before.index + register.val) = .ok byte ∧
        after.register register = byte.toNat) ∧
    (¬ (register ≤ x ∧ before.index + register.val ≤ 4095) →
      after.register register = before.register register)
  /-- Only the two stores change the memory. -/
  memory_kept : (∀ x, ¬ before.IsAt (.storeDecimal x)) → (∀ x, ¬ before.IsAt (.storeRegisters x)) →
    after.memory = before.memory
  /-- Decimal digits are stored as far as the memory goes. -/
  digits_stored : ∀ x, before.IsAt (.storeDecimal x) →
    Memory.Overwritten before.memory after.memory before.index
      [before.register x / 100, before.register x / 10 % 10, before.register x % 10]
  /-- Registers are stored as far as the memory goes. -/
  registers_stored : ∀ x, before.IsAt (.storeRegisters x) →
    Memory.Overwritten before.memory after.memory before.index
      ((registersUpTo x).map before.register)

/-- An instruction that moves several bytes between registers and memory. -/
inductive Transfers : Instruction → Prop where
  | storeDecimal (x : Register) : Transfers (.storeDecimal x)
  | storeRegisters (x : Register) : Transfers (.storeRegisters x)
  | loadRegisters (x : Register) : Transfers (.loadRegisters x)

/-- A machine that refuses an instruction other than a transfer stays as it is. -/
theorem execute_of_refused {machine : Machine} {instruction : Instruction} {fault : Fault}
    (refused : Refused machine instruction fault) (noTransfer : ¬ Transfers instruction) :
    (machine.execute instruction).1 = machine := by
  cases refused with
  | returnFromCall empty =>
    rw [machine.execute_return_of_nil (List.eq_nil_of_length_eq_zero empty)]
  | call target full => rw [machine.execute_call_of_full target (Nat.le_of_eq full.symm)]
  | draw x y height beyond => rw [machine.execute_draw_of_error (if_pos (Or.inr beyond))]
  | skipIfHeld x noKey => rfl
  | skipUnlessHeld x noKey => rfl
  | selectGlyph x noDigit =>
    have noGlyph : ¬ (0 ≤ machine.register x ∧ machine.register x ≤ 0xF) := by omega
    simp only [execute_selectGlyph, Memory.glyphAddress, if_neg noGlyph]
  | storeDecimal x beyond => exact absurd (.storeDecimal x) noTransfer
  | storeRegisters x beyond => exact absurd (.storeRegisters x) noTransfer
  | loadRegisters x beyond => exact absurd (.loadRegisters x) noTransfer

namespace FailsInto

variable {before after : Machine} {now : Seconds}

/-- The program counter has not moved. -/
theorem counter (left : FailsInto before now after) : after.counter = before.counter := by
  rw [left.begun]

/-- The index has not changed. -/
theorem index (left : FailsInto before now after) : after.index = before.index := by
  rw [left.begun]

/-- Where no transfer is at the program counter, the cycle has begun and that is all. -/
theorem opened (noTransfer : ∀ instruction, before.IsAt instruction → ¬ Transfers instruction) :
    FailsInto before now (before.opened now) where
  begun := rfl
  registers_kept := fun _ => rfl
  loaded := fun x isAt => absurd (.loadRegisters x) (noTransfer _ isAt)
  memory_kept := fun _ _ => rfl
  digits_stored := fun x isAt => absurd (.storeDecimal x) (noTransfer _ isAt)
  registers_stored := fun x isAt => absurd (.storeRegisters x) (noTransfer _ isAt)

/-- Storing decimal digits. -/
theorem storeDecimal (valid : before.InRange) {x : Register}
    (isAt : before.IsAt (.storeDecimal x)) :
    FailsInto before now ((before.opened now).execute (.storeDecimal x)).1 where
  begun := rfl
  registers_kept := fun _ => rfl
  loaded := fun _ other => absurd other (isAt.excludes (by simp))
  memory_kept := fun noDigits _ => absurd isAt (noDigits x)
  digits_stored := by
    intro y other
    obtain rfl := Instruction.storeDecimal.inj (isAt.unique other)
    exact Memory.overwritten_writeAll (isByte_decimalDigits valid x) valid.index.1
  registers_stored := fun _ other => absurd other (isAt.excludes (by simp))

/-- Storing registers. -/
theorem storeRegisters (valid : before.InRange) {x : Register}
    (isAt : before.IsAt (.storeRegisters x)) :
    FailsInto before now ((before.opened now).execute (.storeRegisters x)).1 where
  begun := rfl
  registers_kept := fun _ => rfl
  loaded := fun _ other => absurd other (isAt.excludes (by simp))
  memory_kept := fun _ noRegisters => absurd isAt (noRegisters x)
  digits_stored := fun _ other => absurd other (isAt.excludes (by simp))
  registers_stored := by
    intro y other
    obtain rfl := Instruction.storeRegisters.inj (isAt.unique other)
    exact overwritten_storeRegisters valid.registers valid.index.1 x

/-- Loading registers. -/
theorem loadRegisters (valid : before.InRange) {x : Register}
    (isAt : before.IsAt (.loadRegisters x)) :
    FailsInto before now ((before.opened now).execute (.loadRegisters x)).1 where
  begun := by
    rw [execute_loadRegisters_frame]
    rfl
  registers_kept := fun noLoad => absurd isAt (noLoad x)
  loaded := by
    intro y other register
    obtain rfl := Instruction.loadRegisters.inj (isAt.unique other)
    exact (before.opened now).register_loadRegisters valid.index.1 x register
  memory_kept := by
    intro _ _
    rw [execute_loadRegisters_frame]
    rfl
  digits_stored := fun _ other => absurd other (isAt.excludes (by simp))
  registers_stored := fun _ other => absurd other (isAt.excludes (by simp))

end FailsInto

/-- What a cycle that answers an error leaves.

Proof: in three of the ways the cycle answers an error. Without a word, or with one that denotes no
instruction, there is no transfer to leave anything. With an instruction, what it leaves is said by
its own lemma for a transfer, and is the opened machine otherwise. -/
theorem Cycle.failsInto {before after : Machine} {now : Seconds} {error : MachineError}
    (valid : before.InRange) (cycle : Cycle before now after (.error error)) :
    FailsInto before now after := by
  cases cycle with
  | unfetched fault due runs unread =>
    apply FailsInto.opened
    rintro instruction ⟨word, held, -⟩
    exact nomatch unread.symm.trans ((before.fetch_eq_ok_iff word).mpr held)
  | unknown word due runs fetched unrecognised =>
    apply FailsInto.opened
    rintro instruction ⟨other, held, coded⟩
    obtain rfl := ((before.fetch_eq_ok_iff word).mp fetched).unique held
    exact absurd coded ((Instruction.ofWord?_eq_none_iff word).mp unrecognised instruction)
  | refused word instruction fault due runs fetched recognised refusal =>
    have isAt : before.IsAt instruction := ⟨word, (before.fetch_eq_ok_iff word).mp fetched,
      (Instruction.ofWord?_eq_some_iff word instruction).mp recognised⟩
    by_cases transfer : Transfers instruction
    · cases transfer with
      | storeDecimal x => exact .storeDecimal valid isAt
      | storeRegisters x => exact .storeRegisters valid isAt
      | loadRegisters x => exact .loadRegisters valid isAt
    · have opened : (before.opened now).InRange := valid.opened now
      have refused := (execute_eq_error_iff opened instruction fault).mp refusal
      rw [execute_of_refused refused transfer]
      apply FailsInto.opened
      intro other otherIsAt
      exact isAt.unique otherIsAt ▸ transfer

end ChipEight.Machine

namespace ChipEight.Console

open Machine

/-- What a cycle of a reachable console leaves behind when it answers an error: the cycle has begun,
and of a transfer between registers and memory the part that lies in the memory has been served. -/
theorem step_failsInto {console : Console} (reachable : Reachable console) {tracing : Bool}
    {error : MachineError} (failed : (console.step tracing).2.result = .error error) :
    FailsInto console.machine console.now (console.step tracing).1.machine := by
  have cycle := console.step_cycle tracing
  rw [failed] at cycle
  exact cycle.failsInto reachable.inRange

/-- The program `6007 AFFF F155` stores two registers at the last address and is refused in its
third cycle. -/
theorem boot_store_at_end :
    ∃ machine, Machine.boot [0x60, 0x07, 0xAF, 0xFF, 0xF1, 0x55] 0 (.cycling #[]) false =
        .ok machine ∧
      let reached := ((⟨machine, 0⟩ : Console).run false
        [.step, .advanceClock 0.002, .step, .advanceClock 0.002]).1
      (reached.step false).2.result =
        .error (.execution (some 0xF155) 0x204 (.memoryBounds 0x1000 1)) ∧
      reached.machine.counter = 0x204 ∧ reached.machine.index = 0xFFF ∧
      reached.machine.register 0 = 7 ∧ reached.machine.IsAt (.storeRegisters 1) := by
  obtain ⟨machine, started, failed, counter, index, register, high, low⟩ :
      ∃ machine, Machine.boot [0x60, 0x07, 0xAF, 0xFF, 0xF1, 0x55] 0 (.cycling #[]) false =
          .ok machine ∧
        let reached := ((⟨machine, 0⟩ : Console).run false
          [.step, .advanceClock 0.002, .step, .advanceClock 0.002]).1
        (reached.step false).2.result =
          .error (.execution (some 0xF155) 0x204 (.memoryBounds 0x1000 1)) ∧
        reached.machine.counter = 0x204 ∧ reached.machine.index = 0xFFF ∧
        reached.machine.register 0 = 7 ∧
        reached.machine.memory.read 0x204 = .ok 0xF1 ∧
        reached.machine.memory.read 0x205 = .ok 0x55 :=
    ⟨_, (Machine.boot_eq_ok_iff _ 0 (.cycling #[]) false _).mpr ⟨by decide, rfl⟩,
      by decide +kernel⟩
  exact ⟨machine, started, failed, counter, index, register, 0xF155,
    ⟨0xF1, 0x55, counter ▸ high, counter ▸ low, rfl⟩, rfl⟩

/-- In this program the first of the two registers stands in the memory afterwards, and the program
counter is still at the store. -/
theorem step_failsInto_of_store_at_end :
    ∃ machine, Machine.boot [0x60, 0x07, 0xAF, 0xFF, 0xF1, 0x55] 0 (.cycling #[]) false =
        .ok machine ∧
      let reached := ((⟨machine, 0⟩ : Console).run false
        [.step, .advanceClock 0.002, .step, .advanceClock 0.002]).1
      let after := (reached.step false).1.machine
      (reached.step false).2.result =
        .error (.execution (some 0xF155) 0x204 (.memoryBounds 0x1000 1)) ∧
      after.memory.read 0xFFF = .ok 7 ∧ after.counter = 0x204 := by
  obtain ⟨machine, started, failed, counter, index, register, isAt⟩ := boot_store_at_end
  refine ⟨machine, started, ?_⟩
  intro reached after
  have reachable : Reachable reached := (Reachable.booted started).run false _
  have law := step_failsInto reachable failed
  obtain ⟨byte, stands, same⟩ := (law.registers_stored 1 isAt).covered 0 7
    (congrArg some register) (by rw [index]; decide)
  obtain rfl : byte = 7 := UInt8.toNat_inj.mp (Int.ofNat.inj same.symm)
  rw [index] at stands
  exact ⟨failed, stands, law.counter.trans counter⟩

end ChipEight.Console
