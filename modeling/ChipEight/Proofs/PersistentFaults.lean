import ChipEight.Proofs.FailedCycles

/-!
# Faults persist

A machine that has broken down does not recover. Nothing that the breakdown depends on can change
any more: a failing cycle leaves the program counter at the faulting instruction, keys and clock do
not touch the program's part of the machine, and whatever a refused transfer has done once it does
again in the same way.

One thing could get a machine going again. A refused store has stored bytes, and if these lie over
the store itself, then the next cycle finds another instruction there. The bytes go upwards from the
index, so this cannot happen to a store behind whose last byte the index lies.
-/

namespace ChipEight.Machine

variable {machine later : Machine} {error : MachineError}

/-- The parts of a machine that its program works on are as they were. -/
structure Unmoved (machine later : Machine) : Prop where
  counter : later.counter = machine.counter
  index : later.index = machine.index
  registers : later.registers = machine.registers
  calls : later.calls = machine.calls
  memory : later.memory = machine.memory
  display : later.display = machine.display
  awaiting : later.awaiting = machine.awaiting

namespace Unmoved

/-- A machine is as it was. -/
theorem refl (machine : Machine) : Unmoved machine machine := ⟨rfl, rfl, rfl, rfl, rfl, rfl, rfl⟩

/-- What did not change twice did not change. -/
theorem trans {latest : Machine} (first : Unmoved machine later) (second : Unmoved later latest) :
    Unmoved machine latest where
  counter := second.counter.trans first.counter
  index := second.index.trans first.index
  registers := second.registers.trans first.registers
  calls := second.calls.trans first.calls
  memory := second.memory.trans first.memory
  display := second.display.trans first.display
  awaiting := second.awaiting.trans first.awaiting

/-- The other parts are a matter of the keys, the clock and the host. -/
theorem eq (same : Unmoved machine later) :
    later = { machine with
      keypad := later.keypad, timers := later.timers, random := later.random
      shiftInPlace := later.shiftInPlace, lastCycle := later.lastCycle
      redraw := later.redraw } := by
  obtain ⟨counter, index, registers, calls, memory, display, awaiting⟩ := same
  rw [← counter, ← index, ← registers, ← calls, ← memory, ← display, ← awaiting]

/-- What is refused depends on these parts only. -/
theorem refused (same : Unmoved machine later) {instruction : Instruction} {fault : Fault}
    (refused : Refused machine instruction fault) : Refused later instruction fault := by
  rw [same.eq]
  cases refused <;> constructor <;> assumption

/-- The breakdown that a machine meets depends on these parts only. -/
theorem breakdown (same : Unmoved machine later) (breakdown : Breakdown machine error) :
    Breakdown later error := by
  have refusals := @same.refused
  rw [same.eq] at refusals ⊢
  cases breakdown with
  | unfetched beyond => exact .unfetched beyond
  | unknown word held unrecognised => exact .unknown word held unrecognised
  | refused word instruction fault held coded refusal =>
    exact .refused word instruction fault held coded (refusals refusal)

end Unmoved

/-- A machine that has broken down: it meets the breakdown again, and a transfer at the program
counter finds everything done that it can do. -/
structure Stuck (machine : Machine) (error : MachineError) : Prop where
  runs : machine.awaiting = none
  breakdown : Breakdown machine error
  loaded : ∀ x, machine.IsAt (.loadRegisters x) → ∀ register : Register,
    register ≤ x ∧ machine.index + register.val ≤ 4095 →
      ∃ byte : UInt8, machine.memory.read (machine.index + register.val) = .ok byte ∧
        machine.register register = byte.toNat
  digits_stored : ∀ x, machine.IsAt (.storeDecimal x) →
    Memory.Overwritten machine.memory machine.memory machine.index
      [machine.register x / 100, machine.register x / 10 % 10, machine.register x % 10]
  registers_stored : ∀ x, machine.IsAt (.storeRegisters x) →
    Memory.Overwritten machine.memory machine.memory machine.index
      ((registersUpTo x).map machine.register)

/-- A machine that has broken down remains so as long as its program's part is as it was. -/
theorem Stuck.of_unmoved (stuck : Stuck machine error) (same : Unmoved machine later) :
    Stuck later error := by
  have breakdown := same.breakdown stuck.breakdown
  rw [same.eq] at breakdown ⊢
  exact { stuck with breakdown := breakdown }

/-- No store that could change its own word is at the program counter: the index lies behind it. -/
def StoresBehind (machine : Machine) : Prop :=
  ∀ x, machine.IsAt (.storeDecimal x) ∨ machine.IsAt (.storeRegisters x) →
    machine.counter + 1 < machine.index

namespace FailsInto

variable {before after : Machine} {now : Seconds}

/-- Below the index a failing cycle leaves the memory alone, and without a store everywhere. -/
theorem read_word (left : FailsInto before now after) (behind : before.StoresBehind) {place : Int}
    (ofWord : place ≤ before.counter + 1) : after.memory.read place = before.memory.read place := by
  by_cases digits : ∃ x, before.IsAt (.storeDecimal x)
  · obtain ⟨x, isAt⟩ := digits
    have := behind x (Or.inl isAt)
    exact (left.digits_stored x isAt).elsewhere place (Or.inl (by omega))
  · by_cases registers : ∃ x, before.IsAt (.storeRegisters x)
    · obtain ⟨x, isAt⟩ := registers
      have := behind x (Or.inr isAt)
      exact (left.registers_stored x isAt).elsewhere place (Or.inl (by omega))
    · rw [left.memory_kept (fun x isAt => digits ⟨x, isAt⟩) fun x isAt => registers ⟨x, isAt⟩]

/-- The same words stand at the program counter as before. -/
theorem holdsWord_iff (left : FailsInto before now after) (behind : before.StoresBehind)
    (word : Word) :
    after.HoldsWord after.counter word ↔ before.HoldsWord before.counter word := by
  unfold HoldsWord
  rw [left.counter, left.read_word behind (by omega), left.read_word behind (Int.le_refl _)]

/-- The same instruction is at the program counter as before. -/
theorem isAt_iff (left : FailsInto before now after) (behind : before.StoresBehind)
    (instruction : Instruction) : after.IsAt instruction ↔ before.IsAt instruction := by
  unfold IsAt
  simp only [left.holdsWord_iff behind]

/-- The instruction is refused again. Loading may have changed registers, but its refusal does not
depend on them. -/
theorem refused (left : FailsInto before now after) {instruction : Instruction} {fault : Fault}
    (isAt : before.IsAt instruction) (refused : Refused before instruction fault) :
    Refused after instruction fault := by
  by_cases load : ∃ x, instruction = .loadRegisters x
  · obtain ⟨x, rfl⟩ := load
    rw [left.begun]
    cases refused with
    | loadRegisters _ beyond => exact .loadRegisters x beyond
  · have registers := left.registers_kept fun x other => load ⟨x, isAt.unique other⟩
    have begun := left.begun
    rw [registers] at begun
    rw [begun]
    cases refused <;> constructor <;> assumption

/-- The breakdown is met again. -/
theorem breakdown (left : FailsInto before now after) (behind : before.StoresBehind)
    (breakdown : Breakdown before error) : Breakdown after error := by
  cases breakdown with
  | unfetched beyond =>
    rw [← left.counter] at beyond ⊢
    exact .unfetched beyond
  | unknown word held unrecognised =>
    rw [← left.counter]
    exact .unknown word ((left.holdsWord_iff behind word).mpr held) unrecognised
  | refused word instruction fault held coded refusal =>
    rw [← left.counter]
    exact .refused word instruction fault ((left.holdsWord_iff behind word).mpr held) coded
      (left.refused ⟨word, held, coded⟩ refusal)

/-- A failing cycle leaves a machine that has broken down. -/
theorem stuck (left : FailsInto before now after) (behind : before.StoresBehind)
    (runs : before.awaiting = none) (breakdown : Breakdown before error) : Stuck after error where
  runs := by
    rw [left.begun]
    exact runs
  breakdown := left.breakdown behind breakdown
  loaded := by
    intro x isAt register served
    have isAtBefore := (left.isAt_iff behind _).mp isAt
    have memory := left.memory_kept (fun _ => isAtBefore.excludes (by simp))
      fun _ => isAtBefore.excludes (by simp)
    rw [left.index] at served ⊢
    rw [memory]
    exact (left.loaded x isAtBefore register).1 served
  digits_stored := by
    intro x isAt
    have isAtBefore := (left.isAt_iff behind _).mp isAt
    have registers := left.registers_kept fun _ => isAtBefore.excludes (by simp)
    rw [left.index, Machine.register, registers]
    exact (left.digits_stored x isAtBefore).refl_of
  registers_stored := by
    intro x isAt
    have isAtBefore := (left.isAt_iff behind _).mp isAt
    have registers : after.register = before.register := by
      unfold Machine.register
      rw [left.registers_kept fun _ => isAtBefore.excludes (by simp)]
    rw [left.index, registers]
    exact (left.registers_stored x isAtBefore).refl_of

end FailsInto

/-- A failing cycle of a machine that has broken down changes nothing any more: each transfer finds
its bytes in place. -/
theorem Stuck.unmoved_of_failsInto {now : Seconds} (stuck : Stuck machine error)
    (left : FailsInto machine now later) : Unmoved machine later := by
  have registers : later.registers = machine.registers := by
    by_cases load : ∃ x, machine.IsAt (.loadRegisters x)
    · obtain ⟨x, isAt⟩ := load
      apply Vector.ext
      intro number inside
      let register : Register := ⟨number, inside⟩
      obtain ⟨loads, keeps⟩ := left.loaded x isAt register
      by_cases served : register ≤ x ∧ machine.index + register.val ≤ 4095
      · obtain ⟨byte, stands, value⟩ := stuck.loaded x isAt register served
        obtain ⟨other, otherStands, otherValue⟩ := loads served
        obtain rfl := Except.ok.inj (stands.symm.trans otherStands)
        exact otherValue.trans value.symm
      · exact keeps served
    · exact left.registers_kept fun x isAt => load ⟨x, isAt⟩
  have memory : later.memory = machine.memory := by
    by_cases digits : ∃ x, machine.IsAt (.storeDecimal x)
    · obtain ⟨x, isAt⟩ := digits
      exact (stuck.digits_stored x isAt).eq_of_again (left.digits_stored x isAt)
    · by_cases stores : ∃ x, machine.IsAt (.storeRegisters x)
      · obtain ⟨x, isAt⟩ := stores
        exact (stuck.registers_stored x isAt).eq_of_again (left.registers_stored x isAt)
      · exact left.memory_kept (fun x isAt => digits ⟨x, isAt⟩) fun x isAt => stores ⟨x, isAt⟩
  rw [left.begun, registers, memory]
  exact ⟨rfl, rfl, rfl, rfl, rfl, rfl, rfl⟩

/-- A cycle of a machine that has broken down answers the error again, unless it comes too early,
and leaves the program's part of the machine as it was. -/
theorem Stuck.cycle {now : Seconds} {result : Except MachineError (Option Flow)}
    (stuck : Stuck machine error) (valid : machine.InRange)
    (cycle : Cycle machine now later result) :
    result = (if machine.isThrottled now then .ok none else .error error) ∧
      Unmoved machine later := by
  by_cases early : machine.isThrottled now = true
  · rw [if_pos early]
    obtain ⟨rfl, rfl⟩ := cycle.of_early early
    exact ⟨rfl, ⟨rfl, rfl, rfl, rfl, rfl, rfl, rfl⟩⟩
  · rw [if_neg early]
    have failed := (cycle.eq_error_iff valid).mpr
      ⟨Bool.eq_false_iff.mpr early, stuck.runs, stuck.breakdown⟩
    rw [failed] at cycle
    exact ⟨failed, stuck.unmoved_of_failsInto (cycle.failsInto valid)⟩

end ChipEight.Machine

namespace ChipEight.Console

open Machine

/-- No event moves a machine that has broken down. -/
theorem unmoved_react {console : Console} {error : MachineError} (reachable : Reachable console)
    (stuck : Stuck console.machine error) (tracing : Bool) (event : Event) :
    Unmoved console.machine (console.react tracing event).1.machine := by
  cases event with
  | setClock reading => exact .refl _
  | advanceClock seconds => exact .refl _
  | key pressed down => exact ⟨rfl, rfl, rfl, rfl, rfl, rfl, rfl⟩
  | step => exact (stuck.cycle reachable.inRange (console.step_cycle tracing)).2

/-- No run moves a machine that has broken down. -/
theorem unmoved_run {console : Console} {error : MachineError} (reachable : Reachable console)
    (stuck : Stuck console.machine error) (tracing : Bool) (events : List Event) :
    Unmoved console.machine (console.run tracing events).1.machine := by
  induction events generalizing console with
  | nil => exact .refl _
  | cons event rest inductionHypothesis =>
    have first := unmoved_react reachable stuck tracing event
    exact first.trans
      (inductionHypothesis (reachable.react tracing event) (stuck.of_unmoved first))

/-- A fault persists. After a cycle of a reachable console has answered an error, and unless a store
that could change its own word is at the program counter, no events move the program's part of the
machine any more. Whenever another cycle follows, it comes too early or answers the same error.

Proof: the failing cycle leaves a machine that has broken down. Such a machine meets the breakdown
again as long as it is not moved, and cycles that meet it do not move it. -/
theorem fault_persists {console : Console} (reachable : Reachable console) {tracing : Bool}
    {error : MachineError} (failed : (console.step tracing).2.result = .error error)
    (behind : console.machine.StoresBehind) (events : List Event) :
    let broken := (console.step tracing).1
    let later := (broken.run tracing events).1
    Unmoved broken.machine later.machine ∧
      (later.step tracing).2.result =
        if later.machine.isThrottled later.now then .ok none else .error error := by
  intro broken later
  have cycle := console.step_cycle tracing
  obtain ⟨-, runs, breakdown⟩ := (cycle.eq_error_iff reachable.inRange).mp failed
  rw [failed] at cycle
  have stuck : Stuck broken.machine error :=
    (cycle.failsInto reachable.inRange).stuck behind runs breakdown
  have brokenReachable : Reachable broken := reachable.react tracing .step
  have same : Unmoved broken.machine later.machine :=
    unmoved_run brokenReachable stuck tracing events
  have laterReachable : Reachable later := brokenReachable.run tracing events
  exact ⟨same, ((stuck.of_unmoved same).cycle laterReachable.inRange (later.step_cycle tracing)).1⟩

/-- A program that stores registers at the last address is refused again at the next cycle that is
due, whatever key has been pressed, and its memory is as the first refusal left it. -/
theorem fault_persists_of_store_at_end :
    ∃ machine, Machine.boot [0x60, 0x07, 0xAF, 0xFF, 0xF1, 0x55] 0 (.cycling #[]) false =
        .ok machine ∧
      let reached := ((⟨machine, 0⟩ : Console).run false
        [.step, .advanceClock 0.002, .step, .advanceClock 0.002]).1
      let broken := (reached.step false).1
      let later := (broken.run false [.step, .key 3 true, .advanceClock 0.002]).1
      later.machine.memory = broken.machine.memory ∧
        (later.step false).2.result =
          .error (.execution (some 0xF155) 0x204 (.memoryBounds 0x1000 1)) := by
  obtain ⟨machine, started, failed, counter, index, -, -⟩ := boot_store_at_end
  refine ⟨machine, started, ?_⟩
  intro reached broken later
  have reachable : Reachable reached := (Reachable.booted started).run false _
  have behind : reached.machine.StoresBehind := by
    intro x _
    rw [counter, index]
    decide
  have due : later.machine.isThrottled later.now = false := by
    obtain ⟨_, rfl⟩ := (Machine.boot_eq_ok_iff ..).mp started
    decide +kernel
  obtain ⟨same, again⟩ :=
    fault_persists reachable failed behind [.step, .key 3 true, .advanceClock 0.002]
  refine ⟨same.memory, again.trans ?_⟩
  exact if_neg (Bool.eq_false_iff.mp due)

end ChipEight.Console
