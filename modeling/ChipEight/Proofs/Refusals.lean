import ChipEight.Proofs.Drawing
import ChipEight.Proofs.Ranges

/-!
# Which instructions and which cycles are refused

In a machine whose parts are in range, nine instructions can be refused, each under one condition
and with one fault: `Refused` lists them. All others always complete. In particular no arithmetic
leaves the range of a byte, and a sprite that was read is drawn to its end.

A cycle can break down in three ways: there is no word at the program counter, the word denotes no
instruction, or its instruction is refused. `Breakdown` lists them with their errors, in terms of
the bytes in the memory and the codes of the instructions. A cycle answers an error exactly if it
comes in time, finds the machine running, and meets a breakdown.
-/

namespace ChipEight.Machine

/-- The instructions that a machine refuses, with the faults. A transfer that reaches beyond the
memory stops at the first address outside. A sprite is read as a whole, so that one beyond the
memory is refused even if it has no rows. -/
inductive Refused (machine : Machine) : Instruction → Fault → Prop where
  | returnFromCall (empty : machine.calls.depth = 0) :
      Refused machine .returnFromCall .stackEmpty
  | call (target : Fin 4096) (full : machine.calls.depth = 16) :
      Refused machine (.call target) (.stackFull 16)
  | draw (x y : Register) (height : Fin 16) (beyond : 4096 < machine.index + height.val) :
      Refused machine (.draw x y height) (.memoryBounds machine.index height.val)
  | skipIfHeld (x : Register) (noKey : 15 < machine.register x) :
      Refused machine (.skipIfHeld x) (.noCell .read (machine.register x))
  | skipUnlessHeld (x : Register) (noKey : 15 < machine.register x) :
      Refused machine (.skipUnlessHeld x) (.noCell .read (machine.register x))
  | selectGlyph (x : Register) (noDigit : 15 < machine.register x) :
      Refused machine (.selectGlyph x) (.noGlyph (machine.register x))
  | storeDecimal (x : Register) (beyond : 4096 < machine.index + 3) :
      Refused machine (.storeDecimal x) (.memoryBounds (max machine.index 4096) 1)
  | storeRegisters (x : Register) (beyond : 4096 < machine.index + x.val + 1) :
      Refused machine (.storeRegisters x) (.memoryBounds (max machine.index 4096) 1)
  | loadRegisters (x : Register) (beyond : 4096 < machine.index + x.val + 1) :
      Refused machine (.loadRegisters x) (.memoryBounds (max machine.index 4096) 1)

/-- The breakdowns that a machine is about to meet, with the errors. -/
inductive Breakdown (machine : Machine) : MachineError → Prop where
  | unfetched (beyond : 4096 < machine.counter + 2) :
      Breakdown machine
        (.execution none machine.counter (.memoryBounds (max machine.counter 4096) 1))
  | unknown (word : Word) (held : machine.HoldsWord machine.counter word)
      (unrecognised : ∀ instruction : Instruction, instruction.code ≠ word.toNat) :
      Breakdown machine (.unknownInstruction word.toNat machine.counter)
  | refused (word : Word) (instruction : Instruction) (fault : Fault)
      (held : machine.HoldsWord machine.counter word) (coded : instruction.code = word.toNat)
      (refusal : Refused machine instruction fault) :
      Breakdown machine (.execution (some word.toNat) machine.counter fault)

/-- What follows an answer does not matter to its refusal. -/
theorem map_eq_error_iff {α β : Type} (result : Except Fault α) (next : α → β) (fault : Fault) :
    result.map next = .error fault ↔ result = .error fault := by
  cases result with
  | error cause => simp [Except.map]
  | ok answer => simp [Except.map]

/-- An effect that goes on to the next instruction is refused with its own fault. -/
theorem thenNext_eq_error_iff (effect : Machine × Except Fault Unit) (fault : Fault) :
    (thenNext effect).2 = .error fault ↔ effect.2 = .error fault :=
  map_eq_error_iff effect.2 _ fault

/-- A transfer of some bytes is refused exactly if it reaches beyond the memory. -/
theorem transferEnd_eq_error_iff {address : Int} {count : Nat} (some : 0 < count) (fault : Fault) :
    Memory.transferEnd address count = .error fault ↔
      4096 < address + count ∧ fault = .memoryBounds (max address 4096) 1 := by
  unfold Memory.transferEnd
  by_cases fits : count = 0 ∨ address + count ≤ 4096
  · rw [if_pos fits]
    constructor
    · intro impossible
      cases impossible
    · rintro ⟨beyond, _⟩
      omega
  · rw [if_neg fits, Except.error.injEq]
    have beyond : 4096 < address + count := by omega
    constructor
    · rintro rfl
      exact ⟨beyond, rfl⟩
    · rintro ⟨_, rfl⟩
      rfl

/-- The state of a key is refused exactly if a byte is no number of a key. -/
theorem keypad_query_eq_error_iff (keypad : Keypad) {position : Int} (byte : IsByte position)
    (fault : Fault) :
    keypad.query position = .error fault ↔ 15 < position ∧ fault = .noCell .read position := by
  unfold Keypad.query
  cases found : cellAt 16 position with
  | none =>
    have outside := (cellAt_eq_none_iff 16 position).mp found
    have above : 15 < position := by
      have := byte.1
      omega
    simp only [Except.error.injEq, above, true_and]
    exact eq_comm
  | some key =>
    have below : ¬ 15 < position := by
      intro above
      rw [(cellAt_eq_none_iff 16 position).mpr (by omega)] at found
      cases found
    simp [below]

section

variable {machine : Machine} (valid : machine.InRange)
include valid

/-- Drawing is refused exactly if the sprite reaches beyond the memory. -/
theorem execute_draw_eq_error_iff (x y : Register) (height : Fin 16) (fault : Fault) :
    (machine.execute (.draw x y height)).2 = .error fault ↔
      4096 < machine.index + height.val ∧ fault = .memoryBounds machine.index height.val := by
  have start := valid.index.1
  by_cases beyond : machine.index < 0 ∨ 4096 < machine.index + height.val
  · have reach : 4096 < machine.index + height.val := by omega
    rw [machine.execute_draw_of_error (if_pos beyond), Except.error.injEq]
    constructor
    · rintro rfl
      exact ⟨reach, rfl⟩
    · rintro ⟨_, rfl⟩
      rfl
  · have fits : ¬ 4096 < machine.index + height.val := by omega
    -- A sprite that was read is always drawn.
    obtain ⟨after, hit, drawn, -⟩ := Display.draw_sprite
      (machine.memory.slice machine.index (machine.index + height.val))
      (valid.registers x).1 (valid.registers y).1 machine.display
    rw [machine.execute_draw_of_sprite (if_neg beyond) drawn]
    constructor
    · intro impossible
      cases impossible
    · rintro ⟨reach, _⟩
      exact absurd reach fits

/-- Putting bytes at the index is refused exactly if they reach beyond the memory. -/
theorem writeAtIndex_eq_error_iff {values : List Int} (some : 0 < values.length)
    (bytes : ∀ value ∈ values, IsByte value) (fault : Fault) :
    (machine.writeAtIndex values).2 = .error fault ↔
      4096 < machine.index + values.length ∧
        fault = .memoryBounds (max machine.index 4096) 1 := by
  rw [← transferEnd_eq_error_iff some, ← Memory.writeAll_end bytes valid.index.1]
  rfl

/-- The decimal digits of a register are bytes. -/
theorem isByte_decimalDigits (x : Register) :
    ∀ digit ∈ decimalDigits (machine.register x), IsByte digit := by
  obtain ⟨hundreds, tens, ones, digits, tensRange, onesRange, hundredsRange, -⟩ :=
    decimalDigits_value (machine.register x)
  have first := hundredsRange (valid.registers x).1 (valid.registers x).2
  rw [digits]
  intro digit member
  simp only [List.mem_cons, List.not_mem_nil, or_false] at member
  rcases member with rfl | rfl | rfl
  · constructor <;> omega
  · constructor <;> omega
  · constructor <;> omega

/-- Storing decimal digits is refused exactly if the three bytes reach beyond the memory. -/
theorem execute_storeDecimal_eq_error_iff (x : Register) (fault : Fault) :
    (machine.execute (.storeDecimal x)).2 = .error fault ↔
      4096 < machine.index + 3 ∧ fault = .memoryBounds (max machine.index 4096) 1 := by
  have some : 0 < (decimalDigits (machine.register x)).length := Nat.zero_lt_succ 2
  simp only [execute]
  rw [thenNext_eq_error_iff,
    writeAtIndex_eq_error_iff valid some (isByte_decimalDigits valid x)]
  exact Iff.rfl

/-- Storing registers is refused exactly if they reach beyond the memory. -/
theorem execute_storeRegisters_eq_error_iff (x : Register) (fault : Fault) :
    (machine.execute (.storeRegisters x)).2 = .error fault ↔
      4096 < machine.index + x.val + 1 ∧ fault = .memoryBounds (max machine.index 4096) 1 := by
  rw [execute_storeRegisters_end valid.registers valid.index.1, map_eq_error_iff,
    transferEnd_eq_error_iff (Nat.succ_pos x.val), Int.natCast_succ, ← Int.add_assoc]

/-- Loading registers is refused exactly if they reach beyond the memory. -/
theorem execute_loadRegisters_eq_error_iff (x : Register) (fault : Fault) :
    (machine.execute (.loadRegisters x)).2 = .error fault ↔
      4096 < machine.index + x.val + 1 ∧ fault = .memoryBounds (max machine.index 4096) 1 := by
  rw [execute_loadRegisters_end valid.index.1, map_eq_error_iff,
    transferEnd_eq_error_iff (Nat.succ_pos x.val), Int.natCast_succ, ← Int.add_assoc]

omit valid in
/-- A return is refused exactly if there is no address on the stack. -/
theorem execute_return_eq_error_iff (fault : Fault) :
    (machine.execute .returnFromCall).2 = .error fault ↔
      machine.calls.depth = 0 ∧ fault = .stackEmpty := by
  unfold CallStack.depth
  cases stacked : machine.calls.frames with
  | nil =>
    rw [machine.execute_return_of_nil stacked]
    constructor
    · intro refusal
      exact ⟨rfl, (Except.error.inj refusal).symm⟩
    · rintro ⟨_, rfl⟩
      rfl
  | cons address rest =>
    rw [machine.execute_return_of_cons stacked]
    constructor
    · intro impossible
      cases impossible
    · rintro ⟨empty, _⟩
      cases empty

/-- A call is refused exactly if there are sixteen addresses on the stack. -/
theorem execute_call_eq_error_iff (target : Fin 4096) (fault : Fault) :
    (machine.execute (.call target)).2 = .error fault ↔
      machine.calls.depth = 16 ∧ fault = .stackFull 16 := by
  have bound := valid.depth
  rcases Nat.lt_or_ge machine.calls.depth 16 with room | full
  · rw [machine.execute_call_of_room target room]
    constructor
    · intro impossible
      cases impossible
    · rintro ⟨full, _⟩
      omega
  · rw [machine.execute_call_of_full target full]
    constructor
    · intro refusal
      exact ⟨by omega, (Except.error.inj refusal).symm⟩
    · rintro ⟨_, rfl⟩
      rfl

/-- Pointing the index at a glyph is refused exactly if the byte is no digit. -/
theorem execute_selectGlyph_eq_error_iff (x : Register) (fault : Fault) :
    (machine.execute (.selectGlyph x)).2 = .error fault ↔
      15 < machine.register x ∧ fault = .noGlyph (machine.register x) := by
  have nonneg := (valid.registers x).1
  simp only [execute, Memory.glyphAddress]
  by_cases digit : 0 ≤ machine.register x ∧ machine.register x ≤ 0xF
  · rw [if_pos digit]
    constructor
    · intro impossible
      cases impossible
    · rintro ⟨noDigit, _⟩
      omega
  · rw [if_neg digit]
    constructor
    · intro refusal
      exact ⟨by omega, (Except.error.inj refusal).symm⟩
    · rintro ⟨_, rfl⟩
      rfl

/-- What a machine refuses, and with which fault. The nine instructions that can be refused each
have their own lemma above; all others are completed whatever the machine is like. -/
theorem execute_eq_error_iff (instruction : Instruction) (fault : Fault) :
    (machine.execute instruction).2 = .error fault ↔ Refused machine instruction fault := by
  cases instruction with
  | returnFromCall =>
    rw [execute_return_eq_error_iff]
    constructor
    · rintro ⟨condition, rfl⟩
      exact .returnFromCall condition
    · rintro ⟨⟩
      exact ⟨‹_›, rfl⟩
  | call target =>
    rw [execute_call_eq_error_iff valid]
    constructor
    · rintro ⟨condition, rfl⟩
      exact .call target condition
    · rintro ⟨⟩
      exact ⟨‹_›, rfl⟩
  | draw x y height =>
    rw [execute_draw_eq_error_iff valid]
    constructor
    · rintro ⟨condition, rfl⟩
      exact .draw x y height condition
    · rintro ⟨⟩
      exact ⟨‹_›, rfl⟩
  | skipIfHeld x =>
    simp only [execute]
    rw [map_eq_error_iff, keypad_query_eq_error_iff _ (valid.registers x)]
    constructor
    · rintro ⟨condition, rfl⟩
      exact .skipIfHeld x condition
    · rintro ⟨⟩
      exact ⟨‹_›, rfl⟩
  | skipUnlessHeld x =>
    simp only [execute]
    rw [map_eq_error_iff, keypad_query_eq_error_iff _ (valid.registers x)]
    constructor
    · rintro ⟨condition, rfl⟩
      exact .skipUnlessHeld x condition
    · rintro ⟨⟩
      exact ⟨‹_›, rfl⟩
  | selectGlyph x =>
    rw [execute_selectGlyph_eq_error_iff valid]
    constructor
    · rintro ⟨condition, rfl⟩
      exact .selectGlyph x condition
    · rintro ⟨⟩
      exact ⟨‹_›, rfl⟩
  | storeDecimal x =>
    rw [execute_storeDecimal_eq_error_iff valid]
    constructor
    · rintro ⟨condition, rfl⟩
      exact .storeDecimal x condition
    · rintro ⟨⟩
      exact ⟨‹_›, rfl⟩
  | storeRegisters x =>
    rw [execute_storeRegisters_eq_error_iff valid]
    constructor
    · rintro ⟨condition, rfl⟩
      exact .storeRegisters x condition
    · rintro ⟨⟩
      exact ⟨‹_›, rfl⟩
  | loadRegisters x =>
    rw [execute_loadRegisters_eq_error_iff valid]
    constructor
    · rintro ⟨condition, rfl⟩
      exact .loadRegisters x condition
    · rintro ⟨⟩
      exact ⟨‹_›, rfl⟩
  | _ =>
    constructor
    · intro impossible
      cases impossible
    · intro impossible
      cases impossible

/-- There is no word at the program counter exactly if it ends beyond the memory. -/
theorem fetch_eq_error_iff (fault : Fault) :
    machine.fetch = .error fault ↔
      4096 < machine.counter + 2 ∧ fault = .memoryBounds (max machine.counter 4096) 1 := by
  have start := valid.counter.1
  unfold fetch
  cases first : machine.memory.read machine.counter with
  | error cause =>
    obtain ⟨outside, rfl⟩ := (machine.memory.read_eq_error_iff _ cause).mp first
    have beyond : 4096 < machine.counter + 2 := by omega
    have highest : max machine.counter 4096 = machine.counter := Int.max_eq_left (by omega)
    simp only [bind, Except.bind, Except.error.injEq, beyond, highest, true_and]
    exact eq_comm
  | ok high =>
    have inside := (machine.memory.inside_of_read _ first).2
    cases second : machine.memory.read (machine.counter + 1) with
    | error cause =>
      obtain ⟨outside, rfl⟩ := (machine.memory.read_eq_error_iff _ cause).mp second
      have beyond : 4096 < machine.counter + 2 := by omega
      have last : machine.counter + 1 = 4096 := by omega
      have highest : max machine.counter 4096 = 4096 := Int.max_eq_right (by omega)
      simp only [bind, Except.bind, Except.error.injEq, beyond, last, highest, true_and]
      exact eq_comm
    | ok low =>
      have within := (machine.memory.inside_of_read _ second).2
      have fits : ¬ 4096 < machine.counter + 2 := by omega
      simp only [bind, Except.bind, pure, Except.pure, reduceCtorEq, fits, false_and]

end

/-- What a machine refuses does not depend on how the cycle began. -/
theorem refused_opened_iff (machine : Machine) (now : Seconds) (instruction : Instruction)
    (fault : Fault) :
    Refused (machine.opened now) instruction fault ↔ Refused machine instruction fault := by
  constructor
  · rintro ⟨⟩ <;> constructor <;> assumption
  · rintro ⟨⟩ <;> constructor <;> assumption

section

variable {machine : Machine} {error : MachineError}

/-- Beyond the memory the breakdown is that there is no word. -/
theorem breakdown_of_unfetched {fault : Fault} (valid : machine.InRange)
    (unread : machine.fetch = .error fault) :
    Breakdown machine error ↔ error = .execution none machine.counter fault := by
  obtain ⟨beyond, rfl⟩ := (fetch_eq_error_iff valid fault).mp unread
  constructor
  · intro breakdown
    cases breakdown with
    | unfetched _ => rfl
    | unknown word held _ =>
      have := held.fits
      omega
    | refused word _ _ held _ _ =>
      have := held.fits
      omega
  · rintro rfl
    exact .unfetched beyond

/-- At a word without an instruction the breakdown is that it is unknown. -/
theorem breakdown_of_unknown {word : Word} (fetched : machine.fetch = .ok word)
    (unrecognised : Instruction.ofWord? word = none) :
    Breakdown machine error ↔ error = .unknownInstruction word.toNat machine.counter := by
  have held := (machine.fetch_eq_ok_iff word).mp fetched
  have noCode := (Instruction.ofWord?_eq_none_iff word).mp unrecognised
  constructor
  · intro breakdown
    cases breakdown with
    | unfetched beyond =>
      have := held.fits
      omega
    | unknown other otherHeld _ => rw [held.unique otherHeld]
    | refused other instruction _ otherHeld coded _ =>
      obtain rfl := held.unique otherHeld
      exact absurd coded (noCode instruction)
  · rintro rfl
    exact .unknown word held noCode

/-- At the word of an instruction the breakdowns are the refusals of the instruction. -/
theorem breakdown_of_recognised {word : Word} {instruction : Instruction}
    (fetched : machine.fetch = .ok word)
    (recognised : Instruction.ofWord? word = some instruction) :
    Breakdown machine error ↔ ∃ fault, Refused machine instruction fault ∧
      error = .execution (some word.toNat) machine.counter fault := by
  have held := (machine.fetch_eq_ok_iff word).mp fetched
  have coded := (Instruction.ofWord?_eq_some_iff word instruction).mp recognised
  constructor
  · intro breakdown
    cases breakdown with
    | unfetched beyond =>
      have := held.fits
      omega
    | unknown other otherHeld noCode =>
      obtain rfl := held.unique otherHeld
      exact absurd coded (noCode instruction)
    | refused other otherInstruction fault otherHeld otherCoded listed =>
      obtain rfl := held.unique otherHeld
      have otherRecognised :=
        (Instruction.ofWord?_eq_some_iff word otherInstruction).mpr otherCoded
      obtain rfl := Option.some.inj (recognised.symm.trans otherRecognised)
      exact ⟨fault, listed, rfl⟩
  · rintro ⟨fault, listed, rfl⟩
    exact .refused word instruction fault held coded listed

end

namespace Cycle

variable {machine after : Machine} {now : Seconds} {result : Except MachineError (Option Flow)}
  {error : MachineError}

/-- The cycles that answer an error, and the errors.

Proof: each of the six ways has one answer. Where it is an error, it is the only breakdown that the
machine can meet there; where it is none, the machine waits, the cycle is too early, or the
instruction that was fetched is not refused. -/
theorem eq_error_iff (valid : machine.InRange) (cycle : Cycle machine now after result) :
    result = .error error ↔
      machine.isThrottled now = false ∧ machine.awaiting = none ∧ Breakdown machine error := by
  have opened : (machine.opened now).InRange := valid.opened now
  cases cycle with
  | throttled early =>
    constructor
    · intro impossible
      cases impossible
    · rintro ⟨due, _⟩
      exact absurd (early.symm.trans due) nofun
  | polled register due waits =>
    constructor
    · intro impossible
      cases impossible
    · rintro ⟨_, runs, _⟩
      exact absurd (waits.symm.trans runs) nofun
  | unfetched fault due runs unread =>
    rw [breakdown_of_unfetched valid unread, Except.error.injEq]
    constructor
    · intro same
      exact ⟨due, runs, same.symm⟩
    · rintro ⟨_, _, same⟩
      exact same.symm
  | unknown word due runs fetched unrecognised =>
    rw [breakdown_of_unknown fetched unrecognised, Except.error.injEq]
    constructor
    · intro same
      exact ⟨due, runs, same.symm⟩
    · rintro ⟨_, _, same⟩
      exact same.symm
  | refused word instruction fault due runs fetched recognised refusal =>
    rw [breakdown_of_recognised fetched recognised]
    constructor
    · intro same
      have listed := (execute_eq_error_iff opened instruction fault).mp refusal
      exact ⟨due, runs, fault, (refused_opened_iff ..).mp listed, (Except.error.inj same).symm⟩
    · rintro ⟨_, _, other, listed, rfl⟩
      have otherRefusal := (execute_eq_error_iff opened instruction other).mpr
        ((refused_opened_iff ..).mpr listed)
      rw [Except.error.inj (refusal.symm.trans otherRefusal)]
  | completed word instruction flow due runs fetched recognised completion =>
    rw [breakdown_of_recognised fetched recognised]
    constructor
    · intro impossible
      cases impossible
    · rintro ⟨_, _, fault, listed, _⟩
      have refusal := (execute_eq_error_iff opened instruction fault).mpr
        ((refused_opened_iff ..).mpr listed)
      exact absurd (completion.symm.trans refusal) nofun

/-- A cycle that answers an error leaves the program counter where it was. -/
theorem counter_of_error (cycle : Cycle machine now after (.error error)) :
    after.counter = machine.counter := by
  cases cycle with
  | unfetched fault due runs unread => rfl
  | unknown word due runs fetched unrecognised => rfl
  | refused word instruction fault due runs fetched recognised refusal =>
    exact (machine.opened now).execute_counter instruction

end Cycle

end ChipEight.Machine

namespace ChipEight.Console

open Machine

/-- A cycle of a reachable console answers an error exactly if it comes in time, finds the machine
running, and meets a breakdown. The program counter then stays where it was. -/
theorem step_eq_error_iff {console : Console} (reachable : Reachable console) (tracing : Bool)
    (error : MachineError) :
    ((console.step tracing).2.result = .error error ↔
      console.machine.isThrottled console.now = false ∧ console.machine.awaiting = none ∧
        Breakdown console.machine error) ∧
    ((console.step tracing).2.result = .error error →
      (console.step tracing).1.machine.counter = console.machine.counter) := by
  have cycle := console.step_cycle tracing
  refine ⟨cycle.eq_error_iff reachable.inRange, ?_⟩
  intro failed
  rw [failed] at cycle
  exact cycle.counter_of_error

/-- A program that begins with a return breaks down in its first cycle. -/
theorem step_eq_error_of_return_first :
    ∃ machine, Machine.boot [0x00, 0xEE] 0 (.cycling #[]) false = .ok machine ∧
      (Console.step false ⟨machine, 0⟩).2.result =
        .error (.execution (some 0xEE) 0x200 .stackEmpty) ∧
      (Console.step false ⟨machine, 0⟩).1.machine.counter = 0x200 := by
  have started := (Machine.boot_eq_ok_iff [0x00, 0xEE] 0 (.cycling #[]) false _).mpr
    ⟨by decide, rfl⟩
  have law := step_eq_error_iff (.booted started) false
    (.execution (some 0xEE) 0x200 .stackEmpty)
  have first := Machine.read_of_boot started (show 0 < 2 by decide)
  have second := Machine.read_of_boot started (show 1 < 2 by decide)
  have failed := law.1.mpr ⟨rfl, rfl, .refused 0x00EE .returnFromCall .stackEmpty
    ⟨0x00, 0xEE, first, second, rfl⟩ rfl (.returnFromCall rfl)⟩
  exact ⟨_, started, failed, law.2 failed⟩

end ChipEight.Console
