import ChipEight.Proofs.WriteSets

/-!
# Where the program counter goes

Eleven instructions can send the program counter elsewhere than to the next instruction, and for
each of them the registers, the keypad and the call stack before the cycle say where. `Sends` is the
table. The skips come in pairs that answer the same question with opposite outcomes.

A cycle that comes in time and completes answers what the table says of the instruction at the
program counter, and moves the program counter by that answer and by nothing else. A machine that
waits is still at the instruction that waits, so that the table holds of it, too. A cycle that comes
too early answers nothing and moves nothing.
-/

namespace ChipEight

namespace Machine

/-- How an instruction sends the program counter on, from one machine into another one. Targets are
as they come: a sum may lie beyond the memory. -/
def Sends (machine after : Machine) (flow : Flow) : Instruction → Prop
  | .jump target => flow = .jump target.val
  | .call target => flow = .jump target.val ∧
      after.calls.frames = (machine.counter + 2) :: machine.calls.frames
  | .jumpOffset base => ∃ first : Register, first.val = 0 ∧
      flow = .jump (base.val + machine.register first)
  | .returnFromCall => ∃ address, flow = .jump address ∧
      machine.calls.frames = address :: after.calls.frames
  | .skipIfByte x byte => flow = if machine.register x = byte.toNat then .skip else .next
  | .skipUnlessByte x byte => flow = if machine.register x = byte.toNat then .next else .skip
  | .skipIfSame x y => flow = if machine.register x = machine.register y then .skip else .next
  | .skipUnlessSame x y => flow = if machine.register x = machine.register y then .next else .skip
  | .skipIfHeld x => ∃ key : Key, machine.register x = key.val ∧
      flow = if machine.keypad.isHeld key then .skip else .next
  | .skipUnlessHeld x => ∃ key : Key, machine.register x = key.val ∧
      flow = if machine.keypad.isHeld key then .next else .skip
  | .awaitKey _ => (∀ key, machine.keypad.isHeld key = false) ∧ flow = .wait ∨
      (∃ key, machine.keypad.isHeld key = true) ∧ flow = .next
  | _ => flow = .next

variable {machine : Machine} {flow : Flow}

/-- A byte that the keypad accepts is the number of the key in question. -/
theorem keypad_query_eq_ok {keypad : Keypad} {position : Int} {held : Bool} (byte : IsByte position)
    (answered : keypad.query position = .ok held) :
    ∃ key : Key, position = key.val ∧ keypad.isHeld key = held := by
  unfold Keypad.query at answered
  cases named : cellAt 16 position with
  | none =>
    rw [named] at answered
    cases answered
  | some key =>
    rw [named] at answered
    have inside := key.isLt
    have front := byte.1
    refine ⟨key, ?_, Except.ok.inj answered⟩
    rcases (cellAt_eq_some_iff 16 position key).mp named with same | fromBack
    · exact same
    · omega

/-- A skip that asks for a key has an answer only if there is such a key. -/
theorem skip_of_query {x : Register} (byte : IsByte (machine.register x)) {choose : Bool → Flow}
    (completion : (machine.keypad.query (machine.register x)).map choose = .ok flow) :
    ∃ key : Key, machine.register x = key.val ∧ flow = choose (machine.keypad.isHeld key) := by
  cases asked : machine.keypad.query (machine.register x) with
  | error fault =>
    rw [asked] at completion
    cases completion
  | ok held =>
    rw [asked] at completion
    obtain ⟨key, number, rfl⟩ := keypad_query_eq_ok byte asked
    exact ⟨key, number, (Except.ok.inj completion).symm⟩

/-- A comparison skips if the two values are the same. -/
theorem skipWhen_beq (first second : Int) :
    skipWhen (first == second) = if first = second then .skip else .next := by
  simp only [skipWhen, beq_iff_eq]

/-- The opposite comparison skips if they are not. -/
theorem skipWhen_bne (first second : Int) :
    skipWhen (first != second) = if first = second then .next else .skip := by
  simp only [skipWhen, bne_iff_ne, ite_not]

/-- An instruction that completes sends the program counter on as the table says. -/
theorem sends_of_execute (valid : machine.InRange) {instruction : Instruction}
    (completion : (machine.execute instruction).2 = .ok flow) :
    machine.Sends (machine.execute instruction).1 flow instruction := by
  cases instruction with
  | returnFromCall =>
    cases stacked : machine.calls.frames with
    | nil =>
      rw [execute_return_of_nil machine stacked] at completion
      cases completion
    | cons address rest =>
      rw [execute_return_of_cons machine stacked] at completion ⊢
      exact ⟨address, (Except.ok.inj completion).symm, stacked⟩
  | call target =>
    by_cases room : machine.calls.depth < 16
    · rw [execute_call_of_room machine target room] at completion ⊢
      exact ⟨(Except.ok.inj completion).symm, rfl⟩
    · rw [execute_call_of_full machine target (Nat.le_of_not_lt room)] at completion
      cases completion
  | jumpOffset base => exact ⟨0, rfl, (Except.ok.inj completion).symm⟩
  | skipIfByte x byte => exact (Except.ok.inj completion).symm.trans (skipWhen_beq _ _)
  | skipUnlessByte x byte => exact (Except.ok.inj completion).symm.trans (skipWhen_bne _ _)
  | skipIfSame x y => exact (Except.ok.inj completion).symm.trans (skipWhen_beq _ _)
  | skipUnlessSame x y => exact (Except.ok.inj completion).symm.trans (skipWhen_bne _ _)
  | skipIfHeld x =>
    obtain ⟨key, number, rfl⟩ := skip_of_query (valid.registers x) completion
    exact ⟨key, number, rfl⟩
  | skipUnlessHeld x =>
    obtain ⟨key, number, rfl⟩ := skip_of_query (valid.registers x) completion
    refine ⟨key, number, ?_⟩
    cases machine.keypad.isHeld key <;> rfl
  | awaitKey x =>
    obtain rfl := Except.ok.inj completion
    exact machine.pollKeypad_flow x
  | draw x y height =>
    rw [execute_draw] at completion
    split at completion
    · exact thenNext_eq_ok completion
    · cases completion
  | selectGlyph x =>
    rw [execute_selectGlyph] at completion
    split at completion
    · exact (Except.ok.inj completion).symm
    · cases completion
  | storeDecimal x | storeRegisters x | loadRegisters x => exact thenNext_eq_ok completion
  | _ => exact (Except.ok.inj completion).symm

/-- Only a cycle that comes too early answers nothing. -/
theorem Cycle.early_of_none {after : Machine} {now : Seconds}
    (cycle : Cycle machine now after (.ok none)) : machine.isThrottled now = true := by
  cases cycle with
  | throttled early => exact early

end Machine

namespace Console

open Machine

/-- Every cycle of a reachable console that answers moves the program counter by its answer: to the
next instruction, over it, not at all, or to a target. A cycle that comes too early answers nothing
and keeps the program counter. Any other one answers what the table says of the instruction at the
program counter, and in particular, if a register waits, whether a key is held down. -/
theorem step_control_flow {console : Console} (reachable : Reachable console) {tracing : Bool}
    {answer : Option Flow} (returned : (console.step tracing).2.result = .ok answer) :
    let before := console.machine
    let after := (console.step tracing).1.machine
    (before.isThrottled console.now = true → answer = none ∧ after.counter = before.counter) ∧
    (before.isThrottled console.now = false → ∃ flow, answer = some flow ∧
      (flow = .next → after.counter = before.counter + 2) ∧
      (flow = .skip → after.counter = before.counter + 4) ∧
      (flow = .wait → after.counter = before.counter) ∧
      (∀ target, flow = .jump target → after.counter = target) ∧
      (∃ instruction, before.IsAt instruction ∧ before.Sends after flow instruction) ∧
      ∀ register, before.awaiting = some register →
        (∀ key, before.keypad.isHeld key = false) ∧ flow = .wait ∨
          (∃ key, before.keypad.isHeld key = true) ∧ flow = .next) := by
  intro before after
  have cycle : Cycle before console.now after (.ok answer) := returned ▸ console.step_cycle tracing
  constructor
  · intro early
    obtain ⟨answered, left⟩ := cycle.of_early early
    exact ⟨Except.ok.inj answered, left ▸ rfl⟩
  · intro due
    cases answer with
    | none => exact absurd (due.symm.trans cycle.early_of_none) nofun
    | some flow =>
      obtain ⟨instruction, isAt, completion, left⟩ := cycle.of_flow reachable.waitsAtInstruction
      have sends : before.Sends after flow instruction := by
        rw [left]
        exact sends_of_execute (reachable.inRange.opened console.now) completion
      have moved : after.counter = flow.follow before.counter := by
        rw [left]
        exact congrArg flow.follow (execute_counter _ instruction)
      refine ⟨flow, rfl, ?next, ?skip, ?wait, ?jump, ⟨instruction, isAt, sends⟩, ?waiting⟩
      case next | skip | wait =>
        rintro rfl
        exact moved
      case jump =>
        rintro target rfl
        exact moved
      case waiting =>
        intro register waits
        have waiting : before.IsAt (.awaitKey register) :=
          ⟨_, reachable.waitsAtInstruction register waits, (awaitWord_toNat register).symm⟩
        obtain rfl := isAt.unique waiting
        exact sends

/-- The program `E09E` asks for the key zero. While the key is held down, its first cycle goes over
the next instruction. -/
theorem step_control_flow_of_held_key :
    ∃ machine, Machine.boot [0xE0, 0x9E] 0 (.cycling #[]) false = .ok machine ∧
      let reached := ((⟨machine, 0⟩ : Console).run false [.key 0 true]).1
      let after := (reached.step false).1.machine
      (reached.step false).2.result = .ok (some .skip) ∧ after.counter = 0x204 ∧
        reached.machine.Sends after .skip (.skipIfHeld 0) := by
  obtain ⟨machine, started, returned, due, counter, high, low⟩ :
      ∃ machine, Machine.boot [0xE0, 0x9E] 0 (.cycling #[]) false = .ok machine ∧
        let reached := ((⟨machine, 0⟩ : Console).run false [.key 0 true]).1
        (reached.step false).2.result = .ok (some .skip) ∧
        reached.machine.isThrottled reached.now = false ∧ reached.machine.counter = 0x200 ∧
        reached.machine.memory.read 0x200 = .ok 0xE0 ∧
        reached.machine.memory.read 0x201 = .ok 0x9E :=
    ⟨_, (Machine.boot_eq_ok_iff _ 0 (.cycling #[]) false _).mpr ⟨by decide, rfl⟩,
      by decide +kernel⟩
  refine ⟨machine, started, ?_⟩
  intro reached after
  have reachable : Reachable reached := (Reachable.booted started).run false _
  obtain ⟨_, inTime⟩ := step_control_flow reachable returned
  obtain ⟨flow, answered, -, moved, -, -, ⟨instruction, isAt, sends⟩, -⟩ := inTime due
  obtain rfl := Option.some.inj answered
  obtain rfl : instruction = .skipIfHeld 0 :=
    isAt.unique ⟨0xE09E, ⟨0xE0, 0x9E, counter ▸ high, counter ▸ low, rfl⟩, rfl⟩
  refine ⟨returned, ?_, sends⟩
  rw [moved rfl, counter]
  rfl

end Console

end ChipEight
