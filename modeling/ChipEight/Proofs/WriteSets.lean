import ChipEight.Proofs.FailedCycles
import ChipEight.Proofs.KeyWait
import ChipEight.Proofs.MemoryImage
import ChipEight.Proofs.Timekeeping

/-!
# What instructions write

Each instruction has a write set: the few parts of the machine that it may change when it completes.
The table `writeSet` gives it for every instruction, in terms of the operands and, for the two
stores, of the index. A cycle that carries out an instruction leaves every part outside of the write
set as it was, apart from what the timers do with the reading of the clock. This holds also of a
cycle that looks at the keypad: it carries out the waiting instruction, at which the program counter
still is.
-/

namespace ChipEight

/-- A part of the machine. The program counter is left out, which every cycle moves, and so is what
is remembered of the last cycle. -/
inductive Part where
  | byte (place : Int)
  | register (register : Register)
  | index
  | calls
  | display
  | delay
  | sound
  | awaiting
  | random
  | keypad
  | shiftChoice
  deriving DecidableEq, Repr

/-- Two machines have the same in a part. -/
def Part.Same (machine other : Machine) : Part → Prop
  | byte place => other.memory.read place = machine.memory.read place
  | register named => other.register named = machine.register named
  | index => other.index = machine.index
  | calls => other.calls = machine.calls
  | display => other.display = machine.display
  | delay => other.timers.delay = machine.timers.delay
  | sound => other.timers.sound = machine.timers.sound
  | awaiting => other.awaiting = machine.awaiting
  | random => other.random = machine.random
  | keypad => other.keypad = machine.keypad
  | shiftChoice => other.shiftInPlace = machine.shiftInPlace

/-- The parts that an instruction may write when it completes, in a machine with some index. An
instruction that goes on waiting for a key has not completed its wait and writes no register. -/
def Instruction.writeSet (index : Int) (flow : Flow) : Instruction → List Part
  | .jump _ | .jumpOffset _ => []
  | .skipIfByte _ _ | .skipUnlessByte _ _ | .skipIfSame _ _ | .skipUnlessSame _ _ => []
  | .skipIfHeld _ | .skipUnlessHeld _ => []
  | .loadByte x _ | .addByte x _ => [.register x]
  | .copy x _ | .or x _ | .and x _ | .xor x _ => [.register x]
  | .add x _ | .subtract x _ | .shiftRight x _ | .subtractFrom x _ | .shiftLeft x _ =>
    [.register x, .register flagRegister]
  | .random x _ => [.register x, .random]
  | .readDelay x => [.register x]
  | .awaitKey x => if flow = .wait then [.awaiting] else [.awaiting, .register x]
  | .loadRegisters x => (Machine.registersUpTo x).map .register
  | .storeDecimal _ => [.byte index, .byte (index + 1), .byte (index + 2)]
  | .storeRegisters x =>
    (Machine.registersUpTo x).map fun register => .byte (index + register.val)
  | .loadIndex _ | .addToIndex _ | .selectGlyph _ => [.index]
  | .returnFromCall | .call _ => [.calls]
  | .clearDisplay => [.display]
  | .draw _ _ _ => [.display, .register flagRegister]
  | .setDelay _ => [.delay]
  | .setSound _ => [.sound]

namespace Machine

variable {machine : Machine} {instruction : Instruction} {flow : Flow}

/-! ## What an instruction leaves alone -/

/-- A byte outside of the write set is not reached. -/
theorem gives?_of_not_written {place : Int}
    (absent : .byte place ∉ instruction.writeSet machine.index flow) :
    (⟨machine, instruction⟩ : Execution).gives? place = none := by
  rw [← Option.not_isSome_iff_eq_none, Execution.isSome_gives?_iff]
  rintro (⟨x, rfl, first, last⟩ | ⟨x, rfl, first, last⟩)
  · simp only at first last
    apply absent
    simp only [Instruction.writeSet, List.mem_cons, Part.byte.injEq, List.not_mem_nil, or_false]
    omega
  · simp only at first last
    apply absent
    rw [Instruction.writeSet, List.mem_map]
    have small : (place - machine.index).toNat < 16 := by omega
    refine ⟨⟨(place - machine.index).toNat, small⟩, ?_, ?_⟩
    · rw [mem_registersUpTo, Fin.le_def]
      simp only
      omega
    · simp only [Part.byte.injEq]
      omega

/-- Putting a value into a register leaves the registers alone that are not listed with it. -/
theorem register_setRegister_of_not_mem {register x : Register} {others : List Part}
    (absent : .register register ∉ .register x :: others) (value : Int) :
    (machine.setRegister x value).register register = machine.register register := by
  have differs : x ≠ register := by
    rintro rfl
    exact absent List.mem_cons_self
  rw [register_setRegister, if_neg differs]

/-- So does putting one value into a register and then another one into a second register. -/
theorem register_setRegister_twice_of_not_mem {register x y : Register}
    (absent : .register register ∉ [Part.register x, .register y]) (value other : Int) :
    ((machine.setRegister x value).setRegister y other).register register =
      machine.register register := by
  rw [register_setRegister_of_not_mem fun member => absent (List.mem_cons_of_mem _ member),
    register_setRegister_of_not_mem absent]

/-- Drawing leaves all registers but the flag alone. -/
theorem execute_draw_register {x y : Register} {height : Fin 16}
    (completion : (machine.execute (.draw x y height)).2 = .ok flow) {register : Register}
    (absent : .register register ∉ (Instruction.draw x y height).writeSet machine.index flow) :
    (machine.execute (.draw x y height)).1.register register = machine.register register := by
  cases read : machine.memory.sprite machine.index height.val with
  | error fault => rw [machine.execute_draw_of_error read]
  | ok sprite =>
    cases drawn : machine.display.draw sprite (machine.register x) (machine.register y) with
    | mk display answer =>
      cases answer with
      | error fault =>
        simp only [execute_draw, read, drawSprite, drawn] at completion
        cases completion
      | ok hit =>
        rw [machine.execute_draw_of_sprite read drawn]
        exact register_setRegister_of_not_mem
          (fun member => absent (List.mem_cons_of_mem _ member)) _

/-- Looking at the keypad leaves all registers alone while the wait goes on, and all others than the
one that waits when it ends. -/
theorem pollKeypad_register {x register : Register}
    (absent : .register register ∉
      (Instruction.awaitKey x).writeSet machine.index (machine.pollKeypad x).2) :
    (machine.pollKeypad x).1.register register = machine.register register := by
  cases found : machine.keypad.lowest? with
  | none =>
    rw [pollKeypad_eq, found]
    rfl
  | some key =>
    simp only [pollKeypad_eq, found, Instruction.writeSet, reduceCtorEq, if_false] at absent ⊢
    exact register_setRegister_of_not_mem
      (fun member => absent (List.mem_cons_of_mem _ member)) key.val

/-- A register outside of the write set keeps what it holds. -/
theorem execute_register (valid : machine.InRange)
    (completion : (machine.execute instruction).2 = .ok flow) {register : Register}
    (absent : .register register ∉ instruction.writeSet machine.index flow) :
    (machine.execute instruction).1.register register = machine.register register := by
  cases instruction with
  | loadByte x _ | addByte x _ | copy x _ | or x _ | and x _ | xor x _ | readDelay x | random x _ =>
    exact register_setRegister_of_not_mem absent _
  | add x _ | subtract x _ | subtractFrom x _ | shiftRight x _ | shiftLeft x _ =>
    exact register_setRegister_twice_of_not_mem absent _ _
  | draw x y height => exact execute_draw_register completion absent
  | awaitKey x =>
    obtain rfl : (machine.pollKeypad x).2 = flow := Except.ok.inj completion
    exact pollKeypad_register absent
  | loadRegisters x =>
    have law := machine.register_loadFrom (pairwise_registersUpTo x) valid.index.1 register
    apply law.2
    rintro ⟨listed, _⟩
    exact absent (List.mem_map_of_mem listed)
  | returnFromCall =>
    rw [execute_returnFromCall_frame]
    rfl
  | call target =>
    rw [execute_call_frame]
    rfl
  | selectGlyph x =>
    rw [execute_selectGlyph_frame]
    rfl
  | _ => rfl

/-- Every part outside of the write set stays as it is, but for the counts that the timers keep. -/
theorem execute_same (valid : machine.InRange)
    (completion : (machine.execute instruction).2 = .ok flow) {part : Part}
    (absent : part ∉ instruction.writeSet machine.index flow) :
    part.Same machine (machine.execute instruction).1 := by
  cases part with
  | byte place =>
    exact (⟨machine, instruction⟩ : Execution).read_outcome (gives?_of_not_written absent)
  | register register => exact execute_register valid completion absent
  | index =>
    apply machine.execute_index
    · rintro address rfl
      exact absent List.mem_cons_self
    · rintro x rfl
      exact absent List.mem_cons_self
    · rintro x rfl
      exact absent List.mem_cons_self
  | calls =>
    apply machine.execute_calls
    · rintro rfl
      exact absent List.mem_cons_self
    · rintro target rfl
      exact absent List.mem_cons_self
  | display =>
    apply machine.execute_display
    · rintro rfl
      exact absent List.mem_cons_self
    · rintro x y height rfl
      exact absent List.mem_cons_self
  | delay =>
    rw [Part.Same, execute_timers]
    cases instruction with
    | setDelay x => exact absurd List.mem_cons_self absent
    | _ => rfl
  | sound =>
    rw [Part.Same, execute_timers]
    cases instruction with
    | setSound x => exact absurd List.mem_cons_self absent
    | _ => rfl
  | awaiting =>
    apply machine.execute_awaiting
    rintro x rfl
    apply absent
    rw [Instruction.writeSet]
    split <;> exact List.mem_cons_self
  | random =>
    rw [Part.Same, execute_random]
    cases instruction with
    | random x mask => exact absurd (List.mem_cons_of_mem _ List.mem_cons_self) absent
    | _ => rfl
  | keypad =>
    rw [Part.Same, execute_frame]
  | shiftChoice =>
    rw [Part.Same, execute_frame]

/-! ## What a cycle leaves alone -/

/-- A part that an instruction leaves as it was is left so by the end of the cycle, where only the
reading that the timers are offered matters to it. They take it as they would have taken it without
the instruction, since no instruction touches what they rest since. -/
theorem same_after_tick {worked : Machine} {part : Part} (same : part.Same machine worked)
    (reference : worked.timers.lastTick = machine.timers.lastTick ∧
      worked.timers.period = machine.timers.period) (now : Seconds) :
    part.Same (machine.tick now) ((worked.advance flow).tick now) := by
  have due : worked.timers.isDue now = machine.timers.isDue now := by
    rw [Timers.isDue, reference.1, reference.2, Timers.isDue]
  have counted (which : Countdown) (stands : which.count worked.timers =
      which.count machine.timers) : which.count (worked.timers.tick now).1 =
        which.count (machine.timers.tick now).1 := by
    rw [Countdown.count_tick, Countdown.count_tick, Timers.tick_snd, Timers.tick_snd, due, stands]
  cases part with
  | delay => exact counted .delay same
  | sound => exact counted .sound same
  | _ => exact same

/-- A cycle that answers how the program counter moved has carried out the instruction at the
program counter. When it looks at the keypad, that is the instruction that waits. -/
theorem Cycle.of_flow {after : Machine} {now : Seconds} (waitsThere : machine.WaitsAtInstruction)
    (cycle : Cycle machine now after (.ok (some flow))) :
    ∃ instruction, machine.IsAt instruction ∧
      ((machine.opened now).execute instruction).2 = .ok flow ∧
      after = (((machine.opened now).execute instruction).1.advance flow).tick now := by
  cases cycle with
  | polled register due waits =>
    have held := waitsThere register waits
    exact ⟨.awaitKey register, ⟨_, held, (awaitWord_toNat register).symm⟩, rfl, rfl⟩
  | completed word instruction flow due runs fetched recognised completion =>
    have held := (machine.fetch_eq_ok_iff word).mp fetched
    have coded := (Instruction.ofWord?_eq_some_iff word instruction).mp recognised
    exact ⟨instruction, ⟨word, held, coded⟩, completion, rfl⟩

end Machine

namespace Console

open Machine

/-- Every cycle of a reachable console that completes carries out the instruction at the program
counter, and every part outside of the write set of the instruction is afterwards as it was, or as
it was when the timers had taken the reading of the clock.

Proof: executing the instruction leaves these parts alone, in a machine whose cycle has begun. The
program counter is not among them, and the timers come last. -/
theorem step_within_writeSet {console : Console} (reachable : Reachable console) {tracing : Bool}
    {flow : Flow} (completed : (console.step tracing).2.result = .ok (some flow)) :
    ∃ instruction, console.machine.IsAt instruction ∧
      ∀ part ∉ instruction.writeSet console.machine.index flow,
        part.Same (console.machine.tick console.now) (console.step tracing).1.machine := by
  have cycle := console.step_cycle tracing
  rw [completed] at cycle
  obtain ⟨instruction, isAt, completion, left⟩ := cycle.of_flow reachable.waitsAtInstruction
  refine ⟨instruction, isAt, ?_⟩
  intro part absent
  have same : part.Same (console.machine.opened console.now) _ :=
    execute_same (reachable.inRange.opened console.now) completion absent
  have begun : part.Same console.machine
      ((console.machine.opened console.now).execute instruction).1 := by
    cases part <;> exact same
  rw [left]
  exact same_after_tick begun
    (⟨console.machine.opened console.now, instruction⟩ : Execution).reference_outcome console.now

/-- The program `A300 F155` stores two registers in its second cycle. No place but the two is
changed, and no register. -/
theorem step_within_writeSet_of_store_of_two :
    ∃ machine, Machine.boot [0xA3, 0x00, 0xF1, 0x55] 0 (.cycling #[]) false = .ok machine ∧
      let reached := ((⟨machine, 0⟩ : Console).run false [.step, .advanceClock 0.002]).1
      let after := (reached.step false).1.machine
      (reached.step false).2.result = .ok (some .next) ∧
      (∀ place, place ≠ 0x300 → place ≠ 0x301 →
        after.memory.read place = reached.machine.memory.read place) ∧
      ∀ register, after.register register = reached.machine.register register := by
  obtain ⟨machine, started, completed, index, counter, high, low⟩ :
      ∃ machine, Machine.boot [0xA3, 0x00, 0xF1, 0x55] 0 (.cycling #[]) false = .ok machine ∧
        let reached := ((⟨machine, 0⟩ : Console).run false [.step, .advanceClock 0.002]).1
        (reached.step false).2.result = .ok (some .next) ∧ reached.machine.index = 0x300 ∧
        reached.machine.counter = 0x202 ∧ reached.machine.memory.read 0x202 = .ok 0xF1 ∧
        reached.machine.memory.read 0x203 = .ok 0x55 :=
    ⟨_, (Machine.boot_eq_ok_iff _ 0 (.cycling #[]) false _).mpr ⟨by decide, rfl⟩,
      by decide +kernel⟩
  refine ⟨machine, started, ?_⟩
  intro reached after
  have reachable : Reachable reached := (Reachable.booted started).run false _
  obtain ⟨instruction, isAt, kept⟩ := step_within_writeSet reachable completed
  obtain rfl : instruction = .storeRegisters 1 :=
    isAt.unique ⟨0xF155, ⟨0xF1, 0x55, counter ▸ high, counter ▸ low, rfl⟩, rfl⟩
  have twoPlaces : (Instruction.storeRegisters 1).writeSet reached.machine.index .next =
      [.byte 0x300, .byte 0x301] := by
    rw [index]
    rfl
  rw [twoPlaces] at kept
  refine ⟨completed, ?_, ?_⟩
  · intro place notFirst notSecond
    exact kept (.byte place) (by simp [notFirst, notSecond])
  · intro register
    exact kept (.register register) (by simp)

end Console

end ChipEight
