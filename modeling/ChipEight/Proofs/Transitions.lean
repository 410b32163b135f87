import ChipEight.Machine.Cycle
import ChipEight.Proofs.InstructionWords
import ChipEight.Proofs.MemoryAccess

/-!
# The six ways of a cycle

One cycle ends in one of six ways: it comes too early, it looks at the keypad for a register that
waits, it cannot fetch a word, it fetches a word that denotes no instruction, its instruction is
refused, or its instruction completes. `Cycle` lists them with everything that a cycle leaves and
answers in each, and `step_cycle` says that there are no others. Statements about single cycles
are proved by these six cases and never open the definition of a step.

The six ways do not mention tracing: it changes what is printed and nothing else.
-/

namespace ChipEight

namespace Machine

/-- The machine at the beginning of a cycle that is not too early: the display counts as unchanged
and the cycle is the last one. -/
def opened (machine : Machine) (now : Seconds) : Machine :=
  { machine with redraw := false, lastCycle := some now }

/-- The word that two consecutive bytes of the memory make, the most significant first. -/
def HoldsWord (machine : Machine) (address : Int) (word : Word) : Prop :=
  ∃ high low : UInt8, machine.memory.read address = .ok high ∧
    machine.memory.read (address + 1) = .ok low ∧ word.toNat = 256 * high.toNat + low.toNat

/-- Fetching gives a word exactly when the two bytes at the program counter make it. -/
theorem fetch_eq_ok_iff (machine : Machine) (word : Word) :
    machine.fetch = .ok word ↔ machine.HoldsWord machine.counter word := by
  unfold fetch HoldsWord
  cases first : machine.memory.read machine.counter with
  | error fault => simp [bind, Except.bind]
  | ok high =>
    cases second : machine.memory.read (machine.counter + 1) with
    | error fault => simp [bind, Except.bind]
    | ok low =>
      simp only [bind, Except.bind, pure, Except.pure, Except.ok.injEq, ← BitVec.toNat_inj,
        Word.ofBytes_toNat]
      constructor
      · intro made
        exact ⟨high, low, rfl, rfl, made.symm⟩
      · rintro ⟨_, _, rfl, rfl, made⟩
        exact made.symm

/-- A word in the memory ends in the memory. -/
theorem HoldsWord.fits {machine : Machine} {address : Int} {word : Word}
    (held : machine.HoldsWord address word) : address + 2 ≤ 4096 := by
  obtain ⟨high, low, first, second, _⟩ := held
  have := machine.memory.inside_of_read _ second
  omega

/-- There is one word at an address. -/
theorem HoldsWord.unique {machine : Machine} {address : Int} {word other : Word}
    (held : machine.HoldsWord address word) (otherHeld : machine.HoldsWord address other) :
    word = other := by
  obtain ⟨high, low, first, second, value⟩ := held
  obtain ⟨high', low', first', second', value'⟩ := otherHeld
  obtain rfl := Except.ok.inj (first.symm.trans first')
  obtain rfl := Except.ok.inj (second.symm.trans second')
  exact BitVec.eq_of_toNat_eq (value.trans value'.symm)

/-- Words stay where they are as long as the memory does. -/
theorem HoldsWord.of_memory_eq {machine after : Machine} {address : Int} {word : Word}
    (held : machine.HoldsWord address word) (same : after.memory = machine.memory) :
    after.HoldsWord address word := by
  unfold HoldsWord
  rw [same]
  exact held

/-- What a cycle may leave and answer. A machine that waits does not fetch, and one that cannot
complete an instruction keeps its program counter and its timers. -/
inductive Cycle (machine : Machine) (now : Seconds) :
    Machine → Except MachineError (Option Flow) → Prop where
  | throttled (early : machine.isThrottled now = true) :
      Cycle machine now ({ machine with redraw := false }.tick now) (.ok none)
  | polled (register : Register) (due : machine.isThrottled now = false)
      (waits : machine.awaiting = some register) :
      Cycle machine now
        ((((machine.opened now).pollKeypad register).1.advance
          ((machine.opened now).pollKeypad register).2).tick now)
        (.ok (some ((machine.opened now).pollKeypad register).2))
  | unfetched (fault : Fault) (due : machine.isThrottled now = false)
      (runs : machine.awaiting = none) (unread : machine.fetch = .error fault) :
      Cycle machine now (machine.opened now) (.error (.execution none machine.counter fault))
  | unknown (word : Word) (due : machine.isThrottled now = false)
      (runs : machine.awaiting = none) (fetched : machine.fetch = .ok word)
      (unrecognised : Instruction.ofWord? word = none) :
      Cycle machine now (machine.opened now)
        (.error (.unknownInstruction word.toNat machine.counter))
  | refused (word : Word) (instruction : Instruction) (fault : Fault)
      (due : machine.isThrottled now = false) (runs : machine.awaiting = none)
      (fetched : machine.fetch = .ok word)
      (recognised : Instruction.ofWord? word = some instruction)
      (refusal : ((machine.opened now).execute instruction).2 = .error fault) :
      Cycle machine now ((machine.opened now).execute instruction).1
        (.error (.execution (some word.toNat) machine.counter fault))
  | completed (word : Word) (instruction : Instruction) (flow : Flow)
      (due : machine.isThrottled now = false) (runs : machine.awaiting = none)
      (fetched : machine.fetch = .ok word)
      (recognised : Instruction.ofWord? word = some instruction)
      (completion : ((machine.opened now).execute instruction).2 = .ok flow) :
      Cycle machine now
        ((((machine.opened now).execute instruction).1.advance flow).tick now)
        (.ok (some flow))

/-- A cycle that comes too early answers nothing and offers its reading to the timers. -/
theorem Cycle.of_early {machine after : Machine} {now : Seconds}
    {result : Except MachineError (Option Flow)} (cycle : Cycle machine now after result)
    (early : machine.isThrottled now = true) :
    result = .ok none ∧ after = { machine with redraw := false }.tick now := by
  cases cycle with
  | throttled _ => exact ⟨rfl, rfl⟩
  | polled _ due _ => exact nomatch early.symm.trans due
  | unfetched _ due _ _ => exact nomatch early.symm.trans due
  | unknown _ due _ _ _ => exact nomatch early.symm.trans due
  | refused _ _ _ due _ _ _ _ => exact nomatch early.symm.trans due
  | completed _ _ _ due _ _ _ _ => exact nomatch early.symm.trans due

/-- The number of a word stands for the word itself. -/
theorem decode?_toNat (word : Word) :
    Instruction.decode? (word.toNat : Int) = Instruction.ofWord? word := by
  rw [Instruction.decode?, Word.ofInt, BitVec.ofInt_natCast, BitVec.ofNat_toNat, BitVec.setWidth_eq]

/-- Performing the word of an instruction is executing the instruction. -/
theorem perform_of_recognised {word : Word} {instruction : Instruction} (machine : Machine)
    (tracing : Bool) (recognised : Instruction.ofWord? word = some instruction) :
    (machine.perform tracing word.toNat).machine = (machine.execute instruction).1 ∧
      (machine.perform tracing word.toNat).result =
        (machine.execute instruction).2.mapError .refused := by
  simp only [perform, decode?_toNat, recognised, and_self]

/-- Performing the code of an instruction is executing the instruction too. -/
theorem perform_code (machine : Machine) (tracing : Bool) (instruction : Instruction) :
    (machine.perform tracing instruction.code).machine = (machine.execute instruction).1 ∧
      (machine.perform tracing instruction.code).result =
        (machine.execute instruction).2.mapError .refused := by
  simp only [perform, instruction.decode?_code, and_self]

/-- A due cycle that fails keeps the program counter and the timers. -/
theorem step_of_error {machine : Machine} {now : Seconds} {tracing : Bool} {error : MachineError}
    (due : machine.isThrottled now = false)
    (failed : ((machine.opened now).act tracing).result = .error error) :
    (machine.step tracing now).machine = ((machine.opened now).act tracing).machine ∧
      (machine.step tracing now).result = .error error := by
  unfold opened at failed ⊢
  simp only [step, due, Bool.false_eq_true, if_false, failed, and_true]

/-- A due cycle that completes moves the program counter and offers the reading to the timers. -/
theorem step_of_ok {machine : Machine} {now : Seconds} {tracing : Bool} {flow : Flow}
    (due : machine.isThrottled now = false)
    (completed : ((machine.opened now).act tracing).result = .ok flow) :
    (machine.step tracing now).machine =
        (((machine.opened now).act tracing).machine.advance flow).tick now ∧
      (machine.step tracing now).result = .ok (some flow) := by
  unfold opened at completed ⊢
  simp only [step, due, Bool.false_eq_true, if_false, completed, and_true]

/-- A machine that waits looks at the keypad. -/
theorem act_of_waits {machine : Machine} {register : Register} (tracing : Bool)
    (waits : machine.awaiting = some register) :
    machine.act tracing = ⟨(machine.pollKeypad register).1, .ok (machine.pollKeypad register).2,
      ""⟩ := by
  simp only [act, waits]

/-- A machine that runs executes the word that it fetches. -/
theorem act_of_runs {machine : Machine} (tracing : Bool) (runs : machine.awaiting = none) :
    machine.act tracing = machine.executeNext tracing := by
  simp only [act, runs]

/-- Every cycle goes one of the six ways, whether it is traced or not. -/
theorem step_cycle (tracing : Bool) (machine : Machine) (now : Seconds) :
    Cycle machine now (machine.step tracing now).machine (machine.step tracing now).result := by
  by_cases early : machine.isThrottled now = true
  · simp only [step, early, if_true]
    exact .throttled early
  · have due : machine.isThrottled now = false := Bool.eq_false_iff.mpr early
    cases waits : machine.awaiting with
    | some register =>
      have acted := (machine.opened now).act_of_waits tracing waits
      obtain ⟨after, answer⟩ := step_of_ok due (congrArg Attempt.result acted)
      rw [after, answer, acted]
      exact .polled register due waits
    | none =>
      have acted := (machine.opened now).act_of_runs tracing waits
      have sameFetch : (machine.opened now).fetch = machine.fetch := rfl
      rw [executeNext, sameFetch] at acted
      cases fetched : machine.fetch with
      | error fault =>
        rw [fetched] at acted
        obtain ⟨after, answer⟩ := step_of_error due (congrArg Attempt.result acted)
        rw [after, answer, acted]
        exact .unfetched fault due waits fetched
      | ok word =>
        simp only [fetched, handleWord, perform, decode?_toNat] at acted
        cases recognised : Instruction.ofWord? word with
        | none =>
          rw [recognised] at acted
          obtain ⟨after, answer⟩ := step_of_error due (congrArg Attempt.result acted)
          rw [after, answer, acted]
          exact .unknown word due waits fetched recognised
        | some instruction =>
          simp only [recognised] at acted
          cases outcome : ((machine.opened now).execute instruction).2 with
          | error fault =>
            rw [outcome] at acted
            obtain ⟨after, answer⟩ := step_of_error due (congrArg Attempt.result acted)
            rw [after, answer, acted]
            exact .refused word instruction fault due waits fetched recognised outcome
          | ok flow =>
            rw [outcome] at acted
            obtain ⟨after, answer⟩ := step_of_ok due (congrArg Attempt.result acted)
            rw [after, answer, acted]
            exact .completed word instruction flow due waits fetched recognised outcome

end Machine

end ChipEight
