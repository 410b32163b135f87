import ChipEight.Machine.Console
import ChipEight.Proofs.Transitions

/-!
# Reachable consoles and histories

A console is reachable if its machine was booted with some program and then went through any
events: clock changes, key events and cycles, failing ones included. What every boot establishes
and every key event and every cycle keeps holds of the machine of every reachable console.

The history of a run lists the instructions that its cycles executed, each with the machine that
it found, whether it completed or was refused. A cycle that comes too early, that looks at the
keypad, or that gets no instruction adds nothing to the history. The cycles themselves, whatever
became of them, are listed by the consoles in which they began.
-/

namespace ChipEight

/-- An instruction that was executed and the machine that it found. -/
structure Execution where
  found : Machine
  instruction : Instruction

namespace Execution

/-- The machine that an execution leaves, and its answer. -/
def outcome (execution : Execution) : Machine × Except Fault Flow :=
  execution.found.execute execution.instruction

/-- Whether an execution was completed, not refused. -/
def isCompleted (execution : Execution) : Bool := execution.outcome.2.isOk

end Execution

/-- What a cycle at a reading of the clock executes, if it gets as far as that. -/
def Machine.execution? (machine : Machine) (now : Seconds) : Option Execution :=
  if machine.isThrottled now || machine.awaiting.isSome then none
  else match machine.fetch with
    | .error _ => none
    | .ok word => (Instruction.ofWord? word).map (⟨machine.opened now, ·⟩)

section

variable {machine : Machine} {now : Seconds}

/-- A cycle that comes too early executes nothing. -/
theorem Machine.execution?_of_early (early : machine.isThrottled now = true) :
    machine.execution? now = none := by
  simp only [execution?, early, Bool.true_or, if_true]

/-- A cycle that finds a register waiting executes nothing. -/
theorem Machine.execution?_of_waits {register : Register}
    (waits : machine.awaiting = some register) : machine.execution? now = none := by
  simp only [execution?, waits, Option.isSome_some, Bool.or_true, if_true]

variable (due : machine.isThrottled now = false) (runs : machine.awaiting = none)
include due runs

/-- A cycle without a word at the program counter executes nothing. -/
theorem Machine.execution?_of_unread {fault : Fault} (unread : machine.fetch = .error fault) :
    machine.execution? now = none := by
  simp only [execution?, due, runs, unread, Option.isSome_none, Bool.or_false,
    Bool.false_eq_true, if_false]

/-- Any other cycle executes the instruction that the word denotes, if it denotes one. -/
theorem Machine.execution?_of_fetched {word : Word} (fetched : machine.fetch = .ok word) :
    machine.execution? now = (Instruction.ofWord? word).map (⟨machine.opened now, ·⟩) := by
  simp only [execution?, due, runs, fetched, Option.isSome_none, Bool.or_false,
    Bool.false_eq_true, if_false]

/-- So it executes an instruction whose word was fetched. -/
theorem Machine.execution?_of_recognised {word : Word} {instruction : Instruction}
    (fetched : machine.fetch = .ok word)
    (recognised : Instruction.ofWord? word = some instruction) :
    machine.execution? now = some ⟨machine.opened now, instruction⟩ := by
  rw [execution?_of_fetched due runs fetched, recognised, Option.map_some]

end

/-- A program starts a machine exactly when it fits into the memory, and the machine is the blank
one with the program in its memory. -/
theorem Machine.boot_eq_ok_iff (program : List UInt8) (now : Seconds) (random : RandomSource)
    (shiftInPlace : Bool) (machine : Machine) :
    Machine.boot program now random shiftInPlace = .ok machine ↔
      program.length ≤ Memory.programCapacity ∧
        { Machine.blank now random shiftInPlace with
          memory := ⟨Memory.overlay Memory.blank.bytes Memory.programStart program⟩ } =
          machine := by
  unfold Machine.boot Machine.load Memory.load
  by_cases tooLong : Memory.programCapacity < program.length
  · simp only [tooLong, if_true, Except.map, reduceCtorEq, false_iff, not_and]
    intro fits
    omega
  · have fits : program.length ≤ Memory.programCapacity := by omega
    simp only [tooLong, if_false, Except.map, Except.ok.injEq, fits, true_and]
    exact Iff.rfl

/-- A program that does not fit into the memory starts no machine. -/
theorem Machine.boot_of_tooLong {program : List UInt8}
    (tooLong : Memory.programCapacity < program.length) (now : Seconds) (random : RandomSource)
    (shiftInPlace : Bool) :
    Machine.boot program now random shiftInPlace = .error (.programTooLong program.length) := by
  simp only [Machine.boot, Machine.load, Memory.load, tooLong, if_true, Except.map]

/-- The bytes of a program that was booted stand from address 0x200 on. -/
theorem Machine.read_of_boot {program : List UInt8} {now : Seconds} {random : RandomSource}
    {shiftInPlace : Bool} {machine : Machine}
    (started : Machine.boot program now random shiftInPlace = .ok machine) {position : Nat}
    (within : position < program.length) :
    machine.memory.read (0x200 + position) = .ok program[position] := by
  unfold Machine.boot Machine.load at started
  cases placed : (Machine.blank now random shiftInPlace).memory.load program with
  | error fault =>
    rw [placed] at started
    cases started
  | ok memory =>
    rw [placed] at started
    obtain rfl := Except.ok.inj started
    exact Memory.read_of_load placed within

namespace Console

/-- What an event executes: only a due cycle can execute anything. -/
def execution? (console : Console) : Event → Option Execution
  | .step => console.machine.execution? console.now
  | _ => none

/-- What the events of a run execute, in their order. -/
def history (tracing : Bool) (console : Console) : List Event → List Execution
  | [] => []
  | event :: rest =>
    (console.execution? event).toList ++ (console.react tracing event).1.history tracing rest

/-- The console in which an event begins a cycle, if the event is a cycle. -/
def cycleStart? (console : Console) : Event → Option Console
  | .step => some console
  | _ => none

/-- The consoles in which the cycles of a run begin, in their order. -/
def cycleStarts (tracing : Bool) (console : Console) : List Event → List Console
  | [] => []
  | event :: rest =>
    (console.cycleStart? event).toList ++
      (console.react tracing event).1.cycleStarts tracing rest

/-- A run that begins with a cycle goes on from where the cycle leads. -/
theorem run_step (tracing : Bool) (console : Console) (rest : List Event) :
    console.run tracing (.step :: rest) =
      (((console.step tracing).1.run tracing rest).1,
        (console.step tracing).2 :: ((console.step tracing).1.run tracing rest).2) := rfl

/-- Its history begins with what the cycle executes, if it executes anything. -/
theorem history_step (tracing : Bool) (console : Console) (rest : List Event) :
    console.history tracing (.step :: rest) =
      (console.execution? .step).toList ++ (console.step tracing).1.history tracing rest := rfl

/-- What the beginning of any run executes is executed by the whole run. -/
theorem mem_history_of_beginning {tracing : Bool} {console : Console} {front events : List Event}
    (isFront : front <+: events) {execution : Execution}
    (member : execution ∈ console.history tracing front) :
    execution ∈ console.history tracing events := by
  induction events generalizing console front with
  | nil => rwa [List.prefix_nil.mp isFront] at member
  | cons event rest inductionHypothesis =>
    rcases List.prefix_cons_iff.mp isFront with rfl | ⟨others, rfl, isRest⟩
    · cases member
    · rcases List.mem_append.mp member with now | later
      · exact List.mem_append_left _ now
      · exact List.mem_append_right _ (inductionHypothesis isRest later)

/-- A run that begins with a cycle has its first cycle in its first console. -/
theorem cycleStarts_step (tracing : Bool) (console : Console) (rest : List Event) :
    console.cycleStarts tracing (.step :: rest) =
      console :: (console.step tracing).1.cycleStarts tracing rest := rfl

/-- A cycle begins where some beginning of the run ends, and the cycles of that beginning are the
cycles before it. -/
theorem exists_beginning_of_cycle {tracing : Bool} {console begun : Console} {events : List Event}
    {front later : List Console}
    (listed : console.cycleStarts tracing events = front ++ begun :: later) :
    ∃ beginning, beginning <+: events ∧ (console.run tracing beginning).1 = begun ∧
      console.cycleStarts tracing beginning = front := by
  induction events generalizing console front with
  | nil => exact absurd listed.symm (List.append_ne_nil_of_right_ne_nil front nofun)
  | cons event rest inductionHypothesis =>
    rw [cycleStarts] at listed
    cases starts : console.cycleStart? event with
    | none =>
      rw [starts] at listed
      obtain ⟨beginning, isFront, reached, cycles⟩ := inductionHypothesis listed
      refine ⟨event :: beginning, List.cons_prefix_cons.mpr ⟨rfl, isFront⟩, reached, ?_⟩
      rw [cycleStarts, starts, cycles]
      rfl
    | some first =>
      rw [starts] at listed
      cases front with
      | nil =>
        obtain rfl := (List.cons.inj listed).1
        refine ⟨[], List.nil_prefix, ?_, rfl⟩
        cases event <;> cases starts
        rfl
      | cons second others =>
        obtain ⟨rfl, restListed⟩ := List.cons.inj listed
        obtain ⟨beginning, isFront, reached, cycles⟩ := inductionHypothesis restListed
        refine ⟨event :: beginning, List.cons_prefix_cons.mpr ⟨rfl, isFront⟩, reached, ?_⟩
        rw [cycleStarts, starts, cycles]
        rfl

/-- The consoles that can come about. Whether a cycle is traced is left open each time. -/
inductive Reachable : Console → Prop where
  | booted {program : List UInt8} {now : Seconds} {random : RandomSource} {shiftInPlace : Bool}
      {machine : Machine} (started : Machine.boot program now random shiftInPlace = .ok machine) :
      Reachable ⟨machine, now⟩
  | react {console : Console} (tracing : Bool) (event : Event) (before : Reachable console) :
      Reachable (console.react tracing event).1

/-- A run from a reachable console stays among the reachable ones. -/
theorem Reachable.run {console : Console} (reachable : Reachable console) (tracing : Bool)
    (events : List Event) : Reachable (console.run tracing events).1 := by
  induction events generalizing console with
  | nil => exact reachable
  | cons event rest inductionHypothesis => exact inductionHypothesis (reachable.react tracing event)

/-- What a due cycle leaves behind is one of the six ways. -/
theorem step_cycle (tracing : Bool) (console : Console) :
    Machine.Cycle console.machine console.now (console.step tracing).1.machine
      (console.step tracing).2.result :=
  Machine.step_cycle tracing console.machine console.now

/-- A property of machines that a boot establishes, and that key events and cycles keep, holds of
the machine of every reachable console. Setting and moving the clock does not touch the machine. -/
theorem Reachable.invariant {property : Machine → Prop} {console : Console}
    (reachable : Reachable console)
    (boot : ∀ program now random shiftInPlace machine,
      Machine.boot program now random shiftInPlace = .ok machine → property machine)
    (key : ∀ machine keypad, property machine → property { machine with keypad := keypad })
    (cycle : ∀ machine now after result, property machine →
      Machine.Cycle machine now after result → property after) :
    property console.machine := by
  induction reachable with
  | booted started => exact boot _ _ _ _ _ started
  | @react console tracing event _ inductionHypothesis =>
    cases event with
    | setClock reading => exact inductionHypothesis
    | advanceClock seconds => exact inductionHypothesis
    | key pressed down => exact key console.machine _ inductionHypothesis
    | step =>
      exact cycle console.machine console.now _ _ inductionHypothesis (console.step_cycle tracing)

end Console

namespace Machine.Cycle

variable {machine after : Machine} {now : Seconds} {result : Except MachineError (Option Flow)}

/-- What becomes of a part of the machine that only the beginning of a cycle and executing
instructions can change: the display counts as unchanged when the cycle begins, and nothing else
happens to the part unless the cycle executes something. Then it is what the execution leaves.
Ticking, moving the program counter and looking at the keypad must not matter to the part. -/
theorem part_begun {α : Type} (part : Machine → α)
    (indifferent : ∀ machine registers counter timers lastCycle awaiting,
      part ⟨machine.memory, registers, machine.index, counter, machine.calls, machine.display,
        machine.keypad, timers, machine.random, machine.shiftInPlace, lastCycle, awaiting,
        machine.redraw⟩ = part machine)
    (cycle : Cycle machine now after result) :
    part after = match machine.execution? now with
      | none => part (machine.opened now)
      | some execution => part execution.outcome.1 := by
  cases cycle with
  | throttled early =>
    rw [execution?_of_early early]
    exact indifferent (machine.opened now) ..
  | polled register due waits =>
    rw [execution?_of_waits waits]
    unfold pollKeypad
    split <;> exact indifferent (machine.opened now) ..
  | unfetched fault due runs unread => rw [execution?_of_unread due runs unread]
  | unknown word due runs fetched unrecognised =>
    rw [execution?_of_fetched due runs fetched, unrecognised]
    rfl
  | refused word instruction fault due runs fetched recognised refusal =>
    rw [execution?_of_recognised due runs fetched recognised]
    rfl
  | completed word instruction flow due runs fetched recognised completion =>
    rw [execution?_of_recognised due runs fetched recognised]
    exact indifferent ((machine.opened now).execute instruction).1 ..

/-- What becomes of a part of the machine that only executing instructions can change: it stays as
it is unless the cycle executes something, and then it is what the execution leaves. Ticking,
moving the program counter and looking at the keypad must not matter to the part. -/
theorem part_eq {α : Type} (part : Machine → α)
    (indifferent : ∀ machine registers counter timers lastCycle awaiting redraw,
      part ⟨machine.memory, registers, machine.index, counter, machine.calls, machine.display,
        machine.keypad, timers, machine.random, machine.shiftInPlace, lastCycle, awaiting, redraw⟩ =
        part machine)
    (cycle : Cycle machine now after result) :
    part after = match machine.execution? now with
      | none => part machine
      | some execution => part execution.outcome.1 := by
  have begun : part (machine.opened now) = part machine := indifferent machine ..
  rw [← begun]
  exact cycle.part_begun part fun machine registers counter timers lastCycle awaiting =>
    indifferent machine registers counter timers lastCycle awaiting machine.redraw

/-- What a cycle executes is the instruction whose code the memory holds at the program counter, in
a machine that runs and has begun the cycle. -/
theorem of_execution? {execution : Execution} (executes : machine.execution? now = some execution) :
    machine.isThrottled now = false ∧ machine.awaiting = none ∧
      execution.found = machine.opened now ∧
      ∃ word, machine.HoldsWord machine.counter word ∧
        execution.instruction.code = word.toNat := by
  unfold execution? at executes
  split at executes
  · cases executes
  · rename_i free
    simp only [Bool.or_eq_true, not_or, Bool.not_eq_true, Option.isSome_eq_false_iff,
      Option.isNone_iff_eq_none] at free
    split at executes
    · cases executes
    · rename_i word fetched
      obtain ⟨instruction, recognised, rfl⟩ := Option.map_eq_some_iff.mp executes
      exact ⟨free.1, free.2, rfl, word, (machine.fetch_eq_ok_iff word).mp fetched,
        (Instruction.ofWord?_eq_some_iff word instruction).mp recognised⟩

/-- A cycle that executes something completes it or is refused. If it completes it, it answers how
the program counter moved, and moves it. If it is refused, it answers why, and ends with that. -/
theorem of_executes {execution : Execution} (cycle : Cycle machine now after result)
    (executes : machine.execution? now = some execution) :
    (∃ flow, execution.outcome.2 = .ok flow ∧ result = .ok (some flow) ∧
      after = (execution.outcome.1.advance flow).tick now) ∨
    ∃ fault, execution.outcome.2 = .error fault ∧ result =
        .error (.execution (some execution.instruction.code) machine.counter fault) ∧
      after = execution.outcome.1 := by
  obtain ⟨due, runs, found, word, held, coded⟩ := of_execution? executes
  have fetched := (machine.fetch_eq_ok_iff word).mpr held
  have recognised := (Instruction.ofWord?_eq_some_iff word execution.instruction).mpr coded
  cases cycle with
  | throttled early => simp [due] at early
  | polled register _ waits => simp [runs] at waits
  | unfetched fault _ _ unread => simp [fetched] at unread
  | unknown other _ _ otherFetched unrecognised =>
    obtain rfl : word = other := Except.ok.inj (fetched.symm.trans otherFetched)
    simp [recognised] at unrecognised
  | refused other instruction fault _ _ otherFetched otherRecognised refusal =>
    obtain rfl : word = other := Except.ok.inj (fetched.symm.trans otherFetched)
    obtain rfl := Option.some.inj (recognised.symm.trans otherRecognised)
    rw [← found] at refusal ⊢
    rw [coded]
    exact Or.inr ⟨fault, refusal, rfl, rfl⟩
  | completed other instruction flow _ _ otherFetched otherRecognised completion =>
    obtain rfl : word = other := Except.ok.inj (fetched.symm.trans otherFetched)
    obtain rfl := Option.some.inj (recognised.symm.trans otherRecognised)
    rw [← found] at completion ⊢
    exact Or.inl ⟨flow, completion, rfl, rfl⟩

/-- A cycle whose instruction completes answers how the program counter moved, and moves it. -/
theorem of_isCompleted {execution : Execution} (cycle : Cycle machine now after result)
    (executes : machine.execution? now = some execution)
    (completes : execution.isCompleted = true) :
    ∃ flow, execution.outcome.2 = .ok flow ∧ result = .ok (some flow) ∧
      after = (execution.outcome.1.advance flow).tick now := by
  rcases cycle.of_executes executes with completed | ⟨fault, refusal, _, _⟩
  · exact completed
  · rw [Execution.isCompleted, refusal] at completes
    cases completes

end Machine.Cycle

/-- What an event executes finds the machine as the event opens it. -/
theorem Console.found_of_execution? {console : Console} {event : Event} {execution : Execution}
    (executes : console.execution? event = some execution) :
    execution.found = console.machine.opened console.now := by
  cases event with
  | step => exact (Machine.Cycle.of_execution? executes).2.2.1
  | setClock reading => cases executes
  | advanceClock seconds => cases executes
  | key pressed down => cases executes

/-- What an event does to a part of the machine that only executing instructions can change. Either
the event executes nothing and the part stays as it is, or an instruction finds the part as it was
and leaves it as it is afterwards. -/
theorem Console.part_react {α : Type} (part : Machine → α)
    (indifferent : ∀ machine registers counter keypad timers lastCycle awaiting redraw,
      part ⟨machine.memory, registers, machine.index, counter, machine.calls, machine.display,
        keypad, timers, machine.random, machine.shiftInPlace, lastCycle, awaiting, redraw⟩ =
        part machine)
    (tracing : Bool) (console : Console) (event : Event) :
    (console.execution? event = none ∧
      part (console.react tracing event).1.machine = part console.machine) ∨
    ∃ execution, console.execution? event = some execution ∧
      part execution.found = part console.machine ∧
      part (console.react tracing event).1.machine = part execution.outcome.1 := by
  cases event with
  | setClock reading => exact Or.inl ⟨rfl, rfl⟩
  | advanceClock seconds => exact Or.inl ⟨rfl, rfl⟩
  | key pressed down => exact Or.inl ⟨rfl, indifferent console.machine ..⟩
  | step =>
    have law := (console.step_cycle tracing).part_eq part fun machine registers counter =>
      indifferent machine registers counter machine.keypad
    cases executes : console.machine.execution? console.now with
    | none =>
      rw [executes] at law
      exact Or.inl ⟨executes, law⟩
    | some execution =>
      rw [executes] at law
      obtain ⟨_, _, found, _⟩ := Machine.Cycle.of_execution? executes
      refine Or.inr ⟨execution, executes, ?_, law⟩
      rw [found]
      exact indifferent console.machine ..

end ChipEight
