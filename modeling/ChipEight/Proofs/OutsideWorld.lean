import Mathlib.Data.List.Forall2
import ChipEight.Proofs.Inlets
import ChipEight.Proofs.Timekeeping

/-!
# What reaches a program from outside

Keys and random bytes come from outside of a program, and each of them reaches it through its own
instructions only. A run that executes no instruction of the keypad goes the same way whatever keys
are pressed and let go meanwhile, and a run that asks for no random byte goes the same way whatever
bytes there are. An instruction that asks for a random byte draws the next one, and nothing else
draws any.

Two runs with different keys have different events. They are compared at their cycles: between two
cycles nothing changes in a machine but its keypad, whatever happens there.
-/

namespace ChipEight

/-- A source from which a number of further bytes have been drawn. -/
def RandomSource.advanced (source : RandomSource) (count : Nat) : RandomSource :=
  { source with drawn := source.drawn + count }

/-- Bytes are drawn one after the other. -/
theorem RandomSource.advanced_advanced (source : RandomSource) (first second : Nat) :
    (source.advanced first).advanced second = source.advanced (first + second) := by
  rw [advanced, advanced, advanced, Nat.add_assoc]

/-- Whether an execution draws a random byte. -/
def Execution.draws (execution : Execution) : Bool :=
  decide (execution.instruction.inlet? = some .random)

/-- What an execution makes of the source of random bytes: it draws one byte or none. -/
theorem Execution.random_outcome (execution : Execution) :
    execution.outcome.1.random =
      execution.found.random.advanced ([execution].countP Execution.draws) := by
  obtain ⟨found, instruction⟩ := execution
  rw [outcome, Machine.execute_random]
  cases instruction <;> rfl

/-- An instruction that asks for a random byte completes and combines the next byte with its
mask. -/
theorem Execution.register_of_random (found : Machine) (x : Register) (mask : UInt8) :
    let execution : Execution := ⟨found, .random x mask⟩
    execution.outcome.2 = .ok .next ∧
      execution.outcome.1.register x =
        ((found.random.byteAt found.random.drawn &&& mask).toNat : Int) :=
  ⟨rfl, (Machine.register_setRegister _ x x _).trans (if_pos rfl)⟩

namespace Console

open Machine

variable {tracing : Bool} {console other : Console} {events otherEvents : List Event}

/-! ## Keys -/

/-- Events without a cycle execute nothing and change nothing of the machine but its keypad. -/
theorem sameBut_of_no_cycle (quiet : console.cycleStarts tracing events = []) :
    SameBut .keypad console.machine (console.run tracing events).1.machine := by
  induction events generalizing console with
  | nil => rfl
  | cons event rest inductionHypothesis =>
    cases event with
    | setClock reading => exact @inductionHypothesis ({ console with now := reading }) quiet
    | advanceClock seconds => exact @inductionHypothesis (console.advanceClock seconds) quiet
    | key pressed down => exact @inductionHypothesis (console.pressKey pressed down) quiet
    | step => cases quiet

/-- Before the first cycle of a run nothing is executed and nothing changes but the keypad. The
rest of the run goes on from where the cycle leads. -/
theorem run_of_first_cycle {begun : Console} {later : List Console}
    (listed : console.cycleStarts tracing events = begun :: later) :
    SameBut .keypad console.machine begun.machine ∧
      ∃ rest, (begun.step tracing).1.cycleStarts tracing rest = later ∧
        console.history tracing events = begun.history tracing (.step :: rest) ∧
        (console.run tracing events).1 = ((begun.step tracing).1.run tracing rest).1 := by
  induction events generalizing console with
  | nil => cases listed
  | cons event rest inductionHypothesis =>
    cases event with
    | setClock reading => exact @inductionHypothesis ({ console with now := reading }) listed
    | advanceClock seconds => exact @inductionHypothesis (console.advanceClock seconds) listed
    | key pressed down => exact @inductionHypothesis (console.pressKey pressed down) listed
    | step =>
      obtain ⟨rfl, others⟩ := List.cons.inj listed
      exact ⟨rfl, rest, others, rfl, rfl⟩

/-- Two consoles in which cycles begin that differ in the keypad at most, report the same, and
leave machines that differ in the keypad at most. -/
structure SameButKeys (tracing : Bool) (console other : Console) : Prop where
  before : SameBut .keypad console.machine other.machine
  report : (other.step tracing).2 = (console.step tracing).2
  after : SameBut .keypad (console.step tracing).1.machine (other.step tracing).1.machine

/-- A machine that runs goes on running after a cycle that executes no instruction that waits for a
key. -/
theorem runs_after_step (runs : console.machine.awaiting = none)
    (notAwait : ∀ execution, console.execution? .step = some execution →
      ∀ x, execution.instruction ≠ .awaitKey x) :
    (console.step tracing).1.machine.awaiting = none := by
  have kept {word : Word} {instruction : Instruction}
      (due : console.machine.isThrottled console.now = false)
      (fetched : console.machine.fetch = .ok word)
      (recognised : Instruction.ofWord? word = some instruction) :
      ((console.machine.opened console.now).execute instruction).1.awaiting = none :=
    ((console.machine.opened console.now).execute_awaiting
      (notAwait _ (execution?_of_recognised due runs fetched recognised))).trans runs
  have cycle := console.step_cycle tracing
  generalize (console.step tracing).2.result = result at cycle
  generalize (console.step tracing).1.machine = after at cycle ⊢
  cases cycle with
  | throttled early => exact runs
  | polled register due waits => exact absurd (runs.symm.trans waits) nofun
  | unfetched fault due _ unread => exact runs
  | unknown word due _ fetched unrecognised => exact runs
  | refused word instruction fault due _ fetched recognised refusal =>
    exact kept due fetched recognised
  | completed word instruction flow due _ fetched recognised completion =>
    exact kept due fetched recognised

/-- Two runs whose cycles meet the same readings, and whose machines differ in the keypad at most,
have the same cycles but for the keypad, whatever keys are pressed and let go in either of them.
The first run must not wait for a key nor execute an instruction that looks at the keypad.

Proof: by induction on the cycles of the first run. -/
theorem run_sameButKeys (runs : console.machine.awaiting = none)
    (alike : SameBut .keypad console.machine other.machine)
    (sameReadings : other.readings tracing otherEvents = console.readings tracing events)
    (blind : ∀ execution ∈ console.history tracing events,
      execution.instruction.inlet? ≠ some .keypad) :
    List.Forall₂ (SameButKeys tracing) (console.cycleStarts tracing events)
        (other.cycleStarts tracing otherEvents) ∧
      SameBut .keypad (console.run tracing events).1.machine
        (other.run tracing otherEvents).1.machine := by
  generalize starting : console.cycleStarts tracing events = starts
  generalize otherStarting : other.cycleStarts tracing otherEvents = otherStarts
  unfold readings at sameReadings
  rw [starting, otherStarting] at sameReadings
  induction starts generalizing console other events otherEvents otherStarts with
  | nil =>
    obtain rfl := List.map_eq_nil_iff.mp sameReadings
    exact ⟨.nil, (sameBut_of_no_cycle starting).symm.trans
      (alike.trans (sameBut_of_no_cycle otherStarting))⟩
  | cons begun later inductionHypothesis =>
    obtain ⟨otherBegun, otherLater, rfl, now, laterReadings⟩ := List.map_eq_cons_iff.mp sameReadings
    obtain ⟨reached, rest, laterStarts, history, final⟩ := run_of_first_cycle starting
    obtain ⟨otherReached, otherRest, otherLaterStarts, _, otherFinal⟩ :=
      run_of_first_cycle otherStarting
    have begunAlike := reached.symm.trans (alike.trans otherReached)
    have begunRuns : begun.machine.awaiting = none := reached.awaiting.trans runs
    rw [history, history_step] at blind
    have blindNow (execution : Execution) (executes : begun.execution? .step = some execution) :
        execution.instruction.inlet? ≠ some .keypad :=
      blind execution (List.mem_append_left _ (Option.mem_toList.mpr executes))
    obtain ⟨report, left⟩ := step_sameBut now begunAlike tracing (fun _ => begunRuns)
      fun execution executes => execution.ignores_of_inlet? (blindNow execution executes)
    have stillRuns : (begun.step tracing).1.machine.awaiting = none :=
      runs_after_step begunRuns fun execution executes x same =>
        blindNow execution executes (congrArg Instruction.inlet? same)
    obtain ⟨others, finalAlike⟩ := inductionHypothesis stillRuns left
      (fun execution member => blind execution (List.mem_append_right _ member))
      laterStarts otherLater laterReadings otherLaterStarts
    rw [final, otherFinal]
    exact ⟨.cons ⟨begunAlike, report, left⟩ others, finalAlike⟩

/-! ## Random bytes -/

/-- An event draws a random byte if it executes an instruction that asks for one, and none
otherwise. -/
theorem random_react (tracing : Bool) (console : Console) (event : Event) :
    (console.react tracing event).1.machine.random =
      console.machine.random.advanced
        ((console.execution? event).toList.countP Execution.draws) := by
  rcases console.part_react Machine.random (fun _ _ _ _ _ _ _ _ => rfl) tracing event with
    ⟨nothing, same⟩ | ⟨execution, executes, found, left⟩
  · rw [same, nothing]
    rfl
  · rw [left, executes, execution.random_outcome, found]
    rfl

/-- A run draws as many random bytes as it executes instructions that ask for one. -/
theorem random_run (tracing : Bool) (console : Console) (events : List Event) :
    (console.run tracing events).1.machine.random =
      console.machine.random.advanced
        ((console.history tracing events).countP Execution.draws) := by
  induction events generalizing console with
  | nil => rfl
  | cons event rest inductionHypothesis =>
    rw [history, List.countP_append, ← RandomSource.advanced_advanced, ← random_react]
    exact inductionHypothesis (console.react tracing event).1

/-- What a run executes finds as many random bytes drawn as were asked for before. -/
theorem random_found {front later : List Execution} {execution : Execution}
    (split : console.history tracing events = front ++ execution :: later) :
    execution.found.random =
      console.machine.random.advanced (front.countP Execution.draws) := by
  induction events generalizing console front with
  | nil => exact absurd split.symm (List.append_ne_nil_of_right_ne_nil front nofun)
  | cons event rest inductionHypothesis =>
    have after := console.random_react tracing event
    rw [history] at split
    cases executes : console.execution? event with
    | none =>
      rw [executes] at split after
      rw [inductionHypothesis split, after]
      rfl
    | some first =>
      rw [executes] at split after
      cases front with
      | nil =>
        obtain ⟨rfl, _⟩ := List.cons.inj split
        rw [found_of_execution? executes]
        rfl
      | cons second others =>
        obtain ⟨rfl, rest⟩ := List.cons.inj split
        rw [inductionHypothesis rest, after, RandomSource.advanced_advanced,
          ← List.singleton_append, List.countP_append]
        rfl

/-- In a run that asks for no random byte it does not matter which bytes there are: with another
source the cycles report the same, the console is the same but for the source, and no byte is drawn
from it. -/
theorem run_withRandom (blind : ∀ execution ∈ console.history tracing events,
      execution.instruction.inlet? ≠ some .random) (random : RandomSource) :
    let replaced := { console with machine := { console.machine with random := random } }
    let reached := (console.run tracing events).1
    (replaced.run tracing events).2 = (console.run tracing events).2 ∧
      (replaced.run tracing events).1 =
        { reached with machine := { reached.machine with random := random } } := by
  intro replaced reached
  obtain ⟨reports, executed, now, alike⟩ := @run_sameBut .random nofun console replaced rfl rfl
    tracing events fun execution member => execution.ignores_of_inlet? (blind execution member)
  have noDraw : (replaced.history tracing events).countP Execution.draws = 0 := by
    rw [List.countP_eq_zero]
    intro execution member draws
    have listed := List.mem_map_of_mem (f := Execution.instruction) member
    rw [executed] at listed
    obtain ⟨original, originalMember, same⟩ := List.mem_map.mp listed
    exact blind original originalMember (same ▸ of_decide_eq_true draws)
  have undrawn : (replaced.run tracing events).1.machine.random = random := by
    rw [random_run, noDraw]
    rfl
  have machine : (replaced.run tracing events).1.machine =
      { reached.machine with random := random } :=
    Eq.trans alike (congrArg (fun source => { reached.machine with random := source }) undrawn)
  exact ⟨reports, congrArg₂ Console.mk machine now⟩

/-- What is outside of a program reaches it only where the program asks for it.

If a run begins with a machine that does not wait, and executes no instruction that looks at the
keypad, then any run from a machine that differs in the keypad at most, whose cycles meet the same
readings, has the same cycles but for the keypad, whatever keys are pressed and let go in either
run. If a run executes no instruction that asks for a random byte, then it goes the same way with
any other source of random bytes. Every run draws as many random bytes as it executes instructions
that ask for one, and each of them loads the next byte, as far as its mask keeps it. -/
theorem outside_reaches_by_asking (console : Console) (tracing : Bool) (events : List Event) :
    let history := console.history tracing events
    (console.machine.awaiting = none →
      (∀ execution ∈ history, execution.instruction.inlet? ≠ some .keypad) →
      ∀ (other : Console) (otherEvents : List Event),
        SameBut .keypad console.machine other.machine →
        other.readings tracing otherEvents = console.readings tracing events →
        List.Forall₂ (SameButKeys tracing) (console.cycleStarts tracing events)
            (other.cycleStarts tracing otherEvents) ∧
          SameBut .keypad (console.run tracing events).1.machine
            (other.run tracing otherEvents).1.machine) ∧
    ((∀ execution ∈ history, execution.instruction.inlet? ≠ some .random) →
      ∀ (random : RandomSource) (front : List Event), front <+: events →
        let replaced := { console with machine := { console.machine with random := random } }
        let reached := (console.run tracing front).1
        (replaced.run tracing front).2 = (console.run tracing front).2 ∧
          (replaced.run tracing front).1 =
            { reached with machine := { reached.machine with random := random } }) ∧
    (console.run tracing events).1.machine.random =
      console.machine.random.advanced (history.countP Execution.draws) ∧
    ∀ (front later : List Execution) (execution : Execution) (x : Register) (mask : UInt8),
      history = front ++ execution :: later → execution.instruction = .random x mask →
      let position := console.machine.random.drawn + front.countP Execution.draws
      execution.outcome.2 = .ok .next ∧
        execution.outcome.1.register x =
          ((console.machine.random.byteAt position &&& mask).toNat : Int) := by
  intro history
  refine ⟨?_, ?_, random_run tracing console events, ?_⟩
  · intro runs blind other otherEvents alike sameReadings
    exact run_sameButKeys runs alike sameReadings blind
  · intro blind random front isFront
    exact run_withRandom
      (fun execution member => blind execution (mem_history_of_beginning isFront member)) random
  · rintro front later ⟨found, _⟩ x mask split rfl position
    have source := random_found split
    have law := Execution.register_of_random found x mask
    rw [source] at law
    exact law

/-- Two programs. The first one asks for a random byte and clears the display. It does so in the
same way whatever keys are pressed and however the clock comes to stand where it does, and it loads
the low digit of the first byte. The second one looks at the keypad, and does so in the same way
with other random bytes. -/
theorem outside_reaches_by_asking_of_random_first :
    (∃ machine, Machine.boot [0xC1, 0x0F, 0x00, 0xE0] 0 (.cycling #[0xAB]) false = .ok machine ∧
      let start : Console := ⟨machine, 0⟩
      let events := [.key 3 true, .step, .setClock 0.002, .step]
      let otherEvents := [.step, .key 5 true, .advanceClock 7, .setClock 0.002, .step]
      SameBut .keypad (start.run false events).1.machine (start.run false otherEvents).1.machine ∧
      (start.run false events).1.machine.random = machine.random.advanced 1 ∧
      ∃ execution ∈ start.history false events, execution.outcome.1.register 1 = 0x0B) ∧
    ∃ machine, Machine.boot [0xE1, 0x9E] 0 (.cycling #[1]) false = .ok machine ∧
      let replaced := { machine with random := .cycling #[2, 3] }
      ((⟨replaced, 0⟩ : Console).run false [.key 0 true, .step]).2 =
        ((⟨machine, 0⟩ : Console).run false [.key 0 true, .step]).2 := by
  constructor
  · obtain ⟨machine, started, runs, blind, readings, otherReadings, executed, count,
        byte⟩ :
        ∃ machine, Machine.boot [0xC1, 0x0F, 0x00, 0xE0] 0 (.cycling #[0xAB]) false =
            .ok machine ∧
          let start : Console := ⟨machine, 0⟩
          let events := [.key 3 true, .step, .setClock 0.002, .step]
          machine.awaiting = none ∧
          (∀ execution ∈ start.history false events,
            execution.instruction.inlet? ≠ some .keypad) ∧
          start.readings false events = [0, 0.002] ∧
          start.readings false [.step, .key 5 true, .advanceClock 7, .setClock 0.002, .step] =
            [0, 0.002] ∧
          (start.history false events).map Execution.instruction =
            [.random 1 0x0F, .clearDisplay] ∧
          (start.history false events).countP Execution.draws = 1 ∧
          machine.random.byteAt (machine.random.drawn + 0) &&& 0x0F = 0x0B :=
      ⟨_, (Machine.boot_eq_ok_iff _ 0 (.cycling #[0xAB]) false _).mpr ⟨by decide, rfl⟩, rfl,
        by decide +kernel, rfl, rfl, by decide +kernel, by decide +kernel, by decide +kernel⟩
    obtain ⟨keys, -, draws, bytes⟩ := outside_reaches_by_asking ⟨machine, 0⟩ false
      [.key 3 true, .step, .setClock 0.002, .step]
    obtain ⟨execution, later, split, asks, others⟩ := List.map_eq_cons_iff.mp executed
    have first : execution ∈ (⟨machine, 0⟩ : Console).history false
        [.key 3 true, .step, .setClock 0.002, .step] := split ▸ List.mem_cons_self
    have loaded := (bytes [] later execution 1 0x0F split asks).2
    rw [List.countP_nil, byte] at loaded
    have alike := (keys runs blind ⟨machine, 0⟩ _ rfl (otherReadings.trans readings.symm)).2
    rw [count] at draws
    exact ⟨machine, started, alike, draws, execution, first, loaded⟩
  · obtain ⟨machine, started, blind⟩ :
        ∃ machine, Machine.boot [0xE1, 0x9E] 0 (.cycling #[1]) false = .ok machine ∧
          ∀ execution ∈ (⟨machine, 0⟩ : Console).history false [.key 0 true, .step],
            execution.instruction.inlet? ≠ some .random :=
      ⟨_, (Machine.boot_eq_ok_iff _ 0 (.cycling #[1]) false _).mpr ⟨by decide, rfl⟩,
        by decide +kernel⟩
    obtain ⟨-, random, -⟩ :=
      outside_reaches_by_asking ⟨machine, 0⟩ false [.key 0 true, .step]
    exact ⟨machine, started, (random blind (.cycling #[2, 3]) _ (List.prefix_refl _)).1⟩

end Console

end ChipEight
