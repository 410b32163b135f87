import ChipEight.Proofs.Ranges

/-!
# Keeping time

What a cycle does with the reading of the clock depends on the readings alone: whether the cycle
comes too early, and whether the timers take a step. Two machines that were started at the same
reading, and whose cycles meet the same readings and do not fail, are in step for ever, whatever
their programs and keys. `schedule` computes this from the readings; all that it asks about them is
how they compare with the reading of the last cycle and of the last step of the timers.

Between two instructions that set it, a timer counts those steps down and nothing else. A step comes
after the instruction of its cycle, so that the cycle that sets a timer may already lower it.
-/

namespace ChipEight

/-- Whether a cycle came too early. -/
def CycleReport.isEarly (report : CycleReport) : Bool :=
  match report.result with
  | .ok none => true
  | _ => false

/-- What a cycle does with the reading of the clock. -/
structure Beat where
  /-- The cycle comes too early. -/
  early : Bool
  /-- The timers take a step. -/
  ticks : Bool
  deriving DecidableEq, Repr

/-- What cycles do with readings one after the other. Of the readings it is only known how they
compare: whether one is too soon after that of the last cycle, and whether the timers still rest at
one since their last step. -/
def schedule {Reading : Type} (tooSoon resting : Reading → Reading → Bool)
    (lastCycle : Option Reading) (lastTick : Reading) : List Reading → List Beat
  | [] => []
  | now :: rest =>
    let early := lastCycle.any (tooSoon now)
    let ticks := !resting now lastTick
    ⟨early, ticks⟩ ::
      schedule tooSoon resting (if early then lastCycle else some now)
        (if ticks then now else lastTick) rest

/-- One of the two timers. -/
inductive Countdown where
  | delay
  | sound
  deriving DecidableEq, Repr

namespace Countdown

/-- Where a timer stands. -/
def count (timers : Timers) : Countdown → Int
  | delay => timers.delay
  | sound => timers.sound

/-- What an execution puts into a timer, if its instruction is the one that sets the timer. -/
def stored? (which : Countdown) (execution : Execution) : Option Int :=
  match which, execution.instruction with
  | .delay, .setDelay x => some (execution.found.register x)
  | .sound, .setSound x => some (execution.found.register x)
  | _, _ => none

/-- An execution leaves a timer where it stood, or at what it put into it. -/
theorem count_outcome (which : Countdown) (execution : Execution) :
    which.count execution.outcome.1.timers =
      (which.stored? execution).getD (which.count execution.found.timers) := by
  obtain ⟨found, instruction⟩ := execution
  rw [Execution.outcome, Machine.execute_timers]
  cases which with
  | delay => cases instruction with
    | setDelay x => rfl
    | _ => rfl
  | sound => cases instruction with
    | setSound x => rfl
    | _ => rfl

/-- A step of the timers lowers each of them. -/
theorem count_tick (which : Countdown) (timers : Timers) (now : Seconds) :
    which.count (timers.tick now).1 =
      if (timers.tick now).2 then Timers.lowered (which.count timers) else which.count timers := by
  unfold Timers.tick
  split
  · cases which <;> rfl
  · rfl

end Countdown

/-- A count that is not negative stays so, lowered or not. -/
theorem Timers.settled_nonneg {count : Int} (nonneg : 0 ≤ count) (ticks : Bool) :
    0 ≤ if ticks then lowered count else count := by
  cases ticks with
  | false => exact nonneg
  | true => exact lowered_nonneg nonneg

/-- Lowering a count and taking further steps off it is taking all the steps off it. -/
theorem Timers.settled_sub {count : Int} (nonneg : 0 ≤ count) (ticks : Bool) (steps : Nat) :
    max 0 ((if ticks then lowered count else count) - steps) =
      max 0 (count - ((steps + if ticks then 1 else 0 : Nat) : Int)) := by
  cases ticks with
  | false => rfl
  | true =>
    simp only [if_true, lowered]
    split <;> omega

/-- The timers take a step exactly if they are due. -/
theorem Timers.tick_snd (timers : Timers) (now : Seconds) :
    (timers.tick now).2 = timers.isDue now := by
  unfold Timers.tick
  split
  · rename_i due
    exact due.symm
  · rename_i rests
    exact (Bool.eq_false_iff.mpr rests).symm

/-- A step of the timers is the last one afterwards. Their period stays. -/
theorem Timers.reference_tick (timers : Timers) (now : Seconds) :
    (timers.tick now).1.lastTick = (if timers.isDue now then now else timers.lastTick) ∧
      (timers.tick now).1.period = timers.period := by
  unfold Timers.tick
  split
  · exact ⟨rfl, rfl⟩
  · exact ⟨rfl, rfl⟩

/-- An execution touches neither the reading of the last step of the timers nor their period. -/
theorem Execution.reference_outcome (execution : Execution) :
    execution.outcome.1.timers.lastTick = execution.found.timers.lastTick ∧
      execution.outcome.1.timers.period = execution.found.timers.period := by
  obtain ⟨found, instruction⟩ := execution
  rw [Execution.outcome, Machine.execute_timers]
  cases instruction <;> exact ⟨rfl, rfl⟩

namespace Machine

/-- The timers to which a cycle offers its reading: those that its execution leaves, if it executes
anything. -/
def timersOffered (machine : Machine) (now : Seconds) : Timers :=
  match machine.execution? now with
  | none => machine.timers
  | some execution => execution.outcome.1.timers

/-- These timers rest since the same reading as before the cycle. -/
theorem reference_timersOffered (machine : Machine) (now : Seconds) :
    (machine.timersOffered now).lastTick = machine.timers.lastTick ∧
      (machine.timersOffered now).period = machine.timers.period := by
  unfold timersOffered
  cases executes : machine.execution? now with
  | none => exact ⟨rfl, rfl⟩
  | some execution =>
    have law := execution.reference_outcome
    rw [(Cycle.of_execution? executes).2.2.1] at law
    exact law

/-- They stand where they stood before the cycle, or at what the cycle put into them. -/
theorem count_timersOffered (which : Countdown) (machine : Machine) (now : Seconds) :
    which.count (machine.timersOffered now) =
      ((machine.execution? now).bind which.stored?).getD (which.count machine.timers) := by
  unfold timersOffered
  cases executes : machine.execution? now with
  | none => rfl
  | some execution =>
    have law := which.count_outcome execution
    have found : execution.found.timers = machine.timers := by
      rw [(Cycle.of_execution? executes).2.2.1]
      rfl
    rw [found] at law
    exact law

/-- They are due exactly if they were due before the cycle. -/
theorem isDue_timersOffered (machine : Machine) (now : Seconds) :
    (machine.timersOffered now).isDue now = machine.timers.isDue now := by
  obtain ⟨lastTick, period⟩ := machine.reference_timersOffered now
  rw [Timers.isDue, lastTick, period, Timers.isDue]

/-- A cycle that does not fail offers its reading to the timers, once and at its end. -/
theorem Cycle.timers_of_isOk {machine after : Machine} {now : Seconds}
    {result : Except MachineError (Option Flow)} (cycle : Cycle machine now after result)
    (completed : result.isOk = true) : after.timers = ((machine.timersOffered now).tick now).1 := by
  unfold timersOffered
  cases cycle with
  | throttled early =>
    rw [execution?_of_early early]
    rfl
  | polled register due waits =>
    rw [execution?_of_waits waits, pollKeypad_frame]
    rfl
  | unfetched fault due runs unread => cases completed
  | unknown word due runs fetched unrecognised => cases completed
  | refused word instruction fault due runs fetched recognised refusal => cases completed
  | completed word instruction flow due runs fetched recognised completion =>
    rw [execution?_of_recognised due runs fetched recognised]
    rfl

/-- A cycle comes too early exactly if there was one before and the least time between two cycles
has not passed since. -/
theorem isThrottled_eq (machine : Machine) (now : Seconds) :
    machine.isThrottled now = machine.lastCycle.any fun last => now - last < cyclePeriod := by
  unfold isThrottled
  cases machine.lastCycle with
  | none => rfl
  | some last => rfl

/-- A cycle is the last one afterwards, unless it came too early. -/
theorem Cycle.lastCycle_eq {machine after : Machine} {now : Seconds}
    {result : Except MachineError (Option Flow)} (cycle : Cycle machine now after result) :
    after.lastCycle = if machine.isThrottled now then machine.lastCycle else some now := by
  have kept (instruction : Instruction) :
      ((machine.opened now).execute instruction).1.lastCycle = some now := by
    rw [execute_frame]
    rfl
  cases cycle with
  | throttled early =>
    rw [if_pos early]
    rfl
  | polled register due waits =>
    rw [due, pollKeypad_frame]
    rfl
  | unfetched fault due runs unread =>
    rw [due]
    rfl
  | unknown word due runs fetched unrecognised =>
    rw [due]
    rfl
  | refused word instruction fault due runs fetched recognised refusal =>
    rw [due]
    exact kept instruction
  | completed word instruction flow due runs fetched recognised completion =>
    rw [due]
    exact kept instruction

end Machine

namespace Console

variable (tracing : Bool) (console : Console)

/-- Whether the timers take a step in a cycle. A cycle that fails does not come to that. -/
def ticks : Bool :=
  (console.step tracing).2.result.isOk &&
    ((console.machine.timersOffered console.now).tick console.now).2

/-- What a cycle does with the reading of the clock. -/
def beat : Beat := ⟨(console.step tracing).2.isEarly, console.ticks tracing⟩

/-- What a cycle puts into a timer, if it executes the instruction that sets the timer. -/
def stores? (which : Countdown) : Option Int := (console.execution? .step).bind which.stored?

/-- No cycle of a run fails. -/
def Completes (events : List Event) : Prop :=
  ∀ report ∈ (console.run tracing events).2, report.result.isOk = true

instance (events : List Event) : Decidable (console.Completes tracing events) :=
  inferInstanceAs (Decidable (∀ report ∈ (console.run tracing events).2, _))

/-- A cycle answers nothing exactly if it comes too early. -/
theorem isEarly_step :
    (console.step tracing).2.isEarly = console.machine.isThrottled console.now := by
  have cycle := console.step_cycle tracing
  unfold CycleReport.isEarly
  generalize (console.step tracing).2.result = result at cycle ⊢
  generalize (console.step tracing).1.machine = after at cycle
  cases cycle with
  | throttled early => exact early.symm
  | polled register due waits => exact due.symm
  | unfetched fault due runs unread => exact due.symm
  | unknown word due runs fetched unrecognised => exact due.symm
  | refused word instruction fault due runs fetched recognised refusal => exact due.symm
  | completed word instruction flow due runs fetched recognised completion => exact due.symm

/-- A run that begins with a cycle completes if the cycle does and what follows it does. -/
theorem completes_step_iff (rest : List Event) :
    console.Completes tracing (.step :: rest) ↔ (console.step tracing).2.result.isOk = true ∧
      (console.step tracing).1.Completes tracing rest := by
  unfold Completes
  change (∀ report ∈
    (console.step tracing).2 :: ((console.step tracing).1.run tracing rest).2, _) ↔ _
  exact List.forall_mem_cons

/-- What a cycle that does not fail does with the reading. -/
theorem beat_of_isOk (completed : (console.step tracing).2.result.isOk = true) :
    console.beat tracing =
      ⟨console.machine.isThrottled console.now, console.machine.timers.isDue console.now⟩ := by
  rw [beat, isEarly_step, ticks, completed, Bool.true_and, Timers.tick_snd,
    Machine.isDue_timersOffered]

/-- What a cycle that does not fail leaves of the timers' reference. -/
theorem reference_step (completed : (console.step tracing).2.result.isOk = true) :
    (console.step tracing).1.machine.timers.lastTick =
        (if console.machine.timers.isDue console.now then console.now
          else console.machine.timers.lastTick) ∧
      (console.step tracing).1.machine.timers.period = console.machine.timers.period := by
  obtain ⟨lastTick, period⟩ := console.machine.reference_timersOffered console.now
  have reference := (console.machine.timersOffered console.now).reference_tick console.now
  rw [Machine.isDue_timersOffered, lastTick, period] at reference
  rw [(console.step_cycle tracing).timers_of_isOk completed]
  exact reference

/-- The readings that the cycles of a run meet. -/
def readings (events : List Event) : List Seconds :=
  (console.cycleStarts tracing events).map (·.now)

/-- What the cycles of a run do with them. -/
def beats (events : List Event) : List Beat :=
  (console.cycleStarts tracing events).map (·.beat tracing)

variable {tracing console}

/-- In a run that completes, the cycles do with the readings what the schedule says.

Proof: by induction on the events. Only cycles touch the reading of the last cycle and that of the
last step of the timers, and each does so as the schedule does. -/
theorem beats_eq_schedule {events : List Event}
    (standard : console.machine.timers.period = Timers.standardPeriod)
    (completes : console.Completes tracing events) :
    console.beats tracing events = schedule (fun now last => now - last < cyclePeriod)
      (fun now last => now - last < Timers.standardPeriod) console.machine.lastCycle
      console.machine.timers.lastTick (console.readings tracing events) := by
  induction events generalizing console with
  | nil => rfl
  | cons event rest inductionHypothesis =>
    cases event with
    | setClock reading => exact inductionHypothesis standard completes
    | advanceClock seconds => exact inductionHypothesis standard completes
    | key pressed down => exact inductionHypothesis standard completes
    | step =>
      obtain ⟨completed, restCompletes⟩ := (console.completes_step_iff tracing rest).mp completes
      obtain ⟨lastTick, period⟩ := console.reference_step tracing completed
      have early := console.machine.isThrottled_eq console.now
      have due : console.machine.timers.isDue console.now =
          !(console.now - console.machine.timers.lastTick < Timers.standardPeriod) := by
        rw [Timers.isDue, standard]
      have others := inductionHypothesis (period.trans standard) restCompletes
      rw [(console.step_cycle tracing).lastCycle_eq, lastTick, early, due] at others
      change console.beat tracing :: (console.step tracing).1.beats tracing rest =
        schedule _ _ _ _ (console.now :: (console.step tracing).1.readings tracing rest)
      rw [console.beat_of_isOk tracing completed, others, early, due]
      rfl

/-! ## Counting down -/

/-- What a cycle that does not fail makes of a timer: what it puts into the timer counts instead of
where the timer stood, and then a step of the timers may lower it. -/
theorem count_step (which : Countdown) (completed : (console.step tracing).2.result.isOk = true) :
    which.count (console.step tracing).1.machine.timers =
      if console.ticks tracing then
        Timers.lowered ((console.stores? which).getD (which.count console.machine.timers))
      else (console.stores? which).getD (which.count console.machine.timers) := by
  rw [(console.step_cycle tracing).timers_of_isOk completed, Countdown.count_tick,
    Machine.count_timersOffered, ticks, completed, Bool.true_and]
  rfl

/-- A timer that is not negative comes down by one with each step of the timers, until it has run
out.

Proof: by induction on the events, among which only the cycles matter. -/
theorem count_run (which : Countdown) {events : List Event}
    (nonneg : 0 ≤ which.count console.machine.timers)
    (completes : console.Completes tracing events)
    (kept : ∀ begun ∈ console.cycleStarts tracing events, begun.stores? which = none) :
    which.count (console.run tracing events).1.machine.timers =
      max 0 (which.count console.machine.timers -
        (console.cycleStarts tracing events).countP (·.ticks tracing)) := by
  induction events generalizing console with
  | nil =>
    change which.count console.machine.timers = max 0 (which.count console.machine.timers - 0)
    omega
  | cons event rest inductionHypothesis =>
    cases event with
    | setClock reading => exact inductionHypothesis nonneg completes kept
    | advanceClock seconds => exact inductionHypothesis nonneg completes kept
    | key pressed down => exact inductionHypothesis nonneg completes kept
    | step =>
      obtain ⟨completed, restCompletes⟩ := (console.completes_step_iff tracing rest).mp completes
      obtain ⟨keptFirst, keptRest⟩ := List.forall_mem_cons.mp kept
      have first := count_step which completed
      rw [keptFirst, Option.getD_none] at first
      have settled := Timers.settled_nonneg nonneg (console.ticks tracing)
      have others := inductionHypothesis (first ▸ settled) restCompletes keptRest
      rw [first, Timers.settled_sub nonneg, ← List.countP_cons] at others
      exact others

/-- What a cycle of a reachable console puts into a timer is a byte. -/
theorem Reachable.isByte_of_stores? (reachable : Reachable console) {which : Countdown}
    {value : Int} (stores : console.stores? which = some value) : IsByte value := by
  obtain ⟨execution, executes, stored⟩ := Option.bind_eq_some_iff.mp stores
  have bytes (x : Register) : IsByte (execution.found.register x) :=
    (reachable.inRange_found executes).registers x
  unfold Countdown.stored? at stored
  split at stored
  · exact Option.some.inj stored ▸ bytes _
  · exact Option.some.inj stored ▸ bytes _
  · cases stored

/-- A timer stands at what was last put into it, less the steps of the timers since, those of the
same cycle included.

Proof: by induction on the events up to the cycle that sets the timer. From there on it counts
down. -/
theorem count_since_store (which : Countdown) (reachable : Reachable console)
    {events : List Event} (completes : console.Completes tracing events)
    {front later : List Console} {begun : Console}
    (listed : console.cycleStarts tracing events = front ++ begun :: later) {value : Int}
    (stores : begun.stores? which = some value)
    (kept : ∀ other ∈ later, other.stores? which = none) :
    which.count (console.run tracing events).1.machine.timers =
      max 0 (value - (begun :: later).countP (·.ticks tracing)) := by
  induction events generalizing console front with
  | nil => exact absurd listed.symm (List.append_ne_nil_of_right_ne_nil front nofun)
  | cons event rest inductionHypothesis =>
    have next := reachable.react tracing event
    cases event with
    | setClock reading => exact inductionHypothesis next completes listed
    | advanceClock seconds => exact inductionHypothesis next completes listed
    | key pressed down => exact inductionHypothesis next completes listed
    | step =>
      obtain ⟨completed, restCompletes⟩ := (console.completes_step_iff tracing rest).mp completes
      cases front with
      | cons first others =>
        exact inductionHypothesis next restCompletes (List.cons.inj listed).2
      | nil =>
        -- The cycle that sets the timer is this one.
        obtain ⟨rfl, rfl⟩ := List.cons.inj listed
        have nonneg := (reachable.isByte_of_stores? stores).1
        have first := count_step which completed
        rw [stores, Option.getD_some] at first
        have settled := Timers.settled_nonneg nonneg (console.ticks tracing)
        have others := count_run which (first ▸ settled) restCompletes kept
        rw [first, Timers.settled_sub nonneg, ← List.countP_cons] at others
        exact others

/-- The instruction that reads the delay timer loads where it stood when the cycle began. -/
theorem register_of_readDelay {execution : Execution} {y : Register}
    (executes : console.execution? .step = some execution)
    (reads : execution.instruction = .readDelay y) :
    (console.step tracing).1.machine.register y = console.machine.timers.delay := by
  obtain ⟨found, _⟩ := execution
  obtain rfl : found = console.machine.opened console.now := found_of_execution? executes
  subst reads
  obtain ⟨flow, _, _, left⟩ := (console.step_cycle tracing).of_isCompleted executes rfl
  rw [left]
  exact (Machine.register_setRegister _ y y _).trans (if_pos rfl)

/-- Time is kept by the clock alone. Two machines that were started at the same reading, and whose
cycles meet the same readings and do not fail, have the same cycles too early and the same steps of
the timers, and both are told by comparing the readings. Each timer stands at what was last put into
it less the steps of the timers since then, and at zero if nothing was put into it. The instruction
that reads the delay timer loads just that.

Proof: both runs follow the schedule from the same beginning. The two timers are counted down
between the cycles that set them. -/
theorem timers_follow_clock {program otherProgram : List UInt8} {now : Seconds}
    {random otherRandom : RandomSource} {shiftInPlace otherShiftInPlace : Bool}
    {machine otherMachine : Machine}
    (started : Machine.boot program now random shiftInPlace = .ok machine)
    (otherStarted : Machine.boot otherProgram now otherRandom otherShiftInPlace = .ok otherMachine)
    {tracing otherTracing : Bool} {events otherEvents : List Event}
    (completes : (⟨machine, now⟩ : Console).Completes tracing events)
    (otherCompletes : (⟨otherMachine, now⟩ : Console).Completes otherTracing otherEvents)
    (sameReadings : (⟨machine, now⟩ : Console).readings tracing events =
      (⟨otherMachine, now⟩ : Console).readings otherTracing otherEvents) :
    let start : Console := ⟨machine, now⟩
    let cycles := start.cycleStarts tracing events
    let reached := (start.run tracing events).1
    (start.beats tracing events =
        (⟨otherMachine, now⟩ : Console).beats otherTracing otherEvents ∧
      start.beats tracing events = schedule (fun now last => now - last < cyclePeriod)
        (fun now last => now - last < Timers.standardPeriod) none now
        (start.readings tracing events)) ∧
    (∀ which : Countdown,
      ((∀ begun ∈ cycles, begun.stores? which = none) →
        which.count reached.machine.timers = 0) ∧
      ∀ (front later : List Console) (begun : Console) (value : Int),
        cycles = front ++ begun :: later → begun.stores? which = some value →
        (∀ other ∈ later, other.stores? which = none) →
        which.count reached.machine.timers =
          max 0 (value - (begun :: later).countP (·.ticks tracing))) ∧
    ∀ execution y, reached.execution? .step = some execution →
      execution.instruction = .readDelay y →
      (reached.step tracing).1.machine.register y = reached.machine.timers.delay := by
  intro start cycles reached
  have reachable : Reachable start := .booted started
  obtain ⟨_, rfl⟩ := (Machine.boot_eq_ok_iff ..).mp started
  obtain ⟨_, rfl⟩ := (Machine.boot_eq_ok_iff ..).mp otherStarted
  have scheduled := beats_eq_schedule rfl completes
  have otherScheduled := beats_eq_schedule rfl otherCompletes
  refine ⟨⟨?_, scheduled⟩, ?_, fun execution y => register_of_readDelay⟩
  · rw [scheduled, otherScheduled, sameReadings]
    rfl
  · intro which
    constructor
    · intro kept
      have zero : which.count start.machine.timers = 0 := by cases which <;> rfl
      have counted := count_run which (Int.le_of_eq zero.symm) completes kept
      rw [zero] at counted
      exact counted.trans (by omega)
    · intro front later begun value listed stores kept
      exact count_since_store which reachable completes listed stores kept

/-- Two programs at the same readings. The one sets its delay timer to three in its second cycle,
the other waits for a key and gets one then. In both the timers step in that cycle, so that the
first program's timer is down to two at once, and the third cycle comes too early. -/
theorem timers_follow_clock_of_countdown :
    ∃ machine otherMachine,
      Machine.boot [0x60, 0x03, 0xF0, 0x15] 0 (.cycling #[]) false = .ok machine ∧
      Machine.boot [0xF1, 0x0A] 0 (.cycling #[7]) true = .ok otherMachine ∧
      (⟨machine, 0⟩ : Console).beats false
          [.step, .setClock 0.02, .step, .setClock 0.0205, .step] =
        (⟨otherMachine, 0⟩ : Console).beats true
          [.step, .key 4 true, .setClock 0.02, .step, .setClock 0.0205, .step] ∧
      ((⟨machine, 0⟩ : Console).run false
        [.step, .setClock 0.02, .step, .setClock 0.0205, .step]).1.machine.timers.delay = 2 := by
  obtain ⟨machine, started, completes, front, later, begun, listed, stores, kept, steps⟩ :
      ∃ machine, Machine.boot [0x60, 0x03, 0xF0, 0x15] 0 (.cycling #[]) false = .ok machine ∧
        let events := [.step, .setClock 0.02, .step, .setClock 0.0205, .step]
        (⟨machine, 0⟩ : Console).Completes false events ∧ ∃ front later begun,
          (⟨machine, 0⟩ : Console).cycleStarts false events = front ++ begun :: later ∧
          begun.stores? .delay = some 3 ∧ (∀ other ∈ later, other.stores? .delay = none) ∧
          (begun :: later).countP (·.ticks false) = 1 :=
    ⟨_, (Machine.boot_eq_ok_iff _ 0 (.cycling #[]) false _).mpr ⟨by decide, rfl⟩,
      by decide +kernel, [_], [_], _, rfl, by decide +kernel, by decide +kernel,
      by decide +kernel⟩
  obtain ⟨otherMachine, otherStarted, otherCompletes, sameReadings⟩ :
      ∃ machine, Machine.boot [0xF1, 0x0A] 0 (.cycling #[7]) true = .ok machine ∧
        let events := [.step, .key 4 true, .setClock 0.02, .step, .setClock 0.0205, .step]
        (⟨machine, 0⟩ : Console).Completes true events ∧
          (⟨machine, 0⟩ : Console).readings true events = [0, 0.02, 0.0205] :=
    ⟨_, (Machine.boot_eq_ok_iff _ 0 (.cycling #[7]) true _).mpr ⟨by decide, rfl⟩,
      by decide +kernel, rfl⟩
  obtain ⟨⟨beats, _⟩, counts, _⟩ :=
    timers_follow_clock started otherStarted completes otherCompletes sameReadings.symm
  have counted := (counts .delay).2 front later begun 3 listed stores kept
  rw [steps] at counted
  exact ⟨machine, otherMachine, started, otherStarted, beats, counted⟩

end Console

end ChipEight
