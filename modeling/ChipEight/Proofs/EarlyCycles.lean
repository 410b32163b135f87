import ChipEight.Proofs.Inlets
import ChipEight.Proofs.Timekeeping

/-!
# Cycles that come too early

A cycle that comes too early offers its reading to the timers and does nothing else that lasts: it
is not the last cycle afterwards, it does not look at the keypad, and that it counts the display as
unchanged is what the next cycle does anyway. A run from which these cycles are left out therefore
goes the same way, as long as its program does not look at the delay timer: the other cycles have
the same answers, failing ones included, and leave the same machine except for its timers.

The one instruction that reads a timer is the one that could tell the two runs apart.
-/

namespace ChipEight

/-- Only one instruction looks at the timers. -/
theorem Instruction.inlet?_ne_timers {instruction : Instruction}
    (notRead : ∀ x, instruction ≠ .readDelay x) : instruction.inlet? ≠ some .timers := by
  cases instruction with
  | readDelay x => exact absurd rfl (notRead x)
  | _ => nofun

namespace Machine

/-- Two machines that differ at most in their timers and in whether the display counts as
changed. -/
def SameButTimers (machine other : Machine) : Prop :=
  other = { machine with timers := other.timers, redraw := other.redraw }

namespace SameButTimers

variable {machine other : Machine}

/-- Such machines are too early for a cycle at the same readings. -/
theorem isThrottled (alike : SameButTimers machine other) (now : Seconds) :
    other.isThrottled now = machine.isThrottled now := by
  rw [alike]
  rfl

/-- When a cycle begins they differ in their timers only. -/
theorem opened (alike : SameButTimers machine other) (now : Seconds) :
    SameBut .timers (machine.opened now) (other.opened now) := by
  rw [alike]
  rfl

/-- Machines that differ in their timers only are such machines. -/
theorem of_sameBut (alike : SameBut .timers machine other) : SameButTimers machine other := by
  obtain ⟨donor, rfl⟩ := alike.eq_exchange
  rfl

/-- A key is pressed or let go in both. -/
theorem key (alike : SameButTimers machine other) (key : Key) (down : Bool) :
    SameButTimers { machine with keypad := machine.keypad.assign key down }
      { other with keypad := other.keypad.assign key down } := by
  rw [alike]
  rfl

/-- A cycle that comes too early leaves a machine that is still like the other one. -/
theorem step_of_early (alike : SameButTimers machine other) (tracing : Bool) {now : Seconds}
    (early : machine.isThrottled now = true) :
    SameButTimers (machine.step tracing now).machine other := by
  obtain ⟨_, left⟩ := (step_cycle tracing machine now).of_early early
  rw [left]
  exact alike

/-- A due cycle does the same in both, unless it reads the delay timer: it answers and prints the
same, marks the display in the same way, and leaves machines that are still alike. -/
theorem step_of_due (alike : SameButTimers machine other) (tracing : Bool) {now : Seconds}
    (due : machine.isThrottled now = false)
    (notRead : ∀ execution, machine.execution? now = some execution →
      ∀ x, execution.instruction ≠ .readDelay x) :
    (other.step tracing now).result = (machine.step tracing now).result ∧
      (other.step tracing now).trace = (machine.step tracing now).trace ∧
      (other.step tracing now).machine.redraw = (machine.step tracing now).machine.redraw ∧
      SameButTimers (machine.step tracing now).machine (other.step tracing now).machine := by
  have acted : Attempt.SameBut .timers ((machine.opened now).act tracing)
      ((other.opened now).act tracing) := by
    refine (alike.opened now).act tracing nofun fun runs word instruction fetched recognised => ?_
    have notReadHere := notRead _ (execution?_of_recognised due runs fetched recognised)
    exact Execution.ignores_of_inlet? _ (Instruction.inlet?_ne_timers notReadHere)
  obtain ⟨result, trace, left⟩ :=
    SameBut.step_of_act due ((alike.isThrottled now).trans due) acted
  exact ⟨result, trace, left.redraw, of_sameBut left⟩

end SameButTimers

end Machine

namespace Console

variable (tracing : Bool)

/-- The events of a run without its cycles that come too early. -/
def withoutEarly (console : Console) : List Event → List Event
  | [] => []
  | event :: rest =>
    let (after, report) := console.react tracing event
    if report.any CycleReport.isEarly then after.withoutEarly rest
    else event :: after.withoutEarly rest

/-- What a cycle lets the host know: its report, and whether the display counts as changed. -/
def seen (console : Console) : CycleReport × Bool :=
  ((console.step tracing).2, (console.step tracing).1.machine.redraw)

/-- A run that begins with a cycle keeps it unless it comes too early. -/
theorem withoutEarly_step (console : Console) (rest : List Event) :
    console.withoutEarly tracing (.step :: rest) =
      if (console.step tracing).2.isEarly then (console.step tracing).1.withoutEarly tracing rest
      else .step :: (console.step tracing).1.withoutEarly tracing rest := rfl

/-- A due cycle is seen to be the same in two consoles that are alike, and leaves them alike. -/
theorem seen_of_alike {console other : Console} (now : other.now = console.now)
    (alike : console.machine.SameButTimers other.machine)
    (due : console.machine.isThrottled console.now = false)
    (notRead : ∀ execution, console.machine.execution? console.now = some execution →
      ∀ x, execution.instruction ≠ .readDelay x) :
    other.seen tracing = console.seen tracing ∧
      (console.step tracing).1.machine.SameButTimers (other.step tracing).1.machine := by
  obtain ⟨result, trace, redraw, after⟩ := alike.step_of_due tracing due notRead
  unfold seen step
  rw [now]
  refine ⟨?_, after⟩
  simp only [result, trace, redraw]

/-- The cycles that do not come too early are seen to be the same in a run and in the run without
the others, and the runs end alike.

Proof: by induction on the events. A cycle that comes too early is a cycle of the one run only, and
leaves its machine like the other one. Any other event happens in both runs. -/
theorem run_withoutEarly {console other : Console} (now : other.now = console.now)
    (alike : console.machine.SameButTimers other.machine) {events : List Event}
    (notRead : ∀ execution ∈ console.history tracing events,
      ∀ x, execution.instruction ≠ .readDelay x) :
    (other.cycleStarts tracing (console.withoutEarly tracing events)).map (·.seen tracing) =
        ((console.cycleStarts tracing events).map (·.seen tracing)).filter (!·.1.isEarly) ∧
      (other.run tracing (console.withoutEarly tracing events)).1.now =
        (console.run tracing events).1.now ∧
      (console.run tracing events).1.machine.SameButTimers
        (other.run tracing (console.withoutEarly tracing events)).1.machine := by
  induction events generalizing console other with
  | nil => exact ⟨rfl, now, alike⟩
  | cons event rest inductionHypothesis =>
    cases event with
    | setClock reading => exact inductionHypothesis rfl alike notRead
    | advanceClock seconds =>
      exact inductionHypothesis (congrArg (· + seconds) now) alike notRead
    | key pressed down => exact inductionHypothesis now (alike.key pressed down) notRead
    | step =>
      have report : (console.seen tracing).1.isEarly = console.machine.isThrottled console.now :=
        console.isEarly_step tracing
      have notReadLater : ∀ execution ∈ (console.step tracing).1.history tracing rest,
          ∀ x, execution.instruction ≠ .readDelay x := fun execution member =>
        notRead execution (List.mem_append_right _ member)
      rw [withoutEarly_step, cycleStarts_step, List.map_cons, List.filter_cons, report,
        console.isEarly_step tracing]
      cases early : console.machine.isThrottled console.now with
      | true =>
        exact inductionHypothesis now (alike.step_of_early tracing early) notReadLater
      | false =>
        have notReadNow : ∀ execution, console.machine.execution? console.now = some execution →
            ∀ x, execution.instruction ≠ .readDelay x := by
          intro execution executes
          have first : execution ∈ (console.execution? .step).toList :=
            Option.mem_toList.mpr executes
          exact notRead execution (List.mem_append_left _ first)
        obtain ⟨same, after⟩ := seen_of_alike tracing now alike early notReadNow
        obtain ⟨laterSame, laterNow, laterAlike⟩ :=
          @inductionHypothesis (console.step tracing).1 (other.step tracing).1 now after
            notReadLater
        rw [if_neg Bool.false_ne_true, cycleStarts_step, List.map_cons, same, laterSame]
        exact ⟨rfl, laterNow, laterAlike⟩

/-- Cycles that come too early can be left out of a run. Unless a cycle of the run reads the delay
timer, then in the run without them no cycle comes too early, the cycles answer and print the same,
failing ones included, and mark the display in the same way as the same cycles did, and the console
is the same in the end, but for the timers and for whether the display counts as changed. -/
theorem early_cycles_transparent (console : Console) {events : List Event}
    (notRead : ∀ execution ∈ console.history tracing events,
      ∀ x, execution.instruction ≠ .readDelay x) :
    let kept := console.withoutEarly tracing events
    let original := (console.run tracing events).1
    let thinned := (console.run tracing kept).1
    (∀ begun ∈ console.cycleStarts tracing kept, (begun.step tracing).2.isEarly = false) ∧
      (console.cycleStarts tracing kept).map (·.seen tracing) =
        ((console.cycleStarts tracing events).map (·.seen tracing)).filter (!·.1.isEarly) ∧
      thinned.now = original.now ∧
      thinned.machine = { original.machine with
        timers := thinned.machine.timers, redraw := thinned.machine.redraw } := by
  intro kept original thinned
  obtain ⟨same, now, alike⟩ := @run_withoutEarly tracing console console rfl rfl events notRead
  refine ⟨?_, same, now, alike⟩
  intro begun listed
  have seen : begun.seen tracing ∈ (console.cycleStarts tracing kept).map (·.seen tracing) :=
    List.mem_map_of_mem listed
  rw [same, List.mem_filter, Bool.not_eq_true'] at seen
  exact seen.2

/-- A program that draws a glyph and returns without a call. Its second cycle comes too early;
without it the first cycle still draws, the last one still fails, and the display is the same. -/
theorem early_cycles_transparent_of_draw_first :
    ∃ machine, Machine.boot [0xD0, 0x05, 0x00, 0xEE] 0 (.cycling #[]) false = .ok machine ∧
      let start : Console := ⟨machine, 0⟩
      let events := [.step, .step, .advanceClock 0.002, .step]
      let kept := start.withoutEarly false events
      (start.cycleStarts false events).length = 3 ∧
      ((start.cycleStarts false kept).map (·.seen false)).map
          (fun (report, redraw) => (report.result.isOk, redraw)) =
        [(true, true), (false, false)] ∧
      (start.run false kept).1.machine.display = (start.run false events).1.machine.display := by
  obtain ⟨machine, started, notRead, answers⟩ :
      ∃ machine, Machine.boot [0xD0, 0x05, 0x00, 0xEE] 0 (.cycling #[]) false = .ok machine ∧
        let start : Console := ⟨machine, 0⟩
        let events := [.step, .step, .advanceClock 0.002, .step]
        (∀ execution ∈ start.history false events, ∀ x, execution.instruction ≠ .readDelay x) ∧
        (((start.cycleStarts false events).map (·.seen false)).filter (!·.1.isEarly)).map
            (fun (report, redraw) => (report.result.isOk, redraw)) =
          [(true, true), (false, false)] :=
    ⟨_, (Machine.boot_eq_ok_iff _ 0 (.cycling #[]) false _).mpr ⟨by decide, rfl⟩,
      by decide +kernel, by decide +kernel⟩
  obtain ⟨_, same, _, alike⟩ := early_cycles_transparent false ⟨machine, 0⟩ notRead
  refine ⟨machine, started, rfl, ?_, ?_⟩
  · rw [same]
    exact answers
  · rw [alike]

end Console

end ChipEight
