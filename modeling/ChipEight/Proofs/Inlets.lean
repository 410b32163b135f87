import ChipEight.Proofs.Effects
import ChipEight.Proofs.Reachability

/-!
# Inlets

Four parts of the machine let in what is not in its program: the keypad, the timers, the source of
random bytes, and the choice of what shifts read. Each instruction looks at one of them at most,
and most instructions look at none. A machine that waits looks at the keypad.

Two machines that differ in one inlet only are compared here, first over what a cycle does before
the program counter moves, then over the whole cycle. As long as nothing looks at the inlet, they
answer and print the same, and again differ in the inlet only. An instruction that does look may
still find that it makes no difference: it is then said to ignore the inlet.
-/

namespace ChipEight

/-- A part of the machine that lets something in from outside of its program. -/
inductive Inlet where
  | keypad
  | timers
  | random
  | shiftChoice
  deriving DecidableEq, Repr

/-- The inlet that an instruction looks at, if it looks at any. Setting a timer is not looking at
it. -/
def Instruction.inlet? : Instruction → Option Inlet
  | .skipIfHeld _ => some .keypad
  | .skipUnlessHeld _ => some .keypad
  | .awaitKey _ => some .keypad
  | .readDelay _ => some .timers
  | .random _ _ => some .random
  | .shiftRight _ _ => some .shiftChoice
  | .shiftLeft _ _ => some .shiftChoice
  | _ => none

namespace Machine

/-- A machine with one inlet of another machine. -/
def exchange (machine : Machine) (inlet : Inlet) (donor : Machine) : Machine :=
  match inlet with
  | .keypad => { machine with keypad := donor.keypad }
  | .timers => { machine with timers := donor.timers }
  | .random => { machine with random := donor.random }
  | .shiftChoice => { machine with shiftInPlace := donor.shiftInPlace }

/-- Two machines that differ in one inlet at most. -/
def SameBut (inlet : Inlet) (machine other : Machine) : Prop :=
  other = machine.exchange inlet other

section Exchange

variable (machine donor : Machine) (inlet : Inlet)

/-- An exchange changes nothing but the inlet. -/
theorem sameBut_exchange : SameBut inlet machine (machine.exchange inlet donor) := by
  cases inlet <;> rfl

theorem exchange_memory : (machine.exchange inlet donor).memory = machine.memory := by
  cases inlet <;> rfl

theorem exchange_register (register : Register) :
    (machine.exchange inlet donor).register register = machine.register register := by
  cases inlet <;> rfl

theorem exchange_registers : (machine.exchange inlet donor).registers = machine.registers := by
  cases inlet <;> rfl

theorem exchange_index : (machine.exchange inlet donor).index = machine.index := by
  cases inlet <;> rfl

theorem exchange_counter : (machine.exchange inlet donor).counter = machine.counter := by
  cases inlet <;> rfl

theorem exchange_calls : (machine.exchange inlet donor).calls = machine.calls := by
  cases inlet <;> rfl

theorem exchange_display : (machine.exchange inlet donor).display = machine.display := by
  cases inlet <;> rfl

theorem exchange_awaiting : (machine.exchange inlet donor).awaiting = machine.awaiting := by
  cases inlet <;> rfl

theorem exchange_fetch : (machine.exchange inlet donor).fetch = machine.fetch := by
  cases inlet <;> rfl

theorem exchange_isThrottled (now : Seconds) :
    (machine.exchange inlet donor).isThrottled now = machine.isThrottled now := by
  cases inlet <;> rfl

/-- Only the keypad is looked at for a register that waits. -/
theorem exchange_pollKeypad (register : Register) (notKeypad : inlet ≠ .keypad) :
    (machine.exchange inlet donor).pollKeypad register =
      ((machine.pollKeypad register).1.exchange inlet donor, (machine.pollKeypad register).2) := by
  cases inlet with
  | keypad => exact absurd rfl notKeypad
  | _ =>
    simp only [pollKeypad_eq, exchange]
    cases machine.keypad.lowest? with
    | none => rfl
    | some key => rfl

/-- Loading registers looks at no inlet. -/
theorem exchange_loadFrom (address : Int) (registers : List Register) :
    (machine.exchange inlet donor).loadFrom address registers =
      ((machine.loadFrom address registers).1.exchange inlet donor,
        (machine.loadFrom address registers).2) := by
  obtain ⟨loaded, answer⟩ := loadFrom_congr (machine.exchange_memory donor inlet)
    (machine.exchange_registers donor inlet) address registers
  refine Prod.ext ?_ answer
  rw [loadFrom_frame, loaded, machine.loadFrom_frame address registers]
  cases inlet <;> rfl

/-- Drawing looks at no inlet. -/
theorem exchange_drawSprite (sprite : List UInt8) (x y : Int) :
    (machine.exchange inlet donor).drawSprite sprite x y =
      ((machine.drawSprite sprite x y).1.exchange inlet donor,
        (machine.drawSprite sprite x y).2) := by
  rw [drawSprite, drawSprite, exchange_display]
  rcases machine.display.draw sprite x y with ⟨display, fault | hit⟩
  · cases inlet <;> rfl
  · cases inlet <;> rfl

end Exchange

end Machine

/-- An execution ignores an inlet if it has the same answer whatever the inlet holds, and leaves the
same machine but for the inlet. -/
def Execution.Ignores (execution : Execution) (inlet : Inlet) : Prop :=
  ∀ donor : Machine,
    ((execution.found.exchange inlet donor).execute execution.instruction).2 =
        execution.outcome.2 ∧
      Machine.SameBut inlet execution.outcome.1
        ((execution.found.exchange inlet donor).execute execution.instruction).1

/-- An instruction ignores the inlets that it does not look at. -/
theorem Execution.ignores_of_inlet? (execution : Execution) {inlet : Inlet}
    (blind : execution.instruction.inlet? ≠ some inlet) : execution.Ignores inlet := by
  obtain ⟨machine, instruction⟩ := execution
  intro donor
  unfold Execution.outcome
  cases instruction with
  | skipIfHeld x => cases inlet with
    | keypad => exact absurd rfl blind
    | _ => exact ⟨rfl, rfl⟩
  | skipUnlessHeld x => cases inlet with
    | keypad => exact absurd rfl blind
    | _ => exact ⟨rfl, rfl⟩
  | awaitKey x =>
    have notKeypad : inlet ≠ .keypad := fun same => blind (congrArg some same.symm)
    rw [Machine.execute, Machine.exchange_pollKeypad _ _ _ _ notKeypad]
    exact ⟨rfl, Machine.sameBut_exchange _ _ _⟩
  | readDelay x => cases inlet with
    | timers => exact absurd rfl blind
    | _ => exact ⟨rfl, rfl⟩
  | random x mask => cases inlet with
    | random => exact absurd rfl blind
    | _ => exact ⟨rfl, rfl⟩
  | shiftRight x y => cases inlet with
    | shiftChoice => exact absurd rfl blind
    | _ => exact ⟨rfl, rfl⟩
  | shiftLeft x y => cases inlet with
    | shiftChoice => exact absurd rfl blind
    | _ => exact ⟨rfl, rfl⟩
  | returnFromCall =>
    rw [Machine.execute_returnFromCall, Machine.execute_returnFromCall, Machine.exchange_calls]
    cases machine.calls.pop with
    | error fault => exact ⟨rfl, Machine.sameBut_exchange _ _ _⟩
    | ok taken => cases inlet <;> exact ⟨rfl, rfl⟩
  | call target =>
    rw [Machine.execute_call, Machine.execute_call, Machine.exchange_calls,
      Machine.exchange_counter]
    cases machine.calls.push (machine.counter + 2) with
    | error fault => exact ⟨rfl, Machine.sameBut_exchange _ _ _⟩
    | ok calls => cases inlet <;> exact ⟨rfl, rfl⟩
  | draw x y height =>
    rw [Machine.execute_draw, Machine.execute_draw, Machine.exchange_memory,
      Machine.exchange_index, Machine.exchange_register, Machine.exchange_register]
    cases machine.memory.sprite machine.index height.val with
    | error fault => exact ⟨rfl, Machine.sameBut_exchange _ _ _⟩
    | ok sprite =>
      simp only [Machine.exchange_drawSprite]
      exact ⟨rfl, Machine.sameBut_exchange _ _ _⟩
  | selectGlyph x =>
    rw [Machine.execute_selectGlyph, Machine.execute_selectGlyph, Machine.exchange_register]
    cases Memory.glyphAddress (machine.register x) with
    | error fault => exact ⟨rfl, Machine.sameBut_exchange _ _ _⟩
    | ok address => cases inlet <;> exact ⟨rfl, rfl⟩
  | loadRegisters x =>
    rw [Machine.execute, Machine.execute, Machine.exchange_index, Machine.exchange_loadFrom]
    exact ⟨rfl, Machine.sameBut_exchange _ _ _⟩
  | _ => cases inlet <;> exact ⟨rfl, rfl⟩

/-- Two attempts with the same answer and the same text, which leave machines that differ in one
inlet at most. -/
structure Attempt.SameBut {ε α : Type} (inlet : Inlet) (attempt other : Attempt ε α) : Prop where
  result : other.result = attempt.result
  trace : other.trace = attempt.trace
  machine : Machine.SameBut inlet attempt.machine other.machine

namespace Machine

/-- A due cycle prints what it printed before the program counter moved. -/
theorem trace_of_due (machine : Machine) (tracing : Bool) {now : Seconds}
    (due : machine.isThrottled now = false) :
    (machine.step tracing now).trace = ((machine.opened now).act tracing).trace := by
  cases acted : ((machine.opened now).act tracing).result with
  | error error =>
    unfold opened at acted ⊢
    simp only [step, due, Bool.false_eq_true, if_false, acted]
  | ok flow =>
    unfold opened at acted ⊢
    simp only [step, due, Bool.false_eq_true, if_false, acted]

namespace SameBut

variable {inlet : Inlet} {machine other third : Machine}

/-- The other machine is the first one with an inlet exchanged. -/
theorem eq_exchange (alike : SameBut inlet machine other) :
    ∃ donor, other = machine.exchange inlet donor :=
  ⟨other, alike⟩

theorem symm (alike : SameBut inlet machine other) : SameBut inlet other machine := by
  obtain ⟨donor, rfl⟩ := alike.eq_exchange
  cases inlet <;> rfl

theorem trans (first : SameBut inlet machine other) (second : SameBut inlet other third) :
    SameBut inlet machine third := by
  obtain ⟨donor, rfl⟩ := first.eq_exchange
  obtain ⟨otherDonor, rfl⟩ := second.eq_exchange
  cases inlet <;> rfl

/-- When a cycle begins the machines are still the same but for the inlet. -/
theorem opened (alike : SameBut inlet machine other) (now : Seconds) :
    SameBut inlet (machine.opened now) (other.opened now) := by
  obtain ⟨donor, rfl⟩ := alike.eq_exchange
  cases inlet <;> rfl

/-- They stay so when the program counter moves. -/
theorem advance (alike : SameBut inlet machine other) (flow : Flow) :
    SameBut inlet (machine.advance flow) (other.advance flow) := by
  obtain ⟨donor, rfl⟩ := alike.eq_exchange
  cases inlet <;> rfl

/-- They stay so when a reading is offered to the timers. -/
theorem tick (alike : SameBut inlet machine other) (now : Seconds) :
    SameBut inlet (machine.tick now) (other.tick now) := by
  obtain ⟨donor, rfl⟩ := alike.eq_exchange
  cases inlet <;> rfl

/-- They stay so when a key is pressed or let go in both. -/
theorem key (alike : SameBut inlet machine other) (key : Key) (down : Bool) :
    SameBut inlet { machine with keypad := machine.keypad.assign key down }
      { other with keypad := other.keypad.assign key down } := by
  obtain ⟨donor, rfl⟩ := alike.eq_exchange
  cases inlet <;> rfl

/-- Cycles of both come too early at the same readings. -/
theorem isThrottled (alike : SameBut inlet machine other) (now : Seconds) :
    other.isThrottled now = machine.isThrottled now := by
  obtain ⟨donor, rfl⟩ := alike.eq_exchange
  exact exchange_isThrottled ..

/-- Both wait for the same register, or for none. -/
theorem awaiting (alike : SameBut inlet machine other) : other.awaiting = machine.awaiting := by
  obtain ⟨donor, rfl⟩ := alike.eq_exchange
  exact exchange_awaiting ..

/-- Both have marked the display as changed, or neither has. -/
theorem redraw (alike : SameBut inlet machine other) : other.redraw = machine.redraw := by
  obtain ⟨donor, rfl⟩ := alike.eq_exchange
  cases inlet <;> rfl

/-- Cycles of both execute the same instruction, or none. -/
theorem execution? (alike : SameBut inlet machine other) (now : Seconds) :
    (other.execution? now).map Execution.instruction =
      (machine.execution? now).map Execution.instruction := by
  obtain ⟨donor, rfl⟩ := alike.eq_exchange
  unfold Machine.execution?
  rw [exchange_isThrottled, exchange_awaiting, exchange_fetch]
  split
  · rfl
  · split
    · rfl
    · rw [Option.map_map, Option.map_map]
      rfl

/-- What a cycle does before the program counter moves is the same in both, if the keypad is not
the inlet that is looked at for a register, and if what is executed ignores the inlet. -/
theorem act (alike : SameBut inlet machine other) (tracing : Bool)
    (unpolled : inlet = .keypad → machine.awaiting = none)
    (ignored : machine.awaiting = none → ∀ word instruction, machine.fetch = .ok word →
      Instruction.ofWord? word = some instruction →
      (⟨machine, instruction⟩ : Execution).Ignores inlet) :
    Attempt.SameBut inlet (machine.act tracing) (other.act tracing) := by
  obtain ⟨donor, rfl⟩ := alike.eq_exchange
  cases waits : machine.awaiting with
  | some register =>
    have notKeypad : inlet ≠ .keypad := fun same =>
      absurd (waits.symm.trans (unpolled same)) nofun
    rw [act_of_waits tracing waits, act_of_waits tracing (alike.awaiting.trans waits),
      exchange_pollKeypad _ _ _ _ notKeypad]
    exact ⟨rfl, rfl, sameBut_exchange ..⟩
  | none =>
    rw [act_of_runs tracing waits, act_of_runs tracing (alike.awaiting.trans waits), executeNext,
      executeNext, exchange_fetch, exchange_counter]
    cases fetched : machine.fetch with
    | error fault => exact ⟨rfl, rfl, sameBut_exchange ..⟩
    | ok word =>
      simp only [handleWord, perform, decode?_toNat, exchange_counter]
      cases recognised : Instruction.ofWord? word with
      | none => exact ⟨rfl, rfl, sameBut_exchange ..⟩
      | some instruction =>
        obtain ⟨answer, left⟩ := ignored waits word instruction fetched recognised donor
        simp only [answer]
        exact ⟨rfl, rfl, left⟩

/-- If a due cycle does the same in both before the program counter moves, then it does the same in
both altogether. -/
theorem step_of_act {now : Seconds} {tracing : Bool} (due : machine.isThrottled now = false)
    (otherDue : other.isThrottled now = false)
    (acted : Attempt.SameBut inlet ((machine.opened now).act tracing)
      ((other.opened now).act tracing)) :
    Attempt.SameBut inlet (machine.step tracing now) (other.step tracing now) := by
  have trace := acted.trace
  rw [← trace_of_due machine tracing due, ← trace_of_due other tracing otherDue] at trace
  cases outcome : ((machine.opened now).act tracing).result with
  | error error =>
    obtain ⟨after, answer⟩ := step_of_error due outcome
    obtain ⟨otherAfter, otherAnswer⟩ := step_of_error otherDue (acted.result.trans outcome)
    refine ⟨otherAnswer.trans answer.symm, trace, ?_⟩
    rw [after, otherAfter]
    exact acted.machine
  | ok flow =>
    obtain ⟨after, answer⟩ := step_of_ok due outcome
    obtain ⟨otherAfter, otherAnswer⟩ := step_of_ok otherDue (acted.result.trans outcome)
    refine ⟨otherAnswer.trans answer.symm, trace, ?_⟩
    rw [after, otherAfter]
    exact (acted.machine.advance flow).tick now

/-- A cycle does the same in both, if it does not look at the keypad as the inlet, and if what it
executes ignores the inlet. -/
theorem step (alike : SameBut inlet machine other) (tracing : Bool) {now : Seconds}
    (unpolled : inlet = .keypad → machine.awaiting = none)
    (ignored : ∀ execution, machine.execution? now = some execution → execution.Ignores inlet) :
    Attempt.SameBut inlet (machine.step tracing now) (other.step tracing now) := by
  cases early : machine.isThrottled now with
  | true =>
    have otherEarly := (alike.isThrottled now).trans early
    obtain ⟨donor, rfl⟩ := alike.eq_exchange
    simp only [Machine.step, early, otherEarly, if_true]
    refine ⟨rfl, rfl, SameBut.tick ?_ now⟩
    cases inlet <;> rfl
  | false =>
    refine step_of_act early ((alike.isThrottled now).trans early)
      ((alike.opened now).act tracing unpolled ?_)
    intro runs word instruction fetched recognised
    exact ignored _ (execution?_of_recognised early runs fetched recognised)

end SameBut

end Machine

namespace Console

open Machine

/-- In two consoles at the same reading, whose machines differ in one inlet at most, a cycle reports
the same and leaves machines that differ in the inlet at most. -/
theorem step_sameBut {inlet : Inlet} {console other : Console} (now : other.now = console.now)
    (alike : SameBut inlet console.machine other.machine) (tracing : Bool)
    (unpolled : inlet = .keypad → console.machine.awaiting = none)
    (ignored : ∀ execution, console.execution? .step = some execution → execution.Ignores inlet) :
    (other.step tracing).2 = (console.step tracing).2 ∧
      SameBut inlet (console.step tracing).1.machine (other.step tracing).1.machine := by
  obtain ⟨result, trace, left⟩ := alike.step tracing unpolled ignored
  unfold step
  rw [now]
  refine ⟨?_, left⟩
  simp only [result, trace]

/-- Two consoles at the same reading, whose machines differ in one inlet at most, go the same way
through the same events, as long as everything that is executed ignores the inlet: their cycles
report the same, they execute the same instructions, and in the end they still differ in the inlet
at most. The inlet must not be the keypad, at which a machine that waits may look at any time.

Proof: by induction on the events, the cycles among which do the same in both. -/
theorem run_sameBut {inlet : Inlet} (notKeypad : inlet ≠ .keypad) {console other : Console}
    (now : other.now = console.now) (alike : SameBut inlet console.machine other.machine)
    {tracing : Bool} {events : List Event}
    (ignored : ∀ execution ∈ console.history tracing events, execution.Ignores inlet) :
    (other.run tracing events).2 = (console.run tracing events).2 ∧
      (other.history tracing events).map Execution.instruction =
        (console.history tracing events).map Execution.instruction ∧
      (other.run tracing events).1.now = (console.run tracing events).1.now ∧
      SameBut inlet (console.run tracing events).1.machine
        (other.run tracing events).1.machine := by
  induction events generalizing console other with
  | nil => exact ⟨rfl, rfl, now, alike⟩
  | cons event rest inductionHypothesis =>
    cases event with
    | setClock reading => exact inductionHypothesis rfl alike ignored
    | advanceClock seconds =>
      exact inductionHypothesis (congrArg (· + seconds) now) alike ignored
    | key pressed down => exact inductionHypothesis now (alike.key pressed down) ignored
    | step =>
      obtain ⟨report, left⟩ := step_sameBut now alike tracing (fun same => absurd same notKeypad)
        fun execution executes => ignored execution
          (List.mem_append_left _ (Option.mem_toList.mpr executes))
      have executed : (other.execution? .step).map Execution.instruction =
          (console.execution? .step).map Execution.instruction := by
        simp only [Console.execution?, now, alike.execution?]
      obtain ⟨reports, history, laterNow, laterAlike⟩ :=
        @inductionHypothesis (console.step tracing).1 (other.step tracing).1 now left
          fun execution member => ignored execution (List.mem_append_right _ member)
      refine ⟨?_, ?_, laterNow, laterAlike⟩
      · rw [run_step, run_step, report, reports]
      · rw [history_step, history_step, List.map_append, List.map_append, history,
          ← Option.toList_map, ← Option.toList_map, executed]

end Console

end ChipEight
