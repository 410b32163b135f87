import Mathlib.Logic.Basic
import ChipEight.Proofs.Inlets

/-!
# The choice of what shifts read

A shift reads its second operand, or the register that it writes, as the machine was told when it
was made. Nothing else asks for this choice. So two machines that differ in it go the same way for
as long as every shift finds the same in both of its registers: then it reads the same value either
way, gives the same result and the same flag, and does so also when one of the registers is the flag
register, since the value is read before anything is written.
-/

namespace ChipEight

/-- A shift whose registers hold the same reads this, whatever the choice. -/
theorem Machine.shiftSource_of_same {machine : Machine} {x y : Register}
    (same : machine.register x = machine.register y) :
    machine.shiftSource x y = machine.register y := by
  unfold shiftSource
  split
  · exact same
  · rfl

namespace Execution

/-- Whether an execution is that of a shift. -/
def Shifts (execution : Execution) (x y : Register) : Prop :=
  execution.instruction = .shiftRight x y ∨ execution.instruction = .shiftLeft x y

instance (execution : Execution) (x y : Register) : Decidable (execution.Shifts x y) :=
  inferInstanceAs (Decidable (_ ∨ _))

/-- An execution ignores the choice of what shifts read, unless it is that of a shift and finds
different values in its registers. -/
theorem ignores_shiftChoice (execution : Execution)
    (same : ∀ x y, execution.Shifts x y →
      execution.found.register x = execution.found.register y) :
    execution.Ignores .shiftChoice := by
  obtain ⟨found, instruction⟩ := execution
  by_cases blind : instruction.inlet? = some .shiftChoice
  · intro donor
    cases instruction with
    | shiftRight x y =>
      have source := Machine.shiftSource_of_same (same x y (Or.inl rfl))
      have otherSource : (found.exchange .shiftChoice donor).shiftSource x y = found.register y :=
        Machine.shiftSource_of_same (same x y (Or.inl rfl))
      refine ⟨rfl, ?_⟩
      simp only [outcome, Machine.execute, source, otherSource]
      rfl
    | shiftLeft x y =>
      have source := Machine.shiftSource_of_same (same x y (Or.inr rfl))
      have otherSource : (found.exchange .shiftChoice donor).shiftSource x y = found.register y :=
        Machine.shiftSource_of_same (same x y (Or.inr rfl))
      refine ⟨rfl, ?_⟩
      simp only [outcome, Machine.execute, source, otherSource]
      rfl
    | _ => cases blind
  · exact ignores_of_inlet? _ blind

end Execution

/-- Booting with the one choice makes the machine that booting with the other makes, but for the
choice. -/
theorem Machine.boot_shiftInPlace {program : List UInt8} {now : Seconds} {random : RandomSource}
    {shiftInPlace : Bool} {machine : Machine}
    (started : Machine.boot program now random shiftInPlace = .ok machine) (choice : Bool) :
    Machine.boot program now random choice = .ok { machine with shiftInPlace := choice } := by
  obtain ⟨fits, rfl⟩ := (Machine.boot_eq_ok_iff ..).mp started
  exact (Machine.boot_eq_ok_iff ..).mpr ⟨fits, rfl⟩

/-- Running never changes the choice. -/
theorem Console.shiftInPlace_run (tracing : Bool) (console : Console) (events : List Event) :
    (console.run tracing events).1.machine.shiftInPlace = console.machine.shiftInPlace := by
  induction events generalizing console with
  | nil => rfl
  | cons event rest inductionHypothesis =>
    refine (inductionHypothesis (console.react tracing event).1).trans ?_
    rcases console.part_react Machine.shiftInPlace (fun _ _ _ _ _ _ _ _ => rfl) tracing event with
      ⟨_, unchanged⟩ | ⟨execution, _, found, left⟩
    · exact unchanged
    · rw [left, ← found, Execution.outcome, Machine.execute_frame]

namespace Console

/-- The choice of what shifts read is told apart by shifts alone. Two machines that were booted from
the same program, at the same reading and with the same random bytes, the one to shift its second
operand and the other one to shift in place, go the same way through the same events if every shift
that the first one executes finds the same in both of its registers: their cycles report the same,
failing ones included, and at every point of the run the consoles are the same but for the
choice. -/
theorem shift_choice_isolated {program : List UInt8} {now : Seconds} {random : RandomSource}
    {machine : Machine} (started : Machine.boot program now random false = .ok machine)
    {tracing : Bool} {events : List Event}
    (same : ∀ execution ∈ (⟨machine, now⟩ : Console).history tracing events,
      ∀ x y, execution.Shifts x y → execution.found.register x = execution.found.register y) :
    ∃ otherMachine, Machine.boot program now random true = .ok otherMachine ∧
      ((⟨otherMachine, now⟩ : Console).run tracing events).2 =
        ((⟨machine, now⟩ : Console).run tracing events).2 ∧
      ∀ front, front <+: events →
        let reached := ((⟨machine, now⟩ : Console).run tracing front).1
        ((⟨otherMachine, now⟩ : Console).run tracing front).1 =
          { reached with machine := { reached.machine with shiftInPlace := true } } := by
  have isolated (front : List Event) (isFront : front <+: events) :=
    @run_sameBut .shiftChoice nofun ⟨machine, now⟩ ⟨{ machine with shiftInPlace := true }, now⟩
      rfl rfl tracing front fun execution member =>
        execution.ignores_shiftChoice (same execution (mem_history_of_beginning isFront member))
  refine ⟨_, Machine.boot_shiftInPlace started true, (isolated events (List.prefix_refl _)).1, ?_⟩
  intro front isFront reached
  obtain ⟨_, _, sameNow, alike⟩ := isolated front isFront
  have choice := shiftInPlace_run tracing ⟨{ machine with shiftInPlace := true }, now⟩ front
  have sameMachine := Eq.trans alike
    (congrArg (fun choice => { reached.machine with shiftInPlace := choice }) choice)
  exact congrArg₂ Console.mk sameMachine sameNow

/-- The program `6005 8100 8016` copies a register and shifts the one by the other. Its fourth cycle
fails. In the machine that shifts in place it does the same as in the other one: the register is
halved, and the flag register holds the bit that fell out. -/
theorem shift_choice_isolated_of_equal_registers :
    ∃ machine otherMachine,
      Machine.boot [0x60, 0x05, 0x81, 0x00, 0x80, 0x16] 0 (.cycling #[]) false = .ok machine ∧
      Machine.boot [0x60, 0x05, 0x81, 0x00, 0x80, 0x16] 0 (.cycling #[]) true =
        .ok otherMachine ∧
      let events := [.step, .setClock 0.002, .step, .setClock 0.004, .step, .setClock 0.006, .step]
      let reached := ((⟨otherMachine, 0⟩ : Console).run false events).1.machine
      ((⟨otherMachine, 0⟩ : Console).run false events).2 =
        ((⟨machine, 0⟩ : Console).run false events).2 ∧
      reached.register 0 = 2 ∧ reached.register flagRegister = 1 := by
  obtain ⟨machine, started, same, halved, bit⟩ :
      ∃ machine, Machine.boot [0x60, 0x05, 0x81, 0x00, 0x80, 0x16] 0 (.cycling #[]) false =
          .ok machine ∧
        let start : Console := ⟨machine, 0⟩
        let events := [.step, .setClock 0.002, .step, .setClock 0.004, .step, .setClock 0.006,
          .step]
        (∀ execution ∈ start.history false events, ∀ x y, execution.Shifts x y →
          execution.found.register x = execution.found.register y) ∧
        (start.run false events).1.machine.register 0 = 2 ∧
        (start.run false events).1.machine.register flagRegister = 1 :=
    ⟨_, (Machine.boot_eq_ok_iff _ 0 (.cycling #[]) false _).mpr ⟨by decide, rfl⟩,
      by decide +kernel, by decide +kernel, by decide +kernel⟩
  obtain ⟨otherMachine, otherStarted, reports, points⟩ := shift_choice_isolated started same
  refine ⟨machine, otherMachine, started, otherStarted, reports, ?_⟩
  rw [points _ (List.prefix_refl _)]
  exact ⟨halved, bit⟩

end Console

end ChipEight
