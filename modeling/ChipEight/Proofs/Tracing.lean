import Mathlib.Data.List.Forall2
import ChipEight.Proofs.Inlets

/-!
# Tracing

A traced cycle reports the word that it fetched, and then the instruction that it is about to
execute. What it prints is told by the machine that it finds: nothing if it comes too early, looks
at the keypad or fetches no word, the word alone if the word denotes no instruction, and otherwise
the word and the instruction, whether or not the instruction is then refused. `Prints` says this
without running the cycle.

Tracing does nothing else. A run that is traced has the same answers and passes through the same
consoles as one that is not, which prints nothing.
-/

namespace ChipEight

namespace Machine

/-- What a traced cycle prints. -/
inductive Prints (machine : Machine) (now : Seconds) : String → Prop where
  | throttled (early : machine.isThrottled now = true) : Prints machine now ""
  | polled (register : Register) (due : machine.isThrottled now = false)
      (waits : machine.awaiting = some register) : Prints machine now ""
  | unfetched (due : machine.isThrottled now = false) (runs : machine.awaiting = none)
      (unread : ∀ word, ¬ machine.HoldsWord machine.counter word) : Prints machine now ""
  | unknown (word : Word) (due : machine.isThrottled now = false) (runs : machine.awaiting = none)
      (held : machine.HoldsWord machine.counter word)
      (noCode : ∀ instruction : Instruction, instruction.code ≠ word.toNat) :
      Prints machine now ("opcode: 0x" ++ Text.hexadecimal 4 word.toNat ++ "    ")
  | recognised (word : Word) (instruction : Instruction)
      (due : machine.isThrottled now = false) (runs : machine.awaiting = none)
      (held : machine.HoldsWord machine.counter word)
      (coded : instruction.code = word.toNat) :
      Prints machine now ("opcode: 0x" ++ Text.hexadecimal 4 word.toNat ++ "    " ++
        ("mem_addr: 0x" ++ Text.hexadecimal 4 machine.counter ++ "    instruction: " ++
          instruction.mnemonic ++ "\n"))

variable (machine : Machine) (now : Seconds)

/-- Every traced cycle prints something in this sense. -/
theorem exists_prints : ∃ text, Prints machine now text := by
  cases early : machine.isThrottled now with
  | true => exact ⟨_, .throttled early⟩
  | false =>
    cases waits : machine.awaiting with
    | some register => exact ⟨_, .polled register early waits⟩
    | none =>
      cases fetched : machine.fetch with
      | error fault =>
        refine ⟨_, .unfetched early waits fun word held => ?_⟩
        exact absurd (fetched.symm.trans ((machine.fetch_eq_ok_iff word).mpr held)) nofun
      | ok word =>
        have held := (machine.fetch_eq_ok_iff word).mp fetched
        cases recognised : Instruction.ofWord? word with
        | none =>
          exact ⟨_, .unknown word early waits held
            ((Instruction.ofWord?_eq_none_iff word).mp recognised)⟩
        | some instruction =>
          exact ⟨_, .recognised word instruction early waits held
            ((Instruction.ofWord?_eq_some_iff word instruction).mp recognised)⟩

variable {machine now}

/-- And it prints nothing else. -/
theorem Prints.trace_eq {text : String} (prints : Prints machine now text) :
    (machine.step true now).trace = text := by
  cases prints with
  | throttled early => simp only [step, early, if_true]
  | polled register due waits =>
    rw [trace_of_due machine true due, (machine.opened now).act_of_waits true waits]
  | unfetched due runs unread =>
    rw [trace_of_due machine true due, (machine.opened now).act_of_runs true runs, executeNext]
    cases fetched : (machine.opened now).fetch with
    | error fault => rfl
    | ok word => exact absurd ((machine.fetch_eq_ok_iff word).mp fetched) (unread word)
  | unknown word due runs held noCode =>
    have fetched : (machine.opened now).fetch = .ok word := (machine.fetch_eq_ok_iff word).mpr held
    have unrecognised := (Instruction.ofWord?_eq_none_iff word).mpr noCode
    rw [trace_of_due machine true due, (machine.opened now).act_of_runs true runs, executeNext]
    simp only [fetched, handleWord, perform, decode?_toNat, unrecognised]
    rfl
  | recognised word instruction due runs held coded =>
    have fetched : (machine.opened now).fetch = .ok word := (machine.fetch_eq_ok_iff word).mpr held
    have recognised := (Instruction.ofWord?_eq_some_iff word instruction).mpr coded
    rw [trace_of_due machine true due, (machine.opened now).act_of_runs true runs, executeNext]
    simp only [fetched, handleWord, perform, decode?_toNat, recognised]
    rfl

/-- The text of a traced cycle. -/
theorem trace_eq_iff (machine : Machine) (now : Seconds) (text : String) :
    (machine.step true now).trace = text ↔ Prints machine now text := by
  constructor
  · rintro rfl
    obtain ⟨text, prints⟩ := machine.exists_prints now
    rw [prints.trace_eq]
    exact prints
  · exact Prints.trace_eq

/-- Without tracing, what a cycle does before the program counter moves is the same, but nothing is
printed. -/
theorem act_untraced (machine : Machine) :
    machine.act false = { machine.act true with trace := "" } := by
  cases waits : machine.awaiting with
  | some register => rw [act_of_waits false waits, act_of_waits true waits]
  | none =>
    rw [act_of_runs false waits, act_of_runs true waits, executeNext, executeNext]
    cases machine.fetch with
    | error fault => rfl
    | ok word =>
      simp only [handleWord, perform, decode?_toNat]
      cases Instruction.ofWord? word with
      | none => rfl
      | some instruction => rfl

/-- So is the whole cycle. -/
theorem step_untraced (machine : Machine) (now : Seconds) :
    machine.step false now = { machine.step true now with trace := "" } := by
  cases early : machine.isThrottled now with
  | true => simp only [step, early, if_true]
  | false =>
    have acted := (machine.opened now).act_untraced
    unfold opened at acted
    simp only [step, early, Bool.false_eq_true, if_false, acted]
    split
    · rfl
    · rfl

end Machine

namespace Console

/-- Tracing a cycle changes nothing but what the cycle prints. -/
theorem step_untraced (console : Console) :
    console.step false =
      ((console.step true).1, { (console.step true).2 with trace := "" }) := by
  unfold step
  rw [Machine.step_untraced]

/-- Tracing changes nothing of a run but what its cycles print. -/
theorem run_untraced (console : Console) (events : List Event) :
    (console.run false events).1 = (console.run true events).1 ∧
      (console.run false events).2 =
        (console.run true events).2.map ({ · with trace := "" }) ∧
      console.cycleStarts false events = console.cycleStarts true events := by
  induction events generalizing console with
  | nil => exact ⟨rfl, rfl, rfl⟩
  | cons event rest inductionHypothesis =>
    cases event with
    | setClock reading => exact inductionHypothesis { console with now := reading }
    | advanceClock seconds => exact inductionHypothesis (console.advanceClock seconds)
    | key pressed down => exact inductionHypothesis (console.pressKey pressed down)
    | step =>
      obtain ⟨final, reports, starts⟩ := inductionHypothesis (console.step true).1
      rw [run_step, run_step, cycleStarts_step, cycleStarts_step, step_untraced, final, reports,
        starts]
      exact ⟨rfl, rfl, rfl⟩

/-- There is a report of an event exactly when the event is a cycle, and it is the report of that
cycle. -/
theorem report_of_react (tracing : Bool) (console : Console) (event : Event) :
    (console.react tracing event).2 =
      (console.cycleStart? event).map fun begun => (begun.step tracing).2 := by
  cases event <;> rfl

/-- The reports of a run are those of its cycles, in their order. -/
theorem reports_of_cycles (tracing : Bool) (console : Console) (events : List Event) :
    (console.run tracing events).2 =
      (console.cycleStarts tracing events).map fun begun => (begun.step tracing).2 := by
  induction events generalizing console with
  | nil => rfl
  | cons event rest inductionHypothesis =>
    rw [cycleStarts, List.map_append, ← Option.toList_map, ← report_of_react,
      ← inductionHypothesis]
    rfl

/-- Tracing is faithful and has no effect. A run that is traced ends in the same console as one that
is not, its cycles begin in the same consoles, and they have the same answers, failing ones
included. Without tracing nothing is printed. With tracing each cycle prints exactly what
`Machine.Prints` says of the machine that it finds. -/
theorem tracing_faithful (console : Console) (events : List Event) :
    (console.run true events).1 = (console.run false events).1 ∧
      console.cycleStarts true events = console.cycleStarts false events ∧
      (console.run true events).2.map CycleReport.result =
        (console.run false events).2.map CycleReport.result ∧
      (∀ report ∈ (console.run false events).2, report.trace = "") ∧
      List.Forall₂ (fun begun report => ∀ text,
          report.trace = text ↔ begun.machine.Prints begun.now text)
        (console.cycleStarts true events) (console.run true events).2 := by
  obtain ⟨final, reports, starts⟩ := console.run_untraced events
  refine ⟨final.symm, starts.symm, ?_, ?_, ?_⟩
  · rw [reports, List.map_map]
    rfl
  · intro report member
    rw [reports] at member
    obtain ⟨traced, _, rfl⟩ := List.mem_map.mp member
    rfl
  · rw [reports_of_cycles, List.forall₂_map_right_iff, List.forall₂_same]
    intro begun _ text
    exact begun.machine.trace_eq_iff begun.now text

/-- A return without a call is refused, but not before it is reported. -/
example : (Machine.boot [0x00, 0xEE] 0 (.cycling #[]) false).toOption.map
    (fun machine => (machine.step true 0).trace) =
      some "opcode: 0x00ee    mem_addr: 0x0200    instruction: RET\n" := by
  decide +kernel

end Console

end ChipEight
