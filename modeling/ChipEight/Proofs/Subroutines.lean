import ChipEight.Proofs.Ranges

/-!
# Calls and returns match

A completed call puts the address behind it on the call stack, a completed return takes the most
recent address off and goes there, and nothing else touches the stack: no other instruction, no
refused one, no cycle that is too early or waits, no key and no clock.

So the depth of the stack is the number of calls less the number of returns. And as long as the
stack stays deeper than it was before a call, the addresses from before the call and the one behind
it remain at its bottom. The return that first takes the stack back to its depth before the call
therefore goes to the address behind the call.
-/

namespace ChipEight

/-- Whether an instruction is a call. -/
def Instruction.isCall : Instruction → Bool
  | .call _ => true
  | _ => false

namespace Execution

/-- Whether an execution is a call that was completed. -/
def completesCall (execution : Execution) : Bool :=
  execution.isCompleted && execution.instruction.isCall

/-- Whether an execution is a return that was completed. -/
def completesReturn (execution : Execution) : Bool :=
  execution.isCompleted && decide (execution.instruction = .returnFromCall)

/-- What an execution does to the call stack: it is a completed call and adds the address behind it,
or it is a completed return, takes an address off and goes there, or it is neither and leaves the
stack alone. -/
inductive StackEffect (execution : Execution) : Prop where
  | called (calls : execution.completesCall = true) (noReturn : execution.completesReturn = false)
      (added : execution.outcome.1.calls.frames =
        (execution.found.counter + 2) :: execution.found.calls.frames)
  | returned (noCall : execution.completesCall = false) (returns : execution.completesReturn = true)
      (address : Int) (jumps : execution.outcome.2 = .ok (.jump address))
      (taken : execution.found.calls.frames = address :: execution.outcome.1.calls.frames)
  | untouched (noCall : execution.completesCall = false)
      (noReturn : execution.completesReturn = false)
      (same : execution.outcome.1.calls.frames = execution.found.calls.frames)

/-- A return takes an address off or is refused. -/
theorem stackEffect_of_return (found : Machine) : StackEffect ⟨found, .returnFromCall⟩ := by
  cases stacked : found.calls.frames with
  | nil =>
    have refused := found.execute_return_of_nil stacked
    refine .untouched (Bool.and_false _) ?_ ?_
    · simp only [completesReturn, isCompleted, outcome, refused]
      rfl
    · simp only [outcome, refused]
  | cons address rest =>
    have left := found.execute_return_of_cons stacked
    refine .returned (Bool.and_false _) ?_ address ?_ ?_
    · simp only [completesReturn, isCompleted, outcome, left]
      rfl
    · simp only [outcome, left]
    · simp only [outcome, left, stacked]

/-- A call adds an address or is refused. -/
theorem stackEffect_of_call (found : Machine) (target : Fin 4096) :
    StackEffect ⟨found, .call target⟩ := by
  rcases Nat.lt_or_ge found.calls.depth 16 with room | full
  · have left := found.execute_call_of_room target room
    refine .called ?_ (Bool.and_false _) ?_
    · simp only [completesCall, isCompleted, outcome, left]
      rfl
    · simp only [outcome, left]
  · have refused := found.execute_call_of_full target full
    refine .untouched ?_ (Bool.and_false _) ?_
    · simp only [completesCall, isCompleted, outcome, refused]
      rfl
    · simp only [outcome, refused]

/-- Every execution affects the stack in one of the three ways. -/
theorem stackEffect (execution : Execution) : StackEffect execution := by
  obtain ⟨found, instruction⟩ := execution
  by_cases returns : instruction = .returnFromCall
  · subst returns
    exact stackEffect_of_return found
  · by_cases calls : ∃ target, instruction = .call target
    · obtain ⟨target, rfl⟩ := calls
      exact stackEffect_of_call found target
    · have noReturn : completesReturn ⟨found, instruction⟩ = false := by
        simp only [completesReturn, returns, decide_false, Bool.and_false]
      have noCall : completesCall ⟨found, instruction⟩ = false := by
        cases instruction with
        | call target => exact absurd ⟨target, rfl⟩ calls
        | _ => exact Bool.and_false _
      have same : (found.execute instruction).1.calls = found.calls :=
        found.execute_calls returns fun target isCall => calls ⟨target, isCall⟩
      exact .untouched noCall noReturn (congrArg CallStack.frames same)

/-- The depth of the stack goes up by one with each completed call and down by one with each
completed return. -/
theorem depth_outcome (execution : Execution) :
    execution.outcome.1.calls.depth + (if execution.completesReturn then 1 else 0) =
      execution.found.calls.depth + (if execution.completesCall then 1 else 0) := by
  unfold CallStack.depth
  cases execution.stackEffect with
  | called calls noReturn added =>
    rw [calls, noReturn, added, List.length_cons]
    rfl
  | returned noCall returns address jumps taken =>
    rw [noCall, returns, taken, List.length_cons]
    rfl
  | untouched noCall noReturn same => rw [noCall, noReturn, same]

/-- As long as the stack stays as deep as some of the addresses at its bottom need, they remain at
its bottom. -/
theorem bottom_outcome (execution : Execution) {bottom : List Int}
    (before : bottom <:+ execution.found.calls.frames)
    (deep : bottom.length ≤ execution.outcome.1.calls.depth) :
    bottom <:+ execution.outcome.1.calls.frames := by
  cases execution.stackEffect with
  | called calls noReturn added =>
    rw [added]
    exact before.trans (List.suffix_cons _ _)
  | returned noCall returns address jumps taken =>
    rw [taken, List.suffix_cons_iff] at before
    rcases before with whole | kept
    · -- The address that came off would be one of those at the bottom.
      rw [whole, List.length_cons] at deep
      exact absurd deep (Nat.not_succ_le_self _)
    · exact kept
  | untouched noCall noReturn same =>
    rw [same]
    exact before

end Execution

namespace Console

variable (tracing : Bool) (console : Console)

/-- What an event does to the call stack: nothing unless it executes an instruction. -/
theorem frames_react (event : Event) :
    (console.execution? event = none ∧
      (console.react tracing event).1.machine.calls.frames = console.machine.calls.frames) ∨
    ∃ execution, console.execution? event = some execution ∧
      execution.found.calls.frames = console.machine.calls.frames ∧
      (console.react tracing event).1.machine.calls.frames = execution.outcome.1.calls.frames :=
  console.part_react (fun machine => machine.calls.frames) (fun _ _ _ _ _ _ _ _ => rfl) tracing
    event

/-- An event changes the depth of the stack by the calls and returns that it completes. -/
theorem depth_react (event : Event) :
    (console.react tracing event).1.machine.calls.depth +
        (console.execution? event).toList.countP Execution.completesReturn =
      console.machine.calls.depth +
        (console.execution? event).toList.countP Execution.completesCall := by
  rcases console.frames_react tracing event with ⟨nothing, same⟩ |
    ⟨execution, executes, found, left⟩
  · rw [nothing, CallStack.depth, same]
    rfl
  · have law := execution.depth_outcome
    unfold CallStack.depth at law ⊢
    rw [executes, Option.toList_some, List.countP_singleton, List.countP_singleton, left, law,
      found]

/-- After any run, the depth of the stack and the returns make up for its depth before the run and
the calls. -/
theorem depth_run (events : List Event) :
    (console.run tracing events).1.machine.calls.depth +
        (console.history tracing events).countP Execution.completesReturn =
      console.machine.calls.depth +
        (console.history tracing events).countP Execution.completesCall := by
  induction events generalizing console with
  | nil => rfl
  | cons event rest inductionHypothesis =>
    have first := console.depth_react tracing event
    have others := inductionHypothesis (console.react tracing event).1
    rw [history, List.countP_append, List.countP_append]
    change ((console.react tracing event).1.run tracing rest).1.machine.calls.depth + _ = _
    omega

/-- Addresses at the bottom of the stack remain there during a run that keeps the stack at least as
deep as they need. -/
theorem bottom_run (events : List Event) {bottom : List Int}
    (before : bottom <:+ console.machine.calls.frames)
    (deep : ∀ front, front <+: events →
      bottom.length ≤ (console.run tracing front).1.machine.calls.depth) :
    bottom <:+ (console.run tracing events).1.machine.calls.frames := by
  induction events generalizing console with
  | nil => exact before
  | cons event rest inductionHypothesis =>
    apply inductionHypothesis (console.react tracing event).1
    · have first : bottom.length ≤ (console.react tracing event).1.machine.calls.depth :=
        deep [event] (List.prefix_append [event] rest)
      rcases console.frames_react tracing event with ⟨_, same⟩ | ⟨execution, _, found, left⟩
      · rw [same]
        exact before
      · rw [CallStack.depth, left] at first
        rw [← found] at before
        rw [left]
        exact execution.bottom_outcome before first
    · intro front isFront
      exact deep (event :: front) ((List.prefix_cons_inj event).mpr isFront)

/-- A cycle that completes a call adds the address behind it. -/
theorem frames_of_call (calls : (console.execution? .step).any Execution.completesCall = true) :
    (console.step tracing).1.machine.calls.frames =
      (console.machine.counter + 2) :: console.machine.calls.frames := by
  obtain ⟨execution, executes, completesCall⟩ := (Option.any_eq_true ..).mp calls
  obtain ⟨_, _, opened, _⟩ := Machine.Cycle.of_execution? executes
  rcases console.frames_react tracing .step with ⟨nothing, _⟩ | ⟨other, otherExecutes, found, left⟩
  · exact absurd (executes.symm.trans nothing) nofun
  · obtain rfl := Option.some.inj (executes.symm.trans otherExecutes)
    change (console.step tracing).1.machine.calls.frames = _ at left
    cases execution.stackEffect with
    | called _ _ added =>
      rw [left, added, found, opened]
      rfl
    | returned noCall => exact absurd (completesCall.symm.trans noCall) nofun
    | untouched noCall => exact absurd (completesCall.symm.trans noCall) nofun

/-- A cycle that completes a return goes to the most recent address and takes it off. -/
theorem frames_of_return
    (returns : (console.execution? .step).any Execution.completesReturn = true) :
    console.machine.calls.frames = (console.step tracing).1.machine.counter ::
      (console.step tracing).1.machine.calls.frames := by
  obtain ⟨execution, executes, completesReturn⟩ := (Option.any_eq_true ..).mp returns
  have completed : execution.isCompleted = true := (Bool.and_eq_true_iff.mp completesReturn).1
  obtain ⟨flow, answered, _, after⟩ :=
    (console.step_cycle tracing).of_isCompleted executes completed
  rcases console.frames_react tracing .step with ⟨nothing, _⟩ | ⟨other, otherExecutes, found, left⟩
  · exact absurd (executes.symm.trans nothing) nofun
  · obtain rfl := Option.some.inj (executes.symm.trans otherExecutes)
    change (console.step tracing).1.machine.calls.frames = _ at left
    cases execution.stackEffect with
    | called _ noReturn => exact absurd (completesReturn.symm.trans noReturn) nofun
    | returned _ _ address jumps taken =>
      obtain rfl := Except.ok.inj (answered.symm.trans jumps)
      rw [left, ← found, taken, after]
      rfl
    | untouched _ noReturn => exact absurd (completesReturn.symm.trans noReturn) nofun

/-- Calls and returns match in every run of a program. The depth of the stack is always the number
of completed calls less the number of completed returns, and at most sixteen. After a completed call
and any further events that keep the stack deeper than before the call, a completed return that
brings it back to that depth goes to the address behind the call, and the stack is as it was before
the call.

Proof: the addresses from before the call and the one behind it remain at the bottom of the stack.
When the return begins they are the whole stack, since they are as many. -/
theorem calls_match_returns {program : List UInt8} {now : Seconds} {random : RandomSource}
    {shiftInPlace : Bool} {machine : Machine}
    (started : Machine.boot program now random shiftInPlace = .ok machine) (tracing : Bool)
    (events : List Event) :
    let reached := ((⟨machine, now⟩ : Console).run tracing events).1
    let history := (⟨machine, now⟩ : Console).history tracing events
    (reached.machine.calls.depth + history.countP Execution.completesReturn =
        history.countP Execution.completesCall ∧
      reached.machine.calls.depth ≤ 16) ∧
    ∀ middle : List Event,
      let called := (reached.step tracing).1
      let returning := (called.run tracing middle).1
      let returned := (returning.step tracing).1
      (reached.execution? .step).any Execution.completesCall = true →
      (∀ front, front <+: middle →
        reached.machine.calls.depth + 1 ≤ (called.run tracing front).1.machine.calls.depth) →
      (returning.execution? .step).any Execution.completesReturn = true →
      returned.machine.calls.depth = reached.machine.calls.depth →
      returned.machine.counter = reached.machine.counter + 2 ∧
        returned.machine.calls = reached.machine.calls := by
  intro reached history
  have reachable : Reachable reached := (Reachable.booted started).run tracing events
  have empty : machine.calls.depth = 0 := by
    obtain ⟨_, rfl⟩ := (Machine.boot_eq_ok_iff ..).mp started
    rfl
  have counted : reached.machine.calls.depth + history.countP Execution.completesReturn =
      machine.calls.depth + history.countP Execution.completesCall :=
    depth_run tracing ⟨machine, now⟩ events
  rw [empty, Nat.zero_add] at counted
  refine ⟨⟨counted, reachable.inRange.depth⟩, ?_⟩
  intro middle called returning returned calls deep returns level
  have added := frames_of_call tracing reached calls
  have taken := frames_of_return tracing returning returns
  have bottom : (reached.machine.counter + 2) :: reached.machine.calls.frames <:+
      returning.machine.calls.frames :=
    called.bottom_run tracing middle (added ▸ List.suffix_refl _) deep
  have whole : (reached.machine.counter + 2) :: reached.machine.calls.frames =
      returned.machine.counter :: returned.machine.calls.frames := by
    rw [taken] at bottom
    apply bottom.eq_of_length
    rw [List.length_cons, List.length_cons]
    exact congrArg (· + 1) level.symm
  obtain ⟨counter, frames⟩ := List.cons.inj whole
  exact ⟨counter.symm, (congrArg CallStack.mk frames).symm⟩

/-- A program that calls a subroutine which returns at once is back behind the call after two
cycles. -/
theorem calls_match_returns_of_short_subroutine :
    ∃ machine, Machine.boot [0x22, 0x04, 0x00, 0x00, 0x00, 0xEE] 0 (.cycling #[]) false =
        .ok machine ∧
      let called := ((⟨machine, 0⟩ : Console).step false).1
      let returned := ((called.advanceClock 0.002).step false).1
      machine.calls.depth + 1 = called.machine.calls.depth ∧
      returned.machine.counter = machine.counter + 2 ∧ returned.machine.calls = machine.calls := by
  obtain ⟨machine, started, calls, deeper, returns, level⟩ :
      ∃ machine, Machine.boot [0x22, 0x04, 0x00, 0x00, 0x00, 0xEE] 0 (.cycling #[]) false =
          .ok machine ∧
        let called := ((⟨machine, 0⟩ : Console).step false).1
        ((⟨machine, 0⟩ : Console).execution? .step).any Execution.completesCall = true ∧
        machine.calls.depth + 1 = called.machine.calls.depth ∧
        ((called.advanceClock 0.002).execution? .step).any Execution.completesReturn = true ∧
        ((called.advanceClock 0.002).step false).1.machine.calls.depth = machine.calls.depth :=
    ⟨_, (Machine.boot_eq_ok_iff _ 0 (.cycling #[]) false _).mpr ⟨by decide, rfl⟩,
      by decide +kernel, by decide +kernel, by decide +kernel, by decide +kernel⟩
  refine ⟨machine, started, deeper, ?_⟩
  apply (calls_match_returns started false []).2 [.advanceClock 0.002] calls ?_ returns level
  intro front isFront
  -- The clock does not change the depth.
  rcases List.prefix_cons_iff.mp isFront with rfl | ⟨rest, rfl, isRest⟩
  · exact Nat.le_of_eq deeper
  · rw [List.prefix_nil.mp isRest]
    exact Nat.le_of_eq deeper

end Console

end ChipEight
