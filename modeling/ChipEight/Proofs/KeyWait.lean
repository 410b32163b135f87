import ChipEight.Proofs.Effects
import ChipEight.Proofs.Reachability

/-!
# Waiting for a key

A machine that waits for a key does not fetch: it remembers the register and looks at the keypad.
It could as well forget the register and fetch again. While it waits, the program counter stays at
the instruction that made it wait, and nothing is stored in the memory, so that the two bytes there
are still those of the instruction. Executing it again looks at the same keypad for the same
register.

A cycle that comes too early is the exception. It looks at nothing, so that the machine goes on
remembering the register, or goes on without one.
-/

namespace ChipEight

namespace Machine

/-- The word of the instruction that waits for a key. -/
def awaitWord (register : Register) : Word := 0xF00A ||| BitVec.ofNat 16 register.val <<< 8

/-- The number of that word is the code of the instruction. -/
theorem awaitWord_toNat (register : Register) :
    (awaitWord register).toNat = (Instruction.awaitKey register).code := by
  revert register
  decide

/-- If a register waits, then the program counter is at the instruction that waits for it. -/
def WaitsAtInstruction (machine : Machine) : Prop :=
  ∀ register, machine.awaiting = some register →
    machine.HoldsWord machine.counter (awaitWord register)

/-- Every way of a cycle keeps this. A machine comes to wait by completing the instruction or by
looking at the keypad in vain, and in both cases neither the memory nor the program counter changes.
An instruction that is refused does not make it wait. -/
theorem WaitsAtInstruction.cycle {machine after : Machine} {now : Seconds}
    {result : Except MachineError (Option Flow)} (before : WaitsAtInstruction machine)
    (way : Cycle machine now after result) : WaitsAtInstruction after := by
  intro waiting waits
  cases way with
  | throttled early => exact before waiting waits
  | polled register due already =>
    obtain ⟨rfl, stays⟩ := (machine.opened now).pollKeypad_waits waits
    rw [stays, pollKeypad_frame]
    exact before waiting already
  | unfetched fault due runs unread => exact before waiting waits
  | unknown word due runs fetched unrecognised => exact before waiting waits
  | refused word instruction fault due runs fetched recognised refusal =>
    have notAwait : ∀ x, instruction ≠ .awaitKey x := by
      rintro x rfl
      cases refusal
    rw [execute_awaiting _ notAwait] at waits
    exact absurd (runs.symm.trans waits) nofun
  | completed word instruction flow due runs fetched recognised completion =>
    obtain ⟨rfl, rfl⟩ := (machine.opened now).execute_waits runs completion waits
    have coded := (Instruction.ofWord?_eq_some_iff word _).mp recognised
    have same : word = awaitWord waiting :=
      BitVec.eq_of_toNat_eq (coded.symm.trans (awaitWord_toNat waiting).symm)
    have held : machine.HoldsWord machine.counter (awaitWord waiting) :=
      same ▸ (machine.fetch_eq_ok_iff word).mp fetched
    have memory : ((machine.opened now).execute (.awaitKey waiting)).1.memory = machine.memory :=
      (machine.opened now).execute_memory nofun nofun
    have counter : ((machine.opened now).execute (.awaitKey waiting)).1.counter =
        machine.counter := (machine.opened now).execute_counter (.awaitKey waiting)
    rw [← counter] at held
    exact held.of_memory_eq memory

/-- Looking at the keypad for a register does not depend on whether a register waits. -/
theorem pollKeypad_awaiting (machine : Machine) (register : Register)
    (awaiting : Option Register) :
    { machine with awaiting := awaiting }.pollKeypad register = machine.pollKeypad register := by
  simp only [pollKeypad_eq]
  cases machine.keypad.lowest? with
  | none => rfl
  | some key => rfl

/-- A due cycle of a machine that waits looks at the keypad. -/
theorem Cycle.of_waits {machine after : Machine} {register : Register} {now : Seconds}
    {result : Except MachineError (Option Flow)} (cycle : Cycle machine now after result)
    (due : machine.isThrottled now = false) (waits : machine.awaiting = some register) :
    result = .ok (some ((machine.opened now).pollKeypad register).2) ∧
      after = (((machine.opened now).pollKeypad register).1.advance
        ((machine.opened now).pollKeypad register).2).tick now := by
  cases cycle with
  | throttled early => exact absurd (due.symm.trans early) nofun
  | polled other _ already =>
    obtain rfl := Option.some.inj (waits.symm.trans already)
    exact ⟨rfl, rfl⟩
  | unfetched _ _ runs _ => exact absurd (waits.symm.trans runs) nofun
  | unknown _ _ runs _ _ => exact absurd (waits.symm.trans runs) nofun
  | refused _ _ _ _ runs _ _ _ => exact absurd (waits.symm.trans runs) nofun
  | completed _ _ _ _ runs _ _ _ => exact absurd (waits.symm.trans runs) nofun

/-- A due cycle of a machine that runs and is at the waiting instruction executes it. -/
theorem execution?_of_awaitWord {machine : Machine} {register : Register} {now : Seconds}
    (held : machine.HoldsWord machine.counter (awaitWord register))
    (due : machine.isThrottled now = false) (runs : machine.awaiting = none) :
    machine.execution? now = some ⟨machine.opened now, .awaitKey register⟩ := by
  have fetched : machine.fetch = .ok (awaitWord register) := (machine.fetch_eq_ok_iff _).mpr held
  have recognised : Instruction.ofWord? (awaitWord register) = some (.awaitKey register) :=
    (Instruction.ofWord?_eq_some_iff _ _).mpr (awaitWord_toNat register).symm
  exact execution?_of_recognised due runs fetched recognised

/-- A cycle that looks at the keypad answers and leaves the same as one that executes the
instruction again. -/
theorem Cycle.resumes {machine polled executed : Machine} {register : Register} {now : Seconds}
    {answer otherAnswer : Except MachineError (Option Flow)}
    (waits : machine.awaiting = some register)
    (held : machine.HoldsWord machine.counter (awaitWord register))
    (due : machine.isThrottled now = false)
    (first : Cycle machine now polled answer)
    (second : Cycle { machine with awaiting := none } now executed otherAnswer) :
    answer = otherAnswer ∧ polled = executed := by
  have again : ({ machine with awaiting := none }.opened now).pollKeypad register =
      (machine.opened now).pollKeypad register :=
    (machine.opened now).pollKeypad_awaiting register none
  have executes : { machine with awaiting := none }.execution? now =
      some ⟨{ machine with awaiting := none }.opened now, .awaitKey register⟩ :=
    execution?_of_awaitWord held due rfl
  obtain ⟨rfl, rfl⟩ := first.of_waits due waits
  obtain ⟨flow, answered, rfl, rfl⟩ := second.of_isCompleted executes rfl
  obtain rfl := Except.ok.inj answered
  rw [← again]
  exact ⟨rfl, rfl⟩

/-- Before the least time between two cycles has passed, a cycle does nothing but offer the reading
to the timers. -/
theorem step_of_isThrottled {machine : Machine} {now : Seconds} (tracing : Bool)
    (early : machine.isThrottled now = true) :
    machine.step tracing now = ⟨{ machine with redraw := false }.tick now, .ok none, ""⟩ := by
  simp only [step, early, if_true]

end Machine

namespace Console

open Machine

/-- The machine of every reachable console waits at its instruction, if it waits. -/
theorem Reachable.waitsAtInstruction {console : Console} (reachable : Reachable console) :
    console.machine.WaitsAtInstruction := by
  refine reachable.invariant ?_ ?_ ?_
  · intro program now random shiftInPlace machine started register waits
    obtain ⟨_, rfl⟩ := (Machine.boot_eq_ok_iff ..).mp started
    cases waits
  · intro machine keypad before
    exact before
  · intro machine now after result before way
    exact before.cycle way

/-- In a reachable console that waits, the program counter is at the word of the waiting
instruction. At every reading of the clock at which a cycle is due, a cycle that looks at the keypad
has the same answer and leaves the same machine as a cycle that has forgotten the register and
fetches the instruction again. At all other readings neither of them answers anything, and they
leave the same machine except for the register, which the one goes on remembering and the other has
still forgotten. -/
theorem Reachable.waiting_step {console : Console} (reachable : Reachable console)
    {register : Register} (waits : console.machine.awaiting = some register) :
    (console.machine.counter ≤ 0xFFE ∧
      console.machine.HoldsWord console.machine.counter (awaitWord register)) ∧
    ∀ (tracing otherTracing : Bool) (now : Seconds),
      (console.machine.isThrottled now = false →
        (console.machine.step tracing now).result =
          ({ console.machine with awaiting := none }.step otherTracing now).result ∧
        (console.machine.step tracing now).machine =
          ({ console.machine with awaiting := none }.step otherTracing now).machine) ∧
      (console.machine.isThrottled now = true →
        (console.machine.step tracing now).result = .ok none ∧
        ({ console.machine with awaiting := none }.step otherTracing now).result = .ok none ∧
        ({ console.machine with awaiting := none }.step otherTracing now).machine.awaiting = none ∧
        (console.machine.step tracing now).machine =
          { ({ console.machine with awaiting := none }.step otherTracing now).machine with
            awaiting := some register }) := by
  have held := reachable.waitsAtInstruction register waits
  have fits := held.fits
  refine ⟨⟨by omega, held⟩, ?_⟩
  intro tracing otherTracing now
  constructor
  · intro due
    exact Cycle.resumes waits held due (Machine.step_cycle tracing console.machine now)
      (Machine.step_cycle otherTracing { console.machine with awaiting := none } now)
  · intro early
    have otherEarly : { console.machine with awaiting := none }.isThrottled now = true := early
    rw [step_of_isThrottled tracing early, step_of_isThrottled otherTracing otherEarly, ← waits]
    exact ⟨rfl, rfl, rfl, rfl⟩

/-- The program `F00A` waits after its first cycle. At the same reading of the clock another cycle
comes too early, and two thousandths of a second later one is due. -/
theorem boot_await : ∃ machine, Machine.boot [0xF0, 0x0A] 0 (.cycling #[]) false = .ok machine ∧
    (Console.step false ⟨machine, 0⟩).1.machine.awaiting = some 0 ∧
    (Console.step false ⟨machine, 0⟩).1.machine.isThrottled 0 = true ∧
    (Console.step false ⟨machine, 0⟩).1.machine.isThrottled 0.002 = false :=
  ⟨_, (Machine.boot_eq_ok_iff [0xF0, 0x0A] 0 (.cycling #[]) false _).mpr ⟨by decide, rfl⟩,
    by decide +kernel, by decide +kernel, by decide +kernel⟩

/-- In this program fetching again makes no difference to the next due cycle. -/
theorem waiting_step_of_await_first :
    ∃ machine, Machine.boot [0xF0, 0x0A] 0 (.cycling #[]) false = .ok machine ∧
      let waiting := (Console.step false ⟨machine, 0⟩).1.machine
      waiting.HoldsWord waiting.counter 0xF00A ∧
      (waiting.step false 0.002).result =
        ({ waiting with awaiting := none }.step true 0.002).result ∧
      (waiting.step false 0.002).machine =
        ({ waiting with awaiting := none }.step true 0.002).machine := by
  obtain ⟨machine, started, waits, early, due⟩ := boot_await
  have reachable : Reachable (Console.step false ⟨machine, 0⟩).1 :=
    (Reachable.booted started).react false .step
  obtain ⟨⟨_, held⟩, law⟩ := reachable.waiting_step waits
  exact ⟨machine, started, held, (law false true 0.002).1 due⟩

/-- It makes a difference at some readings of the clock: a second cycle that comes too early goes on
remembering the register, or goes on without one. -/
theorem not_waiting_step_at_every_reading :
    ¬ ∀ (console : Console) (register : Register), Reachable console →
      console.machine.awaiting = some register → ∀ now : Seconds,
        (console.machine.step false now).result =
          ({ console.machine with awaiting := none }.step false now).result ∧
        (console.machine.step false now).machine =
          ({ console.machine with awaiting := none }.step false now).machine := by
  intro always
  obtain ⟨machine, started, waits, early, due⟩ := boot_await
  have reachable : Reachable (Console.step false ⟨machine, 0⟩).1 :=
    (Reachable.booted started).react false .step
  obtain ⟨_, same⟩ := always _ 0 reachable waits 0
  have otherEarly :
      { (Console.step false ⟨machine, 0⟩).1.machine with awaiting := none }.isThrottled 0 = true :=
    early
  rw [step_of_isThrottled false early, step_of_isThrottled false otherEarly] at same
  have remembered : (Console.step false ⟨machine, 0⟩).1.machine.awaiting = none :=
    congrArg Machine.awaiting same
  exact absurd (waits.symm.trans remembered) nofun

end Console

end ChipEight
