import ChipEight.Proofs.KeyWait

/-!
# The end of a wait

A wait for a key ends in the first cycle that finds one. A cycle that comes too early does not look
at the keypad, and keys that are pressed and let go between two looks are not noticed. Until the
wait ends, nothing inside of the machine changes: the host may change the keypad, and cycles change
the timers and what is remembered of the last cycle, but all the rest is as it was when the wait
began. The cycle that ends the wait puts the lowest held key into the register and moves on to the
next instruction. Up to there no cycle fails.
-/

namespace ChipEight

namespace Machine

/-- A machine whose wait for a key has ended: the register holds the number of the key, and the
program goes on with the next instruction. -/
def resumed (machine : Machine) (register : Register) (key : Key) : Machine :=
  { machine.setRegister register key.val with
    counter := machine.counter + 2
    awaiting := none }

/-- Two machines that differ at most in what changes also while a machine waits: the keypad, the
timers, the reading of the last cycle and the mark of a changed display. -/
def SameInside (machine other : Machine) : Prop :=
  other = { machine with
    keypad := other.keypad
    timers := other.timers
    lastCycle := other.lastCycle
    redraw := other.redraw }

namespace SameInside

variable {machine other third : Machine}

theorem refl (machine : Machine) : SameInside machine machine := rfl

theorem trans (first : SameInside machine other) (second : SameInside other third) :
    SameInside machine third := by
  unfold SameInside at first second
  rw [first] at second
  exact second

/-- Both wait for the same register, or for none. -/
theorem awaiting (alike : SameInside machine other) : other.awaiting = machine.awaiting := by
  unfold SameInside at alike
  rw [alike]

/-- They stay alike when the wait ends in both with the same key. -/
theorem resumed (alike : SameInside machine other) (register : Register) (key : Key) :
    SameInside (machine.resumed register key) (other.resumed register key) := by
  unfold SameInside at alike
  rw [alike]
  rfl

end SameInside

end Machine

namespace Console

open Machine

/-- Whether a cycle that begins now finds a key, if it looks for one: it does not come too early,
and some key is held down. -/
def findsKey (console : Console) : Bool :=
  !console.machine.isThrottled console.now && !console.machine.keypad.untouched

variable {console : Console} {register : Register}

/-- A cycle that finds no key leaves the machine waiting. It answers so, unless it comes too
early. -/
theorem step_of_no_key (waits : console.machine.awaiting = some register)
    (noneFound : console.findsKey = false) (tracing : Bool) :
    (console.step tracing).2.result =
        .ok (if console.machine.isThrottled console.now then none else some .wait) ∧
      SameInside console.machine (console.step tracing).1.machine := by
  have cycle := console.step_cycle tracing
  cases early : console.machine.isThrottled console.now with
  | true =>
    obtain ⟨answer, left⟩ := cycle.of_early early
    rw [answer, left]
    exact ⟨rfl, rfl⟩
  | false =>
    have untouched : (console.machine.opened console.now).keypad.untouched = true := by
      simpa [findsKey, early, opened] using noneFound
    obtain ⟨answer, left⟩ := cycle.of_waits early waits
    rw [answer, left, pollKeypad, dif_pos untouched, ← waits]
    exact ⟨rfl, rfl⟩

/-- A cycle that finds a key ends the wait. -/
theorem step_of_key (waits : console.machine.awaiting = some register)
    (found : console.findsKey = true) (tracing : Bool) :
    ∃ key, console.machine.keypad.isHeld key = true ∧
      (∀ lower < key, console.machine.keypad.isHeld lower = false) ∧
      (console.step tracing).2.result = .ok (some .next) ∧
      SameInside (console.machine.resumed register key) (console.step tracing).1.machine := by
  obtain ⟨due, touched⟩ : console.machine.isThrottled console.now = false ∧
      console.machine.keypad.untouched = false := by
    simpa [findsKey] using found
  obtain ⟨key, lowest⟩ := Option.isSome_iff_exists.mp
    (Keypad.isSome_lowest?_of_touched (ne_true_of_eq_false touched))
  obtain ⟨held, below⟩ := (Keypad.lowest?_eq_some_iff _ key).mp lowest
  have same : (console.machine.opened console.now).keypad.lowest? = some key := lowest
  obtain ⟨answer, left⟩ := (console.step_cycle tracing).of_waits due waits
  rw [answer, left, pollKeypad_eq, same]
  exact ⟨key, held, below, rfl, rfl⟩

/-- As long as no cycle finds a key, the machine waits and stays the same inside.

Proof: by induction on the events, each of which keeps the machine the same inside. -/
theorem run_of_no_key (waits : console.machine.awaiting = some register) {tracing : Bool}
    {events : List Event}
    (noneFound : ∀ begun ∈ console.cycleStarts tracing events, begun.findsKey = false) :
    SameInside console.machine (console.run tracing events).1.machine := by
  induction events generalizing console with
  | nil => exact SameInside.refl console.machine
  | cons event rest inductionHypothesis =>
    have onwards {after : Console} (alike : SameInside console.machine after.machine)
        (noneLater : ∀ begun ∈ after.cycleStarts tracing rest, begun.findsKey = false) :
        SameInside console.machine (after.run tracing rest).1.machine :=
      alike.trans (inductionHypothesis (alike.awaiting.trans waits) noneLater)
    cases event with
    | setClock reading => exact @onwards { console with now := reading } rfl noneFound
    | advanceClock seconds => exact @onwards (console.advanceClock seconds) rfl noneFound
    | key pressed down => exact @onwards (console.pressKey pressed down) rfl noneFound
    | step =>
      rw [cycleStarts_step] at noneFound
      obtain ⟨now, later⟩ := List.forall_mem_cons.mp noneFound
      exact onwards (step_of_no_key waits now tracing).2 later

/-- A wait for a key ends in the first cycle that finds one, whatever happens meanwhile.

A cycle before which none has found a key finds the machine the same inside as when the wait began,
still waiting, with the program counter where it was. If it finds no key either, then it answers
that the machine waits, or nothing if it comes too early, and leaves the machine the same inside
again. If it finds a key, then it answers that the program goes on, the register holds the lowest
key that is held down, the program counter is at the next instruction, and the machine no longer
waits. Nothing else inside of it has changed. If no cycle of the run finds a key, then the machine
is the same inside at its end. -/
theorem wait_ends_at_first_key (waits : console.machine.awaiting = some register) (tracing : Bool)
    (events : List Event) :
    let cycles := console.cycleStarts tracing events
    (∀ (front later : List Console) (begun : Console), cycles = front ++ begun :: later →
      (∀ earlier ∈ front, earlier.findsKey = false) →
      SameInside console.machine begun.machine ∧
      (begun.findsKey = false →
        (begun.step tracing).2.result =
            .ok (if begun.machine.isThrottled begun.now then none else some .wait) ∧
          SameInside console.machine (begun.step tracing).1.machine) ∧
      (begun.findsKey = true → ∃ key,
        begun.machine.keypad.isHeld key = true ∧
          (∀ lower < key, begun.machine.keypad.isHeld lower = false) ∧
          (begun.step tracing).2.result = .ok (some .next) ∧
          SameInside (console.machine.resumed register key) (begun.step tracing).1.machine)) ∧
    ((∀ begun ∈ cycles, begun.findsKey = false) →
      SameInside console.machine (console.run tracing events).1.machine) := by
  intro cycles
  refine ⟨?_, run_of_no_key waits⟩
  intro front later begun listed noneBefore
  obtain ⟨beginning, _, rfl, rfl⟩ := exists_beginning_of_cycle listed
  have alike := run_of_no_key waits noneBefore
  have stillWaits := alike.awaiting.trans waits
  refine ⟨alike, ?_, ?_⟩
  · intro noneFound
    obtain ⟨answer, left⟩ := step_of_no_key stillWaits noneFound tracing
    exact ⟨answer, alike.trans left⟩
  · intro found
    obtain ⟨key, held, below, answer, left⟩ := step_of_key stillWaits found tracing
    exact ⟨key, held, below, answer, (alike.resumed register key).trans left⟩

/-- The program `F10A` waits after its first cycle. A key is pressed and let go between two cycles,
and another one during a cycle that comes too early. The cycle after that finds none of them. When
two keys are held down, the next cycle puts the lower one into the register and moves on. -/
theorem wait_ends_at_first_key_of_two_held :
    ∃ machine, Machine.boot [0xF1, 0x0A] 0 (.cycling #[]) false = .ok machine ∧
      let events := [.setClock 0.002, .key 5 true, .key 5 false, .step, .key 9 true,
        .setClock 0.0025, .step, .key 9 false, .setClock 0.004, .step, .key 7 true, .key 3 true,
        .setClock 0.006, .step]
      ∃ front begun, (Console.step false ⟨machine, 0⟩).1.cycleStarts false events =
          front ++ [begun] ∧
        front.map (fun earlier => (earlier.machine.isThrottled earlier.now, earlier.findsKey)) =
          [(false, false), (true, false), (false, false)] ∧
        begun.machine.counter = 0x200 ∧
        (begun.step false).2.result.toOption = some (some .next) ∧
        (begun.step false).1.machine.register 1 = 3 ∧
        (begun.step false).1.machine.counter = 0x202 := by
  obtain ⟨machine, started, waits, start, front, begun, listed, throttled, noneFound, found,
      lowest⟩ :
      ∃ machine, Machine.boot [0xF1, 0x0A] 0 (.cycling #[]) false = .ok machine ∧
        let waiting := (Console.step false ⟨machine, 0⟩).1
        let events := [.setClock 0.002, .key 5 true, .key 5 false, .step, .key 9 true,
          .setClock 0.0025, .step, .key 9 false, .setClock 0.004, .step, .key 7 true, .key 3 true,
          .setClock 0.006, .step]
        waiting.machine.awaiting = some 1 ∧ waiting.machine.counter = 0x200 ∧
        ∃ front begun, waiting.cycleStarts false events = front ++ [begun] ∧
          front.map (fun earlier =>
            (earlier.machine.isThrottled earlier.now, earlier.findsKey)) =
            [(false, false), (true, false), (false, false)] ∧
          (∀ earlier ∈ front, earlier.findsKey = false) ∧ begun.findsKey = true ∧
          begun.machine.keypad.lowest? = some 3 :=
    ⟨_, (Machine.boot_eq_ok_iff [0xF1, 0x0A] 0 (.cycling #[]) false _).mpr ⟨by decide, rfl⟩,
      by decide +kernel, by decide +kernel, [_, _, _], _, rfl, by decide +kernel,
      by decide +kernel, by decide +kernel, by decide +kernel⟩
  obtain ⟨alike, -, ends⟩ :=
    (wait_ends_at_first_key waits false _).1 front [] begun listed noneFound
  obtain ⟨key, held, below, answer, left⟩ := ends found
  obtain rfl : key = 3 :=
    Option.some.inj (((Keypad.lowest?_eq_some_iff _ key).mpr ⟨held, below⟩).symm.trans lowest)
  unfold SameInside at alike left
  refine ⟨machine, started, front, begun, listed, throttled, ?_, ?_, ?_, ?_⟩
  · rw [alike]
    exact start
  · rw [answer]
    rfl
  · rw [left]
    exact (Machine.register_setRegister _ 1 1 _).trans (if_pos rfl)
  · rw [left]
    change (Console.step false ⟨machine, 0⟩).1.machine.counter + 2 = 0x202
    rw [start]
    rfl

/-- What comes after the end of a wait may fail. The program `F00A 00EE` waits after its first
cycle. A key ends the wait in the next one, and the one after that returns without a call. -/
theorem not_all_cycles_complete_after_wait :
    ¬ ∀ (console : Console) (register : Register), Reachable console →
      console.machine.awaiting = some register → ∀ events : List Event,
        ∀ report ∈ (console.run false events).2, report.result.isOk = true := by
  intro always
  obtain ⟨machine, started, waits, fails⟩ :
      ∃ machine, Machine.boot [0xF0, 0x0A, 0x00, 0xEE] 0 (.cycling #[]) false = .ok machine ∧
        let waiting := (Console.step false ⟨machine, 0⟩).1
        waiting.machine.awaiting = some 0 ∧
        ¬ ∀ report ∈ (waiting.run false
            [.key 5 true, .setClock 0.002, .step, .setClock 0.004, .step]).2,
          report.result.isOk = true :=
    ⟨_, (Machine.boot_eq_ok_iff _ 0 (.cycling #[]) false _).mpr ⟨by decide, rfl⟩,
      by decide +kernel, by decide +kernel⟩
  have reachable : Reachable (Console.step false ⟨machine, 0⟩).1 :=
    (Reachable.booted started).react false .step
  exact fails (always _ 0 reachable waits _)

end Console

end ChipEight
