import ChipEight.Proofs.Drawing
import ChipEight.Proofs.Ranges

/-!
# The bitmap since it was last cleared

Each completed drawing inverts the pixels below the set bits of its sprite, as the registers, the
index and the memory were when it began. Clearing darkens all pixels, and nothing else changes any.
A pixel is therefore lit exactly if an odd number of the drawings since the last clearing, or since
the beginning, inverted it.

The flag register after a drawing says whether a lit pixel was darkened. It is written last, so that
the place of the sprite is read before, even from the flag register itself.
-/

namespace ChipEight

namespace Execution

/-- Whether an execution clears the display. -/
def clears (execution : Execution) : Bool := decide (execution.instruction = .clearDisplay)

/-- Whether an execution is a completed drawing with a set bit over a pixel. The bit is counted from
the most significant one of its byte, and the byte from the index on. -/
def inverts (execution : Execution) (column row : Int) : Bool :=
  execution.isCompleted && match execution.instruction with
    | .draw x y height =>
      let right := column - execution.found.register x
      let below := row - execution.found.register y
      decide ((0 ≤ right ∧ right < 8) ∧ 0 ≤ below ∧ below < height.val) &&
        match execution.found.memory.read (execution.found.index + below) with
        | .ok byte => byte.toBitVec.getLsbD (7 - right.toNat)
        | .error _ => false
    | _ => false

/-- What becomes of a pixel in an execution. -/
def shade (column row : Int) (lit : Bool) (execution : Execution) : Bool :=
  if execution.clears then false else lit != execution.inverts column row

/-- The executions after the last one that cleared the display. -/
def sinceCleared (history : List Execution) : List Execution :=
  (history.reverse.takeWhile fun execution => !execution.clears).reverse

/-- Over a history, a pixel that begins dark becomes lit exactly if it was inverted an odd number of
times since it was last cleared. -/
theorem shade_history (column row : Int) (history : List Execution) :
    history.foldl (shade column row) false =
      decide ((sinceCleared history).countP (·.inverts column row) % 2 = 1) := by
  unfold sinceCleared
  rw [List.foldl_eq_foldr_reverse, List.countP_reverse]
  induction history.reverse with
  | nil => rfl
  | cons latest older inductionHypothesis =>
    rw [List.foldr_cons, inductionHypothesis, List.takeWhile_cons]
    unfold shade
    cases latest.clears with
    | true => rfl
    | false =>
      rw [Bool.not_false, if_pos rfl, if_neg Bool.false_ne_true, List.countP_cons]
      have parity := Nat.mod_two_eq_zero_or_one
        ((older.takeWhile fun execution => !execution.clears).countP (·.inverts column row))
      cases latest.inverts column row with
      | false => simp
      | true =>
        rcases parity with even | odd
        · simp [Nat.add_mod, even]
        · simp [Nat.add_mod, odd]

/-- A drawing that was read from the memory inverts the pixels below the set bits of its sprite. -/
theorem inverts_of_sprite {found : Machine} {x y : Register} {height : Fin 16}
    {sprite : List UInt8} (completed : isCompleted ⟨found, .draw x y height⟩ = true)
    (read : found.memory.sprite found.index height.val = .ok sprite) (column row : Int) :
    inverts ⟨found, .draw x y height⟩ column row =
      Display.spriteBit sprite (column - found.register x) (row - found.register y) := by
  have rows := Memory.getElem?_of_sprite read
  simp only [inverts, completed, Bool.true_and, Display.spriteBit]
  generalize column - found.register x = right
  generalize row - found.register y = below
  by_cases above : 0 ≤ below
  · rw [rows below.toNat, Int.toNat_of_nonneg above]
    by_cases within : below.toNat < height.val
    · have short : below < (height.val : Int) := by omega
      rw [if_pos within]
      cases found.memory.read (found.index + below) with
      | ok byte => simp [above, short, Except.toOption]
      | error fault => simp [Except.toOption]
    · have beyond : ¬ below < (height.val : Int) := by omega
      simp [within, beyond]
  · simp [above]

/-- A drawing finds its sprite in the memory and is completed, or it is refused and changes nothing.
-/
theorem draw_cases {found : Machine} (valid : found.InRange) (x y : Register) (height : Fin 16) :
    (∃ sprite after hit, found.memory.sprite found.index height.val = .ok sprite ∧
      found.display.draw sprite (found.register x) (found.register y) = (after, .ok hit) ∧
      outcome ⟨found, .draw x y height⟩ =
        ({ { found with display := after }.setFlag hit with redraw := true }, .ok .next)) ∨
    ∃ fault, outcome ⟨found, .draw x y height⟩ = (found, .error fault) := by
  cases read : found.memory.sprite found.index height.val with
  | error fault => exact Or.inr ⟨fault, found.execute_draw_of_error read⟩
  | ok sprite =>
    obtain ⟨after, hit, drawn, -⟩ :=
      Display.draw_sprite sprite (valid.registers x).1 (valid.registers y).1 found.display
    exact Or.inl ⟨sprite, after, hit, rfl, drawn, found.execute_draw_of_sprite read drawn⟩

/-- A drawing inverts the pixels that it is said to invert, and none if it is refused. -/
theorem query_draw {found : Machine} (valid : found.InRange) (x y : Register) (height : Fin 16)
    {column row : Int} (inside : Display.Inside 64 32 column row) {lit : Bool}
    (before : found.display.query column row = .ok lit) :
    (outcome ⟨found, .draw x y height⟩).1.display.query column row =
      .ok (lit != inverts ⟨found, .draw x y height⟩ column row) := by
  rcases draw_cases valid x y height with ⟨sprite, after, hit, read, drawn, left⟩ | ⟨fault, left⟩
  · obtain ⟨other, otherHit, otherDrawn, pixels, -⟩ :=
      Display.draw_sprite sprite (valid.registers x).1 (valid.registers y).1 found.display
    obtain ⟨rfl, -⟩ := Prod.mk.inj (drawn.symm.trans otherDrawn)
    have completed : isCompleted ⟨found, .draw x y height⟩ = true := by
      rw [isCompleted, left]
      rfl
    rw [left, inverts_of_sprite completed read]
    exact (pixels column row inside).trans (congrArg _ before)
  · have refused : isCompleted ⟨found, .draw x y height⟩ = false := by
      rw [isCompleted, left]
      rfl
    have idle : inverts ⟨found, .draw x y height⟩ column row = false := by
      rw [inverts, refused, Bool.false_and]
    rw [left, idle, Bool.bne_false]
    exact before

/-- What becomes of a pixel of the bitmap in an execution. -/
theorem query_outcome (execution : Execution) (valid : execution.found.InRange) {column row : Int}
    (inside : Display.Inside 64 32 column row) {lit : Bool}
    (before : execution.found.display.query column row = .ok lit) :
    execution.outcome.1.display.query column row = .ok (shade column row lit execution) := by
  obtain ⟨found, instruction⟩ := execution
  unfold shade
  by_cases clear : instruction = .clearDisplay
  · subst clear
    exact Display.query_dark inside
  · have notClear : clears ⟨found, instruction⟩ = false := decide_eq_false clear
    rw [notClear, if_neg Bool.false_ne_true]
    by_cases draws : ∃ x y height, instruction = .draw x y height
    · obtain ⟨x, y, height, rfl⟩ := draws
      exact query_draw valid x y height inside before
    · have same : (found.execute instruction).1.display = found.display :=
        found.execute_display clear fun x y height same => draws ⟨x, y, height, same⟩
      have idle : inverts ⟨found, instruction⟩ column row = false := by
        cases instruction with
        | draw x y height => exact absurd ⟨x, y, height, rfl⟩ draws
        | _ => exact Bool.and_false _
      rw [idle, Bool.bne_false]
      change (found.execute instruction).1.display.query column row = _
      rw [same, before]

/-- After a completed drawing the flag register says whether some pixel was lit before it and is
dark after it. -/
theorem flag_of_draw {found : Machine} (valid : found.InRange) {x y : Register}
    {height : Fin 16} (completed : isCompleted ⟨found, .draw x y height⟩ = true) :
    let after := (outcome ⟨found, .draw x y height⟩).1
    let darkened := ∃ column row, Display.Inside 64 32 column row ∧
      found.display.query column row = .ok true ∧ after.display.query column row = .ok false
    (darkened → after.register flagRegister = 1) ∧
      (¬ darkened → after.register flagRegister = 0) := by
  rcases draw_cases valid x y height with ⟨sprite, display, hit, _, drawn, left⟩ | ⟨fault, left⟩
  · rw [left]
    intro after darkened
    have flag : after.register flagRegister = if hit then 1 else 0 :=
      (Machine.register_setRegister _ flagRegister flagRegister _).trans (if_pos rfl)
    have meaning : hit = true ↔ darkened :=
      Display.draw_darkens sprite (valid.registers x).1 (valid.registers y).1 drawn
    rw [flag]
    constructor
    · intro dark
      exact if_pos (meaning.mpr dark)
    · intro noneDark
      exact if_neg fun wasHit => noneDark (meaning.mp wasHit)
  · rw [isCompleted, left] at completed
    cases completed

end Execution

namespace Console

/-- What becomes of a pixel of the bitmap in a run. -/
theorem query_run {console : Console} (reachable : Reachable console) (tracing : Bool)
    (events : List Event) {column row : Int} (inside : Display.Inside 64 32 column row) {lit : Bool}
    (before : console.machine.display.query column row = .ok lit) :
    (console.run tracing events).1.machine.display.query column row =
      .ok ((console.history tracing events).foldl (Execution.shade column row) lit) := by
  induction events generalizing console lit with
  | nil => exact before
  | cons event rest inductionHypothesis =>
    have next : Reachable (console.react tracing event).1 := reachable.react tracing event
    rcases console.part_react Machine.display (fun _ _ _ _ _ _ _ _ => rfl) tracing event with
      ⟨nothing, same⟩ | ⟨execution, executes, found, left⟩
    · rw [history, nothing]
      apply inductionHypothesis next
      rw [same]
      exact before
    · rw [history, executes]
      apply inductionHypothesis next
      rw [left]
      apply execution.query_outcome (reachable.inRange_found executes) inside
      rw [found]
      exact before

/-- In every run of a program a pixel is lit exactly if an odd number of the drawings since the
bitmap was last cleared inverted it. If the next cycle completes a drawing, then the flag register
is one after it if some pixel was lit before and is dark after, and zero otherwise.

Proof: the pixel begins dark, and the run folds what each execution makes of it over the history.
Registers hold bytes in every reachable console, so that no sprite begins left of the bitmap or
above it. -/
theorem bitmap_since_cleared {program : List UInt8} {now : Seconds} {random : RandomSource}
    {shiftInPlace : Bool} {machine : Machine}
    (started : Machine.boot program now random shiftInPlace = .ok machine) (tracing : Bool)
    (events : List Event) :
    let reached := ((⟨machine, now⟩ : Console).run tracing events).1
    let history := (⟨machine, now⟩ : Console).history tracing events
    (∀ column row : Int, Display.Inside 64 32 column row →
      (reached.machine.display.query column row = .ok true ↔
        (Execution.sinceCleared history).countP (·.inverts column row) % 2 = 1)) ∧
    ∀ (execution : Execution) (x y : Register) (height : Fin 16),
      reached.execution? .step = some execution → execution.isCompleted = true →
      execution.instruction = .draw x y height →
      let after := (reached.step tracing).1.machine
      let darkened := ∃ column row : Int, Display.Inside 64 32 column row ∧
        reached.machine.display.query column row = .ok true ∧
        after.display.query column row = .ok false
      (darkened → after.register flagRegister = 1) ∧
        (¬ darkened → after.register flagRegister = 0) := by
  have booted : Reachable ⟨machine, now⟩ := .booted started
  intro reached history
  constructor
  · intro column row inside
    have dark : machine.display.query column row = .ok false := by
      obtain ⟨_, rfl⟩ := (Machine.boot_eq_ok_iff ..).mp started
      exact Display.query_dark inside
    have law : reached.machine.display.query column row =
        .ok (history.foldl (Execution.shade column row) false) :=
      query_run booted tracing events inside dark
    rw [law, Execution.shade_history, Except.ok.injEq, decide_eq_true_eq]
  · rintro ⟨found, _⟩ x y height executes completed rfl
    obtain rfl : found = reached.machine.opened reached.now := found_of_execution? executes
    have valid : (reached.machine.opened reached.now).InRange :=
      (booted.run tracing events).inRange.opened reached.now
    obtain ⟨flow, _, _, left⟩ := (reached.step_cycle tracing).of_isCompleted executes completed
    rw [left]
    exact Execution.flag_of_draw valid completed

/-- A program that draws the same glyph twice: its first pixel is lit after the first cycle, and the
second cycle sets the flag. -/
theorem bitmap_since_cleared_of_draw_twice :
    ∃ machine, Machine.boot [0xD0, 0x05, 0xD0, 0x05] 0 (.cycling #[]) false = .ok machine ∧
      let drawn := ((⟨machine, 0⟩ : Console).run false [.step, .advanceClock 0.002]).1
      drawn.machine.display.query 0 0 = .ok true ∧
      (drawn.step false).1.machine.register flagRegister = 1 := by
  obtain ⟨machine, started, odd, next, dark⟩ :
      ∃ machine, Machine.boot [0xD0, 0x05, 0xD0, 0x05] 0 (.cycling #[]) false = .ok machine ∧
        let drawn := ((⟨machine, 0⟩ : Console).run false [.step, .advanceClock 0.002]).1
        let history := (⟨machine, 0⟩ : Console).history false [.step, .advanceClock 0.002]
        (Execution.sinceCleared history).countP (·.inverts 0 0) % 2 = 1 ∧
        (drawn.execution? .step).map (fun execution =>
          (execution.instruction, execution.isCompleted)) = some (.draw 0 0 5, true) ∧
        ((drawn.step false).1.machine.display.query 0 0).toOption = some false :=
    ⟨_, (Machine.boot_eq_ok_iff _ 0 (.cycling #[]) false _).mpr ⟨by decide, rfl⟩,
      by decide +kernel, by decide +kernel, by decide +kernel⟩
  have law := bitmap_since_cleared started false [.step, .advanceClock 0.002]
  have inside : Display.Inside 64 32 0 0 := ⟨by decide, by decide⟩
  have lit := (law.1 0 0 inside).mpr odd
  obtain ⟨left, answer⟩ := Display.query_of_inside _ inside
  rw [answer] at dark
  obtain rfl : left = false := Option.some.inj dark
  obtain ⟨execution, executes, shown⟩ := Option.map_eq_some_iff.mp next
  obtain ⟨instruction, completed⟩ := Prod.mk.inj shown
  exact ⟨machine, started, lit,
    (law.2 execution 0 0 5 executes completed instruction).1 ⟨0, 0, inside, lit, answer⟩⟩

end Console

end ChipEight
