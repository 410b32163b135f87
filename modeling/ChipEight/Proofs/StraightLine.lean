import ChipEight.Proofs.MemoryImage
import ChipEight.Proofs.Timekeeping
import Mathlib.Control.Monad.Basic
import Mathlib.Data.List.Chain

/-!
# Straight-line programs

Some instructions always go on to the next one, and look neither at the keypad nor at the timers. A
program that is a list of their words can be understood without a program counter: the words are
performed one after the other, on a machine that never fetches.

Stepping through such a program comes to the same. Fetching gives the words in their order, as long
as none of the stores reaches the program, and nothing but the cycle itself notices where the
program counter stands, how the timers run down and when the last cycle was. If a word cannot be
performed, then the cycle that gets to it fails for the same reason and leaves the same behind.
-/

namespace ChipEight

/-- Whether an instruction always goes on to the next one, and looks neither at the keypad nor at
the timers. -/
def Instruction.goesStraight : Instruction → Bool
  | .clearDisplay | .loadByte _ _ | .addByte _ _ => true
  | .copy _ _ | .or _ _ | .and _ _ | .xor _ _ => true
  | .add _ _ | .subtract _ _ | .subtractFrom _ _ | .shiftRight _ _ | .shiftLeft _ _ => true
  | .loadIndex _ | .addToIndex _ | .selectGlyph _ => true
  | .random _ _ | .draw _ _ _ => true
  | .storeDecimal _ | .storeRegisters _ | .loadRegisters _ => true
  | _ => false

namespace Word

/-- The two bytes of a word, the most significant first. -/
def bytes (word : Word) : List UInt8 :=
  [.ofNat (word.toNat / 256), .ofNat (word.toNat % 256)]

/-- The program that consists of words. -/
def program (words : List Word) : List UInt8 := words.flatMap bytes

/-- A program has two bytes for each of its words. -/
theorem length_program (words : List Word) : (program words).length = 2 * words.length := by
  induction words with
  | nil => rfl
  | cons word rest inductionHypothesis =>
    change (program rest).length + 2 = 2 * (rest.length + 1)
    omega

/-- The two bytes of a word make the word. -/
theorem toNat_of_bytes (word : Word) :
    word.toNat = 256 * (UInt8.ofNat (word.toNat / 256)).toNat +
      (UInt8.ofNat (word.toNat % 256)).toNat := by
  have bound := word.isLt
  simp only [UInt8.toNat_ofNat']
  omega

example : program [0x6007, 0xAFFF] = [0x60, 0x07, 0xAF, 0xFF] := by decide

end Word

/-- An execution stores nothing from one address up to another one, if it is completed. -/
def Execution.Spares (execution : Execution) (start stop : Int) : Prop :=
  execution.isCompleted = true →
    ∀ place, start ≤ place → place < stop → execution.gives? place = none

/-- What spares some places spares fewer places. -/
theorem Execution.Spares.inner {execution : Execution} {start stop first last : Int}
    (spared : execution.Spares start stop) (begun : start ≤ first) (ended : last ≤ stop) :
    execution.Spares first last := by
  intro completed place above below
  exact spared completed place (by omega) (by omega)

namespace Machine

/-- Performs words one after the other, wherever they come from, up to the first one that stops. -/
def performAll (tracing : Bool) (machine : Machine) : List Word → Machine × Except Stop Unit
  | [] => (machine, .ok ())
  | word :: rest =>
    let attempt := machine.perform tracing word.toNat
    match attempt.result with
    | .ok _ => attempt.machine.performAll tracing rest
    | .error stop => (attempt.machine, .error stop)

/-- Words that are all performed are performed one by one. -/
theorem performAll_cons_eq_ok_iff {tracing : Bool} {machine left : Machine} {word : Word}
    {rest : List Word} :
    machine.performAll tracing (word :: rest) = (left, .ok ()) ↔
      ∃ flow, (machine.perform tracing word.toNat).result = .ok flow ∧
        (machine.perform tracing word.toNat).machine.performAll tracing rest =
          (left, .ok ()) := by
  rw [performAll]
  cases (machine.perform tracing word.toNat).result with
  | ok flow => simp
  | error stop => simp

/-! ## Words in the memory -/

/-- The memory holds words one after the other, from an address on. -/
def HoldsWords (machine : Machine) (address : Int) : List Word → Prop
  | [] => True
  | word :: rest => machine.HoldsWord address word ∧ machine.HoldsWords (address + 2) rest

/-- It holds the words whose bytes it holds. -/
theorem holdsWords_of_read {machine : Machine} {address : Int} {words : List Word}
    (stands : ∀ (position : Nat) (byte : UInt8), (Word.program words)[position]? = some byte →
      machine.memory.read (address + position) = .ok byte) :
    machine.HoldsWords address words := by
  induction words generalizing address with
  | nil => trivial
  | cons word rest inductionHypothesis =>
    constructor
    · have high := stands 0 _ rfl
      rw [Int.natCast_zero, Int.add_zero] at high
      exact ⟨_, _, high, stands 1 _ rfl, word.toNat_of_bytes⟩
    · apply inductionHypothesis
      intro position byte listed
      have later := stands (position + 2) byte listed
      rw [Int.add_assoc, Int.add_comm 2]
      exact later

/-- It still holds them as long as none of their places changes. -/
theorem HoldsWords.of_read_eq {machine after : Machine} {address : Int} {words : List Word}
    (held : machine.HoldsWords address words)
    (same : ∀ place, address ≤ place → place < address + 2 * words.length →
      after.memory.read place = machine.memory.read place) :
    after.HoldsWords address words := by
  induction words generalizing address with
  | nil => trivial
  | cons word rest inductionHypothesis =>
    obtain ⟨⟨high, low, first, second, value⟩, later⟩ := held
    rw [List.length_cons] at same
    constructor
    · exact ⟨high, low, (same address (by omega) (by omega)).trans first,
        (same (address + 1) (by omega) (by omega)).trans second, value⟩
    · apply inductionHypothesis later
      intro place begun within
      exact same place (by omega) (by omega)

/-! ## What only cycles see to -/

/-- Two machines that differ at most in what cycles see to: the program counter, the timers, the
reading of the last cycle, and whether the display counts as changed. -/
def SameButCycles (machine other : Machine) : Prop :=
  other = { machine with
    counter := other.counter
    timers := other.timers
    lastCycle := other.lastCycle
    redraw := other.redraw }

namespace SameButCycles

variable {machine other : Machine} {instruction : Instruction}

/-- An instruction that goes straight has the same answer on both machines, and leaves machines that
are still alike. -/
theorem execute (alike : SameButCycles machine other) (straight : instruction.goesStraight = true) :
    (other.execute instruction).2 = (machine.execute instruction).2 ∧
      SameButCycles (machine.execute instruction).1 (other.execute instruction).1 := by
  obtain ⟨counter, timers, lastCycle, redraw, rfl⟩ :
      ∃ counter timers lastCycle redraw, other = { machine with
        counter := counter, timers := timers, lastCycle := lastCycle, redraw := redraw } :=
    ⟨_, _, _, _, alike⟩
  cases instruction with
  | returnFromCall | jump _ | call _ | jumpOffset _ => cases straight
  | skipIfByte _ _ | skipUnlessByte _ _ | skipIfSame _ _ | skipUnlessSame _ _ => cases straight
  | skipIfHeld _ | skipUnlessHeld _ | awaitKey _ => cases straight
  | readDelay _ | setDelay _ | setSound _ => cases straight
  | draw x y height =>
    simp only [execute_draw]
    cases machine.memory.sprite machine.index height.val with
    | error fault => exact ⟨rfl, rfl⟩
    | ok sprite =>
      simp only [Machine.drawSprite, Machine.register]
      rcases machine.display.draw sprite _ _ with ⟨display, fault | hit⟩
      · exact ⟨rfl, rfl⟩
      · exact ⟨rfl, rfl⟩
  | selectGlyph x =>
    simp only [execute_selectGlyph, Machine.register]
    split
    · exact ⟨rfl, rfl⟩
    · exact ⟨rfl, rfl⟩
  | loadRegisters x =>
    obtain ⟨loaded, answer⟩ := @loadFrom_congr machine { machine with
      counter := counter, timers := timers, lastCycle := lastCycle, redraw := redraw } rfl rfl
      machine.index (registersUpTo x)
    refine ⟨congrArg (Except.map fun _ => Flow.next) answer, ?_⟩
    rw [SameButCycles, execute_loadRegisters_frame, machine.execute_loadRegisters_frame]
    exact congrArg (fun registers => { machine with
      registers := registers
      counter := counter, timers := timers, lastCycle := lastCycle, redraw := redraw }) loaded
  | _ => exact ⟨rfl, rfl⟩

/-- What begins a cycle is only what cycles see to. -/
theorem opened (alike : SameButCycles machine other) (now : Seconds) :
    SameButCycles machine (other.opened now) := by
  rw [alike]
  rfl

/-- What ends a cycle is only what cycles see to. -/
theorem closed (alike : SameButCycles machine other) (flow : Flow) (now : Seconds) :
    SameButCycles machine ((other.advance flow).tick now) := by
  rw [alike]
  rfl

end SameButCycles

/-- An instruction that goes straight goes on to the next one if it completes. -/
theorem flow_of_goesStraight {machine : Machine} {instruction : Instruction} {flow : Flow}
    (straight : instruction.goesStraight = true)
    (completion : (machine.execute instruction).2 = .ok flow) : flow = .next := by
  cases instruction with
  | returnFromCall | jump _ | call _ | jumpOffset _ => cases straight
  | skipIfByte _ _ | skipUnlessByte _ _ | skipIfSame _ _ | skipUnlessSame _ _ => cases straight
  | skipIfHeld _ | skipUnlessHeld _ | awaitKey _ => cases straight
  | readDelay _ | setDelay _ | setSound _ => cases straight
  | draw x y height =>
    rw [execute_draw] at completion
    split at completion
    · exact thenNext_eq_ok completion
    · cases completion
  | selectGlyph x =>
    rw [execute_selectGlyph] at completion
    split at completion
    · exact (Except.ok.inj completion).symm
    · cases completion
  | storeDecimal _ | storeRegisters _ | loadRegisters _ => exact thenNext_eq_ok completion
  | _ => exact (Except.ok.inj completion).symm

/-- It does not make a register wait. -/
theorem awaiting_of_goesStraight {instruction : Instruction} (machine : Machine)
    (straight : instruction.goesStraight = true) :
    (machine.execute instruction).1.awaiting = machine.awaiting := by
  apply machine.execute_awaiting
  rintro x rfl
  cases straight

/-! ## Stepping -/

/-- A machine is stepped through words that lie ahead of it. But for what cycles see to, it is the
machine on which the words are performed directly. -/
structure Ahead (direct stepped : Machine) (words : List Word) : Prop where
  alike : SameButCycles direct stepped
  runs : stepped.awaiting = none
  held : stepped.HoldsWords stepped.counter words

namespace Ahead

variable {direct stepped : Machine} {word : Word} {rest : List Word} {now : Seconds}

/-- A due cycle executes the first of the words. -/
theorem executes (ahead : Ahead direct stepped (word :: rest)) {instruction : Instruction}
    (recognised : Instruction.ofWord? word = some instruction)
    (due : stepped.isThrottled now = false) :
    stepped.execution? now = some ⟨stepped.opened now, instruction⟩ :=
  execution?_of_recognised due ahead.runs ((stepped.fetch_eq_ok_iff word).mpr ahead.held.1)
    recognised

variable (straight : (Instruction.ofWord? word).any Instruction.goesStraight = true)
  (due : stepped.isThrottled now = false)
include straight due

/-- If the word can be performed, then a due cycle goes on to the next one, and the others still lie
ahead unless the memory is changed there. -/
theorem step_of_ok (ahead : Ahead direct stepped (word :: rest)) {directTracing : Bool}
    {flow : Flow} (performed : (direct.perform directTracing word.toNat).result = .ok flow)
    (spared : ∀ execution, stepped.execution? now = some execution →
      execution.Spares (stepped.counter + 2) (stepped.counter + 2 + 2 * rest.length))
    (tracing : Bool) :
    (stepped.step tracing now).result = .ok (some .next) ∧
      (stepped.step tracing now).machine.counter = stepped.counter + 2 ∧
      Ahead (direct.perform directTracing word.toNat).machine (stepped.step tracing now).machine
        rest := by
  obtain ⟨instruction, recognised, goes⟩ := (Option.any_eq_true ..).mp straight
  obtain ⟨left, answer⟩ := direct.perform_of_recognised directTracing recognised
  obtain ⟨same, alike⟩ := (ahead.alike.opened now).execute goes
  have executes := ahead.executes recognised due
  rcases (step_cycle tracing stepped now).of_executes executes with
    ⟨moved, completion, result, after⟩ | ⟨fault, refusal, -, -⟩
  · obtain rfl := flow_of_goesStraight goes completion
    have counter : ((stepped.opened now).execute instruction).1.counter = stepped.counter :=
      (stepped.opened now).execute_counter instruction
    have completed : Execution.isCompleted ⟨stepped.opened now, instruction⟩ = true := by
      rw [Execution.isCompleted, completion]
      rfl
    rw [after, left]
    refine ⟨result, congrArg (· + 2) counter, alike.closed .next now, ?_, ?_⟩
    · exact ((stepped.opened now).awaiting_of_goesStraight goes).trans ahead.runs
    · change HoldsWords _ (((stepped.opened now).execute instruction).1.counter + 2) rest
      rw [counter]
      apply ahead.held.2.of_read_eq
      intro place above below
      exact Execution.read_outcome _ (spared _ executes completed place above below)
  · rw [answer, ← same] at performed
    change ((stepped.opened now).execute instruction).2 = _ at refusal
    rw [refusal] at performed
    cases performed

/-- If the word cannot be performed, then its instruction is refused, and a due cycle fails for the
same reason and leaves the same behind. -/
theorem step_of_error (ahead : Ahead direct stepped (word :: rest)) {directTracing : Bool}
    {stop : Stop} (stopped : (direct.perform directTracing word.toNat).result = .error stop)
    (tracing : Bool) :
    ∃ fault, stop = .refused fault ∧
      (stepped.step tracing now).result =
        .error (.execution (some word.toNat) stepped.counter fault) ∧
      (stepped.step tracing now).machine.counter = stepped.counter ∧
      SameButCycles (direct.perform directTracing word.toNat).machine
        (stepped.step tracing now).machine := by
  obtain ⟨instruction, recognised, goes⟩ := (Option.any_eq_true ..).mp straight
  obtain ⟨left, answer⟩ := direct.perform_of_recognised directTracing recognised
  obtain ⟨same, alike⟩ := (ahead.alike.opened now).execute goes
  have coded := (Instruction.ofWord?_eq_some_iff word instruction).mp recognised
  rw [answer, ← same] at stopped
  rcases (step_cycle tracing stepped now).of_executes (ahead.executes recognised due) with
    ⟨moved, completion, -, -⟩ | ⟨fault, refusal, result, after⟩
  · change ((stepped.opened now).execute instruction).2 = _ at completion
    rw [completion] at stopped
    cases stopped
  · change ((stepped.opened now).execute instruction).2 = _ at refusal
    rw [refusal] at stopped
    rw [result, after, left, coded]
    exact ⟨fault, (Except.error.inj stopped).symm, rfl,
      (stepped.opened now).execute_counter instruction, alike⟩

end Ahead

/-- A machine that was started with a program of words has them ahead of it. Performing them
directly may begin at another reading of the clock. -/
theorem ahead_of_boot {words : List Word} {now directNow : Seconds} {random : RandomSource}
    {shiftInPlace : Bool} {machine direct : Machine}
    (started : Machine.boot (Word.program words) now random shiftInPlace = .ok machine)
    (directStarted : Machine.boot (Word.program words) directNow random shiftInPlace =
      .ok direct) : Ahead direct machine words := by
  have stands := @Machine.read_of_boot _ _ _ _ _ started
  obtain ⟨_, rfl⟩ := (Machine.boot_eq_ok_iff ..).mp started
  obtain ⟨_, rfl⟩ := (Machine.boot_eq_ok_iff ..).mp directStarted
  refine ⟨rfl, rfl, holdsWords_of_read ?_⟩
  intro position byte listed
  obtain ⟨within, rfl⟩ := List.getElem?_eq_some_iff.mp listed
  exact stands within

end Machine

namespace Console

open Machine

/-- Cycles at given readings of the clock. -/
def cyclesAt (readings : List Seconds) : List Event :=
  readings.flatMap fun reading => [.setClock reading, .step]

/-- The least time between two cycles lies between any reading and the next one. -/
def Spaced (readings : List Seconds) : Prop :=
  readings.IsChain fun last now => ¬ now - last < cyclePeriod

instance (readings : List Seconds) : Decidable (Spaced readings) :=
  inferInstanceAs (Decidable (List.IsChain _ readings))

/-- At the first of several readings that are spaced, from that of the last cycle on, a cycle is
due. -/
theorem due_of_spaced {machine : Machine} {reading : Seconds} {rest : List Seconds}
    (spaced : Spaced (machine.lastCycle.toList ++ reading :: rest)) :
    machine.isThrottled reading = false ∧ Spaced (reading :: rest) := by
  rw [isThrottled_eq]
  cases last : machine.lastCycle with
  | none =>
    rw [last] at spaced
    exact ⟨rfl, spaced⟩
  | some before =>
    rw [last] at spaced
    obtain ⟨apart, later⟩ := List.isChain_cons_cons.mp spaced
    exact ⟨decide_eq_false apart, later⟩

/-- No instruction that a run completes stores anything from one address up to another one. -/
def Spares (tracing : Bool) (console : Console) (events : List Event) (start stop : Int) : Prop :=
  ∀ execution ∈ console.history tracing events, execution.Spares start stop

/-- The first of the cycles, and then the others. -/
theorem run_cyclesAt_cons (tracing : Bool) (console : Console) (reading : Seconds)
    (rest : List Seconds) :
    let stepped := { console with now := reading }.step tracing
    console.run tracing (cyclesAt (reading :: rest)) =
      ((stepped.1.run tracing (cyclesAt rest)).1,
        stepped.2 :: (stepped.1.run tracing (cyclesAt rest)).2) := rfl

/-- What spares some places in all the cycles spares them in the first cycle and in the others. -/
theorem spares_cyclesAt_cons_iff {tracing : Bool} {console : Console} {reading : Seconds}
    {rest : List Seconds} {start stop : Int} :
    console.Spares tracing (cyclesAt (reading :: rest)) start stop ↔
      (∀ execution, console.machine.execution? reading = some execution →
        execution.Spares start stop) ∧
      ({ console with now := reading }.step tracing).1.Spares tracing (cyclesAt rest) start
        stop := by
  have listed : console.history tracing (cyclesAt (reading :: rest)) =
      (console.machine.execution? reading).toList ++
        ({ console with now := reading }.step tracing).1.history tracing (cyclesAt rest) := rfl
  simp only [Spares, listed, List.forall_mem_append, Option.mem_toList]

/-- A cycle at the first of several readings goes from a word that can be performed to the next one,
and neither changes the words that lie ahead nor comes too close to the other readings. -/
theorem step_of_ahead {direct : Machine} {console : Console} {word : Word} {rest : List Word}
    {reading : Seconds} {more : List Seconds} {directTracing : Bool} {flow : Flow}
    (ahead : Ahead direct console.machine (word :: rest))
    (straight : (Instruction.ofWord? word).any Instruction.goesStraight = true)
    (performed : (direct.perform directTracing word.toNat).result = .ok flow)
    (spaced : Spaced (console.machine.lastCycle.toList ++ reading :: more))
    (spared : ∀ execution, console.machine.execution? reading = some execution →
      execution.Spares (console.machine.counter + 2)
        (console.machine.counter + 2 + 2 * rest.length))
    (tracing : Bool) :
    let stepped := { console with now := reading }.step tracing
    stepped.2.result = .ok (some .next) ∧
      stepped.1.machine.counter = console.machine.counter + 2 ∧
      Ahead (direct.perform directTracing word.toNat).machine stepped.1.machine rest ∧
      Spaced (stepped.1.machine.lastCycle.toList ++ more) := by
  intro stepped
  obtain ⟨due, spacedLater⟩ := due_of_spaced spaced
  obtain ⟨result, counter, aheadLater⟩ := ahead.step_of_ok straight due performed spared tracing
  have lastCycle : stepped.1.machine.lastCycle = some reading := by
    rw [(Console.step_cycle tracing { console with now := reading }).lastCycle_eq, due]
    rfl
  rw [lastCycle]
  exact ⟨result, counter, aheadLater, spacedLater⟩

/-- Words that lie ahead and that can be performed are stepped through, each by one cycle, and the
others still lie ahead.

Proof: by induction on the words. A cycle goes from one to the next, and what it stores is not where
the others are. -/
theorem run_of_ahead {direct left : Machine} {console : Console} {front later : List Word}
    {readings more : List Seconds} {tracing directTracing : Bool}
    (ahead : Ahead direct console.machine (front ++ later))
    (straight : ∀ word ∈ front, (Instruction.ofWord? word).any Instruction.goesStraight = true)
    (performed : direct.performAll directTracing front = (left, .ok ()))
    (count : readings.length = front.length)
    (spaced : Spaced (console.machine.lastCycle.toList ++ (readings ++ more))) {start stop : Int}
    (begun : start ≤ console.machine.counter)
    (within : console.machine.counter + 2 * (front ++ later).length ≤ stop)
    (spared : console.Spares tracing (cyclesAt readings) start stop) :
    let reached := console.run tracing (cyclesAt readings)
    reached.2.map (·.result) = List.replicate front.length (.ok (some .next)) ∧
      reached.1.machine.counter = console.machine.counter + 2 * front.length ∧
      Ahead left reached.1.machine later ∧
      Spaced (reached.1.machine.lastCycle.toList ++ more) := by
  induction front generalizing direct console readings with
  | nil =>
    obtain rfl := List.eq_nil_of_length_eq_zero count
    obtain rfl := (Prod.mk.inj performed).1
    exact ⟨rfl, (Int.add_zero _).symm, ahead, spaced⟩
  | cons word rest inductionHypothesis =>
    cases readings with
    | nil => cases count
    | cons reading readings =>
      obtain ⟨flow, first, others⟩ := performAll_cons_eq_ok_iff.mp performed
      obtain ⟨straightFirst, straightOthers⟩ := List.forall_mem_cons.mp straight
      obtain ⟨sparedFirst, sparedOthers⟩ := spares_cyclesAt_cons_iff.mp spared
      rw [List.cons_append] at ahead within
      rw [List.length_cons] at within
      obtain ⟨result, counter, aheadOthers, spacedOthers⟩ :=
        step_of_ahead ahead straightFirst first spaced
          (fun execution executes =>
            (sparedFirst execution executes).inner (by omega) (by omega)) tracing
      obtain ⟨results, moved, aheadLater, spacedLater⟩ :=
        inductionHypothesis aheadOthers straightOthers others (Nat.succ.inj count) spacedOthers
          (by omega) (by omega) sparedOthers
      refine ⟨congrArg₂ List.cons result results, ?_, aheadLater, spacedLater⟩
      rw [run_cyclesAt_cons, moved, counter, List.length_cons]
      omega

/-- Stepping through a straight-line program is performing its words. Every list of words that fits
into the memory, all of whose instructions go straight, starts a machine. Let the words be performed
directly, and let as many cycles be due, none of which stores anything in the program. As long as
all words can be performed, each cycle goes on to the next word, the program counter is behind the
last one, and the two machines are the same but for what cycles see to. If the next word cannot be
performed, then its instruction is refused, and the next cycle fails with the word, its address and
the same fault, and leaves the same behind.

Proof: the words lie ahead of the machine when it has been started, and from then on each cycle
takes one of them. -/
theorem stepping_performs_words {words : List Word} (fits : words.length ≤ 1792)
    (straight : ∀ word ∈ words, (Instruction.ofWord? word).any Instruction.goesStraight = true)
    (now directNow : Seconds) (random : RandomSource) (shiftInPlace : Bool) :
    ∃ machine original,
      Machine.boot (Word.program words) now random shiftInPlace = .ok machine ∧
      Machine.boot (Word.program words) directNow random shiftInPlace = .ok original ∧
      ∀ (tracing directTracing : Bool) (front later : List Word) (direct : Machine)
        (readings : List Seconds), words = front ++ later →
        original.performAll directTracing front = (direct, .ok ()) →
        readings.length = front.length → Spaced readings →
        let start : Console := ⟨machine, now⟩
        start.Spares tracing (cyclesAt readings) 0x200 (0x200 + 2 * words.length) →
        let stepped := start.run tracing (cyclesAt readings)
        (stepped.2.map (·.result) = List.replicate front.length (.ok (some .next)) ∧
          stepped.1.machine.counter = 0x200 + 2 * front.length ∧
          SameButCycles direct stepped.1.machine) ∧
        ∀ (word : Word) (rest : List Word) (stop : Stop) (reading : Seconds),
          later = word :: rest →
          (direct.perform directTracing word.toNat).result = .error stop →
          Spaced (readings ++ [reading]) →
          let failed := ({ stepped.1 with now := reading } : Console).step tracing
          ∃ fault, stop = .refused fault ∧
            failed.2.result =
              .error (.execution (some word.toNat) (0x200 + 2 * front.length) fault) ∧
            failed.1.machine.counter = 0x200 + 2 * front.length ∧
            SameButCycles (direct.perform directTracing word.toNat).machine
              failed.1.machine := by
  have short : (Word.program words).length ≤ Memory.programCapacity := by
    rw [Word.length_program, Memory.programCapacity]
    omega
  have started := (Machine.boot_eq_ok_iff _ now random shiftInPlace _).mpr ⟨short, rfl⟩
  have directStarted := (Machine.boot_eq_ok_iff _ directNow random shiftInPlace _).mpr ⟨short, rfl⟩
  refine ⟨_, _, started, directStarted, ?_⟩
  rintro tracing directTracing front later direct readings rfl performed count spaced start spared
    stepped
  have straightFront : ∀ word ∈ front,
      (Instruction.ofWord? word).any Instruction.goesStraight = true :=
    fun word member => straight word (List.mem_append_left _ member)
  have law {more : List Seconds} (spacedMore : Spaced (readings ++ more)) :=
    @run_of_ahead _ _ start _ _ _ _ tracing _ (ahead_of_boot started directStarted) straightFront
      performed count spacedMore _ _ (Int.le_refl 0x200) (Int.le_refl _) spared
  constructor
  · obtain ⟨results, counter, ahead, -⟩ := law ((List.append_nil readings).symm ▸ spaced)
    exact ⟨results, counter, ahead.alike⟩
  · rintro word rest stop reading rfl stopped spacedMore failed
    obtain ⟨-, counter, ahead, spacedLast⟩ := law spacedMore
    have straightWord := straight word (List.mem_append_right _ List.mem_cons_self)
    obtain ⟨due, -⟩ := due_of_spaced spacedLast
    obtain ⟨fault, same, result, stays, alike⟩ :=
      ahead.step_of_error straightWord due stopped tracing
    rw [counter] at result stays
    exact ⟨fault, same, result, stays, alike⟩

/-- The program `6007 AFFF F155` stores two registers at the last address of the memory. Its first
two words are performed, and its third one stops, on both machines with the same left in the
memory. -/
theorem stepping_performs_words_of_store_at_end :
    ([0x6007, 0xAFFF, 0xF155] : List Word).length ≤ 1792 ∧
    ∃ machine direct, Machine.boot (Word.program [0x6007, 0xAFFF, 0xF155]) 0 (.cycling #[]) false =
        .ok machine ∧
      machine.performAll false [0x6007, 0xAFFF] = (direct, .ok ()) ∧
      let stepped := (⟨machine, 0⟩ : Console).run false (cyclesAt [0, 0.002])
      let failed := ({ stepped.1 with now := 0.004 } : Console).step false
      stepped.1.machine.counter = 0x204 ∧ stepped.1.machine.registers = direct.registers ∧
      failed.2.result = .error (.execution (some 0xF155) 0x204 (.memoryBounds 0x1000 1)) ∧
      failed.1.machine.memory = (direct.perform false 0xF155).machine.memory := by
  have fits : ([0x6007, 0xAFFF, 0xF155] : List Word).length ≤ 1792 := by decide
  have number : ((0xF155 : Word).toNat : Int) = 0xF155 := rfl
  have straight : ([0x6007, 0xAFFF, 0xF155] : List Word).all
      (fun word => (Instruction.ofWord? word).any Instruction.goesStraight) = true := by
    decide +kernel
  obtain ⟨machine, original, started, directStarted, law⟩ :=
    stepping_performs_words fits (List.all_eq_true.mp straight) 0 0 (.cycling #[]) false
  obtain rfl := Except.ok.inj (started.symm.trans directStarted)
  obtain ⟨direct, performed, stopped, unstored⟩ :
      ∃ direct, machine.performAll false [0x6007, 0xAFFF] = (direct, .ok ()) ∧
        (direct.perform false 0xF155).result = .error (.refused (.memoryBounds 0x1000 1)) ∧
        ∀ execution ∈ (⟨machine, 0⟩ : Console).history false (cyclesAt [0, 0.002]),
          execution.stored = [] := by
    obtain ⟨_, rfl⟩ := (Machine.boot_eq_ok_iff ..).mp started
    exact ⟨_, Prod.ext rfl (by decide +kernel), by decide +kernel, by decide +kernel⟩
  have spared : (⟨machine, 0⟩ : Console).Spares false (cyclesAt [0, 0.002]) 0x200 0x206 := by
    intro execution member _ place _ _
    rw [Execution.gives?, unstored execution member, Memory.given?, List.getElem?_nil, ite_self]
  obtain ⟨⟨-, counter, alike⟩, failing⟩ := law false false [0x6007, 0xAFFF] [0xF155] direct
    [0, 0.002] rfl performed rfl (by decide +kernel) spared
  rw [← number] at stopped
  obtain ⟨fault, same, result, -, left⟩ :=
    failing 0xF155 [] _ 0.004 rfl stopped (by decide +kernel)
  obtain rfl := Stop.refused.inj same
  rw [number] at result left
  refine ⟨fits, machine, direct, started, performed, counter, ?_, result, ?_⟩
  · rw [alike]
  · rw [left]

end Console

end ChipEight
