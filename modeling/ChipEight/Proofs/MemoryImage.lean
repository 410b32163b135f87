import ChipEight.Proofs.Refusals
import ChipEight.Proofs.Transfers

/-!
# Where the bytes of the memory come from

Booting puts the font and the program into the memory. Afterwards only the two stores write to it:
fetching, drawing and loading read it, and a program may write over itself and over the font. Each
store gives values to the addresses from the index on, those of decimal digits or those of
registers, and the addresses that lie in the memory get them whether the store is completed or
refused at the end of the memory.

The byte at an address is therefore the value that the latest store to reach the address gave to it,
or else the byte that booting put there.
-/

namespace ChipEight

namespace Memory

variable {before after : Memory} {address place value : Int} {values : List Int}

/-- The byte at a place has a value. -/
def Holds (memory : Memory) (place value : Int) : Prop :=
  ∃ byte : UInt8, memory.read place = .ok byte ∧ value = byte.toNat

/-- What putting values at consecutive addresses gives to a place, if it reaches it. -/
def given? (address : Int) (values : List Int) (place : Int) : Option Int :=
  if address ≤ place then values[(place - address).toNat]? else none

/-- Places are reached from the first address on, as many as there are values. -/
theorem isSome_given?_iff :
    (given? address values place).isSome = true ↔
      address ≤ place ∧ place < address + values.length := by
  unfold given?
  split
  · rw [Option.isSome_iff_ne_none, ne_eq, List.getElem?_eq_none_iff]
    omega
  · simp only [Option.isSome_none, Bool.false_eq_true, false_iff]
    omega

/-- Each value is given to the place at its own distance. -/
theorem given?_add (address : Int) (values : List Int) (distance : Nat) :
    given? address values (address + distance) = values[distance]? := by
  have reached : address ≤ address + distance := by omega
  have apart : (address + distance - address).toNat = distance := by omega
  rw [given?, if_pos reached, apart]

/-- A place in the memory has the value given to it, or else the value that it had. -/
theorem Overwritten.holds (stored : Overwritten before after address values)
    (inside : place ≤ 4095) (held : before.Holds place value) :
    after.Holds place ((given? address values place).getD value) := by
  by_cases reached : address ≤ place ∧ place < address + values.length
  · obtain ⟨distance, rfl⟩ : ∃ distance : Nat, place = address + distance :=
      ⟨(place - address).toNat, by omega⟩
    have listed : values[distance]? = some values[distance] :=
      List.getElem?_eq_getElem (by omega)
    rw [given?_add, listed]
    exact stored.covered distance _ listed inside
  · have nothing : given? address values place = none := by
      rw [← Option.not_isSome_iff_eq_none, isSome_given?_iff]
      exact reached
    obtain ⟨byte, stands, same⟩ := held
    rw [nothing]
    exact ⟨byte, (stored.elsewhere place (by omega)).trans stands, same⟩

/-- The byte that booting puts at a place: that of the program from its start on, that of the font
before it, and zero where neither has one. -/
def image (program : List UInt8) (place : Nat) : UInt8 :=
  if programStart ≤ place then program.getD (place - programStart) 0 else font.getD place 0

/-- The font ends before programs start. -/
theorem length_font : font.length = 80 := rfl

/-- A blank memory holds the font and zeros. -/
theorem getElem_blank {place : Nat} (inside : place < 4096) :
    Memory.blank.bytes[place] = font.getD place 0 := by
  rw [Memory.blank, getElem_overlay, if_pos (Nat.zero_le place), Nat.sub_zero,
    Vector.getElem_replicate]

/-- So each place of it has the value of its byte of the font, or the value zero. -/
theorem holds_blank {place : Nat} (inside : place < 4096) :
    Memory.blank.Holds place (font.getD place 0).toNat := by
  refine ⟨font.getD place 0, ?_, rfl⟩
  rw [read_eq_ok_iff]
  exact ⟨⟨place, inside⟩, rfl, getElem_blank inside⟩

/-- A booted memory holds the font and the program. -/
theorem holds_image {program : List UInt8} {now : Seconds} {random : RandomSource}
    {shiftInPlace : Bool} {machine : Machine}
    (started : Machine.boot program now random shiftInPlace = .ok machine) {place : Nat}
    (inside : place < 4096) : machine.memory.Holds place (image program place).toNat := by
  obtain ⟨_, rfl⟩ := (Machine.boot_eq_ok_iff ..).mp started
  refine ⟨_, (read_eq_ok_iff _ _ _).mpr ⟨⟨place, inside⟩, rfl, rfl⟩, ?_⟩
  simp only [Fin.getElem_fin]
  rw [getElem_overlay, getElem_blank inside, image]
  split
  · rename_i later
    have short : font.length ≤ place := by
      rw [length_font]
      unfold programStart at later
      omega
    have noGlyph : font.getD place 0 = 0 := by
      rw [List.getD_eq_getElem?_getD, List.getElem?_eq_none short, Option.getD_none]
    rw [noGlyph]
  · rfl

end Memory

namespace Execution

variable (execution : Execution)

/-- The values that an execution puts at the index and after it. -/
def stored : List Int :=
  match execution.instruction with
  | .storeDecimal x => Machine.decimalDigits (execution.found.register x)
  | .storeRegisters x => (Machine.registersUpTo x).map execution.found.register
  | _ => []

/-- The value that an execution gives to a place of the memory, if it reaches it. -/
def gives? (place : Int) : Option Int :=
  Memory.given? execution.found.index execution.stored place

/-- The value that the latest of the executions to reach a place gave to it. -/
def latest? (history : List Execution) (place : Int) : Option Int :=
  history.reverse.findSome? (·.gives? place)

/-- What an execution leaves in the memory. -/
theorem overwritten_outcome (valid : execution.found.InRange) :
    Memory.Overwritten execution.found.memory execution.outcome.1.memory execution.found.index
      execution.stored := by
  obtain ⟨found, instruction⟩ := execution
  cases instruction with
  | storeDecimal x =>
    exact Memory.overwritten_writeAll (Machine.isByte_decimalDigits valid x) valid.index.1
  | storeRegisters x =>
    exact Memory.overwritten_writeAll (Machine.isByte_registersUpTo valid.registers x) valid.index.1
  | _ =>
    refine ⟨?_, ?_⟩
    · intro distance value listed
      cases listed
    · intro place _
      exact congrArg (Memory.read · place) (found.execute_memory (by simp) (by simp))

/-- An execution leaves the places alone that it does not reach. -/
theorem read_outcome {place : Int} (spared : execution.gives? place = none) :
    execution.outcome.1.memory.read place = execution.found.memory.read place := by
  rw [← Option.not_isSome_iff_eq_none, gives?, Memory.isSome_given?_iff] at spared
  have outside : place < execution.found.index ∨
      execution.found.index + execution.stored.length ≤ place := by omega
  obtain ⟨found, instruction⟩ := execution
  cases instruction with
  | storeDecimal x => exact Memory.read_writeAll_outside outside
  | storeRegisters x => exact Memory.read_writeAll_outside outside
  | _ => exact congrArg (Memory.read · place) (found.execute_memory (by simp) (by simp))

/-- Storing registers gives each of them to the place at its own distance from the index. -/
theorem gives?_of_storeRegisters {x register : Register}
    (stores : execution.instruction = .storeRegisters x) (listed : register ≤ x) :
    execution.gives? (execution.found.index + register.val) =
      some (execution.found.register register) := by
  have values : execution.stored =
      (Machine.registersUpTo x).map execution.found.register := by
    rw [stored, stores]
  rw [gives?, Memory.given?_add, values, List.getElem?_map,
    Machine.getElem?_registersUpTo listed, Option.map_some]

/-- Storing the decimal digits of a byte gives three digits that write it to the index and the two
places after it. -/
theorem gives?_of_storeDecimal (valid : execution.found.InRange) {x : Register}
    (stores : execution.instruction = .storeDecimal x) :
    ∃ hundreds tens ones : Int,
      execution.gives? execution.found.index = some hundreds ∧
      execution.gives? (execution.found.index + 1) = some tens ∧
      execution.gives? (execution.found.index + 2) = some ones ∧
      (0 ≤ hundreds ∧ hundreds ≤ 9) ∧ (0 ≤ tens ∧ tens ≤ 9) ∧ (0 ≤ ones ∧ ones ≤ 9) ∧
      100 * hundreds + 10 * tens + ones = execution.found.register x := by
  obtain ⟨hundreds, tens, ones, digits, tensRange, onesRange, hundredsRange, written⟩ :=
    Machine.decimalDigits_value (execution.found.register x)
  have byte := valid.registers x
  have values : execution.stored = [hundreds, tens, ones] := by
    rw [← digits, stored, stores]
  have listed (distance : Nat) : execution.gives? (execution.found.index + distance) =
      [hundreds, tens, ones][distance]? := by
    rw [gives?, Memory.given?_add, values]
  have first := listed 0
  rw [Int.natCast_zero, Int.add_zero] at first
  exact ⟨hundreds, tens, ones, first, listed 1, listed 2, hundredsRange byte.1 byte.2, tensRange,
    onesRange, written⟩

/-- Only the two stores reach places, three from the index on or as many as there are registers. -/
theorem isSome_gives?_iff (place : Int) :
    (execution.gives? place).isSome = true ↔
      (∃ x, execution.instruction = .storeDecimal x ∧
        execution.found.index ≤ place ∧ place ≤ execution.found.index + 2) ∨
      ∃ x, execution.instruction = .storeRegisters x ∧
        execution.found.index ≤ place ∧ place ≤ execution.found.index + x.val := by
  obtain ⟨found, instruction⟩ := execution
  rw [gives?, Memory.isSome_given?_iff]
  cases instruction with
  | storeDecimal x =>
    have count : (stored ⟨found, .storeDecimal x⟩).length = 3 := rfl
    rw [count]
    constructor
    · rintro ⟨first, last⟩
      exact Or.inl ⟨x, rfl, first, by omega⟩
    · rintro (⟨_, _, first, last⟩ | ⟨_, impossible, _⟩)
      · exact ⟨first, by omega⟩
      · cases impossible
  | storeRegisters x =>
    have count : (stored ⟨found, .storeRegisters x⟩).length = x.val + 1 :=
      (List.length_map _).trans (Machine.length_registersUpTo x)
    rw [count]
    constructor
    · rintro ⟨first, last⟩
      exact Or.inr ⟨x, rfl, first, by omega⟩
    · rintro (⟨_, impossible, _⟩ | ⟨y, same, first, last⟩)
      · cases impossible
      · obtain rfl := Instruction.storeRegisters.inj same
        exact ⟨first, by omega⟩
  | _ => simp [stored]

/-- What the stores give. -/
structure Faithful : Prop where
  /-- Only the two stores reach places: three from the index on for decimal digits, and as many as
  there are registers for these. -/
  reaches : ∀ place, (execution.gives? place).isSome = true ↔
    (∃ x, execution.instruction = .storeDecimal x ∧
      execution.found.index ≤ place ∧ place ≤ execution.found.index + 2) ∨
    ∃ x, execution.instruction = .storeRegisters x ∧
      execution.found.index ≤ place ∧ place ≤ execution.found.index + x.val
  /-- Each register is given to the place at its own distance from the index. -/
  registers : ∀ x register : Register, execution.instruction = .storeRegisters x → register ≤ x →
    execution.gives? (execution.found.index + register.val) =
      some (execution.found.register register)
  /-- The three digits write the value of the register. -/
  digits : ∀ x, execution.instruction = .storeDecimal x →
    ∃ hundreds tens ones : Int,
      execution.gives? execution.found.index = some hundreds ∧
      execution.gives? (execution.found.index + 1) = some tens ∧
      execution.gives? (execution.found.index + 2) = some ones ∧
      (0 ≤ hundreds ∧ hundreds ≤ 9) ∧ (0 ≤ tens ∧ tens ≤ 9) ∧ (0 ≤ ones ∧ ones ≤ 9) ∧
      100 * hundreds + 10 * tens + ones = execution.found.register x

/-- Stores give what they should in a machine whose registers hold bytes. -/
theorem faithful (valid : execution.found.InRange) : execution.Faithful where
  reaches := execution.isSome_gives?_iff
  registers := fun _ _ => execution.gives?_of_storeRegisters
  digits := fun _ => execution.gives?_of_storeDecimal valid

/-- Places below all stores of a history were not reached by any. -/
theorem latest?_eq_none_of_above {history : List Execution} {least place : Int}
    (above : ∀ execution ∈ history, ∀ x,
      execution.instruction = .storeDecimal x ∨ execution.instruction = .storeRegisters x →
      least ≤ execution.found.index)
    (below : place < least) : latest? history place = none := by
  rw [latest?, List.findSome?_eq_none_iff]
  intro execution member
  rw [List.mem_reverse] at member
  rw [← Option.not_isSome_iff_eq_none, isSome_gives?_iff]
  rintro (⟨x, stores, reached, _⟩ | ⟨x, stores, reached, _⟩)
  · have := above execution member x (Or.inl stores)
    omega
  · have := above execution member x (Or.inr stores)
    omega

/-- What an execution makes of the value at a place of the memory. -/
theorem holds_outcome (valid : execution.found.InRange) {place value : Int}
    (inside : place ≤ 4095) (held : execution.found.memory.Holds place value) :
    execution.outcome.1.memory.Holds place ((execution.gives? place).getD value) :=
  (execution.overwritten_outcome valid).holds inside held

/-- The latest of a history that goes on after an execution is one of the others if any of them
reaches the place, and that execution otherwise. -/
theorem getD_latest?_cons (later : List Execution) (place value : Int) :
    (latest? (execution :: later) place).getD value =
      (latest? later place).getD ((execution.gives? place).getD value) := by
  simp only [latest?, List.reverse_cons, List.findSome?_append, List.findSome?_singleton,
    Option.getD_or]

end Execution

namespace Console

/-- What becomes of the value at a place of the memory in a run.

Proof: by induction on the events. An event changes the memory only by what it executes, and the
executions of the other events come later. -/
theorem holds_run {console : Console} (reachable : Reachable console) (tracing : Bool)
    (events : List Event) {place value : Int} (inside : place ≤ 4095)
    (held : console.machine.memory.Holds place value) :
    (console.run tracing events).1.machine.memory.Holds place
      ((Execution.latest? (console.history tracing events) place).getD value) := by
  induction events generalizing console value with
  | nil => exact held
  | cons event rest inductionHypothesis =>
    have next : Reachable (console.react tracing event).1 := reachable.react tracing event
    rcases console.part_react Machine.memory (fun _ _ _ _ _ _ _ _ => rfl) tracing event with
      ⟨nothing, same⟩ | ⟨execution, executes, found, left⟩
    · rw [history, nothing]
      exact inductionHypothesis next (same ▸ held)
    · have after := execution.holds_outcome (reachable.inRange_found executes) inside (found ▸ held)
      rw [history, executes, Option.toList_some, List.singleton_append,
        Execution.getD_latest?_cons]
      exact inductionHypothesis next (left ▸ after)

/-- Every program of at most 3584 bytes starts a machine, and in every run of the machine, failing
cycles included, each place of the memory holds what the latest store to reach it gave to it, and
what booting put there if none did. Stores give registers as they are and bytes in decimal digits.
While none of them reaches below its end, the font stays as it is. -/
theorem memory_holds_latest_store {program : List UInt8} (fits : program.length ≤ 3584)
    (now : Seconds) (random : RandomSource) (shiftInPlace : Bool) :
    ∃ machine, Machine.boot program now random shiftInPlace = .ok machine ∧
      ∀ (tracing : Bool) (events : List Event),
        let start : Console := ⟨machine, now⟩
        let memory := (start.run tracing events).1.machine.memory
        let history := start.history tracing events
        (∀ place : Nat, place < 4096 → memory.Holds place
          ((Execution.latest? history place).getD (Memory.image program place).toNat)) ∧
        (∀ execution ∈ history, execution.Faithful) ∧
        ((∀ execution ∈ history, ∀ x,
            execution.instruction = .storeDecimal x ∨ execution.instruction = .storeRegisters x →
            80 ≤ execution.found.index) →
          ∀ place : Nat, place < 80 → memory.Holds place (Memory.font.getD place 0).toNat) := by
  have started := (Machine.boot_eq_ok_iff program now random shiftInPlace _).mpr ⟨fits, rfl⟩
  refine ⟨_, started, ?_⟩
  intro tracing events start memory history
  have booted : Reachable start := .booted started
  have explained : ∀ place : Nat, place < 4096 → memory.Holds place
      ((Execution.latest? history place).getD (Memory.image program place).toNat) := by
    intro place inside
    exact holds_run booted tracing events (by omega) (Memory.holds_image started inside)
  refine ⟨explained, ?_, ?_⟩
  · intro execution member
    exact execution.faithful (booted.inRange_history tracing events execution member)
  · intro above place inFont
    have untouched : Execution.latest? history place = none :=
      Execution.latest?_eq_none_of_above above (by omega)
    have ofFont : Memory.image program place = Memory.font.getD place 0 :=
      if_neg (by unfold Memory.programStart; omega)
    have stands := explained place (by omega)
    rw [untouched, Option.getD_none, ofFont] at stands
    exact stands

/-- The program `6007 AFFF F155` stores two registers at the last address of the memory. The third
cycle fails, the first of the two registers stands there afterwards, and the font is as it was. -/
theorem memory_holds_latest_store_of_store_at_end :
    ([0x60, 0x07, 0xAF, 0xFF, 0xF1, 0x55] : List UInt8).length ≤ 3584 ∧
    ∃ machine, Machine.boot [0x60, 0x07, 0xAF, 0xFF, 0xF1, 0x55] 0 (.cycling #[]) false =
        .ok machine ∧
      let memory := ((⟨machine, 0⟩ : Console).run false
        [.step, .advanceClock 0.002, .step, .advanceClock 0.002, .step]).1.machine.memory
      memory.Holds 0xFFF 7 ∧ memory.Holds 0x204 0xF1 ∧ memory.Holds 0 0xF0 := by
  have fits : ([0x60, 0x07, 0xAF, 0xFF, 0xF1, 0x55] : List UInt8).length ≤ 3584 := by decide
  obtain ⟨machine, started, law⟩ := memory_holds_latest_store fits 0 (.cycling #[]) false
  obtain ⟨explained, -, intact⟩ :=
    law false [.step, .advanceClock 0.002, .step, .advanceClock 0.002, .step]
  obtain ⟨stored, kept, above⟩ :
      let history := (⟨machine, 0⟩ : Console).history false
        [.step, .advanceClock 0.002, .step, .advanceClock 0.002, .step]
      Execution.latest? history (0xFFF : Nat) = some 7 ∧
        Execution.latest? history (0x204 : Nat) = none ∧
        ∀ execution ∈ history, ∀ x,
          execution.instruction = .storeDecimal x ∨ execution.instruction = .storeRegisters x →
          80 ≤ execution.found.index := by
    obtain ⟨_, rfl⟩ := (Machine.boot_eq_ok_iff ..).mp started
    decide +kernel
  have stands := explained 0xFFF (by decide)
  have stays := explained 0x204 (by decide)
  rw [stored, Option.getD_some] at stands
  rw [kept, Option.getD_none] at stays
  exact ⟨fits, machine, started, stands, stays, intact above 0 (by decide)⟩

end Console

end ChipEight
