import ChipEight.Proofs.Effects
import ChipEight.Proofs.MemoryAccess
import ChipEight.Proofs.Reachability

/-!
# The ranges that a running machine keeps

Registers and timers hold bytes, the index sixteen bits. The program counter stays close to the
memory: an instruction is executed only if it was fetched, so that its address is at most 0xFFE,
and from there the farthest move is a jump of twelve bits plus the first register. For the same
reason the addresses on the call stack lie just behind an instruction in the memory.

The machine's own types do not say this; `Reachable.inRange` says it of every reachable console.
Each step of the proof follows one way in which the machine changes.
-/

namespace ChipEight

namespace Bits

/-- Below a power of two, combining bits stays below it. -/
theorem isByte_or {first second : Int} (left : IsByte first) (right : IsByte second) :
    IsByte (Bits.or first second) := by
  obtain ⟨first, rfl⟩ := Int.eq_ofNat_of_zero_le left.1
  obtain ⟨second, rfl⟩ := Int.eq_ofNat_of_zero_le right.1
  have leftBound : first < 2 ^ 8 := by have := left.2; omega
  have rightBound : second < 2 ^ 8 := by have := right.2; omega
  have bound := Nat.or_lt_two_pow leftBound rightBound
  change IsByte ((first ||| second : Nat) : Int)
  constructor <;> omega

/-- Common bits of two bytes make a byte. -/
theorem isByte_and {first second : Int} (left : IsByte first) (right : IsByte second) :
    IsByte (Bits.and first second) := by
  obtain ⟨first, rfl⟩ := Int.eq_ofNat_of_zero_le left.1
  obtain ⟨second, rfl⟩ := Int.eq_ofNat_of_zero_le right.1
  have rightBound : second < 2 ^ 8 := by have := right.2; omega
  have bound := Nat.and_lt_two_pow first rightBound
  change IsByte ((first &&& second : Nat) : Int)
  constructor <;> omega

/-- Bits in which two bytes differ make a byte. -/
theorem isByte_xor {first second : Int} (left : IsByte first) (right : IsByte second) :
    IsByte (Bits.xor first second) := by
  obtain ⟨first, rfl⟩ := Int.eq_ofNat_of_zero_le left.1
  obtain ⟨second, rfl⟩ := Int.eq_ofNat_of_zero_le right.1
  have leftBound : first < 2 ^ 8 := by have := left.2; omega
  have rightBound : second < 2 ^ 8 := by have := right.2; omega
  have bound := Nat.xor_lt_two_pow leftBound rightBound
  change IsByte ((first ^^^ second : Nat) : Int)
  constructor <;> omega

end Bits

/-- A lowered byte is a byte. -/
theorem Timers.isByte_lowered {count : Int} (byte : IsByte count) : IsByte (lowered count) :=
  ⟨lowered_nonneg byte.1, Int.le_trans (lowered_le count) byte.2⟩

namespace Machine

/-- What is in range in a machine that runs. -/
structure InRange (machine : Machine) : Prop where
  registers : ∀ register : Register, IsByte (machine.register register)
  index : 0 ≤ machine.index ∧ machine.index ≤ 0xFFFF
  counter : 0 ≤ machine.counter ∧ machine.counter ≤ 0x10FE
  depth : machine.calls.depth ≤ 16
  addresses : ∀ address ∈ machine.calls.frames, 2 ≤ address ∧ address ≤ 0x1000
  delay : IsByte machine.timers.delay
  sound : IsByte machine.timers.sound
  waiting : ∀ register, machine.awaiting = some register → machine.counter ≤ 0xFFE

/-- What a shift reads is a byte if the registers hold bytes. -/
theorem isByte_shiftSource {machine : Machine}
    (bytes : ∀ register : Register, IsByte (machine.register register)) (x y : Register) :
    IsByte (machine.shiftSource x y) := by
  unfold shiftSource
  split
  · exact bytes x
  · exact bytes y

/-- A word is fetched from two addresses in the memory. -/
theorem counter_of_fetch {machine : Machine} {word : Word} (fetched : machine.fetch = .ok word) :
    0 ≤ machine.counter ∧ machine.counter ≤ 0xFFE := by
  obtain ⟨high, low, first, second, _⟩ := (machine.fetch_eq_ok_iff word).mp fetched
  have begin := machine.memory.inside_of_read _ first
  have finish := machine.memory.inside_of_read _ second
  omega

variable {machine : Machine} {instruction : Instruction}

/-- A transfer that succeeds goes on to the next instruction. -/
theorem thenNext_eq_ok {effect : Machine × Except Fault Unit} {flow : Flow}
    (completion : (thenNext effect).2 = .ok flow) : flow = .next := by
  unfold thenNext at completion
  cases outcome : effect.2 with
  | error fault =>
    rw [outcome] at completion
    cases completion
  | ok _ =>
    rw [outcome] at completion
    exact (Except.ok.inj completion).symm

/-- A conditional skip is no jump. -/
theorem skipWhen_ne_jump (condition : Bool) (target : Int) : skipWhen condition ≠ .jump target := by
  cases condition <;> intro impossible <;> cases impossible

/-- The instructions that jump, with their targets: jumps and calls to an address, returns to the
most recent address on the call stack, and jumps by an offset. -/
theorem jump_cases {target : Int}
    (completion : (machine.execute instruction).2 = .ok (.jump target)) :
    (∃ address, (instruction = .jump address ∨ instruction = .call address) ∧
        target = address.val) ∨
      (instruction = .returnFromCall ∧ ∃ rest, machine.calls.frames = target :: rest) ∨
      ∃ base, instruction = .jumpOffset base ∧ target = base.val + machine.register 0 := by
  cases instruction with
  | jump address =>
    obtain rfl := Flow.jump.inj (Except.ok.inj completion)
    exact Or.inl ⟨address, Or.inl rfl, rfl⟩
  | jumpOffset base =>
    obtain rfl := Flow.jump.inj (Except.ok.inj completion)
    exact Or.inr (Or.inr ⟨base, rfl, rfl⟩)
  | call address =>
    simp only [execute] at completion
    split at completion
    · obtain rfl := Flow.jump.inj (Except.ok.inj completion)
      exact Or.inl ⟨address, Or.inr rfl, rfl⟩
    · cases completion
  | returnFromCall =>
    simp only [execute, CallStack.pop] at completion
    cases stacked : machine.calls.frames with
    | nil => simp [stacked] at completion
    | cons address rest =>
      simp only [stacked, Except.ok.injEq, Flow.jump.injEq] at completion
      subst completion
      exact Or.inr (Or.inl ⟨rfl, rest, rfl⟩)
  | skipIfByte x byte => exact absurd (Except.ok.inj completion) (skipWhen_ne_jump _ _)
  | skipUnlessByte x byte => exact absurd (Except.ok.inj completion) (skipWhen_ne_jump _ _)
  | skipIfSame x y => exact absurd (Except.ok.inj completion) (skipWhen_ne_jump _ _)
  | skipUnlessSame x y => exact absurd (Except.ok.inj completion) (skipWhen_ne_jump _ _)
  | skipIfHeld x =>
    simp only [execute] at completion
    cases held : machine.keypad.query (machine.register x) with
    | error fault =>
      rw [held] at completion
      cases completion
    | ok down =>
      rw [held] at completion
      exact absurd (Except.ok.inj completion) (skipWhen_ne_jump _ _)
  | skipUnlessHeld x =>
    simp only [execute] at completion
    cases held : machine.keypad.query (machine.register x) with
    | error fault =>
      rw [held] at completion
      cases completion
    | ok down =>
      rw [held] at completion
      exact absurd (Except.ok.inj completion) (skipWhen_ne_jump _ _)
  | draw x y height =>
    simp only [execute] at completion
    split at completion
    · cases thenNext_eq_ok completion
    · cases completion
  | awaitKey x =>
    simp only [execute, pollKeypad_eq] at completion
    split at completion <;> cases completion
  | selectGlyph x =>
    simp only [execute] at completion
    split at completion <;> cases completion
  | storeDecimal x => cases thenNext_eq_ok completion
  | storeRegisters x => cases thenNext_eq_ok completion
  | loadRegisters x => cases thenNext_eq_ok completion
  | _ => cases completion

namespace InRange

/-- Putting a byte into a register. -/
theorem setRegister (valid : InRange machine) (register : Register) {value : Int}
    (byte : IsByte value) : InRange (machine.setRegister register value) := by
  refine { valid with registers := ?_ }
  intro other
  rw [register_setRegister]
  split
  · exact byte
  · exact valid.registers other

/-- Setting the flag. -/
theorem setFlag (valid : InRange machine) (flag : Bool) : InRange (machine.setFlag flag) := by
  apply valid.setRegister
  cases flag <;> decide

/-- Loading registers, however far it gets. -/
theorem loadFrom (valid : InRange machine) (address : Int) (registers : List Register) :
    InRange (machine.loadFrom address registers).1 := by
  induction registers generalizing machine with
  | nil => exact valid
  | cons register rest inductionHypothesis =>
    unfold Machine.loadFrom
    split
    · rename_i byte _
      exact inductionHypothesis (valid.setRegister register (isByte_toNat byte))
    · exact valid

/-- Looking at the keypad: the number of a key is a byte. The machine can only come to wait at the
address of an instruction. -/
theorem pollKeypad (valid : InRange machine) (fetched : machine.counter ≤ 0xFFE)
    (register : Register) : InRange (machine.pollKeypad register).1 := by
  rw [pollKeypad_eq]
  split
  · rename_i key _
    have bound := key.isLt
    have byte : IsByte key.val := by constructor <;> omega
    exact { valid.setRegister register byte with waiting := fun _ _ => fetched }
  · exact { valid with waiting := fun _ _ => fetched }

/-- Drawing a sprite. -/
theorem drawSprite (valid : InRange machine) (sprite : List UInt8) (x y : Int) :
    InRange (machine.drawSprite sprite x y).1 := by
  unfold Machine.drawSprite
  split
  · rename_i display hit _
    have drawn : InRange { machine with display := display } := { valid with }
    exact { drawn.setFlag hit with }
  · exact { valid with }

/-- Offering a reading to the timers. -/
theorem tick (valid : InRange machine) (now : Seconds) : InRange (machine.tick now) := by
  have timers : IsByte (machine.timers.tick now).1.delay ∧
      IsByte (machine.timers.tick now).1.sound := by
    unfold Timers.tick
    split
    · exact ⟨Timers.isByte_lowered valid.delay, Timers.isByte_lowered valid.sound⟩
    · exact ⟨valid.delay, valid.sound⟩
  exact { valid with delay := timers.1, sound := timers.2 }

/-- The address of a glyph is a small one. -/
theorem glyphAddress {digit address : Int} (found : Memory.glyphAddress digit = .ok address) :
    0 ≤ address ∧ address ≤ 75 := by
  unfold Memory.glyphAddress at found
  split at found
  · obtain rfl := Except.ok.inj found
    simp only [Memory.glyphHeight]
    omega
  · cases found

/-- Executing a fetched instruction, also when it is refused. -/
theorem execute (valid : InRange machine) (fetched : machine.counter ≤ 0xFFE)
    (instruction : Instruction) : InRange (machine.execute instruction).1 := by
  have remainder (value : Int) : IsByte (value % 256) := by constructor <;> omega
  cases instruction with
  | clearDisplay => exact { valid with }
  | returnFromCall =>
    simp only [Machine.execute, CallStack.pop]
    cases stacked : machine.calls.frames with
    | nil => exact valid
    | cons address rest =>
      have shorter : rest.length ≤ 16 := by
        have := valid.depth
        simp only [CallStack.depth, stacked, List.length_cons] at this
        omega
      have others : ∀ address ∈ rest, 2 ≤ address ∧ address ≤ 0x1000 := fun other member =>
        valid.addresses other (stacked ▸ List.mem_cons_of_mem address member)
      exact { valid with depth := shorter, addresses := others }
  | jump target => exact valid
  | call target =>
    simp only [Machine.execute, CallStack.push]
    split
    · rename_i calls pushed
      split at pushed
      · cases pushed
      · rename_i room
        obtain rfl := Except.ok.inj pushed
        have deeper : machine.calls.frames.length + 1 ≤ 16 := by
          simp only [CallStack.depth, callLimit] at room
          omega
        have stacked : ∀ address ∈ (machine.counter + 2) :: machine.calls.frames,
            2 ≤ address ∧ address ≤ 0x1000 := by
          intro address member
          rcases List.mem_cons.mp member with rfl | member
          · have := valid.counter.1
            omega
          · exact valid.addresses address member
        exact { valid with depth := deeper, addresses := stacked }
    · exact valid
  | skipIfByte x byte => exact valid
  | skipUnlessByte x byte => exact valid
  | skipIfSame x y => exact valid
  | loadByte x byte => exact valid.setRegister x (isByte_toNat byte)
  | addByte x byte => exact valid.setRegister x (remainder _)
  | copy x y => exact valid.setRegister x (valid.registers y)
  | or x y => exact valid.setRegister x (Bits.isByte_or (valid.registers x) (valid.registers y))
  | and x y => exact valid.setRegister x (Bits.isByte_and (valid.registers x) (valid.registers y))
  | xor x y => exact valid.setRegister x (Bits.isByte_xor (valid.registers x) (valid.registers y))
  | add x y => exact (valid.setRegister x (remainder _)).setFlag _
  | subtract x y => exact (valid.setRegister x (remainder _)).setFlag _
  | shiftRight x y =>
    have source := isByte_shiftSource valid.registers x y
    have half : IsByte (machine.shiftSource x y / 2) := by
      constructor <;> have := source.1 <;> have := source.2 <;> omega
    have bit : IsByte (machine.shiftSource x y % 2) := by constructor <;> omega
    exact (valid.setRegister x half).setRegister flagRegister bit
  | subtractFrom x y => exact (valid.setRegister x (remainder _)).setFlag _
  | shiftLeft x y =>
    have source := isByte_shiftSource valid.registers x y
    have bit : IsByte (machine.shiftSource x y / 128) := by
      constructor <;> have := source.1 <;> have := source.2 <;> omega
    exact (valid.setRegister x (remainder _)).setRegister flagRegister bit
  | skipUnlessSame x y => exact valid
  | loadIndex address =>
    have bound := address.isLt
    have small : 0 ≤ (address.val : Int) ∧ (address.val : Int) ≤ 0xFFFF := by omega
    exact { valid with index := small }
  | jumpOffset base => exact valid
  | random x mask =>
    have drawn : InRange { machine with random := machine.random.next.2 } := { valid with }
    exact drawn.setRegister x (isByte_toNat _)
  | draw x y height =>
    simp only [Machine.execute]
    split
    · exact valid.drawSprite _ _ _
    · exact valid
  | skipIfHeld x => exact valid
  | skipUnlessHeld x => exact valid
  | readDelay x => exact valid.setRegister x valid.delay
  | awaitKey x => exact valid.pollKeypad fetched x
  | setDelay x => exact { valid with delay := valid.registers x }
  | setSound x => exact { valid with sound := valid.registers x }
  | addToIndex x =>
    have small : 0 ≤ (machine.index + machine.register x) % 65536 ∧
        (machine.index + machine.register x) % 65536 ≤ 0xFFFF := by omega
    exact { valid with index := small }
  | selectGlyph x =>
    simp only [Machine.execute]
    split
    · rename_i address found
      have bound := glyphAddress found
      have small : 0 ≤ address ∧ address ≤ 0xFFFF := by omega
      exact { valid with index := small }
    · exact valid
  | storeDecimal x => exact { valid with }
  | storeRegisters x => exact { valid with }
  | loadRegisters x => exact valid.loadFrom _ _

/-- Where a completed instruction sends the program counter: on by at most four, or to the target of
a jump. -/
theorem follow (valid : InRange machine) (fetched : machine.counter ≤ 0xFFE)
    {instruction : Instruction} {flow : Flow}
    (completion : (machine.execute instruction).2 = .ok flow) :
    0 ≤ flow.follow machine.counter ∧ flow.follow machine.counter ≤ 0x10FE := by
  have start := valid.counter.1
  cases flow with
  | next => simp only [Flow.follow]; omega
  | skip => simp only [Flow.follow]; omega
  | wait => simp only [Flow.follow]; omega
  | jump target =>
    simp only [Flow.follow]
    rcases jump_cases completion with ⟨address, _, rfl⟩ | ⟨_, rest, stacked⟩ | ⟨base, _, rfl⟩
    · have bound := address.isLt
      omega
    · have bounds := valid.addresses target (stacked ▸ List.mem_cons_self)
      omega
    · have bound := base.isLt
      have bounds : IsByte (machine.register 0) := valid.registers 0
      exact ⟨by have := bounds.1; omega, by have := bounds.2; omega⟩

/-- Moving the program counter. A machine that waits may only stay. -/
theorem advance (valid : InRange machine) {flow : Flow}
    (moved : 0 ≤ flow.follow machine.counter ∧ flow.follow machine.counter ≤ 0x10FE)
    (stays : ∀ register, machine.awaiting = some register → flow = .wait) :
    InRange (machine.advance flow) := by
  refine { valid with counter := moved, waiting := ?_ }
  intro register waits
  obtain rfl := stays register waits
  exact valid.waiting register waits

/-- Beginning a cycle. -/
theorem opened (valid : InRange machine) (now : Seconds) : InRange (machine.opened now) :=
  { valid with }

/-- Every way of a cycle keeps the ranges. -/
theorem cycle (valid : InRange machine) {now : Seconds} {after : Machine}
    {result : Except MachineError (Option Flow)} (way : Cycle machine now after result) :
    InRange after := by
  have opened : InRange (machine.opened now) := valid.opened now
  cases way with
  | throttled early =>
    have rested : InRange { machine with redraw := false } := { valid with }
    exact rested.tick now
  | polled register due waits =>
    have fetched : (machine.opened now).counter ≤ 0xFFE := valid.waiting register waits
    have polled := opened.pollKeypad fetched register
    have start := opened.counter.1
    have unmoved : ((machine.opened now).pollKeypad register).1.counter =
        (machine.opened now).counter := by rw [pollKeypad_frame]
    refine (polled.advance ?_ ?_).tick now
    · rw [unmoved]
      rcases (machine.opened now).pollKeypad_flow register with ⟨_, flow⟩ | ⟨_, flow⟩
      · rw [flow]
        simp only [Flow.follow]
        omega
      · rw [flow]
        simp only [Flow.follow]
        omega
    · intro waiting stillWaits
      exact ((machine.opened now).pollKeypad_waits stillWaits).2
  | unfetched fault due runs unread => exact opened
  | unknown word due runs fetched unrecognised => exact opened
  | refused word instruction fault due runs fetched recognised refusal =>
    exact opened.execute (counter_of_fetch fetched).2 instruction
  | completed word instruction flow due runs fetched recognised completion =>
    have executed := opened.execute (counter_of_fetch fetched).2 instruction
    have moved := opened.follow (counter_of_fetch fetched).2 completion
    rw [← execute_counter (machine.opened now) instruction] at moved
    refine (executed.advance moved ?_).tick now
    intro waiting waits
    exact ((machine.opened now).execute_waits runs completion waits).2

/-- The ranges of a machine that has just been booted. -/
theorem boot {program : List UInt8} {now : Seconds} {random : RandomSource} {shiftInPlace : Bool}
    (started : Machine.boot program now random shiftInPlace = .ok machine) : InRange machine := by
  obtain ⟨_, rfl⟩ := (Machine.boot_eq_ok_iff ..).mp started
  have zero : IsByte 0 := by decide
  exact {
    registers := by
      intro register
      simp only [Machine.register, Machine.blank, Fin.getElem_fin, Vector.getElem_replicate]
      exact zero
    index := (by decide : (0 : Int) ≤ 0 ∧ (0 : Int) ≤ 0xFFFF)
    counter := (by decide : (0 : Int) ≤ 0x200 ∧ (0x200 : Int) ≤ 0x10FE)
    depth := Nat.zero_le 16
    addresses := by
      intro address member
      cases member
    delay := zero
    sound := zero
    waiting := by
      intro register waits
      cases waits }

end InRange

end Machine

/-- Everything is in range in the machine of every reachable console. -/
theorem Console.Reachable.inRange {console : Console} (reachable : Reachable console) :
    console.machine.InRange :=
  reachable.invariant (fun _ _ _ _ _ => Machine.InRange.boot)
    (fun _ _ valid => { valid with }) (fun _ _ _ _ valid way => valid.cycle way)

/-- Everything is in range in the machine that an execution finds. -/
theorem Console.Reachable.inRange_found {console : Console} (reachable : Reachable console)
    {event : Event} {execution : Execution} (executes : console.execution? event = some execution) :
    execution.found.InRange := by
  rw [found_of_execution? executes]
  exact { reachable.inRange with }

/-- So it is for every execution in the history of a run. -/
theorem Console.Reachable.inRange_history {console : Console} (reachable : Reachable console)
    (tracing : Bool) (events : List Event) :
    ∀ execution ∈ console.history tracing events, execution.found.InRange := by
  induction events generalizing console with
  | nil =>
    intro execution member
    cases member
  | cons event rest inductionHypothesis =>
    intro execution member
    rcases List.mem_append.mp member with now | later
    · exact reachable.inRange_found (Option.mem_toList.mp now)
    · exact inductionHypothesis (reachable.react tracing event) execution later

/-- A machine whose parts have the sizes and hold the values that they should: besides the ranges,
the memory is a series of 4096 bytes, there are sixteen registers, 2048 pixels and sixteen keys, and
only one of the registers can wait for a key. -/
structure Machine.WellSized (machine : Machine) : Prop extends InRange machine where
  memorySize : machine.memory.bytes.toList.length = 4096
  memoryBytes : ∀ byte ∈ machine.memory.bytes.toList, IsByte byte.toNat
  registerCount : machine.registers.toList.length = 16
  pixelCount : machine.display.pixels.toList.length = 2048
  keyCount : machine.keypad.held.toList.length = 16
  waitingRegister : ∀ register, machine.awaiting = some register → register.val ≤ 15

/-- What is in range has the right sizes as well, since no operation can change a size. -/
theorem Machine.InRange.wellSized {machine : Machine} (valid : machine.InRange) :
    machine.WellSized where
  toInRange := valid
  memorySize := Vector.length_toList
  memoryBytes := fun byte _ => isByte_toNat byte
  registerCount := Vector.length_toList
  pixelCount := Vector.length_toList
  keyCount := Vector.length_toList
  waitingRegister := fun register _ => Nat.le_of_lt_succ register.isLt

/-- Every program of at most 3584 bytes starts a machine, and whatever happens to the machine,
failing cycles included, its parts keep their sizes and their ranges. -/
theorem Console.run_wellSized {program : List UInt8} (fits : program.length ≤ 3584) (now : Seconds)
    (random : RandomSource) (shiftInPlace : Bool) :
    ∃ machine, Machine.boot program now random shiftInPlace = .ok machine ∧
      ∀ (tracing : Bool) (events : List Event),
        ((⟨machine, now⟩ : Console).run tracing events).1.machine.WellSized := by
  have started := (Machine.boot_eq_ok_iff program now random shiftInPlace _).mpr ⟨fits, rfl⟩
  refine ⟨_, started, ?_⟩
  intro tracing events
  have reachable := (Reachable.booted started).run tracing events
  exact reachable.inRange.wellSized

/-- The program `60FF BFFF` jumps as far beyond the memory as a program counter can get. -/
theorem Console.run_wellSized_of_farthest_jump :
    ([0x60, 0xFF, 0xBF, 0xFF] : List UInt8).length ≤ 3584 ∧
    ∃ machine, Machine.boot [0x60, 0xFF, 0xBF, 0xFF] 0 (.cycling #[]) false = .ok machine ∧
      let reached := ((⟨machine, 0⟩ : Console).run false [.step, .advanceClock 0.002, .step]).1
      reached.machine.counter = 0x10FE ∧ reached.machine.WellSized := by
  have fits : ([0x60, 0xFF, 0xBF, 0xFF] : List UInt8).length ≤ 3584 := by decide
  obtain ⟨machine, started, bounded⟩ := run_wellSized fits 0 (.cycling #[]) false
  refine ⟨fits, machine, started, ?_, bounded false _⟩
  obtain ⟨_, rfl⟩ := (Machine.boot_eq_ok_iff ..).mp started
  decide +kernel

end ChipEight
