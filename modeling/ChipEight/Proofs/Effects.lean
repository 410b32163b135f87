import ChipEight.Machine.Execute

/-!
# What instructions leave alone

Each instruction changes a few parts of the machine and leaves the others as they are, also when it
is refused. The program counter is left to the cycle; the memory is changed by the two stores, the
call stack by calls and returns, the display by clearing and drawing, the timers by the two
instructions that set them, and the waiting register by the one instruction that waits.

Most instructions show by their form what they change. Those that look before they act are first
described by the parts that they may replace.
-/

namespace ChipEight.Machine

variable (machine : Machine)

/-- Loading replaces registers only, however far it gets. -/
theorem loadFrom_frame (address : Int) (registers : List Register) :
    (machine.loadFrom address registers).1 =
      { machine with registers := (machine.loadFrom address registers).1.registers } := by
  induction registers generalizing machine with
  | nil => rfl
  | cons register rest inductionHypothesis =>
    unfold loadFrom
    split
    · rename_i byte _
      exact inductionHypothesis (machine.setRegister register byte.toNat)
    · rfl

/-- What loading makes of the registers, and how far it gets, goes by the registers and the memory
alone. -/
theorem loadFrom_congr {machine other : Machine} (memory : other.memory = machine.memory)
    (registers : other.registers = machine.registers) (address : Int) (listed : List Register) :
    (other.loadFrom address listed).1.registers = (machine.loadFrom address listed).1.registers ∧
      (other.loadFrom address listed).2 = (machine.loadFrom address listed).2 := by
  induction listed generalizing machine other with
  | nil => exact ⟨registers, rfl⟩
  | cons register rest inductionHypothesis =>
    rw [loadFrom, loadFrom, memory]
    cases machine.memory.read (address + register.val) with
    | error fault => exact ⟨registers, rfl⟩
    | ok byte =>
      have loaded : (other.setRegister register byte.toNat).registers =
          (machine.setRegister register byte.toNat).registers := by
        rw [setRegister, setRegister, registers]
      exact @inductionHypothesis (machine.setRegister register byte.toNat)
        (other.setRegister register byte.toNat) memory loaded

/-- Drawing replaces the display, the flag and the mark of a changed display. -/
theorem drawSprite_frame (sprite : List UInt8) (x y : Int) :
    (machine.drawSprite sprite x y).1 =
      { machine with
        display := (machine.drawSprite sprite x y).1.display
        registers := (machine.drawSprite sprite x y).1.registers
        redraw := (machine.drawSprite sprite x y).1.redraw } := by
  unfold drawSprite
  split <;> rfl

/-- Looking at the keypad replaces a register and the register that waits. -/
theorem pollKeypad_frame (register : Register) :
    (machine.pollKeypad register).1 =
      { machine with
        registers := (machine.pollKeypad register).1.registers
        awaiting := (machine.pollKeypad register).1.awaiting } := by
  unfold pollKeypad
  split <;> rfl

/-- A return goes by the call stack. -/
theorem execute_returnFromCall :
    machine.execute .returnFromCall =
      match machine.calls.pop with
      | .ok (address, calls) => ({ machine with calls := calls }, .ok (.jump address))
      | .error fault => (machine, .error fault) := rfl

/-- A call goes by the room on the call stack. -/
theorem execute_call (target : Fin 4096) :
    machine.execute (.call target) =
      match machine.calls.push (machine.counter + 2) with
      | .ok calls => ({ machine with calls := calls }, .ok (.jump target.val))
      | .error fault => (machine, .error fault) := rfl

/-- Drawing goes by the sprite in the memory. -/
theorem execute_draw (x y : Register) (height : Fin 16) :
    machine.execute (.draw x y height) =
      match machine.memory.sprite machine.index height.val with
      | .ok sprite =>
        thenNext (machine.drawSprite sprite (machine.register x) (machine.register y))
      | .error fault => (machine, .error fault) := rfl

/-- Selecting a glyph goes by the font. -/
theorem execute_selectGlyph (x : Register) :
    machine.execute (.selectGlyph x) =
      match Memory.glyphAddress (machine.register x) with
      | .ok address => ({ machine with index := address }, .ok .next)
      | .error fault => (machine, .error fault) := rfl

/-- A return replaces the call stack. -/
theorem execute_returnFromCall_frame :
    (machine.execute .returnFromCall).1 =
      { machine with calls := (machine.execute .returnFromCall).1.calls } := by
  simp only [execute_returnFromCall]
  split <;> rfl

/-- A call replaces the call stack. -/
theorem execute_call_frame (target : Fin 4096) :
    (machine.execute (.call target)).1 =
      { machine with calls := (machine.execute (.call target)).1.calls } := by
  simp only [execute_call]
  split <;> rfl

/-- A call with room on the stack is completed. -/
theorem execute_call_of_room (target : Fin 4096) (room : machine.calls.depth < 16) :
    machine.execute (.call target) =
      ({ machine with calls := ⟨(machine.counter + 2) :: machine.calls.frames⟩ },
        .ok (.jump target.val)) := by
  have notFull : ¬ (16 : Int) ≤ machine.calls.depth := by omega
  simp only [execute_call, CallStack.push, callLimit, if_neg notFull]

/-- A call without room on the stack is refused. -/
theorem execute_call_of_full (target : Fin 4096) (full : 16 ≤ machine.calls.depth) :
    machine.execute (.call target) = (machine, .error (.stackFull 16)) := by
  have noRoom : (16 : Int) ≤ machine.calls.depth := by omega
  simp only [execute_call, CallStack.push, callLimit, if_pos noRoom]

/-- A return goes to the most recent address and takes it off. -/
theorem execute_return_of_cons {address : Int} {rest : List Int}
    (stacked : machine.calls.frames = address :: rest) :
    machine.execute .returnFromCall =
      ({ machine with calls := ⟨rest⟩ }, .ok (.jump address)) := by
  simp only [execute_returnFromCall, CallStack.pop, stacked]

/-- A return without an address on the stack is refused. -/
theorem execute_return_of_nil (stacked : machine.calls.frames = []) :
    machine.execute .returnFromCall = (machine, .error .stackEmpty) := by
  simp only [execute_returnFromCall, CallStack.pop, stacked]

/-- A drawing instruction replaces what drawing replaces, or nothing when its sprite is refused. -/
theorem execute_draw_frame (x y : Register) (height : Fin 16) :
    (machine.execute (.draw x y height)).1 =
      { machine with
        display := (machine.execute (.draw x y height)).1.display
        registers := (machine.execute (.draw x y height)).1.registers
        redraw := (machine.execute (.draw x y height)).1.redraw } := by
  simp only [execute_draw]
  split
  · exact machine.drawSprite_frame _ _ _
  · rfl

/-- A drawing instruction whose sprite is refused changes nothing. -/
theorem execute_draw_of_error {x y : Register} {height : Fin 16} {fault : Fault}
    (unread : machine.memory.sprite machine.index height.val = .error fault) :
    machine.execute (.draw x y height) = (machine, .error fault) := by
  simp only [execute_draw, unread]

/-- A drawing instruction whose sprite is read and drawn sets the flag last, and completes. -/
theorem execute_draw_of_sprite {x y : Register} {height : Fin 16} {sprite : List UInt8}
    {display : Display 64 32} {hit : Bool}
    (read : machine.memory.sprite machine.index height.val = .ok sprite)
    (drawn : machine.display.draw sprite (machine.register x) (machine.register y) =
      (display, .ok hit)) :
    machine.execute (.draw x y height) =
      ({ { machine with display := display }.setFlag hit with redraw := true }, .ok .next) := by
  simp only [execute_draw, read, drawSprite, drawn]
  rfl

/-- Selecting a glyph replaces the index. -/
theorem execute_selectGlyph_frame (x : Register) :
    (machine.execute (.selectGlyph x)).1 =
      { machine with index := (machine.execute (.selectGlyph x)).1.index } := by
  simp only [execute_selectGlyph]
  split <;> rfl

/-- Waiting for a key replaces what looking at the keypad replaces. -/
theorem execute_awaitKey_frame (x : Register) :
    (machine.execute (.awaitKey x)).1 =
      { machine with
        registers := (machine.execute (.awaitKey x)).1.registers
        awaiting := (machine.execute (.awaitKey x)).1.awaiting } :=
  machine.pollKeypad_frame x

/-- Loading registers replaces registers. -/
theorem execute_loadRegisters_frame (x : Register) :
    (machine.execute (.loadRegisters x)).1 =
      { machine with registers := (machine.execute (.loadRegisters x)).1.registers } :=
  machine.loadFrom_frame machine.index (registersUpTo x)

variable {instruction : Instruction}

/-- No instruction touches the program counter, the keypad, the choice of what shifts read, or the
reading of the last cycle. -/
theorem execute_frame (instruction : Instruction) :
    (machine.execute instruction).1 =
      { (machine.execute instruction).1 with
        counter := machine.counter
        keypad := machine.keypad
        shiftInPlace := machine.shiftInPlace
        lastCycle := machine.lastCycle } := by
  cases instruction with
  | returnFromCall => rw [execute_returnFromCall_frame]
  | call target => rw [execute_call_frame]
  | draw x y height => rw [execute_draw_frame]
  | selectGlyph x => rw [execute_selectGlyph_frame]
  | awaitKey x => rw [execute_awaitKey_frame]
  | loadRegisters x => rw [execute_loadRegisters_frame]
  | _ => rfl

/-- No instruction moves the program counter: its answer says where the cycle is to move it. -/
theorem execute_counter (instruction : Instruction) :
    (machine.execute instruction).1.counter = machine.counter := by
  rw [execute_frame]

/-- Only the two stores change the memory. -/
theorem execute_memory (notDecimal : ∀ x, instruction ≠ .storeDecimal x)
    (notRegisters : ∀ x, instruction ≠ .storeRegisters x) :
    (machine.execute instruction).1.memory = machine.memory := by
  cases instruction with
  | storeDecimal x => exact absurd rfl (notDecimal x)
  | storeRegisters x => exact absurd rfl (notRegisters x)
  | returnFromCall => rw [execute_returnFromCall_frame]
  | call target => rw [execute_call_frame]
  | draw x y height => rw [execute_draw_frame]
  | selectGlyph x => rw [execute_selectGlyph_frame]
  | awaitKey x => rw [execute_awaitKey_frame]
  | loadRegisters x => rw [execute_loadRegisters_frame]
  | _ => rfl

/-- Only three instructions change the index: loading it, adding to it and pointing it at a
glyph. -/
theorem execute_index (notLoad : ∀ address, instruction ≠ .loadIndex address)
    (notAdd : ∀ x, instruction ≠ .addToIndex x) (notSelect : ∀ x, instruction ≠ .selectGlyph x) :
    (machine.execute instruction).1.index = machine.index := by
  cases instruction with
  | loadIndex address => exact absurd rfl (notLoad address)
  | addToIndex x => exact absurd rfl (notAdd x)
  | selectGlyph x => exact absurd rfl (notSelect x)
  | returnFromCall => rw [execute_returnFromCall_frame]
  | call target => rw [execute_call_frame]
  | draw x y height => rw [execute_draw_frame]
  | awaitKey x => rw [execute_awaitKey_frame]
  | loadRegisters x => rw [execute_loadRegisters_frame]
  | _ => rfl

/-- Only calls and returns change the call stack. -/
theorem execute_calls (notReturn : instruction ≠ .returnFromCall)
    (notCall : ∀ target, instruction ≠ .call target) :
    (machine.execute instruction).1.calls = machine.calls := by
  cases instruction with
  | returnFromCall => exact absurd rfl notReturn
  | call target => exact absurd rfl (notCall target)
  | draw x y height => rw [execute_draw_frame]
  | selectGlyph x => rw [execute_selectGlyph_frame]
  | awaitKey x => rw [execute_awaitKey_frame]
  | loadRegisters x => rw [execute_loadRegisters_frame]
  | _ => rfl

/-- Only clearing and drawing change the display. -/
theorem execute_display (notClear : instruction ≠ .clearDisplay)
    (notDraw : ∀ x y height, instruction ≠ .draw x y height) :
    (machine.execute instruction).1.display = machine.display := by
  cases instruction with
  | clearDisplay => exact absurd rfl notClear
  | draw x y height => exact absurd rfl (notDraw x y height)
  | returnFromCall => rw [execute_returnFromCall_frame]
  | call target => rw [execute_call_frame]
  | selectGlyph x => rw [execute_selectGlyph_frame]
  | awaitKey x => rw [execute_awaitKey_frame]
  | loadRegisters x => rw [execute_loadRegisters_frame]
  | _ => rfl

/-- Only clearing and drawing mark the display as changed. -/
theorem execute_redraw (notClear : instruction ≠ .clearDisplay)
    (notDraw : ∀ x y height, instruction ≠ .draw x y height) :
    (machine.execute instruction).1.redraw = machine.redraw := by
  cases instruction with
  | clearDisplay => exact absurd rfl notClear
  | draw x y height => exact absurd rfl (notDraw x y height)
  | returnFromCall => rw [execute_returnFromCall_frame]
  | call target => rw [execute_call_frame]
  | selectGlyph x => rw [execute_selectGlyph_frame]
  | awaitKey x => rw [execute_awaitKey_frame]
  | loadRegisters x => rw [execute_loadRegisters_frame]
  | _ => rfl

/-- Only the instruction that waits for a key makes a register wait. -/
theorem execute_awaiting (notAwait : ∀ x, instruction ≠ .awaitKey x) :
    (machine.execute instruction).1.awaiting = machine.awaiting := by
  cases instruction with
  | awaitKey x => exact absurd rfl (notAwait x)
  | returnFromCall => rw [execute_returnFromCall_frame]
  | call target => rw [execute_call_frame]
  | draw x y height => rw [execute_draw_frame]
  | selectGlyph x => rw [execute_selectGlyph_frame]
  | loadRegisters x => rw [execute_loadRegisters_frame]
  | _ => rfl

/-- Only the two instructions that set a timer change the timers, each of them its own one. -/
theorem execute_timers (instruction : Instruction) :
    (machine.execute instruction).1.timers =
      match instruction with
      | .setDelay x => { machine.timers with delay := machine.register x }
      | .setSound x => { machine.timers with sound := machine.register x }
      | _ => machine.timers := by
  cases instruction with
  | returnFromCall => rw [execute_returnFromCall_frame]
  | call target => rw [execute_call_frame]
  | draw x y height => rw [execute_draw_frame]
  | selectGlyph x => rw [execute_selectGlyph_frame]
  | awaitKey x => rw [execute_awaitKey_frame]
  | loadRegisters x => rw [execute_loadRegisters_frame]
  | _ => rfl

/-- Only the instruction that asks for a random byte changes the source of random bytes: it draws
the next one. -/
theorem execute_random (instruction : Instruction) :
    (machine.execute instruction).1.random =
      match instruction with
      | .random _ _ => machine.random.next.2
      | _ => machine.random := by
  cases instruction with
  | returnFromCall => rw [execute_returnFromCall_frame]
  | call target => rw [execute_call_frame]
  | draw x y height => rw [execute_draw_frame]
  | selectGlyph x => rw [execute_selectGlyph_frame]
  | awaitKey x => rw [execute_awaitKey_frame]
  | loadRegisters x => rw [execute_loadRegisters_frame]
  | _ => rfl

/-- After looking at the keypad a register waits only if the machine is to stay where it is. -/
theorem pollKeypad_waits {register waiting : Register}
    (waits : (machine.pollKeypad register).1.awaiting = some waiting) :
    waiting = register ∧ (machine.pollKeypad register).2 = .wait := by
  rw [pollKeypad_eq] at waits ⊢
  split at waits
  · cases waits
  · exact ⟨(Option.some.inj waits).symm, rfl⟩

/-- Looking at the keypad stays if no key is held down, and moves on if some key is. -/
theorem pollKeypad_flow (register : Register) :
    (∀ key, machine.keypad.isHeld key = false) ∧ (machine.pollKeypad register).2 = .wait ∨
      (∃ key, machine.keypad.isHeld key = true) ∧ (machine.pollKeypad register).2 = .next := by
  rw [pollKeypad_eq]
  cases found : machine.keypad.lowest? with
  | none => exact .inl ⟨machine.keypad.lowest?_eq_none_iff.mp found, rfl⟩
  | some key =>
    obtain ⟨held, _⟩ := (machine.keypad.lowest?_eq_some_iff key).mp found
    exact .inr ⟨⟨key, held⟩, rfl⟩

/-- A register waits after an instruction only if the instruction waits for a key and stays. -/
theorem execute_waits {waiting : Register} {flow : Flow} (runs : machine.awaiting = none)
    (completion : (machine.execute instruction).2 = .ok flow)
    (waits : (machine.execute instruction).1.awaiting = some waiting) :
    instruction = .awaitKey waiting ∧ flow = .wait := by
  by_cases awaits : ∃ x, instruction = .awaitKey x
  · obtain ⟨x, rfl⟩ := awaits
    obtain ⟨rfl, stays⟩ := machine.pollKeypad_waits waits
    exact ⟨rfl, (Except.ok.inj completion).symm.trans stays⟩
  · have unchanged := machine.execute_awaiting fun x same => awaits ⟨x, same⟩
    rw [unchanged, runs] at waits
    cases waits

end ChipEight.Machine
