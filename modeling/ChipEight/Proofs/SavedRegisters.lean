import ChipEight.Proofs.Effects
import ChipEight.Proofs.Transfers
import ChipEight.Proofs.Transitions

/-!
# Registers that are stored and loaded again

Storing the registers up to one and loading them from the same index undo each other. After a store
the registers can be changed as one likes: as long as the memory and the index stay, a load of these
registers or of fewer brings back what they held, and touches nothing else. The other way round, a
store right after a load puts every byte where it came from.

At the end of the memory both stop at the same place, so that the second half still holds: what was
loaded before the fault is exactly what is stored before the next one.
-/

namespace ChipEight.Machine

variable {before after later machine : Machine} {x y : Register}

/-- What a machine is after its registers up to one have been stored. -/
structure Saved (before : Machine) (x : Register) (after : Machine) : Prop where
  /-- Only the memory has changed. -/
  rest : after = { before with memory := after.memory }
  /-- Each of the registers stands at its distance from the index. -/
  stands : ∀ register ≤ x, ∃ byte : UInt8,
    after.memory.read (before.index + register.val) = .ok byte ∧
      before.register register = byte.toNat
  /-- The other places are as they were. -/
  elsewhere : ∀ place : Int, place < before.index ∨ before.index + x.val < place →
    after.memory.read place = before.memory.read place

/-- What a machine is after its registers up to one have been loaded with what they held at some
time before. -/
structure Restored (earlier before : Machine) (y : Register) (after : Machine) : Prop where
  /-- Only registers have changed. -/
  rest : after = { before with registers := after.registers }
  /-- The registers up to the given one hold what they held. -/
  back : ∀ register ≤ y, after.register register = earlier.register register
  /-- The registers above it are as they were. -/
  above : ∀ register, y < register → after.register register = before.register register

/-- A transfer from an index that does not reach beyond the memory is completed. -/
theorem transferEnd_of_fits {address : Int} (fits : address + x.val ≤ 4095) :
    (Memory.transferEnd address (x.val + 1)).map (fun _ => Flow.next) = .ok .next := by
  rw [Memory.transferEnd, if_pos (by omega)]
  rfl

/-- One that reaches beyond it is refused at its first address outside. -/
theorem transferEnd_of_beyond {address : Int} (beyond : 4096 < address + x.val + 1) :
    (Memory.transferEnd address (x.val + 1)).map (fun _ => Flow.next) =
      .error (.memoryBounds (max address 4096) 1) := by
  rw [Memory.transferEnd, if_neg (by omega)]
  rfl

/-- The registers that are stored are listed by their distances. -/
theorem getElem?_stored (machine : Machine) {register last : Register} (listed : register ≤ last) :
    ((registersUpTo last).map machine.register)[register.val]? =
      some (machine.register register) := by
  rw [List.getElem?_map, getElem?_registersUpTo listed, Option.map_some]

/-- Storing registers that fit saves them. -/
theorem saved_storeRegisters (bytes : ∀ register : Register, IsByte (machine.register register))
    (nonneg : 0 ≤ machine.index) (fits : machine.index + x.val ≤ 4095) :
    machine.Saved x (machine.execute (.storeRegisters x)).1 := by
  have stored := overwritten_storeRegisters bytes nonneg x
  refine ⟨rfl, ?_, ?_⟩
  · intro register listed
    have inside := Fin.le_def.mp listed
    exact stored.covered register.val _ (machine.getElem?_stored listed) (by omega)
  · intro place outside
    apply stored.elsewhere place
    rw [List.length_map, length_registersUpTo]
    omega

/-- Loading from the same index what was saved restores it. -/
theorem Saved.restored (saved : before.Saved x after) (nonneg : 0 ≤ before.index)
    (fits : before.index + x.val ≤ 4095) (memory : later.memory = after.memory)
    (index : later.index = before.index) (fewer : y ≤ x) :
    before.Restored later y (later.execute (.loadRegisters y)).1 := by
  have order := Fin.le_def.mp fewer
  refine ⟨later.execute_loadRegisters_frame y, ?_, ?_⟩
  · intro register listed
    have below := Fin.le_def.mp listed
    obtain ⟨byte, found, loaded⟩ :=
      (register_loadRegisters (index ▸ nonneg) y register).1 ⟨listed, by omega⟩
    obtain ⟨held, stands, same⟩ := saved.stands register (Fin.le_trans listed fewer)
    rw [memory, index, stands] at found
    obtain rfl := Except.ok.inj found
    rw [loaded, same]
  · intro register above
    apply (register_loadRegisters (index ▸ nonneg) y register).2
    rintro ⟨listed, _⟩
    exact absurd listed (Fin.not_le.mpr above)

/-- Registers that hold bytes still do so when some of them have been loaded. -/
theorem isByte_loadRegisters (bytes : ∀ register : Register, IsByte (machine.register register))
    (nonneg : 0 ≤ machine.index) (x register : Register) :
    IsByte ((machine.execute (.loadRegisters x)).1.register register) := by
  obtain ⟨loads, keeps⟩ := register_loadRegisters nonneg x register
  by_cases served : register ≤ x ∧ machine.index + register.val ≤ 4095
  · obtain ⟨byte, -, loaded⟩ := loads served
    rw [loaded]
    exact isByte_toNat byte
  · rw [keeps served]
    exact bytes register

/-- Storing what was just loaded leaves the memory as it was. It does not matter whether the two
were completed: the bytes that are stored stand there already. -/
theorem memory_store_of_load
    (bytes : ∀ register : Register, IsByte (machine.register register))
    (nonneg : 0 ≤ machine.index) (x : Register) :
    ((machine.execute (.loadRegisters x)).1.execute (.storeRegisters x)).1.memory =
      machine.memory := by
  have frame := machine.execute_loadRegisters_frame x
  have index : (machine.execute (.loadRegisters x)).1.index = machine.index := by rw [frame]
  have memory : (machine.execute (.loadRegisters x)).1.memory = machine.memory := by rw [frame]
  have stored := overwritten_storeRegisters (isByte_loadRegisters bytes nonneg x)
    (index ▸ nonneg) x
  rw [memory, index] at stored
  refine Memory.Overwritten.eq_of_again ⟨?_, fun _ _ => rfl⟩ stored
  intro distance value listed inside
  obtain ⟨counted, -⟩ := List.getElem?_eq_some_iff.mp listed
  rw [List.length_map, length_registersUpTo] at counted
  have upTo : (⟨distance, by omega⟩ : Register) ≤ x := Fin.le_def.mpr (Nat.le_of_lt_succ counted)
  obtain ⟨byte, found, loaded⟩ := (register_loadRegisters nonneg x _).1 ⟨upTo, inside⟩
  rw [getElem?_stored _ upTo] at listed
  exact ⟨byte, found, (Option.some.inj listed).symm.trans loaded⟩

/-- Storing and loading registers undo each other. Let the registers hold bytes and the index not be
negative. If the registers up to one fit into the memory, then storing them saves them: whatever the
registers hold later, loading those registers or fewer of them from the same index and the same
memory restores them. Loading first and storing right afterwards leaves the memory as it was. This
also holds at the end of the memory, where both are refused.

Proof: what was stored is what is read when it is loaded, and what was loaded stands already where
it is stored. -/
theorem stored_registers_restored
    (bytes : ∀ register : Register, IsByte (machine.register register))
    (nonneg : 0 ≤ machine.index) (tracing : Bool) (x : Register) :
    (machine.index + x.val ≤ 4095 →
      let stored := machine.perform tracing (Instruction.storeRegisters x).code
      stored.result = .ok .next ∧ machine.Saved x stored.machine ∧
        ∀ later : Machine, later.memory = stored.machine.memory →
          later.index = machine.index → ∀ y ≤ x,
          let loaded := later.perform tracing (Instruction.loadRegisters y).code
          loaded.result = .ok .next ∧ machine.Restored later y loaded.machine) ∧
    let loaded := machine.perform tracing (Instruction.loadRegisters x).code
    let stored := loaded.machine.perform tracing (Instruction.storeRegisters x).code
    stored.machine.memory = machine.memory ∧
      (machine.index + x.val ≤ 4095 → loaded.result = .ok .next ∧ stored.result = .ok .next) ∧
      (4096 < machine.index + x.val + 1 →
        loaded.result = .error (.refused (.memoryBounds (max machine.index 4096) 1)) ∧
          stored.result = .error (.refused (.memoryBounds (max machine.index 4096) 1))) := by
  constructor
  · intro fits stored
    obtain ⟨after, answer⟩ := machine.perform_code tracing (.storeRegisters x)
    have saved := saved_storeRegisters bytes nonneg fits
    rw [execute_storeRegisters_end bytes nonneg, transferEnd_of_fits fits] at answer
    rw [← after] at saved
    refine ⟨answer, saved, ?_⟩
    intro later memory index y fewer loaded
    have order := Fin.le_def.mp fewer
    obtain ⟨laterAfter, laterAnswer⟩ := later.perform_code tracing (.loadRegisters y)
    rw [execute_loadRegisters_end (index ▸ nonneg), transferEnd_of_fits (by omega)] at laterAnswer
    refine ⟨laterAnswer, ?_⟩
    rw [laterAfter]
    exact saved.restored nonneg fits memory index fewer
  · intro loaded stored
    obtain ⟨after, answer⟩ := machine.perform_code tracing (.loadRegisters x)
    obtain ⟨storedAfter, storedAnswer⟩ := loaded.machine.perform_code tracing (.storeRegisters x)
    have index : loaded.machine.index = machine.index := by
      rw [after, execute_loadRegisters_frame]
    have loadedBytes : ∀ register : Register, IsByte (loaded.machine.register register) := by
      rw [after]
      exact isByte_loadRegisters bytes nonneg x
    rw [execute_loadRegisters_end nonneg] at answer
    rw [execute_storeRegisters_end loadedBytes (index ▸ nonneg), index] at storedAnswer
    refine ⟨?_, ?_, ?_⟩
    · rw [storedAfter, after]
      exact memory_store_of_load bytes nonneg x
    · intro fits
      rw [transferEnd_of_fits fits] at answer storedAnswer
      exact ⟨answer, storedAnswer⟩
    · intro beyond
      rw [transferEnd_of_beyond beyond] at answer storedAnswer
      exact ⟨answer, storedAnswer⟩

/-- Three registers are stored in the last three bytes of the memory. After all registers have been
cleared, two of them are loaded back. Loading four of them is refused. -/
theorem stored_registers_restored_of_last_bytes :
    ∃ machine : Machine, (∀ register : Register, IsByte (machine.register register)) ∧
      machine.index = 4093 ∧ machine.register 0 = 7 ∧ machine.register 1 = 200 ∧
      (let stored := (machine.perform false 0xF255).machine
       let cleared := { stored with registers := Vector.replicate 16 0 }
       let loaded := (cleared.perform false 0xF165).machine
       loaded.register 0 = 7 ∧ loaded.register 1 = 200 ∧ loaded.register 2 = 0) ∧
      let loaded := machine.perform false 0xF365
      let stored := loaded.machine.perform false 0xF355
      loaded.result = .error (.refused (.memoryBounds 4096 1)) ∧
        stored.result = .error (.refused (.memoryBounds 4096 1)) ∧
        stored.machine.memory = machine.memory := by
  obtain ⟨machine, bytes, index, first, second⟩ :
      ∃ machine : Machine, (∀ register : Register, IsByte (machine.register register)) ∧
        machine.index = 4093 ∧ machine.register 0 = 7 ∧ machine.register 1 = 200 :=
    ⟨{ Machine.blank 0 (.cycling #[]) false with
        registers := #v[7, 200, 33, 0, 0, 0, 0, 0, 0, 0, 0, 0, 0, 0, 0, 0], index := 4093 },
      by decide +kernel, rfl, rfl, rfl⟩
  have nonneg : 0 ≤ machine.index := index ▸ by decide
  obtain ⟨-, saved, restoring⟩ :=
    (stored_registers_restored bytes nonneg false 2).1 (index ▸ by decide)
  have kept : (machine.perform false 0xF255).machine.index = machine.index :=
    (congrArg Machine.index saved.rest :)
  obtain ⟨-, restored⟩ := restoring
    { (machine.perform false 0xF255).machine with registers := Vector.replicate 16 0 } rfl kept 1
    (by decide)
  obtain ⟨memory, -, refused⟩ := (stored_registers_restored bytes nonneg false 3).2
  obtain ⟨loaded, stored⟩ := refused (index ▸ by decide)
  rw [index] at loaded stored
  refine ⟨machine, bytes, index, first, second, ⟨?_, ?_, ?_⟩, loaded, stored, memory⟩
  · rw [← first]
    exact restored.back 0 (by decide)
  · rw [← second]
    exact restored.back 1 (by decide)
  · exact restored.above 2 (by decide)

end ChipEight.Machine
