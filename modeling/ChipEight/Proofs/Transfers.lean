import ChipEight.Proofs.MemoryAccess

/-!
# What transfers leave behind

A store puts values at consecutive addresses, and a load puts bytes from consecutive addresses into
registers. Both go on up to the end of the memory, so that what they leave can be said without
asking whether they were refused: the addresses of the transfer that lie in the memory have been
served, and nothing else has changed.

`Overwritten` says this of the memory after a store. Storing the same values again then changes
nothing, whatever part of the store lies in the memory.
-/

namespace ChipEight

namespace Memory

variable {memory written : Memory} {address : Int}

/-- Memories that give the same bytes are the same. -/
theorem ext_of_read {other : Memory}
    (same : ∀ place : Int, memory.read place = other.read place) : memory = other := by
  obtain ⟨bytes⟩ := memory
  obtain ⟨others⟩ := other
  congr 1
  apply Vector.ext
  intro position inside
  have found (memory : Memory) : memory.read position = .ok memory.bytes[position] :=
    (memory.read_eq_ok_iff position _).mpr ⟨⟨position, inside⟩, rfl, rfl⟩
  have byte := same position
  rw [found, found] at byte
  exact Except.ok.inj byte

/-- Writing at one address leaves the bytes at the others alone. -/
theorem read_of_write_ne {value place : Int} (accepted : memory.write address value = .ok written)
    (other : place ≠ address) : written.read place = memory.read place := by
  unfold write at accepted
  split at accepted
  · rename_i cell found
    split at accepted
    · obtain rfl := Except.ok.inj accepted
      have named := (cell?_eq_some_iff address cell).mp found
      unfold read
      cases looked : cell? place with
      | none => rfl
      | some target =>
        have targetNamed := (cell?_eq_some_iff place target).mp looked
        have differs : cell.val ≠ target.val := by omega
        simp only [Fin.getElem_fin, Vector.getElem_set_ne cell.isLt target.isLt differs]
    · cases accepted
  · cases accepted

/-- What a memory holds after values were put at consecutive addresses up to its end. -/
structure Overwritten (before after : Memory) (address : Int) (values : List Int) : Prop where
  /-- The values whose addresses lie in the memory stand there. -/
  covered : ∀ (distance : Nat) (value : Int), values[distance]? = some value →
    address + distance ≤ 4095 →
    ∃ byte : UInt8, after.read (address + distance) = .ok byte ∧ value = byte.toNat
  /-- Elsewhere nothing has changed. -/
  elsewhere : ∀ place : Int, place < address ∨ address + values.length ≤ place →
    after.read place = before.read place

/-- Putting values at consecutive addresses leaves those outside the transfer alone. -/
theorem read_writeAll_outside {values : List Int} {place : Int}
    (outside : place < address ∨ address + values.length ≤ place) :
    (memory.writeAll address values).1.read place = memory.read place := by
  induction values generalizing memory address with
  | nil => rfl
  | cons value rest inductionHypothesis =>
    rw [List.length_cons] at outside
    unfold writeAll
    cases accepted : memory.write address value with
    | error fault => rfl
    | ok written =>
      simp only
      rw [inductionHypothesis (by omega)]
      exact read_of_write_ne accepted (by omega)

/-- A byte can be put at an address of the memory. -/
theorem write_of_inside (memory : Memory) {value : Int} (byte : IsByte value)
    (nonneg : 0 ≤ address) (inside : address ≤ 4095) :
    ∃ written, memory.write address value = .ok written := by
  have fits : 0 ≤ value ∧ value < 256 := ⟨byte.1, by have := byte.2; omega⟩
  unfold write
  cases found : cell? address with
  | none =>
    have := (cell?_eq_none_iff address).mp found
    omega
  | some cell =>
    simp only [fits, and_self, if_true]
    exact ⟨_, rfl⟩

/-- Bytes that are put at consecutive addresses are put there up to the end of the memory.

Proof: the first value is not touched by what follows it, and the others stand behind it. Where the
address is outside the memory already, no later one is inside. -/
theorem overwritten_writeAll {values : List Int} (bytes : ∀ value ∈ values, IsByte value)
    (nonneg : 0 ≤ address) :
    Overwritten memory (memory.writeAll address values).1 address values := by
  refine ⟨?_, fun place outside => read_writeAll_outside outside⟩
  induction values generalizing memory address with
  | nil =>
    intro distance value listed
    cases listed
  | cons first rest inductionHypothesis =>
    have others : ∀ value ∈ rest, IsByte value := fun value later =>
      bytes value (List.mem_cons_of_mem _ later)
    intro distance value listed inside
    obtain ⟨written, accepted⟩ :=
      memory.write_of_inside (bytes first List.mem_cons_self) nonneg (by omega)
    unfold writeAll
    rw [accepted]
    cases distance with
    | zero =>
      obtain rfl := Option.some.inj listed
      obtain ⟨byte, same, stands⟩ := read_of_write accepted
      refine ⟨byte, ?_, same⟩
      simp only
      rw [read_writeAll_outside (by omega), Int.natCast_zero, Int.add_zero, stands]
    | succ distance =>
      have shifted : address + ((distance + 1 : Nat) : Int) = address + 1 + distance := by omega
      rw [shifted]
      exact inductionHypothesis others (by omega) distance value listed (by omega)

namespace Overwritten

variable {before after later : Memory} {values : List Int}

/-- A memory in which values stand is one in which they were put where they stand. -/
theorem refl_of (stored : Overwritten before after address values) :
    Overwritten after after address values :=
  ⟨stored.covered, fun _ _ => rfl⟩

/-- Putting the same values at the same addresses again changes nothing. -/
theorem eq_of_again (stored : Overwritten before after address values)
    (again : Overwritten after later address values) : later = after := by
  apply ext_of_read
  intro place
  by_cases outside : place < address ∨ address + values.length ≤ place
  · exact again.elsewhere place outside
  · by_cases inside : place ≤ 4095
    · obtain ⟨distance, rfl⟩ : ∃ distance : Nat, place = address + distance :=
        ⟨(place - address).toNat, by omega⟩
      have listed : values[distance]? = some values[distance] :=
        List.getElem?_eq_getElem (by omega)
      obtain ⟨byte, stands, same⟩ := stored.covered distance _ listed inside
      obtain ⟨other, otherStands, otherSame⟩ := again.covered distance _ listed inside
      have equal : byte = other := UInt8.toNat_inj.mp (by omega)
      rw [stands, otherStands, equal]
    · have refused (memory : Memory) : memory.read place = .error (.memoryBounds place 1) :=
        (memory.read_eq_error_iff place _).mpr ⟨Or.inr (by omega), rfl⟩
      rw [refused, refused]

end Overwritten

end Memory

namespace Machine

/-- Registers are listed in ascending order. -/
theorem pairwise_registersUpTo (last : Register) : (registersUpTo last).Pairwise (· < ·) :=
  (List.pairwise_lt_finRange 16).filter _

/-- What loading leaves in a register. Registers are loaded in ascending order, so that after the
first address outside the memory there is none inside. -/
theorem register_loadFrom (machine : Machine) {address : Int} {registers : List Register}
    (ascending : registers.Pairwise (· < ·)) (nonneg : 0 ≤ address) (register : Register) :
    (register ∈ registers ∧ address + register.val ≤ 4095 →
      ∃ byte : UInt8, machine.memory.read (address + register.val) = .ok byte ∧
        (machine.loadFrom address registers).1.register register = byte.toNat) ∧
    (¬ (register ∈ registers ∧ address + register.val ≤ 4095) →
      (machine.loadFrom address registers).1.register register = machine.register register) := by
  induction registers generalizing machine with
  | nil =>
    refine ⟨?_, fun _ => rfl⟩
    rintro ⟨listed, _⟩
    cases listed
  | cons first rest inductionHypothesis =>
    obtain ⟨below, restAscending⟩ := List.pairwise_cons.mp ascending
    unfold loadFrom
    cases found : machine.memory.read (address + first.val) with
    | error fault =>
      have outside := ((machine.memory.read_eq_error_iff _ fault).mp found).1
      refine ⟨?_, fun _ => rfl⟩
      rintro ⟨listed, inside⟩
      rcases List.mem_cons.mp listed with rfl | later
      · omega
      · have higher := Fin.lt_def.mp (below register later)
        omega
    | ok byte =>
      have within := (machine.memory.inside_of_read _ found).2
      obtain ⟨loads, keeps⟩ :=
        inductionHypothesis (machine.setRegister first byte.toNat) restAscending
      constructor
      · rintro ⟨listed, inside⟩
        rcases List.mem_cons.mp listed with rfl | later
        · -- No later register is the first one again.
          have once : register ∉ rest := fun again => Nat.lt_irrefl _ (below register again)
          refine ⟨byte, found, ?_⟩
          rw [keeps fun again => once again.1, register_setRegister, if_pos rfl]
        · exact loads ⟨later, inside⟩
      · intro untouched
        have notFirst : first ≠ register := by
          rintro rfl
          exact untouched ⟨List.mem_cons_self, by omega⟩
        rw [keeps fun later => untouched ⟨List.mem_cons_of_mem _ later.1, later.2⟩,
          register_setRegister, if_neg notFirst]

/-- What storing leaves in the memory, up to its end. -/
theorem overwritten_storeRegisters {machine : Machine}
    (bytes : ∀ register : Register, IsByte (machine.register register))
    (nonneg : 0 ≤ machine.index) (x : Register) :
    Memory.Overwritten machine.memory (machine.execute (.storeRegisters x)).1.memory machine.index
      ((registersUpTo x).map machine.register) :=
  Memory.overwritten_writeAll (isByte_registersUpTo bytes x) nonneg

/-- What loading registers leaves in each of them. -/
theorem register_loadRegisters {machine : Machine} (nonneg : 0 ≤ machine.index)
    (x register : Register) :
    (register ≤ x ∧ machine.index + register.val ≤ 4095 →
      ∃ byte : UInt8, machine.memory.read (machine.index + register.val) = .ok byte ∧
        (machine.execute (.loadRegisters x)).1.register register = byte.toNat) ∧
    (¬ (register ≤ x ∧ machine.index + register.val ≤ 4095) →
      (machine.execute (.loadRegisters x)).1.register register = machine.register register) := by
  rw [← mem_registersUpTo]
  exact machine.register_loadFrom (pairwise_registersUpTo x) nonneg register

end Machine

end ChipEight
