import ChipEight.Machine.Execute

/-!
# Where memory access ends

Bytes are read at the addresses below 4096 that are not negative, and nowhere else. A transfer of
several values goes on up to the end of the memory. It is refused exactly if it reaches beyond, and
then at the first address outside: at its own beginning if that lies outside already, and otherwise
at address 4096. The two transfers of the machine, from registers or digits to the memory and from
the memory to registers, end in the same way.
-/

namespace ChipEight

/-- The values of a byte. -/
def IsByte (value : Int) : Prop := 0 ≤ value ∧ value ≤ 255

instance (value : Int) : Decidable (IsByte value) :=
  inferInstanceAs (Decidable (0 ≤ value ∧ value ≤ 255))

/-- The number of a byte is one of its values. -/
theorem isByte_toNat (byte : UInt8) : IsByte byte.toNat := by
  have bound := byte.toNat_lt
  constructor <;> omega

namespace Memory

variable (memory : Memory) (address : Int)

/-- There is a byte to read exactly at the addresses of the memory. -/
theorem read_isOk_iff :
    (∃ byte, memory.read address = .ok byte) ↔ 0 ≤ address ∧ address < 4096 := by
  unfold read
  cases found : cell? address with
  | none =>
    have outside := (cell?_eq_none_iff address).mp found
    simp only [reduceCtorEq, exists_false, false_iff]
    omega
  | some cell =>
    have named := (cell?_eq_some_iff address cell).mp found
    have inside := cell.isLt
    simp only [Except.ok.injEq, exists_eq', true_iff]
    omega

/-- A byte that was read has an address in the memory. -/
theorem inside_of_read {byte : UInt8} (found : memory.read address = .ok byte) :
    0 ≤ address ∧ address < 4096 :=
  (memory.read_isOk_iff address).mp ⟨byte, found⟩

/-- Reading is refused exactly outside the memory. -/
theorem read_eq_error_iff (fault : Fault) :
    memory.read address = .error fault ↔
      (address < 0 ∨ 4096 ≤ address) ∧ fault = .memoryBounds address 1 := by
  unfold read
  cases found : cell? address with
  | none =>
    have outside := (cell?_eq_none_iff address).mp found
    simp only [Except.error.injEq, outside, true_and]
    exact eq_comm
  | some cell =>
    have named := (cell?_eq_some_iff address cell).mp found
    have inside := cell.isLt
    simp only [reduceCtorEq, false_iff, not_and]
    omega

/-- The bytes of a program that was placed stand from address 0x200 on. -/
theorem read_of_load {memory loaded : Memory} {program : List UInt8}
    (placed : memory.load program = .ok loaded) {position : Nat}
    (within : position < program.length) :
    loaded.read (0x200 + position) = .ok program[position] := by
  unfold load at placed
  split at placed
  · cases placed
  · rename_i fits
    obtain rfl := Except.ok.inj placed
    unfold programCapacity at fits
    rw [read_eq_ok_iff]
    have inside : programStart + position < 4096 := by
      unfold programStart
      omega
    refine ⟨⟨programStart + position, inside⟩, Int.natCast_add programStart position, ?_⟩
    simp only [Fin.getElem_fin]
    rw [getElem_overlay, if_pos (Nat.le_add_right _ _), Nat.add_sub_cancel_left,
      List.getD_eq_getElem?_getD, List.getElem?_eq_getElem within, Option.getD_some]

/-- The rows of a sprite are the bytes from its address on. -/
theorem getElem?_of_sprite {memory : Memory} {address : Int} {height : Nat} {sprite : List UInt8}
    (found : memory.sprite address height = .ok sprite) (row : Nat) :
    sprite[row]? = if row < height then (memory.read (address + row)).toOption else none := by
  unfold Memory.sprite at found
  split at found
  · cases found
  · rename_i inside
    obtain rfl := Except.ok.inj found
    have front : ¬ address + (height : Int) < 0 := by omega
    unfold slice
    rw [Vector.getElem?_toList, Vector.getElem?_extract, if_neg front]
    by_cases within : row < height
    · have counted : row < min (address + (height : Int)).toNat 4096 - address.toNat := by omega
      have bounded : address.toNat + row < 4096 := by omega
      have byte : memory.read (address + row) = .ok memory.bytes[address.toNat + row] :=
        (memory.read_eq_ok_iff _ _).mpr ⟨⟨address.toNat + row, bounded⟩, by simp only; omega, rfl⟩
      rw [if_pos counted, if_pos within, byte, Vector.getElem?_eq_getElem bounded]
      rfl
    · have beyond : ¬ row < min (address + (height : Int)).toNat 4096 - address.toNat := by omega
      rw [if_neg beyond, if_neg within]

/-- How a transfer of some bytes from an address on ends, if the address is not negative. -/
def transferEnd (address : Int) (count : Nat) : Except Fault Unit :=
  if count = 0 ∨ address + count ≤ 4096 then .ok () else .error (.memoryBounds (max address 4096) 1)

/-- Outside the memory not even the first byte is transferred. -/
theorem transferEnd_of_outside {count : Nat} (outside : 4096 ≤ address) :
    transferEnd address (count + 1) = .error (.memoryBounds address 1) := by
  have beyond : ¬ (count + 1 = 0 ∨ address + ((count + 1 : Nat) : Int) ≤ 4096) := by omega
  rw [transferEnd, if_neg beyond, Int.max_eq_left outside]

/-- Inside the memory the transfer ends as the rest of it does. -/
theorem transferEnd_of_inside {count : Nat} (inside : address < 4096) :
    transferEnd address (count + 1) = transferEnd (address + 1) count := by
  have below : max address 4096 = 4096 := Int.max_eq_right (by omega)
  have next : max (address + 1) 4096 = 4096 := Int.max_eq_right (by omega)
  unfold transferEnd
  rw [below, next]
  congr 1
  apply propext
  omega

/-- Bytes are put into the memory up to its end. -/
theorem writeAll_end {memory : Memory} {address : Int} {values : List Int}
    (bytes : ∀ value ∈ values, IsByte value) (nonneg : 0 ≤ address) :
    (memory.writeAll address values).2 = transferEnd address values.length := by
  induction values generalizing memory address with
  | nil => rfl
  | cons value rest inductionHypothesis =>
    have first : IsByte value := bytes value List.mem_cons_self
    have others : ∀ value ∈ rest, IsByte value := fun value later =>
      bytes value (List.mem_cons_of_mem _ later)
    unfold writeAll write
    cases found : cell? address with
    | none =>
      have outside : 4096 ≤ address := by
        have := (cell?_eq_none_iff address).mp found
        omega
      exact (transferEnd_of_outside address outside).symm
    | some cell =>
      have inside : address < 4096 := by
        have named := (cell?_eq_some_iff address cell).mp found
        have bound := cell.isLt
        omega
      have fits : 0 ≤ value ∧ value < 256 := ⟨first.1, by have := first.2; omega⟩
      simp only [fits, and_self, if_true]
      rw [inductionHypothesis others (by omega), List.length_cons,
        transferEnd_of_inside address inside]

end Memory

namespace Machine

/-- The numbers of the registers up to one count from zero. -/
theorem registersUpTo_val (last : Register) :
    (registersUpTo last).map Fin.val = List.range' 0 (last.val + 1) := by
  revert last
  decide

/-- There are as many registers up to one as its number says, and one more. -/
theorem length_registersUpTo (last : Register) : (registersUpTo last).length = last.val + 1 := by
  rw [← List.length_map Fin.val, registersUpTo_val, List.length_range']

/-- Each of the registers up to one stands in its own place among them. -/
theorem getElem?_registersUpTo {register last : Register} (listed : register ≤ last) :
    (registersUpTo last)[register.val]? = some register := by
  revert register last
  decide

/-- Registers are loaded up to the end of the memory. -/
theorem loadFrom_end {machine : Machine} {address : Int} {registers : List Register} {start : Nat}
    (consecutive : registers.map Fin.val = List.range' start registers.length)
    (nonneg : 0 ≤ address) :
    (machine.loadFrom address registers).2 =
      Memory.transferEnd (address + start) registers.length := by
  induction registers generalizing machine start with
  | nil => rfl
  | cons register rest inductionHypothesis =>
    simp only [List.map_cons, List.length_cons, List.range'_succ, List.cons.injEq] at consecutive
    obtain ⟨first, others⟩ := consecutive
    unfold loadFrom
    rw [first]
    cases read : machine.memory.read (address + start) with
    | error fault =>
      obtain ⟨outside, rfl⟩ := (machine.memory.read_eq_error_iff _ fault).mp read
      exact (Memory.transferEnd_of_outside (address + start) (by omega)).symm
    | ok byte =>
      have inside := (machine.memory.inside_of_read _ read).2
      have shifted : address + ((start + 1 : Nat) : Int) = address + start + 1 := by omega
      simp only
      rw [inductionHypothesis others, List.length_cons, Memory.transferEnd_of_inside _ inside,
        shifted]

/-- Registers that are listed hold bytes. -/
theorem isByte_registersUpTo {machine : Machine}
    (bytes : ∀ register : Register, IsByte (machine.register register)) (x : Register) :
    ∀ value ∈ (registersUpTo x).map machine.register, IsByte value := by
  intro value member
  obtain ⟨register, -, rfl⟩ := List.mem_map.mp member
  exact bytes register

/-- Storing registers ends as a transfer of their bytes does. -/
theorem execute_storeRegisters_end {machine : Machine}
    (bytes : ∀ register : Register, IsByte (machine.register register))
    (nonneg : 0 ≤ machine.index) (x : Register) :
    (machine.execute (.storeRegisters x)).2 =
      (Memory.transferEnd machine.index (x.val + 1)).map fun _ => .next := by
  have ended : (machine.writeAtIndex ((registersUpTo x).map machine.register)).2 =
      Memory.transferEnd machine.index (x.val + 1) := by
    rw [← length_registersUpTo, ← List.length_map machine.register]
    exact Memory.writeAll_end (isByte_registersUpTo bytes x) nonneg
  simp only [execute, thenNext, ended]

/-- So does loading registers. -/
theorem execute_loadRegisters_end {machine : Machine} (nonneg : 0 ≤ machine.index)
    (x : Register) :
    (machine.execute (.loadRegisters x)).2 =
      (Memory.transferEnd machine.index (x.val + 1)).map fun _ => .next := by
  have consecutive : (registersUpTo x).map Fin.val = List.range' 0 (registersUpTo x).length := by
    rw [length_registersUpTo, registersUpTo_val]
  have ended : (machine.loadFrom machine.index (registersUpTo x)).2 =
      Memory.transferEnd (machine.index + (0 : Nat)) (registersUpTo x).length :=
    loadFrom_end consecutive nonneg
  rw [length_registersUpTo, Int.natCast_zero, Int.add_zero] at ended
  simp only [execute, thenNext, ended]

end Machine

end ChipEight
