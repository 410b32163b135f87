import ChipEight.Fault

/-!
# Memory

The machine has 4096 bytes. The glyphs of the sixteen hexadecimal digits stand at its beginning,
five bytes each, and programs are placed at address 512. Addresses come from registers and may be
any integer: each access first asks whether all its bytes lie inside the memory, and a refused
access changes nothing.
-/

namespace ChipEight

/-- The bytes of the memory, by address. -/
structure Memory where
  bytes : Vector UInt8 4096

namespace Memory

/-- The address at which programs begin. -/
def programStart : Nat := 0x200

/-- The number of bytes from the start of programs to the end of the memory. -/
def programCapacity : Nat := 3584

/-- The height of a glyph, which is also its number of bytes. -/
def glyphHeight : Nat := 5

/-- The glyphs of the digits from `0` to `F`, row after row. -/
def font : List UInt8 := [
  0xF0, 0x90, 0x90, 0x90, 0xF0,
  0x20, 0x60, 0x20, 0x20, 0x70,
  0xF0, 0x10, 0xF0, 0x80, 0xF0,
  0xF0, 0x10, 0xF0, 0x10, 0xF0,
  0x90, 0x90, 0xF0, 0x10, 0x10,
  0xF0, 0x80, 0xF0, 0x10, 0xF0,
  0xF0, 0x80, 0xF0, 0x90, 0xF0,
  0xF0, 0x10, 0x20, 0x40, 0x40,
  0xF0, 0x90, 0xF0, 0x90, 0xF0,
  0xF0, 0x90, 0xF0, 0x10, 0xF0,
  0xF0, 0x90, 0xF0, 0x90, 0x90,
  0xE0, 0x90, 0xE0, 0x90, 0xE0,
  0xF0, 0x80, 0x80, 0x80, 0xF0,
  0xE0, 0x90, 0x90, 0x90, 0xE0,
  0xF0, 0x80, 0xF0, 0x80, 0xF0,
  0xF0, 0x80, 0xF0, 0x80, 0x80]

/-- Bytes laid over a vector from a position on; what would lie beyond its end is dropped. -/
def overlay {size : Nat} (bytes : Vector UInt8 size) (start : Nat) :
    List UInt8 → Vector UInt8 size
  | [] => bytes
  | byte :: rest => overlay (bytes.setIfInBounds start byte) (start + 1) rest

/-- Memory before any program is placed in it: the font, then zeros. -/
def blank : Memory := ⟨overlay (Vector.replicate 4096 0) 0 font⟩

/-- The cell at an address, if the address lies inside the memory. -/
def cell? (address : Int) : Option (Fin 4096) :=
  if inside : 0 ≤ address ∧ address < 4096 then some ⟨address.toNat, by omega⟩ else none

/-- The byte at an address. -/
def read (memory : Memory) (address : Int) : Except Fault UInt8 :=
  match cell? address with
  | some cell => .ok memory.bytes[cell]
  | none => .error (.memoryBounds address 1)

/-- Puts a value at an address. The address is looked at first, then whether the value is that of
a byte. -/
def write (memory : Memory) (address value : Int) : Except Fault Memory :=
  match cell? address with
  | some cell =>
    if 0 ≤ value ∧ value < 256 then .ok ⟨memory.bytes.set cell (UInt8.ofInt value)⟩
    else .error .notAByte
  | none => .error (.memoryBounds address 1)

/-- Puts values at consecutive addresses, one after the other. The first one that is refused ends
this, and those before it stay. -/
def writeAll (memory : Memory) (address : Int) : List Int → Memory × Except Fault Unit
  | [] => (memory, .ok ())
  | value :: rest =>
    match memory.write address value with
    | .ok written => written.writeAll (address + 1) rest
    | .error fault => (memory, .error fault)

/-- The bytes from one address up to another one, which is counted from the end of the memory
when it is negative. There are none when the second address comes first. -/
def slice (memory : Memory) (start stop : Int) : List UInt8 :=
  let stop := if stop < 0 then stop + 4096 else stop
  (memory.bytes.extract start.toNat stop.toNat).toList

/-- The bytes of a sprite with `length` rows at an address. -/
def sprite (memory : Memory) (address length : Int) : Except Fault (List UInt8) :=
  if address < 0 ∨ 4096 < address + length then .error (.memoryBounds address length)
  else .ok (memory.slice address (address + length))

/-- The address of the glyph of a digit. -/
def glyphAddress (digit : Int) : Except Fault Int :=
  if 0 ≤ digit ∧ digit ≤ 0xF then .ok (digit * glyphHeight) else .error (.noGlyph digit)

/-- Places a program at the start of programs. What it does not cover keeps its bytes. -/
def load (memory : Memory) (program : List UInt8) : Except Fault Memory :=
  if programCapacity < program.length then .error (.programTooLong program.length)
  else .ok ⟨overlay memory.bytes programStart program⟩

/-- What is reported of a program that has been placed. -/
def loadNotice (program : List UInt8) : String :=
  "A ROM of " ++ Text.decimal program.length ++ " bytes has been loaded successfully\n"

/-- The addresses that have a cell. -/
theorem cell?_eq_some_iff (address : Int) (cell : Fin 4096) :
    cell? address = some cell ↔ address = cell.val := by
  have inside := cell.isLt
  unfold cell?
  split
  · simp only [Option.some.injEq, Fin.ext_iff]
    omega
  · simp only [reduceCtorEq, false_iff]
    omega

/-- The addresses that have none. -/
theorem cell?_eq_none_iff (address : Int) :
    cell? address = none ↔ address < 0 ∨ 4096 ≤ address := by
  unfold cell?
  split
  · simp only [reduceCtorEq, false_iff]
    omega
  · simp only [true_iff]
    omega

/-- Reading gives the byte of the cell with the address. -/
theorem read_eq_ok_iff (memory : Memory) (address : Int) (byte : UInt8) :
    memory.read address = .ok byte ↔
      ∃ cell : Fin 4096, address = cell.val ∧ memory.bytes[cell] = byte := by
  unfold read
  cases found : cell? address with
  | none =>
    have outside := (cell?_eq_none_iff address).mp found
    simp only [reduceCtorEq, false_iff, not_exists, not_and]
    intro cell named
    have inside := cell.isLt
    omega
  | some cell =>
    have named := (cell?_eq_some_iff address cell).mp found
    simp only [Except.ok.injEq]
    constructor
    · intro same
      exact ⟨cell, named, same⟩
    · rintro ⟨other, otherNamed, same⟩
      obtain rfl : cell = other := Fin.ext (by omega)
      exact same

/-- A position of an overlaid vector holds the byte laid over it, or else what it held before. -/
theorem getElem_overlay {size : Nat} (bytes : Vector UInt8 size) (start : Nat)
    (laid : List UInt8) (position : Nat) (inside : position < size) :
    (overlay bytes start laid)[position] =
      if start ≤ position then laid.getD (position - start) bytes[position]
      else bytes[position] := by
  induction laid generalizing bytes start with
  | nil => simp [overlay]
  | cons byte rest inductionHypothesis =>
    rw [overlay, inductionHypothesis, Vector.getElem_setIfInBounds inside]
    rcases Nat.lt_trichotomy start position with before | same | after
    · have later : start + 1 ≤ position := before
      have shifted : position - start = position - (start + 1) + 1 := by omega
      have differs : start ≠ position := by omega
      simp [later, Nat.le_of_lt before, shifted, differs]
    · subst same
      have notLater : ¬ start + 1 ≤ start := by omega
      simp [notLater]
    · have notLater : ¬ start + 1 ≤ position := by omega
      have notStart : ¬ start ≤ position := by omega
      have differs : start ≠ position := by omega
      simp [notLater, notStart, differs]

/-- A value that was written is that of a byte, and the byte is read back. -/
theorem read_of_write {memory written : Memory} {address value : Int}
    (accepted : memory.write address value = .ok written) :
    ∃ byte : UInt8, value = byte.toNat ∧ written.read address = .ok byte := by
  unfold write at accepted
  split at accepted
  · rename_i cell found
    split at accepted
    · rename_i fits
      obtain rfl : _ = written := Except.ok.inj accepted
      refine ⟨UInt8.ofInt value, ?_, by simp [read, found]⟩
      simp only [UInt8.ofInt, UInt8.toNat_ofNat']
      omega
    · simp at accepted
  · simp at accepted

end Memory

end ChipEight
