import ChipEight.Proofs.MemoryImage
import Mathlib.Data.List.Induction

/-!
# What a memory recalls

A memory meets requests: to read a byte, to write one, to read a sprite, to place a program. Which
of them it refuses, and why, can be told from the request alone. A refused request changes nothing,
so that every request has a definite effect on each place: it puts a value there or leaves the
place alone. After any series of requests a place has the value that the latest one to reach it put
there, and what the blank memory held if none did.
-/

namespace ChipEight

/-- What a memory can be asked for. -/
inductive MemoryRequest where
  | read (address : Int)
  | write (address value : Int)
  | sprite (address : Int) (length : Nat)
  | load (program : List UInt8)
  deriving DecidableEq, Repr

/-- The value that a request puts at a place of the memory, if it is accepted and reaches it. -/
def MemoryRequest.puts? (place : Nat) : MemoryRequest → Option Int
  | .write address value => if address = place ∧ IsByte value then some value else none
  | .load program =>
    if program.length ≤ Memory.programCapacity ∧ Memory.programStart ≤ place then
      program[place - Memory.programStart]?.map fun byte => (byte.toNat : Int)
    else none
  | _ => none

/-- The value that the latest of the requests to reach a place put there. -/
def MemoryRequest.latest? (past : List MemoryRequest) (place : Nat) : Option Int :=
  past.reverse.findSome? (puts? place)

/-- With one request more the latest one to reach a place is this one, or else the one before. -/
theorem MemoryRequest.latest?_append (past : List MemoryRequest) (request : MemoryRequest)
    (place : Nat) :
    latest? (past ++ [request]) place = (request.puts? place).or (latest? past place) := by
  simp only [latest?, List.reverse_append, List.reverse_singleton, List.findSome?_append,
    List.findSome?_singleton]

namespace Memory

/-- The memory after an effect on it, which is as before if the effect was refused, and the bytes
that were asked for, of which there are none. -/
def settle (memory : Memory) : Except Fault Memory → Memory × Except Fault (List UInt8)
  | .ok changed => (changed, .ok [])
  | .error fault => (memory, .error fault)

/-- A memory meets a request. The answer is the bytes that were asked for. -/
def serve (memory : Memory) : MemoryRequest → Memory × Except Fault (List UInt8)
  | .read address => (memory, (memory.read address).map fun byte => [byte])
  | .write address value => memory.settle (memory.write address value)
  | .sprite address length => (memory, memory.sprite address length)
  | .load program => memory.settle (memory.load program)

/-- A memory meets requests one after the other, whether they are refused or not. -/
def serveAll (memory : Memory) (requests : List MemoryRequest) : Memory :=
  requests.foldl (fun memory request => (memory.serve request).1) memory

/-! ## What is refused -/

variable (memory : Memory)

/-- Writing is refused outside the memory, and inside it if the value is not that of a byte. -/
theorem write_eq_error_iff (address value : Int) (fault : Fault) :
    memory.write address value = .error fault ↔
      ((address < 0 ∨ 4095 < address) ∧ fault = .memoryBounds address 1) ∨
      ((0 ≤ address ∧ address ≤ 4095) ∧ (value < 0 ∨ 255 < value) ∧ fault = .notAByte) := by
  rw [write]
  cases found : cell? address with
  | none =>
    have outside := (cell?_eq_none_iff address).mp found
    simp only [Except.error.injEq]
    constructor
    · rintro rfl
      exact Or.inl ⟨by omega, rfl⟩
    · rintro (⟨_, rfl⟩ | ⟨_, _⟩)
      · rfl
      · omega
  | some cell =>
    have named := (cell?_eq_some_iff address cell).mp found
    have inside := cell.isLt
    by_cases fits : 0 ≤ value ∧ value < 256
    · simp only [fits, and_self, if_true, reduceCtorEq, false_iff]
      omega
    · simp only [fits, if_false, Except.error.injEq]
      constructor
      · rintro rfl
        exact Or.inr ⟨by omega, by omega, rfl⟩
      · rintro (⟨_, _⟩ | ⟨_, _, rfl⟩)
        · omega
        · rfl

/-- A sprite is refused exactly if it begins before the memory or ends beyond it. -/
theorem sprite_eq_error_iff (address : Int) (length : Nat) (fault : Fault) :
    memory.sprite address length = .error fault ↔
      (address < 0 ∨ 4096 < address + length) ∧ fault = .memoryBounds address length := by
  rw [sprite]
  by_cases beyond : address < 0 ∨ 4096 < address + length
  · rw [if_pos beyond, Except.error.injEq]
    constructor
    · rintro rfl
      exact ⟨beyond, rfl⟩
    · rintro ⟨_, rfl⟩
      rfl
  · rw [if_neg beyond]
    constructor
    · intro impossible
      cases impossible
    · rintro ⟨_, _⟩
      contradiction

/-- A program is refused exactly if it is longer than the room from its start on. -/
theorem load_eq_error_iff (program : List UInt8) (fault : Fault) :
    memory.load program = .error fault ↔
      3584 < program.length ∧ fault = .programTooLong program.length := by
  rw [load, programCapacity]
  by_cases tooLong : 3584 < program.length
  · rw [if_pos tooLong, Except.error.injEq]
    constructor
    · rintro rfl
      exact ⟨tooLong, rfl⟩
    · rintro ⟨_, rfl⟩
      rfl
  · rw [if_neg tooLong]
    constructor
    · intro impossible
      cases impossible
    · rintro ⟨_, _⟩
      contradiction

/-- The bytes of a sprite are those that reading gives, one after the other. -/
theorem sprite_eq_reads {memory : Memory} {address : Int} {length : Nat} {bytes : List UInt8}
    (found : memory.sprite address length = .ok bytes) :
    bytes.map Except.ok = (List.range length).map fun distance : Nat =>
      memory.read (address + distance) := by
  apply List.ext_getElem?
  intro row
  have listed := getElem?_of_sprite found row
  rw [List.getElem?_map, List.getElem?_map, listed]
  by_cases within : row < length
  · have inside : ¬ (address < 0 ∨ 4096 < address + length) := by
      intro beyond
      have refused := (memory.sprite_eq_error_iff address length _).mpr ⟨beyond, rfl⟩
      exact nomatch found.symm.trans refused
    obtain ⟨byte, read⟩ := (memory.read_isOk_iff (address + row)).mpr (by omega)
    rw [if_pos within, List.getElem?_range within, Option.map_some, read]
    rfl
  · rw [if_neg within, List.getElem?_eq_none (by simpa using within)]
    rfl

/-- A refused request changes nothing. -/
theorem serve_of_refused {memory : Memory} {request : MemoryRequest} {fault : Fault}
    (refused : (memory.serve request).2 = .error fault) : (memory.serve request).1 = memory := by
  have kept (effect : Except Fault Memory) (failed : (memory.settle effect).2 = .error fault) :
      (memory.settle effect).1 = memory := by
    cases effect with
    | ok changed => cases failed
    | error cause => rfl
  cases request with
  | read address => rfl
  | sprite address length => rfl
  | write address value => exact kept _ refused
  | load program => exact kept _ refused

/-! ## What is put where -/

/-- What writing a value makes of the value at a place. -/
theorem holds_write {memory : Memory} {place : Nat} {held : Int} (inside : place < 4096)
    (before : memory.Holds place held) (address value : Int) :
    (memory.serve (.write address value)).1.Holds place
      (((MemoryRequest.write address value).puts? place).getD held) := by
  rw [serve, MemoryRequest.puts?]
  cases accepted : memory.write address value with
  | error fault =>
    have refused := (memory.write_eq_error_iff address value fault).mp accepted
    have notPut : ¬ (address = place ∧ IsByte value) := by
      rintro ⟨rfl, byte⟩
      have := byte.1
      have := byte.2
      omega
    rw [if_neg notPut]
    exact before
  | ok written =>
    obtain ⟨byte, same, stands⟩ := read_of_write accepted
    by_cases reached : address = place
    · subst reached
      have put : (place : Int) = place ∧ IsByte value := ⟨rfl, same ▸ isByte_toNat byte⟩
      rw [if_pos put]
      exact ⟨byte, stands, same⟩
    · obtain ⟨other, otherStands, otherSame⟩ := before
      rw [if_neg fun put => reached put.1]
      refine ⟨other, ?_, otherSame⟩
      exact (read_of_write_ne accepted fun same => reached same.symm).trans otherStands

/-- What placing a program makes of the value at a place. -/
theorem holds_load {memory : Memory} {place : Nat} {held : Int} (inside : place < 4096)
    (before : memory.Holds place held) (program : List UInt8) :
    (memory.serve (.load program)).1.Holds place
      (((MemoryRequest.load program).puts? place).getD held) := by
  rw [serve, MemoryRequest.puts?]
  by_cases fits : program.length ≤ programCapacity
  · obtain ⟨byte, stands, rfl⟩ := before
    obtain ⟨cell, named, rfl⟩ := (memory.read_eq_ok_iff place byte).mp stands
    have placed : memory.load program = .ok ⟨overlay memory.bytes programStart program⟩ := by
      rw [load, if_neg (Nat.not_lt.mpr fits)]
    rw [placed, settle]
    refine ⟨_, (read_eq_ok_iff _ _ _).mpr ⟨cell, named, rfl⟩, ?_⟩
    have same : place = cell.val := by omega
    subst same
    simp only [Fin.getElem_fin, getElem_overlay]
    by_cases reached : programStart ≤ cell.val
    · rw [if_pos ⟨fits, reached⟩, if_pos reached, List.getD_eq_getElem?_getD]
      cases program[cell.val - programStart]? with
      | some byte => rfl
      | none => rfl
    · rw [if_neg fun put => reached put.2, if_neg reached]
      rfl
  · have refused : memory.load program = .error (.programTooLong program.length) := by
      rw [load, if_pos (by omega)]
    rw [refused, if_neg fun put => fits put.1]
    exact before

/-- What a request makes of the value at a place. -/
theorem holds_serve {memory : Memory} {place : Nat} {held : Int} (inside : place < 4096)
    (before : memory.Holds place held) (request : MemoryRequest) :
    (memory.serve request).1.Holds place ((request.puts? place).getD held) := by
  cases request with
  | read address => exact before
  | sprite address length => exact before
  | write address value => exact holds_write inside before address value
  | load program => exact holds_load inside before program

/-- A place has the value that the latest request to reach it put there, or what it had at first.

Proof: by induction on the requests, the latest one last. -/
theorem holds_serveAll {memory : Memory} {place : Nat} {held : Int} (inside : place < 4096)
    (before : memory.Holds place held) (past : List MemoryRequest) :
    (memory.serveAll past).Holds place ((MemoryRequest.latest? past place).getD held) := by
  induction past using List.reverseRecOn with
  | nil => exact before
  | append_singleton past request inductionHypothesis =>
    have next := holds_serve inside inductionHypothesis request
    rw [serveAll, List.foldl_append, MemoryRequest.latest?_append, Option.getD_or]
    exact next

/-! ## A memory with a past -/

/-- How a memory answers that has met some requests. -/
structure Recalls (memory : Memory) (past : List MemoryRequest) : Prop where
  /-- Writing is refused outside the memory, and inside it if the value is not that of a byte. -/
  write_refused : ∀ address value fault, memory.write address value = .error fault ↔
    ((address < 0 ∨ 4095 < address) ∧ fault = .memoryBounds address 1) ∨
    ((0 ≤ address ∧ address ≤ 4095) ∧ (value < 0 ∨ 255 < value) ∧ fault = .notAByte)
  /-- Reading is refused outside the memory. -/
  read_refused : ∀ address fault, memory.read address = .error fault ↔
    (address < 0 ∨ 4096 ≤ address) ∧ fault = .memoryBounds address 1
  /-- A sprite is refused if it begins before the memory or ends beyond it. -/
  sprite_refused : ∀ address (length : Nat) fault, memory.sprite address length = .error fault ↔
    (address < 0 ∨ 4096 < address + length) ∧ fault = .memoryBounds address length
  /-- A program is refused if it is too long. -/
  load_refused : ∀ program fault, memory.load program = .error fault ↔
    3584 < program.length ∧ fault = .programTooLong program.length
  /-- A refused request changes nothing. -/
  unchanged : ∀ request fault, (memory.serve request).2 = .error fault →
    (memory.serve request).1 = memory
  /-- A sprite that is not refused has the bytes that reading gives from its address on. -/
  sprite_read : ∀ address (length : Nat) bytes, memory.sprite address length = .ok bytes →
    bytes.map Except.ok = (List.range length).map fun distance : Nat =>
      memory.read (address + distance)
  /-- Each place has the value that the latest request to reach it put there, and what the font or
  nothing put there if none did. -/
  latest : ∀ place : Nat, place < 4096 → memory.Holds place
    ((MemoryRequest.latest? past place).getD (font.getD place 0).toNat)
  /-- There are as many bytes as ever. -/
  size : memory.bytes.toList.length = 4096

/-- Whatever requests a blank memory has met, it refuses what lies outside, keeps everything when it
refuses, and recalls of each place the value that was put there last. -/
theorem recalls_serveAll (past : List MemoryRequest) : (blank.serveAll past).Recalls past where
  write_refused := (blank.serveAll past).write_eq_error_iff
  read_refused := (blank.serveAll past).read_eq_error_iff
  sprite_refused := (blank.serveAll past).sprite_eq_error_iff
  load_refused := (blank.serveAll past).load_eq_error_iff
  unchanged := fun _ _ => serve_of_refused
  sprite_read := fun _ _ _ => sprite_eq_reads
  latest := fun _ inside => holds_serveAll inside (holds_blank inside) past
  size := (blank.serveAll past).bytes.length_toList

end Memory

end ChipEight
