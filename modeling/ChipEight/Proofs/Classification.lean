import ChipEight.Bits
import ChipEight.Proofs.Transitions

/-!
# Every integer is classified

Masking an integer of any size, negative ones included, by a mask of sixteen bits is masking its
word. The table of patterns therefore divides the integers by their remainders modulo 65536: those
of some forms have a key, which is the remainder with the nibbles of its operands blanked, and all
others have none. No integer matches two rows, so that the order of the rows does not matter. Every
key stands for an instruction, and an instruction takes nothing from an integer but its operands.
-/

namespace ChipEight

namespace Word

/-- The low bits of an integer are those of its word. -/
theorem testBit_ofInt (value : Int) {position : Nat} (low : position < 16) :
    (ofInt value).toNat.testBit position = Bits.isSet value position := by
  change (BitVec.ofInt 16 value).getLsbD position = _
  cases value with
  | ofNat bits =>
    rw [Int.ofNat_eq_natCast, BitVec.ofInt_natCast, BitVec.getLsbD_ofNat, decide_eq_true low,
      Bool.true_and]
    rfl
  | negSucc bits =>
    rw [BitVec.ofInt_negSucc_eq_not_ofNat, BitVec.getLsbD_not, BitVec.getLsbD_ofNat,
      decide_eq_true low, Bool.true_and, Bool.true_and]
    rfl

/-- A mask of sixteen bits keeps of an integer what it keeps of its word. -/
theorem and_mask (value : Int) (mask : Word) :
    Bits.and value mask.toNat = (ofInt value &&& mask).toNat := by
  -- Masking by a natural number leaves one, whatever the sign of the integer.
  obtain ⟨kept, same⟩ : ∃ kept : Nat, Bits.and value mask.toNat = kept := by
    cases value <;> exact ⟨_, rfl⟩
  have bits (position : Nat) : kept.testBit position =
      (Bits.isSet value position && mask.toNat.testBit position) := by
    have masked := Bits.isSet_and value mask.toNat position
    rwa [same] at masked
  rw [same, Int.natCast_inj]
  apply Nat.eq_of_testBit_eq
  intro position
  rw [bits, BitVec.toNat_and, Nat.testBit_and]
  by_cases low : position < 16
  · rw [testBit_ofInt value low]
  · have high : mask.toNat.testBit position = false := mask.getLsbD_of_ge position (by omega)
    rw [high, Bool.and_false, Bool.and_false]

/-- The remainder of an integer has the same word. -/
theorem ofInt_emod (value : Int) : ofInt (value % 65536) = ofInt value :=
  (ofInt_eq_ofInt_iff _ _).mpr (Int.emod_emod_of_dvd value (Int.dvd_refl 65536))

end Word

/-! ## Scanning an integer -/

/-- What a row leaves of an integer of any size, if that is one of its keys. -/
def PatternRow.kept? (row : PatternRow) (value : Int) : Option Int :=
  let kept := Bits.and value row.mask.toNat
  if kept ∈ row.keys.map fun key => (key.toNat : Int) then some kept else none

/-- What the first matching row of a table leaves of an integer. -/
def scan? (rows : List PatternRow) (value : Int) : Option Int := rows.findSome? (·.kept? value)

/-- A row leaves of an integer what it leaves of its word. -/
theorem PatternRow.kept?_eq (row : PatternRow) (value : Int) :
    row.kept? value = (row.key? (Word.ofInt value)).map fun key => (key.toNat : Int) := by
  have known : ((Word.ofInt value &&& row.mask).toNat : Int) ∈
      (row.keys.map fun key => (key.toNat : Int)) ↔ Word.ofInt value &&& row.mask ∈ row.keys := by
    rw [List.mem_map]
    constructor
    · rintro ⟨key, listed, same⟩
      obtain rfl := BitVec.eq_of_toNat_eq (Int.natCast_inj.mp same)
      exact listed
    · intro listed
      exact ⟨_, listed, rfl⟩
  simp only [kept?, key?, Word.and_mask, known]
  split <;> rfl

/-- Scanning an integer is scanning its word. -/
theorem scan?_eq (rows : List PatternRow) (value : Int) :
    scan? rows value = (matchKey? rows (Word.ofInt value)).map fun key => (key.toNat : Int) := by
  simp only [scan?, matchKey?, PatternRow.kept?_eq, List.map_findSome?]
  rfl

/-- At most one row of the table matches a word: two of them would find the same key, and no two
rows have one in common. -/
theorem patternTable_separates {word : Word} {first second : Fin 4}
    (matched : (patternTable[first].key? word).isSome = true)
    (otherMatched : (patternTable[second].key? word).isSome = true) : first = second := by
  have disjoint : (List.finRange 4).all (fun first => (List.finRange 4).all fun second =>
      patternTable[first].keys.all fun key =>
        decide (key ∈ patternTable[second].keys → first = second)) = true := by
    decide +kernel
  simp only [List.all_eq_true, decide_eq_true_eq, List.mem_finRange, true_implies] at disjoint
  obtain ⟨key, found⟩ := Option.isSome_iff_exists.mp matched
  obtain ⟨other, otherFound⟩ := Option.isSome_iff_exists.mp otherMatched
  obtain ⟨known, kept⟩ := (PatternRow.key?_eq_some_iff ..).mp found
  obtain ⟨otherKnown, otherKept⟩ := (PatternRow.key?_eq_some_iff ..).mp otherFound
  obtain rfl : key = other :=
    patternTable_unambiguous word (List.getElem_mem _) known kept (List.getElem_mem _) otherKnown
      otherKept
  exact disjoint first second key known otherKnown

/-- What a row of the table finds, the table finds. -/
theorem matchKey?_of_key? {row : PatternRow} {word key : Word} (listed : row ∈ patternTable)
    (found : row.key? word = some key) : matchKey? patternTable word = some key :=
  (matchKey?_eq_some_iff word key).mpr ⟨row, listed, (row.key?_eq_some_iff word key).mp found⟩

/-- The rows of the table find the same key in any order. -/
theorem matchKey?_perm {rows : List PatternRow} (order : rows.Perm patternTable) (word : Word) :
    matchKey? rows word = matchKey? patternTable word := by
  have agrees {key : Word} (found : matchKey? rows word = some key) :
      matchKey? patternTable word = some key := by
    obtain ⟨row, listed, kept⟩ := List.exists_of_findSome?_eq_some found
    exact matchKey?_of_key? (order.mem_iff.mp listed) kept
  cases found : matchKey? rows word with
  | some key => exact (agrees found).symm
  | none =>
    symm
    rw [matchKey?, List.findSome?_eq_none_iff] at found ⊢
    exact fun row listed => found row (order.mem_iff.mpr listed)

/-! ## The forms of words -/

/-- The numbers of the words that denote instructions, each with its key, which is the number with
the nibbles of its operands blanked. -/
inductive Classified : Nat → Nat → Prop where
  /-- No nibble is an operand. -/
  | plain {number : Nat} (known : number ∈ [0x00E0, 0x00EE]) : Classified number number
  /-- The second nibble is an operand. -/
  | unary {number : Nat}
      (known : number / 4096 = 0xE ∧ number % 256 ∈ [0x9E, 0xA1] ∨
        number / 4096 = 0xF ∧
          number % 256 ∈ [0x07, 0x0A, 0x15, 0x18, 0x1E, 0x29, 0x33, 0x55, 0x65]) :
      Classified number (4096 * (number / 4096) + number % 256)
  /-- The second and the third nibble are operands. -/
  | binary {number : Nat}
      (known : number / 4096 ∈ [0x5, 0x9] ∧ number % 16 = 0 ∨
        number / 4096 = 0x8 ∧ (number % 16 ≤ 0x7 ∨ number % 16 = 0xE)) :
      Classified number (4096 * (number / 4096) + number % 16)
  /-- All nibbles but the first one are operands. -/
  | family {number : Nat}
      (known : number / 4096 ∈ [0x1, 0x2, 0x3, 0x4, 0x6, 0x7, 0xA, 0xB, 0xC, 0xD]) :
      Classified number (4096 * (number / 4096))

/-- A row finds a key in a word if it knows the key's number, and the nibbles of the word that the
row keeps make that number. -/
theorem key?_eq_some_iff_sum {row : PatternRow} {numbers : List Nat} {x y n : Bool}
    (listed : row.keys.map BitVec.toNat = numbers) (shape : row.mask = Word.stencil true x y n)
    (word key : Word) :
    row.key? word = some key ↔
      key.toNat ∈ numbers ∧
        key.toNat = 4096 * word.family.val + 256 * (if x then word.x.val else 0)
          + 16 * (if y then word.y.val else 0) + (if n then word.n.val else 0) := by
  have known : key.toNat ∈ row.keys.map BitVec.toNat ↔ key ∈ row.keys := by
    simp [BitVec.toNat_inj]
  rw [row.key?_eq_some_iff, ← listed, known, ← BitVec.toNat_inj, shape, Word.toNat_and_stencil]
  exact and_congr_right fun _ => eq_comm

variable {word key : Word}

/-- The first row finds the numbers of words without operands. -/
theorem key?_first_row : patternTable[0].key? word = some key ↔
    word.toNat ∈ [0x00E0, 0x00EE] ∧ key.toNat = word.toNat := by
  have nibbles := word.toNat_eq_nibbles
  have found := @key?_eq_some_iff_sum patternTable[0] _ true true true rfl rfl word key
  simp only [if_true, ← nibbles] at found
  rw [found]
  exact and_congr_left fun same => same ▸ Iff.rfl

/-- The second row finds the numbers of words with an operand in the second nibble. -/
theorem key?_second_row : patternTable[1].key? word = some key ↔
    (word.toNat / 4096 = 0xE ∧ word.toNat % 256 ∈ [0x9E, 0xA1] ∨
      word.toNat / 4096 = 0xF ∧
        word.toNat % 256 ∈ [0x07, 0x0A, 0x15, 0x18, 0x1E, 0x29, 0x33, 0x55, 0x65]) ∧
    key.toNat = 4096 * (word.toNat / 4096) + word.toNat % 256 := by
  have nibbles := word.toNat_eq_nibbles
  have found := @key?_eq_some_iff_sum patternTable[1] _ false true true rfl rfl word key
  simp only [if_true, Bool.false_eq_true, if_false] at found
  rw [found]
  constructor
  · rintro ⟨known, sum⟩
    have first : word.toNat / 4096 = key.toNat / 4096 := by omega
    have low : word.toNat % 256 = key.toNat % 256 := by omega
    refine ⟨?_, by omega⟩
    rw [first, low]
    exact (show ∀ number ∈ _, number / 4096 = 0xE ∧ number % 256 ∈ _ ∨
      number / 4096 = 0xF ∧ number % 256 ∈ _ by decide) _ known
  · rintro ⟨known, sum⟩
    refine ⟨?_, by omega⟩
    rw [sum]
    rcases known with ⟨first, low⟩ | ⟨first, low⟩
    · rw [first]
      exact (show ∀ suffix ∈ _, 4096 * 0xE + suffix ∈ _ by decide) _ low
    · rw [first]
      exact (show ∀ suffix ∈ _, 4096 * 0xF + suffix ∈ _ by decide) _ low

/-- The third row finds the numbers of words with operands in the second and the third nibble. -/
theorem key?_third_row : patternTable[2].key? word = some key ↔
    (word.toNat / 4096 ∈ [0x5, 0x9] ∧ word.toNat % 16 = 0 ∨
      word.toNat / 4096 = 0x8 ∧ (word.toNat % 16 ≤ 0x7 ∨ word.toNat % 16 = 0xE)) ∧
    key.toNat = 4096 * (word.toNat / 4096) + word.toNat % 16 := by
  have nibbles := word.toNat_eq_nibbles
  have found := @key?_eq_some_iff_sum patternTable[2] _ false false true rfl rfl word key
  simp only [if_true, Bool.false_eq_true, if_false] at found
  rw [found]
  constructor
  · rintro ⟨known, sum⟩
    have first : word.toNat / 4096 = key.toNat / 4096 := by omega
    have low : word.toNat % 16 = key.toNat % 16 := by omega
    refine ⟨?_, by omega⟩
    rw [first, low]
    exact (show ∀ number ∈ _, number / 4096 ∈ _ ∧ number % 16 = 0 ∨
      number / 4096 = 0x8 ∧ (number % 16 ≤ 0x7 ∨ number % 16 = 0xE) by decide) _ known
  · rintro ⟨known, sum⟩
    refine ⟨?_, by omega⟩
    rw [sum]
    rcases known with ⟨first, low⟩ | ⟨first, low⟩
    · rw [low]
      exact (show ∀ family ∈ _, 4096 * family + 0 ∈ _ by decide) _ first
    · rw [first]
      exact (show ∀ suffix < 16, (suffix ≤ 0x7 ∨ suffix = 0xE) → 4096 * 0x8 + suffix ∈ _
        by decide) _ (Nat.mod_lt _ (by decide)) low

/-- The last row finds the numbers of words with operands everywhere but in the first nibble. -/
theorem key?_last_row : patternTable[3].key? word = some key ↔
    word.toNat / 4096 ∈ [0x1, 0x2, 0x3, 0x4, 0x6, 0x7, 0xA, 0xB, 0xC, 0xD] ∧
    key.toNat = 4096 * (word.toNat / 4096) := by
  have nibbles := word.toNat_eq_nibbles
  have found := @key?_eq_some_iff_sum patternTable[3] _ false false false rfl rfl word key
  simp only [Bool.false_eq_true, if_false] at found
  rw [found]
  constructor
  · rintro ⟨known, sum⟩
    have first : word.toNat / 4096 = key.toNat / 4096 := by omega
    refine ⟨?_, by omega⟩
    rw [first]
    exact (show ∀ number ∈ _, number / 4096 ∈ _ by decide) _ known
  · rintro ⟨known, sum⟩
    refine ⟨?_, by omega⟩
    rw [sum]
    exact (show ∀ family ∈ _, 4096 * family ∈ _ by decide) _ known

/-- A word has exactly the key that its form gives it: each form is found by a row of its own. -/
theorem matchKey?_eq_some_iff_classified :
    matchKey? patternTable word = some key ↔ Classified word.toNat key.toNat := by
  constructor
  · intro matched
    obtain ⟨row, listed, found⟩ := List.exists_of_findSome?_eq_some matched
    obtain ⟨position, inside, rfl⟩ := List.getElem_of_mem listed
    match position with
    | 0 =>
      obtain ⟨known, same⟩ := key?_first_row.mp found
      rw [same]
      exact .plain known
    | 1 =>
      obtain ⟨known, same⟩ := key?_second_row.mp found
      exact same ▸ .unary known
    | 2 =>
      obtain ⟨known, same⟩ := key?_third_row.mp found
      exact same ▸ .binary known
    | 3 =>
      obtain ⟨known, same⟩ := key?_last_row.mp found
      exact same ▸ .family known
  · intro classified
    generalize kept : key.toNat = made at classified
    have listed (row : Fin 4) : patternTable[row] ∈ patternTable := List.getElem_mem _
    cases classified with
    | plain known => exact matchKey?_of_key? (listed 0) (key?_first_row.mpr ⟨known, kept⟩)
    | unary known => exact matchKey?_of_key? (listed 1) (key?_second_row.mpr ⟨known, kept⟩)
    | binary known => exact matchKey?_of_key? (listed 2) (key?_third_row.mpr ⟨known, kept⟩)
    | family known => exact matchKey?_of_key? (listed 3) (key?_last_row.mpr ⟨known, kept⟩)

/-- A key is not above its number. -/
theorem Classified.le {number key : Nat} (classified : Classified number key) : key ≤ number := by
  cases classified <;> omega

/-! ## The operands of an integer -/

/-- What an instruction can take from an integer. -/
structure Operands where
  x : Int
  y : Int
  n : Int
  kk : Int
  nnn : Int

namespace Operands

/-- The fields that masks and shifts cut out of an integer of any size. -/
def ofInt (value : Int) : Operands where
  x := Bits.and value 0x0F00 / 0x100
  y := Bits.and value 0x00F0 / 0x10
  n := Bits.and value 0x000F
  kk := Bits.and value 0x00FF
  nnn := Bits.and value 0x0FFF

/-- The fields of a word. -/
def ofWord (word : Word) : Operands :=
  ⟨word.x.val, word.y.val, word.n.val, word.kk.toNat, word.nnn.val⟩

/-- A mask of whole nibbles keeps of an integer the nibbles of its word, at their places. -/
theorem and_stencil (value : Int) {mask : Nat} (x y n : Bool)
    (shape : (Word.stencil false x y n).toNat = mask) :
    Bits.and value mask = 256 * (if x then ((Word.ofInt value).x.val : Int) else 0)
      + 16 * (if y then ((Word.ofInt value).y.val : Int) else 0)
      + (if n then ((Word.ofInt value).n.val : Int) else 0) := by
  rw [← shape, Word.and_mask, Word.toNat_and_stencil]
  cases x <;> cases y <;> cases n <;> simp

/-- The fields of an integer are those of its word. -/
theorem ofWord_ofInt (value : Int) : ofWord (Word.ofInt value) = ofInt value := by
  have low := (Word.ofInt value).kk_toNat
  have address := (Word.ofInt value).nnn_val
  have x : Bits.and value 0x0F00 = _ := and_stencil value true false false rfl
  have y : Bits.and value 0x00F0 = _ := and_stencil value false true false rfl
  have n : Bits.and value 0x000F = _ := and_stencil value false false true rfl
  have kk : Bits.and value 0x00FF = _ := and_stencil value false true true rfl
  have nnn : Bits.and value 0x0FFF = _ := and_stencil value true true true rfl
  simp only [if_true, Bool.false_eq_true, if_false] at x y n kk nnn
  rw [ofWord, ofInt, x, y, n, kk, nnn]
  congr 1 <;> omega

end Operands

/-- What a key stands for is made of the operands alone, whatever else a word has. -/
theorem Instruction.constructors_congr {key : Word} {make : Word → Instruction}
    (stands : constructors.lookup key = some make) {word other : Word}
    (same : Operands.ofWord word = Operands.ofWord other) : make word = make other := by
  obtain ⟨x, y, n, kk, nnn⟩ := Operands.mk.inj same
  have fields : word.x = other.x ∧ word.y = other.y ∧ word.n = other.n ∧ word.kk = other.kk ∧
      word.nnn = other.nnn :=
    ⟨Fin.ext (by omega), Fin.ext (by omega), Fin.ext (by omega), UInt8.toNat_inj.mp (by omega),
      Fin.ext (by omega)⟩
  have all : ∀ entry ∈ constructors, entry.2 word = entry.2 other := by
    simp [constructors, fields]
  obtain ⟨before, after, listed, -⟩ := List.lookup_eq_some_iff.mp stands
  exact all (key, make) (by rw [listed]; simp)

/-! ## The classification -/

namespace Machine

/-- A word that denotes no instruction is named by the error, and changes nothing. -/
theorem handleWord_of_unknown {value : Int} (unknown : Instruction.decode? value = none)
    (tracing : Bool) (machine : Machine) :
    machine.handleWord tracing value =
      ⟨machine, .error (.unknownInstruction value machine.counter),
        reportWhen tracing (wordReport value)⟩ := by
  simp only [handleWord, perform, unknown]
  rfl

/-- Performing an integer is performing its remainder, except for the report of the word. -/
theorem perform_emod (tracing : Bool) (machine : Machine) (value : Int) :
    (machine.perform tracing value).machine = (machine.perform tracing (value % 65536)).machine ∧
      (machine.perform tracing value).result =
        (machine.perform tracing (value % 65536)).result := by
  simp only [perform, Instruction.decode?, Word.ofInt_emod]
  cases Instruction.ofWord? (Word.ofInt value) <;> exact ⟨rfl, rfl⟩

end Machine

namespace Instruction

/-- How an integer is classified, whatever its size and sign. -/
structure Classification (value : Int) : Prop where
  /-- The key is the one that the form of the remainder gives. -/
  keys : ∀ key : Word, key? value = some key ↔ Classified (value % 65536).toNat key.toNat
  /-- An instruction is found exactly when the remainder has a form. -/
  recognised : (decode? value).isSome = true ↔ ∃ key, Classified (value % 65536).toNat key
  /-- At most one row matches. -/
  separated : ∀ first second : Fin 4, (patternTable[first].kept? value).isSome = true →
    (patternTable[second].kept? value).isSome = true → first = second
  /-- The rows find the key in any order. -/
  ordered : ∀ rows : List PatternRow, rows.Perm patternTable →
    scan? rows value = (key? value).map fun key => (key.toNat : Int)
  /-- Every key that is found stands for an instruction. -/
  stands : ∀ key, key? value = some key → ∃ make, constructors.lookup key = some make ∧
    decode? value = some (make (Word.ofInt value))
  /-- The instruction has the operands that masks and shifts cut out of the integer. -/
  operands : Operands.ofWord (Word.ofInt value) = Operands.ofInt value
  /-- Nothing but these operands matters to what is executed, in any state. -/
  executed : ∀ key make, key? value = some key → constructors.lookup key = some make →
    ∀ word, Operands.ofWord word = Operands.ofInt value → ∀ machine : Machine,
      machine.execute (make word) = machine.execute (make (Word.ofInt (value % 65536)))
  /-- The integer has the effect and the answer of its remainder. -/
  performed : ∀ (tracing : Bool) (machine : Machine),
    (machine.perform tracing value).machine = (machine.perform tracing (value % 65536)).machine ∧
      (machine.perform tracing value).result =
        (machine.perform tracing (value % 65536)).result
  /-- If the remainder has no form, the error names the integer itself and the program counter, and
  nothing changes. -/
  unknown : (¬ ∃ key, Classified (value % 65536).toNat key) →
    ∀ (tracing : Bool) (machine : Machine), machine.handleWord tracing value =
      ⟨machine, .error (.unknownInstruction value machine.counter),
        reportWhen tracing (wordReport value)⟩

/-- An integer has the key that its remainder has. -/
theorem key?_eq_some_iff_classified (value : Int) (key : Word) :
    key? value = some key ↔ Classified (value % 65536).toNat key.toNat := by
  have number := Word.toNat_ofInt value
  have same : (value % 65536).toNat = (Word.ofInt value).toNat := by omega
  rw [same]
  exact matchKey?_eq_some_iff_classified

/-- Every key that is found stands for an instruction, which takes the operands of the integer. -/
theorem decode?_of_key? {value : Int} {key : Word} (found : key? value = some key) :
    ∃ make, constructors.lookup key = some make ∧
      decode? value = some (make (Word.ofInt value)) := by
  obtain ⟨row, listed, known, kept⟩ := (matchKey?_eq_some_iff _ key).mp found
  obtain ⟨make, stands⟩ :=
    Option.isSome_iff_exists.mp (constructors_cover_patterns row listed key known)
  refine ⟨make, stands, ?_⟩
  rw [decode?, ofWord?_of_match _ key row listed known kept, ofKey?, stands, Option.map_some]

/-- An instruction is found exactly when the remainder has a form. -/
theorem isSome_decode?_iff (value : Int) :
    (decode? value).isSome = true ↔ ∃ key, Classified (value % 65536).toNat key := by
  constructor
  · intro recognised
    obtain ⟨instruction, found⟩ := Option.isSome_iff_exists.mp recognised
    obtain ⟨key, matched, -⟩ := Option.bind_eq_some_iff.mp found
    exact ⟨key.toNat, (key?_eq_some_iff_classified value key).mp matched⟩
  · rintro ⟨key, classified⟩
    have small := classified.le
    have number : (BitVec.ofNat 16 key).toNat = key := by
      rw [BitVec.toNat_ofNat]
      omega
    rw [← number] at classified
    have matched := (key?_eq_some_iff_classified value _).mpr classified
    obtain ⟨make, -, found⟩ := decode?_of_key? matched
    rw [found, Option.isSome_some]

/-- Recognising an integer is a total classification that does not depend on the order of the table.
Whatever the size and the sign of an integer, its remainder modulo 65536 decides: it has a key and
denotes an instruction exactly when it has one of the forms, and is refused otherwise. -/
theorem classification (value : Int) : Classification value where
  keys := key?_eq_some_iff_classified value
  recognised := isSome_decode?_iff value
  separated := by
    intro first second matched otherMatched
    rw [PatternRow.kept?_eq, Option.isSome_map] at matched otherMatched
    exact patternTable_separates matched otherMatched
  ordered := by
    intro rows order
    rw [scan?_eq, matchKey?_perm order, key?]
  stands := fun _ => decode?_of_key?
  operands := Operands.ofWord_ofInt value
  executed := by
    intro key make _ stands word same machine
    rw [Word.ofInt_emod, constructors_congr stands (same.trans (Operands.ofWord_ofInt value).symm)]
  performed := fun tracing machine => machine.perform_emod tracing value
  unknown := by
    intro noForm tracing machine
    have none : decode? value = none := by
      rw [← Option.not_isSome_iff_eq_none, isSome_decode?_iff]
      exact noForm
    exact Machine.handleWord_of_unknown none tracing machine

example : key? (-0x754A) = some 0x8006 := by decide +kernel
example : key? (-0x7548) = none := by decide +kernel

end Instruction

end ChipEight
