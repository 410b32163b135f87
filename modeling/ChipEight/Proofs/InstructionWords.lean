import ChipEight.Instruction.Decode

/-!
# The words of instructions

Every instruction has a code, the number of its word: its key with its operands at their places.
Recognising a word by masks is the inverse of this. A word is recognised as an instruction exactly
when the instruction has the word's number as its code, so that "no mask matches" can be said
without masks: no instruction has that code.

The masks keep whole nibbles. What a mask keeps of a word is therefore a sum of some of the word's
nibbles at their places, and matching a key is an equation between small numbers. No two listed
keys match the same word, whatever the order of the rows.
-/

namespace ChipEight

namespace Word

/-- A mask that keeps some of the four nibbles of a word. -/
def stencil (family x y n : Bool) : Word :=
  let nibble (kept : Bool) : BitVec 4 := if kept then 15 else 0
  nibble family ++ nibble x ++ nibble y ++ nibble n

/-- A mask that covers a nibble keeps it, and one that leaves it out blanks it. -/
theorem nibble_and (word mask : Word) (start : Nat) (kept : Bool)
    (shape : mask.extractLsb' start 4 = if kept then BitVec.allOnes 4 else 0#4) :
    ((word &&& mask).extractLsb' start 4).toFin =
      if kept then (word.extractLsb' start 4).toFin else 0 := by
  rw [BitVec.extractLsb'_and, shape]
  cases kept
  · exact congrArg BitVec.toFin (BitVec.and_zero)
  · exact congrArg BitVec.toFin (BitVec.and_allOnes)

/-- What a mask of whole nibbles keeps of a word: the nibbles themselves, at their places. -/
theorem toNat_and_stencil (word : Word) (family x y n : Bool) :
    (word &&& stencil family x y n).toNat =
      4096 * (if family then word.family.val else 0) + 256 * (if x then word.x.val else 0)
        + 16 * (if y then word.y.val else 0) + (if n then word.n.val else 0) := by
  have first : (word &&& stencil family x y n).family = if family then word.family else 0 :=
    nibble_and word _ 12 family (by cases family <;> cases x <;> cases y <;> cases n <;> rfl)
  have second : (word &&& stencil family x y n).x = if x then word.x else 0 :=
    nibble_and word _ 8 x (by cases family <;> cases x <;> cases y <;> cases n <;> rfl)
  have third : (word &&& stencil family x y n).y = if y then word.y else 0 :=
    nibble_and word _ 4 y (by cases family <;> cases x <;> cases y <;> cases n <;> rfl)
  have fourth : (word &&& stencil family x y n).n = if n then word.n else 0 :=
    nibble_and word _ 0 n (by cases family <;> cases x <;> cases y <;> cases n <;> rfl)
  rw [toNat_eq_nibbles, first, second, third, fourth]
  cases family <;> cases x <;> cases y <;> cases n <;> rfl

/-- The number of the word of an integer is its remainder. -/
theorem toNat_ofInt (value : Int) : ((ofInt value).toNat : Int) = value % 65536 := by
  rw [ofInt, BitVec.toNat_ofInt]
  omega

/-- The low byte is made of the last two nibbles. -/
theorem kk_toNat (word : Word) : word.kk.toNat = 16 * word.y.val + word.n.val := by
  have bound := word.isLt
  simp only [kk, y, n, UInt8.toNat_ofBitVec, BitVec.extractLsb'_toNat, BitVec.toFin_extractLsb',
    Fin.val_ofNat, Nat.shiftRight_eq_div_pow]
  omega

/-- The low twelve bits are made of the last three nibbles. -/
theorem nnn_val (word : Word) :
    word.nnn.val = 256 * word.x.val + 16 * word.y.val + word.n.val := by
  have bound := word.isLt
  simp only [nnn, x, y, n, BitVec.toFin_extractLsb', Fin.val_ofNat, Nat.shiftRight_eq_div_pow]
  omega

/-- The number of a word is that of its first byte, shifted by eight bits, and its second one. -/
theorem ofBytes_toNat (high low : UInt8) :
    (ofBytes high low).toNat = 256 * high.toNat + low.toNat := by
  have bound := low.toBitVec.isLt
  rw [ofBytes, BitVec.toNat_append, Nat.shiftLeft_eq, Nat.mul_comm,
    ← Nat.two_pow_add_eq_or_of_lt bound]
  rfl

end Word

/-- At most one listed key matches a word. Two keys that matched it would agree under each other's
masks, and no two different keys of the table do. -/
theorem patternTable_unambiguous (word : Word) {first second : PatternRow} {key other : Word}
    (firstListed : first ∈ patternTable) (keyKnown : key ∈ first.keys)
    (keyKept : word &&& first.mask = key) (secondListed : second ∈ patternTable)
    (otherKnown : other ∈ second.keys) (otherKept : word &&& second.mask = other) :
    key = other := by
  have compatible : patternTable.all (fun first => first.keys.all fun key =>
      patternTable.all fun second => second.keys.all fun other =>
        decide (key &&& second.mask = other &&& first.mask → key = other)) = true := by
    decide +kernel
  simp only [List.all_eq_true, decide_eq_true_eq] at compatible
  apply compatible first firstListed key keyKnown second secondListed other otherKnown
  rw [← keyKept, ← otherKept, BitVec.and_assoc, BitVec.and_assoc,
    BitVec.and_comm first.mask second.mask]

/-- A row finds a key in a word if the key is one of its own and what its mask keeps of the word. -/
theorem PatternRow.key?_eq_some_iff (row : PatternRow) (word key : Word) :
    row.key? word = some key ↔ key ∈ row.keys ∧ word &&& row.mask = key := by
  simp only [key?]
  split
  · rename_i known
    constructor
    · intro same
      obtain rfl := Option.some.inj same
      exact ⟨known, rfl⟩
    · rintro ⟨_, kept⟩
      rw [kept]
  · rename_i unknown
    constructor
    · intro impossible
      cases impossible
    · rintro ⟨known, kept⟩
      exact absurd (kept ▸ known) unknown

/-- A table finds the key that some row of it keeps of a word, whatever the order of its rows. -/
theorem matchKey?_eq_some_iff (word key : Word) :
    matchKey? patternTable word = some key ↔
      ∃ row ∈ patternTable, key ∈ row.keys ∧ word &&& row.mask = key := by
  constructor
  · intro matched
    obtain ⟨row, listed, kept⟩ := List.exists_of_findSome?_eq_some matched
    exact ⟨row, listed, (row.key?_eq_some_iff word key).mp kept⟩
  · rintro ⟨row, listed, known, kept⟩
    have findsAny : (matchKey? patternTable word).isSome := by
      rw [matchKey?, List.findSome?_isSome_iff]
      exact ⟨row, listed, by rw [(row.key?_eq_some_iff word key).mpr ⟨known, kept⟩]; rfl⟩
    obtain ⟨other, matched⟩ := Option.isSome_iff_exists.mp findsAny
    obtain ⟨second, secondListed, secondKept⟩ := List.exists_of_findSome?_eq_some matched
    obtain ⟨otherKnown, otherKept⟩ := (second.key?_eq_some_iff word other).mp secondKept
    rw [matched, patternTable_unambiguous word listed known kept secondListed otherKnown otherKept]

namespace Instruction

/-- The number of the word of an instruction: its key and its operands at their places. -/
def code : Instruction → Nat
  | clearDisplay => 0x00E0
  | returnFromCall => 0x00EE
  | jump target => 0x1000 + target
  | call target => 0x2000 + target
  | skipIfByte x byte => 0x3000 + 256 * x + byte.toNat
  | skipUnlessByte x byte => 0x4000 + 256 * x + byte.toNat
  | skipIfSame x y => 0x5000 + 256 * x + 16 * y
  | loadByte x byte => 0x6000 + 256 * x + byte.toNat
  | addByte x byte => 0x7000 + 256 * x + byte.toNat
  | copy x y => 0x8000 + 256 * x + 16 * y
  | or x y => 0x8001 + 256 * x + 16 * y
  | and x y => 0x8002 + 256 * x + 16 * y
  | xor x y => 0x8003 + 256 * x + 16 * y
  | add x y => 0x8004 + 256 * x + 16 * y
  | subtract x y => 0x8005 + 256 * x + 16 * y
  | shiftRight x y => 0x8006 + 256 * x + 16 * y
  | subtractFrom x y => 0x8007 + 256 * x + 16 * y
  | shiftLeft x y => 0x800E + 256 * x + 16 * y
  | skipUnlessSame x y => 0x9000 + 256 * x + 16 * y
  | loadIndex address => 0xA000 + address
  | jumpOffset base => 0xB000 + base
  | random x mask => 0xC000 + 256 * x + mask.toNat
  | draw x y height => 0xD000 + 256 * x + 16 * y + height
  | skipIfHeld x => 0xE09E + 256 * x
  | skipUnlessHeld x => 0xE0A1 + 256 * x
  | readDelay x => 0xF007 + 256 * x
  | awaitKey x => 0xF00A + 256 * x
  | setDelay x => 0xF015 + 256 * x
  | setSound x => 0xF018 + 256 * x
  | addToIndex x => 0xF01E + 256 * x
  | selectGlyph x => 0xF029 + 256 * x
  | storeDecimal x => 0xF033 + 256 * x
  | storeRegisters x => 0xF055 + 256 * x
  | loadRegisters x => 0xF065 + 256 * x

/-- The instruction of a matched word is the one that the matching key stands for. -/
theorem ofWord?_of_match (word key : Word) (row : PatternRow) (listed : row ∈ patternTable)
    (known : key ∈ row.keys) (kept : word &&& row.mask = key) :
    ofWord? word = ofKey? key word := by
  have matched : matchKey? patternTable word = some key :=
    (matchKey?_eq_some_iff word key).mpr ⟨row, listed, known, kept⟩
  rw [ofWord?, matched]
  rfl

/-- A recognised word is that of its instruction: what the mask kept is the key, and what it
blanked stands in the operands. -/
theorem code_of_ofWord? {word : Word} {instruction : Instruction}
    (recognised : ofWord? word = some instruction) : instruction.code = word.toNat := by
  have nibbles := word.toNat_eq_nibbles
  have low := word.kk_toNat
  have address := word.nnn_val
  obtain ⟨key, matched, stands⟩ := Option.bind_eq_some_iff.mp recognised
  obtain ⟨row, listed, known, kept⟩ := (matchKey?_eq_some_iff word key).mp matched
  simp only [patternTable, List.mem_cons, List.not_mem_nil, or_false] at listed
  rcases listed with rfl | rfl | rfl | rfl
  · have sum := word.toNat_and_stencil true true true true
    change word &&& Word.stencil true true true true = key at kept
    simp only [List.mem_cons, List.not_mem_nil, or_false] at known
    rcases known with rfl | rfl
    all_goals
      obtain rfl := Option.some.inj stands
      simp only [kept, BitVec.reduceToNat, if_true] at sum
      simp only [code]
      omega
  · have sum := word.toNat_and_stencil true false true true
    change word &&& Word.stencil true false true true = key at kept
    simp only [List.mem_cons, List.not_mem_nil, or_false] at known
    rcases known with rfl | rfl | rfl | rfl | rfl | rfl | rfl | rfl | rfl | rfl | rfl
    all_goals
      obtain rfl := Option.some.inj stands
      simp only [kept, BitVec.reduceToNat, if_true, Bool.false_eq_true, if_false] at sum
      simp only [code]
      omega
  · have sum := word.toNat_and_stencil true false false true
    change word &&& Word.stencil true false false true = key at kept
    simp only [List.mem_cons, List.not_mem_nil, or_false] at known
    rcases known with rfl | rfl | rfl | rfl | rfl | rfl | rfl | rfl | rfl | rfl | rfl
    all_goals
      obtain rfl := Option.some.inj stands
      simp only [kept, BitVec.reduceToNat, if_true, Bool.false_eq_true, if_false] at sum
      simp only [code]
      omega
  · have sum := word.toNat_and_stencil true false false false
    change word &&& Word.stencil true false false false = key at kept
    simp only [List.mem_cons, List.not_mem_nil, or_false] at known
    rcases known with rfl | rfl | rfl | rfl | rfl | rfl | rfl | rfl | rfl | rfl
    all_goals
      obtain rfl := Option.some.inj stands
      simp only [kept, BitVec.reduceToNat, if_true, Bool.false_eq_true, if_false] at sum
      simp only [code]
      omega

/-- A word is recognised by the sum of its nibbles that a mask keeps. -/
theorem ofWord?_of_sum {word : Word} (row : Fin 4) (key : Word) (x y n : Bool)
    (shape : patternTable[row].mask = Word.stencil true x y n)
    (known : key ∈ patternTable[row].keys)
    (sum : key.toNat = 4096 * word.family.val + 256 * (if x then word.x.val else 0)
      + 16 * (if y then word.y.val else 0) + (if n then word.n.val else 0)) :
    ofWord? word = ofKey? key word := by
  refine ofWord?_of_match word key patternTable[row] (List.getElem_mem _) known ?_
  apply BitVec.eq_of_toNat_eq
  rw [shape, Word.toNat_and_stencil]
  exact sum.symm

variable {word : Word}

/-- An instruction on one register stands in the second row of the pattern table. -/
theorem ofWord?_unary (key : Word) {x : Register} (make : Register → Instruction)
    (stands : ofKey? key word = some (make word.x)) (known : key ∈ patternTable[1].keys)
    (blank : key.x = 0) (same : key.toNat + 256 * x = word.toNat) :
    ofWord? word = some (make x) := by
  have keyNibbles := key.toNat_eq_nibbles
  have nibbles := word.toNat_eq_nibbles
  rw [blank] at keyNibbles
  have operand : word.x = x := Fin.ext (by omega)
  rw [ofWord?_of_sum 1 key false true true rfl known (by simp; omega), stands, operand]

/-- An instruction on two registers stands in the third row. -/
theorem ofWord?_binary (key : Word) {x y : Register} (make : Register → Register → Instruction)
    (stands : ofKey? key word = some (make word.x word.y)) (known : key ∈ patternTable[2].keys)
    (blank : key.x = 0 ∧ key.y = 0) (same : key.toNat + 256 * x + 16 * y = word.toNat) :
    ofWord? word = some (make x y) := by
  have keyNibbles := key.toNat_eq_nibbles
  have nibbles := word.toNat_eq_nibbles
  rw [blank.1, blank.2] at keyNibbles
  have first : word.x = x := Fin.ext (by omega)
  have second : word.y = y := Fin.ext (by omega)
  rw [ofWord?_of_sum 2 key false false true rfl known (by simp; omega), stands, first, second]

/-- An instruction on a register and a byte stands in the last row. -/
theorem ofWord?_immediate (key : Word) {x : Register} {byte : UInt8}
    (make : Register → UInt8 → Instruction)
    (stands : ofKey? key word = some (make word.x word.kk)) (known : key ∈ patternTable[3].keys)
    (blank : key.x = 0 ∧ key.y = 0 ∧ key.n = 0)
    (same : key.toNat + 256 * x + byte.toNat = word.toNat) :
    ofWord? word = some (make x byte) := by
  have keyNibbles := key.toNat_eq_nibbles
  have nibbles := word.toNat_eq_nibbles
  have low := word.kk_toNat
  have bound := byte.toNat_lt
  rw [blank.1, blank.2.1, blank.2.2] at keyNibbles
  have first : word.x = x := Fin.ext (by omega)
  have second : word.kk = byte := UInt8.toNat_inj.mp (by omega)
  rw [ofWord?_of_sum 3 key false false false rfl known (by simp; omega), stands, first, second]

/-- An instruction on an address stands in the last row too. -/
theorem ofWord?_address (key : Word) {address : Fin 4096} (make : Fin 4096 → Instruction)
    (stands : ofKey? key word = some (make word.nnn)) (known : key ∈ patternTable[3].keys)
    (blank : key.x = 0 ∧ key.y = 0 ∧ key.n = 0) (same : key.toNat + address = word.toNat) :
    ofWord? word = some (make address) := by
  have keyNibbles := key.toNat_eq_nibbles
  have nibbles := word.toNat_eq_nibbles
  have low := word.nnn_val
  rw [blank.1, blank.2.1, blank.2.2] at keyNibbles
  have operand : word.nnn = address := Fin.ext (by omega)
  rw [ofWord?_of_sum 3 key false false false rfl known (by simp; omega), stands, operand]

/-- An instruction without operands stands in the first row. -/
theorem ofWord?_plain (key : Word) {instruction : Instruction}
    (stands : ofKey? key word = some instruction)
    (known : key ∈ patternTable[0].keys) (same : key.toNat = word.toNat) :
    ofWord? word = some instruction := by
  have nibbles := word.toNat_eq_nibbles
  rw [ofWord?_of_sum 0 key true true true rfl known (by simp; omega), stands]

/-- The word with the number of an instruction is recognised as that instruction. -/
theorem ofWord?_of_code {instruction : Instruction} (same : instruction.code = word.toNat) :
    ofWord? word = some instruction := by
  cases instruction with
  | clearDisplay => exact ofWord?_plain 0x00E0 rfl (by decide) same
  | returnFromCall => exact ofWord?_plain 0x00EE rfl (by decide) same
  | skipIfHeld x => exact ofWord?_unary 0xE09E skipIfHeld rfl (by decide) rfl same
  | skipUnlessHeld x => exact ofWord?_unary 0xE0A1 skipUnlessHeld rfl (by decide) rfl same
  | readDelay x => exact ofWord?_unary 0xF007 readDelay rfl (by decide) rfl same
  | awaitKey x => exact ofWord?_unary 0xF00A awaitKey rfl (by decide) rfl same
  | setDelay x => exact ofWord?_unary 0xF015 setDelay rfl (by decide) rfl same
  | setSound x => exact ofWord?_unary 0xF018 setSound rfl (by decide) rfl same
  | addToIndex x => exact ofWord?_unary 0xF01E addToIndex rfl (by decide) rfl same
  | selectGlyph x => exact ofWord?_unary 0xF029 selectGlyph rfl (by decide) rfl same
  | storeDecimal x => exact ofWord?_unary 0xF033 storeDecimal rfl (by decide) rfl same
  | storeRegisters x => exact ofWord?_unary 0xF055 storeRegisters rfl (by decide) rfl same
  | loadRegisters x => exact ofWord?_unary 0xF065 loadRegisters rfl (by decide) rfl same
  | skipIfSame x y => exact ofWord?_binary 0x5000 skipIfSame rfl (by decide) ⟨rfl, rfl⟩ same
  | copy x y => exact ofWord?_binary 0x8000 copy rfl (by decide) ⟨rfl, rfl⟩ same
  | or x y => exact ofWord?_binary 0x8001 or rfl (by decide) ⟨rfl, rfl⟩ same
  | and x y => exact ofWord?_binary 0x8002 and rfl (by decide) ⟨rfl, rfl⟩ same
  | xor x y => exact ofWord?_binary 0x8003 xor rfl (by decide) ⟨rfl, rfl⟩ same
  | add x y => exact ofWord?_binary 0x8004 add rfl (by decide) ⟨rfl, rfl⟩ same
  | subtract x y => exact ofWord?_binary 0x8005 subtract rfl (by decide) ⟨rfl, rfl⟩ same
  | shiftRight x y => exact ofWord?_binary 0x8006 shiftRight rfl (by decide) ⟨rfl, rfl⟩ same
  | subtractFrom x y => exact ofWord?_binary 0x8007 subtractFrom rfl (by decide) ⟨rfl, rfl⟩ same
  | shiftLeft x y => exact ofWord?_binary 0x800E shiftLeft rfl (by decide) ⟨rfl, rfl⟩ same
  | skipUnlessSame x y => exact ofWord?_binary 0x9000 skipUnlessSame rfl (by decide) ⟨rfl, rfl⟩ same
  | jump target => exact ofWord?_address 0x1000 jump rfl (by decide) ⟨rfl, rfl, rfl⟩ same
  | call target => exact ofWord?_address 0x2000 call rfl (by decide) ⟨rfl, rfl, rfl⟩ same
  | skipIfByte x byte =>
    exact ofWord?_immediate 0x3000 skipIfByte rfl (by decide) ⟨rfl, rfl, rfl⟩ same
  | skipUnlessByte x byte =>
    exact ofWord?_immediate 0x4000 skipUnlessByte rfl (by decide) ⟨rfl, rfl, rfl⟩ same
  | loadByte x byte => exact ofWord?_immediate 0x6000 loadByte rfl (by decide) ⟨rfl, rfl, rfl⟩ same
  | addByte x byte => exact ofWord?_immediate 0x7000 addByte rfl (by decide) ⟨rfl, rfl, rfl⟩ same
  | loadIndex address => exact ofWord?_address 0xA000 loadIndex rfl (by decide) ⟨rfl, rfl, rfl⟩ same
  | jumpOffset base => exact ofWord?_address 0xB000 jumpOffset rfl (by decide) ⟨rfl, rfl, rfl⟩ same
  | random x mask => exact ofWord?_immediate 0xC000 random rfl (by decide) ⟨rfl, rfl, rfl⟩ same
  | draw x y height =>
    have nibbles := word.toNat_eq_nibbles
    simp only [code] at same
    have first : word.x = x := Fin.ext (by omega)
    have second : word.y = y := Fin.ext (by omega)
    have third : word.n = height := Fin.ext (by omega)
    rw [ofWord?_of_sum 3 0xD000 false false false rfl (by decide) (by simp; omega)]
    change some (draw word.x word.y word.n) = _
    rw [first, second, third]

/-- Recognising a word is finding the instruction that has its number as a code. -/
theorem ofWord?_eq_some_iff (word : Word) (instruction : Instruction) :
    ofWord? word = some instruction ↔ instruction.code = word.toNat :=
  ⟨code_of_ofWord?, ofWord?_of_code⟩

/-- A word is not recognised exactly when its number is the code of no instruction. -/
theorem ofWord?_eq_none_iff (word : Word) :
    ofWord? word = none ↔ ∀ instruction : Instruction, instruction.code ≠ word.toNat := by
  rw [Option.eq_none_iff_forall_ne_some]
  exact forall_congr' fun instruction => not_congr (ofWord?_eq_some_iff word instruction)

/-- An integer denotes the instruction that has its remainder as a code, if one has. -/
theorem decode?_eq_some_iff (value : Int) (instruction : Instruction) :
    decode? value = some instruction ↔ (instruction.code : Int) = value % 65536 := by
  rw [decode?, ofWord?_eq_some_iff, ← Word.toNat_ofInt, Int.natCast_inj]

/-- A code is a number of sixteen bits. -/
theorem code_lt (instruction : Instruction) : instruction.code < 65536 := by
  cases instruction with
  | skipIfByte x byte | skipUnlessByte x byte | loadByte x byte | addByte x byte
  | random x byte =>
    have low := byte.toNat_lt
    simp only [code]
    omega
  | _ =>
    simp only [code]
    omega

/-- The code of an instruction denotes the instruction. -/
theorem decode?_code (instruction : Instruction) : decode? instruction.code = some instruction := by
  have small := instruction.code_lt
  rw [decode?_eq_some_iff]
  omega

end Instruction

end ChipEight
