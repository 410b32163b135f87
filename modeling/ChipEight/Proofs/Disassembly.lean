import ChipEight.Proofs.ComposedTexts
import ChipEight.Proofs.Transitions

/-!
# Reading mnemonics back

A mnemonic is the name of an operation, a blank and operands with commas between them. Several
instructions share the name of an operation; the kinds of the operands tell them apart. Each operand
says its kind: a register begins with a `V`, a hexadecimal number with `0x`, a decimal one with a
digit, and the places that have a name of their own begin with another letter or a bracket. So the
instruction can be read off its mnemonic, and off the whole line that tracing prints of it.
-/

namespace ChipEight

/-- What a mnemonic begins with. -/
inductive Operation where
  | cls | ret | jp | call | se | sne | ld | add | or | and | xor | sub | subn | shr | shl | rnd
  | drw | skp | sknp
  deriving DecidableEq, Repr

namespace Operation

/-- All operations. -/
def all : List Operation :=
  [cls, ret, jp, call, se, sne, ld, add, or, and, xor, sub, subn, shr, shl, rnd, drw, skp, sknp]

/-- The name of an operation. -/
def text : Operation → String
  | cls => "CLS"
  | ret => "RET"
  | jp => "JP"
  | call => "CALL"
  | se => "SE"
  | sne => "SNE"
  | ld => "LD"
  | add => "ADD"
  | or => "OR"
  | and => "AND"
  | xor => "XOR"
  | sub => "SUB"
  | subn => "SUBN"
  | shr => "SHR"
  | shl => "SHL"
  | rnd => "RND"
  | drw => "DRW"
  | skp => "SKP"
  | sknp => "SKNP"

/-- The name of an operation has neither a blank nor a comma. -/
theorem unmarked (operation : Operation) : ∀ character ∈ operation.text.toList,
    character ≠ ' ' ∧ character ≠ ',' := by
  cases operation <;> simp [text]

/-- The operation with a name, if there is one. -/
def read? (characters : List Char) : Option Operation :=
  all.find? fun operation => operation.text.toList = characters

/-- An operation is found by its name. -/
theorem read?_text (operation : Operation) : read? operation.text.toList = some operation := by
  cases operation <;> decide +kernel

end Operation

/-- What an operation works on, as a mnemonic shows it. -/
inductive Operand where
  /-- A register. -/
  | register (x : Register)
  /-- A number in decimal. -/
  | number (value : UInt8)
  /-- An address in hexadecimal. -/
  | address (value : Fin 4096)
  /-- The bits of a byte in hexadecimal. -/
  | mask (value : UInt8)
  /-- The index register. -/
  | index
  /-- The memory from the index on. -/
  | atIndex
  /-- The delay timer. -/
  | delay
  /-- The sound timer. -/
  | sound
  /-- The sprite of a digit. -/
  | glyph
  /-- The decimal digits of a number. -/
  | decimals
  /-- The next key. -/
  | key
  deriving DecidableEq, Repr

/-- The characters of a register are a letter and a digit. -/
theorem Instruction.toList_registerName (x : Register) :
    (registerName x).toList = ['V', Text.upperDigit x] := by
  simp [registerName, Text.upperHexadecimal_eq_upperDigit]

namespace Operand

/-- An operand as a mnemonic shows it. -/
def text : Operand → String
  | register x => Instruction.registerName x
  | number value => Text.decimal value.toNat
  | address value => Instruction.addressText value
  | mask value => "0x" ++ Text.hexadecimal 2 value.toNat
  | index => "I"
  | atIndex => "[I]"
  | delay => "DT"
  | sound => "ST"
  | glyph => "F"
  | decimals => "B"
  | key => "K"

/-- The operand that characters show. What is shown in no other way is a decimal number. -/
def read : List Char → Operand
  | ['I'] => index
  | ['[', 'I', ']'] => atIndex
  | ['D', 'T'] => delay
  | ['S', 'T'] => sound
  | ['F'] => glyph
  | ['B'] => decimals
  | ['K'] => key
  | ['V', digit] => register ⟨Text.digitValue digit % 16, Nat.mod_lt _ (by decide)⟩
  | ['0', 'x', high, low] => mask (UInt8.ofNat (Text.magnitude 16 [high, low]))
  | '0' :: 'x' :: digits => address ⟨Text.magnitude 16 digits % 4096, Nat.mod_lt _ (by decide)⟩
  | digits => number (UInt8.ofNat (Text.magnitude 10 digits))

/-- Decimal digits show a decimal number. -/
theorem read_of_isDigit {characters : List Char}
    (plain : ∀ character ∈ characters, character.isDigit = true) :
    read characters = number (UInt8.ofNat (Text.magnitude 10 characters)) := by
  unfold read
  split <;> simp_all

/-- An operand is read off its text. -/
theorem read_text (operand : Operand) : read operand.text.toList = operand := by
  cases operand with
  | register x =>
    simp [text, Instruction.toList_registerName, read, Text.digitValue_upperDigit,
      Nat.mod_eq_of_lt x.isLt]
  | number value =>
    have plain : ∀ character ∈ Text.digits 10 value.toNat, character.isDigit = true :=
      fun _ listed => Nat.isDigit_of_mem_toDigits (by decide) (by decide) listed
    rw [text, Text.toList_decimal, read_of_isDigit plain, Text.magnitude_digits Text.isBase_ten,
      UInt8.ofNat_toNat]
  | address value =>
    have short : (Text.digits 16 value.val).length ≤ 3 :=
      (Nat.length_toDigits_le_iff (by decide) (by decide)).mpr value.isLt
    have size := Text.length_padded short
    have same := Text.magnitude_padded Text.isBase_sixteen 3 value.val
    obtain ⟨high, middle, low, spelt⟩ := List.length_eq_three.mp size
    rw [spelt] at same
    simp [text, Instruction.addressText, Text.hexadecimal, spelt, read, same,
      Nat.mod_eq_of_lt value.isLt]
  | mask value =>
    have short : (Text.digits 16 value.toNat).length ≤ 2 :=
      (Nat.length_toDigits_le_iff (by decide) (by decide)).mpr value.toNat_lt
    have size := Text.length_padded short
    have same := Text.magnitude_padded Text.isBase_sixteen 2 value.toNat
    obtain ⟨high, low, spelt⟩ := List.length_eq_two.mp size
    rw [spelt] at same
    simp [text, Text.hexadecimal, spelt, read, same]
  | _ => decide +kernel

/-- An operand shows neither a blank nor a comma. -/
theorem unmarked (operand : Operand) : ∀ character ∈ operand.text.toList,
    character ≠ ' ' ∧ character ≠ ',' := by
  have plain {character : Char} (alphanumeric : character.isAlphanum = true) :
      character ≠ ' ' ∧ character ≠ ',' := by
    constructor <;> rintro rfl <;> revert alphanumeric <;> decide
  have hexadecimal {width : Nat} {value : Int} {character : Char}
      (listed : character ∈ ("0x" ++ Text.hexadecimal width value).toList) :
      character ≠ ' ' ∧ character ≠ ',' := by
    constructor
    · rintro rfl
      exact Text.notMem_prefixedHexadecimal width value (by decide) listed
    · rintro rfl
      exact Text.notMem_prefixedHexadecimal width value (by decide) listed
  intro character listed
  cases operand with
  | register x =>
    simp only [text, Instruction.toList_registerName, List.mem_cons, List.not_mem_nil,
      or_false] at listed
    obtain rfl | rfl := listed
    · decide
    · exact plain (Text.isAlphanum_upperDigit x)
  | number value =>
    rw [text, Text.toList_decimal] at listed
    exact plain (Text.isAlphanum_of_mem_digits Text.isBase_ten listed)
  | address value =>
    exact hexadecimal listed
  | mask value =>
    exact hexadecimal listed
  | _ =>
    revert listed character
    simp [text]

end Operand

namespace Instruction

/-- The operation that the mnemonic of an instruction names. -/
def operation : Instruction → Operation
  | clearDisplay => .cls
  | returnFromCall => .ret
  | jump _ | jumpOffset _ => .jp
  | call _ => .call
  | skipIfByte _ _ | skipIfSame _ _ => .se
  | skipUnlessByte _ _ | skipUnlessSame _ _ => .sne
  | loadByte _ _ | copy _ _ | loadIndex _ | readDelay _ | awaitKey _ | setDelay _ | setSound _
  | selectGlyph _ | storeDecimal _ | storeRegisters _ | loadRegisters _ => .ld
  | addByte _ _ | add _ _ | addToIndex _ => .add
  | or _ _ => .or
  | and _ _ => .and
  | xor _ _ => .xor
  | subtract _ _ => .sub
  | subtractFrom _ _ => .subn
  | shiftRight _ _ => .shr
  | shiftLeft _ _ => .shl
  | random _ _ => .rnd
  | draw _ _ _ => .drw
  | skipIfHeld _ => .skp
  | skipUnlessHeld _ => .sknp

/-- The operands that the mnemonic of an instruction shows. -/
def operands : Instruction → List Operand
  | clearDisplay | returnFromCall => []
  | jump target | call target => [.address target]
  | skipIfByte x byte | skipUnlessByte x byte | loadByte x byte | addByte x byte =>
    [.register x, .number byte]
  | skipIfSame x y | skipUnlessSame x y | copy x y | or x y | and x y | xor x y | add x y
  | subtract x y | shiftRight x y | subtractFrom x y | shiftLeft x y => [.register x, .register y]
  | loadIndex address => [.index, .address address]
  | jumpOffset base => [.register ⟨0, Nat.succ_pos 15⟩, .address base]
  | random x mask => [.register x, .mask mask]
  | draw x y height => [.register x, .register y, .number (UInt8.ofNat height.val)]
  | skipIfHeld x | skipUnlessHeld x => [.register x]
  | readDelay x => [.register x, .delay]
  | awaitKey x => [.register x, .key]
  | setDelay x => [.delay, .register x]
  | setSound x => [.sound, .register x]
  | addToIndex x => [.index, .register x]
  | selectGlyph x => [.glyph, .register x]
  | storeDecimal x => [.decimals, .register x]
  | storeRegisters x => [.atIndex, .register x]
  | loadRegisters x => [.register x, .atIndex]

/-- The instruction that an operation is with some operands, if there is one. -/
def assemble? : Operation → List Operand → Option Instruction
  | .cls, [] => some clearDisplay
  | .ret, [] => some returnFromCall
  | .jp, [.address target] => some (jump target)
  | .jp, [.register _, .address base] => some (jumpOffset base)
  | .call, [.address target] => some (call target)
  | .se, [.register x, .number byte] => some (skipIfByte x byte)
  | .se, [.register x, .register y] => some (skipIfSame x y)
  | .sne, [.register x, .number byte] => some (skipUnlessByte x byte)
  | .sne, [.register x, .register y] => some (skipUnlessSame x y)
  | .ld, [.register x, .number byte] => some (loadByte x byte)
  | .ld, [.register x, .register y] => some (copy x y)
  | .ld, [.register x, .delay] => some (readDelay x)
  | .ld, [.register x, .key] => some (awaitKey x)
  | .ld, [.register x, .atIndex] => some (loadRegisters x)
  | .ld, [.index, .address address] => some (loadIndex address)
  | .ld, [.delay, .register x] => some (setDelay x)
  | .ld, [.sound, .register x] => some (setSound x)
  | .ld, [.glyph, .register x] => some (selectGlyph x)
  | .ld, [.decimals, .register x] => some (storeDecimal x)
  | .ld, [.atIndex, .register x] => some (storeRegisters x)
  | .add, [.register x, .number byte] => some (addByte x byte)
  | .add, [.register x, .register y] => some (add x y)
  | .add, [.index, .register x] => some (addToIndex x)
  | .or, [.register x, .register y] => some (or x y)
  | .and, [.register x, .register y] => some (and x y)
  | .xor, [.register x, .register y] => some (xor x y)
  | .sub, [.register x, .register y] => some (subtract x y)
  | .subn, [.register x, .register y] => some (subtractFrom x y)
  | .shr, [.register x, .register y] => some (shiftRight x y)
  | .shl, [.register x, .register y] => some (shiftLeft x y)
  | .rnd, [.register x, .mask mask] => some (random x mask)
  | .drw, [.register x, .register y, .number height] =>
    some (draw x y ⟨height.toNat % 16, Nat.mod_lt _ (by decide)⟩)
  | .skp, [.register x] => some (skipIfHeld x)
  | .sknp, [.register x] => some (skipUnlessHeld x)
  | _, _ => none

/-- The height of a sprite is the number of a byte. -/
theorem toNat_height (height : Fin 16) : (UInt8.ofNat height.val).toNat = height.val :=
  UInt8.toNat_ofNat_of_lt' (Nat.lt_of_lt_of_le height.isLt (by decide))

/-- An instruction is found by its operation and its operands. -/
theorem assemble?_operands (instruction : Instruction) :
    assemble? instruction.operation instruction.operands = some instruction := by
  cases instruction with
  | draw x y height =>
    simp only [operation, operands, assemble?, toNat_height, Nat.mod_eq_of_lt height.isLt]
  | _ => rfl

/-- The name of an operation, a blank, and operands with commas between them. -/
def written (operation : Operation) : List Operand → String
  | [] => operation.text
  | first :: rest => operation.text ++ " " ++ ", ".intercalate ((first :: rest).map Operand.text)

/-- A mnemonic has its operation and its operands, and nothing else. -/
theorem mnemonic_eq_written (instruction : Instruction) :
    instruction.mnemonic = written instruction.operation instruction.operands := by
  apply String.toList_injective
  cases instruction with
  | draw x y height =>
    simp only [mnemonic, written, operation, operands, Operation.text, Operand.text, binaryText,
      String.toList_append, String.toList_intercalate, List.map_cons, List.map_nil, toNat_height]
    simp
  | jumpOffset base =>
    simp [mnemonic, written, operation, operands, Operation.text, Operand.text,
      String.intercalate_cons_cons, toList_registerName, Text.upperDigit, Text.upperDigits]
  | _ =>
    simp [mnemonic, written, operation, operands, Operation.text, Operand.text, unaryText, byteText,
      binaryText, String.intercalate_cons_cons]

/-! ## Reading -/

/-- The parts of a text between its blanks, without commas. -/
def fields (text : String) : List (List Char) := (text.toList.filter (· ≠ ',')).splitOn ' '

/-- The instruction that a mnemonic shows, if it shows one. -/
def ofMnemonic? (text : String) : Option Instruction :=
  match fields text with
  | [] => none
  | name :: shown => (Operation.read? name).bind fun operation =>
      assemble? operation (shown.map Operand.read)

/-- The fields of what is written are the name of the operation and the operands. -/
theorem fields_written (operation : Operation) (operands : List Operand) :
    fields (written operation operands) =
      operation.text.toList :: operands.map fun operand => operand.text.toList := by
  have name := List.filter_eq_self.mpr fun character inside =>
    decide_eq_true (operation.unmarked character inside).2
  have commas : ∀ part ∈ operands.map fun operand => operand.text.toList, ',' ∉ part := by
    simp only [List.forall_mem_map]
    exact fun operand _ inside => (operand.unmarked ',' inside).2 rfl
  have blanks : ∀ part ∈ operation.text.toList :: operands.map fun operand => operand.text.toList,
      ' ' ∉ part := by
    simp only [List.forall_mem_cons, List.forall_mem_map]
    exact ⟨fun inside => (operation.unmarked ' ' inside).1 rfl,
      fun operand _ inside => (operand.unmarked ' ' inside).1 rfl⟩
  have joined : (", ".intercalate (operands.map Operand.text)).toList.filter (· ≠ ',') =
      [' '].intercalate (operands.map fun operand => operand.text.toList) := by
    rw [String.toList_intercalate, List.map_map]
    exact Text.filter_intercalate commas
  have spread : (written operation operands).toList.filter (· ≠ ',') =
      [' '].intercalate
        (operation.text.toList :: operands.map fun operand => operand.text.toList) := by
    cases operands with
    | nil => simpa [written] using name
    | cons first rest =>
      rw [written, String.toList_append, String.toList_append, List.filter_append,
        List.filter_append, name, joined]
      simp
  rw [fields, spread, List.splitOn_intercalate ' ' blanks (by simp)]

/-- An instruction is read off its mnemonic. -/
theorem ofMnemonic?_mnemonic (instruction : Instruction) :
    ofMnemonic? instruction.mnemonic = some instruction := by
  have read : (instruction.operands.map fun operand => operand.text.toList).map Operand.read =
      instruction.operands := by
    simp [Function.comp_def, Operand.read_text]
  simp only [ofMnemonic?, mnemonic_eq_written, fields_written, read, Operation.read?_text,
    Option.bind_some, assemble?_operands]

/-- Different instructions have different mnemonics. -/
theorem mnemonic_injective : Function.Injective mnemonic := by
  intro one other same
  have found := congrArg ofMnemonic? same
  simpa only [ofMnemonic?_mnemonic, Option.some.injEq] using found

/-- A line that tracing prints of an instruction says the address and the instruction. -/
theorem instructionReport_inj {address elsewhere : Int} {one other : Instruction}
    (same : instructionReport address one = instructionReport elsewhere other) :
    address = elsewhere ∧ one = other := by
  have characters := congrArg String.toList same
  simp only [instructionReport, String.toList_append, List.append_assoc, List.append_cancel_left_eq,
    Text.hexadecimal, String.toList_ofList] at characters
  obtain ⟨addresses, rest⟩ := Text.padded_append_inj Text.isBase_sixteen 4 (by decide) characters
  refine ⟨addresses, mnemonic_injective (String.toList_injective ?_)⟩
  simpa using rest

/-- Integers that denote instructions denote the same one exactly if their words are the same. -/
theorem eq_iff_of_decode? {first second : Int} {one other : Instruction}
    (denoted : decode? first = some one) (denotedToo : decode? second = some other) :
    one = other ↔ first % 65536 = second % 65536 := by
  rw [decode?_eq_some_iff] at denoted denotedToo
  constructor
  · rintro rfl
    rw [← denoted, denotedToo]
  · intro same
    have found := (decode?_eq_some_iff second one).mpr (denoted.trans same)
    have foundToo := (decode?_eq_some_iff second other).mpr denotedToo
    exact Option.some.inj (found.symm.trans foundToo)

/-- Two integers that denote instructions have the same mnemonic exactly if they are the same in the
low sixteen bits. The lines that tracing prints of them are the same exactly if the addresses are
the same too. The instruction can be read off the mnemonic, and the code of the instruction is the
low sixteen bits.

Proof: the name of the operation and the operands are the fields of the mnemonic once its commas are
left out, because none of them has a blank or a comma. Each operand is read off its own text, and
the operation with the kinds of its operands says which instruction it is. -/
theorem disassembly_lossless {first second : Int} {one other : Instruction}
    (denoted : decode? first = some one) (denotedToo : decode? second = some other) :
    (one.mnemonic = other.mnemonic ↔ first % 65536 = second % 65536) ∧
      (∀ address elsewhere : Int,
        instructionReport address one = instructionReport elsewhere other ↔
          address = elsewhere ∧ first % 65536 = second % 65536) ∧
      (∀ machine : Machine, (machine.perform true first).trace =
        wordReport first ++ instructionReport machine.counter one) ∧
      ofMnemonic? one.mnemonic = some one ∧ (one.code : Int) = first % 65536 := by
  have same := eq_iff_of_decode? denoted denotedToo
  refine ⟨?_, ?_, ?_, ofMnemonic?_mnemonic one, (decode?_eq_some_iff first one).mp denoted⟩
  · rw [← same]
    exact mnemonic_injective.eq_iff
  · intro address elsewhere
    rw [← same]
    constructor
    · exact instructionReport_inj
    · rintro ⟨rfl, rfl⟩
      rfl
  · intro machine
    simp only [Machine.perform, denoted, reportWhen, if_true]

/-- A negative integer denotes an instruction that is told apart from a load of the same byte. -/
theorem disassembly_lossless_of_negative_word :
    decode? (-0x3ED1) = some (random 1 0x2F) ∧ decode? 0x612F = some (loadByte 1 0x2F) ∧
      (random 1 0x2F).mnemonic ≠ (loadByte 1 0x2F).mnemonic ∧
      ofMnemonic? "RND V1, 0x2f" = some (random 1 0x2F) := by
  have denoted : decode? (-0x3ED1) = some (random 1 0x2F) := by decide +kernel
  have denotedToo : decode? 0x612F = some (loadByte 1 0x2F) := by decide +kernel
  obtain ⟨told, _, _, read, _⟩ := disassembly_lossless denoted denotedToo
  refine ⟨denoted, denotedToo, fun same => absurd (told.mp same) (by decide), ?_⟩
  have shown : (random 1 0x2F).mnemonic = "RND V1, 0x2f" := by decide +kernel
  rwa [shown] at read

end Instruction

end ChipEight
