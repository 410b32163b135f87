import ChipEight.Text.Numeral
import Mathlib.Data.List.Basic

/-!
# Reading numerals back

A numeral has an optional sign and digits, of which each counts for the base times as much as the
next. Zeros that fill up its width count for nothing. So the integer can be read off what was
written of it, whatever the width, and different integers are written differently.
-/

namespace ChipEight.Text

/-! ## Digits -/

/-- The number that a digit of either letter case stands for. -/
def digitValue (digit : Char) : Nat :=
  if digit.toNat < 'A'.toNat then digit.toNat - '0'.toNat
  else if digit.toNat < 'a'.toNat then digit.toNat - 'A'.toNat + 10
  else digit.toNat - 'a'.toNat + 10

/-- The number that digits write. -/
def magnitude (base : Nat) (characters : List Char) : Nat :=
  characters.foldl (fun total digit => base * total + digitValue digit) 0

/-- A digit stands for the number that it was chosen for. -/
theorem digitValue_digitChar {value : Nat} (small : value < 16) :
    digitValue (Nat.digitChar value) = value := by
  revert value
  decide

/-- A digit is a letter or a decimal digit. -/
theorem isAlphanum_digitChar {value : Nat} (small : value < 16) :
    (Nat.digitChar value).isAlphanum = true := by
  revert value
  decide

/-- One digit more multiplies what stands before it by the base. -/
theorem magnitude_append_singleton (base : Nat) (characters : List Char) (digit : Char) :
    magnitude base (characters ++ [digit]) =
      base * magnitude base characters + digitValue digit := by
  rw [magnitude, List.foldl_append, List.foldl_cons, List.foldl_nil, magnitude]

/-- Zeros in front count for nothing. -/
theorem magnitude_zeros (base count : Nat) (characters : List Char) :
    magnitude base (List.replicate count '0' ++ characters) = magnitude base characters := by
  induction count with
  | zero => rw [List.replicate_zero, List.nil_append]
  | succ count inductionHypothesis =>
    rw [List.replicate_succ, List.cons_append, magnitude, List.foldl_cons, Nat.mul_zero,
      Nat.zero_add]
    exact inductionHypothesis

/-- The bases that have a digit for each number below them. -/
def IsBase (base : Nat) : Prop := 1 < base ∧ base ≤ 16

/-- There is a digit for each number below ten. -/
theorem isBase_ten : IsBase 10 := by simp [IsBase]

/-- There is a digit for each number below sixteen. -/
theorem isBase_sixteen : IsBase 16 := by simp [IsBase]

section Base

variable {base : Nat} (proper : IsBase base)
include proper

/-- The digits of a number write it.

Proof: a number below the base is one digit. Any other one is written as its quotient, followed by
the digit of its remainder. -/
theorem magnitude_digits (value : Nat) : magnitude base (digits base value) = value := by
  induction value using Nat.strongRecOn with
  | ind value inductionHypothesis =>
    obtain ⟨big, small⟩ := proper
    by_cases single : value < base
    · rw [digits, Nat.toDigits_of_lt_base single, magnitude, List.foldl_cons, List.foldl_nil,
        Nat.mul_zero, Nat.zero_add, digitValue_digitChar (Nat.lt_of_lt_of_le single small)]
    · have reduced : value / base < value := Nat.div_lt_self (by omega) big
      have remainder : value % base < 16 :=
        Nat.lt_of_lt_of_le (Nat.mod_lt value (by omega)) small
      rw [digits, Nat.toDigits_of_base_le big (Nat.le_of_not_lt single),
        magnitude_append_singleton, ← digits, inductionHypothesis _ reduced,
        digitValue_digitChar remainder, Nat.div_add_mod]

/-- The digits of a number are letters or decimal digits. -/
theorem isAlphanum_of_mem_digits {value : Nat} {character : Char}
    (listed : character ∈ digits base value) : character.isAlphanum = true := by
  induction value using Nat.strongRecOn with
  | ind value inductionHypothesis =>
    obtain ⟨big, small⟩ := proper
    by_cases single : value < base
    · rw [digits, Nat.toDigits_of_lt_base single, List.mem_singleton] at listed
      rw [listed]
      exact isAlphanum_digitChar (Nat.lt_of_lt_of_le single small)
    · have reduced : value / base < value := Nat.div_lt_self (by omega) big
      rw [digits, Nat.toDigits_of_base_le big (Nat.le_of_not_lt single), List.mem_append,
        List.mem_singleton] at listed
      cases listed with
      | inl front => exact inductionHypothesis _ reduced front
      | inr last =>
        rw [last]
        exact isAlphanum_digitChar (Nat.lt_of_lt_of_le (Nat.mod_lt value (by omega)) small)

/-! ## Numerals -/

/-- A character of a numeral is its sign, a letter or a decimal digit. -/
theorem isAlphanum_of_mem_padded {width : Nat} {value : Int} {character : Char}
    (listed : character ∈ padded (digits base) width value) :
    character = '-' ∨ character.isAlphanum = true := by
  simp only [padded, List.mem_append, List.mem_replicate] at listed
  obtain (signed | ⟨_, rfl⟩) | digit := listed
  · split at signed
    · exact .inl (List.mem_singleton.mp signed)
    · exact absurd signed List.not_mem_nil
  · exact .inr (by decide)
  · exact .inr (isAlphanum_of_mem_digits proper digit)

end Base

/-- The integer that a numeral writes. -/
def readNumeral (base : Nat) : List Char → Int
  | '-' :: characters => -(magnitude base characters : Int)
  | characters => magnitude base characters

/-- Without a sign the digits are read as they stand. -/
theorem readNumeral_of_unsigned (base : Nat) {characters : List Char}
    (unsigned : '-' ∉ characters) :
    readNumeral base characters = magnitude base characters := by
  cases characters with
  | nil => rfl
  | cons first rest =>
    have other : first ≠ '-' := fun same => unsigned (same ▸ List.mem_cons_self)
    unfold readNumeral
    split
    · simp_all
    · rfl

/-- The zeros that fill up the width of a number count for nothing. -/
theorem magnitude_padded {base : Nat} (proper : IsBase base) (width value : Nat) :
    magnitude base (padded (digits base) width value) = value := by
  have unsigned : ¬ (value : Int) < 0 := by omega
  simp only [padded, if_neg unsigned, List.nil_append, Int.natAbs_natCast, magnitude_zeros,
    magnitude_digits proper]

/-- What is read of a written integer is this integer, however wide it was written. -/
theorem readNumeral_padded {base : Nat} (proper : IsBase base) (width : Nat) (value : Int) :
    readNumeral base (padded (digits base) width value) = value := by
  by_cases negative : value < 0
  · simp only [padded, if_pos negative, List.cons_append, List.nil_append, readNumeral,
      magnitude_zeros, magnitude_digits proper]
    omega
  · simp only [padded, if_neg negative, List.nil_append]
    rw [readNumeral_of_unsigned, magnitude_zeros, magnitude_digits proper]
    · omega
    · intro listed
      rw [List.mem_append, List.mem_replicate] at listed
      obtain ⟨_, same⟩ | digit := listed
      · exact absurd same (by decide)
      · exact absurd (isAlphanum_of_mem_digits proper digit) (by decide)

/-- Different integers have different numerals of the same width. -/
theorem padded_injective {base : Nat} (proper : IsBase base) (width : Nat) :
    Function.Injective (padded (digits base) width) := by
  intro one other same
  rw [← readNumeral_padded proper width one, same, readNumeral_padded proper]

/-- The decimal numeral of a number is its digits. -/
theorem toList_decimal (value : Nat) : (decimal value).toList = digits 10 value := by
  have unsigned : ¬ (value : Int) < 0 := by omega
  simp [decimal, padded, unsigned]

/-- Where a character stands in neither of two beginnings, what they begin with it is split there in
one way only. -/
theorem append_cons_inj_of_notMem {separator : Char} {first second rest other : List Char}
    (outside : separator ∉ first) (outsideToo : separator ∉ second)
    (same : first ++ separator :: rest = second ++ separator :: other) :
    first = second ∧ rest = other := by
  induction first generalizing second with
  | nil =>
    cases second with
    | nil => exact ⟨rfl, (List.cons.inj same).2⟩
    | cons head tail =>
      have opened := (List.cons.inj same).1
      exact absurd (opened ▸ List.mem_cons_self) outsideToo
  | cons head tail inductionHypothesis =>
    cases second with
    | nil =>
      have opened := (List.cons.inj same).1
      exact absurd (opened ▸ List.mem_cons_self) outside
    | cons otherHead otherTail =>
      obtain ⟨rfl, left⟩ := List.cons.inj same
      obtain ⟨rfl, equal⟩ := inductionHypothesis (List.not_mem_of_not_mem_cons outside)
        (List.not_mem_of_not_mem_cons outsideToo) left
      exact ⟨rfl, equal⟩

/-- A character that is no sign, no letter and no decimal digit does not stand in a numeral. -/
theorem notMem_padded {base : Nat} (proper : IsBase base) (width : Nat) (value : Int)
    {separator : Char} (ends : separator ≠ '-' ∧ separator.isAlphanum = false) :
    separator ∉ padded (digits base) width value := by
  intro listed
  cases isAlphanum_of_mem_padded proper listed with
  | inl sign => exact ends.1 sign
  | inr digit => exact Bool.noConfusion (ends.2.symm.trans digit)

/-- A numeral ends where a character follows that no numeral has, so that a text that begins with a
numeral says which one, and how it goes on. -/
theorem padded_append_inj {base : Nat} (proper : IsBase base) (width : Nat) {separator : Char}
    (ends : separator ≠ '-' ∧ separator.isAlphanum = false) {one other : Int}
    {rest otherRest : List Char}
    (same : padded (digits base) width one ++ separator :: rest =
      padded (digits base) width other ++ separator :: otherRest) :
    one = other ∧ rest = otherRest := by
  obtain ⟨numerals, rests⟩ := append_cons_inj_of_notMem (notMem_padded proper width one ends)
    (notMem_padded proper width other ends) same
  exact ⟨padded_injective proper width numerals, rests⟩

/-- A number with no more digits than the width is as wide as the width. -/
theorem length_padded {base width value : Nat} (short : (digits base value).length ≤ width) :
    (padded (digits base) width value).length = width := by
  have unsigned : ¬ (value : Int) < 0 := by omega
  simp only [padded, if_neg unsigned, Int.natAbs_natCast, List.nil_append, List.length_nil,
    Nat.zero_add, List.length_append, List.length_replicate]
  omega

/-! ## Upper-case digits -/

/-- The upper-case hexadecimal digits in ascending order. -/
def upperDigits : Vector Char 16 :=
  #v['0', '1', '2', '3', '4', '5', '6', '7', '8', '9', 'A', 'B', 'C', 'D', 'E', 'F']

/-- The upper-case digit of a number. -/
def upperDigit (value : Fin 16) : Char := upperDigits[value]

/-- The digit of a number stands for it. -/
theorem digitValue_upperDigit (value : Fin 16) : digitValue (upperDigit value) = value.val := by
  revert value
  decide

/-- The digit of a number is a letter or a decimal digit. -/
theorem isAlphanum_upperDigit (value : Fin 16) : (upperDigit value).isAlphanum = true := by
  revert value
  decide

/-- Different numbers have different digits. -/
theorem upperDigit_injective : Function.Injective upperDigit := by
  intro one other same
  rw [Fin.ext_iff, ← digitValue_upperDigit, same, digitValue_upperDigit]

/-- The numeral of a number with one digit is this digit. -/
theorem upperHexadecimal_eq_upperDigit (value : Fin 16) :
    upperHexadecimal 1 value.val = String.ofList [upperDigit value] := by
  revert value
  decide +kernel

end ChipEight.Text
