import ChipEight.Machine.Error
import ChipEight.Proofs.ComposedTexts

/-!
# Reading the texts of errors back

The reason in the text of an error may be anything. It may end with a colon, or hold the text of
another error, so that the beginning of the text does not say where the reason ends. The end does:
neither the address nor the word has a blank. So the address stands behind the last blank of the
text. Before that blank the text ends with ` at address`, and without this the word stands behind
the last blank. What is left before `opcode` is a reason with its colon, or nothing.
-/

namespace ChipEight

namespace Diagnosis

open Text

/-- The text of a word has no blank. -/
theorem blank_notMem_wordText (word : Option Int) : ' ' ∉ (wordText word).toList := by
  cases word with
  | none => decide
  | some word => exact notMem_prefixedHexadecimal 4 word (by decide)

/-- Different words are shown differently, and a word is shown differently from none. -/
theorem wordText_injective : Function.Injective wordText := by
  have apart (word : Int) : wordText none ≠ wordText (some word) := by
    intro same
    have first := congrArg (fun text : String => text.toList.head?) same
    simp [wordText] at first
  intro one other same
  cases one with
  | none =>
    cases other with
    | none => rfl
    | some other => exact absurd same (apart other)
  | some one =>
    cases other with
    | none => exact absurd same.symm (apart one)
    | some other =>
      exact congrArg some (hexadecimal_injective 4 ((String.append_right_inj _).mp same))

/-- The blanks at which a place is read from its end. -/
theorem toList_place (diagnosis : Diagnosis) :
    diagnosis.place.toList =
      "opcode".toList ++ ' ' :: ((wordText diagnosis.word).toList ++ " at address".toList ++
        ' ' :: ("0x" ++ hexadecimal 3 diagnosis.address).toList) := by
  simp [place]

/-- A text that ends with a place says the word, the address and what stands before the place,
whatever that is. -/
theorem append_place_inj {before after : String} {one other : Diagnosis}
    (same : before ++ one.place = after ++ other.place) :
    before = after ∧ one.word = other.word ∧ one.address = other.address := by
  have addressUnmarked (address : Int) : ' ' ∉ ("0x" ++ hexadecimal 3 address).toList :=
    notMem_prefixedHexadecimal 3 address (by decide)
  have characters := congrArg String.toList same
  rw [String.toList_append, String.toList_append, toList_place, toList_place] at characters
  have atLastBlank : (before.toList ++ "opcode".toList ++ ' ' :: (wordText one.word).toList ++
        " at address".toList) ++ ' ' :: ("0x" ++ hexadecimal 3 one.address).toList =
      (after.toList ++ "opcode".toList ++ ' ' :: (wordText other.word).toList ++
        " at address".toList) ++ ' ' :: ("0x" ++ hexadecimal 3 other.address).toList := by
    simpa only [List.append_assoc, List.cons_append] using characters
  obtain ⟨fronts, addresses⟩ := append_cons_inj_of_notMem_end (addressUnmarked one.address)
    (addressUnmarked other.address) atLastBlank
  obtain ⟨reasons, words⟩ := append_cons_inj_of_notMem_end (blank_notMem_wordText one.word)
    (blank_notMem_wordText other.word) (List.append_cancel_right fronts)
  refine ⟨String.toList_injective (List.append_cancel_right reasons),
    wordText_injective (String.toList_injective words), hexadecimal_injective 3 ?_⟩
  exact (String.append_right_inj _).mp (String.toList_injective addresses)

/-- What a text begins with: a reason and its colon, or nothing. -/
def opening (reason : String) : String := if reason = "" then "" else reason ++ ": "

/-- A text has an opening and a place. -/
theorem text_eq_opening (diagnosis : Diagnosis) :
    diagnosis.text = opening diagnosis.reason ++ diagnosis.place := by
  unfold text opening
  split
  · rw [String.empty_append]
  · rfl

/-- An opening says its reason. -/
theorem opening_injective : Function.Injective opening := by
  have nonempty (reason : String) : reason ++ ": " ≠ "" := by
    intro empty
    have characters := congrArg String.toList empty
    simp at characters
  intro one other same
  unfold opening at same
  split at same
  · split at same
    · rename_i none noneToo
      exact none.trans noneToo.symm
    · exact absurd same.symm (nonempty other)
  · split at same
    · exact absurd same (nonempty one)
    · exact (String.append_left_inj _).mp same

/-- Different diagnoses have different texts. -/
theorem text_injective : Function.Injective text := by
  intro one other same
  rw [text_eq_opening, text_eq_opening] at same
  obtain ⟨openings, words, addresses⟩ := append_place_inj same
  obtain ⟨word, address, reason⟩ := one
  obtain ⟨otherWord, otherAddress, otherReason⟩ := other
  congr
  exact opening_injective openings

end Diagnosis

/-- No fault is worded as an unknown instruction is.

Proof: the wording begins with another letter. -/
theorem Fault.message_ne_unknown (fault : Fault) : fault.message ≠ "Unknown instruction" := by
  have initial : fault.message.toList.head? ≠ some 'U' := by
    unfold message
    cases fault with
    | noCell access position =>
      dsimp only
      unfold noCellMessage
      split
      · cases access <;> simp
      · simp [noPositionMessage]
    | _ => simp
  intro same
  simp [same] at initial

namespace MachineError

/-- The fault for which an instruction was refused or no word was fetched, if that is the error. -/
def cause? : MachineError → Option Fault
  | unknownInstruction _ _ => none
  | execution _ _ cause => some cause

/-- The reason in the text of an error says whether there was a fault, and its wording. -/
theorem reason_eq_reason_iff (one other : MachineError) :
    one.diagnosis.reason = other.diagnosis.reason ↔
      one.cause?.map Fault.message = other.cause?.map Fault.message := by
  cases one with
  | unknownInstruction word address =>
    cases other with
    | unknownInstruction otherWord otherAddress => simp [diagnosis, cause?]
    | execution otherWord otherAddress cause =>
      simpa [diagnosis, cause?] using cause.message_ne_unknown.symm
  | execution word address cause =>
    cases other with
    | unknownInstruction otherWord otherAddress =>
      simpa [diagnosis, cause?] using cause.message_ne_unknown
    | execution otherWord otherAddress otherCause => simp [diagnosis, cause?]

end MachineError

/-- Two diagnoses have the same text exactly if reason, word and address are the same. The reasons
may be any texts: one of them may end with a colon, or with the text of a diagnosis. So the text of
an error says which word failed, if there was one, and at which address, whether the word was
unknown, and otherwise how the fault is worded.

Proof: a place at the end of a text can be split off, whatever stands before it. What stands before
it here is a reason with a colon, or nothing, and a reason with a colon is not nothing. -/
theorem Diagnosis.text_identifies (one other : Diagnosis) (error failure : MachineError) :
    (one.text = other.text ↔
      one.reason = other.reason ∧ one.word = other.word ∧ one.address = other.address) ∧
    (error.message = failure.message ↔
      error.diagnosis.word = failure.diagnosis.word ∧
        error.diagnosis.address = failure.diagnosis.address ∧
        error.cause?.map Fault.message = failure.cause?.map Fault.message) := by
  have parts (one other : Diagnosis) : one.text = other.text ↔
      one.reason = other.reason ∧ one.word = other.word ∧ one.address = other.address := by
    constructor
    · intro same
      obtain rfl := text_injective same
      exact ⟨rfl, rfl, rfl⟩
    · rintro ⟨reasons, words, addresses⟩
      unfold text place
      rw [reasons, words, addresses]
  refine ⟨parts one other, ?_⟩
  rw [MachineError.message, MachineError.message, parts, MachineError.reason_eq_reason_iff]
  exact ⟨fun ⟨causes, words, addresses⟩ => ⟨words, addresses, causes⟩,
    fun ⟨words, addresses, causes⟩ => ⟨causes, words, addresses⟩⟩

example : (⟨some (-1), 0x200, "a: opcode ????:"⟩ : Diagnosis).text =
    "a: opcode ????:: opcode 0x-001 at address 0x200" := by decide

end ChipEight
