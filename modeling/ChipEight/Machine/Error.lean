import ChipEight.Fault

/-!
# Machine errors

An error of the machine names the word that was to be executed, if it could be fetched, and its
address. Its text is that of a diagnosis: an optional reason, the word and the address.
-/

namespace ChipEight

/-- What the text of an error is made of. -/
structure Diagnosis where
  word : Option Int
  address : Int
  reason : String
  deriving DecidableEq, Repr

namespace Diagnosis

/-- A word as it is shown; question marks stand for a word that could not be fetched. -/
def wordText : Option Int → String
  | some word => "0x" ++ Text.hexadecimal 4 word
  | none => "????"

/-- Where a program stopped. -/
def place (diagnosis : Diagnosis) : String :=
  "opcode " ++ wordText diagnosis.word ++ " at address 0x" ++ Text.hexadecimal 3 diagnosis.address

/-- The text of a diagnosis. An empty reason is left out together with its colon. -/
def text (diagnosis : Diagnosis) : String :=
  if diagnosis.reason = "" then diagnosis.place else diagnosis.reason ++ ": " ++ diagnosis.place

end Diagnosis

/-- Why an instruction did not complete. -/
inductive Stop where
  /-- The word denotes no instruction. -/
  | unknown
  /-- The instruction was refused. -/
  | refused (cause : Fault)
  deriving DecidableEq, Repr

/-- Why a cycle did not complete. -/
inductive MachineError where
  /-- The word at an address denotes no instruction. -/
  | unknownInstruction (word address : Int)
  /-- The word at an address could not be fetched or not be executed. -/
  | execution (word : Option Int) (address : Int) (cause : Fault)
  deriving DecidableEq, Repr

namespace MachineError

/-- The error of a word at an address that did not complete. -/
def ofStop (word address : Int) : Stop → MachineError
  | .unknown => unknownInstruction word address
  | .refused cause => execution (some word) address cause

/-- What the text of an error is made of. -/
def diagnosis : MachineError → Diagnosis
  | unknownInstruction word address => ⟨some word, address, "Unknown instruction"⟩
  | execution word address cause => ⟨word, address, cause.message⟩

/-- The text of an error. -/
def message (error : MachineError) : String := error.diagnosis.text

end MachineError

end ChipEight
