import ChipEight.Fault

/-!
# Call stack

The addresses to which subroutines return, the most recent one first. A stack has a limit on the
number of addresses that it accepts. The limit is an integer, and one below zero accepts none.
-/

namespace ChipEight

/-- Return addresses under a limit, the most recent one first. -/
structure CallStack (limit : Int) where
  frames : List Int
  deriving DecidableEq, Repr

namespace CallStack

variable {limit : Int}

/-- The stack without addresses. -/
def empty : CallStack limit := ⟨[]⟩

/-- The stack that holds given addresses, of which the first was pushed first. -/
def ofList (addresses : List Int) : CallStack limit := ⟨addresses.reverse⟩

/-- The addresses in the order in which they were pushed. -/
def toList (stack : CallStack limit) : List Int := stack.frames.reverse

/-- The number of addresses. -/
def depth (stack : CallStack limit) : Nat := stack.frames.length

/-- Adds an address, if the limit allows one more. -/
def push (stack : CallStack limit) (address : Int) : Except Fault (CallStack limit) :=
  if limit ≤ stack.depth then .error (.stackFull limit) else .ok ⟨address :: stack.frames⟩

/-- Takes the most recent address off. -/
def pop (stack : CallStack limit) : Except Fault (Int × CallStack limit) :=
  match stack.frames with
  | [] => .error .stackEmpty
  | address :: rest => .ok (address, ⟨rest⟩)

/-- One address as it is shown. -/
def addressText (address : Int) : String := "'0x" ++ Text.hexadecimal 3 address ++ "'"

/-- The addresses in the order in which they were pushed, in brackets. -/
def text (stack : CallStack limit) : String :=
  "[" ++ String.intercalate ", " (stack.toList.map addressText) ++ "]"

end CallStack

end ChipEight
