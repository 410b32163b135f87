import ChipEight.Text.Numeral

/-!
# Faults

A fault is the cause for which an operation on a part of the machine was refused. Each one holds
what was asked for, so that its wording is a function of it and nothing else.
-/

namespace ChipEight

/-- What was to be done with a cell. -/
inductive Access where
  | read
  | write
  deriving DecidableEq, Repr

/-- Why an operation was refused. -/
inductive Fault where
  /-- Some of `length` bytes from `address` on lie outside the memory. -/
  | memoryBounds (address length : Int)
  /-- A value to be stored does not fit in a byte. -/
  | notAByte
  /-- A program of this many bytes leaves no room in memory. -/
  | programTooLong (size : Nat)
  /-- The font has no glyph for the digit. -/
  | noGlyph (digit : Int)
  /-- No cell of a row has the position. -/
  | noCell (access : Access) (position : Int)
  /-- The call stack holds all the addresses that it may. -/
  | stackFull (limit : Int)
  /-- The call stack holds no address. -/
  | stackEmpty
  deriving DecidableEq, Repr

namespace Fault

/-- Whether an integer can be a position at all: positions are signed 64-bit numbers. -/
def isPosition (position : Int) : Bool :=
  -0x8000000000000000 ≤ position && position < 0x8000000000000000

/-- The wording for an integer that cannot be a position. -/
def noPositionMessage : String := "cannot fit 'int' into an index-sized integer"

/-- The wording for a position without a cell. An integer that cannot be a position is refused as
such, whatever was to be done with the cell. -/
def noCellMessage (access : Access) (position : Int) : String :=
  if isPosition position then
    match access with
    | .read => "list index out of range"
    | .write => "list assignment index out of range"
  else noPositionMessage

/-- The wording of a fault. -/
def message : Fault → String
  | memoryBounds address length =>
    "Memory access out of bounds: 0x" ++ Text.hexadecimal 4 address ++ " + "
      ++ Text.decimal length ++ " bytes"
  | notAByte => "byte must be in range(0, 256)"
  | programTooLong size =>
    "ROM is " ++ Text.decimal size ++ " bytes long, at most 3584 fit in memory"
  | noGlyph digit => "No font sprite for digit " ++ Text.decimal digit
  | noCell access position => noCellMessage access position
  | stackFull limit =>
    "The CHIP-8 stack can contain at most " ++ Text.decimal limit
      ++ " addresses. Limit exceeded"
  | stackEmpty => "The CHIP-8 stack is empty, there is no subroutine to return from"

end Fault

end ChipEight
