import ChipEight.Keypad

/-!
# Keyboard

The keypad lies on the left side of a keyboard: the digits from one to four and the twelve letters
below them stand for its sixteen keys, in the same four rows. The escape key closes the window.
-/

namespace ChipEight

/-- The keys of the keyboard that stand for keys of the keypad, by their names. -/
def keyboardLayout : List (String × Key) := [
  ("1", 0x1), ("2", 0x2), ("3", 0x3), ("4", 0xC),
  ("q", 0x4), ("w", 0x5), ("e", 0x6), ("r", 0xD),
  ("a", 0x7), ("s", 0x8), ("d", 0x9), ("f", 0xE),
  ("z", 0xA), ("x", 0x0), ("c", 0xB), ("v", 0xF)]

/-- The key of the keypad that a key of the keyboard stands for, if any. -/
def keypadKey? (name : String) : Option Key := keyboardLayout.lookup name

/-- The name of the key that closes the window. -/
def escapeKey : String := "ESCAPE"

/-- What the window reports. -/
inductive HostEvent where
  /-- The window is to be closed. -/
  | quit
  /-- A key of the keyboard was pressed. -/
  | keyDown (name : String)
  /-- A key of the keyboard was let go. -/
  | keyUp (name : String)
  /-- Anything else. -/
  | other
  deriving DecidableEq, Repr

namespace HostEvent

/-- Whether an event ends the session. -/
def closes : HostEvent → Bool
  | quit => true
  | keyDown name => name == escapeKey
  | keyUp _ => false
  | other => false

/-- The change of a key of the keypad that an event means, if any. -/
def keyChange? : HostEvent → Option (Key × Bool)
  | keyDown name => (keypadKey? name).map (·, true)
  | keyUp name => (keypadKey? name).map (·, false)
  | quit => none
  | other => none

end HostEvent

end ChipEight
