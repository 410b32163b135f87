import ChipEight.Host.Session
import ChipEight.Host.Setting

/-!
# The program

Runs a program file in a terminal. Each line of the standard input is a frame: its words are
`quit`, a plus sign and the name of a key that is pressed, or a minus sign and the name of a key
that is let go. At the end the window is shown as it was last painted, with a character for each
square.
-/

namespace ChipEight

/-- The time between two frames. -/
def frameSeconds : Seconds := secondsOfRatio 2 1000

/-- The event that a word stands for. -/
def eventOfWord (word : String) : HostEvent :=
  match word.toList with
  | '+' :: name => .keyDown (String.ofList name)
  | '-' :: name => .keyUp (String.ofList name)
  | _ => if word = "quit" then .quit else .other

/-- The events of a line. -/
def eventsOfLine (line : String) : List HostEvent :=
  ((line.splitToList fun character => character.isWhitespace).filter (· ≠ "")).map eventOfWord

/-- The frames that the lines of a stream stand for. -/
partial def readFrames (input : IO.FS.Stream) : IO (List (List HostEvent)) := do
  let line ← input.getLine
  if line.isEmpty then return []
  return eventsOfLine line :: (← readFrames input)

/-- The error that the system reports for a file that cannot be read. -/
def openErrorOf : IO.Error → OpenError
  | .inappropriateType _ code _ => if code = 20 then .notDirectory else .isDirectory
  | _ => .notFound

/-- The bytes of the file at a path. -/
def readProgram (path : String) : IO (Except OpenError (List UInt8)) := do
  try
    return .ok (← IO.FS.readBinFile path).toList
  catch error =>
    return .error (openErrorOf error)

/-- The window, a line for each row. -/
def windowText (screen : Screen) : String :=
  String.join ((List.range screen.rows.toNat).map fun (row : Nat) =>
    String.ofList ((List.range screen.columns.toNat).map fun (column : Nat) =>
      match screen.readSquare column row with
      | .ok true => '#'
      | _ => '.') ++ "\n")

/-- The program with its arguments. The answer is its exit status. -/
def runProgram (arguments : List String) : IO UInt32 := do
  match tracingSetting (← IO.getEnv "DEBUG") with
  | .error error =>
    IO.eprintln error.message
    return 1
  | .ok tracing =>
    let contents ← match CommandLine.parse arguments with
      | .run file _ => readProgram file
      | _ => pure (.ok [])
    let frames ← match CommandLine.parse arguments with
      | .run _ _ => readFrames (← IO.getStdin)
      | _ => pure []
    let supply ← IO.getRandomBytes 4096
    let transcript := Program.run arguments (fun _ => contents) frames frameSeconds
      (RandomSource.cycling supply.data) tracing
    IO.print transcript.output
    IO.eprint transcript.errors
    match transcript.session with
    | some session => IO.print (windowText session.screen)
    | none => pure ()
    match transcript.exit with
    | .finished => return 0
    | .status code => return code.toUInt32
    | .message text =>
      IO.eprintln text
      return 1
    | .noPath =>
      IO.eprintln noPathText
      return 1

end ChipEight

/-- The entry point. -/
def main (arguments : List String) : IO UInt32 := ChipEight.runProgram arguments
