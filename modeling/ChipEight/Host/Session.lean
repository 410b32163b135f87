import ChipEight.Host.CommandLine
import ChipEight.Host.Directory
import ChipEight.Host.Keyboard
import ChipEight.Machine.Console
import ChipEight.Machine.Dump
import ChipEight.Screen

/-!
# Session

A session runs a program in a window. Each frame moves the clock on, handles the events of the
window in their order and then runs one cycle; the window is painted anew when the cycle may have
changed the display. An event that closes the window ends the session after its frame. A failing
cycle ends it at once, with a text that holds the error and the registers.

The whole program reads its command line, loads the program file and runs a session.
-/

namespace ChipEight

/-- How the program ends. -/
inductive Exit where
  /-- The window was closed. -/
  | finished
  /-- Without a session, with a status. -/
  | status (code : Nat)
  /-- With a message. -/
  | message (text : String)
  /-- With the fault that no path was given to open a file at. -/
  | noPath
  deriving DecidableEq, Repr

/-- The wording of the fault that no path was given. -/
def noPathText : String := "expected str, bytes or os.PathLike object, not list"

/-- A machine with its window, and what has happened so far. -/
structure Session where
  console : Console
  screen : Screen
  /-- The number of frames begun. -/
  frames : Nat
  /-- The numbers of the frames that painted the window, counted from one, the first one first. -/
  renders : List Nat
  /-- What was printed. -/
  printed : String
  /-- The title of the window. -/
  caption : String

/-- The number of frames in a second that a session aims at. -/
def framesPerSecond : Nat := 500

/-- What is shown of a failed cycle. -/
def crashText (error : MachineError) (machine : Machine) : String :=
  "********** THE EMULATOR CRASHED (" ++ error.message ++ ") WITH THE FOLLOWING STATE\n"
    ++ machine.dump

/-- What is shown of a program that could not be loaded. -/
def loadFailureText (file reason : String) : String :=
  "Unable to load the ROM at path " ++ file ++ ": " ++ reason

namespace Session

/-- The session before its first frame. The window is named for the program file. -/
def start (machine : Machine) (now : Seconds) (file printed : String) : Session where
  console := ⟨machine, now⟩
  screen := Screen.standard
  frames := 0
  renders := []
  printed := printed
  caption := baseName file

/-- The keys change as events say. -/
def handleKeys (console : Console) (events : List HostEvent) : Console :=
  (events.filterMap HostEvent.keyChange?).foldl
    (fun console (key, down) => console.pressKey key down) console

/-- The window shows the display. It has columns, so that painting is not refused. -/
def paint (session : Session) : Session :=
  { session with
    screen := (session.screen.render session.console.machine.display.pixels.toList).1
    renders := session.renders ++ [session.frames] }

/-- One frame. The answer is how the session ends, if it does. -/
def frame (tracing : Bool) (seconds : Seconds) (session : Session) (events : List HostEvent) :
    Session × Option Exit :=
  let (console, report) :=
    (handleKeys (session.console.advanceClock seconds) events).step tracing
  let stepped := { session with
    console := console
    frames := session.frames + 1
    printed := session.printed ++ report.trace }
  match report.result with
  | .error error => (stepped, some (.message (crashText error console.machine)))
  | .ok _ =>
    let shown := if console.machine.redraw then stepped.paint else stepped
    (shown, if events.any HostEvent.closes then some .finished else none)

/-- Frames in order, up to the end of the session. -/
def play (tracing : Bool) (seconds : Seconds) (session : Session) :
    List (List HostEvent) → Session × Exit
  | [] => (session, .finished)
  | events :: rest =>
    match session.frame tracing seconds events with
    | (after, some exit) => (after, exit)
    | (after, none) => after.play tracing seconds rest

end Session

/-- What the outside sees of a run of the program. There is a session if a machine was made. -/
structure Transcript where
  exit : Exit
  output : String
  errors : String
  session : Option Session

namespace Program

/-- The session of a program file. The window is closed after the last frame at the latest. -/
def runFile (file : String) (contents : Except OpenError (List UInt8)) (shiftInPlace : Bool)
    (frames : List (List HostEvent)) (seconds : Seconds) (random : RandomSource)
    (tracing : Bool) : Transcript :=
  match contents with
  | .error error => ⟨.message (loadFailureText file (error.message file)), "", "", none⟩
  | .ok program =>
    match Machine.boot program 0 random shiftInPlace with
    | .error fault => ⟨.message (loadFailureText file fault.message), "", "", none⟩
    | .ok machine =>
      let notice := reportWhen tracing (Memory.loadNotice program)
      let (session, exit) :=
        (Session.start machine 0 file notice).play tracing seconds (frames ++ [[.quit]])
      ⟨exit, session.printed, "", some session⟩

/-- A run of the program with its command line, the files that it may open, and what happens in
its window. -/
def run (arguments : List String) (openFile : String → Except OpenError (List UInt8))
    (frames : List (List HostEvent)) (seconds : Seconds) (random : RandomSource)
    (tracing : Bool) : Transcript :=
  match CommandLine.parse arguments with
  | .help => ⟨.status 0, CommandLine.helpText, "", none⟩
  | .refused refusal => ⟨.status 2, "", CommandLine.refusalText refusal, none⟩
  | .runPathless => ⟨.noPath, "", "", none⟩
  | .run file shiftInPlace =>
    runFile file (openFile file) shiftInPlace frames seconds random tracing

end Program

end ChipEight
