import ChipEight.Text.DecimalDigit
import ChipEight.Text.Quoted

/-!
# Command line

The command line names the program file and may ask for shifts in place or for help. Options have
one-letter names after a single dash and long names after two. A long name may be cut as long as
it stays unambiguous. A value is the next argument, or is attached: to a long name by `=`, to a
letter by `=` or directly. What is attached to a letter that takes no value begins with the letter
of another option. An attached separator is no value, so that it leaves the file option without a
path.

All arguments are classified first, and an ambiguous name is refused then. The options are obeyed
from left to right, help at once. What is neither an option nor a value is refused at the end,
after a missing file name.
-/

namespace ChipEight.CommandLine

/-- What an option is about. -/
inductive Switch where
  | help
  | file
  | shiftInPlace
  deriving DecidableEq, Repr

/-- All the names of an option. -/
def Switch.label : Switch → String
  | help => "-h/--help"
  | file => "-f/--file"
  | shiftInPlace => "--shift-in-place"

/-- The names of the options. -/
def spellings : List (String × Switch) := [
  ("-h", .help), ("--help", .help), ("-f", .file), ("--file", .file),
  ("--shift-in-place", .shiftInPlace)]

/-- Why a command line is refused. -/
inductive Refusal where
  /-- An argument is a beginning of several long names. -/
  | ambiguous (argument : String) (names : List String)
  /-- An option lacks its value. -/
  | valueMissing (switch : Switch)
  /-- A value is attached to an option that takes none. -/
  | valueUnexpected (switch : Switch) (value : String)
  /-- No file is named. -/
  | fileMissing
  /-- Some arguments are neither options nor values. -/
  | unrecognized (arguments : List String)
  deriving DecidableEq, Repr

/-- The wording of a refusal. -/
def Refusal.message : Refusal → String
  | ambiguous argument names =>
    "ambiguous option: " ++ argument ++ " could match " ++ String.intercalate ", " names
  | valueMissing switch => "argument " ++ switch.label ++ ": expected one argument"
  | valueUnexpected switch value =>
    "argument " ++ switch.label ++ ": ignored explicit argument " ++ Text.quoted value
  | fileMissing => "the following arguments are required: " ++ Switch.file.label
  | unrecognized arguments =>
    "unrecognized arguments: " ++ String.intercalate " " arguments

/-- What a command line asks for. -/
inductive Request where
  | help
  | refused (refusal : Refusal)
  /-- A run with a file option that has no path. -/
  | runPathless
  | run (file : String) (shiftInPlace : Bool)
  deriving DecidableEq, Repr

/-- The line that shows how the program is called. -/
def usage : String := "usage: chip8 [-h] -f FILE [--shift-in-place]\n"

/-- The text that help shows. -/
def helpText : String :=
  usage ++ "\noptions:\n"
    ++ "  -h, --help            show this help message and exit\n"
    ++ "  -f FILE, --file FILE  input rom file\n"
    ++ "  --shift-in-place      8xy6/8xyE shift Vx in place instead of reading Vy\n"

/-- What is shown of a refusal. -/
def refusalText (refusal : Refusal) : String :=
  usage ++ "chip8: error: " ++ refusal.message ++ "\n"

/-- An option as it is named on the command line: by a letter or by a long name, and with what is
attached to the name, if anything is. -/
structure NamedOption where
  switch : Switch
  byLetter : Bool
  attached : Option (List Char)
  deriving DecidableEq, Repr

/-- What an argument is by its form. -/
inductive Argument where
  /-- A value, or something that nobody asked for. -/
  | plain
  /-- The mark after which nothing is an option. -/
  | separator
  /-- It has the form of an option, but no option has the name. -/
  | unknown
  | option (named : NamedOption)
  deriving DecidableEq, Repr

/-- A text up to its first `=`, and what comes after that. -/
def splitAtEquals : List Char → List Char × Option (List Char)
  | [] => ([], none)
  | character :: rest =>
    if character = '=' then ([], some rest)
    else
      let (before, after) := splitAtEquals rest
      (character :: before, after)

/-- Whether all characters are decimal digits and there is at least one. -/
def isDigits (text : List Char) : Bool :=
  !text.isEmpty && text.all fun character => (Text.decimalValue? character).isSome

/-- Whether what follows a dash makes it a negative number, with or without a decimal point. A line
feed at the end does not count. -/
def isNegativeNumber (afterDash : List Char) : Bool :=
  let text := if afterDash.getLast? = some '\n' then afterDash.dropLast else afterDash
  let whole := text.takeWhile fun character => (Text.decimalValue? character).isSome
  match text.drop whole.length with
  | [] => isDigits whole
  | '.' :: fraction => isDigits fraction
  | _ => false

/-- Whether the name of an option is a letter after a single dash. -/
def isLetterName (name : List Char) : Bool :=
  match name with
  | '-' :: '-' :: _ => false
  | _ => true

/-- The options that an argument may mean although it is not the name of one: those whose long name
it begins, or the one whose letter it starts with. -/
def candidates (text : List Char) : List (String × NamedOption) :=
  let (name, value) := splitAtEquals text
  match text with
  | '-' :: '-' :: _ =>
    (spellings.filter fun (spelling, _) => name.isPrefixOf spelling.toList).map
      fun (spelling, switch) => (spelling, ⟨switch, false, value⟩)
  | dash :: letter :: rest =>
    (spellings.filter fun (spelling, _) => spelling.toList = [dash, letter]).map
      fun (spelling, switch) => (spelling, ⟨switch, true, some rest⟩)
  | _ => []

/-- What an argument is by its form, before a separator. -/
def classify (argument : String) : Except Refusal Argument :=
  match argument.toList with
  | '-' :: afterDash =>
    match spellings.lookup argument with
    | some switch => .ok (.option ⟨switch, isLetterName argument.toList, none⟩)
    | none =>
      if afterDash = [] then .ok .plain
      else
        let (name, value) := splitAtEquals argument.toList
        match value, spellings.lookup (String.ofList name) with
        | some value, some switch => .ok (.option ⟨switch, isLetterName name, some value⟩)
        | _, _ =>
          match candidates argument.toList with
          | [(_, only)] => .ok (.option only)
          | [] =>
            if isNegativeNumber afterDash || afterDash.contains ' ' then .ok .plain
            else .ok .unknown
          | several => .error (.ambiguous argument (several.map Prod.fst))
  | _ => .ok .plain

/-- All arguments with what they are by their form. -/
def classifyAll : List String → Except Refusal (List (String × Argument))
  | [] => .ok []
  | argument :: rest =>
    if argument = "--" then .ok ((argument, .separator) :: rest.map (·, .plain))
    else do
      let classified ← classify argument
      let later ← classifyAll rest
      return (argument, classified) :: later

/-- The value of the file option. -/
inductive FileValue where
  | path (text : String)
  /-- The separator stands where the path should be. -/
  | nothing
  deriving DecidableEq, Repr

/-- The value that is attached to the file option. -/
def FileValue.ofAttached (text : List Char) : FileValue :=
  if text = ['-', '-'] then nothing else path (String.ofList text)

/-- What obeying an option does. -/
inductive Effect where
  | help
  | file (value : FileValue)
  | shiftInPlace
  deriving DecidableEq, Repr

/-- What obeying an argument does, and whether the next argument was used up by it. -/
structure Obeyed where
  effects : List Effect
  usesNext : Bool
  deriving DecidableEq, Repr

/-- An option to which nothing is attached. -/
def obeyAlone (next? : Option String) : Switch → Except Refusal Obeyed
  | .help => .ok ⟨[.help], false⟩
  | .shiftInPlace => .ok ⟨[.shiftInPlace], false⟩
  | .file =>
    match next? with
    | some name => .ok ⟨[.file (.path name)], true⟩
    | none => .error (.valueMissing .file)

/-- An option that comes before others takes effect before them. -/
def Obeyed.after (effects : List Effect) (obeyed : Obeyed) : Obeyed :=
  { obeyed with effects := effects ++ obeyed.effects }

/-- An option with text attached to its letter. The text is the value of an option that takes one.
Otherwise it begins with the letter of the next option, and if no option has that letter, nothing
takes effect. -/
def obeyLetter (next? : Option String) (switch : Switch) (text : List Char) :
    Except Refusal Obeyed :=
  match switch, text with
  | .file, value => .ok ⟨[.file (.ofAttached value)], false⟩
  | _, [] => .error (.valueUnexpected switch "")
  | _, letter :: rest =>
    match spellings.lookup (String.ofList ['-', letter]) with
    | none => .error (.valueUnexpected switch (String.ofList (letter :: rest)))
    | some following => do
      let first ← obeyAlone none switch
      let later ← if rest = [] then obeyAlone next? following else obeyLetter next? following rest
      return later.after first.effects

/-- An option with what is attached to it. -/
def obey (next? : Option String) (named : NamedOption) : Except Refusal Obeyed :=
  match named.attached with
  | none => obeyAlone next? named.switch
  | some text =>
    if named.byLetter then obeyLetter next? named.switch text
    else
      match named.switch with
      | .file => .ok ⟨[.file (.ofAttached text)], false⟩
      | switch => .error (.valueUnexpected switch (String.ofList text))

/-- What has been asked for so far. -/
structure Choices where
  file : Option FileValue
  shiftInPlace : Bool
  unrecognized : List String
  deriving DecidableEq, Repr

namespace Choices

/-- Nothing has been asked for. -/
def initial : Choices := ⟨none, false, []⟩

/-- An effect takes place. Help leaves no choices. -/
def apply (choices : Choices) : Effect → Option Choices
  | .help => none
  | .file value => some { choices with file := some value }
  | .shiftInPlace => some { choices with shiftInPlace := true }

/-- What the choices amount to when there are no more arguments. -/
def request (choices : Choices) : Request :=
  match choices.file with
  | none => .refused .fileMissing
  | some value =>
    if choices.unrecognized ≠ [] then .refused (.unrecognized choices.unrecognized)
    else
      match value with
      | .path file => .run file choices.shiftInPlace
      | .nothing => .runPathless

end Choices

/-- The next argument, if it may be a value. -/
def nextValue? : List (String × Argument) → Option String
  | (text, .plain) :: _ => some text
  | _ => none

/-- Obeys classified arguments from left to right. -/
def follow (choices : Choices) : List (String × Argument) → Request
  | [] => choices.request
  | (_, .option named) :: rest =>
    match obey (nextValue? rest) named with
    | .error refusal => .refused refusal
    | .ok obeyed =>
      match obeyed.effects.foldlM Choices.apply choices with
      | none => .help
      | some chosen => follow chosen (rest.drop (if obeyed.usesNext then 1 else 0))
  | (text, _) :: rest =>
    follow { choices with unrecognized := choices.unrecognized ++ [text] } rest
termination_by arguments => arguments.length
decreasing_by
  all_goals simp only [List.length_cons, List.length_drop]
  all_goals omega

/-- What a command line asks for. -/
def parse (arguments : List String) : Request :=
  match classifyAll arguments with
  | .error refusal => .refused refusal
  | .ok classified => follow .initial classified

end ChipEight.CommandLine
