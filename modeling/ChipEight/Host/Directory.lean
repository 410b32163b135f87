import ChipEight.Text.Quoted

/-!
# Directory

Program files are found by paths in a directory. A path is walked name by name, and every name but
the last one must be that of a directory. Nothing is known of the world outside the directory: it
consists of directories in which nothing is found.
-/

namespace ChipEight

/-- Why a file could not be opened. -/
inductive OpenError where
  | notFound
  | notDirectory
  | isDirectory
  | nameTooLong
  /-- The path holds a null character. -/
  | nullCharacter
  deriving DecidableEq, Repr

namespace OpenError

/-- The wording of a system error with its number. -/
def systemMessage (number : Nat) (description path : String) : String :=
  "[Errno " ++ Text.decimal number ++ "] " ++ description ++ ": " ++ Text.quoted path

/-- The wording of an error at a path. -/
def message (path : String) : OpenError → String
  | notFound => systemMessage 2 "No such file or directory" path
  | notDirectory => systemMessage 20 "Not a directory" path
  | isDirectory => systemMessage 21 "Is a directory" path
  | nameTooLong => systemMessage 36 "File name too long" path
  | nullCharacter => "embedded null byte"

end OpenError

/-- The names of a path, as they stand between slashes. -/
def pathNames : List Char → List (List Char)
  | [] => [[]]
  | character :: rest =>
    if character = '/' then [] :: pathNames rest
    else
      match pathNames rest with
      | [] => [[character]]
      | name :: later => (character :: name) :: later

/-- The last name of a path. -/
def baseName (path : String) : String :=
  String.ofList ((pathNames path.toList).getLastD [])

/-- The names of a path that lead somewhere. -/
def properNames (path : String) : List String :=
  ((pathNames path.toList).map String.ofList).filter fun name => name ≠ "" ∧ name ≠ "."

/-- A file with its bytes, or a directory. -/
inductive Entry where
  | file (bytes : List UInt8)
  | directory
  deriving DecidableEq, Repr

/-- What a directory holds, by paths of proper names. The first entry under a path counts. -/
structure Directory where
  entries : List (List String × Entry)
  deriving DecidableEq, Repr

/-- A place: the names that lead to it from the directory, or nothing outside of it. -/
abbrev Place := Option (List String)

namespace Directory

/-- The places on the way along a path from a place, the first one and the last one included. -/
def placesAlong (place : List String) : List String → List (List String)
  | [] => [place]
  | name :: rest =>
    place :: placesAlong (if name = ".." then place.dropLast else place ++ [name]) rest

/-- The directory that holds given paths. All places on the way to an entry are directories, and a
later entry replaces an earlier one at the same place. -/
def ofList (entries : List (String × Entry)) : Directory :=
  ⟨(entries.flatMap fun (path, entry) =>
    let places := placesAlong [] (properNames path)
    places.dropLast.map (·, .directory) ++ [(places.getLastD [], entry)]).reverse⟩

/-- What is found under a path of names. An entry's path passes through directories. -/
def find? (directory : Directory) (names : List String) : Option Entry :=
  match directory.entries.lookup names with
  | some entry => some entry
  | none =>
    if directory.entries.any fun (path, _) => names.isPrefixOf path then some .directory
    else if names = [] then some .directory
    else none

/-- What is found at a place. -/
def entryAt? (directory : Directory) : Place → Option Entry
  | none => some .directory
  | some names => directory.find? names

/-- The place above another one. -/
def above : Place → Place
  | none => none
  | some [] => none
  | some names => some names.dropLast

/-- What is found by walking on from a place. A name has at most 255 bytes. -/
def walk (directory : Directory) (place : Place) : List String → Except OpenError Entry
  | [] =>
    match directory.entryAt? place with
    | some entry => .ok entry
    | none => .error .notFound
  | name :: rest =>
    match directory.entryAt? place with
    | none => .error .notFound
    | some (.file _) => .error .notDirectory
    | some .directory =>
      if name = "" ∨ name = "." then directory.walk place rest
      else if name = ".." then directory.walk (above place) rest
      else if 255 < name.utf8ByteSize then .error .nameTooLong
      else
        match place with
        | none => .error .notFound
        | some names => directory.walk (some (names ++ [name])) rest

/-- The bytes of the file at a path. A path has fewer than 4096 bytes. -/
def openFile (directory : Directory) (path : String) : Except OpenError (List UInt8) := do
  if path.toList.contains (Char.ofNat 0) then throw .nullCharacter
  if path = "" then throw .notFound
  if 4096 ≤ path.utf8ByteSize then throw .nameTooLong
  let start : Place := if path.toList.head? = some '/' then none else some []
  match ← directory.walk start ((pathNames path.toList).map String.ofList) with
  | .file bytes => return bytes
  | .directory => throw .isDirectory

end Directory

end ChipEight
