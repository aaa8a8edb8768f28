/-
**Files by path.**

There are finitely many files, each under a row of names from the root, and a working directory. A
path that begins with a slash is followed from the root, and every other one from the working
directory, name by name: an empty name and `.` stay, `..` goes up, at the root it stays as well, and
every name but the last has to be a directory. The directories are those on the way to a file or to
the working directory.

* `Files.find`: what a path leads to;
* `Files.readText`: the text of the file that a path leads to.
-/

import ShellSession.Text.Split

namespace ShellSession

/-- The working directory, and the files with their contents, each under its names from the root. -/
structure Files where
  directory : List String
  entries : List (List String × ByteArray)
deriving Inhabited

/-- Why a file cannot be read. -/
inductive ReadFault where
  | missing
  | notDirectory
  | isDirectory
  | nameTooLong
  | nulInName
  | notText
deriving Repr, DecidableEq

/-- The wording of a reading fault. -/
def ReadFault.message : ReadFault → String
  | missing => "No such file or directory (os error 2)"
  | notDirectory => "Not a directory (os error 20)"
  | isDirectory => "Is a directory (os error 21)"
  | nameTooLong => "File name too long (os error 36)"
  | nulInName => "file name contained an unexpected NUL byte"
  | notText => "stream did not contain valid UTF-8"

/-- Where a path has led so far: to a directory, or to a file. -/
inductive Location where
  | inside (names : List String)
  | file (bytes : ByteArray)

namespace Files

/-- A working directory without files. -/
def none : Files :=
  ⟨["tmp", "work"], []⟩

/-- The names between the slashes of a path. -/
def split (path : String) : List String :=
  (Text.splitAt '/' path.toList).map String.ofList

/-- The names of a path, those that stay in place left out. -/
def names (path : String) : List String :=
  (split path).filter fun name => name ≠ "" && name ≠ "."

/-- Whether a path begins at the root. -/
def isAbsolute (path : String) : Bool :=
  path.toList.head? = some '/'

/-- The directory in which a path begins. -/
def start (files : Files) (path : String) : List String :=
  if isAbsolute path then [] else files.directory

/-- One more file. -/
def add (files : Files) (path : String) (bytes : ByteArray) : Files :=
  { files with entries := files.entries ++ [(files.start path ++ names path, bytes)] }

/-- The content of a file. -/
def content? (files : Files) (path : List String) : Option ByteArray :=
  files.entries.lookup path

/-- Whether a path is a directory: the way to the working directory or to some file leads through
it. -/
def isDirectory (files : Files) (path : List String) : Bool :=
  path.isPrefixOf files.directory ||
    files.entries.any fun entry => path.isPrefixOf entry.1 && path ≠ entry.1

/-- The location of a name in a directory, unless the name is too long for one. -/
def enterNamed (files : Files) (names : List String) (name : String) :
    Except ReadFault Location :=
  if 255 < name.utf8ByteSize then .error .nameTooLong
  else
    match files.content? (names ++ [name]) with
    | some bytes => .ok (.file bytes)
    | Option.none =>
      if files.isDirectory (names ++ [name]) then .ok (.inside (names ++ [name]))
      else .error .missing

/-- The location behind one more name. -/
def enter (files : Files) (location : Location) (name : String) : Except ReadFault Location :=
  match location with
  | .file _ => .error .notDirectory
  | .inside names =>
    if name = "" ∨ name = "." then .ok (.inside names)
    else if name = ".." then .ok (.inside names.dropLast)
    else files.enterNamed names name

/-- The location that a row of names leads to. -/
def follow (files : Files) : Location → List String → Except ReadFault Location
  | location, [] => .ok location
  | location, name :: rest =>
    match files.enter location name with
    | .error fault => .error fault
    | .ok location => files.follow location rest

/-- What a path leads to. -/
def find (files : Files) (path : String) : Except ReadFault Location :=
  if path.isEmpty then .error .missing
  else if path.toList.contains '\x00' then .error .nulInName
  else if 4096 ≤ path.utf8ByteSize then .error .nameTooLong
  else files.follow (.inside (files.start path)) (split path)

/-- Whether a path leads to a file. -/
def isFile (files : Files) (path : String) : Bool :=
  match files.find path with
  | .ok (.file _) => true
  | _ => false

/-- The text of the file that a path leads to. -/
def readText (files : Files) (path : String) : Except ReadFault String :=
  match files.find path with
  | .error fault => .error fault
  | .ok (.file bytes) =>
    match String.fromUTF8? bytes with
    | some text => .ok text
    | Option.none => .error .notText
  | .ok _ => .error .isDirectory

end Files

end ShellSession
