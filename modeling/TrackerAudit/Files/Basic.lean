import TrackerAudit.Text.Basic

/-!
# Files

What the commands need of a file system: reading a text file, listing the directories in a directory, creating
directories, writing a file, and a place to print lines to. `Files m` says that programs in `m` have these operations.
Paths are texts with `/` between components.
-/

namespace TrackerAudit

open Text

/-- Why an operation on a file failed. -/
inductive FileError
  | notFound
  | exists
  | notDirectory
  | isDirectory
  /-- the file holds bytes that are no text -/
  | notText
  /-- a path has a character that no path can have -/
  | badPath
  | other (message : Text)
  deriving DecidableEq

/-- The wording of a failure. -/
def FileError.message : FileError → Text
  | notFound => "No such file or directory (os error 2)".toList
  | .exists => "File exists (os error 17)".toList
  | notDirectory => "Not a directory (os error 20)".toList
  | isDirectory => "Is a directory (os error 21)".toList
  | notText => "stream did not contain valid UTF-8".toList
  | badPath => "file name contained an unexpected NUL byte".toList
  | other m => m

/-- A path. -/
abbrev Path := Text

namespace Path

/-- The path of an entry of a directory. An absolute entry stands for itself. -/
def join (dir : Path) (name : Text) : Path :=
  if name.head? = some '/' then name
  else if dir.isEmpty || dir.getLast? = some '/' then dir ++ name
  else dir ++ '/' :: name

/-- Whether a component only repeats the directory before it. -/
def isIdle (component : Text) : Bool := component.isEmpty || component == ['.']

/-- The name can be the name of an entry of a directory. -/
structure IsEntryName (name : Text) : Prop where
  slash : '/' ∉ name
  nul : '\x00' ∉ name
  notIdle : isIdle name = false
  notUp : name ≠ "..".toList

instance (name : Text) : Decidable (IsEntryName name) :=
  decidable_of_iff ('/' ∉ name ∧ '\x00' ∉ name ∧ isIdle name = false ∧ name ≠ "..".toList)
    ⟨fun ⟨h1, h2, h3, h4⟩ => ⟨h1, h2, h3, h4⟩, fun ⟨h1, h2, h3, h4⟩ => ⟨h1, h2, h3, h4⟩⟩

/-- The components up to the last one that is not idle. -/
def trimIdle : List Text → List Text
  | [] => []
  | c :: rest =>
    match trimIdle rest with
    | [] => if isIdle c then [] else [c]
    | rest => c :: rest

/-- The components of a path up to the last one that is not idle; a `.` in front is none that is idle. -/
def trimmed : List Text → List Text
  | [] => []
  | c :: rest =>
    match trimIdle rest with
    | [] => if c.isEmpty then [] else [c]
    | rest => c :: rest

/-- The path without its last component; the empty path and `/` have no parent. -/
def parent? (p : Path) : Option Path :=
  match trimmed (p.splitOn '/') with
  | [] => none
  | components =>
    let before := trimmed components.dropLast
    if before.isEmpty && p.head? = some '/' then some ['/'] else some (Text.join ['/'] before)

end Path

/-- A line that a command prints. -/
inductive OutputLine
  | text (line : Text)
  /-- the number of rules compiled, which is printed with the time that it took -/
  | compiled (rules : Nat)
  deriving DecidableEq

/-- Programs in `m` can use files and print lines. -/
class Files (m : Type → Type) where
  /-- the text of a file -/
  readText : Path → m (Except FileError Text)
  /-- whether there is a file with the path -/
  isFile : Path → m Bool
  /-- the names of the directories in a directory -/
  directories : Path → m (Except FileError (List Text))
  /-- create a directory and its missing parents -/
  createDirectories : Path → m (Except FileError Unit)
  /-- create or replace a file -/
  write : Path → Text → m (Except FileError Unit)
  /-- print a line -/
  print : OutputLine → m Unit

end TrackerAudit
