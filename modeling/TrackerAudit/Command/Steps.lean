import TrackerAudit.Command.Fault
import TrackerAudit.Json.Decode
import TrackerAudit.Json.Print

/-!
# Steps of commands

The steps that commands are made of: reading a file, writing a JSON file, printing lines. A step that fails stops the
command.
-/

namespace TrackerAudit

/-- Steps that use files and may fail. -/
abbrev Steps (m : Type → Type) := ExceptT CommandFault m

namespace Steps

variable {m : Type → Type} [Monad m] [Files m] {α ε : Type}

/-- Do something, and say what its failure means for the command. -/
def attempt (action : m (Except ε α)) (fault : ε → CommandFault) : Steps m α :=
  ExceptT.mk do return (← action).mapError fault

/-- Take a value that may be missing. -/
def expect (value : Option α) (fault : CommandFault) : Steps m α :=
  match value with
  | some a => return a
  | none => throw fault

/-- Print lines of text. -/
def printLines (lines : List Text) : Steps m Unit := lines.forM fun line => Files.print (m := m) (.text line)

/-- Write a JSON file, in a directory that is created if it is missing. -/
def writeJson (path : Path) (j : Json) : Steps m Unit := do
  match Path.parent? path with
  | none => pure ()
  | some dir => attempt (Files.createDirectories (m := m) dir) (.notCreated dir)
  attempt (Files.write (m := m) path j.pretty) (.notWritten path)

/-- Read a JSON file of results. -/
def readJson (path : Path) (decode : Decoder α) : Steps m α := do
  let text ← attempt (Files.readText (m := m) path) (.unreadableResults path)
  expect ((Json.read? text).bind decode) (.badResults path)

end Steps

end TrackerAudit
