import TrackerAudit.Command.Run

/-!
# The program

Commands use the files of the system and print to the standard output. A command that fails says why and ends with
status 1; a command line that is no command ends with status 2.
-/

namespace TrackerAudit

/-- The program's actions, which know when it was started. -/
abbrev Program := ReaderT Nat IO

/-- The failure of a file operation. -/
def fileErrorOf : IO.Error → FileError
  | .noFileOrDirectory .. => .notFound
  | .alreadyExists .. => .exists
  | .inappropriateType .. => .notDirectory
  | .resourceExhausted .. => .other "Too many open files".toList
  | .permissionDenied .. => .other "Permission denied (os error 13)".toList
  | e => .other (toString e).toList

/-- Do something that may fail. -/
def caught {α : Type} (action : IO α) : IO (Except FileError α) := do
  match ← action.toBaseIO with
  | .ok a => return .ok a
  | .error e => return .error (fileErrorOf e)

/-- The text of a file of the system. -/
def readSystemFile (path : Path) : IO (Except FileError Text) := do
  let file := (← IO.currentDir) / String.ofList path
  if ← file.isDir then return .error .isDirectory
  match ← caught (IO.FS.readBinFile file) with
  | .error e => return .error e
  | .ok bytes =>
    match String.fromUTF8? bytes with
    | some s => return .ok s.toList
    | none => return .error .notText

/-- The names of the directories in a directory of the system. -/
def systemDirectories (path : Path) : IO (Except FileError (List Text)) := do
  let dir := (← IO.currentDir) / String.ofList path
  caught do
    let entries ← dir.readDir
    let directories ← entries.toList.filterM fun e => e.path.isDir
    return directories.map fun e => e.fileName.toList

/-- The time since the start in milliseconds, with one decimal place. -/
def elapsed (start : Nat) : IO Text := do
  return Decimal.fixed 1 (Float.ofNat ((← IO.monoNanosNow) - start) / 1000000)

instance : Files Program where
  readText path := fun _ => readSystemFile path
  isFile path := fun _ => do
    let file := (← IO.currentDir) / String.ofList path
    return (← file.pathExists) && !(← file.isDir)
  directories path := fun _ => systemDirectories path
  createDirectories path := fun _ => do
    if path.isEmpty then return .ok ()
    let dir := (← IO.currentDir) / String.ofList path
    caught (IO.FS.createDirAll dir)
  write path content := fun _ => do
    let file := (← IO.currentDir) / String.ofList path
    if ← file.isDir then return .error .isDirectory
    caught (IO.FS.writeFile file (String.ofList content))
  print output := fun start => do
    match output with
    | .text s => IO.println (String.ofList s)
    | .compiled n =>
      IO.println (String.ofList ("Compiled ".toList ++ Text.ofNat n ++ " rules in ".toList ++ (← elapsed start) ++
        "ms".toList))

/-- How the program is used. -/
def usage : String :=
  "usage: compile|check|classify|gdc|run [-c FILE] [--easylist FILE] [--easyprivacy FILE] [--fanboy FILE] " ++
  "[--evidence DIR] [--theoretical FILE] [-o DIR] [--top N] [--workers N] [--assume-third-party-script] " ++
  "[--global-exceptions]\ncompile: [--show-errors]\ncheck: -u URL [-p DOMAIN] [--third-party|--first-party] [--script]"

end TrackerAudit

open TrackerAudit in
/-- Run the command of a command line. -/
def main (arguments : List String) : IO UInt32 := do
  match Command.read? (arguments.map String.toList) with
  | none =>
    IO.eprintln usage
    return 2
  | some command =>
    let start ← IO.monoNanosNow
    match ← (ExceptT.run command.run : Program _).run start with
    | .ok _ => return 0
    | .error f =>
      IO.eprintln ("Error: " ++ String.ofList f.message)
      return 1
