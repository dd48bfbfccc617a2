import TrackerAudit.Evidence.Fault

/-!
# Failures of commands

The causes for which a command stops, and their wording.
-/

namespace TrackerAudit

/-- Why a command stops. -/
inductive CommandFault
  | unreadableSettings (path : Path) (e : FileError)
  | badSettings (path : Path)
  | unreadableList (path : Path) (e : FileError)
  | lists (f : AnalysisFault)
  | evidence (f : AnalysisFault)
  | legalAnalysis (f : AnalysisFault)
  | score (f : AnalysisFault)
  | unreadableResults (path : Path) (e : FileError)
  | badResults (path : Path)
  | notCreated (path : Path) (e : FileError)
  | notWritten (path : Path) (e : FileError)
  deriving DecidableEq

namespace CommandFault

/-- A sentence about a path. -/
def about (start : String) (path : Path) (reason : Text) : Text :=
  start.toList ++ " '".toList ++ path ++ "': ".toList ++ reason

/-- The wording of a failure. -/
def message : CommandFault → Text
  | unreadableSettings path e => about "Failed to read config" path e.message
  | badSettings path => about "Invalid config" path badJsonMessage
  | unreadableList path e => about "Failed to read" path e.message
  | lists f => "Failed to load filter lists: ".toList ++ f.message
  | evidence f => "Failed to load evidence: ".toList ++ f.message
  | legalAnalysis f => "Failed to load theoretical analysis: ".toList ++ f.message
  | score f => "Cannot compute GdC: ".toList ++ f.message
  | unreadableResults path e => about "Failed to read" path e.message
  | badResults path => about "Invalid JSON in" path badJsonMessage
  | notCreated path e => about "Failed to create" path e.message
  | notWritten path e => about "Failed to write" path e.message

end CommandFault

end TrackerAudit
