import TrackerAudit.Rule.Line

/-!
# Filter lists

A filter list is read line by line, and no line has a bearing on another: a line that is no rule is reported and
passed over.
-/

namespace TrackerAudit

open Text

/-- A line of a filter list that is no rule although it should be one. -/
structure LineError where
  source : SourceList
  line : Nat
  /-- the line without the blanks around it -/
  text : Text
  fault : LineFault
  deriving DecidableEq

/-- The report of a faulty line. -/
def LineError.message (e : LineError) : Text :=
  e.source.name ++ " line ".toList ++ ofNat e.line ++ ": ".toList ++ e.fault.message ++ " (\x60".toList ++ e.text ++
    "\x60)".toList

/-- What a line of a filter list turns out to be. -/
inductive LineOutcome
  | rule (r : Rule)
  | ignored
  | error (e : LineError)

namespace LineOutcome

/-- Read one line. -/
def read (source : SourceList) (line : Text) (number : Nat) : LineOutcome :=
  match Rule.read line source number with
  | .ok (some r) => rule r
  | .ok none => ignored
  | .error fault => error ⟨source, number, trim line, fault⟩

/-- The rule on a line. -/
def rule? : LineOutcome → Option Rule
  | rule r => some r
  | _ => none

/-- The error on a line. -/
def error? : LineOutcome → Option LineError
  | error e => some e
  | _ => none

/-- The line holds no rule on purpose. -/
def isIgnored : LineOutcome → Bool
  | ignored => true
  | _ => false

end LineOutcome

/-- A filter list as it was read. -/
structure FilterList where
  source : SourceList
  rules : List Rule
  errors : List LineError
  /-- the number of lines without a rule -/
  ignored : Nat
  /-- the number of all lines -/
  lines : Nat

/-- Read a filter list. -/
def FilterList.read (text : Text) (source : SourceList) : FilterList :=
  let outcomes := ((Text.lines text).zipIdx 1).map fun (line, number) => LineOutcome.read source line number
  { source
    rules := outcomes.filterMap LineOutcome.rule?
    errors := outcomes.filterMap LineOutcome.error?
    ignored := outcomes.countP LineOutcome.isIgnored
    lines := outcomes.length }

end TrackerAudit
