/-!
# What can be wrong with a regular expression

The causes for which the text of a regular expression is refused, and their wording.
-/

namespace TrackerAudit.Regex

/-- Why the text of a regular expression is refused. -/
inductive Fault
  | unclosedGroup
  | unopenedGroup
  | unclosedClass
  | nothingToRepeat
  | badCount
  | badEscape
  | badFlags
  | badGroupName
  | repeatedGroupName
  | lookAround
  | badRange
  | unknownProperty
  /-- bytes that are no text, asked for with Unicode switched off -/
  | notText
  | tooDeep
  | tooLarge
  deriving DecidableEq

/-- The wording of a cause. -/
def Fault.message : Fault → String
  | unclosedGroup => "unclosed group"
  | unopenedGroup => "unopened group"
  | unclosedClass => "unclosed character class"
  | nothingToRepeat => "repetition operator missing expression"
  | badCount => "invalid repetition count"
  | badEscape => "unrecognized escape sequence"
  | badFlags => "invalid flags"
  | badGroupName => "invalid capture group name"
  | repeatedGroupName => "duplicate capture group name"
  | lookAround => "look-around is not supported"
  | badRange => "invalid character class range"
  | unknownProperty => "Unicode property not found"
  | notText => "pattern can match invalid UTF-8"
  | tooDeep => "exceeds the nesting limit"
  | tooLarge => "exceeds the size limit"

end TrackerAudit.Regex
