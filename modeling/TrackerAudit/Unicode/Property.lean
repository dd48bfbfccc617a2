import TrackerAudit.Unicode.Category
import TrackerAudit.Unicode.Script
import TrackerAudit.Unicode.Trait
import TrackerAudit.Unicode.Word

/-!
# Character properties

The properties of characters that a regular expression can name. All are decided by tables or by short formulas.
-/

namespace TrackerAudit.Unicode

/-- A property of characters. -/
inductive Property
  /-- word characters -/
  | word
  /-- decimal digits -/
  | digit
  /-- characters with `White_Space` -/
  | blank
  | any
  | ascii
  /-- characters of one of some general categories -/
  | category (labels : List Text)
  /-- characters of a script -/
  | script (label : Text)
  /-- characters with a trait -/
  | trait (name : Text)
  deriving DecidableEq

/-- Whether the character has the property. -/
def Property.holds : Property → Char → Bool
  | word, c => isWord c
  | digit, c => isDigit c
  | blank, c => Text.isBlank c
  | any, _ => true
  | ascii, c => c.toNat < 128
  | category labels, c => (categoryRuns.label? c.toNat).any labels.contains
  | script label, c => scriptRuns.label? c.toNat == some label
  | trait name, c => hasTrait false (traitTable name) c.toNat

/-- The number of stretches of code points with the property, where it is not known otherwise. -/
def Property.stretches : Property → Nat
  | category labels => categoryRuns.stretches labels
  | script label => scriptRuns.stretches [label]
  | trait name => (traitTable name).length / 2
  | _ => 1

end TrackerAudit.Unicode
