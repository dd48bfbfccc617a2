import TrackerAudit.Json.Basic
import TrackerAudit.Decimal.Shortest

/-!
# Writing JSON

Values are written with one member or item a line, indented by two spaces for each level (`pretty`), or without blanks
(`compact`), and a floating-point number in the fewest digits that read back as it, always with a fraction or an exponent.
-/

namespace TrackerAudit.Json

open Text

/-- A hexadecimal digit in small letters. -/
def hexDigit (n : Nat) : Char := Nat.digitChar n

/-- A character inside a string: quotes, backslashes and control characters are escaped. -/
def escapedChar (c : Char) : Text :=
  match c with
  | '"' => "\\\"".toList
  | '\\' => "\\\\".toList
  | '\x08' => "\\b".toList
  | '\x0c' => "\\f".toList
  | '\n' => "\\n".toList
  | '\r' => "\\r".toList
  | '\t' => "\\t".toList
  | c => if c.toNat < 0x20 then "\\u00".toList ++ [hexDigit (c.toNat / 16), hexDigit (c.toNat % 16)] else [c]

/-- A string in quotes. -/
def quoted (s : Text) : Text := '"' :: (s.flatMap escapedChar ++ ['"'])

/-- Floats are written without an exponent from `0.00001` up to sixteen digits before the point. -/
def floatLayout : Decimal.Layout where
  maxWhole := 16
  maxZeros := 4

/-- The text of a number. What is no finite number is `null`. -/
def numberText : JsonNumber → Text
  | .natural n => ofNat n
  | .negative n => '-' :: ofNat n
  | .float x => (floatLayout.text? x).getD "null".toList
  | .tooLarge => "null".toList

/-- A new line at the given level. -/
def newLine (level : Nat) : Text := '\n' :: List.replicate (2 * level) ' '

/-- Where the text of a value has blanks. -/
structure Spacing where
  /-- in front of an item, of a member and of a closing bracket, by its level -/
  line : Nat → Text
  /-- in front of the value of a member -/
  value : Text
  isSpace_line (level : Nat) : ∀ c ∈ line level, isSpace c = true
  isSpace_value : ∀ c ∈ value, isSpace c = true

/-- One member or item a line. -/
def Spacing.wide : Spacing where
  line := newLine
  value := [' ']
  isSpace_line level := by simp [newLine, isSpace]
  isSpace_value := by simp [isSpace]

/-- No blanks. -/
def Spacing.tight : Spacing where
  line _ := []
  value := []
  isSpace_line := by simp
  isSpace_value := by simp

mutual

/-- The text of a value inside of `level` arrays and objects. -/
def render (b : Spacing) (level : Nat) : Json → Text
  | null => "null".toList
  | bool true => "true".toList
  | bool false => "false".toList
  | number n => numberText n
  | string s => quoted (s.getD [])
  | array [] => "[]".toList
  | array (item :: items) =>
    '[' :: (b.line (level + 1) ++ render b (level + 1) item ++ renderItems b (level + 1) items ++ b.line level ++ [']'])
  | object [] => "\x7b\x7d".toList
  | object ((key, value) :: members) =>
    '\x7b' :: (b.line (level + 1) ++ quoted (key.getD []) ++ ':' :: (b.value ++ render b (level + 1) value ++
      renderMembers b (level + 1) members ++ b.line level ++ ['\x7d']))

/-- The items of an array after the first one. -/
def renderItems (b : Spacing) (level : Nat) : List Json → Text
  | [] => []
  | item :: items => ',' :: (b.line level ++ render b level item ++ renderItems b level items)

/-- The members of an object after the first one. -/
def renderMembers (b : Spacing) (level : Nat) : List (Option Text × Json) → Text
  | [] => []
  | (key, value) :: members =>
    ',' :: (b.line level ++ quoted (key.getD []) ++ ':' :: (b.value ++ render b level value ++
      renderMembers b level members))

end

/-- The text of a value, one member or item a line. -/
def pretty (j : Json) : Text := j.render .wide 0

/-- The text of a value without blanks. -/
def compact (j : Json) : Text := j.render .tight 0

end TrackerAudit.Json
