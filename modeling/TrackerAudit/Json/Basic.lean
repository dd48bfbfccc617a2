import TrackerAudit.Text.Basic

/-!
# JSON values

A JSON value keeps what the text of it says: integers stay apart from other numbers, the members of an object keep
their order and their repetitions, and a number or string that the text can spell but no value can hold (beyond the
largest float, half of a surrogate pair) is kept as such, because it does no harm where nobody looks at it.
-/

namespace TrackerAudit

/-- A JSON number. -/
inductive JsonNumber
  /-- an integer from 0 up to `2 ^ 64 - 1` -/
  | natural (n : Nat)
  /-- the integer `-n`, from `-2 ^ 63` up to -1 -/
  | negative (n : Nat)
  | float (x : Float)
  /-- beyond the largest float -/
  | tooLarge

/-- A JSON value. -/
inductive Json
  | null
  | bool (b : Bool)
  | number (n : JsonNumber)
  /-- a string; `none` if it has half of a surrogate pair -/
  | string (s : Option Text)
  | array (items : List Json)
  | object (members : List (Option Text × Json))

namespace Json

/-- A string. -/
def str (s : Text) : Json := string (some s)

/-- A natural number. -/
def nat (n : Nat) : Json := number (.natural n)

/-- A floating-point number. -/
def float (x : Float) : Json := number (.float x)

/-- An object with the given members. -/
def record (members : List (String × Json)) : Json := object (members.map fun m => (some m.1.toList, m.2))

/-- An array of strings. -/
def strings (ss : List Text) : Json := array (ss.map str)

/-- What `f` makes of a value, and `null` without one. -/
def ofOption {α : Type} (f : α → Json) : Option α → Json
  | some a => f a
  | none => null

/-- The blanks of JSON. -/
def isSpace (c : Char) : Bool := c == ' ' || c == '\n' || c == '\t' || c == '\r'

end Json

end TrackerAudit
