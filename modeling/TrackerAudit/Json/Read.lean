import TrackerAudit.Json.Number

/-!
# Reading JSON

The grammar is the strict one: no comments, no trailing commas, no control characters in strings, nothing after the
value but blanks.
-/

namespace TrackerAudit.Json

open Text

/-- Pass over blanks. -/
def skipSpace (s : Text) : Text := s.dropWhile isSpace

/-- The value of a hexadecimal digit. -/
def hexDigit? (c : Char) : Option Nat :=
  let n := c.toNat
  if '0'.toNat ≤ n && n ≤ '9'.toNat then some (n - '0'.toNat)
  else if 'a'.toNat ≤ n && n ≤ 'f'.toNat then some (n - 'a'.toNat + 10)
  else if 'A'.toNat ≤ n && n ≤ 'F'.toNat then some (n - 'A'.toNat + 10)
  else none

/-- The value of four hexadecimal digits. -/
def hexFour? (a b c d : Char) : Option Nat := do
  return (((← hexDigit? a) * 16 + (← hexDigit? b)) * 16 + (← hexDigit? c)) * 16 + (← hexDigit? d)

/-- The character that a backslash and the given letter stand for. -/
def escaped? : Char → Option Char
  | '"' => some '"'
  | '\\' => some '\\'
  | '/' => some '/'
  | 'b' => some '\x08'
  | 'f' => some '\x0c'
  | 'n' => some '\n'
  | 'r' => some '\r'
  | 't' => some '\t'
  | _ => none

/-- The first half of a surrogate pair. -/
def isHigh (n : Nat) : Bool := 0xD800 ≤ n && n < 0xDC00

/-- The second half of a surrogate pair. -/
def isLow (n : Nat) : Bool := 0xDC00 ≤ n && n < 0xE000

/-- The code points of a string, after its opening quote, and the text after its closing quote. An escape can name
half of a surrogate pair. -/
def stringUnits : Text → Option (List Nat × Text)
  | [] => none
  | '"' :: s => some ([], s)
  | '\\' :: 'u' :: a :: b :: c :: d :: s => do
    let n ← hexFour? a b c d
    let (units, rest) ← stringUnits s
    return (n :: units, rest)
  | '\\' :: c :: s => do
    let c ← escaped? c
    let (units, rest) ← stringUnits s
    return (c.toNat :: units, rest)
  | c :: s =>
    if c.toNat < 0x20 then none
    else do
      let (units, rest) ← stringUnits s
      return (c.toNat :: units, rest)

/-- The text with the given code points, two halves of a surrogate pair making one character. -/
def ofUnits? : List Nat → Option Text
  | [] => some []
  | [n] => if isHigh n || isLow n then none else some [Char.ofNat n]
  | n :: m :: rest =>
    if isHigh n && isLow m then
      (ofUnits? rest).map (Char.ofNat (0x10000 + (n - 0xD800) * 0x400 + (m - 0xDC00)) :: ·)
    else if isHigh n || isLow n then none
    else (ofUnits? (m :: rest)).map (Char.ofNat n :: ·)

/-- Read a string, after its opening quote. -/
def readString? (s : Text) : Option (Option Text × Text) :=
  (stringUnits s).map fun (units, rest) => (ofUnits? units, rest)

mutual

/-- Read a value. Every value and every item takes a character, so the length of the text bounds the recursion. -/
def readValue? : (fuel : Nat) → Text → Option (Json × Text)
  | 0, _ => none
  | fuel + 1, s =>
    match skipSpace s with
    | 'n' :: 'u' :: 'l' :: 'l' :: s => some (null, s)
    | 't' :: 'r' :: 'u' :: 'e' :: s => some (bool true, s)
    | 'f' :: 'a' :: 'l' :: 's' :: 'e' :: s => some (bool false, s)
    | '"' :: s => (readString? s).map fun (t, s) => (string t, s)
    | '[' :: s =>
      match skipSpace s with
      | ']' :: s => some (array [], s)
      | s => (readItems? fuel s).map fun (items, s) => (array items, s)
    | '\x7b' :: s =>
      match skipSpace s with
      | '\x7d' :: s => some (object [], s)
      | s => (readMembers? fuel s).map fun (members, s) => (object members, s)
    | s => (JsonNumber.read? s).map fun (n, s) => (number n, s)

/-- Read the items of an array, at least one, and its closing bracket. -/
def readItems? : (fuel : Nat) → Text → Option (List Json × Text)
  | 0, _ => none
  | fuel + 1, s => do
    let (item, s) ← readValue? fuel s
    match skipSpace s with
    | ',' :: s =>
      let (items, s) ← readItems? fuel s
      return (item :: items, s)
    | ']' :: s => return ([item], s)
    | _ => none

/-- Read the members of an object, at least one, and its closing brace. -/
def readMembers? : (fuel : Nat) → Text → Option (List (Option Text × Json) × Text)
  | 0, _ => none
  | fuel + 1, s =>
    match skipSpace s with
    | '"' :: s => do
      let (key, s) ← readString? s
      match skipSpace s with
      | ':' :: s =>
        let (value, s) ← readValue? fuel s
        match skipSpace s with
        | ',' :: s =>
          let (members, s) ← readMembers? fuel s
          return ((key, value) :: members, s)
        | '\x7d' :: s => return ([(key, value)], s)
        | _ => none
      | _ => none
    | _ => none

end

/-- Read a text that holds one value and nothing else. -/
def read? (s : Text) : Option Json := do
  let (value, rest) ← readValue? (s.length + 1) s
  if (skipSpace rest).isEmpty then return value else none

end TrackerAudit.Json
