import TrackerAudit.Regex.Basic
import TrackerAudit.Regex.Fault

/-!
# Escapes

What follows a backslash in the text of a regular expression: a character written in another way, an assertion, or
a class of characters. In free spacing, blanks and comments may stand between the parts of the text; `skip` passes
over them.
-/

namespace TrackerAudit.Regex

open Text

/-- Pass over blanks, and over comments from `#` to the end of the line. -/
def skipComments : (inComment : Bool) → Text → Text
  | _, [] => []
  | true, c :: s => skipComments (c != '\n') s
  | false, c :: s => if isBlank c then skipComments false s else if c == '#' then skipComments true s else c :: s

/-- Pass over blanks and comments, in free spacing only. -/
def skip (free : Bool) (s : Text) : Text := if free then skipComments false s else s

@[simp] theorem skip_false (s : Text) : skip false s = s := rfl

/-- The classes `\d`, `\s` and `\w`. -/
inductive ShortClass
  | digit
  | blank
  | word
  deriving DecidableEq

/-- What an escape stands for. -/
inductive Escape
  /-- a character; `byte` if it is written as a two-digit code -/
  | char (c : Char) (byte : Bool)
  | textStart
  | textEnd
  | word (kind : WordLook)
  | short (k : ShortClass) (negated : Bool)
  | property (name : Text) (negated : Bool)
  deriving DecidableEq

/-- The characters with a meaning of their own in a regular expression. -/
def isMeta (c : Char) : Bool := "\\.+*?()|[]\x7b\x7d^$#&-~".toList.contains c

/-- The value of a hexadecimal digit. -/
def hexValue? (c : Char) : Option Nat :=
  let n := c.toNat
  if '0'.toNat ≤ n && n ≤ '9'.toNat then some (n - '0'.toNat)
  else if 'a'.toNat ≤ n && n ≤ 'f'.toNat then some (n - 'a'.toNat + 10)
  else if 'A'.toNat ≤ n && n ≤ 'F'.toNat then some (n - 'A'.toNat + 10)
  else none

/-- The character with the given code point, unless there is none. -/
def charOf? (n : Nat) : Option Char := if n.isValidChar then some (Char.ofNat n) else none

/-- Exactly `count` hexadecimal digits, added to the digits read so far. -/
def hexDigits (free : Bool) : (count value : Nat) → Text → Except Fault (Nat × Text)
  | 0, value, s => .ok (value, s)
  | _ + 1, _, [] => .error .badEscape
  | count + 1, value, c :: s =>
    match hexValue? c with
    | some d => hexDigits free count (value * 16 + d) (skip free s)
    | none => .error .badEscape

/-- Hexadecimal digits up to a closing brace, at least one. -/
def bracedHex (free : Bool) : (fuel : Nat) → (value : Option Nat) → Text → Except Fault (Nat × Text)
  | 0, _, _ => .error .badEscape
  | fuel + 1, value, s =>
    match skip free s, value with
    | '\x7d' :: s, some value => .ok (value, skip free s)
    | c :: s, value =>
      match hexValue? c with
      | some d => bracedHex free fuel (some (value.getD 0 * 16 + d)) s
      | none => .error .badEscape
    | [], _ => .error .badEscape

/-- A character given by its code, with `digits` digits or in braces. -/
def hexChar (free : Bool) (digits : Nat) (s : Text) : Except Fault (Escape × Text) := do
  let s := skip free s
  let (value, rest, braced) ← match s with
    | '\x7b' :: s => do
      let (value, rest) ← bracedHex free (s.length + 1) none s
      pure (value, rest, true)
    | s => do
      let (value, rest) ← hexDigits free digits 0 s
      pure (value, rest, false)
  match charOf? value with
  | some c => pure (.char c (!braced && digits == 2), rest)
  | none => throw .badEscape

/-- The text up to a closing brace. -/
def bracedName (free : Bool) : (fuel : Nat) → Text → Except Fault (Text × Text)
  | 0, _ => .error .badEscape
  | fuel + 1, s =>
    match skip free s with
    | '\x7d' :: s => .ok ([], s)
    | c :: s => do
      let (name, rest) ← bracedName free fuel s
      pure (c :: name, rest)
    | [] => .error .badEscape

/-- The name of a Unicode property: one character, or a name in braces. -/
def propertyName (free : Bool) (s : Text) : Except Fault (Text × Text) :=
  match skip free s with
  | '\x7b' :: s => bracedName free (s.length + 1) s
  | '\\' :: _ => .error .badEscape
  | c :: s => .ok ([c], skip free s)
  | [] => .error .badEscape

/-- Letters and hyphens, as in the name of an assertion about words. -/
def wordLookName (free : Bool) : (fuel : Nat) → Text → Text × Text
  | 0, s => ([], s)
  | fuel + 1, s =>
    match s with
    | c :: r =>
      if c.isAlpha || c == '-' then
        let (name, rest) := wordLookName free fuel (skip free r)
        (c :: name, rest)
      else ([], s)
    | [] => ([], [])

/-- The assertion after a backslash and `b`, which may be named in braces. Braces that start with neither a letter
nor a hyphen are left for a repetition. -/
def wordLook (free : Bool) (s : Text) : Except Fault (WordLook × Text) :=
  match s with
  | '\x7b' :: r =>
    match skip free r with
    | [] => .error .badEscape
    | c :: r =>
      if c.isAlpha || c == '-' then
        let (name, rest) := wordLookName free (r.length + 2) (c :: r)
        match rest with
        | '\x7d' :: rest =>
          if name == "start".toList then .ok (.start, rest)
          else if name == "end".toList then .ok (.stop, rest)
          else if name == "start-half".toList then .ok (.startHalf, rest)
          else if name == "end-half".toList then .ok (.stopHalf, rest)
          else .error .badEscape
        | _ => .error .badEscape
      else .ok (.boundary, s)
  | s => .ok (.boundary, s)

/-- Read what follows a backslash. -/
def readEscape (free : Bool) : Text → Except Fault (Escape × Text)
  | [] => .error .badEscape
  | 'x' :: s => hexChar free 2 s
  | 'u' :: s => hexChar free 4 s
  | 'U' :: s => hexChar free 8 s
  | 'p' :: s => (propertyName free s).map fun (name, s) => (.property name false, s)
  | 'P' :: s => (propertyName free s).map fun (name, s) => (.property name true, s)
  | 'd' :: s => .ok (.short .digit false, s)
  | 'D' :: s => .ok (.short .digit true, s)
  | 's' :: s => .ok (.short .blank false, s)
  | 'S' :: s => .ok (.short .blank true, s)
  | 'w' :: s => .ok (.short .word false, s)
  | 'W' :: s => .ok (.short .word true, s)
  | 'a' :: s => .ok (.char '\x07' false, s)
  | 'f' :: s => .ok (.char '\x0c' false, s)
  | 't' :: s => .ok (.char '\t' false, s)
  | 'n' :: s => .ok (.char '\n' false, s)
  | 'r' :: s => .ok (.char '\r' false, s)
  | 'v' :: s => .ok (.char '\x0b' false, s)
  | 'A' :: s => .ok (.textStart, s)
  | 'z' :: s => .ok (.textEnd, s)
  | 'b' :: s => (wordLook free s).map fun (kind, s) => (.word kind, s)
  | 'B' :: s => .ok (.word .inside, s)
  | '<' :: s => .ok (.word .start, s)
  | '>' :: s => .ok (.word .stop, s)
  | c :: s => if c.toNat < 128 && !isAlnum c then .ok (.char c false, s) else .error .badEscape

end TrackerAudit.Regex
