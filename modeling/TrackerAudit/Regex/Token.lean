import TrackerAudit.Regex.Class

/-!
# Tokens of a regular expression

The text of a regular expression is a row of tokens: characters, classes and assertions, repetition marks, bars, and
the openings and closings of groups. Whether blanks between tokens count depends on the groups around them, so the
reader keeps the mode of each open group.
-/

namespace TrackerAudit.Regex

open Text

/-- The modes that a group can switch. -/
inductive Mode
  /-- case is ignored -/
  | noCase
  /-- `^` and `$` hold at the ends of lines -/
  | multiLine
  /-- `.` takes line feeds too -/
  | dotAll
  /-- repetitions prefer fewer copies; it has no bearing on whether a text matches -/
  | lazyFirst
  /-- classes are about all of Unicode -/
  | unicode
  /-- blanks and comments between tokens are skipped -/
  | free
  /-- a carriage return ends a line too -/
  | crlf
  deriving DecidableEq

/-- The mode with the given letter. -/
def Mode.ofLetter? : Char → Option Mode
  | 'i' => some noCase
  | 'm' => some multiLine
  | 's' => some dotAll
  | 'U' => some lazyFirst
  | 'u' => some unicode
  | 'x' => some free
  | 'R' => some crlf
  | _ => none

/-- A mode to be switched on or off. -/
abbrev ModeEdit := Mode × Bool

/-- A token of a regular expression. -/
inductive Token
  | char (c : Char) (byte : Bool)
  | dot
  | lineStart
  | lineEnd
  | escape (e : Escape)
  | bracket (p : ClassPiece)
  /-- the opening of a group that captures what it takes -/
  | openCapture (name : Option Text)
  /-- the opening of a group with modes of its own -/
  | openGroup (edits : List ModeEdit)
  /-- a switch of modes up to the end of the group around it -/
  | switch (edits : List ModeEdit)
  | close
  | bar
  | rep (min : Nat) (max : Option Nat)

/-- The number of an upper or lower bound never exceeds this. -/
def maxCount : Nat := 4294967295

/-- Decimal digits, between which free spacing allows blanks. -/
def countDigits (free : Bool) : (fuel : Nat) → Text → Text × Text
  | 0, s => ([], s)
  | fuel + 1, s =>
    match s with
    | c :: r =>
      if c.isDigit then
        let (digits, rest) := countDigits free fuel (skip free r)
        (c :: digits, rest)
      else ([], s)
    | [] => ([], [])

/-- A number with blanks around it. -/
def readCount (free : Bool) (s : Text) : Except Fault (Nat × Text) :=
  let (digits, rest) := countDigits free (s.length + 1) (s.dropWhile isBlank)
  let n := digits.foldl (fun n c => n * 10 + (c.toNat - '0'.toNat)) 0
  if digits.isEmpty || maxCount < n then .error .badCount else .ok (n, skip free (rest.dropWhile isBlank))

/-- A question mark after a repetition makes it prefer fewer copies. -/
def dropLazy : Text → Text
  | '?' :: s => s
  | s => s

/-- Read the bounds of a repetition, after the opening brace. -/
def readBounds (free : Bool) (s : Text) : Except Fault (Token × Text) := do
  let (min, s) ← readCount free (skip free s)
  match s with
  | '\x7d' :: s => return (.rep min (some min), dropLazy (skip free s))
  | ',' :: s =>
    match skip free s with
    | '\x7d' :: s => return (.rep min none, dropLazy (skip free s))
    | s =>
      let (max, s) ← readCount free s
      match s with
      | '\x7d' :: s => if min ≤ max then return (.rep min (some max), dropLazy (skip free s)) else throw .badCount
      | _ => throw .badCount
  | _ => throw .badCount

/-- A character that the name of a group can start with. -/
def startsName (c : Char) : Bool :=
  if c.toNat < 128 then c == '_' || c.isAlpha else Unicode.isWord c && !Unicode.isDigit c

/-- A character that the name of a group can go on with. -/
def continuesName (c : Char) : Bool :=
  if c.toNat < 128 then c == '_' || c == '.' || c == '[' || c == ']' || isAlnum c else Unicode.isWord c

/-- Read the name of a group, up to `>`. -/
def readName (s : Text) : Except Fault (Text × Text) :=
  match s.span (· != '>') with
  | (c :: name, _ :: rest) =>
    if startsName c && name.all continuesName then .ok (c :: name, rest) else .error .badGroupName
  | _ => .error .badGroupName

/-- Read modes up to `:`, which opens a group, or up to `)`. The result tells which of the two ended them. -/
def readModes (seen : List Mode) (minus hanging : Bool) : Text → Except Fault (List ModeEdit × Bool × Text)
  | [] => .error .badFlags
  | ':' :: s => if hanging then .error .badFlags else .ok ([], true, s)
  | ')' :: s => if hanging then .error .badFlags else .ok ([], false, s)
  | '-' :: s => if minus then .error .badFlags else readModes seen true true s
  | c :: s => do
    match Mode.ofLetter? c with
    | none => throw .badFlags
    | some m =>
      if seen.contains m then throw .badFlags
      let (edits, opens, rest) ← readModes (m :: seen) minus false s
      return ((m, !minus) :: edits, opens, rest)

/-- Read the opening of a group, after its parenthesis. -/
def readGroup (s : Text) : Except Fault (Token × Text) :=
  match s with
  | '?' :: '=' :: _ => .error .lookAround
  | '?' :: '!' :: _ => .error .lookAround
  | '?' :: '<' :: '=' :: _ => .error .lookAround
  | '?' :: '<' :: '!' :: _ => .error .lookAround
  | '?' :: 'P' :: '<' :: s => (readName s).map fun (name, s) => (.openCapture (some name), s)
  | '?' :: '<' :: s => (readName s).map fun (name, s) => (.openCapture (some name), s)
  | '?' :: s => do
    let (edits, opens, rest) ← readModes [] false false s
    if opens then return (.openGroup edits, rest)
    else if edits.isEmpty then throw .nothingToRepeat
    else return (.switch edits, rest)
  | s => .ok (.openCapture none, s)

/-- Read the token that starts with `c`. -/
def readToken (free : Bool) (c : Char) (s : Text) : Except Fault (Token × Text) :=
  match c with
  | '(' => readGroup (skip free s)
  | ')' => .ok (.close, s)
  | '|' => .ok (.bar, s)
  | '[' => (readClass free s).map fun (p, s) => (.bracket p, s)
  | '?' => .ok (.rep 0 (some 1), dropLazy s)
  | '*' => .ok (.rep 0 none, dropLazy s)
  | '+' => .ok (.rep 1 none, dropLazy s)
  | '\x7b' => readBounds free s
  | '\\' => (readEscape free s).map fun (e, s) =>
    match e with
    | .char c byte => (.char c byte, s)
    | e => (.escape e, s)
  | '.' => .ok (.dot, s)
  | '^' => .ok (.lineStart, s)
  | '$' => .ok (.lineEnd, s)
  | c => .ok (.char c false, s)

/-- Whether free spacing is on after some edits of the modes. -/
def freeAfter (edits : List ModeEdit) (free : Bool) : Bool :=
  edits.foldl (fun free e => if e.1 = .free then e.2 else free) free

/-- Whether free spacing is on after a token, and in the groups around. -/
def Token.spacing : Token → (free : Bool) → (outer : List Bool) → Bool × List Bool
  | openCapture _, free, outer => (free, free :: outer)
  | openGroup edits, free, outer => (freeAfter edits free, free :: outer)
  | switch edits, free, outer => (freeAfter edits free, outer)
  | close, free, outer => (outer.headD free, outer.tail)
  | _, free, outer => (free, outer)

/-- The tokens of a text. Each takes at least one character, so the length of the text bounds their number. -/
def tokensFrom : (fuel : Nat) → (free : Bool) → (outer : List Bool) → Text → Except Fault (List Token)
  | 0, _, _, _ => .ok []
  | fuel + 1, free, outer, s =>
    match skip free s with
    | [] => .ok []
    | c :: s => do
      let (token, rest) ← readToken free c s
      let (free, outer) := token.spacing free outer
      let tokens ← tokensFrom fuel free outer rest
      return token :: tokens

/-- The tokens of the text of a regular expression. -/
def tokens (s : Text) : Except Fault (List Token) := tokensFrom (s.length + 1) false [] s

end TrackerAudit.Regex
