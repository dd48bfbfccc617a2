import TrackerAudit.Regex.Escape
import TrackerAudit.Unicode.Name

/-!
# Character classes

A bracketed class lists characters, ranges, named classes and further classes in brackets, and combines such lists
by intersection, difference and symmetric difference. `readClass` reads one, and `ClassExpr.toSet` says which
characters it has, depending on the modes in force where it stands.
-/

namespace TrackerAudit.Regex

open Text

/-- The named classes of ASCII characters. -/
inductive AsciiClass
  | alnum | alpha | ascii | blank | cntrl | digit | graph | lower | print | punct | space | upper | word | xdigit
  deriving DecidableEq

/-- The named class with the given name. -/
def AsciiClass.ofName? (name : Text) : Option AsciiClass :=
  [("alnum", alnum), ("alpha", alpha), ("ascii", ascii), ("blank", blank), ("cntrl", cntrl), ("digit", digit),
    ("graph", graph), ("lower", lower), ("print", print), ("punct", punct), ("space", space), ("upper", upper),
    ("word", word), ("xdigit", xdigit)].findSome? fun (n, k) => if n.toList = name then some k else none

/-- The union of ranges given by their first and last characters. -/
def ranges (rs : List (Char × Char)) : CharSet := rs.foldr (fun r s => .union (.range r.1 r.2) s) .empty

/-- The members of a named class. -/
def AsciiClass.toSet : AsciiClass → CharSet
  | alnum => ranges [('0', '9'), ('A', 'Z'), ('a', 'z')]
  | alpha => ranges [('A', 'Z'), ('a', 'z')]
  | ascii => ranges [('\x00', '\x7f')]
  | blank => ranges [('\t', '\t'), (' ', ' ')]
  | cntrl => ranges [('\x00', '\x1f'), ('\x7f', '\x7f')]
  | digit => ranges [('0', '9')]
  | graph => ranges [('!', '~')]
  | lower => ranges [('a', 'z')]
  | print => ranges [(' ', '~')]
  | punct => ranges [('!', '/'), (':', '@'), ('[', '\x60'), ('\x7b', '~')]
  | space => ranges [('\t', '\r'), (' ', ' ')]
  | upper => ranges [('A', 'Z')]
  | word => ranges [('0', '9'), ('A', 'Z'), ('_', '_'), ('a', 'z')]
  | xdigit => ranges [('0', '9'), ('A', 'F'), ('a', 'f')]

/-- How two lists of a class are combined. -/
inductive SetOp
  | inter
  | diff
  | symmDiff
  deriving DecidableEq

/-- A character of a class; `byte` if it is written as a two-digit code. -/
structure ClassChar where
  char : Char
  byte : Bool
  deriving DecidableEq

/-- A class as it is written. -/
inductive ClassExpr
  | empty
  | char (c : ClassChar)
  | range (first last : ClassChar)
  | short (k : ShortClass) (negated : Bool)
  | ascii (k : AsciiClass) (negated : Bool)
  | property (name : Text) (negated : Bool)
  | union (e f : ClassExpr)
  | op (o : SetOp) (e f : ClassExpr)
  | bracket (negated : Bool) (e : ClassExpr)
  deriving DecidableEq

/-- A class as it is written, with the depth to which it nests brackets, lists and combinations. -/
structure ClassPiece where
  expr : ClassExpr
  depth : Nat

/-- The list of the given pieces, which are in reverse order. -/
def ClassPiece.list : List ClassPiece → ClassPiece
  | [] => ⟨.empty, 0⟩
  | [p] => p
  | ps => ⟨ps.foldl (fun e p => .union p.expr e) .empty, 1 + (ps.map (·.depth)).foldl max 0⟩

/-- The list of the given pieces, combined with the list before it, if there is one. -/
def ClassPiece.close (left : Option (SetOp × ClassPiece)) (pieces : List ClassPiece) : ClassPiece :=
  let right := ClassPiece.list pieces
  match left with
  | none => right
  | some (o, l) => ⟨.op o l.expr right.expr, 1 + max l.depth right.depth⟩

/-- Read one member of a class: a character, or what an escape stands for. -/
def readMember (free : Bool) : Text → Except Fault (Escape × Text)
  | [] => .error .unclosedClass
  | '\\' :: s => readEscape free s
  | c :: s => .ok (.char c false, s)

/-- A member of a class on its own. An assertion is no member. -/
def Escape.toClass : Escape → Except Fault ClassExpr
  | .char c byte => .ok (.char ⟨c, byte⟩)
  | .short k negated => .ok (.short k negated)
  | .property name negated => .ok (.property name negated)
  | _ => .error .badEscape

/-- A member of a class as an end of a range. -/
def Escape.toRangeEnd : Escape → Except Fault ClassChar
  | .char c byte => .ok ⟨c, byte⟩
  | _ => .error .badRange

/-- The next character after blanks and the sign of a comment, in free spacing. -/
def peek (free : Bool) (s : Text) : Option Char :=
  if free then
    match s.dropWhile isBlank with
    | '#' :: r => (r.dropWhile isBlank).head?
    | r => r.head?
  else s.head?

/-- Read a member of a class or a range of characters. A hyphen before `]` or before another hyphen makes no
range. -/
def readRange (free : Bool) (s : Text) : Except Fault (ClassExpr × Text) := do
  let (first, s) ← readMember free s
  match skip free s with
  | [] => throw .unclosedClass
  | '-' :: r =>
    if peek free r == some ']' || peek free r == some '-' then
      return (← first.toClass, '-' :: r)
    let (last, rest) ← readMember free (skip free r)
    let first ← first.toRangeEnd
    let last ← last.toRangeEnd
    if first.char ≤ last.char then return (.range first last, rest) else throw .badRange
  | s => return (← first.toClass, s)

/-- Read a named ASCII class, after its opening bracket. -/
def asciiClass? (s : Text) : Option (ClassExpr × Text) :=
  match s with
  | ':' :: s =>
    let (negated, s) := match s with
      | '^' :: s => (true, s)
      | s => (false, s)
    match s.span (· != ':') with
    | (name, ':' :: ']' :: rest) => (AsciiClass.ofName? name).map fun k => (.ascii k negated, rest)
    | _ => none
  | _ => none

/-- Hyphens at the start of a class are members of it. -/
def leadingHyphens (free : Bool) : (fuel : Nat) → List ClassPiece → Text → List ClassPiece × Text
  | 0, pieces, s => (pieces, s)
  | fuel + 1, pieces, s =>
    match s with
    | '-' :: r => leadingHyphens free fuel (⟨.char ⟨'-', false⟩, 0⟩ :: pieces) (skip free r)
    | s => (pieces, s)

/-- Read the start of a class after its bracket: a negation, hyphens, and a closing bracket that stands for
itself. -/
def openClass (free : Bool) (s : Text) : Bool × List ClassPiece × Text :=
  let (negated, s) := match skip free s with
    | '^' :: s => (true, skip free s)
    | s => (false, s)
  match leadingHyphens free (s.length + 1) [] s with
  | ([], ']' :: r) => (negated, [⟨.char ⟨']', false⟩, 0⟩], skip free r)
  | (pieces, s) => (negated, pieces, s)

/-- Read the rest of a class, up to its closing bracket. -/
def classRest (free : Bool) : (fuel : Nat) → (left : Option (SetOp × ClassPiece)) → (pieces : List ClassPiece) →
    Text → Except Fault (ClassPiece × Text)
  | 0, _, _, _ => .error .unclosedClass
  | fuel + 1, left, pieces, s =>
    match skip free s with
    | [] => .error .unclosedClass
    | ']' :: s => .ok (ClassPiece.close left pieces, s)
    | '&' :: '&' :: s => classRest free fuel (some (.inter, ClassPiece.close left pieces)) [] s
    | '-' :: '-' :: s => classRest free fuel (some (.diff, ClassPiece.close left pieces)) [] s
    | '~' :: '~' :: s => classRest free fuel (some (.symmDiff, ClassPiece.close left pieces)) [] s
    | '[' :: s =>
      match asciiClass? s with
      | some (e, rest) => classRest free fuel left (⟨e, 0⟩ :: pieces) rest
      | none => do
        let (negated, first, rest) := openClass free s
        let (inner, rest) ← classRest free fuel none first rest
        classRest free fuel left (⟨.bracket negated inner.expr, inner.depth + 1⟩ :: pieces) rest
    | s => do
      let (e, rest) ← readRange free s
      classRest free fuel left (⟨e, 0⟩ :: pieces) rest

/-- Read a class, after its opening bracket. -/
def readClass (free : Bool) (s : Text) : Except Fault (ClassPiece × Text) := do
  let (negated, first, rest) := openClass free s
  let (inner, rest) ← classRest free (s.length + 1) none first rest
  return (⟨.bracket negated inner.expr, inner.depth + 1⟩, rest)

/-! ### The members of a class -/

/-- The members of a short class among all characters. -/
def ShortClass.toSet : ShortClass → CharSet
  | digit => .property .digit
  | blank => .property .blank
  | word => .property .word

/-- The members of a short class among ASCII characters. -/
def ShortClass.toAsciiSet : ShortClass → CharSet
  | digit => AsciiClass.digit.toSet
  | blank => AsciiClass.space.toSet
  | word => AsciiClass.word.toSet

/-- The characters of a property, by its name. -/
def propertySet (name : Text) (negated : Bool) (noCase : Bool) : Except Fault CharSet :=
  match Unicode.Property.ofName? name with
  | none => .error .unknownProperty
  | some (p, inverted) =>
    let s := CharSet.property p
    let s := if inverted then s.compl else s
    let s := if noCase then s.folded else s
    .ok (if negated then s.compl else s)

/-- The members of a class of Unicode characters, in any case if `noCase`. -/
def ClassExpr.toSet (noCase : Bool) : ClassExpr → Except Fault CharSet
  | .empty => .ok .empty
  | .char c => .ok (.single c.char)
  | .range first last => .ok (.range first.char last.char)
  | .short k negated => .ok (if negated then k.toSet.compl else k.toSet)
  | .ascii k negated =>
    let s := if noCase then k.toSet.folded else k.toSet
    .ok (if negated then s.compl else s)
  | .property name negated => propertySet name negated noCase
  | .union e f => do return .union (← e.toSet noCase) (← f.toSet noCase)
  | .op o e f => do
    let s ← e.toSet noCase
    let t ← f.toSet noCase
    let s := if noCase then s.folded else s
    let t := if noCase then t.folded else t
    return match o with
      | .inter => .inter s t
      | .diff => .diff s t
      | .symmDiff => .symmDiff s t
  | .bracket negated e => do
    let s ← e.toSet noCase
    let s := if noCase then s.folded else s
    return if negated then s.compl else s

/-- The codes of one byte. -/
def byteRange : CharSet := .range '\x00' '\xff'

/-- The set has no byte that is not ASCII. -/
def isAsciiSet (s : CharSet) : Bool := (List.range 128).all fun n => !s.mem (Char.ofNat (n + 128))

/-- A set of bytes, if all of them are ASCII: other bytes are no text on their own. -/
def onlyAscii (s : CharSet) : Except Fault CharSet := if isAsciiSet s then .ok s else .error .notText

/-- A character as a byte. -/
def ClassChar.toByte (c : ClassChar) : Except Fault Char :=
  if c.char.toNat < 128 || c.byte then .ok c.char else .error .notText

/-- The members of a class of bytes, in any case if `noCase`. -/
def ClassExpr.toByteSet (noCase : Bool) : ClassExpr → Except Fault CharSet
  | .empty => .ok .empty
  | .char c => do return .single (← c.toByte)
  | .range first last => do return .range (← first.toByte) (← last.toByte)
  | .short k negated => onlyAscii (if negated then .diff byteRange k.toAsciiSet else k.toAsciiSet)
  | .ascii k negated =>
    let s := if noCase then k.toSet.asciiFolded else k.toSet
    onlyAscii (if negated then .diff byteRange s else s)
  | .property _ _ => .error .notText
  | .union e f => do return .union (← e.toByteSet noCase) (← f.toByteSet noCase)
  | .op o e f => do
    let s ← e.toByteSet noCase
    let t ← f.toByteSet noCase
    let s := if noCase then s.asciiFolded else s
    let t := if noCase then t.asciiFolded else t
    return match o with
      | .inter => .inter s t
      | .diff => .diff s t
      | .symmDiff => .symmDiff s t
  | .bracket negated e => do
    let s ← e.toByteSet noCase
    let s := if noCase then s.asciiFolded else s
    onlyAscii (if negated then .diff byteRange s else s)

end TrackerAudit.Regex
