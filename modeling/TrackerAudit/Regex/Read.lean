import TrackerAudit.Regex.Token

/-!
# Reading a regular expression

`read` turns the text of a regular expression into the expression. The tokens are put together from left to right;
an open group keeps what was built before it and the modes to go back to. An expression that nests too deeply, or
whose automaton would take too much memory, is refused.
-/

namespace TrackerAudit.Regex

open Text

/-- The modes in force at a place. -/
structure Modes where
  noCase : Bool := false
  multiLine : Bool := false
  dotAll : Bool := false
  unicode : Bool := true
  crlf : Bool := false

/-- The modes after an edit. -/
def Modes.edit (m : Modes) : ModeEdit → Modes
  | (.noCase, on) => { m with noCase := on }
  | (.multiLine, on) => { m with multiLine := on }
  | (.dotAll, on) => { m with dotAll := on }
  | (.unicode, on) => { m with unicode := on }
  | (.crlf, on) => { m with crlf := on }
  | (.lazyFirst, _) => m
  | (.free, _) => m

/-- A part of the expression under construction: how deeply it nests, how many bytes its automaton takes, and
whether it is only a switch of modes. -/
structure Piece where
  regex : Regex
  depth : Nat
  size : Nat
  isSwitch : Bool := false

/-- An open group: the modes outside, and the alternatives and items before it, last first. -/
structure Frame where
  modes : Modes
  captures : Bool
  branches : List Piece
  items : List Piece

/-- What has been built so far: the modes in force, the finished alternatives and the items of the current one in
the innermost group, last first, the groups around it, and the names given to groups. -/
structure Progress where
  modes : Modes
  branches : List Piece := []
  items : List Piece := []
  outer : List Frame := []
  names : List Text := []

/-! ### Memory

The automaton has a state of 32 bytes per character, choice and assertion, with a few bytes more for each choice.
A set of characters takes as many states as its members have distinct byte patterns.
-/

/-- The bytes of one state. -/
def stateSize : Nat := 32

/-- The bytes that the automaton of a range takes. -/
def rangeSize (last : Char) : Nat :=
  if last.toNat < 0x80 then 8 else if last.toNat < 0x800 then 72 else if last.toNat < 0x10000 then 108 else 172

/-- The bytes that the automaton of a set takes, nearly. -/
def setSize : CharSet → Nat
  | .empty => 0
  | .range _ last => rangeSize last
  | .property .word => 48000
  | .property .digit => 4600
  | .property .blank => 640
  | .property p => 60 * p.stretches
  | .union s t => setSize s + setSize t
  | .inter s t => max (setSize s) (setSize t)
  | .diff s t => setSize s + setSize t
  | .symmDiff s t => setSize s + setSize t
  | .compl (.property .word) => 45000
  | .compl (.property .digit) => 11600
  | .compl (.property .blank) => 1860
  | .compl (.property p) => 900 + setSize (.property p)
  | .compl s => 900 + setSize s
  | .folded (.property p) => setSize (.property p)
  | .folded s => 2 * setSize s
  | .asciiFolded s => 2 * setSize s

/-- The most bytes that the automaton of an expression may take. -/
def sizeLimit : Nat := 1048576

/-- The bytes of `min` copies and either a loop or copies up to `max` that can be left out. -/
def repSize (size min : Nat) : (max : Option Nat) → Nat
  | none => Nat.max 1 min * size + stateSize + 8
  | some max => if max = min then min * size else min * size + (max - min) * (size + stateSize + 8) + stateSize

/-! ### Building -/

/-- The deepest nesting that is accepted. -/
def depthLimit : Nat := 250

/-- The items of a concatenation, which are in reverse order. -/
def Piece.concat : List Piece → Piece
  | [] => { regex := .empty, depth := 0, size := stateSize }
  | [p] => p
  | ps =>
    { regex := catList (ps.reverse.map (·.regex))
      depth := 1 + (ps.map (·.depth)).foldl max 0
      size := ps.foldl (fun n p => n + p.size) 0 }

/-- The branches of a choice, which are in reverse order. -/
def Piece.choice : List Piece → Piece
  | [p] => p
  | ps =>
    { regex := altList (ps.reverse.map (·.regex))
      depth := 1 + (ps.map (·.depth)).foldl max 0
      size := ps.foldl (fun n p => n + p.size) 0 + 2 * stateSize + 4 * ps.length }

/-- The innermost group, closed. -/
def Progress.whole (b : Progress) : Piece := Piece.choice (Piece.concat b.items :: b.branches)

/-- One more item in the innermost group. -/
def Progress.push (b : Progress) (p : Piece) : Progress := { b with items := p :: b.items }

/-- One more set of characters. -/
def Progress.pushSet (b : Progress) (s : CharSet) (depth : Nat) : Progress :=
  b.push { regex := .set s, depth, size := 2 * stateSize + setSize s }

/-- One more assertion. -/
def Progress.pushLook (b : Progress) (l : Look) : Progress :=
  b.push { regex := .look l, depth := 0, size := stateSize }

/-- The bytes of one character in UTF-8, each a state of its own. -/
def charSize (c : Char) : Nat := c.utf8Size * stateSize

/-- The bytes that the automaton of a character in any case takes. -/
def foldedSize (c : Char) : Nat :=
  match Unicode.orbit c with
  | [c] => charSize c
  | cs =>
    if cs.all (·.toNat < 128) then 2 * stateSize + 8 * cs.length
    else 2 * stateSize + cs.foldl (fun n c => n + charSize c + 4) 0

/-- One more character, in any case if case is ignored. -/
def Progress.pushChar (b : Progress) (c : Char) (byte : Bool) : Except Fault Progress :=
  if !b.modes.unicode && byte && 128 ≤ c.toNat then .error .notText
  else if !b.modes.noCase then .ok (b.push { regex := .set (.single c), depth := 0, size := charSize c })
  else if b.modes.unicode then
    .ok (b.push { regex := .set (.folded (.single c)), depth := 0, size := foldedSize c })
  else .ok (b.push { regex := .set (.asciiFolded (.single c)), depth := 0, size := 2 * stateSize + 16 })

/-- One more class. -/
def Progress.pushClass (b : Progress) (e : ClassExpr) (depth : Nat) : Except Fault Progress := do
  let s ← if b.modes.unicode then e.toSet b.modes.noCase else e.toByteSet b.modes.noCase
  return b.pushSet s depth

/-- All characters. -/
def anyChar : CharSet := .compl .empty

/-- One more dot. -/
def Progress.pushDot (b : Progress) : Except Fault Progress :=
  if !b.modes.unicode then .error .notText
  else .ok (b.pushSet (if b.modes.dotAll then anyChar
    else if b.modes.crlf then .compl (.union (.single '\n') (.single '\r'))
    else .compl (.single '\n')) 0)

/-- The assertion of `^` in the given modes. -/
def Modes.lineStart (m : Modes) : Look :=
  if !m.multiLine then .textStart else if m.crlf then .breakStart else .lineStart

/-- The assertion of `$` in the given modes. -/
def Modes.lineEnd (m : Modes) : Look :=
  if !m.multiLine then .textEnd else if m.crlf then .breakEnd else .lineEnd

/-- One more escape. -/
def Progress.pushEscape (b : Progress) : Escape → Except Fault Progress
  | .char c byte => b.pushChar c byte
  | .textStart => .ok (b.pushLook .textStart)
  | .textEnd => .ok (b.pushLook .textEnd)
  | .word kind => .ok (b.pushLook (.word (!b.modes.unicode) kind))
  | .short k negated => b.pushClass (.short k negated) 0
  | .property name negated => b.pushClass (.property name negated) 0

/-- Repeat the last item. What takes nothing need not be repeated more than once. -/
def Progress.repeatLast (b : Progress) (min : Nat) (max : Option Nat) : Except Fault Progress :=
  match b.items with
  | [] => .error .nothingToRepeat
  | p :: items =>
    if p.isSwitch then .error .nothingToRepeat
    else
      let (min, max) := if p.regex.takesNothing then (Nat.min min 1, max.map (Nat.min · 1)) else (min, max)
      let size := if max = some 0 then stateSize else repSize p.size min max
      .ok { b with items := { regex := .rep p.regex min max, depth := p.depth + 1, size } :: items }

/-- Open a group. -/
def Progress.openGroup (b : Progress) (captures : Bool) (modes : Modes) : Progress :=
  { b with
    modes
    branches := []
    items := []
    outer := { modes := b.modes, captures, branches := b.branches, items := b.items } :: b.outer }

/-- Close the innermost group. -/
def Progress.closeGroup (b : Progress) : Except Fault Progress :=
  match b.outer with
  | [] => .error .unopenedGroup
  | f :: outer =>
    let p := b.whole
    let group :=
      { regex := p.regex, depth := p.depth + 1, size := p.size + if f.captures then 2 * stateSize else 0 }
    .ok { b with modes := f.modes, branches := f.branches, items := group :: f.items, outer }

/-- Go on with one more token. -/
def Progress.next (b : Progress) : Token → Except Fault Progress
  | .char c byte => b.pushChar c byte
  | .dot => b.pushDot
  | .lineStart => .ok (b.pushLook b.modes.lineStart)
  | .lineEnd => .ok (b.pushLook b.modes.lineEnd)
  | .escape e => b.pushEscape e
  | .bracket p => b.pushClass p.expr p.depth
  | .openCapture none => .ok (b.openGroup true b.modes)
  | .openCapture (some name) =>
    if b.names.contains name then .error .repeatedGroupName
    else .ok ({ b with names := name :: b.names }.openGroup true b.modes)
  | .openGroup edits => .ok (b.openGroup false (edits.foldl Modes.edit b.modes))
  | .switch edits =>
    .ok ({ b with modes := edits.foldl Modes.edit b.modes }.push
      { regex := .empty, depth := 0, size := stateSize, isSwitch := true })
  | .close => b.closeGroup
  | .bar => .ok { b with branches := Piece.concat b.items :: b.branches, items := [] }
  | .rep min max => b.repeatLast min max

/-- Put the tokens together. -/
def build (noCase : Bool) (ts : List Token) : Except Fault Piece := do
  let b ← ts.foldlM Progress.next { modes := { noCase } }
  if b.outer.isEmpty then return b.whole else throw .unclosedGroup

/-- Read a regular expression, with case ignored from the start if `noCase`. -/
def read (noCase : Bool) (s : Text) : Except Fault Regex := do
  let p ← build noCase (← tokens s)
  if depthLimit < p.depth then throw .tooDeep
  else if sizeLimit < p.size then throw .tooLarge
  else return p.regex

end TrackerAudit.Regex
