import TrackerAudit.Unicode.Fold
import TrackerAudit.Unicode.Property

/-!
# Regular expressions

A regular expression is built from sets of characters, assertions about the neighbours of a position,
concatenation, alternatives and counted repetition. `Consumes` says what an expression matches: the characters it
takes, between the character before them and the text after them. `Occurs` says that it takes some part of a text.
-/

namespace TrackerAudit

/-- A set of characters. -/
inductive CharSet
  | empty
  | range (first last : Char)
  | property (p : Unicode.Property)
  | union (s t : CharSet)
  | inter (s t : CharSet)
  | diff (s t : CharSet)
  | symmDiff (s t : CharSet)
  | compl (s : CharSet)
  /-- the characters that fold like a member -/
  | folded (s : CharSet)
  /-- the members and their ASCII counterparts in the other case -/
  | asciiFolded (s : CharSet)
  deriving DecidableEq

namespace CharSet

/-- Whether the character is a member. -/
def mem : CharSet → Char → Bool
  | empty, _ => false
  | range first last, c => first ≤ c && c ≤ last
  | property p, c => p.holds c
  | union s t, c => s.mem c || t.mem c
  | inter s t, c => s.mem c && t.mem c
  | diff s t, c => s.mem c && !t.mem c
  | symmDiff s t, c => s.mem c != t.mem c
  | compl s, c => !s.mem c
  | folded s, c => (Unicode.orbit c).any s.mem
  | asciiFolded s, c => s.mem c || s.mem c.toLower || s.mem c.toUpper

/-- The set of one character. -/
def single (c : Char) : CharSet := range c c

theorem mem_single {c d : Char} : (single c).mem d = true ↔ d = c := by
  simp only [single, mem, Bool.and_eq_true, decide_eq_true_eq, Char.le_def, UInt32.le_iff_toNat_le]
  constructor
  · rintro ⟨h, h'⟩
    exact Char.ext (UInt32.toNat_inj.1 (Nat.le_antisymm h' h))
  · rintro rfl
    exact ⟨Nat.le_refl _, Nat.le_refl _⟩

end CharSet

/-- What an assertion asks of the two neighbours of a position with respect to words. -/
inductive WordLook
  /-- one neighbour is in a word and the other is not -/
  | boundary
  /-- both are in a word, or neither is -/
  | inside
  /-- a word starts here -/
  | start
  /-- a word ends here -/
  | stop
  /-- the character before is not in a word -/
  | startHalf
  /-- the character after is not in a word -/
  | stopHalf
  deriving DecidableEq

/-- An assertion about a position in a text. -/
inductive Look
  | textStart
  | textEnd
  | lineStart
  | lineEnd
  /-- line start where a carriage return and a line feed end a line together or alone -/
  | breakStart
  /-- line end where a carriage return and a line feed end a line together or alone -/
  | breakEnd
  /-- an assertion about words, of ASCII characters only if `ascii` -/
  | word (ascii : Bool) (kind : WordLook)
  deriving DecidableEq

/-- Whether the neighbours of a position satisfy what is asked about words. -/
def WordLook.holds : WordLook → (left right : Bool) → Bool
  | boundary, l, r => l != r
  | inside, l, r => l == r
  | start, l, r => !l && r
  | stop, l, r => l && !r
  | startHalf, l, _ => !l
  | stopHalf, _, r => !r

/-- Whether an assertion holds between the characters `prev` and `next`, each absent at an end of the text. -/
def Look.holds : Look → (prev next : Option Char) → Bool
  | textStart, prev, _ => prev.isNone
  | textEnd, _, next => next.isNone
  | lineStart, prev, _ => prev.isNone || prev == some '\n'
  | lineEnd, _, next => next.isNone || next == some '\n'
  | breakStart, prev, next => prev.isNone || prev == some '\n' || (prev == some '\r' && next != some '\n')
  | breakEnd, prev, next => next.isNone || next == some '\r' || (next == some '\n' && prev != some '\r')
  | word ascii kind, prev, next =>
    let isWord := fun c => if ascii then Unicode.isAsciiWord c else Unicode.isWord c
    kind.holds (prev.any isWord) (next.any isWord)

/-- A regular expression. -/
inductive Regex
  /-- takes nothing -/
  | empty
  /-- takes one member of the set -/
  | set (s : CharSet)
  /-- takes nothing, where the assertion holds -/
  | look (l : Look)
  /-- takes what `r` takes and then what `s` takes -/
  | cat (r s : Regex)
  /-- takes what `r` or what `s` takes -/
  | alt (r s : Regex)
  /-- takes at least `min` and at most `max` times in a row what `r` takes -/
  | rep (r : Regex) (min : Nat) (max : Option Nat)
  deriving DecidableEq

namespace Regex

/-- The character before a position that is reached by taking `taken` after `prev`. -/
def prevAfter (prev : Option Char) (taken : Text) : Option Char :=
  match taken.getLast? with
  | some c => some c
  | none => prev

/-- One repetition fewer allowed. -/
def fewer (max : Option Nat) : Option Nat := max.map (· - 1)

/-- `r.Consumes prev taken rest`: between the character `prev` and the text `rest`, the expression takes `taken`. -/
inductive Consumes : Regex → Option Char → Text → Text → Prop
  | empty {prev rest} : Consumes .empty prev [] rest
  | set {s c prev rest} : s.mem c = true → Consumes (.set s) prev [c] rest
  | look {l : Look} {prev} {rest : Text} : l.holds prev rest.head? = true → Consumes (.look l) prev [] rest
  | cat {r s prev u v rest} : Consumes r prev u (v ++ rest) → Consumes s (prevAfter prev u) v rest →
      Consumes (.cat r s) prev (u ++ v) rest
  | left {r s prev u rest} : Consumes r prev u rest → Consumes (.alt r s) prev u rest
  | right {r s prev u rest} : Consumes s prev u rest → Consumes (.alt r s) prev u rest
  | done {r max prev rest} : Consumes (.rep r 0 max) prev [] rest
  | more {r min max prev u v rest} : max ≠ some 0 → Consumes r prev u (v ++ rest) →
      Consumes (.rep r (min - 1) (fewer max)) (prevAfter prev u) v rest →
      Consumes (.rep r min max) prev (u ++ v) rest

/-- The expression takes some part of the text. -/
def Occurs (r : Regex) (text : Text) : Prop :=
  ∃ before taken rest, text = before ++ taken ++ rest ∧ r.Consumes before.getLast? taken rest

/-- The concatenation of a list of expressions. -/
def catList : List Regex → Regex
  | [] => empty
  | [r] => r
  | r :: rs => cat r (catList rs)

/-- The alternatives of a list of expressions; without any, nothing is taken. -/
def altList : List Regex → Regex
  | [] => set .empty
  | [r] => r
  | r :: rs => alt r (altList rs)

/-- The expression can take nothing but the empty text, because it holds no set outside of repetitions that are
never made. -/
def takesNothing : Regex → Bool
  | empty => true
  | set _ => false
  | look _ => true
  | cat r s => r.takesNothing && s.takesNothing
  | alt r s => r.takesNothing && s.takesNothing
  | rep r _ max => max == some 0 || r.takesNothing

end Regex

end TrackerAudit
