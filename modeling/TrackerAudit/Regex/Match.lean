import TrackerAudit.Regex.Basic
import Std.Data.HashSet

/-!
# Finding a match

A text is searched from left to right with all attempts at once. An attempt is the list of expressions that still
have to take their parts, one after another; `steps` lists what is left of an attempt after it has taken one more
character. At every position a new attempt begins, and the search ends as soon as one has nothing left to do.

Equal attempts are kept once. An attempt knows the length of its list, so that attempts of different lengths are told
apart at once.
-/

namespace TrackerAudit.Regex

/-- The expression can take nothing between `prev` and `next`. -/
def nullable (prev next : Option Char) : Regex → Bool
  | empty => true
  | set _ => false
  | look l => l.holds prev next
  | cat r s => r.nullable prev next && s.nullable prev next
  | alt r s => r.nullable prev next || s.nullable prev next
  | rep r min _ => min == 0 || r.nullable prev next

/-- The factors of a concatenation. -/
def factors : Regex → List Regex
  | cat r s => r.factors ++ s.factors
  | r => [r]

/-- Expressions that still have to take their parts, and their number. -/
structure Attempt where
  left : Nat
  todo : List Regex
  deriving DecidableEq

instance : Hashable Attempt := ⟨fun a => hash a.left⟩

/-- Do the factors of `r` before the rest of the attempt. -/
def Attempt.push (r : Regex) (a : Attempt) : Attempt := ⟨r.factors.length + a.left, r.factors ++ a.todo⟩

/-- The attempt at an expression. -/
def Attempt.of (r : Regex) : Attempt := Attempt.push r ⟨0, []⟩

/-- The steps of a repetition of `r`, from the steps `one` of a single `r`. A repetition that may take nothing can
also be passed over while repetitions are still owed. -/
def repSteps (r : Regex) (one : Attempt → List Attempt) (skip : Bool) :
    (min : Nat) → (max : Option Nat) → Attempt → List Attempt
  | 0, max, rest => if max = some 0 then [] else one (rest.push (rep r 0 (fewer max)))
  | min + 1, max, rest =>
    if max = some 0 then []
    else one (rest.push (rep r min (fewer max))) ++ if skip then repSteps r one skip min (fewer max) rest else []

/-- What can be left to do after `r` has taken the character `c`, which stands after `prev`, and with `rest` to be
done after `r`. -/
def steps (prev : Option Char) (c : Char) : Regex → Attempt → List Attempt
  | empty, _ => []
  | set s, rest => if s.mem c then [rest] else []
  | look _, _ => []
  | cat r s, rest => steps prev c r (rest.push s) ++ if r.nullable prev (some c) then steps prev c s rest else []
  | alt r s, rest => steps prev c r rest ++ steps prev c s rest
  | rep r min max, rest => repSteps r (steps prev c r) (r.nullable prev (some c)) min max rest

/-- What can be left of an attempt after it has taken one more character. -/
def advance (prev : Option Char) (c : Char) : (left : Nat) → List Regex → List Attempt
  | _, [] => []
  | left, r :: rest =>
    steps prev c r ⟨left - 1, rest⟩ ++ if r.nullable prev (some c) then advance prev c (left - 1) rest else []

/-- The attempt can end between `prev` and `next`. -/
def Attempt.finished (prev next : Option Char) (a : Attempt) : Bool := a.todo.all (nullable prev next)

/-- The attempts of a list, each once. -/
def distinctAttempts (attempts : List Attempt) : List Attempt := (Std.HashSet.ofList attempts).toList

/-- Search a text that stands after `prev`, with the given attempts under way and a new one at each position. -/
def search (new : Attempt) (prev : Option Char) (attempts : List Attempt) : Text → Bool
  | [] => (new :: attempts).any (·.finished prev none)
  | c :: text =>
    let attempts := new :: attempts
    attempts.any (·.finished prev (some c)) ||
      search new (some c) (distinctAttempts (attempts.flatMap fun a => advance prev c a.left a.todo)) text

/-- Whether the expression takes some part of the text. -/
def isMatch (r : Regex) (text : Text) : Bool := search (Attempt.of r) none [] text

end TrackerAudit.Regex
