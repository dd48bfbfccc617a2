import TrackerAudit.Regex.Match
import TrackerAudit.Regex.Read

/-!
# Patterns

The pattern of a filter rule is a row of parts: plain text, wildcards, separators and anchors. It is matched through
a regular expression, whose text has a fixed fragment for each kind of part. A pattern can also be given by the text
of a regular expression directly.
-/

namespace TrackerAudit

open Text

/-- A part of a pattern. -/
inductive PatternPart
  | literal (text : Text)
  /-- `*`: any run without a line feed -/
  | wildcard
  /-- `^`: a character that ends a host or a word, or the end of the request -/
  | separator
  /-- a leading `|` -/
  | requestStart
  /-- a trailing `|` -/
  | requestEnd
  /-- a leading `||`: an optional scheme, and optional labels before a host -/
  | hostAnchor
  deriving DecidableEq

/-- Text in which each character stands for itself: those with a meaning of their own get a backslash. -/
def Regex.escaped (s : Text) : Text := s.flatMap fun c => if isMeta c then ['\\', c] else [c]

/-- The fragment of a regular expression for a part of a pattern. -/
def PatternPart.source : PatternPart → Text
  | literal text => Regex.escaped text
  | wildcard => ".*".toList
  | separator => "(?:[^a-zA-Z0-9_\\-.%]|$)".toList
  | requestStart => ['^']
  | requestEnd => ['$']
  | hostAnchor => "^(?:[a-z][a-z0-9+.\\-]*:(?://)?)?(?:[^/?#]*\\.)?".toList

/-- A pattern ready for matching: the text of its regular expression, whether case matters, and the expression,
which is what the text reads as. -/
structure Pattern where
  source : Text
  matchCase : Bool
  regex : Regex
  read_source : Regex.read (!matchCase) source = .ok regex

namespace Pattern

/-- The pattern given by a regular expression. -/
def ofSource (source : Text) (matchCase : Bool) : Except Regex.Fault Pattern :=
  match h : Regex.read (!matchCase) source with
  | .ok regex => .ok ⟨source, matchCase, regex, h⟩
  | .error f => .error f

/-- The pattern given by its parts. -/
def ofParts (parts : List PatternPart) (matchCase : Bool) : Except Regex.Fault Pattern :=
  ofSource (parts.flatMap PatternPart.source) matchCase

/-- Whether the pattern matches somewhere in the request string. -/
def isMatch (p : Pattern) (request : Text) : Bool := p.regex.isMatch request

/-- The text of the regular expression and the case mode determine a pattern. -/
theorem ext {p q : Pattern} (hs : p.source = q.source) (hc : p.matchCase = q.matchCase) : p = q := by
  obtain ⟨s, m, r, hr⟩ := p
  obtain ⟨s', m', r', hr'⟩ := q
  subst hs hc
  rw [hr] at hr'
  cases hr'
  rfl

instance : DecidableEq Pattern := fun p q =>
  if h : p.source = q.source ∧ p.matchCase = q.matchCase then isTrue (ext h.1 h.2)
  else isFalse fun e => h (e ▸ ⟨rfl, rfl⟩)

end Pattern

end TrackerAudit
