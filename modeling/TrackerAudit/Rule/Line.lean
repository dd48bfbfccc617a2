import TrackerAudit.Host.Address
import TrackerAudit.Rule.Options

/-!
# Lines of a filter list

A line holds a rule, or it is blank, a comment, or a rule about page elements, which are none of our business. A line
of a hosts file, an IP address and a domain, is a rule for the domain. All other lines are a pattern, perhaps with
options; `@@` in front makes the rule an exception.
-/

namespace TrackerAudit

open Text

/-- The line is a comment. -/
def isComment (line : Text) : Bool := line.head?.any fun c => c == '!' || c == '[' || c == '#'

/-- The marks by which rules about page elements are known. -/
def elementMarks : List Text :=
  ["##", "#@#", "#?#", "#@?#", "#$#", "#@$#", "#%#", "#@%#"].map String.toList

/-- The line is a rule about page elements. -/
def isElementRule (line : Text) : Bool := elementMarks.any fun mark => includes mark line

/-- The line holds no rule about requests. -/
def isIgnored (line : Text) : Bool := line.isEmpty || isComment line || isElementRule line

/-- The domain of a line of a hosts file. -/
def hostsFileDomain? (line : Text) : Option Text :=
  match words line with
  | address :: domain :: _ => if Host.isAddress address then normalDomain? domain else none
  | _ => none

/-! ### Patterns -/

/-- The anchors of a pattern and its parts. -/
structure PatternText where
  flags : RuleFlags
  parts : List PatternPart
  deriving DecidableEq

/-- The parts between the anchors. Neighbouring wildcards are one. -/
def bodyParts : Text → List PatternPart
  | [] => []
  | '*' :: s =>
    match bodyParts s with
    | .wildcard :: rest => .wildcard :: rest
    | rest => .wildcard :: rest
  | '^' :: s => .separator :: bodyParts s
  | c :: s =>
    match bodyParts s with
    | .literal t :: rest => .literal (c :: t) :: rest
    | rest => .literal [c] :: rest

/-- The anchor at the start of a pattern, and the rest of the pattern. -/
def leadingAnchor (s : Text) : RuleFlags × List PatternPart × Text :=
  match s with
  | '|' :: '|' :: rest => ({ hostAnchor := true }, [.hostAnchor], rest)
  | '|' :: rest => ({ leftAnchor := true }, [.requestStart], rest)
  | s => ({}, [], s)

/-- Read a pattern. Bars are anchors at its ends and must not stand elsewhere. -/
def PatternText.read (s : Text) : Except LineFault PatternText :=
  let (flags, first, rest) := leadingAnchor s
  let (flags, last, body) := match cutEnd? ['|'] rest with
    | some body => ({ flags with rightAnchor := true }, [PatternPart.requestEnd], body)
    | none => (flags, [], rest)
  if body.isEmpty then .error .emptyPattern
  else if body.contains '|' then .error .misplacedAnchor
  else .ok ⟨flags, first ++ bodyParts body ++ last⟩

/-- The regular expression between two slashes. -/
def rawRegex? (s : Text) : Option Text :=
  if 2 < s.length then (cutStart? ['/'] s).bind (cutEnd? ['/']) else none

/-! ### Rules -/

/-- What a rule on a line has apart from the line. -/
structure RuleContext where
  isException : Bool
  source : SourceList
  line : Nat

/-- A rule with the given pattern and options. -/
def RuleContext.rule (c : RuleContext) (text : Text) (flags : RuleFlags) (o : RuleOptions)
    (pattern : Except Regex.Fault Pattern) : Except LineFault Rule :=
  match pattern with
  | .error f => .error (.pattern f)
  | .ok pattern =>
    .ok {
      isException := c.isException
      flags := { flags with matchCase := o.matchCase, badfilter := o.badfilter }
      text
      pattern
      types := o.types
      party := o.party
      domains := o.domains
      source := c.source
      line := c.line }

/-- The rule for a domain and its subdomains. -/
def RuleContext.domainRule (c : RuleContext) (domain : Text) : Except LineFault Rule :=
  c.rule ("||".toList ++ domain ++ ['^']) { hostAnchor := true } {}
    (Pattern.ofParts [.hostAnchor, .literal domain, .separator] false)

/-- The rule of a pattern with options. -/
def RuleContext.patternRule (c : RuleContext) (line : Text) : Except LineFault Rule := do
  let (pattern, options) := splitOptions line
  let o ← match options with
    | some text => RuleOptions.read text
    | none => pure {}
  let pattern := trim pattern
  match rawRegex? pattern with
  | some source => c.rule pattern { rawRegex := true } o (Pattern.ofSource source o.matchCase)
  | none =>
    let p ← PatternText.read pattern
    c.rule pattern p.flags o (Pattern.ofParts p.parts o.matchCase)

/-- Read a line of a filter list; `none` if it holds no rule about requests. -/
def Rule.read (rawLine : Text) (source : SourceList) (number : Nat) : Except LineFault (Option Rule) :=
  let line := trim rawLine
  if isIgnored line then .ok none
  else
    let (isException, line) := match cutStart? "@@".toList line with
      | some rest => (true, trimStart rest)
      | none => (false, line)
    let c : RuleContext := { isException, source, line := number }
    match hostsFileDomain? line with
    | some domain => (c.domainRule domain).map some
    | none => (c.patternRule line).map some

end TrackerAudit
