import TrackerAudit.Rule.Basic

/-!
# Options of a filter rule

The options of a rule stand after its last `$`, separated by commas. They restrict the types of resources and the
parties, each mentioned plainly or after `~`, and the domains of pages; the domains of a `domain=` option are separated
by bars, and further domains may follow as options of their own. An option that is not known changes nothing.
-/

namespace TrackerAudit

open Text

/-- Why a line of a filter list is no rule. -/
inductive LineFault
  | emptyPattern
  | misplacedAnchor
  | emptyDomainOption
  | invalidDomain (domain : Text)
  | contradictoryOptions
  | pattern (f : Regex.Fault)
  deriving DecidableEq

/-- The wording of a fault. -/
def LineFault.message : LineFault → Text
  | emptyPattern => "empty pattern".toList
  | misplacedAnchor => "'|' anchor inside pattern body".toList
  | emptyDomainOption => "empty domain= option".toList
  | invalidDomain d => "invalid domain '".toList ++ d ++ "' in domain= option".toList
  | contradictoryOptions => "options exclude every request".toList
  | pattern f => "pattern does not compile: ".toList ++ f.message.toList

/-- The restrictions and marks that options give a rule. -/
structure RuleOptions where
  matchCase : Bool := false
  badfilter : Bool := false
  types : TypeMask := 0
  party : PartyMask := 0
  domains : Option DomainConstraint := none
  deriving DecidableEq

/-! ### Domains -/

/-- A domain in small letters and without outer dots, if it consists of ASCII letters, digits, dots and hyphens. -/
def normalDomain? (host : Text) : Option Text :=
  let host := trimDots (trim host)
  if !host.isEmpty && host.all fun c => isAlnum c || c == '.' || c == '-' then some (lower host) else none

/-- An entry of a `domain=` option: a domain, or an entity `name.*`. -/
def normalEntry? (entry : Text) : Option Text :=
  match cutEnd? ".*".toList (trim entry) with
  | some name => (normalDomain? name).map (· ++ ".*".toList)
  | none => normalDomain? entry

/-- One entry more, excluded if it starts with `~`. Blank entries are passed over. -/
def DomainConstraint.add (c : DomainConstraint) (entry : Text) : Except LineFault DomainConstraint :=
  let entry := trim entry
  if entry.isEmpty then .ok c
  else
    match cutStart? ['~'] entry with
    | some domain =>
      match normalEntry? domain with
      | some d => .ok { c with excluded := c.excluded ++ [d] }
      | none => .error (.invalidDomain domain)
    | none =>
      match normalEntry? entry with
      | some d => .ok { c with included := c.included ++ [d] }
      | none => .error (.invalidDomain entry)

/-- The constraint of a `domain=` option. -/
def DomainConstraint.read (value : Text) : Except LineFault DomainConstraint := do
  let c ← (value.splitOn '|').foldlM DomainConstraint.add {}
  if c.isEmpty then throw .emptyDomainOption else return c

/-! ### Masks -/

/-- The values that remain of those mentioned plainly, or of all if none is, without those mentioned after `~`. The
full mask is written as the empty one. -/
def remaining {n : Nat} (included excluded : BitVec n) : Except LineFault (BitVec n) :=
  let mask := if included ≠ 0 then included &&& ~~~excluded else ~~~excluded
  if mask = 0 then .error .contradictoryOptions
  else if mask = BitVec.allOnes n then .ok 0
  else .ok mask

/-! ### Options -/

/-- One option, in small letters. -/
inductive RuleOption
  | domains (value : Text)
  | matchCase
  | badfilter
  | type (t : ResourceType) (negated : Bool)
  | party (p : Party) (negated : Bool)
  /-- none of the options above: an entry of a `domain=` option just before it, or unknown -/
  | other (name : Text) (negated : Bool)
  deriving DecidableEq

/-- The option that a text in small letters names. -/
def RuleOption.ofText (s : Text) : RuleOption :=
  match cutStart? "domain=".toList s with
  | some value => .domains value
  | none =>
    let (negated, name) := match cutStart? ['~'] s with
      | some name => (true, name)
      | none => (false, s)
    if name = "match-case".toList || name = "match_case".toList then .matchCase
    else if name = "badfilter".toList then .badfilter
    else
      match ResourceType.ofOptionName? name with
      | some t => .type t negated
      | none =>
        match Party.ofOptionName? name with
        | some p => .party p negated
        | none => .other name negated

/-- What the options so far say. `inDomains` tells that the next option may be one more domain. -/
structure OptionState where
  matchCase : Bool := false
  badfilter : Bool := false
  typesIn : TypeMask := 0
  typesOut : TypeMask := 0
  partiesIn : PartyMask := 0
  partiesOut : PartyMask := 0
  domains : Option DomainConstraint := none
  inDomains : Bool := false

/-- Add the domains of an option. -/
def OptionState.addDomains (s : OptionState) (value : Text) : Except LineFault OptionState := do
  let c ← DomainConstraint.read value
  return { s with domains := some ((s.domains.getD {}).append c), inDomains := true }

/-- Whether an option after a `domain=` option is one more domain: it has the form of one and a dot. -/
def continuesDomains (name : Text) : Bool := (normalDomain? name).any (·.contains '.')

/-- Go on with one more option. -/
def OptionState.next (s : OptionState) (o : RuleOption) : Except LineFault OptionState :=
  match o with
  | .domains value => s.addDomains value
  | .matchCase => .ok { s with matchCase := true, inDomains := false }
  | .badfilter => .ok { s with badfilter := true, inDomains := false }
  | .type t false => .ok { s with typesIn := s.typesIn ||| t.mask, inDomains := false }
  | .type t true => .ok { s with typesOut := s.typesOut ||| t.mask, inDomains := false }
  | .party p false => .ok { s with partiesIn := s.partiesIn ||| p.mask, inDomains := false }
  | .party p true => .ok { s with partiesOut := s.partiesOut ||| p.mask, inDomains := false }
  | .other name negated =>
    if s.inDomains && continuesDomains name then s.addDomains (if negated then '~' :: name else name)
    else .ok { s with inDomains := false }

/-- The options of a text, in small letters, without blank ones. -/
def optionTexts (text : Text) : List Text :=
  ((((trim text).splitOn ',').map trim).filter (!·.isEmpty)).map lower

/-- Read the options of a rule. -/
def RuleOptions.read (text : Text) : Except LineFault RuleOptions := do
  let s ← ((optionTexts text).map RuleOption.ofText).foldlM OptionState.next {}
  let types ← remaining s.typesIn s.typesOut
  let party ← remaining s.partiesIn s.partiesOut
  return { matchCase := s.matchCase, badfilter := s.badfilter, types, party, domains := s.domains }

/-- Whether the text after a `$` can be options: it starts with a letter, a digit or `~`, and has only characters that
options have. -/
def looksLikeOptions (s : Text) : Bool :=
  s.head?.any (fun c => isAlnum c || c == '~') &&
    s.all fun c => isAlnum c || "~=,|._-*/:".toList.contains c

/-- The pattern and the options of a line, cut at the last `$` if what follows can be options. -/
def splitOptions (line : Text) : Text × Option Text :=
  match cutLast? '$' line with
  | some (pattern, options) => if looksLikeOptions options then (pattern, some options) else (line, none)
  | none => (line, none)

end TrackerAudit
