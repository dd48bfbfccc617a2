import TrackerAudit.Pattern

/-!
# Filter rules

A rule of a filter list blocks the requests that it matches, or exempts them from blocking. It has a pattern for the
request string and may be restricted to some types of resources, to one party, and to pages on some domains.
-/

namespace TrackerAudit

open Text

/-- The filter list that a rule comes from. -/
inductive SourceList
  | easyList
  | easyPrivacy
  | fanboyAnnoyance
  deriving DecidableEq

namespace SourceList

/-- The lists in the order in which they are consulted. -/
def all : List SourceList := [easyList, easyPrivacy, fanboyAnnoyance]

/-- The name of a list. -/
def name : SourceList → Text
  | easyList => "easylist".toList
  | easyPrivacy => "easyprivacy".toList
  | fanboyAnnoyance => "fanboy-annoyance".toList

end SourceList

/-- The types of resources that a page requests. -/
inductive ResourceType
  | other | script | image | stylesheet | object | subdocument | mainFrame | xhr | websocket | font | media | ping
  | cspReport | beacon | fetch
  deriving DecidableEq

/-- A set of resource types, one bit each. -/
abbrev TypeMask := BitVec 15

namespace ResourceType

/-- The position of a type in a mask. -/
def index : ResourceType → Nat
  | other => 0
  | script => 1
  | image => 2
  | stylesheet => 3
  | object => 4
  | subdocument => 5
  | mainFrame => 6
  | xhr => 7
  | websocket => 8
  | font => 9
  | media => 10
  | ping => 11
  | cspReport => 12
  | beacon => 13
  | fetch => 14

/-- The mask of one type. -/
def mask (t : ResourceType) : TypeMask := 1#15 <<< t.index

/-- The type that a rule option names. -/
def ofOptionName? (name : Text) : Option ResourceType :=
  [("script", script), ("image", image), ("stylesheet", stylesheet), ("object", object), ("subdocument", subdocument),
    ("document", mainFrame), ("main_frame", mainFrame), ("xmlhttprequest", xhr), ("xhr", xhr), ("media", media),
    ("font", font), ("ping", ping), ("websocket", websocket), ("beacon", beacon), ("fetch", fetch),
    ("csp_report", cspReport), ("other", other)].findSome? fun (n, t) => if n.toList = name then some t else none

end ResourceType

/-- Whether a request stays on the site of its page or leaves it. -/
inductive Party
  | first
  | third
  deriving DecidableEq

/-- A set of parties, one bit each. -/
abbrev PartyMask := BitVec 2

namespace Party

/-- The mask of one party. -/
def mask : Party → PartyMask
  | first => 1#2
  | third => 2#2

/-- The party that a rule option names. -/
def ofOptionName? (name : Text) : Option Party :=
  [("third-party", third), ("thirdparty", third), ("3p", third), ("first-party", first), ("firstparty", first),
    ("1p", first)].findSome? fun (n, p) => if n.toList = name then some p else none

end Party

/-- The domains of pages on which a rule applies, and of those on which it does not. -/
structure DomainConstraint where
  included : List Text := []
  excluded : List Text := []
  deriving DecidableEq

namespace DomainConstraint

/-- The constraint names no domain. -/
def isEmpty (c : DomainConstraint) : Bool := c.included.isEmpty && c.excluded.isEmpty

/-- The domains of both constraints. -/
def append (c d : DomainConstraint) : DomainConstraint where
  included := c.included ++ d.included
  excluded := c.excluded ++ d.excluded

end DomainConstraint

/-- The marks of a rule. -/
structure RuleFlags where
  /-- the pattern is a regular expression -/
  rawRegex : Bool := false
  /-- case matters -/
  matchCase : Bool := false
  /-- the rule switches off the rules that are otherwise like it -/
  badfilter : Bool := false
  /-- the pattern ends at the end of the request -/
  rightAnchor : Bool := false
  /-- the pattern starts at a host -/
  hostAnchor : Bool := false
  /-- the pattern starts at the start of the request -/
  leftAnchor : Bool := false
  deriving DecidableEq, Hashable

/-- The marks as one number. -/
def RuleFlags.bits (f : RuleFlags) : Nat :=
  f.rawRegex.toNat * 2 + f.matchCase.toNat * 4 + f.badfilter.toNat * 8 + f.rightAnchor.toNat * 128 +
    f.hostAnchor.toNat * 256 + f.leftAnchor.toNat * 512

/-- Each mark has a bit of its own. -/
theorem RuleFlags.testBit_bits (f : RuleFlags) : f.bits.testBit 1 = f.rawRegex ∧ f.bits.testBit 2 = f.matchCase ∧
    f.bits.testBit 3 = f.badfilter ∧ f.bits.testBit 7 = f.rightAnchor ∧ f.bits.testBit 8 = f.hostAnchor ∧
    f.bits.testBit 9 = f.leftAnchor := by
  obtain ⟨rawRegex, matchCase, badfilter, rightAnchor, hostAnchor, leftAnchor⟩ := f
  revert rawRegex matchCase badfilter rightAnchor hostAnchor leftAnchor
  decide

/-- A filter rule. An empty mask restricts nothing. -/
structure Rule where
  /-- the rule exempts what it matches from blocking -/
  isException : Bool
  flags : RuleFlags
  /-- the pattern as it is written in the list -/
  text : Text
  pattern : Pattern
  types : TypeMask
  party : PartyMask
  domains : Option DomainConstraint
  source : SourceList
  /-- the line of the list, from 1 on -/
  line : Nat
  deriving DecidableEq

/-- The rule as it is shown in reports. -/
def Rule.shown (r : Rule) : Text :=
  let mark := if r.isException then "@@".toList else []
  mark ++ r.text ++ " (".toList ++ r.source.name ++ [':'] ++ ofNat r.line ++ [')']

end TrackerAudit
