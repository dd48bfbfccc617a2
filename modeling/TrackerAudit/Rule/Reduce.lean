import TrackerAudit.Rule.List
import Std.Data.HashSet

/-!
# Reducing a rule list

Rules marked `badfilter` drop out of a list together with the rules that they name, and of the rules that say the same
only the first one stays. Two rules say the same when they have the same key: it leaves out the `badfilter` mark, the
place in the list, and the order of domains.
-/

namespace TrackerAudit

/-- What a rule says, apart from where it stands. -/
structure RuleKey where
  isException : Bool
  flags : RuleFlags
  types : TypeMask
  party : PartyMask
  text : Text
  included : List Text
  excluded : List Text
  deriving DecidableEq, Hashable

/-- Texts in order. -/
def sorted (texts : List Text) : List Text := texts.mergeSort fun a b => !decide (b < a)

/-- The key of a rule. -/
def Rule.key (r : Rule) : RuleKey where
  isException := r.isException
  flags := { r.flags with badfilter := false }
  types := r.types
  party := r.party
  text := r.text
  included := sorted (r.domains.getD {}).included
  excluded := sorted (r.domains.getD {}).excluded

/-- The rules of a list whose key is neither among `seen` nor that of a rule before. -/
def distinctFrom (seen : Std.HashSet RuleKey) : List Rule → List Rule
  | [] => []
  | r :: rest =>
    if seen.contains r.key then distinctFrom seen rest else r :: distinctFrom (seen.insert r.key) rest

/-- The first rule of each key. -/
def distinct (rules : List Rule) : List Rule := distinctFrom ∅ rules

/-- The number of rules of a list whose key is among `seen` or that of a rule before. -/
def countRepeatedFrom (seen : Std.HashSet RuleKey) : List Rule → Nat
  | [] => 0
  | r :: rest =>
    if seen.contains r.key then countRepeatedFrom seen rest + 1 else countRepeatedFrom (seen.insert r.key) rest

/-- The number of rules with the key of a rule before. -/
def countRepeated (rules : List Rule) : Nat := countRepeatedFrom ∅ rules

/-- The keys that the `badfilter` rules of a list name. -/
def namedKeys (rules : List Rule) : Std.HashSet RuleKey :=
  (rules.filter (·.flags.badfilter)).foldl (fun keys r => keys.insert r.key) ∅

/-- The rules of a list that neither are `badfilter` rules nor named by one. -/
def unnamed (rules : List Rule) : List Rule :=
  let named := namedKeys rules
  rules.filter fun r => !r.flags.badfilter && !named.contains r.key

/-- The numbers of rules that drop out of a list. -/
structure Reduction where
  before : Nat
  after : Nat
  /-- copies of an earlier rule -/
  repeated : Nat
  /-- `badfilter` rules -/
  badfilters : Nat
  /-- rules named by a `badfilter` rule -/
  named : Nat
  deriving DecidableEq

/-- The rules that stay in a list. -/
def reduce (rules : List Rule) : List Rule := distinct (unnamed rules)

/-- The numbers of rules that drop out of a list. -/
def Reduction.ofRules (rules : List Rule) : Reduction :=
  let named := namedKeys rules
  let left := unnamed rules
  { before := rules.length
    after := (distinct left).length
    repeated := countRepeated left
    badfilters := rules.countP (·.flags.badfilter)
    named := rules.countP fun r => !r.flags.badfilter && named.contains r.key }

end TrackerAudit
