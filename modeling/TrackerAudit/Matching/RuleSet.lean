import TrackerAudit.Matching.Index
import TrackerAudit.Matching.Request
import TrackerAudit.Rule.Reduce

/-!
# Deciding requests

A rule set blocks a request when a blocking rule matches it and no exception does. The rule that is reported is the
first in the list that decides. `RuleSet.first?` finds it through the index; `firstMatch?` says what it finds, by going
through the whole list.
-/

namespace TrackerAudit

/-- The rules of a list with their index. -/
structure RuleSet where
  source : SourceList
  rules : Array Rule
  index : RuleIndex
  index_eq : index = RuleIndex.build rules.toList

/-- Whether a request is blocked, and the rule that decided it, if any rule matched. -/
structure Decision where
  blocked : Bool
  rule : Option Rule
  deriving DecidableEq

/-- The first rule of one kind, in the order of the list, that matches a request. -/
def firstMatch? (rules : List Rule) (isException : Bool) (q : Request) : Option Rule :=
  rules.find? fun r => r.isException == isException && r.isMatch q

/-- A request is decided by the first matching exception, if a blocking rule matches at all, and else by the first
matching blocking rule. -/
def decideBy (block : Option Rule) (exception : Unit → Option Rule) : Decision :=
  match block with
  | none => ⟨false, none⟩
  | some block =>
    match exception () with
    | some e => ⟨false, some e⟩
    | none => ⟨true, some block⟩

namespace RuleSet

/-- The set of the given rules. -/
def ofList (source : SourceList) (rules : List Rule) : RuleSet :=
  ⟨source, rules.toArray, RuleIndex.build rules, rfl⟩

/-- The number of rules. -/
def size (s : RuleSet) : Nat := s.rules.size

/-- The number of exceptions. -/
def exceptions (s : RuleSet) : Nat := s.rules.toList.countP (·.isException)

/-- The rule at a place matches. -/
def isMatchAt (s : RuleSet) (q : Request) (place : Nat) : Bool := s.rules[place]?.any (·.isMatch q)

/-- The least of the places that match, or the best place known before. -/
def bestOf (s : RuleSet) (q : Request) (best : Option Nat) (places : List Nat) : Option Nat :=
  places.foldl (fun best place => if best.all (place < ·) && s.isMatchAt q place then some place else best) best

/-- The place of the first rule of one kind that matches: the best one filed under a host key, unless one of the other
rules before it matches. -/
def firstPlace? (s : RuleSet) (isException : Bool) (q : Request) : Option Nat :=
  let x := s.index.ofKind isException
  let best := s.bestOf q none ((Host.keys q.url).flatMap x.candidates)
  let earlier := x.others.takeWhile fun place => best.all (place ≤ ·)
  (earlier.find? (s.isMatchAt q)).or best

/-- The first rule of one kind that matches. -/
def first? (s : RuleSet) (isException : Bool) (q : Request) : Option Rule :=
  (s.firstPlace? isException q).bind (s.rules[·]?)

/-- The first blocking rule that matches. -/
def block? (s : RuleSet) (q : Request) : Option Rule := s.first? false q

/-- The first exception that matches. -/
def exception? (s : RuleSet) (q : Request) : Option Rule := s.first? true q

/-- Decide a request. -/
def decision (s : RuleSet) (q : Request) : Decision := decideBy (s.block? q) fun _ => s.exception? q

end RuleSet

/-- A filter list, read and reduced. -/
structure CompiledList where
  rules : RuleSet
  errors : List LineError
  lines : Nat
  reduction : Reduction

/-- Read a filter list and reduce it. -/
def CompiledList.read (text : Text) (source : SourceList) : CompiledList :=
  let parsed := FilterList.read text source
  { rules := RuleSet.ofList source (reduce parsed.rules)
    errors := parsed.errors
    lines := parsed.lines
    reduction := Reduction.ofRules parsed.rules }

end TrackerAudit
