import TrackerAudit.Classify.Options
import TrackerAudit.Matching.RuleSet

/-!
# The catalogue of filter lists, and the verdict on a request

A request is judged by three filter lists. If exceptions hold for their own list only, one list that blocks is
enough. If they hold globally, the three lists are judged as if they were one.
-/

namespace TrackerAudit

/-- The rules of the three filter lists. -/
structure Catalogue where
  easyList : RuleSet
  easyPrivacy : RuleSet
  fanboyAnnoyance : RuleSet

namespace Catalogue

/-- The rule sets, in the order in which they are consulted. -/
def sets (c : Catalogue) : List RuleSet := [c.easyList, c.easyPrivacy, c.fanboyAnnoyance]

/-- The number of rules. -/
def size (c : Catalogue) : Nat := c.sets.foldl (fun n s => n + s.size) 0

/-- The catalogue of three compiled lists. -/
def ofCompiled (easyList easyPrivacy fanboyAnnoyance : CompiledList) : Catalogue :=
  ⟨easyList.rules, easyPrivacy.rules, fanboyAnnoyance.rules⟩

/-- The catalogue of the texts of three lists. -/
def read (easyList easyPrivacy fanboyAnnoyance : Text) : Catalogue :=
  ofCompiled (CompiledList.read easyList .easyList) (CompiledList.read easyPrivacy .easyPrivacy)
    (CompiledList.read fanboyAnnoyance .fanboyAnnoyance)

/-- The faulty lines in the texts of three lists. -/
def errors (easyList easyPrivacy fanboyAnnoyance : Text) : List LineError :=
  (FilterList.read easyList .easyList).errors ++ (FilterList.read easyPrivacy .easyPrivacy).errors ++
    (FilterList.read fanboyAnnoyance .fanboyAnnoyance).errors

/-- The verdict when exceptions hold for their own list: that of the first list that blocks the request, and else the
first exception that was needed. -/
def judgePerList (c : Catalogue) (q : Request) : Decision :=
  let decisions := c.sets.map (·.decision q)
  (decisions.find? (·.blocked)).getD ⟨false, decisions.findSome? (·.rule)⟩

/-- The verdict when exceptions hold globally. -/
def judgeGlobal (c : Catalogue) (q : Request) : Decision :=
  decideBy (c.sets.findSome? (·.block? q)) fun _ => c.sets.findSome? (·.exception? q)

/-- The verdict on a request, and the rule that decided it. -/
def judge (c : Catalogue) (scope : ExceptionScope) (q : Request) : Decision :=
  match scope with
  | .perList => c.judgePerList q
  | .global => c.judgeGlobal q

end Catalogue

end TrackerAudit
