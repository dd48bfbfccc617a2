import TrackerAudit.Proofs.Matching.Lookup
import TrackerAudit.Proofs.Rule.Reduce

/-!
# Reducing a list does not change what it decides

Whether a rule can be found for a request depends on its key alone (`Rule.isFound_eq_of_key_eq`). So a reduced list finds
the same rules as the list without the rules that drop out, in which the copies stay (`RuleSet.first?_reduce`).
-/

namespace TrackerAudit

theorem Rule.isFound_eq_of_key_eq {r r' : Rule} (h : r.key = r'.key) (hr : r.FromText) (hr' : r'.FromText) (q : Request) :
    r.isFound q = r'.isFound q := by
  rw [isFound, isFound, isMatch_eq_of_key_eq h hr hr' q, (key_eq_iff.1 h).indexedHost?]

theorem Rule.isException_eq_of_key_eq {r r' : Rule} (h : r.key = r'.key) : r.isException = r'.isException :=
  (key_eq_iff.1 h).isException

theorem RuleSet.first?_reduce (source : SourceList) {rules : List Rule} (hrules : ∀ r ∈ rules, r.FromText)
    (isException : Bool) (q : Request) : (ofList source (reduce rules)).first? isException q =
      (ofList source (rules.filter fun r => decide (r.Stays rules))).first? isException q := by
  rw [first?_ofList, first?_ofList, ← unnamed_eq]
  refine find?_reduce fun r hr r' hr' hkey => ?_
  rw [Rule.isFound_eq_of_key_eq hkey (hrules r hr) (hrules r' hr'), Rule.isException_eq_of_key_eq hkey]

namespace CompiledList

variable {text : Text} {source : SourceList}

theorem first?_read (isException : Bool) (q : Request) : (CompiledList.read text source).rules.first? isException q =
    ((FilterList.read text source).rules.filter fun r => decide (r.Stays (FilterList.read text source).rules)).find?
      fun r => r.isException == isException && r.isFound q := by
  have hread : (CompiledList.read text source).rules = RuleSet.ofList source (reduce (FilterList.read text source).rules) :=
    rfl
  rw [hread, RuleSet.first?_reduce source (FilterList.fromText text source), RuleSet.first?_ofList]

/-- The rules of a compiled list are rules that were read. -/
theorem mem_of_mem_rules {r : Rule} (h : r ∈ (CompiledList.read text source).rules.rules) :
    r ∈ (FilterList.read text source).rules :=
  mem_of_mem_reduce (List.mem_toArray.1 h)

theorem fromText {r : Rule} (h : r ∈ (CompiledList.read text source).rules.rules) : r.FromText :=
  FilterList.fromText text source r (mem_of_mem_rules h)

end CompiledList

/-- The reduced rules of a list decide every request, by the same rule, as the rules of the list do from which only the
`badfilter` rules and the rules named by them are taken out; without `badfilter` rules, as all rules of the list do. -/
theorem CompiledList.decision_read (text : Text) (source : SourceList) (q : Request) :
    (CompiledList.read text source).rules.decision q = (RuleSet.ofList source ((FilterList.read text source).rules.filter
        fun r => decide (r.Stays (FilterList.read text source).rules))).decision q ∧
      ((∀ r ∈ (FilterList.read text source).rules, r.flags.badfilter = false) →
        (CompiledList.read text source).rules.decision q =
          (RuleSet.ofList source (FilterList.read text source).rules).decision q) := by
  have hdecision : (CompiledList.read text source).rules.decision q = (RuleSet.ofList source
      ((FilterList.read text source).rules.filter
        fun r => decide (r.Stays (FilterList.read text source).rules))).decision q := by
    have hfirst := RuleSet.first?_reduce source (FilterList.fromText text source)
    unfold RuleSet.decision RuleSet.block? RuleSet.exception?
    rw [← hfirst false, ← hfirst true]
    rfl
  refine ⟨hdecision, fun hnone => ?_⟩
  rw [hdecision, ← unnamed_eq, unnamed_of_forall hnone]

/-- A list with a repeated rule and no `badfilter` rule. -/
theorem CompiledList.decision_read_repeated :
    (∀ r ∈ (FilterList.read "/x$domain=b.org|a.org\n/x$domain=a.org|b.org".toList .easyList).rules,
        r.flags.badfilter = false) ∧
      (CompiledList.read "/x$domain=b.org|a.org\n/x$domain=a.org|b.org".toList .easyList).rules.decision
          { url := "ads.example/x".toList } =
        (RuleSet.ofList .easyList (FilterList.read "/x$domain=b.org|a.org\n/x$domain=a.org|b.org".toList
          .easyList).rules).decision { url := "ads.example/x".toList } := by
  have hnone : ∀ r ∈ (FilterList.read "/x$domain=b.org|a.org\n/x$domain=a.org|b.org".toList
      .easyList).rules, r.flags.badfilter = false := by decide +kernel
  exact ⟨hnone, (CompiledList.decision_read _ .easyList _).2 hnone⟩

end TrackerAudit
