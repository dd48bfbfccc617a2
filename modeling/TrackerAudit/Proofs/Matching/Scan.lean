import TrackerAudit.Proofs.Matching.Lookup
import TrackerAudit.Proofs.Rule.Reduce

/-!
# The index loses nothing

A rule that was read and matches a request without strays in its authority can be found through the index
(`Rule.isFound_eq_isMatch`), so a rule set decides such a request as a scan of all its rules in the order of the list
does.
-/

namespace TrackerAudit

theorem Rule.isFound_eq_isMatch {r : Rule} {q : Request} (hr : r.FromText)
    (hq : Unicode.StrayFree (Host.authority q.url)) : r.isFound q = r.isMatch q :=
  Rule.isFound_eq_of_mem_keys fun _ hkey hm => Rule.mem_keys_of_isMatch hr hkey hq hm

namespace RuleSet

theorem first?_eq_firstMatch? {source : SourceList} {rules : List Rule} (hrules : ∀ r ∈ rules, r.FromText) {q : Request}
    (hq : Unicode.StrayFree q.url) (isException : Bool) :
    (ofList source rules).first? isException q = firstMatch? rules isException q := by
  have hauthority : Unicode.StrayFree (Host.authority q.url) :=
    fun c hc => hq c ((Host.authority_infix q.url).mem hc)
  rw [first?_ofList, firstMatch?]
  refine List.find?_congr fun r hr => ?_
  rw [Rule.isFound_eq_isMatch (hrules r hr) hauthority]

end RuleSet

theorem FilterList.fromText_reduce {text : Text} {source : SourceList} :
    ∀ r ∈ reduce (FilterList.read text source).rules, r.FromText :=
  fun r hr => FilterList.fromText text source r (mem_of_mem_reduce hr)

/-- The rule sets of a filter list, reduced or as it was read, decide every request without strays as a scan does: the
first blocking rule and the first exception of the list that match are the ones that are found. -/
theorem RuleSet.lookup_eq_scan (text : Text) (source : SourceList) (s : RuleSet)
    (hs : s = (CompiledList.read text source).rules ∨ s = RuleSet.ofList source (FilterList.read text source).rules)
    (q : Request) (hlong : '\u017F' ∉ q.url) (hkelvin : '\u212A' ∉ q.url) :
    s.block? q = firstMatch? s.rules.toList false q ∧ s.exception? q = firstMatch? s.rules.toList true q ∧
      s.decision q = decideBy (firstMatch? s.rules.toList false q) fun _ => firstMatch? s.rules.toList true q := by
  have hq : Unicode.StrayFree q.url := by
    intro c hc
    rw [Unicode.isStray, Bool.or_eq_false_iff, beq_eq_false_iff_ne, beq_eq_false_iff_ne]
    constructor
    · rintro rfl
      exact hlong hc
    · rintro rfl
      exact hkelvin hc
  have hfirst : ∀ isException, s.first? isException q = firstMatch? s.rules.toList isException q := by
    intro isException
    rcases hs with rfl | rfl
    · exact first?_eq_firstMatch? FilterList.fromText_reduce hq isException
    · exact first?_eq_firstMatch? (FilterList.fromText text source) hq isException
  refine ⟨hfirst false, hfirst true, ?_⟩
  rw [decision, block?, exception?, hfirst, hfirst]

/-- A request with user information, a port and capitals has no strays. -/
theorem RuleSet.lookup_eq_scan_user_port :
    '\u017F' ∉ "HTTPS://me@Sub.ADS.example.com:8080/x".toList ∧ '\u212A' ∉ "HTTPS://me@Sub.ADS.example.com:8080/x".toList ∧
      (CompiledList.read "||ads.example.com^\n@@/x".toList .easyList).rules.decision
          { url := "HTTPS://me@Sub.ADS.example.com:8080/x".toList } =
        decideBy (firstMatch? (CompiledList.read "||ads.example.com^\n@@/x".toList .easyList).rules.rules.toList false
            { url := "HTTPS://me@Sub.ADS.example.com:8080/x".toList })
          fun _ => firstMatch? (CompiledList.read "||ads.example.com^\n@@/x".toList .easyList).rules.rules.toList true
            { url := "HTTPS://me@Sub.ADS.example.com:8080/x".toList } := by
  have hlong : '\u017F' ∉ "HTTPS://me@Sub.ADS.example.com:8080/x".toList := by decide
  have hkelvin : '\u212A' ∉ "HTTPS://me@Sub.ADS.example.com:8080/x".toList := by decide
  exact ⟨hlong, hkelvin, (RuleSet.lookup_eq_scan _ .easyList _ (Or.inl rfl) _ hlong hkelvin).2.2⟩

end TrackerAudit
