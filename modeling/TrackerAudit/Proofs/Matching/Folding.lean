import TrackerAudit.Proofs.Matching.HostList
import TrackerAudit.Proofs.Matching.Scan
import TrackerAudit.Proofs.Pattern.Folding

/-!
# Requests that differ in case

A rule that is no regular expression and ignores case matches both of two requests whose strings fold alike, or none of
them (`Rule.isMatch_eq_of_foldAlike`). So a scan of such rules does not tell the requests apart. The index compares small
letters where the patterns compare folded characters, and the two differ on the strays: a list decides both requests alike
if none of its rules is filed under a host, or if no stray stands in the authority of either request
(`CompiledList.decision_eq_of_foldAlike`). With a stray in the host, a rule that matches is not found
(`CompiledList.decision_ne_kelvin_host`).
-/

namespace TrackerAudit

open Text Unicode

section

variable {r : Rule} {q : Request} {url : Text}

theorem Rule.isMatch_eq_of_foldAlike (hr : r.FromText) (hflags : r.flags.rawRegex = false ∧ r.flags.matchCase = false)
    (hfold : FoldAlike q.url url) : r.isMatch q = r.isMatch { q with url } := by
  obtain ⟨p, -, hparts⟩ := Rule.exists_parts hr hflags.1
  rw [hflags.2] at hparts
  -- the context does not change
  have happlies : r.applies q = r.applies { q with url } := rfl
  rw [Rule.isMatch, Rule.isMatch, happlies, Pattern.isMatch_eq_of_foldAlike hparts hfold]

theorem Rule.isFound_of_not_filed (h : r.indexedHost? = none) : r.isFound q = r.isMatch q :=
  Rule.isFound_eq_of_mem_keys fun key hkey => by
    rw [h] at hkey
    cases hkey

end

/-- A compiled list without regular expressions and without rules that ask for the case of letters, and a request whose
string is replaced by one that folds alike: a scan finds the same rules. The list decides the same if none of its rules
is filed under a host, or if neither authority has a stray. -/
theorem CompiledList.decision_eq_of_foldAlike (text : Text) (source : SourceList)
    (hflags : ∀ r ∈ (CompiledList.read text source).rules.rules, r.flags.rawRegex = false ∧ r.flags.matchCase = false)
    (q : Request) (url : Text) (hfold : FoldAlike q.url url) :
    (∀ isException, firstMatch? (CompiledList.read text source).rules.rules.toList isException q =
        firstMatch? (CompiledList.read text source).rules.rules.toList isException { q with url }) ∧
      ((∀ r ∈ (CompiledList.read text source).rules.rules, r.indexedHost? = none) ∨
          StrayFree (Host.authority q.url) ∧ StrayFree (Host.authority url) →
        (CompiledList.read text source).rules.decision q = (CompiledList.read text source).rules.decision { q with url }) := by
  have hmatch : ∀ r ∈ (CompiledList.read text source).rules.rules, r.isMatch q = r.isMatch { q with url } :=
    fun r hr => Rule.isMatch_eq_of_foldAlike (fromText hr) (hflags r hr) hfold
  constructor
  · intro isException
    refine List.find?_congr fun r hr => ?_
    rw [hmatch r (Array.mem_toList_iff.1 hr)]
  · intro hindex
    have hfound : ∀ r ∈ (CompiledList.read text source).rules.rules, r.isFound q = r.isFound { q with url } := by
      intro r hr
      rcases hindex with hnone | ⟨hs, hs'⟩
      · rw [Rule.isFound_of_not_filed (hnone r hr), Rule.isFound_of_not_filed (hnone r hr), hmatch r hr]
      · calc r.isFound q = r.isMatch q := Rule.isFound_eq_isMatch (fromText hr) hs
          _ = r.isMatch { q with url } := hmatch r hr
          _ = r.isFound { q with url } := (Rule.isFound_eq_isMatch (fromText hr) hs').symm
    exact RuleSet.decision_congr fun r hr => hfound r (List.mem_toArray.2 hr)

private theorem flags_okLine : ∀ r ∈ (FilterList.read "||ok.io^".toList .easyList).rules,
    r.flags.rawRegex = false ∧ r.flags.matchCase = false := by
  decide +kernel

/-- A stray in the path does no harm. -/
theorem CompiledList.decision_eq_kelvin_path :
    (∀ r ∈ (CompiledList.read "||ok.io^".toList .easyList).rules.rules,
        r.flags.rawRegex = false ∧ r.flags.matchCase = false) ∧
      FoldAlike "https://ok.io/ok".toList "HTTPS://OK.io/o\u212A".toList ∧
      StrayFree (Host.authority "https://ok.io/ok".toList) ∧ StrayFree (Host.authority "HTTPS://OK.io/o\u212A".toList) ∧
      (CompiledList.read "||ok.io^".toList .easyList).rules.decision { url := "https://ok.io/ok".toList } =
        (CompiledList.read "||ok.io^".toList .easyList).rules.decision { url := "HTTPS://OK.io/o\u212A".toList } := by
  have hflags : ∀ r ∈ (CompiledList.read "||ok.io^".toList .easyList).rules.rules,
      r.flags.rawRegex = false ∧ r.flags.matchCase = false := fun r hr => flags_okLine r (mem_of_mem_rules hr)
  have hfold : FoldAlike "https://ok.io/ok".toList "HTTPS://OK.io/o\u212A".toList := by decide +kernel
  have hs : StrayFree (Host.authority "https://ok.io/ok".toList) := by decide +kernel
  have hs' : StrayFree (Host.authority "HTTPS://OK.io/o\u212A".toList) := by decide +kernel
  exact ⟨hflags, hfold, hs, hs', (CompiledList.decision_eq_of_foldAlike _ .easyList hflags
    { url := "https://ok.io/ok".toList } _ hfold).2 (Or.inr ⟨hs, hs'⟩)⟩

/-- With the Kelvin sign in its host, a request escapes the rule that blocks it without. -/
theorem CompiledList.decision_ne_kelvin_host :
    (∀ r ∈ (CompiledList.read "||ok.io^".toList .easyList).rules.rules,
        r.flags.rawRegex = false ∧ r.flags.matchCase = false) ∧
      FoldAlike "https://ok.io/".toList "https://o\u212A.io/".toList ∧
      ((CompiledList.read "||ok.io^".toList .easyList).rules.decision { url := "https://ok.io/".toList }).blocked = true ∧
      ((CompiledList.read "||ok.io^".toList .easyList).rules.decision
        { url := "https://o\u212A.io/".toList }).blocked = false := by
  refine ⟨fun r hr => flags_okLine r (mem_of_mem_rules hr), by decide +kernel, blocked_okUrl, ?_⟩
  -- the host of the rule is not among the keys
  rw [Bool.eq_false_iff, ne_eq, blocked_okLine_iff]
  rintro ⟨-, hkey⟩
  revert hkey
  decide +kernel

end TrackerAudit
