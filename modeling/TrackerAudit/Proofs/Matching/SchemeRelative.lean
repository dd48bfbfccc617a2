import TrackerAudit.Proofs.Matching.HostList

/-!
# Requests with and without a scheme

A rule `||host^`, whatever its options, finds a URL exactly if it finds what follows the scheme of the URL
(`Rule.isFound_withoutScheme`), but no request that starts with a slash (`Rule.isFound_slash`), since the slashes belong
to the scheme in the pattern. So a list of such rules decides a URL like its bare host and path, and does not decide the
URL that starts with `//` (`CompiledList.decision_schemeRelative`).
-/

namespace TrackerAudit

open Text

/-- The URL without its scheme. -/
def HostUrl.withoutScheme (u : HostUrl) : HostUrl := { u with scheme := none, isScheme := by simp }

theorem HostUrl.isSchemeMark_https (host : DomainName) {tail : Text}
    (htail : ∀ c ∈ tail.head?, Host.endsAuthority c = true) :
    PatternPart.IsSchemeMark false (HostUrl.https host tail htail).schemeText := by
  refine ⟨'h', "ttps".toList, "//".toList, rfl, countsAsOne_self rfl, fun c hc => countsAsOne_self ?_, Or.inr rfl⟩
  simp only [String.reduceToList, List.mem_cons, List.not_mem_nil, or_false] at hc
  rcases hc with rfl | rfl | rfl | rfl <;> rfl

section

variable {r : Rule} (hr : r.FromText) {d : DomainName} (htext : r.text = "||".toList ++ d.text ++ ['^']) (q : Request)

include hr htext

theorem Rule.isFound_slash (rest : Text) : r.isFound { q with url := '/' :: rest } = false := by
  have hslash := Pattern.isMatch_slash d.isPlain (Rule.ofParts_of_text hr htext d.isPlain) rest
  rw [Rule.isFound, Rule.isMatch, hslash, Bool.and_false, Bool.false_and]

/-- In a URL, the index loses no rule for a host. -/
theorem Rule.isFound_hostUrl (u : HostUrl) : r.isFound { q with url := u.text } = r.isMatch { q with url := u.text } := by
  refine Rule.isFound_eq_of_mem_keys fun key hkey hm => ?_
  obtain ⟨host, htext', hhost, rfl, ⟨place⟩⟩ := Rule.exists_place_of_isMatch hr hkey hm
  obtain rfl : host = d.text := by
    rw [htext] at htext'
    simpa using htext'.symm
  exact u.lower_mem_keys hhost d.dot_mem_text place

/-- A scheme in small letters makes no difference to a rule for a host. -/
theorem Rule.isFound_withoutScheme (u : HostUrl) (hscheme : PatternPart.IsSchemeMark false u.schemeText) :
    r.isFound { q with url := u.text } = r.isFound { q with url := u.withoutScheme.text } := by
  have hparts := Rule.ofParts_of_text hr htext d.isPlain
  have hmark : PatternPart.IsSchemeMark (!r.flags.matchCase) u.schemeText := by
    cases r.flags.matchCase with
    | false => exact hscheme.ignoreCase
    | true => exact hscheme
  have hmatch : r.pattern.isMatch u.text = r.pattern.isMatch u.withoutScheme.text := by
    rw [Bool.eq_iff_iff, u.isMatch_text_iff d.isPlain d.dot_mem_text hparts (Or.inr hmark),
      u.withoutScheme.isMatch_text_iff d.isPlain d.dot_mem_text hparts (Or.inl rfl)]
    rfl
  rw [Rule.isFound_hostUrl hr htext, Rule.isFound_hostUrl hr htext, Rule.isMatch, Rule.isMatch, hmatch]
  rfl

end

theorem decideBy_eq_none_iff {block : Option Rule} {exception : Unit → Option Rule} :
    decideBy block exception = ⟨false, none⟩ ↔ block = none := by
  unfold decideBy
  cases block with
  | none => simp
  | some b => cases exception () <;> simp

/-- A list of rules `||domain^` and exceptions from them, with any options, and a host with any tail: for the host with
two slashes before it no rule is found. The bare host is decided as it is behind `https://`; so the slashes alone make a
difference exactly if a blocking rule is found behind `https://`. -/
theorem CompiledList.decision_schemeRelative (text : Text) (source : SourceList)
    (hrules : ∀ r ∈ (CompiledList.read text source).rules.rules, ∃ d : DomainName, r.text = "||".toList ++ d.text ++ ['^'])
    (q : Request) (host : DomainName) (tail : Text) (htail : ∀ c ∈ tail.head?, Host.endsAuthority c = true) :
    (CompiledList.read text source).rules.decision { q with url := "//".toList ++ host.text ++ tail } = ⟨false, none⟩ ∧
      (CompiledList.read text source).rules.decision { q with url := host.text ++ tail } =
        (CompiledList.read text source).rules.decision { q with url := "https://".toList ++ host.text ++ tail } ∧
      ((CompiledList.read text source).rules.decision { q with url := "//".toList ++ host.text ++ tail } =
          (CompiledList.read text source).rules.decision { q with url := "https://".toList ++ host.text ++ tail } ↔
        (CompiledList.read text source).rules.block? { q with url := "https://".toList ++ host.text ++ tail } = none) := by
  have hslashes : (CompiledList.read text source).rules.decision { q with url := "//".toList ++ host.text ++ tail } =
      ⟨false, none⟩ := by
    refine RuleSet.decision_of_not_found fun r hr => ?_
    have hr := List.mem_toArray.2 hr
    obtain ⟨d, hd⟩ := hrules r hr
    exact Rule.isFound_slash (fromText hr) hd q _
  have hbare : (CompiledList.read text source).rules.decision { q with url := host.text ++ tail } =
      (CompiledList.read text source).rules.decision { q with url := "https://".toList ++ host.text ++ tail } := by
    refine RuleSet.decision_congr fun r hr => ?_
    have hr := List.mem_toArray.2 hr
    obtain ⟨d, hd⟩ := hrules r hr
    exact (Rule.isFound_withoutScheme (fromText hr) hd q _ (HostUrl.isSchemeMark_https host htail)).symm
  refine ⟨hslashes, hbare, ?_⟩
  rw [hslashes, eq_comm, RuleSet.decision, decideBy_eq_none_iff]

/-- A rule that asks for the case of letters, and an exception for scripts. -/
theorem CompiledList.decision_schemeRelative_options :
    (∀ r ∈ (CompiledList.read "||ok.io^$match-case\n@@||ok.io^$script".toList .easyList).rules.rules,
        ∃ d : DomainName, r.text = "||".toList ++ d.text ++ ['^']) ∧
      (∀ c ∈ "/x".toList.head?, Host.endsAuthority c = true) ∧
      (CompiledList.read "||ok.io^$match-case\n@@||ok.io^$script".toList .easyList).rules.decision
          { url := "//ok.io/x".toList } = ⟨false, none⟩ ∧
      (CompiledList.read "||ok.io^$match-case\n@@||ok.io^$script".toList .easyList).rules.decision
          { url := "ok.io/x".toList } =
        (CompiledList.read "||ok.io^$match-case\n@@||ok.io^$script".toList .easyList).rules.decision
          { url := "https://ok.io/x".toList } := by
  have htexts : ∀ r ∈ (FilterList.read "||ok.io^$match-case\n@@||ok.io^$script".toList .easyList).rules,
      r.text = "||".toList ++ okDomain.text ++ ['^'] := by decide +kernel
  have hrules : ∀ r ∈ (CompiledList.read "||ok.io^$match-case\n@@||ok.io^$script".toList .easyList).rules.rules,
      ∃ d : DomainName, r.text = "||".toList ++ d.text ++ ['^'] := fun r hr => ⟨okDomain, htexts r (mem_of_mem_rules hr)⟩
  have htail : ∀ c ∈ "/x".toList.head?, Host.endsAuthority c = true := by simp [Host.endsAuthority]
  have hdecision := CompiledList.decision_schemeRelative _ .easyList hrules { url := [] } okDomain "/x".toList htail
  exact ⟨hrules, htail, hdecision.1, hdecision.2.1⟩

/-- The request that is blocked behind `https://` is let through behind two slashes. -/
theorem CompiledList.decision_ne_two_slashes :
    (∀ r ∈ (CompiledList.read "||ok.io^".toList .easyList).rules.rules,
        ∃ d : DomainName, r.text = "||".toList ++ d.text ++ ['^']) ∧
      ((CompiledList.read "||ok.io^".toList .easyList).rules.decision { url := "https://ok.io/".toList }).blocked = true ∧
      ((CompiledList.read "||ok.io^".toList .easyList).rules.decision { url := "//ok.io/".toList }).blocked = false := by
  have htexts : ∀ r ∈ (FilterList.read "||ok.io^".toList .easyList).rules,
      r.text = "||".toList ++ okDomain.text ++ ['^'] := by decide +kernel
  refine ⟨fun r hr => ⟨okDomain, htexts r (mem_of_mem_rules hr)⟩, blocked_okUrl, ?_⟩
  have hlet : (CompiledList.read "||ok.io^".toList .easyList).rules.decision { url := "//ok.io/".toList } =
      ⟨false, none⟩ := by
    refine RuleSet.decision_of_not_found fun r hr => ?_
    have hr := List.mem_toArray.2 hr
    exact Rule.isFound_slash (fromText hr) (htexts r (mem_of_mem_rules hr)) { url := [] } _
  rw [hlet]

end TrackerAudit
