import TrackerAudit.Proofs.Matching.HostUrl
import TrackerAudit.Proofs.Matching.Lines
import TrackerAudit.Proofs.Rule.HostLine

/-!
# Lists of plain hosts

A rule for a domain can be found for a request, of which nothing but the string is known, exactly if the pattern of the
domain has a place in the string and the domain is among its keys (`RuleContext.isFound_domainRule`). So a list of such
rules blocks a URL if its host lies within a domain of the list and within none of its exceptions.
-/

namespace TrackerAudit

open Text

/-- What a rule for a domain consists of. -/
theorem RuleContext.domainRule_eq_ok {c : RuleContext} {name : Text} {r : Rule} (h : c.domainRule name = .ok r) :
    r.isException = c.isException ∧ r.flags = { hostAnchor := true } ∧ r.text = "||".toList ++ name ++ ['^'] ∧
      Pattern.ofParts [.hostAnchor, .literal name, .separator] false = .ok r.pattern ∧ r.types = 0 ∧ r.party = 0 ∧
      r.domains = none := by
  unfold domainRule rule at h
  split at h
  · cases h
  · rename_i p hp
    cases h
    exact ⟨rfl, rfl, rfl, hp, rfl, rfl, rfl⟩

theorem RuleContext.isFound_domainRule {c : RuleContext} {name : Text} (hname : Host.IsPlain name) {r : Rule}
    (h : c.domainRule name = .ok r) {url : Text} :
    r.isFound { url } = true ↔ Nonempty (HostPlace name url) ∧ lower name ∈ Host.keys url := by
  obtain ⟨-, hflags, htext, hpattern, htypes, hparty, hdomains⟩ := domainRule_eq_ok h
  have hhost : r.indexedHost? = some (lower name) :=
    Rule.indexedHost?_eq_some.2 ⟨by rw [hflags], by rw [hflags], name, htext, hname, rfl⟩
  have happlies : r.applies { url } = true := by simp [Rule.applies, admits, htypes, hparty, hdomains]
  rw [Rule.isFound, Rule.isMatch, happlies, hhost, Bool.true_and, Bool.and_eq_true, Pattern.isMatch_host_iff hpattern,
    Option.all_some, List.contains_iff_mem]

/-- The pattern of a line has a place in a URL, and its domain is among the keys, if the host lies within the domain. -/
theorem HostLine.place_iff (l : HostLine) (u : HostUrl) :
    Nonempty (HostPlace l.name u.text) ∧ lower l.name ∈ Host.keys u.text ↔ u.host.IsWithin l.domain := by
  rw [u.place_iff l.isPlain_name l.dot_mem_name, DomainName.isWithin_iff, l.lower_name]

/-- Without errors in a list, every line reads as a rule or is passed over. -/
theorem FilterList.exists_read_eq_ok {text : Text} {source : SourceList} (h : (FilterList.read text source).errors = [])
    {line : Text} (hline : line ∈ Text.lines text) : ∃ o, Rule.read line source 1 = .ok o := by
  -- the number of the line does not matter
  obtain ⟨i, hi, rfl⟩ := List.mem_iff_getElem.1 hline
  have hmem : ((Text.lines text)[i], 1 + i) ∈ (Text.lines text).zipIdx 1 := by
    rw [List.mk_add_mem_zipIdx_iff_getElem?]
    exact List.getElem?_eq_getElem hi
  simp only [FilterList.read, List.filterMap_eq_nil_iff, List.mem_map, forall_exists_index, and_imp,
    forall_apply_eq_imp_iff₂] at h
  have hread := h _ hmem
  unfold LineOutcome.read at hread
  cases ho : Rule.read (Text.lines text)[i] source (1 + i) with
  | error f =>
    rw [ho] at hread
    cases hread
  | ok o =>
    rw [Rule.read_number _ source 1 (1 + i), ho]
    exact ⟨_, rfl⟩

section

variable {text : Text} {source : SourceList} {lines : List HostLine} (hlines : Text.lines text = lines.map HostLine.text)

include hlines

private theorem onLines_iff {r : Rule} : OnLines source (Text.lines text) r ↔
    ∃ l ∈ lines, RuleContext.domainRule ⟨l.isException, source, 1⟩ l.name = .ok r := by
  simp only [OnLines, hlines, List.mem_map, exists_exists_and_eq_and, HostLine.read_text]
  refine exists_congr fun l => and_congr_right fun _ => ?_
  cases RuleContext.domainRule ⟨l.isException, source, 1⟩ l.name with
  | error f => simp [Except.map]
  | ok r' => simp [Except.map]

private theorem badfilter_of_onLines {r : Rule} (h : OnLines source (Text.lines text) r) : r.flags.badfilter = false := by
  obtain ⟨l, -, hr⟩ := (onLines_iff hlines).1 h
  rw [(RuleContext.domainRule_eq_ok hr).2.1]

private theorem finds_iff_place (herrors : (FilterList.read text source).errors = []) (isException : Bool) (url : Text) :
    Finds (OnLines source (Text.lines text)) isException { url } ↔ ∃ l ∈ lines, l.isException = isException ∧
      Nonempty (HostPlace l.name url) ∧ lower l.name ∈ Host.keys url := by
  constructor
  · rintro ⟨r, hr, hkind, -, -, hfound⟩
    obtain ⟨l, hl, hr⟩ := (onLines_iff hlines).1 hr
    exact ⟨l, hl, (RuleContext.domainRule_eq_ok hr).1.symm.trans hkind,
      (RuleContext.isFound_domainRule l.isPlain_name hr).1 hfound⟩
  · rintro ⟨l, hl, hkind, hplace⟩
    have hmem : l.text ∈ Text.lines text := hlines ▸ List.mem_map_of_mem hl
    obtain ⟨o, ho⟩ := FilterList.exists_read_eq_ok herrors hmem
    rw [HostLine.read_text] at ho
    cases hr : RuleContext.domainRule ⟨l.isException, source, 1⟩ l.name with
    | error f =>
      rw [hr] at ho
      cases ho
    | ok r =>
      have hon : OnLines source (Text.lines text) r := (onLines_iff hlines).2 ⟨l, hl, hr⟩
      refine ⟨r, hon, (RuleContext.domainRule_eq_ok hr).1.trans hkind, badfilter_of_onLines hlines hon, ?_,
        (RuleContext.isFound_domainRule l.isPlain_name hr).2 hplace⟩
      intro b hb hbad
      rw [badfilter_of_onLines hlines hb] at hbad
      cases hbad

private theorem finds_iff (herrors : (FilterList.read text source).errors = []) (isException : Bool) (u : HostUrl) :
    Finds (OnLines source (Text.lines text)) isException { url := u.text } ↔
      ∃ l ∈ lines, l.isException = isException ∧ u.host.IsWithin l.domain := by
  simp only [finds_iff_place hlines herrors, HostLine.place_iff]

/-- Without errors, a list of plain hosts blocks a string exactly if the pattern of a blocking line has a place in it, with
the domain among the keys, and the pattern of no exception has. -/
theorem CompiledList.blocked_iff_place (herrors : (CompiledList.read text source).errors = []) (url : Text) :
    ((CompiledList.read text source).rules.decision { url }).blocked = true ↔
      (∃ l ∈ lines, l.isException = false ∧ Nonempty (HostPlace l.name url) ∧ lower l.name ∈ Host.keys url) ∧
        ¬∃ l ∈ lines, l.isException = true ∧ Nonempty (HostPlace l.name url) ∧ lower l.name ∈ Host.keys url := by
  rw [RuleSet.decision, decideBy_blocked, RuleSet.block?, RuleSet.exception?, isSome_first?_iff, Bool.eq_false_iff, ne_eq,
    isSome_first?_iff, finds_iff_place hlines herrors, finds_iff_place hlines herrors]

end

/-- A list of plain hosts without faulty lines blocks a URL exactly if the URL's host lies within the domain of a blocking
line and within the domain of no exception. -/
theorem CompiledList.blocked_iff_isWithin {text : Text} {source : SourceList} {lines : List HostLine}
    (hlines : Text.lines text = lines.map HostLine.text) (herrors : (CompiledList.read text source).errors = [])
    (u : HostUrl) : ((CompiledList.read text source).rules.decision { url := u.text }).blocked = true ↔
      (∃ l ∈ lines, l.isException = false ∧ u.host.IsWithin l.domain) ∧
        ¬∃ l ∈ lines, l.isException = true ∧ u.host.IsWithin l.domain := by
  rw [RuleSet.decision, decideBy_blocked, RuleSet.block?, RuleSet.exception?, isSome_first?_iff, Bool.eq_false_iff, ne_eq,
    isSome_first?_iff, finds_iff hlines herrors, finds_iff hlines herrors]

/-- A domain in a hosts file, and a host below it as an exception. -/
def sampleLines : List HostLine :=
  [.hostsFile ⟨0, 0, 0, 0⟩ [' '] (.ofLabels ["Ads".toList, "io".toList] (by decide) (by decide)) (by simp) (by simp),
    .exception (.ofLabels ["ok".toList, "ads".toList, "io".toList] (by decide) (by decide))]

/-- `https://x.aDs.io:80/?u=ok.ads.io` -/
def sampleUrl : HostUrl where
  scheme := some "https".toList
  host := .ofLabels ["x".toList, "aDs".toList, "io".toList] (by decide) (by decide)
  port := some "80".toList
  tail := "/?u=ok.ads.io".toList
  isScheme := by
    rintro _ ⟨⟩
    exact ⟨'h', "ttps".toList, rfl, rfl, by simp [isAlnum]⟩
  isPort := by
    rintro _ ⟨⟩
    simp
  isTail := by
    rintro _ ⟨⟩
    rfl

/-- The exception is only in the query of the URL, so the URL is blocked. -/
theorem CompiledList.blocked_sampleUrl :
    Text.lines (join ['\n'] (sampleLines.map HostLine.text)) = sampleLines.map HostLine.text ∧
      (CompiledList.read (join ['\n'] (sampleLines.map HostLine.text)) .easyList).errors = [] ∧
      ((CompiledList.read (join ['\n'] (sampleLines.map HostLine.text)) .easyList).rules.decision
        { url := sampleUrl.text }).blocked = true := by
  have hlines := lines_join (sampleLines.map HostLine.text) (by decide)
  have herrors : (CompiledList.read (join ['\n'] (sampleLines.map HostLine.text)) .easyList).errors = [] := by
    decide +kernel
  exact ⟨hlines, herrors, (CompiledList.blocked_iff_isWithin hlines herrors sampleUrl).2 (by decide)⟩

/-- The domain `ok.io` -/
def okDomain : DomainName := .ofLabels ["ok".toList, "io".toList] (by decide) (by decide)

theorem CompiledList.blocked_okLine_iff {url : Text} :
    ((CompiledList.read "||ok.io^".toList .easyList).rules.decision { url }).blocked = true ↔
      Nonempty (HostPlace okDomain.text url) ∧ lower okDomain.text ∈ Host.keys url := by
  have hlines : Text.lines "||ok.io^".toList = [HostLine.block okDomain].map HostLine.text := by decide +kernel
  have herrors : (CompiledList.read "||ok.io^".toList .easyList).errors = [] := by decide +kernel
  rw [blocked_iff_place hlines herrors]
  simp [HostLine.isException, HostLine.name]

theorem CompiledList.blocked_okUrl : ((CompiledList.read "||ok.io^".toList .easyList).rules.decision
    { url := "https://ok.io/".toList }).blocked = true := by
  have hplace := ((HostLine.block okDomain).place_iff (.https okDomain ['/'] (by simp [Host.endsAuthority]))).2 (by decide)
  exact blocked_okLine_iff.2 hplace

end TrackerAudit
