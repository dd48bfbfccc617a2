import TrackerAudit.Matching.Index
import TrackerAudit.Matching.Request
import TrackerAudit.Proofs.Pattern.Authority
import TrackerAudit.Rule.List

/-!
# Rules as they are read

The pattern of a rule that was read from a line is given by the text of the rule and two of its flags
(`Rule.fromText_of_read`); a line of a hosts file gives the same pattern as the line `||domain^`. So the pattern of a
rule that is filed under a host is known (`Rule.ofParts_of_text`), and where such a rule matches a request whose
authority has no strays its host is among the keys of the request (`Rule.mem_keys_of_isMatch`).
-/

namespace TrackerAudit

open Text

/-- The pattern that a text stands for, as a regular expression or as the text of a pattern. -/
def patternOf? (text : Text) (rawRegex matchCase : Bool) : Option Pattern :=
  if rawRegex then (rawRegex? text).bind fun source => (Pattern.ofSource source matchCase).toOption
  else (PatternText.read text).toOption.bind fun p => (Pattern.ofParts p.parts matchCase).toOption

/-- The pattern of a rule is that of its text. -/
def Rule.FromText (r : Rule) : Prop := patternOf? r.text r.flags.rawRegex r.flags.matchCase = some r.pattern

/-! ### The pattern of a host -/

theorem bodyParts_literal {host : Text} (hne : host ≠ []) (h : ∀ c ∈ host, Host.isNameChar c = true) :
    bodyParts (host ++ ['^']) = [.literal host, .separator] := by
  induction host with
  | nil => exact absurd rfl hne
  | cons c host ih =>
    have hc : c ≠ '*' ∧ c ≠ '^' := by
      have hname := h c (by simp)
      constructor
      · rintro rfl
        cases hname
      · rintro rfl
        cases hname
    cases host with
    | nil => simp [bodyParts, hc]
    | cons d host =>
      -- the character joins the literal that the rest starts with
      have := ih (by simp) fun x hx => h x (by simp [hx])
      rw [List.cons_append, bodyParts, this]
      · exact hc.1
      · exact hc.2

theorem PatternText.read_host {host : Text} (hne : host ≠ []) (h : ∀ c ∈ host, Host.isNameChar c = true) :
    PatternText.read ("||".toList ++ host ++ ['^']) =
      .ok ⟨{ hostAnchor := true }, [.hostAnchor, .literal host, .separator]⟩ := by
  have hcut : cutEnd? ['|'] (host ++ ['^']) = none := by
    rw [Option.eq_none_iff_forall_ne_some]
    intro l hl
    have := congrArg List.getLast? (cutEnd?_eq_some.1 hl)
    simp at this
  have hbar : (host ++ ['^']).contains '|' = false := by
    rw [Bool.eq_false_iff, ne_eq, List.contains_iff_mem, List.mem_append]
    rintro (hc | hc)
    · cases h _ hc
    · simp at hc
  have hlead : leadingAnchor ("||".toList ++ host ++ ['^']) = ({ hostAnchor := true }, [.hostAnchor], host ++ ['^']) := rfl
  rw [PatternText.read, hlead]
  simp only [hcut]
  rw [if_neg (by simp), if_neg (by rw [hbar]; exact Bool.false_ne_true), bodyParts_literal hne h]
  rfl

/-! ### Reading a rule -/

theorem RuleContext.rule_eq_ok {c : RuleContext} {text : Text} {flags : RuleFlags} {o : RuleOptions}
    {pattern : Except Regex.Fault Pattern} {r : Rule} (h : c.rule text flags o pattern = .ok r) :
    pattern = .ok r.pattern ∧ r.text = text ∧ r.flags.rawRegex = flags.rawRegex ∧ r.flags.matchCase = o.matchCase := by
  unfold RuleContext.rule at h
  split at h
  · cases h
  · cases h
    exact ⟨rfl, rfl, rfl, rfl⟩

private theorem leadingAnchor_rawRegex (s : Text) : (leadingAnchor s).1.rawRegex = false := by
  unfold leadingAnchor
  split <;> rfl

private theorem PatternText.rawRegex_of_read {s : Text} {p : PatternText} (h : PatternText.read s = .ok p) :
    p.flags.rawRegex = false := by
  have := leadingAnchor_rawRegex s
  unfold PatternText.read at h
  split at h
  rename_i hlead
  rw [hlead] at this
  split at h
  rename_i hlast
  split at h
  · cases h
  · split at h
    · cases h
    · cases h
      split at hlast <;> cases hlast <;> exact this

namespace RuleContext

variable {c : RuleContext} {line : Text} {r : Rule}

/-- The rule with a pattern text and with options that have been read. -/
def ruleOf (c : RuleContext) (text : Text) (o : RuleOptions) : Except LineFault Rule :=
  match rawRegex? text with
  | some source => c.rule text { rawRegex := true } o (Pattern.ofSource source o.matchCase)
  | none => do
    let p ← PatternText.read text
    c.rule text p.flags o (Pattern.ofParts p.parts o.matchCase)

/-- The options of a line, all of which have their default if none are written. -/
def optionsOf (options : Option Text) : Except LineFault RuleOptions :=
  match options with
  | some text => RuleOptions.read text
  | none => .ok {}

theorem patternRule_eq (c : RuleContext) (line : Text) :
    c.patternRule line = optionsOf (splitOptions line).2 >>= c.ruleOf (trim (splitOptions line).1) := by
  unfold patternRule optionsOf
  cases splitOptions line with
  | mk pattern options => cases options <;> rfl

theorem fromText_ruleOf {text : Text} {o : RuleOptions} (h : c.ruleOf text o = .ok r) : r.FromText := by
  unfold ruleOf at h
  unfold Rule.FromText patternOf?
  cases hraw : rawRegex? text with
  | some source =>
    rw [hraw] at h
    obtain ⟨hpattern, rfl, hflag, hcase⟩ := rule_eq_ok h
    rw [hflag, hcase, if_pos rfl, hraw, Option.bind_some, hpattern]
    rfl
  | none =>
    simp only [hraw] at h
    cases hp : PatternText.read text with
    | error f => rw [hp] at h; cases h
    | ok p =>
      rw [hp] at h
      obtain ⟨hpattern, rfl, hflag, hcase⟩ := rule_eq_ok h
      rw [PatternText.rawRegex_of_read hp] at hflag
      rw [hflag, hcase, if_neg Bool.false_ne_true, hp]
      simp only [Except.toOption, Option.bind_some, hpattern]

theorem fromText_patternRule (h : c.patternRule line = .ok r) : r.FromText := by
  rw [patternRule_eq] at h
  cases ho : optionsOf (splitOptions line).2 with
  | error f => rw [ho] at h; cases h
  | ok o =>
    rw [ho] at h
    exact fromText_ruleOf h

theorem fromText_domainRule {domain : Text} (hne : domain ≠ []) (hchars : ∀ d ∈ domain, Host.isNameChar d = true)
    (h : c.domainRule domain = .ok r) : r.FromText := by
  obtain ⟨hpattern, htext, hflag, hcase⟩ := rule_eq_ok h
  unfold Rule.FromText patternOf?
  rw [htext, hflag, hcase, if_neg Bool.false_ne_true, PatternText.read_host hne hchars]
  simp only [Except.toOption, Option.bind_some, hpattern]

end RuleContext

theorem isNameChar_toLower {c : Char} (h : Host.isNameChar c = true) : Host.isNameChar c.toLower = true :=
  Unicode.forall_ascii (p := fun c => Host.isNameChar c = true → Host.isNameChar c.toLower = true) (by decide)
    (ascii_of_isNameChar h) h

theorem normalDomain?_eq_some {s domain : Text} (h : normalDomain? s = some domain) :
    domain ≠ [] ∧ ∀ c ∈ domain, Host.isNameChar c = true := by
  unfold normalDomain? at h
  simp only [Bool.and_eq_true, Bool.not_eq_true', List.isEmpty_eq_false_iff, List.all_eq_true, Option.ite_none_right_eq_some,
    Option.some.injEq] at h
  obtain ⟨⟨hne, hchars⟩, rfl⟩ := h
  refine ⟨by simpa [lower] using hne, ?_⟩
  intro c hc
  obtain ⟨d, hd, rfl⟩ := List.mem_map.1 hc
  exact isNameChar_toLower (hchars d hd)

theorem normalDomain?_of_hostsFileDomain? {line domain : Text} (h : hostsFileDomain? line = some domain) :
    ∃ word, normalDomain? word = some domain := by
  unfold hostsFileDomain? at h
  split at h
  · split at h
    · exact ⟨_, h⟩
    · cases h
  · cases h

/-- Whether a line starts with the mark of exceptions, and the line without the mark. -/
def cutException (line : Text) : Bool × Text :=
  match cutStart? "@@".toList line with
  | some rest => (true, trimStart rest)
  | none => (false, line)

/-- The rule on a line without a mark of exceptions. -/
def RuleContext.lineRule (c : RuleContext) (line : Text) : Except LineFault Rule :=
  match hostsFileDomain? line with
  | some domain => c.domainRule domain
  | none => c.patternRule line

theorem Rule.read_eq (raw : Text) (source : SourceList) (number : Nat) : Rule.read raw source number =
    if isIgnored (trim raw) then .ok none
    else (RuleContext.lineRule ⟨(cutException (trim raw)).1, source, number⟩ (cutException (trim raw)).2).map some := by
  unfold Rule.read RuleContext.lineRule
  dsimp only
  split
  · rfl
  · change (match hostsFileDomain? (cutException (trim raw)).2 with
      | some domain => (RuleContext.domainRule ⟨(cutException (trim raw)).1, source, number⟩ domain).map some
      | none => (RuleContext.patternRule ⟨(cutException (trim raw)).1, source, number⟩
          (cutException (trim raw)).2).map some) = _
    split <;> rfl

theorem RuleContext.fromText_lineRule {c : RuleContext} {line : Text} {r : Rule} (h : c.lineRule line = .ok r) :
    r.FromText := by
  unfold lineRule at h
  split at h
  · rename_i domain hdomain
    obtain ⟨word, hword⟩ := normalDomain?_of_hostsFileDomain? hdomain
    obtain ⟨hne, hchars⟩ := normalDomain?_eq_some hword
    exact fromText_domainRule hne hchars h
  · exact fromText_patternRule h

theorem Rule.lineRule_of_read {raw : Text} {source : SourceList} {number : Nat} {r : Rule}
    (h : Rule.read raw source number = .ok (some r)) :
    RuleContext.lineRule ⟨(cutException (trim raw)).1, source, number⟩ (cutException (trim raw)).2 = .ok r := by
  rw [Rule.read_eq] at h
  split at h
  · cases h
  · cases hline : RuleContext.lineRule ⟨(cutException (trim raw)).1, source, number⟩ (cutException (trim raw)).2 with
    | error f => rw [hline] at h; cases h
    | ok r' => rw [hline] at h; cases h; rfl

/-- The pattern of a rule that was read is that of its text. -/
theorem Rule.fromText_of_read {raw : Text} {source : SourceList} {number : Nat} {r : Rule}
    (h : Rule.read raw source number = .ok (some r)) : r.FromText :=
  RuleContext.fromText_lineRule (Rule.lineRule_of_read h)

/-! ### Rules of a list -/

theorem FilterList.mem_rules {text : Text} {source : SourceList} {r : Rule} : r ∈ (FilterList.read text source).rules ↔
    ∃ x ∈ (Text.lines text).zipIdx 1, Rule.read x.1 source x.2 = .ok (some r) := by
  simp only [FilterList.read, List.mem_filterMap, List.mem_map]
  constructor
  · rintro ⟨_, ⟨x, hx, rfl⟩, h⟩
    refine ⟨x, hx, ?_⟩
    unfold LineOutcome.read at h
    split at h
    · rename_i hr
      cases h
      exact hr
    · cases h
    · cases h
  · rintro ⟨x, hx, h⟩
    exact ⟨_, ⟨x, hx, rfl⟩, by rw [LineOutcome.read, h]; rfl⟩

theorem FilterList.fromText (text : Text) (source : SourceList) : ∀ r ∈ (FilterList.read text source).rules, r.FromText := by
  intro r hr
  obtain ⟨x, -, hx⟩ := FilterList.mem_rules.1 hr
  exact Rule.fromText_of_read hx

/-! ### Rules that are filed under a host -/

theorem Rule.indexedHost?_eq_some {r : Rule} {key : Text} : r.indexedHost? = some key ↔
    r.flags.rawRegex = false ∧ r.flags.matchCase = false ∧
      ∃ host, r.text = "||".toList ++ host ++ ['^'] ∧ Host.IsPlain host ∧ lower host = key := by
  have hplain (host : Text) : (!host.isEmpty && host.head? != some '.' && host.getLast? != some '.' &&
      host.all fun c => isAlnum c || c == '.' || c == '-') = true ↔ Host.IsPlain host := by
    simp only [Bool.and_eq_true, Bool.not_eq_true', List.isEmpty_eq_false_iff, bne_iff_ne, List.all_eq_true]
    constructor
    · rintro ⟨⟨⟨hne, hhead⟩, hlast⟩, hchars⟩
      exact ⟨hne, hhead, hlast, hchars⟩
    · rintro ⟨hne, hhead, hlast, hchars⟩
      exact ⟨⟨⟨hne, hhead⟩, hlast⟩, hchars⟩
  have hcut (host : Text) : (cutStart? "||".toList r.text).bind (cutEnd? ['^']) = some host ↔
      r.text = "||".toList ++ host ++ ['^'] := by
    simp only [Option.bind_eq_some_iff, cutStart?_eq_some, cutEnd?_eq_some]
    constructor
    · rintro ⟨_, h, rfl⟩
      rw [h, List.append_assoc]
    · intro h
      exact ⟨host ++ ['^'], by rw [h, List.append_assoc], rfl⟩
  unfold Rule.indexedHost?
  split
  · rename_i hflags
    rw [Bool.or_eq_true] at hflags
    simp only [reduceCtorEq, false_iff]
    rintro ⟨hraw, hcase, -⟩
    rw [hraw, hcase] at hflags
    simp at hflags
  · rename_i hflags
    rw [Bool.or_eq_true, not_or, Bool.not_eq_true, Bool.not_eq_true] at hflags
    simp only [hflags, true_and]
    split
    · rename_i host hhost
      rw [hcut] at hhost
      simp only [Option.ite_none_right_eq_some, hplain, Option.some.injEq]
      constructor
      · rintro ⟨hp, rfl⟩
        exact ⟨host, hhost, hp, rfl⟩
      · rintro ⟨host', hhost', hp, rfl⟩
        obtain rfl : host = host' := by
          rw [hhost] at hhost'
          simpa using hhost'
        exact ⟨hp, rfl⟩
    · rename_i hnone
      simp only [reduceCtorEq, false_iff]
      rintro ⟨host, hhost, -, -⟩
      rw [(hcut host).2 hhost] at hnone
      cases hnone

/-- A text that starts with a bar stands for no regular expression. -/
theorem Rule.rawRegex_of_text {r : Rule} (hr : r.FromText) {host : Text} (htext : r.text = "||".toList ++ host ++ ['^']) :
    r.flags.rawRegex = false := by
  rw [Bool.eq_false_iff]
  intro hraw
  have hnone : rawRegex? r.text = none := by
    rw [htext, rawRegex?]
    exact ite_self none
  rw [Rule.FromText, patternOf?, if_pos hraw, hnone] at hr
  cases hr

/-- A rule that is no regular expression has the pattern of the parts of its text. -/
theorem Rule.exists_parts {r : Rule} (hr : r.FromText) (hraw : r.flags.rawRegex = false) :
    ∃ p, PatternText.read r.text = .ok p ∧ Pattern.ofParts p.parts r.flags.matchCase = .ok r.pattern := by
  rw [Rule.FromText, patternOf?, hraw, if_neg Bool.false_ne_true, Option.bind_eq_some_iff] at hr
  obtain ⟨p, hp, hpattern⟩ := hr
  have hok {ε α : Type} {x : Except ε α} {a : α} (h : x.toOption = some a) : x = .ok a := by
    cases x with
    | error e => cases h
    | ok b => exact congrArg _ (Option.some.inj h)
  exact ⟨p, hok hp, hok hpattern⟩

/-- The pattern of a rule with the text of a host. -/
theorem Rule.ofParts_of_text {r : Rule} (hr : r.FromText) {host : Text} (htext : r.text = "||".toList ++ host ++ ['^'])
    (hhost : Host.IsPlain host) :
    Pattern.ofParts [.hostAnchor, .literal host, .separator] r.flags.matchCase = .ok r.pattern := by
  obtain ⟨p, hp, hpattern⟩ := Rule.exists_parts hr (Rule.rawRegex_of_text hr htext)
  rw [htext, PatternText.read_host hhost.nonempty hhost.chars] at hp
  cases hp
  exact hpattern

/-- A rule that is filed under a host and matches a request has a place for the host in the request. -/
theorem Rule.exists_place_of_isMatch {r : Rule} (hr : r.FromText) {key : Text} (hkey : r.indexedHost? = some key)
    {q : Request} (h : r.isMatch q = true) : ∃ host, r.text = "||".toList ++ host ++ ['^'] ∧ Host.IsPlain host ∧
      lower host = key ∧ Nonempty (HostPlace host q.url) := by
  obtain ⟨-, hcase, host, htext, hhost, hlower⟩ := Rule.indexedHost?_eq_some.1 hkey
  have hparts := Rule.ofParts_of_text hr htext hhost
  rw [hcase] at hparts
  rw [Rule.isMatch, Bool.and_eq_true, Pattern.isMatch_host_iff hparts] at h
  exact ⟨host, htext, hhost, hlower, h.2⟩

/-- Where a rule is filed under a host and matches a request whose authority has no strays, the host is among the keys of
the request. -/
theorem Rule.mem_keys_of_isMatch {r : Rule} (hr : r.FromText) {key : Text} (hkey : r.indexedHost? = some key) {q : Request}
    (hq : Unicode.StrayFree (Host.authority q.url)) (h : r.isMatch q = true) : key ∈ Host.keys q.url := by
  obtain ⟨host, -, hhost, rfl, ⟨place⟩⟩ := Rule.exists_place_of_isMatch hr hkey h
  exact place.lower_mem_keys_of_authority hhost hq

end TrackerAudit
