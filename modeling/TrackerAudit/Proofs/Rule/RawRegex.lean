import TrackerAudit.Proofs.Rule.Domains
import TrackerAudit.Proofs.Rule.OptionText

/-!
# Regular expressions between slashes

A line that starts and ends with a slash is a regular expression, unless what follows its last `$` can be options: options
are cut off before the slashes are looked at, and a slash may stand in options (`Rule.read_slashed`).
-/

namespace TrackerAudit

open Text

/-! ### Lines that start with a slash -/

namespace Host

private theorem readNumber?_slash (base most : Nat) (leadingZeros : Bool) (s : Text) :
    readNumber? base most leadingZeros ('/' :: s) = none := by
  have hdigit : digitIn? base '/' = none := rfl
  simp [readNumber?, List.span_eq_takeWhile_dropWhile, hdigit]

/-- No address starts with a slash. -/
theorem isAddress_slash (s : Text) : isAddress ('/' :: s) = false := by
  have hfour : readFour? ('/' :: s) = none := by
    rw [readFour?, readOctet?, readNumber?_slash]
    rfl
  have hgroups : readGroups 8 true ('/' :: s) = (0, false, '/' :: s) := by
    rw [readGroups]
    simp [hfour, readNumber?_slash]
  rw [isAddress, hfour, hgroups]
  rfl

end Host

/-- The text between slashes. -/
def slashed (body : Text) : Text := '/' :: (body ++ ['/'])

section

variable (body : Text)

private theorem trim_slashed : trim (slashed body) = slashed body := by
  refine trimBy_of_ends ?_ ?_
  · intro c hc
    obtain rfl : '/' = c := Option.some.inj hc
    decide
  · intro c hc
    rw [slashed, ← List.cons_append, List.getLast?_concat] at hc
    obtain rfl : '/' = c := Option.some.inj hc
    decide

private theorem hostsFileDomain?_slash (s : Text) : hostsFileDomain? ('/' :: s) = none := by
  obtain ⟨w, ws, hwords⟩ := exists_words_cons (c := '/') (by decide) s
  rw [hostsFileDomain?, hwords]
  cases ws with
  | nil => rfl
  | cons domain ws => simp [Host.isAddress_slash]

/-- A mark of rules about page elements has no slash, so it stands between the slashes. -/
private theorem isElementRule_slashed : isElementRule (slashed body) = isElementRule body := by
  have hmarks : ∀ mark ∈ elementMarks, mark.getLast? = some '#' ∧ mark.head? = some '#' := by decide
  rw [isElementRule, isElementRule, Bool.eq_iff_iff, List.any_eq_true, List.any_eq_true]
  refine exists_congr fun mark => and_congr_right fun hmark => ?_
  obtain ⟨hlast, hhead⟩ := hmarks mark hmark
  obtain ⟨tail, rfl⟩ := List.head?_eq_some_iff.1 hhead
  have hcut : cutStart? ('#' :: tail) (slashed body) = none := rfl
  rw [slashed, includes, ← slashed, hcut, Option.isSome_none, Bool.false_or,
    includes_append_of_not_mem hlast (by decide)]

private theorem rawRegex?_slashed {body : Text} (hne : body ≠ []) : rawRegex? (slashed body) = some body := by
  have hlength : 2 < (slashed body).length := by
    have := List.length_pos_of_ne_nil hne
    simp only [slashed, List.length_cons, List.length_append, List.length_nil]
    omega
  have hstart : cutStart? ['/'] (slashed body) = some (body ++ ['/']) := cutStart?_eq_some.2 rfl
  have hend : cutEnd? ['/'] (body ++ ['/']) = some body := cutEnd?_eq_some.2 rfl
  rw [rawRegex?, if_pos hlength, hstart, Option.bind_some, hend]

end

/-! ### Lines that end in options -/

/-- What follows a `$` of the text can be options. -/
def EndsInOptions (s : Text) : Prop :=
  ∃ pattern options, s = pattern ++ '$' :: options ∧ looksLikeOptions options = true

theorem splitOptions_of_not_endsInOptions {s : Text} (h : ¬EndsInOptions s) : splitOptions s = (s, none) := by
  unfold splitOptions
  cases hcut : cutLast? '$' s with
  | none => rfl
  | some cut =>
    obtain ⟨pattern, options⟩ := cut
    have hno : ¬looksLikeOptions options = true := fun hlooks => h ⟨pattern, options, (cutLast?_eq_some.1 hcut).1, hlooks⟩
    exact if_neg hno

theorem endsInOptions_iff {s : Text} : EndsInOptions s ↔ (splitOptions s).2.isSome = true := by
  constructor
  · rintro ⟨pattern, options, rfl, hlooks⟩
    rw [splitOptions_options hlooks]
    rfl
  · intro h
    by_contra hno
    rw [splitOptions_of_not_endsInOptions hno] at h
    cases h

instance (s : Text) : Decidable (EndsInOptions s) := decidable_of_iff _ endsInOptions_iff.symm

/-! ### Regular expressions -/

/-- The rule blocks what a regular expression matches, without any restriction. -/
structure Rule.IsRegex (r : Rule) (body : Text) (source : SourceList) (number : Nat) : Prop where
  isException : r.isException = false
  flags : r.flags = { rawRegex := true }
  text : r.text = slashed body
  body : r.pattern.source = body
  matchCase : r.pattern.matchCase = false
  types : r.types = 0
  party : r.party = 0
  domains : r.domains = none
  source : r.source = source
  line : r.line = number

theorem Pattern.ofSource_eq_ok {source : Text} (matchCase : Bool) {regex : Regex}
    (h : Regex.read (!matchCase) source = .ok regex) : ofSource source matchCase = .ok ⟨source, matchCase, regex, h⟩ := by
  unfold ofSource
  split
  · rename_i regex' h'
    rw [h] at h'
    cases h'
    rfl
  · rename_i f h'
    rw [h] at h'
    cases h'

theorem Pattern.ofSource_eq_error {source : Text} (matchCase : Bool) {f : Regex.Fault}
    (h : Regex.read (!matchCase) source = .error f) : ofSource source matchCase = .error f := by
  unfold ofSource
  split
  · rename_i regex h'
    rw [h] at h'
    cases h'
  · rename_i f' h'
    rw [h] at h'
    cases h'
    rfl

section

variable {body : Text} (hmarks : isElementRule body = false) (source : SourceList) (number : Nat)

include hmarks

private theorem read_slashed_eq : Rule.read (slashed body) source number =
    (RuleContext.patternRule ⟨false, source, number⟩ (slashed body)).map some := by
  have hignored : isIgnored (slashed body) = false := by
    rw [isIgnored, isElementRule_slashed, hmarks]
    rfl
  have hcut : cutException (slashed body) = (false, slashed body) := rfl
  have hhosts : hostsFileDomain? (slashed body) = none := hostsFileDomain?_slash _
  rw [Rule.read_eq, trim_slashed, hignored, hcut, RuleContext.lineRule, hhosts]
  rfl

private theorem read_slashed_of_not_endsInOptions (hne : body ≠ []) (hoptions : ¬EndsInOptions (slashed body)) :
    Rule.read (slashed body) source number =
      (RuleContext.rule ⟨false, source, number⟩ (slashed body) { rawRegex := true } {}
        (Pattern.ofSource body false)).map some := by
  have hsplit := splitOptions_of_not_endsInOptions hoptions
  rw [read_slashed_eq hmarks, RuleContext.patternRule_eq, hsplit, trim_slashed]
  change (RuleContext.ruleOf _ (slashed body) {}).map some = _
  rw [RuleContext.ruleOf, rawRegex?_slashed hne]

/-- With options cut off, the text of the rule is shorter than the line. -/
private theorem text_ne_slashed (hoptions : EndsInOptions (slashed body)) {r : Rule}
    (h : Rule.read (slashed body) source number = .ok (some r)) : r.text ≠ slashed body := by
  obtain ⟨pattern, options, hline, hlooks⟩ := hoptions
  have hsplit := splitOptions_options hlooks pattern
  rw [← hline] at hsplit
  rw [read_slashed_eq hmarks, RuleContext.patternRule_eq, hsplit] at h
  have htext : r.text = trim pattern := by
    cases hrule : RuleContext.optionsOf (some options) >>=
        RuleContext.ruleOf ⟨false, source, number⟩ (trim pattern) with
    | error f =>
      rw [hrule] at h
      cases h
    | ok r' =>
      rw [hrule] at h
      cases h
      obtain ⟨o, -, hruleOf⟩ := except_bind_eq_ok.1 hrule
      exact (RuleContext.of_ruleOf hruleOf).1
  intro heq
  have hlonger := congrArg List.length hline
  have hshorter := length_trimBy_le isBlank pattern
  rw [← heq, htext, List.length_append, List.length_cons, trim] at hlonger
  omega

end

/-- A line that starts and ends with a slash, if what stands between can be read as a regular expression, is the rule of
that regular expression exactly if the line does not end in options. -/
theorem Rule.read_slashed {body : Text} (hne : body ≠ []) (hmarks : isElementRule body = false) (source : SourceList)
    (number : Nat) :
    (∀ regex, Regex.read true body = .ok regex →
      ((∃ r, Rule.read (slashed body) source number = .ok (some r) ∧ r.IsRegex body source number) ↔
        ¬EndsInOptions (slashed body))) ∧
      ∀ f, Regex.read true body = .error f → ¬EndsInOptions (slashed body) →
        Rule.read (slashed body) source number = .error (.pattern f) := by
  constructor
  · intro regex hregex
    constructor
    · rintro ⟨r, hr, hregexRule⟩ hoptions
      exact text_ne_slashed hmarks source number hoptions hr hregexRule.text
    · intro hoptions
      have hread := read_slashed_of_not_endsInOptions hmarks source number hne hoptions
      rw [Pattern.ofSource_eq_ok false hregex] at hread
      exact ⟨_, hread, rfl, rfl, rfl, rfl, rfl, rfl, rfl, rfl, rfl, rfl⟩
  · intro f hf hoptions
    rw [read_slashed_of_not_endsInOptions hmarks source number hne hoptions, Pattern.ofSource_eq_error false hf]
    rfl

/-- An alternative at the end of the request, and one with the other characters that options have. -/
def moneyRegex : Text := "pay$|[a-z]+,~buy=\\$".toList

/-- No options follow the dollar signs of this regular expression. -/
theorem Rule.read_slashed_money : moneyRegex ≠ [] ∧ isElementRule moneyRegex = false ∧
    ∃ r, Rule.read (slashed moneyRegex) .easyList 1 = .ok (some r) ∧ r.IsRegex moneyRegex .easyList 1 := by
  have hne : moneyRegex ≠ [] := by decide +kernel
  have hmarks : isElementRule moneyRegex = false := by decide +kernel
  have hoptions : ¬EndsInOptions (slashed moneyRegex) := by decide +kernel
  have hregex : ∃ regex, Regex.read true moneyRegex = .ok regex := by
    have hok : (Regex.read true moneyRegex).isOk = true := by decide +kernel
    cases hread : Regex.read true moneyRegex with
    | error f => simp [hread, Except.isOk, Except.toBool] at hok
    | ok regex => exact ⟨regex, rfl⟩
  obtain ⟨regex, hregex⟩ := hregex
  exact ⟨hne, hmarks, ((Rule.read_slashed hne hmarks .easyList 1).1 regex hregex).2 hoptions⟩

/-- A slash may stand in options, so what follows this dollar sign is taken for them. -/
theorem Rule.rawRegex_ne_slashed : (Regex.read true "buy\\$now".toList).isOk = true ∧
    isElementRule "buy\\$now".toList = false ∧
      (Rule.read "/buy\\$now/".toList .easyList 1).map (Option.map fun r => (r.flags.rawRegex, r.text)) =
        .ok (some (false, "/buy\\".toList)) := by
  decide +kernel

end TrackerAudit
