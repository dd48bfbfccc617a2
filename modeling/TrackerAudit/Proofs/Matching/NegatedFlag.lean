import Mathlib.Data.List.Pairwise
import TrackerAudit.Matching.RuleSet
import TrackerAudit.Proofs.Rule.Accounting
import TrackerAudit.Proofs.Rule.FlagOption
import TrackerAudit.Proofs.Rule.Places

/-!
# Negated options for flags

A reduced list of rules in the order of their lines keeps the rules that stay and have no copy on an earlier line
(`mem_reduce_iff`). So where a line turns into a `badfilter` rule, the list loses the rule of the line and the rules that say
the same as the new one, and no others (`TurnsOff.mem_reduce_iff`). An option for a flag sets it also after `~`. So the
option `~badfilter` has this effect, and `~match-case` makes case matter (`FlaggedOptions.effects_negated`).
-/

namespace TrackerAudit

open Text

/-! ### What a list keeps, by lines -/

section

variable {rules rules' : List Rule} {number : Nat} {a : Rule}

/-- Of rules on different lines, in their order, those are kept that stay and have no copy on an earlier line that does. -/
theorem mem_reduce_iff (h : (rules.map Rule.line).Pairwise (· < ·)) : a ∈ reduce rules ↔
    a ∈ rules ∧ a.Stays rules ∧ ∀ b ∈ rules, b.Stays rules → b.key = a.key → a.line ≤ b.line := by
  have hlines := List.pairwise_iff_get.1 (List.pairwise_map.1 h)
  rw [reduce_eq, List.mem_map]
  constructor
  · rintro ⟨i, hi, rfl⟩
    obtain ⟨hstays, hfirst⟩ := mem_keptPlaces.1 hi
    refine ⟨List.get_mem _ _, of_decide_eq_true hstays, fun b hb hbstays hkey => ?_⟩
    obtain ⟨j, rfl⟩ := List.get_of_mem hb
    rcases lt_trichotomy i j with hij | rfl | hji
    · exact (hlines i j hij).le
    · exact le_rfl
    · exact absurd hkey (hfirst j hji (decide_eq_true hbstays))
  · rintro ⟨hmem, hstays, hfirst⟩
    obtain ⟨i, rfl⟩ := List.get_of_mem hmem
    refine ⟨i, mem_keptPlaces.2 ⟨decide_eq_true hstays, fun j hji hj hkey => ?_⟩, rfl⟩
    have hle := hfirst _ (List.get_mem _ _) (of_decide_eq_true hj) hkey
    exact absurd (hlines j i hji) (Nat.not_lt.2 hle)

/-- The lists differ on one line at most, where the second has `badfilter` rules at most and the first none. -/
structure TurnsOff (number : Nat) (rules rules' : List Rule) : Prop where
  others : ∀ r : Rule, r.line ≠ number → (r ∈ rules' ↔ r ∈ rules)
  before : ∀ r ∈ rules, r.line = number → r.flags.badfilter = false
  after : ∀ r ∈ rules', r.line = number → r.flags.badfilter = true

namespace TurnsOff

variable (h : TurnsOff number rules rules')

include h

theorem line_ne_of_stays (hmem : a ∈ rules') (ha : a.Stays rules') : a.line ≠ number := by
  intro hline
  rw [Rule.Stays, h.after a hmem hline] at ha
  cases ha.1

/-- The rules that stay are those that stayed before and are not named from the line. -/
theorem stays_iff : a.Stays rules' ↔ a.Stays rules ∧ ∀ r ∈ rules', r.line = number → ¬r.SaysAs a := by
  constructor
  · rintro ⟨hflag, hnamed⟩
    refine ⟨⟨hflag, fun b hb hbad => ?_⟩, fun r hr hline => hnamed r hr (h.after r hr hline)⟩
    have hline : b.line ≠ number := by
      intro hline
      rw [h.before b hb hline] at hbad
      cases hbad
    exact hnamed b ((h.others b hline).2 hb) hbad
  · rintro ⟨⟨hflag, hnamed⟩, hline⟩
    refine ⟨hflag, fun b hb hbad => ?_⟩
    by_cases hb' : b.line = number
    · exact hline b hb hb'
    · exact hnamed b ((h.others b hb').1 hb) hbad

/-- A rule on another line that was kept is kept exactly if it is not named from the line. -/
theorem mem_reduce_iff (hrules : (rules.map Rule.line).Pairwise (· < ·)) (hrules' : (rules'.map Rule.line).Pairwise (· < ·))
    (ha : a ∈ reduce rules) (hline : a.line ≠ number) :
    a ∈ reduce rules' ↔ ∀ r ∈ rules', r.line = number → ¬r.SaysAs a := by
  obtain ⟨hmem, hstays, hfirst⟩ := (TrackerAudit.mem_reduce_iff hrules).1 ha
  rw [TrackerAudit.mem_reduce_iff hrules', h.stays_iff]
  constructor
  · rintro ⟨-, ⟨-, hnamed⟩, -⟩
    exact hnamed
  · intro hnamed
    refine ⟨(h.others a hline).2 hmem, ⟨hstays, hnamed⟩, fun b hb hbstays hkey => ?_⟩
    exact hfirst b ((h.others b (h.line_ne_of_stays hb hbstays)).1 hb) (h.stays_iff.1 hbstays).1 hkey

end TurnsOff

end

/-! ### Replacing a line -/

/-- The line at a place of the first text is replaced by another one in the second; no other line changes. -/
structure ReplacesLine (i : Nat) (line line' text text' : Text) : Prop where
  old : (Text.lines text)[i]? = some line
  new : Text.lines text' = (Text.lines text).set i line'

theorem ReplacesLine.getElem?_new {i : Nat} {line line' text text' : Text} (h : ReplacesLine i line line' text text') :
    (Text.lines text')[i]? = some line' := by
  obtain ⟨hi, -⟩ := List.getElem?_eq_some_iff.1 h.old
  rw [h.new, List.getElem?_set_self hi]

namespace FilterList

variable {text text' line line' : Text} {source : SourceList} {r : Rule}

theorem ascending_rules (text : Text) (source : SourceList) : ((read text source).rules.map Rule.line).Pairwise (· < ·) := by
  rw [read_eq]
  exact (isAccounted_ofLines source _).rules.ascending

/-- The rules of a list are those of its lines, under their numbers. -/
theorem mem_rules_iff : r ∈ (read text source).rules ↔
    1 ≤ r.line ∧ ∃ line, (Text.lines text)[r.line - 1]? = some line ∧ Rule.read line source r.line = .ok (some r) := by
  rw [mem_rules, Prod.exists]
  constructor
  · rintro ⟨line, n, hx, hr⟩
    obtain ⟨hle, hline⟩ := List.mk_mem_zipIdx_iff_le_and_getElem?_sub.1 hx
    obtain rfl := Rule.line_of_read hr
    exact ⟨hle, line, hline, hr⟩
  · rintro ⟨hle, line, hline, hr⟩
    exact ⟨line, r.line, List.mk_mem_zipIdx_iff_le_and_getElem?_sub.2 ⟨hle, hline⟩, hr⟩

theorem mem_rules_of_line {i : Nat} (hline : (Text.lines text)[i]? = some line) (hr : r.line = i + 1) :
    r ∈ (read text source).rules ↔ Rule.read line source (i + 1) = .ok (some r) := by
  rw [mem_rules_iff, hr, Nat.add_sub_cancel, hline]
  simp

variable {i : Nat} (h : ReplacesLine i line line' text text')

include h

theorem turnsOff (hold : ∀ r, Rule.read line source (i + 1) = .ok (some r) → r.flags.badfilter = false)
    (hnew : ∀ r, Rule.read line' source (i + 1) = .ok (some r) → r.flags.badfilter = true) :
    TurnsOff (i + 1) (read text source).rules (read text' source).rules where
  others r hr := by
    rw [mem_rules_iff, mem_rules_iff, h.new]
    refine and_congr_right fun hle => ?_
    rw [List.getElem?_set_ne (by omega)]
  before r hmem hr := hold r ((mem_rules_of_line h.old hr).1 hmem)
  after r hmem hr := hnew r ((mem_rules_of_line h.getElem?_new hr).1 hmem)

end FilterList

theorem CompiledList.toList_rules (text : Text) (source : SourceList) : (read text source).rules.rules.toList =
    (keptPlaces (FilterList.read text source).rules).map (FilterList.read text source).rules.get := reduce_eq _

/-! ### Negated options -/

/-- An option for a flag does with `~` before its name what it does without: the line reads as the same rule, and the options
say what the others say, with the flag and up to the domains. Rules with the others lack the flag if none of these is for it,
and all rules with the option have it. A line that gets an option `~badfilter` in this way loses its rule, and of the rules
on other lines that were kept exactly those are lost that say the same as the rule with the option. -/
theorem FlaggedOptions.effects_negated (o : FlaggedOptions) (source : SourceList) :
    (looksLikeOptions (o.text false) = true → ∀ (pattern : Text) (number : Nat),
      Rule.read (pattern ++ '$' :: o.text true) source number = Rule.read (pattern ++ '$' :: o.text false) source number) ∧
    (RuleOptions.read (o.text true)).map RuleOptions.withoutDomains =
      (RuleOptions.read o.otherText).map (fun p => (o.flag.mark p).withoutDomains) ∧
    (o.flag.option ∉ RuleOption.ofTexts (o.before ++ o.after) →
      ∀ r : Rule, r.Carries (o.before ++ o.after) → ¬o.flag.IsOn r.flags) ∧
    (∀ r : Rule, r.Carries (o.texts true) → o.flag.IsOn r.flags) ∧
    (o.flag = .badfilter → ∀ (i : Nat) (line line' text text' : Text), ReplacesLine i line line' text text' →
      lineOptions? line' = some (o.texts true) →
      (∀ r, Rule.read line source (i + 1) = .ok (some r) → r.flags.badfilter = false) →
      (∀ a ∈ (CompiledList.read text' source).rules.rules, a.line ≠ i + 1) ∧
      ∀ a ∈ (CompiledList.read text source).rules.rules, a.line ≠ i + 1 →
        (a ∈ (CompiledList.read text' source).rules.rules ↔
          ∀ r, Rule.read line' source (i + 1) = .ok (some r) → ¬r.SaysAs a)) := by
  refine ⟨fun hlooks pattern number => ?_, o.read_text true, fun hother r hr hon => ?_, fun r => o.isOn true,
    fun hflag i line line' text text' hreplaced hoptions hold => ?_⟩
  · exact Rule.read_congr_options (o.looksLikeOptions_text hlooks) hlooks o.read_text_negated pattern source number
  · exact hother ((hr.isOn_iff o.flag).1 hon)
  · have hnew : ∀ r, Rule.read line' source (i + 1) = .ok (some r) → r.flags.badfilter = true := by
      intro r hr
      have hon := o.isOn true ⟨line', source, i + 1, hr, hoptions⟩
      rw [hflag] at hon
      exact hon
    have hturns := FilterList.turnsOff hreplaced hold hnew
    have hrules := FilterList.ascending_rules text source
    have hrules' := FilterList.ascending_rules text' source
    constructor
    · intro a ha
      obtain ⟨hmem, hstays, -⟩ := (mem_reduce_iff hrules').1 (List.mem_toArray.1 ha)
      exact hturns.line_ne_of_stays hmem hstays
    · intro a ha hline
      have hkept := hturns.mem_reduce_iff hrules hrules' (List.mem_toArray.1 ha) hline
      refine (List.mem_toArray.trans hkept).trans ?_
      constructor
      · intro hnamed r hr
        have hnumber := Rule.line_of_read hr
        exact hnamed r ((FilterList.mem_rules_of_line hreplaced.getElem?_new hnumber).2 hr) hnumber
      · intro hnamed r hmem hnumber
        exact hnamed r ((FilterList.mem_rules_of_line hreplaced.getElem?_new hnumber).1 hmem)

/-- The option `BadFilter` between two others. -/
def mixedFlagged : FlaggedOptions where
  flag := .badfilter
  name := "BadFilter".toList
  before := ["3p".toList]
  after := ["script".toList]
  named := by decide +kernel
  separate := by decide +kernel

/-- A rule on two lines, and one more rule. -/
def mixedKept : Text := "/x$script,3p\n/x$3p,script\n/y".toList

/-- The lines with `~BadFilter` on the second. -/
def mixedLost : Text := "/x$script,3p\n/x$3p,~BadFilter,script\n/y".toList

/-- The option takes the rule on the first line out of the list, and leaves the one on the third. -/
theorem FlaggedOptions.effects_negated_mixed : looksLikeOptions (mixedFlagged.text false) = true ∧
    "/x$3p,~BadFilter,script".toList = "/x".toList ++ '$' :: mixedFlagged.text true ∧
    Rule.read ("/x".toList ++ '$' :: mixedFlagged.text true) .easyList 2 =
      Rule.read ("/x".toList ++ '$' :: mixedFlagged.text false) .easyList 2 ∧
    mixedFlagged.flag.option ∉ RuleOption.ofTexts (mixedFlagged.before ++ mixedFlagged.after) ∧
    (∀ r, Rule.read "/x$3p,script".toList .easyList 2 = .ok (some r) → r.flags.badfilter = false) ∧
    (∃ r, Rule.read "/x$3p,~BadFilter,script".toList .easyList 2 = .ok (some r) ∧ r.flags.badfilter = true) ∧
    ReplacesLine 1 "/x$3p,script".toList "/x$3p,~BadFilter,script".toList mixedKept mixedLost ∧
    ∃ a ∈ (CompiledList.read mixedKept .easyList).rules.rules, ∃ b ∈ (CompiledList.read mixedKept .easyList).rules.rules,
      a.line = 1 ∧ b.line = 3 ∧ a ∉ (CompiledList.read mixedLost .easyList).rules.rules ∧
        b ∈ (CompiledList.read mixedLost .easyList).rules.rules := by
  obtain ⟨hread, -, hoff, hon, hlist⟩ := mixedFlagged.effects_negated .easyList
  have hlooks : looksLikeOptions (mixedFlagged.text false) = true := by decide +kernel
  have hother : mixedFlagged.flag.option ∉ RuleOption.ofTexts (mixedFlagged.before ++ mixedFlagged.after) := by
    decide +kernel
  have hreplaced : ReplacesLine 1 "/x$3p,script".toList "/x$3p,~BadFilter,script".toList mixedKept mixedLost :=
    ⟨by decide +kernel, by decide +kernel⟩
  have hoptions : lineOptions? "/x$3p,~BadFilter,script".toList = some (mixedFlagged.texts true) := by decide +kernel
  have hold : ∀ r, Rule.read "/x$3p,script".toList .easyList 2 = .ok (some r) → r.flags.badfilter = false := by
    intro r hr
    exact Bool.eq_false_iff.2 (hoff hother r ⟨_, _, _, hr, by decide +kernel⟩)
  have hrules : ∃ a ∈ (CompiledList.read mixedKept .easyList).rules.rules.toList,
      ∃ b ∈ (CompiledList.read mixedKept .easyList).rules.rules.toList, a.line = 1 ∧ b.line = 3 ∧
        (Rule.read "/x$3p,~BadFilter,script".toList .easyList 2).toOption.join.any
          (fun r => decide (r.SaysAs a ∧ ¬r.SaysAs b)) = true := by
    rw [CompiledList.toList_rules]
    decide +kernel
  obtain ⟨a, ha, b, hb, hline, hline', hsays⟩ := hrules
  obtain ⟨r, hr, hsays⟩ : ∃ r, Rule.read "/x$3p,~BadFilter,script".toList .easyList 2 = .ok (some r) ∧
      r.SaysAs a ∧ ¬r.SaysAs b := by
    cases hr : Rule.read "/x$3p,~BadFilter,script".toList .easyList 2 with
    | error f => rw [hr] at hsays; cases hsays
    | ok r? =>
      cases r? with
      | none => rw [hr] at hsays; cases hsays
      | some r => rw [hr] at hsays; exact ⟨r, rfl, of_decide_eq_true hsays⟩
  rw [Array.mem_toList_iff] at ha hb
  obtain ⟨-, hkept⟩ := hlist rfl 1 _ _ _ _ hreplaced hoptions hold
  refine ⟨hlooks, by decide +kernel, hread hlooks _ 2, hother, hold, ⟨r, hr, hon r ⟨_, _, _, hr, hoptions⟩⟩, hreplaced,
    a, ha, b, hb, hline, hline', ?_, ?_⟩
  · rw [hkept a ha (by omega)]
    exact fun hnamed => hnamed r hr hsays.1
  · rw [hkept b hb (by omega)]
    intro r' hr'
    rw [hr] at hr'
    cases hr'
    exact hsays.2

/-- The option `~match-case` makes case matter, and the option `~badfilter` on the second of two lines with the same rule
takes the rule out of the list, which keeps it without the option. -/
theorem FlaggedOptions.rules_ne_negated :
    (Rule.read "/Ad".toList .easyList 1).map (Option.map (·.flags.matchCase)) = .ok (some false) ∧
    (Rule.read "/Ad$~match-case".toList .easyList 1).map (Option.map (·.flags.matchCase)) = .ok (some true) ∧
    (CompiledList.read "/x\n/x".toList .easyList).rules.rules.toList.map Rule.line = [1] ∧
    (CompiledList.read "/x\n/x$~badfilter".toList .easyList).rules.rules.toList.map Rule.line = [] := by
  rw [CompiledList.toList_rules, CompiledList.toList_rules]
  decide +kernel

end TrackerAudit
