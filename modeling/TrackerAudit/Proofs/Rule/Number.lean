import TrackerAudit.Proofs.Rule.Reduce

/-!
# Rules without their line numbers

The number of a line shows in the rule on it and nowhere else (`Rule.read_number`), and nothing that a rule says or
matches depends on it. So the rules of a list, apart from their numbers, are the rules on its lines, in whatever order
the lines stand (`FilterList.exists_mem_rules_iff`).
-/

namespace TrackerAudit

open Text

/-- The rule with another line number. -/
def Rule.onLine (r : Rule) (number : Nat) : Rule := { r with line := number }

namespace RuleContext

/-- The same line with another number. -/
def onLine (c : RuleContext) (number : Nat) : RuleContext := { c with line := number }

variable (c : RuleContext) (number : Nat)

theorem rule_onLine (text : Text) (flags : RuleFlags) (o : RuleOptions) (pattern : Except Regex.Fault Pattern) :
    (c.onLine number).rule text flags o pattern = (c.rule text flags o pattern).map (·.onLine number) := by
  cases pattern <;> rfl

theorem ruleOf_onLine (text : Text) (o : RuleOptions) :
    (c.onLine number).ruleOf text o = (c.ruleOf text o).map (·.onLine number) := by
  unfold ruleOf
  split
  · exact rule_onLine ..
  · cases PatternText.read text with
    | error f => rfl
    | ok p => exact rule_onLine ..

theorem lineRule_onLine (line : Text) :
    (c.onLine number).lineRule line = (c.lineRule line).map (·.onLine number) := by
  unfold lineRule
  split
  · exact rule_onLine ..
  · rw [patternRule_eq, patternRule_eq]
    cases optionsOf (splitOptions line).2 with
    | error f => rfl
    | ok o => exact ruleOf_onLine ..

end RuleContext

/-- Reading a line with another number gives the same rule with that number. -/
theorem Rule.read_number (raw : Text) (source : SourceList) (m n : Nat) :
    Rule.read raw source m = (Rule.read raw source n).map (Option.map (·.onLine m)) := by
  rw [Rule.read_eq, Rule.read_eq]
  split
  · rfl
  · have h := RuleContext.lineRule_onLine ⟨(cutException (trim raw)).1, source, n⟩ m (cutException (trim raw)).2
    rw [RuleContext.onLine] at h
    rw [h]
    cases RuleContext.lineRule ⟨(cutException (trim raw)).1, source, n⟩ (cutException (trim raw)).2 <;> rfl

/-- The rule on one of the lines, as if every line were the first. -/
def OnLines (source : SourceList) (lines : List Text) (r : Rule) : Prop :=
  ∃ line ∈ lines, Rule.read line source 1 = .ok (some r)

/-- The rules of a list, apart from their numbers, are those on its lines. -/
theorem FilterList.exists_mem_rules_iff {text : Text} {source : SourceList} {r : Rule} :
    (∃ r' ∈ (FilterList.read text source).rules, r'.onLine 1 = r) ↔ OnLines source (Text.lines text) r := by
  simp only [FilterList.mem_rules, OnLines]
  constructor
  · rintro ⟨r', ⟨⟨line, number⟩, hx, hr'⟩, rfl⟩
    obtain ⟨-, -, hline⟩ := List.mem_zipIdx hx
    refine ⟨line, hline ▸ List.getElem_mem _, ?_⟩
    rw [Rule.read_number line source 1 number, hr']
    rfl
  · rintro ⟨line, hline, hr⟩
    obtain ⟨i, hi, rfl⟩ := List.mem_iff_getElem.1 hline
    refine ⟨r.onLine (1 + i), ⟨((Text.lines text)[i], 1 + i), ?_, ?_⟩, ?_⟩
    · rw [List.mk_add_mem_zipIdx_iff_getElem?]
      exact List.getElem?_eq_getElem hi
    · rw [Rule.read_number _ source (1 + i) 1, hr]
      rfl
    · -- a rule that was read on the first line has the number of that line
      have h := Rule.read_number (Text.lines text)[i] source 1 1
      rw [hr] at h
      exact (Option.some.inj (Except.ok.inj h)).symm

end TrackerAudit
