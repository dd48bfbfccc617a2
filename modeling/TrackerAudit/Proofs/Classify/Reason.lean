import TrackerAudit.Proofs.Classify.Scope

/-!
# The rule that a verdict reports

Every verdict of a catalogue is one of three (`Catalogue.HasReason`). A request is blocked by a rule that matches it and
that no exception in scope is found against; it is let through by an exception that matches it and that was needed; or
it is let through by no rule, and then no list has found a blocking rule. What a single rule set decides is of the same
three kinds (`decideBy_cases`), and both scopes put their verdict together from that.
-/

namespace TrackerAudit

/-- A request is let through by no rule, let through by an exception against a block, or blocked for want of an
exception. -/
theorem decideBy_cases (block : Option Rule) (exception : Unit → Option Rule) :
    (block = none ∧ decideBy block exception = ⟨false, none⟩) ∨
    (∃ b e, block = some b ∧ exception () = some e ∧ decideBy block exception = ⟨false, some e⟩) ∨
    ∃ b, block = some b ∧ exception () = none ∧ decideBy block exception = ⟨true, some b⟩ := by
  cases block with
  | none => exact Or.inl ⟨rfl, rfl⟩
  | some b =>
    right
    cases he : exception () with
    | none => exact Or.inr ⟨b, rfl, rfl, by simp [decideBy, he]⟩
    | some e => exact Or.inl ⟨b, e, rfl, rfl, by simp [decideBy, he]⟩

namespace RuleSet

variable {s : RuleSet} {q : Request} {isException : Bool} {r : Rule}

/-- A rule that is found is one of the set, is of the kind that was looked for, and matches the request. -/
theorem of_first?_eq_some (h : s.first? isException q = some r) :
    r ∈ s.rules ∧ r.isException = isException ∧ r.isMatch q = true := by
  rw [first?_eq_find?] at h
  have hmem : r ∈ s.rules := Array.mem_toList_iff.1 (List.mem_of_find?_eq_some h)
  have hr := List.find?_some h
  rw [Bool.and_eq_true, beq_iff_eq, Rule.isFound, Bool.and_eq_true] at hr
  exact ⟨hmem, hr.1, hr.2.1⟩

end RuleSet

namespace Catalogue

variable (c : Catalogue) (q : Request)

/-- The lists whose rules count together with those of the list `s`. -/
def inScope (scope : ExceptionScope) (s : RuleSet) : List RuleSet :=
  match scope with
  | .perList => [s]
  | .global => c.sets

/-- The three forms of a verdict, each with what makes it right. -/
inductive HasReason (scope : ExceptionScope) : Decision → Prop
  /-- a blocking rule matches, and no list in scope has found an exception -/
  | block (s : RuleSet) (hs : s ∈ c.sets) (r : Rule) (hr : r ∈ s.rules) (kind : r.isException = false)
    (isMatch : r.isMatch q = true) (noException : ∀ t ∈ c.inScope scope s, t.exception? q = none) :
    HasReason scope ⟨true, some r⟩
  /-- an exception matches, and so does a blocking rule of a list in scope -/
  | exception (s : RuleSet) (hs : s ∈ c.sets) (e : Rule) (he : e ∈ s.rules) (kind : e.isException = true)
    (isMatch : e.isMatch q = true)
    (isNeeded : ∃ t ∈ c.inScope scope s, ∃ b ∈ t.rules, b.isException = false ∧ b.isMatch q = true) :
    HasReason scope ⟨false, some e⟩
  /-- no list has found a blocking rule -/
  | noBlock (h : ∀ s ∈ c.sets, s.block? q = none) : HasReason scope ⟨false, none⟩

variable {c q}

/-- What a list decides by a rule, it decides for a reason if exceptions hold for their own list only; else it has found
no blocking rule. -/
theorem hasReason_decision {s : RuleSet} (hs : s ∈ c.sets) :
    (s.block? q = none ∧ s.decision q = ⟨false, none⟩) ∨
      ∃ r, (s.decision q).rule = some r ∧ c.HasReason q .perList (s.decision q) := by
  unfold RuleSet.decision
  rcases decideBy_cases (s.block? q) fun _ => s.exception? q with ⟨hb, hd⟩ | ⟨b, e, hb, he, hd⟩ | ⟨b, hb, he, hd⟩
  · exact Or.inl ⟨hb, hd⟩
  · rw [hd]
    obtain ⟨hbmem, hbkind, hbmatch⟩ := RuleSet.of_first?_eq_some hb
    obtain ⟨hmem, hkind, hmatch⟩ := RuleSet.of_first?_eq_some he
    exact Or.inr ⟨e, rfl, .exception s hs e hmem hkind hmatch ⟨s, List.mem_singleton_self s, b, hbmem, hbkind, hbmatch⟩⟩
  · rw [hd]
    obtain ⟨hmem, hkind, hmatch⟩ := RuleSet.of_first?_eq_some hb
    refine Or.inr ⟨b, rfl, .block s hs b hmem hkind hmatch fun t ht => ?_⟩
    obtain rfl := List.mem_singleton.1 ht
    exact he

theorem hasReason_judgePerList : c.HasReason q .perList (c.judgePerList q) := by
  unfold judgePerList
  dsimp only
  cases hfind : (c.sets.map (·.decision q)).find? (·.blocked) with
  | some d =>
    have hblocked := List.find?_some hfind
    obtain ⟨s, hs, rfl⟩ := List.mem_map.1 (List.mem_of_find?_eq_some hfind)
    rcases hasReason_decision (q := q) hs with ⟨-, hd⟩ | ⟨r, -, hreason⟩
    · rw [hd] at hblocked
      cases hblocked
    · exact hreason
  | none =>
    -- no list blocks, so the first rule that a list reports is an exception
    rw [Option.getD_none]
    cases hrule : (c.sets.map (·.decision q)).findSome? (·.rule) with
    | some e =>
      obtain ⟨d, hd, he⟩ := List.exists_of_findSome?_eq_some hrule
      have hallowed : d.blocked = false := by simpa using List.find?_eq_none.1 hfind d hd
      obtain rfl : d = ⟨false, some e⟩ := by rw [← hallowed, ← he]
      obtain ⟨s, hs, hdecision⟩ := List.mem_map.1 hd
      rcases hasReason_decision (q := q) hs with ⟨-, hnone⟩ | ⟨r, -, hreason⟩
      · rw [hnone] at hdecision
        cases hdecision
      · rwa [hdecision] at hreason
    | none =>
      refine .noBlock fun s hs => ?_
      rcases hasReason_decision (q := q) hs with ⟨hb, -⟩ | ⟨r, hr, -⟩
      · exact hb
      · rw [List.findSome?_eq_none_iff.1 hrule _ (List.mem_map_of_mem hs)] at hr
        cases hr

theorem hasReason_judgeGlobal : c.HasReason q .global (c.judgeGlobal q) := by
  unfold judgeGlobal
  rcases decideBy_cases (c.sets.findSome? (·.block? q)) fun _ => c.sets.findSome? (·.exception? q) with
    ⟨hblock, hd⟩ | ⟨b, e, hblock, hexception, hd⟩ | ⟨b, hblock, hexception, hd⟩
  · rw [hd]
    exact .noBlock (List.findSome?_eq_none_iff.1 hblock)
  · rw [hd]
    obtain ⟨t, ht, hb⟩ := List.exists_of_findSome?_eq_some hblock
    obtain ⟨s, hs, he⟩ := List.exists_of_findSome?_eq_some hexception
    obtain ⟨hbmem, hbkind, hbmatch⟩ := RuleSet.of_first?_eq_some hb
    obtain ⟨hmem, hkind, hmatch⟩ := RuleSet.of_first?_eq_some he
    exact .exception s hs e hmem hkind hmatch ⟨t, ht, b, hbmem, hbkind, hbmatch⟩
  · rw [hd]
    obtain ⟨s, hs, hb⟩ := List.exists_of_findSome?_eq_some hblock
    obtain ⟨hmem, hkind, hmatch⟩ := RuleSet.of_first?_eq_some hb
    exact .block s hs b hmem hkind hmatch (List.findSome?_eq_none_iff.1 hexception)

/-- Under both scopes of exceptions every verdict has its reason: the rule that it reports is of the right kind, stands
in one of the lists, matches the request by itself, and is not overruled, and where it reports none no list has found a
blocking rule. -/
theorem judge_hasReason (c : Catalogue) (scope : ExceptionScope) (q : Request) :
    c.HasReason q scope (c.judge scope q) := by
  cases scope with
  | perList => exact hasReason_judgePerList
  | global => exact hasReason_judgeGlobal

end Catalogue

end TrackerAudit
