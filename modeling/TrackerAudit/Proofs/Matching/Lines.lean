import TrackerAudit.Proofs.Matching.Reduction
import TrackerAudit.Proofs.Rule.Number
import TrackerAudit.Proofs.Text.Lines

/-!
# What a list finds, by its lines

Whether a compiled list finds a blocking rule or an exception for a request depends on what stands on its lines, and
neither on their order nor on how often one is repeated (`CompiledList.isSome_first?_iff`). One more line with a
blocking rule that is not marked `badfilter` therefore makes a list stricter, and one more line with such an exception
makes it less strict (`CompiledList.stricter_of_insertsLine`).
-/

namespace TrackerAudit

open Text

/-- Among the rules with `on` is one of a kind that no `badfilter` rule among them names and that can be found. -/
def Finds (on : Rule → Prop) (isException : Bool) (q : Request) : Prop :=
  ∃ r, on r ∧ r.isException = isException ∧ r.flags.badfilter = false ∧
    (∀ b, on b → b.flags.badfilter = true → ¬b.SaysAs r) ∧ r.isFound q = true

namespace Rule

variable (r : Rule) (number : Nat)

theorem saysAs_onLine {b : Rule} : b.SaysAs (r.onLine number) ↔ b.SaysAs r := by
  constructor <;> rintro ⟨h1, h2, h3, h4, h5, h6, h7⟩ <;> exact ⟨h1, h2, h3, h4, h5, h6, h7⟩

theorem onLine_saysAs {b : Rule} : (r.onLine number).SaysAs b ↔ r.SaysAs b := by
  constructor <;> rintro ⟨h1, h2, h3, h4, h5, h6, h7⟩ <;> exact ⟨h1, h2, h3, h4, h5, h6, h7⟩

end Rule

theorem CompiledList.isSome_first?_iff {text : Text} {source : SourceList} {isException : Bool} {q : Request} :
    ((CompiledList.read text source).rules.first? isException q).isSome = true ↔
      Finds (OnLines source (Text.lines text)) isException q := by
  rw [first?_read, List.find?_isSome]
  simp only [List.mem_filter, decide_eq_true_eq, Bool.and_eq_true, beq_iff_eq, Finds,
    ← FilterList.exists_mem_rules_iff]
  constructor
  · rintro ⟨r, ⟨hr, hbad, hnamed⟩, hkind, hfound⟩
    -- nothing but the number changes, and neither naming nor finding depends on it
    refine ⟨r.onLine 1, ⟨r, hr, rfl⟩, hkind, hbad, ?_, hfound⟩
    rintro _ ⟨b, hb, rfl⟩ hb'
    rw [Rule.onLine_saysAs, Rule.saysAs_onLine]
    exact hnamed b hb hb'
  · rintro ⟨_, ⟨r, hr, rfl⟩, hkind, hbad, hnamed, hfound⟩
    refine ⟨r, ⟨hr, hbad, fun b hb hb' => ?_⟩, hkind, hfound⟩
    have := hnamed (b.onLine 1) ⟨b, hb, rfl⟩ hb'
    rwa [Rule.onLine_saysAs, Rule.saysAs_onLine] at this

/-! ### Stricter rule sets -/

/-- The second rule set finds a blocking rule wherever the first does, and an exception only where the first does. -/
structure RuleSet.Stricter (s s' : RuleSet) : Prop where
  block : ∀ q, (s.block? q).isSome = true → (s'.block? q).isSome = true
  exception : ∀ q, (s'.exception? q).isSome = true → (s.exception? q).isSome = true

theorem RuleSet.Stricter.rfl {s : RuleSet} : s.Stricter s := ⟨fun _ h => h, fun _ h => h⟩

theorem decideBy_blocked {block : Option Rule} {exception : Unit → Option Rule} :
    (decideBy block exception).blocked = true ↔ block.isSome = true ∧ (exception ()).isSome = false := by
  unfold decideBy
  cases block with
  | none => simp
  | some b => cases exception () <;> simp

theorem RuleSet.Stricter.blocked {s s' : RuleSet} (h : s.Stricter s') {q : Request}
    (hq : (s.decision q).blocked = true) : (s'.decision q).blocked = true := by
  rw [decision, decideBy_blocked] at hq ⊢
  refine ⟨h.block q hq.1, ?_⟩
  rw [Bool.eq_false_iff]
  intro he
  rw [h.exception q he] at hq
  cases hq.2

/-! ### One more line -/

section

variable {on on' : Rule → Prop} {r : Rule} {q : Request}

/-- One more rule without `badfilter` mark leaves the rules of its kind that were found. -/
theorem Finds.of_insert (hon : ∀ a, on' a ↔ a = r ∨ on a) (hr : r.flags.badfilter = false) {isException : Bool}
    (h : Finds on isException q) : Finds on' isException q := by
  obtain ⟨a, ha, hkind, hbad, hnamed, hfound⟩ := h
  refine ⟨a, (hon a).2 (Or.inr ha), hkind, hbad, fun b hb hb' => ?_, hfound⟩
  rcases (hon b).1 hb with rfl | hb
  · rw [hr] at hb'
    cases hb'
  · exact hnamed b hb hb'

/-- One more rule of the other kind makes no rule found. -/
theorem Finds.of_insert_other (hon : ∀ a, on' a ↔ a = r ∨ on a) {isException : Bool} (hkind : r.isException ≠ isException)
    (h : Finds on' isException q) : Finds on isException q := by
  obtain ⟨a, ha, ha', hbad, hnamed, hfound⟩ := h
  refine ⟨a, ?_, ha', hbad, fun b hb => hnamed b ((hon b).2 (Or.inr hb)), hfound⟩
  rcases (hon a).1 ha with rfl | ha
  · exact absurd ha' hkind
  · exact ha

end

theorem onLines_of_insertsLine {source : SourceList} {line text text' : Text} (h : InsertsLine line text text')
    {number : Nat} {r : Rule} (hr : Rule.read line source number = .ok (some r)) (a : Rule) :
    OnLines source (Text.lines text') a ↔ a = r.onLine 1 ∨ OnLines source (Text.lines text) a := by
  obtain ⟨before, after, htext, htext'⟩ := h
  have hread : Rule.read line source 1 = .ok (some (r.onLine 1)) := by
    rw [Rule.read_number line source 1 number, hr]
    rfl
  simp only [OnLines, htext, htext', List.mem_append, List.mem_cons, or_and_right, exists_or, exists_eq_left, hread,
    Except.ok.injEq, Option.some.injEq]
  rw [or_left_comm, eq_comm]

/-- A list is stricter if it finds a blocking rule wherever the other does, and an exception only where the other does. -/
theorem CompiledList.stricter_of_finds {source : SourceList} {text text' : Text}
    (hblock : ∀ q, Finds (OnLines source (Text.lines text)) false q → Finds (OnLines source (Text.lines text')) false q)
    (hexception : ∀ q, Finds (OnLines source (Text.lines text')) true q → Finds (OnLines source (Text.lines text)) true q) :
    (CompiledList.read text source).rules.Stricter (CompiledList.read text' source).rules := by
  constructor
  · intro q
    rw [RuleSet.block?, RuleSet.block?, isSome_first?_iff, isSome_first?_iff]
    exact hblock q
  · intro q
    rw [RuleSet.exception?, RuleSet.exception?, isSome_first?_iff, isSome_first?_iff]
    exact hexception q

/-- One more line with a blocking rule makes a list stricter, one more line with an exception less strict. -/
theorem CompiledList.stricter_of_insertsLine {source : SourceList} {line text text' : Text}
    (h : InsertsLine line text text') {number : Nat} {r : Rule} (hr : Rule.read line source number = .ok (some r))
    (hbad : r.flags.badfilter = false) :
    if r.isException then (CompiledList.read text' source).rules.Stricter (CompiledList.read text source).rules
    else (CompiledList.read text source).rules.Stricter (CompiledList.read text' source).rules := by
  have hon := onLines_of_insertsLine h hr
  have hsame (isException : Bool) (q : Request) (hf : Finds (OnLines source (Text.lines text)) isException q) :=
    Finds.of_insert hon hbad hf
  have hother (isException : Bool) (q : Request) (hkind : r.isException ≠ isException)
      (hf : Finds (OnLines source (Text.lines text')) isException q) := Finds.of_insert_other hon hkind hf
  split
  · rename_i hexception
    exact stricter_of_finds (fun q => hother false q (by simp [hexception])) (hsame true)
  · rename_i hexception
    exact stricter_of_finds (hsame false) fun q => hother true q hexception

end TrackerAudit
