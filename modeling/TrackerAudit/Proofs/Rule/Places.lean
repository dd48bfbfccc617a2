import Mathlib.Order.Fin.Basic
import TrackerAudit.Proofs.Rule.Reduce

/-!
# Which rules a reduced list keeps

A reduced list holds the rules at some places of the list, in their order: the rules that stay, and of those with one key
the first (`reduce_eq`, `areKept_keptPlaces`). Every rule that goes is counted once, under the reason for which it goes
(`Reduction.accounts_ofRules`), and a list that was reduced stays as it is (`reduce_reduce`).
-/

namespace TrackerAudit

/-! ### Places -/

/-- Of the rules that stay, the one at this place is the first with its key. -/
def Rule.IsFirst (rules : List Rule) (stays : Rule → Bool) (i : Fin rules.length) : Prop :=
  stays (rules.get i) = true ∧ ∀ j < i, stays (rules.get j) = true → (rules.get j).key ≠ (rules.get i).key

instance (rules : List Rule) (stays : Rule → Bool) (i : Fin rules.length) : Decidable (Rule.IsFirst rules stays i) :=
  inferInstanceAs (Decidable (_ ∧ _))

section

variable {stays : Rule → Bool} {r : Rule} {rest : List Rule}

private theorem isFirst_zero : Rule.IsFirst (r :: rest) stays ⟨0, Nat.succ_pos _⟩ ↔ stays r = true := by
  refine and_iff_left_of_imp fun _ j hj => ?_
  exact absurd hj (Nat.not_lt_zero j)

private theorem isFirst_succ (i : Fin rest.length) : Rule.IsFirst (r :: rest) stays i.succ ↔
    Rule.IsFirst rest stays i ∧ (stays r = true → r.key ≠ (rest.get i).key) := by
  have hbefore : (∀ j < i.succ, stays ((r :: rest).get j) = true → ((r :: rest).get j).key ≠ (rest.get i).key) ↔
      (stays r = true → r.key ≠ (rest.get i).key) ∧
        ∀ j < i, stays (rest.get j) = true → (rest.get j).key ≠ (rest.get i).key := by
    rw [Fin.forall_fin_succ]
    simp only [Fin.succ_lt_succ_iff, Fin.succ_pos, true_imp_iff]
    rfl
  exact (and_congr_right fun _ => hbefore).trans (by rw [and_left_comm, and_comm]; rfl)

/-- The places of first rules whose key is not among `seen`. -/
private def placesFrom (stays : Rule → Bool) (seen : Std.HashSet RuleKey) (rules : List Rule) : List (Fin rules.length) :=
  (List.finRange rules.length).filter fun i => decide (Rule.IsFirst rules stays i) && !seen.contains (rules.get i).key

private theorem placesFrom_cons (seen seen' : Std.HashSet RuleKey) (h : ∀ i : Fin rest.length,
      (stays r = true → r.key ≠ (rest.get i).key) ∧ (rest.get i).key ∉ seen ↔ (rest.get i).key ∉ seen') :
    placesFrom stays seen (r :: rest) =
      (if stays r && !seen.contains r.key then [⟨0, Nat.succ_pos _⟩] else []) ++
        (placesFrom stays seen' rest).map Fin.succ := by
  have hplaces : List.finRange (r :: rest).length = [⟨0, Nat.succ_pos _⟩] ++ (List.finRange rest.length).map Fin.succ :=
    List.finRange_succ
  rw [placesFrom, hplaces, List.filter_append, List.filter_map, placesFrom]
  congr 1
  · simp only [List.filter_singleton, isFirst_zero, List.get_eq_getElem, List.getElem_cons_zero, Bool.decide_eq_true,
      Bool.cond_eq_ite]
  · refine congrArg (List.map Fin.succ) (List.filter_congr fun i _ => ?_)
    rw [Bool.eq_iff_iff]
    simp only [Function.comp_apply, Bool.and_eq_true, decide_eq_true_eq, isFirst_succ, Bool.not_eq_true',
      ← Bool.not_eq_true, Std.HashSet.contains_iff_mem, and_assoc]
    exact and_congr_right fun _ => h i

private theorem distinctFrom_filter (stays : Rule → Bool) (seen : Std.HashSet RuleKey) (rules : List Rule) :
    distinctFrom seen (rules.filter stays) = (placesFrom stays seen rules).map rules.get := by
  induction rules generalizing seen with
  | nil => rfl
  | cons r rest ih =>
    have hget (places : List (Fin rest.length)) : (places.map Fin.succ).map (r :: rest).get = places.map rest.get := by
      rw [List.map_map]
      rfl
    cases hstays : stays r with
    | false =>
      rw [List.filter_cons_of_neg (by simp [hstays]), ih, placesFrom_cons seen seen (by simp [hstays]), hstays]
      exact (hget _).symm
    | true =>
      rw [List.filter_cons_of_pos hstays, distinctFrom]
      cases hseen : seen.contains r.key with
      | true =>
        -- a later rule whose key is not among `seen` has another key
        have hsame (i : Fin rest.length) : (stays r = true → r.key ≠ (rest.get i).key) ∧ (rest.get i).key ∉ seen ↔
            (rest.get i).key ∉ seen := by
          refine and_iff_right_of_imp fun hi _ heq => hi ?_
          rw [← heq]
          exact Std.HashSet.contains_iff_mem.1 hseen
        rw [if_pos rfl, ih, placesFrom_cons seen seen hsame, hstays, hseen]
        exact (hget _).symm
      | false =>
        have hinsert (i : Fin rest.length) : (stays r = true → r.key ≠ (rest.get i).key) ∧ (rest.get i).key ∉ seen ↔
            (rest.get i).key ∉ seen.insert r.key := by
          simp [hstays, Std.HashSet.mem_insert]
        rw [if_neg Bool.false_ne_true, ih, placesFrom_cons seen _ hinsert, hstays, hseen, List.map_append, hget]
        rfl

end

/-- The places of the rules that stay and come first with their key. -/
def keptPlaces (rules : List Rule) : List (Fin rules.length) :=
  (List.finRange rules.length).filter fun i => decide (Rule.IsFirst rules (fun r => decide (r.Stays rules)) i)

theorem mem_keptPlaces {rules : List Rule} {i : Fin rules.length} :
    i ∈ keptPlaces rules ↔ Rule.IsFirst rules (fun r => decide (r.Stays rules)) i := by
  simp [keptPlaces, List.mem_filter]

theorem reduce_eq (rules : List Rule) : reduce rules = (keptPlaces rules).map rules.get := by
  rw [reduce, distinct, unnamed_eq, distinctFrom_filter, placesFrom, keptPlaces]
  simp

/-! ### What is kept -/

/-- The places in a list of the rules that are kept: in ascending order, of rules that stay, with no key twice, and with
the key of every rule that stays, no later than that rule. -/
structure AreKept (rules : List Rule) (places : List (Fin rules.length)) : Prop where
  ascending : places.Pairwise (· < ·)
  stays : ∀ i ∈ places, (rules.get i).Stays rules
  apart : places.Pairwise fun i j => (rules.get i).key ≠ (rules.get j).key
  covered : ∀ i ∉ places, (rules.get i).Stays rules → ∃ j ∈ places, j < i ∧ (rules.get j).key = (rules.get i).key

/-- Among the rules with one key that stay there is a first one. -/
private theorem exists_isFirst {rules : List Rule} (stays : Rule → Bool) (i : Fin rules.length)
    (hi : stays (rules.get i) = true) : ∃ j ≤ i, Rule.IsFirst rules stays j ∧ (rules.get j).key = (rules.get i).key := by
  induction i using WellFoundedLT.induction with
  | ind i ih =>
  by_cases hfirst : Rule.IsFirst rules stays i
  · exact ⟨i, le_rfl, hfirst, rfl⟩
  · simp only [Rule.IsFirst, hi, true_and, not_forall, not_not] at hfirst
    obtain ⟨j, hj, hstays, hkey⟩ := hfirst
    obtain ⟨k, hk, hfirst, hkey'⟩ := ih j hj hstays
    exact ⟨k, hk.trans hj.le, hfirst, hkey'.trans hkey⟩

theorem areKept_keptPlaces (rules : List Rule) : AreKept rules (keptPlaces rules) := by
  have hascending : (keptPlaces rules).Pairwise (· < ·) := (List.pairwise_lt_finRange rules.length).filter _
  refine ⟨hascending, fun i hi => ?_, hascending.imp_of_mem fun {i j} hi hj hlt => ?_, fun i hi hstays => ?_⟩
  · exact of_decide_eq_true (mem_keptPlaces.1 hi).1
  · exact (mem_keptPlaces.1 hj).2 i hlt (mem_keptPlaces.1 hi).1
  · obtain ⟨j, hle, hfirst, hkey⟩ := exists_isFirst (fun r => decide (r.Stays rules)) i (decide_eq_true hstays)
    have hne : j ≠ i := by
      rintro rfl
      exact hi (mem_keptPlaces.2 hfirst)
    exact ⟨j, mem_keptPlaces.2 hfirst, lt_of_le_of_ne hle hne, hkey⟩

namespace AreKept

variable {rules : List Rule} {places : List (Fin rules.length)} (h : AreKept rules places)

include h

theorem badfilter : ∀ r ∈ places.map rules.get, r.flags.badfilter = false := by
  intro r hr
  obtain ⟨i, hi, rfl⟩ := List.mem_map.1 hr
  exact (h.stays i hi).1

theorem pairwise_key : (places.map rules.get).Pairwise fun r r' => r.key ≠ r'.key := List.pairwise_map.2 h.apart

end AreKept

/-! ### Counting -/

theorem length_distinctFrom (seen : Std.HashSet RuleKey) (rules : List Rule) :
    (distinctFrom seen rules).length + countRepeatedFrom seen rules = rules.length := by
  induction rules generalizing seen with
  | nil => rfl
  | cons r rest ih =>
    unfold distinctFrom countRepeatedFrom
    split
    · have := ih seen
      rw [List.length_cons]
      omega
    · have := ih (seen.insert r.key)
      rw [List.length_cons, List.length_cons]
      omega

private theorem countP_add_countP {α : Type} (p q : α → Bool) (xs : List α) :
    xs.countP (fun x => !p x && !q x) + xs.countP p + xs.countP (fun x => !p x && q x) = xs.length := by
  induction xs with
  | nil => rfl
  | cons x xs ih =>
    simp only [List.countP_cons, List.length_cons]
    cases p x <;> cases q x <;> simp <;> omega

/-- The numbers account for every rule of a list of which some are kept. -/
structure Reduction.Accounts (n : Reduction) (rules kept : List Rule) : Prop where
  before : n.before = rules.length
  after : n.after = kept.length
  sum : n.before = n.after + n.repeated + n.badfilters + n.named

/-- Of the rules of a list, each is kept, or a copy of one before, or a `badfilter` rule, or named by one. -/
theorem Reduction.accounts_ofRules (rules : List Rule) : (Reduction.ofRules rules).Accounts rules (reduce rules) := by
  refine ⟨rfl, rfl, ?_⟩
  have hleft : (unnamed rules).length =
      rules.countP fun r => !r.flags.badfilter && !(namedKeys rules).contains r.key := List.countP_eq_length_filter.symm
  have hdistinct := length_distinctFrom ∅ (unnamed rules)
  have hunnamed := countP_add_countP (·.flags.badfilter) (fun r => (namedKeys rules).contains r.key) rules
  simp only [Reduction.ofRules, distinct, countRepeated]
  omega

/-! ### Reducing twice -/

private theorem distinctFrom_of_pairwise {seen : Std.HashSet RuleKey} {rules : List Rule}
    (h : rules.Pairwise fun r r' => r.key ≠ r'.key) (hseen : ∀ r ∈ rules, r.key ∉ seen) :
    distinctFrom seen rules = rules := by
  induction rules generalizing seen with
  | nil => rfl
  | cons r rest ih =>
    obtain ⟨hr, hrest⟩ := List.pairwise_cons.1 h
    have hnot : ¬seen.contains r.key = true := fun hmem => hseen r (by simp) (Std.HashSet.contains_iff_mem.1 hmem)
    rw [distinctFrom, if_neg hnot, ih hrest fun a ha => ?_]
    rw [Std.HashSet.mem_insert, beq_iff_eq, not_or]
    exact ⟨hr a ha, hseen a (by simp [ha])⟩

theorem reduce_reduce (rules : List Rule) : reduce (reduce rules) = reduce rules := by
  have hkept := areKept_keptPlaces rules
  have hunnamed : unnamed (reduce rules) = reduce rules := by
    rw [reduce_eq]
    exact unnamed_of_forall hkept.badfilter
  have hpairwise : (reduce rules).Pairwise fun r r' => r.key ≠ r'.key := by
    rw [reduce_eq]
    exact hkept.pairwise_key
  rw [reduce, hunnamed]
  exact distinctFrom_of_pairwise hpairwise fun r _ => Std.HashSet.not_mem_empty

/-- The numbers for a list of which all rules are kept. -/
def Reduction.nothing (count : Nat) : Reduction where
  before := count
  after := count
  repeated := 0
  badfilters := 0
  named := 0

theorem Reduction.Accounts.eq_nothing {n : Reduction} {rules : List Rule} (h : n.Accounts rules rules) :
    n = Reduction.nothing rules.length := by
  obtain ⟨before, after, repeated, badfilters, named⟩ := n
  obtain ⟨hbefore, hafter, hsum⟩ := h
  simp only [nothing, Reduction.mk.injEq] at *
  omega

/-- A reduced list has the rules that stand at some places of the list: no `badfilter` rule or rule that is named by one,
no two rules with one key, and for each other rule that goes an earlier one with its key. The numbers of rules that go for
each reason and of those that are kept make up the list, and reducing the list once more takes nothing out. -/
theorem reduce_keeps (rules : List Rule) :
    (∃ places, AreKept rules places ∧ reduce rules = places.map rules.get) ∧
      (Reduction.ofRules rules).Accounts rules (reduce rules) ∧ reduce (reduce rules) = reduce rules ∧
        Reduction.ofRules (reduce rules) = Reduction.nothing (reduce rules).length := by
  have hagain := Reduction.accounts_ofRules (reduce rules)
  rw [reduce_reduce] at hagain
  exact ⟨⟨keptPlaces rules, areKept_keptPlaces rules, reduce_eq rules⟩, Reduction.accounts_ofRules rules,
    reduce_reduce rules, hagain.eq_nothing⟩

end TrackerAudit
