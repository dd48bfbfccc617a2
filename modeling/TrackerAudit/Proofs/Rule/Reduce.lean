import Mathlib.Data.List.Find
import TrackerAudit.Proofs.Rule.Key

/-!
# What stays in a reduced list

The rules marked `badfilter` and the rules that say the same as one of them drop out (`unnamed_eq`), and of the others
the first of each key stays. For every question about single rules whose answer depends on the key alone, the first rule
of the reduced list to answer yes is the first one of the list that has not dropped out (`find?_reduce`).
-/

namespace TrackerAudit

/-! ### Named rules -/

/-- The rule is neither marked `badfilter` nor named by a rule of the list that is. -/
def Rule.Stays (rules : List Rule) (r : Rule) : Prop :=
  r.flags.badfilter = false ∧ ∀ b ∈ rules, b.flags.badfilter = true → ¬b.SaysAs r

instance (rules : List Rule) (r : Rule) : Decidable (r.Stays rules) := inferInstanceAs (Decidable (_ ∧ _))

private theorem mem_foldl_insert {key : RuleKey} {rules : List Rule} {keys : Std.HashSet RuleKey} :
    key ∈ rules.foldl (fun keys r => keys.insert r.key) keys ↔ key ∈ keys ∨ ∃ r ∈ rules, r.key = key := by
  induction rules generalizing keys with
  | nil => simp
  | cons r rules ih =>
    rw [List.foldl_cons, ih, Std.HashSet.mem_insert, beq_iff_eq]
    simp only [List.mem_cons, exists_eq_or_imp, or_assoc, or_left_comm]

theorem mem_namedKeys {key : RuleKey} {rules : List Rule} :
    key ∈ namedKeys rules ↔ ∃ b ∈ rules, b.flags.badfilter = true ∧ b.key = key := by
  rw [namedKeys, mem_foldl_insert]
  simp only [Std.HashSet.not_mem_empty, false_or, List.mem_filter, and_assoc]

theorem unnamed_eq (rules : List Rule) : unnamed rules = rules.filter fun r => decide (r.Stays rules) := by
  unfold unnamed
  refine List.filter_congr fun r _ => ?_
  rw [Bool.eq_iff_iff]
  simp only [Bool.and_eq_true, Bool.not_eq_true', ← Bool.not_eq_true, Std.HashSet.contains_iff_mem, mem_namedKeys,
    decide_eq_true_eq, Rule.Stays, Rule.key_eq_iff, not_exists, not_and]

theorem mem_unnamed {rules : List Rule} {r : Rule} : r ∈ unnamed rules ↔ r ∈ rules ∧ r.Stays rules := by
  rw [unnamed_eq, List.mem_filter, decide_eq_true_eq]

/-- Without `badfilter` rules nothing drops out. -/
theorem unnamed_of_forall {rules : List Rule} (h : ∀ r ∈ rules, r.flags.badfilter = false) : unnamed rules = rules := by
  rw [unnamed_eq, List.filter_eq_self]
  intro r hr
  rw [decide_eq_true_eq]
  refine ⟨h r hr, fun b hb hbad => ?_⟩
  rw [h b hb] at hbad
  cases hbad

/-! ### Repeated rules -/

section

variable {rules : List Rule} {p : Rule → Bool}

private theorem find?_distinctFrom (hp : ∀ r ∈ rules, ∀ r' ∈ rules, r.key = r'.key → p r = p r')
    (seen : Std.HashSet RuleKey) :
    (distinctFrom seen rules).find? p = rules.find? fun r => !seen.contains r.key && p r := by
  induction rules generalizing seen with
  | nil => rfl
  | cons r rest ih =>
    have ih := ih fun a ha b hb => hp a (by simp [ha]) b (by simp [hb])
    unfold distinctFrom
    by_cases hseen : seen.contains r.key = true
    · rw [if_pos hseen, ih, List.find?_cons_of_neg (by simp [hseen])]
    · rw [if_neg hseen]
      by_cases hr : p r = true
      · rw [List.find?_cons_of_pos hr, List.find?_cons_of_pos (by simp [hseen, hr])]
      · rw [List.find?_cons_of_neg hr, List.find?_cons_of_neg (by simp [hr]), ih]
        -- the rules with the key of `r` answer no, as `r` does
        refine List.find?_congr fun a ha => ?_
        by_cases hkey : r.key = a.key
        · rw [← hp r (by simp) a (by simp [ha]) hkey]
          simp [hr]
        · simp [Std.HashSet.contains_insert, beq_false_of_ne hkey]

theorem find?_distinct (hp : ∀ r ∈ rules, ∀ r' ∈ rules, r.key = r'.key → p r = p r') :
    (distinct rules).find? p = rules.find? p := by
  rw [distinct, find?_distinctFrom hp]
  simp

theorem find?_reduce (hp : ∀ r ∈ rules, ∀ r' ∈ rules, r.key = r'.key → p r = p r') :
    (reduce rules).find? p = (unnamed rules).find? p :=
  find?_distinct fun r hr r' hr' => hp r (mem_unnamed.1 hr).1 r' (mem_unnamed.1 hr').1

private theorem mem_of_mem_distinctFrom {r : Rule} {seen : Std.HashSet RuleKey} (h : r ∈ distinctFrom seen rules) :
    r ∈ rules := by
  induction rules generalizing seen with
  | nil => exact h
  | cons a rest ih =>
    unfold distinctFrom at h
    split at h
    · exact List.mem_cons_of_mem _ (ih h)
    · rcases List.mem_cons.1 h with rfl | h
      · exact List.mem_cons_self
      · exact List.mem_cons_of_mem _ (ih h)

theorem mem_of_mem_reduce {r : Rule} (h : r ∈ reduce rules) : r ∈ rules :=
  (mem_unnamed.1 (mem_of_mem_distinctFrom h)).1

end

end TrackerAudit
