import Mathlib.Data.List.Basic
import TrackerAudit.Summary.Counts

/-!
# The order of a ranking

A ranking of more entries is a ranking of the old ones with the new one put in behind exactly the larger counts, if the new
one stands in front of the others (`exists_ranked_cons`). So a ranking begins with the first of the largest entries
(`head?_ranked`), and entries with equal counts stay in their order (`pairwise_ranked`).

The largest website of a summary is read off the ranking after it has been cut. It is therefore the first of the largest
entries for every length of the ranking but zero, for which there is none (`CountSummary.largest_ofEntries`,
`CountSummary.largest_ne_first`).
-/

namespace TrackerAudit

variable {entries : List RankedEntry} {a e : RankedEntry}

/-! ### Rankings -/

theorem perm_ranked (entries : List RankedEntry) : (ranked entries).Perm entries := List.mergeSort_perm entries _

private theorem larger_trans (a b c : RankedEntry) (hab : decide (b.count ≤ a.count) = true)
    (hbc : decide (c.count ≤ b.count) = true) : decide (c.count ≤ a.count) = true := by
  rw [decide_eq_true_eq] at hab hbc ⊢
  omega

private theorem larger_total (a b : RankedEntry) : (decide (b.count ≤ a.count) || decide (a.count ≤ b.count)) = true := by
  rw [Bool.or_eq_true, decide_eq_true_eq, decide_eq_true_eq]
  omega

theorem pairwise_count_ranked (entries : List RankedEntry) : (ranked entries).Pairwise fun a b => b.count ≤ a.count := by
  have hsorted := List.pairwise_mergeSort larger_trans larger_total entries
  refine hsorted.imp ?_
  intro a b hab
  exact of_decide_eq_true hab

/-- An entry in front of others is ranked behind those with larger counts, and before all others. -/
theorem exists_ranked_cons (a : RankedEntry) (entries : List RankedEntry) : ∃ larger others,
    ranked (a :: entries) = larger ++ a :: others ∧ ranked entries = larger ++ others ∧
      (∀ b ∈ larger, a.count < b.count) ∧ ∀ b ∈ others, b.count ≤ a.count := by
  obtain ⟨larger, others, hcons, hrest, hlarger⟩ := List.mergeSort_cons larger_trans larger_total a entries
  refine ⟨larger, others, hcons, hrest, ?_, ?_⟩
  · intro b hb
    have := hlarger b hb
    simpa using this
  · have hsorted := pairwise_count_ranked (a :: entries)
    have hcons : ranked (a :: entries) = larger ++ a :: others := hcons
    rw [hcons, List.pairwise_append, List.pairwise_cons] at hsorted
    exact hsorted.2.1.1

/-- The ranking keeps the order of the entries where it does not go by the counts. -/
theorem pairwise_ranked {R : RankedEntry → RankedEntry → Prop} (h : entries.Pairwise R) :
    (ranked entries).Pairwise fun a b => b.count < a.count ∨ b.count = a.count ∧ R a b := by
  induction entries with
  | nil => simp [ranked]
  | cons a entries ih =>
    obtain ⟨hfirst, hrest⟩ := List.pairwise_cons.1 h
    obtain ⟨larger, others, hcons, hranked, hlarger, hothers⟩ := exists_ranked_cons a entries
    have hmem : ∀ b ∈ others, b ∈ entries := by
      intro b hb
      rw [← (perm_ranked entries).mem_iff, hranked]
      exact List.mem_append_right _ hb
    have hbehind : ∀ b ∈ others, b.count < a.count ∨ b.count = a.count ∧ R a b := by
      intro b hb
      have := hothers b hb
      by_cases heq : b.count = a.count
      · exact Or.inr ⟨heq, hfirst b (hmem b hb)⟩
      · left
        omega
    have ih := ih hrest
    rw [hranked, List.pairwise_append] at ih
    obtain ⟨ihlarger, ihothers, ihcross⟩ := ih
    rw [hcons, List.pairwise_append, List.pairwise_cons]
    refine ⟨ihlarger, ⟨hbehind, ihothers⟩, ?_⟩
    intro b hb c hc
    rcases List.mem_cons.1 hc with rfl | hc
    · exact Or.inl (hlarger b hb)
    · exact ihcross b hb c hc

/-! ### The first of the largest entries -/

/-- The entry is the first of those with the largest count. -/
def IsFirstLargest (entries : List RankedEntry) (e : RankedEntry) : Prop :=
  ∃ before after, entries = before ++ e :: after ∧ (∀ a ∈ before, a.count < e.count) ∧ ∀ a ∈ after, a.count ≤ e.count

theorem IsFirstLargest.le (h : IsFirstLargest entries e) : ∀ a ∈ entries, a.count ≤ e.count := by
  obtain ⟨before, after, rfl, hbefore, hafter⟩ := h
  intro a ha
  rcases List.mem_append.1 ha with ha | ha
  · exact Nat.le_of_lt (hbefore a ha)
  · rcases List.mem_cons.1 ha with rfl | ha
    · exact Nat.le_refl _
    · exact hafter a ha

theorem IsFirstLargest.mem (h : IsFirstLargest entries e) : e ∈ entries := by
  obtain ⟨before, after, rfl, -, -⟩ := h
  simp

theorem isFirstLargest_cons : IsFirstLargest (a :: entries) e ↔
    e = a ∧ (∀ b ∈ entries, b.count ≤ a.count) ∨ a.count < e.count ∧ IsFirstLargest entries e := by
  constructor
  · rintro ⟨before, after, heq, hbefore, hafter⟩
    cases before with
    | nil =>
      obtain ⟨rfl, rfl⟩ := List.cons.inj heq
      exact Or.inl ⟨rfl, hafter⟩
    | cons b before =>
      obtain ⟨rfl, rfl⟩ := List.cons.inj heq
      rw [List.forall_mem_cons] at hbefore
      exact Or.inr ⟨hbefore.1, before, after, rfl, hbefore.2, hafter⟩
  · rintro (⟨rfl, hall⟩ | ⟨hlt, before, after, rfl, hbefore, hafter⟩)
    · exact ⟨[], entries, rfl, by simp, hall⟩
    · exact ⟨a :: before, after, rfl, List.forall_mem_cons.2 ⟨hlt, hbefore⟩, hafter⟩

theorem head?_ranked : (ranked entries).head? = some e ↔ IsFirstLargest entries e := by
  induction entries with
  | nil => simp [ranked, IsFirstLargest]
  | cons a entries ih =>
    obtain ⟨larger, others, hcons, hranked, hlarger, hothers⟩ := exists_ranked_cons a entries
    have hmem (b : RankedEntry) : b ∈ entries ↔ b ∈ larger ∨ b ∈ others := by
      rw [← (perm_ranked entries).mem_iff, hranked, List.mem_append]
    rw [hcons, isFirstLargest_cons]
    cases larger with
    | nil =>
      have hall : ∀ b ∈ entries, b.count ≤ a.count := fun b hb => hothers b (by simpa using (hmem b).1 hb)
      rw [List.nil_append, List.head?_cons, Option.some.injEq]
      constructor
      · rintro rfl
        exact Or.inl ⟨rfl, hall⟩
      · rintro (⟨rfl, -⟩ | ⟨hlt, hfirst⟩)
        · rfl
        · have := hall e hfirst.mem
          omega
    | cons b larger =>
      have hb := hlarger b (by simp)
      have hbmem := (hmem b).2 (by simp)
      rw [hranked] at ih
      rw [List.cons_append, List.head?_cons] at ih ⊢
      rw [ih]
      constructor
      · intro hfirst
        have := hfirst.le b hbmem
        exact Or.inr ⟨by omega, hfirst⟩
      · rintro (⟨rfl, hall⟩ | ⟨-, hfirst⟩)
        · have := hall b hbmem
          omega
        · exact hfirst

/-! ### The largest website of a summary -/

namespace CountSummary

theorem largest_eq (n : Nat) (entries : List RankedEntry) : (ofEntries n entries).largest =
    if n = 0 then none else (ranked entries).head?.filter (·.count > 0) := by
  change (((ranked entries).take n).head?).filter _ = _
  rw [List.head?_take]
  split
  · rfl
  · rfl

/-- For every length of the ranking but zero, the largest website is the first of those with the largest count, and there is
none exactly if all counts are zero. A ranking of no entries leaves out the largest website as well. -/
theorem largest_ofEntries (n : Nat) (entries : List RankedEntry) :
    (∀ e, (ofEntries n entries).largest = some e ↔ n ≠ 0 ∧ 0 < e.count ∧ IsFirstLargest entries e) ∧
      ((ofEntries n entries).largest = none ↔ n = 0 ∨ ∀ e ∈ entries, e.count = 0) := by
  rw [largest_eq]
  by_cases hn : n = 0
  · simp [hn]
  · rw [if_neg hn]
    constructor
    · intro e
      rw [Option.filter_eq_some_iff, head?_ranked, decide_eq_true_eq, and_iff_right hn]
      exact and_comm
    · rw [Option.filter_eq_none_iff, or_iff_right hn]
      cases hhead : (ranked entries).head? with
      | none =>
        -- nothing is ranked, so there are no entries
        have hnil := List.head?_eq_none_iff.1 hhead
        have hperm := perm_ranked entries
        rw [hnil, List.nil_perm] at hperm
        simp [hperm]
      | some e =>
        have hfirst := head?_ranked.1 hhead
        constructor
        · intro hzero a ha
          have hcount : ¬0 < e.count := by simpa using hzero e rfl
          have := hfirst.le a ha
          omega
        · rintro hall _ ⟨⟩
          simp [hall e hfirst.mem]

/-- With a ranking of no entries, the only website is not the largest one, although its count is not zero. -/
theorem largest_ne_first : IsFirstLargest [⟨"a.io".toList, 1⟩] ⟨"a.io".toList, 1⟩ ∧
    (ofEntries 0 [⟨"a.io".toList, 1⟩]).largest ≠ some ⟨"a.io".toList, 1⟩ := by
  refine ⟨⟨[], [], rfl, by simp, by simp⟩, ?_⟩
  rw [largest_eq]
  simp

end CountSummary

end TrackerAudit
