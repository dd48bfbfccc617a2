import Mathlib.Algebra.GroupWithZero.Nat
import Mathlib.Data.Finset.Card
import TrackerAudit.Proofs.Summary.Ranking
import TrackerAudit.Summary.Corpus

/-!
# Rankings by occurrences

A tally keeps the labels in the order of first occurrence and finds the entry of each label through a map. Both stay in
step when one more label is counted (`Tally.Counts.add`), so after all labels the entries are the distinct labels with the
number of their occurrences (`exists_occurrences_eq`). Ranked and cut, they are an exact ranking (`isExactRanking_top`); so
are the rankings of third-party hosts of a corpus (`CorpusSummary.isExactRanking_hosts`).
-/

namespace TrackerAudit

variable {labels seen : List Text} {label : Text} {t : Tally}

/-! ### Tallies -/

/-- The label occurs first in the labels before the other one does. -/
def OccursBefore (labels : List Text) (a b : Text) : Prop := labels.idxOf a < labels.idxOf b

theorem nodup_of_pairwise_occursBefore (h : seen.Pairwise (OccursBefore labels)) : seen.Nodup := by
  refine h.imp ?_
  rintro a b hab rfl
  exact Nat.lt_irrefl _ hab

/-- The tally has counted the labels, among which it has seen the given ones in this order. -/
structure Tally.Counts (t : Tally) (labels seen : List Text) : Prop where
  entries : t.entries.toList = seen.map fun l => ⟨l, labels.count l⟩
  places (l : Text) (i : Nat) : t.places[l]? = some i ↔ seen[i]? = some l
  mem (l : Text) : l ∈ seen ↔ l ∈ labels
  inOrder : seen.Pairwise (OccursBefore labels)

namespace Tally

private theorem getElem?_concat_eq_some {a l : Text} {i : Nat} :
    (seen ++ [a])[i]? = some l ↔ seen[i]? = some l ∨ i = seen.length ∧ a = l := by
  rw [List.getElem?_append]
  split
  · rename_i hi
    simp [Nat.ne_of_lt hi]
  · rename_i hi
    have hnone : seen[i]? = none := List.getElem?_eq_none (by omega)
    simp only [hnone, List.getElem?_singleton]
    split
    · have : i = seen.length := by omega
      simp [this]
    · have : i ≠ seen.length := by omega
      simp [this]

theorem counts_empty : ({} : Tally).Counts [] [] where
  entries := rfl
  places := by simp
  mem := by simp
  inOrder := List.Pairwise.nil

/-- More labels do not change which of those seen so far occurs first. -/
theorem occursBefore_append (hmem : ∀ l, l ∈ seen ↔ l ∈ labels) (h : seen.Pairwise (OccursBefore labels))
    (more : List Text) : seen.Pairwise (OccursBefore (labels ++ more)) := by
  refine h.imp_of_mem ?_
  intro a b ha hb hab
  unfold OccursBefore
  rw [List.idxOf_append_of_mem ((hmem a).1 ha), List.idxOf_append_of_mem ((hmem b).1 hb)]
  exact hab

/-- A label that has an entry is counted there. -/
theorem Counts.add_seen (h : t.Counts labels seen) {place : Nat} (hplace : t.places[label]? = some place) :
    (t.add label).Counts (labels ++ [label]) seen := by
  have hseen := (h.places label place).1 hplace
  have hnodup := nodup_of_pairwise_occursBefore h.inOrder
  have hadd : t.add label = { t with entries := t.entries.modify place fun e => { e with count := e.count + 1 } } := by
    rw [Tally.add, hplace]
  rw [hadd]
  refine ⟨?_, h.places, ?_, occursBefore_append h.mem h.inOrder [label]⟩
  · rw [Array.toList_modify, h.entries]
    apply List.ext_getElem?
    intro i
    rw [List.getElem?_modify, List.getElem?_map, List.getElem?_map]
    cases hi : seen[i]? with
    | none => rfl
    | some l =>
      by_cases heq : place = i
      · subst heq
        obtain rfl : l = label := Option.some.inj (hi.symm.trans hseen)
        simp
      · -- the label has only one place
        have hne : label ≠ l := by
          rintro rfl
          have hi := (h.places label i).2 hi
          exact heq (Option.some.inj (hplace.symm.trans hi))
        simp [heq, hne]
  · intro l
    have hlabel : label ∈ seen := List.mem_of_getElem? hseen
    rw [List.mem_append, List.mem_singleton, ← h.mem]
    constructor
    · exact Or.inl
    · rintro (hl | rfl)
      · exact hl
      · exact hlabel

/-- A label that has no entry gets one behind the others. -/
theorem Counts.add_new (h : t.Counts labels seen) (hplace : t.places[label]? = none) :
    (t.add label).Counts (labels ++ [label]) (seen ++ [label]) := by
  have hnew : label ∉ seen := by
    intro hmem
    obtain ⟨i, hi⟩ := List.mem_iff_getElem?.1 hmem
    rw [(h.places label i).2 hi] at hplace
    cases hplace
  have hlabels : label ∉ labels := fun hmem => hnew ((h.mem label).2 hmem)
  have hsize : t.entries.size = seen.length := by
    rw [← Array.length_toList, h.entries, List.length_map]
  have hadd : t.add label =
      { entries := t.entries.push ⟨label, 1⟩, places := t.places.insert label t.entries.size } := by
    rw [Tally.add, hplace]
  rw [hadd]
  refine ⟨?_, ?_, ?_, ?_⟩
  · rw [Array.toList_push, h.entries, List.map_append, List.map_singleton]
    congr 1
    · refine List.map_congr_left fun l hl => ?_
      have hne : label ≠ l := by
        rintro rfl
        exact hnew hl
      simp [hne]
    · simp [List.count_eq_zero_of_not_mem hlabels]
  · intro l i
    rw [Std.HashMap.getElem?_insert, hsize, getElem?_concat_eq_some]
    by_cases hl : label = l
    · subst hl
      have hnone : seen[i]? ≠ some label := fun hi => hnew (List.mem_of_getElem? hi)
      simp [hnone, eq_comm]
    · simp [hl, h.places]
  · intro l
    rw [List.mem_append, List.mem_append, h.mem]
  · rw [List.pairwise_append]
    refine ⟨occursBefore_append h.mem h.inOrder [label], List.pairwise_singleton _ _, ?_⟩
    intro a ha b hb
    obtain rfl := List.mem_singleton.1 hb
    have hlt := List.idxOf_lt_length_of_mem ((h.mem a).1 ha)
    unfold OccursBefore
    rw [List.idxOf_append_of_mem ((h.mem a).1 ha), List.idxOf_append_of_notMem hlabels]
    omega

theorem Counts.add (h : t.Counts labels seen) (label : Text) : ∃ seen', (t.add label).Counts (labels ++ [label]) seen' := by
  cases hplace : t.places[label]? with
  | some place => exact ⟨seen, h.add_seen hplace⟩
  | none => exact ⟨seen ++ [label], h.add_new hplace⟩

theorem Counts.foldl_add (h : t.Counts labels seen) (more : List Text) :
    ∃ seen', (more.foldl Tally.add t).Counts (labels ++ more) seen' := by
  induction more generalizing t labels seen with
  | nil => exact ⟨seen, by simpa using h⟩
  | cons label more ih =>
    obtain ⟨seen', h'⟩ := h.add label
    obtain ⟨seen'', h''⟩ := ih h'
    exact ⟨seen'', by simpa using h''⟩

end Tally

/-- The occurrences are those of the distinct labels, in the order of first occurrence. -/
theorem exists_occurrences_eq (labels : List Text) : ∃ seen : List Text,
    occurrences labels = seen.map (fun l => ⟨l, labels.count l⟩) ∧ (∀ l, l ∈ seen ↔ l ∈ labels) ∧
      seen.Pairwise (OccursBefore labels) := by
  obtain ⟨seen, h⟩ := Tally.counts_empty.foldl_add labels
  exact ⟨seen, h.entries, h.mem, h.inOrder⟩

/-! ### Exact rankings -/

/-- A label is ranked before another one if it occurs more often, or as often and first before the other one. -/
def RankedBefore (labels : List Text) (a b : Text) : Prop :=
  labels.count b < labels.count a ∨ labels.count b = labels.count a ∧ OccursBefore labels a b

theorem RankedBefore.ne {a b : Text} (h : RankedBefore labels a b) : a ≠ b := by
  rintro rfl
  rcases h with h | ⟨-, h⟩
  · exact Nat.lt_irrefl _ h
  · exact Nat.lt_irrefl _ h

/-- The entries are the first `n` labels of the lists in the order of rank, with the exact number of their occurrences. -/
structure IsExactRanking (n : Nat) (lists : List (List Text)) (entries : List RankedEntry) : Prop where
  length_eq : entries.length = min n lists.flatten.toFinset.card
  nodup : (entries.map (·.label)).Nodup
  mem : ∀ e ∈ entries, ∃ labels ∈ lists, e.label ∈ labels
  count : ∀ e ∈ entries, e.count = (lists.map (·.count e.label)).sum
  inOrder : (entries.map (·.label)).Pairwise (RankedBefore lists.flatten)
  omitted : ∀ labels ∈ lists, ∀ l ∈ labels, l ∉ entries.map (·.label) → ∀ e ∈ entries, RankedBefore lists.flatten e.label l

/-- The ranking of all occurrences, of which a ranking is the start. -/
theorem ranked_occurrences (labels : List Text) :
    (∀ e, e ∈ ranked (occurrences labels) ↔ e.label ∈ labels ∧ e.count = labels.count e.label) ∧
      (ranked (occurrences labels)).Pairwise (fun a b => RankedBefore labels a.label b.label) ∧
      (ranked (occurrences labels)).length = labels.toFinset.card := by
  obtain ⟨seen, heq, hmem, horder⟩ := exists_occurrences_eq labels
  have hperm := perm_ranked (occurrences labels)
  have hentry : ∀ e, e ∈ ranked (occurrences labels) ↔ e.label ∈ labels ∧ e.count = labels.count e.label := by
    intro e
    rw [hperm.mem_iff, heq, List.mem_map]
    constructor
    · rintro ⟨l, hl, rfl⟩
      exact ⟨(hmem l).1 hl, rfl⟩
    · rintro ⟨hl, hcount⟩
      exact ⟨e.label, (hmem _).2 hl, by rw [← hcount]⟩
  refine ⟨hentry, ?_, ?_⟩
  · have hoccurrences : (occurrences labels).Pairwise fun a b => OccursBefore labels a.label b.label := by
      rw [heq, List.pairwise_map]
      exact horder
    refine (pairwise_ranked hoccurrences).imp_of_mem ?_
    intro a b ha hb hab
    rw [((hentry a).1 ha).2, ((hentry b).1 hb).2] at hab
    exact hab
  · have hset : labels.toFinset = seen.toFinset := by
      ext l
      rw [List.mem_toFinset, List.mem_toFinset, hmem]
    rw [hperm.length_eq, heq, List.length_map, hset,
      List.toFinset_card_of_nodup (nodup_of_pairwise_occursBefore horder)]

theorem isExactRanking_top (n : Nat) (lists : List (List Text)) :
    IsExactRanking n lists (top n (occurrences lists.flatten)) := by
  obtain ⟨hentry, hrank, hlength⟩ := ranked_occurrences lists.flatten
  have hcut := List.take_append_drop n (ranked (occurrences lists.flatten))
  have hsub : ∀ e ∈ top n (occurrences lists.flatten), e ∈ ranked (occurrences lists.flatten) :=
    fun e he => List.mem_of_mem_take he
  have horder : ((top n (occurrences lists.flatten)).map (·.label)).Pairwise (RankedBefore lists.flatten) := by
    rw [List.pairwise_map]
    exact hrank.sublist (List.take_sublist n _)
  refine ⟨?_, horder.imp RankedBefore.ne, ?_, ?_, horder, ?_⟩
  · rw [top, List.length_take, hlength]
  · intro e he
    exact List.mem_flatten.1 ((hentry e).1 (hsub e he)).1
  · intro e he
    rw [((hentry e).1 (hsub e he)).2, List.count_flatten]
  · intro labels hlabels l hl homitted e he
    -- the entry of the label stands behind the cut
    have hmem := (hentry ⟨l, lists.flatten.count l⟩).2 ⟨List.mem_flatten.2 ⟨labels, hlabels, hl⟩, rfl⟩
    rw [← hcut, List.mem_append] at hmem
    have hbehind := hmem.resolve_left fun h => homitted (List.mem_map.2 ⟨_, h, rfl⟩)
    rw [← hcut, List.pairwise_append] at hrank
    exact hrank.2.2 e he _ hbehind

/-- The rankings of third-party hosts are exact, for every corpus and every length. -/
theorem CorpusSummary.isExactRanking_hosts (n : Nat) (websites : List ClassifiedWebsite) :
    IsExactRanking n (websites.map (·.cookieHosts.thirdParty)) (ofWebsites n websites).topCookieDomains ∧
      IsExactRanking n (websites.map (·.beaconHosts.thirdParty)) (ofWebsites n websites).topBeaconDomains := by
  have hcookies : (ofWebsites n websites).topCookieDomains =
      top n (occurrences (websites.map (·.cookieHosts.thirdParty)).flatten) := by
    rw [← List.flatMap_def]
    rfl
  have hbeacons : (ofWebsites n websites).topBeaconDomains =
      top n (occurrences (websites.map (·.beaconHosts.thirdParty)).flatten) := by
    rw [← List.flatMap_def]
    rfl
  rw [hcookies, hbeacons]
  exact ⟨isExactRanking_top n _, isExactRanking_top n _⟩

end TrackerAudit
