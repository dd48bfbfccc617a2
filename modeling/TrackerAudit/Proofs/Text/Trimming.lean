import TrackerAudit.Proofs.Text.Cutting

/-!
# Trimming

A text is what remains of it after trimming between two stretches of the characters that are trimmed
(`exists_eq_trimBy`), and such stretches at its ends count for nothing (`trimBy_append_left`, `trimBy_append_right`). So
a text that is divided at a separator and whose pieces are then trimmed may as well be trimmed before
(`map_trim_splitOn_trim`).
-/

namespace TrackerAudit.Text

variable {p : Char → Bool} {a b s : Text}

/-! ### Trimming one end -/

theorem beq_eq_false_of_mem {c d : Char} (hd : d ∉ s) (hc : c ∈ s) : (c == d) = false := by
  rw [beq_eq_false_iff_ne]
  rintro rfl
  exact hd hc

theorem dropEnd_append_of_forall (h : ∀ c ∈ b, p c = true) : dropEnd p (a ++ b) = dropEnd p a := by
  have hrev : ∀ c ∈ b.reverse, p c = true := fun c hc => h c (List.mem_reverse.1 hc)
  rw [dropEnd, dropEnd, List.reverse_append, List.dropWhile_append_of_pos hrev]

theorem exists_eq_dropEnd (p : Char → Bool) (s : Text) : ∃ b, s = dropEnd p s ++ b ∧ ∀ c ∈ b, p c = true := by
  refine ⟨(s.reverse.takeWhile p).reverse, ?_, fun c hc => List.mem_takeWhile_imp (List.mem_reverse.1 hc)⟩
  rw [dropEnd, ← List.reverse_append, List.takeWhile_append_dropWhile, List.reverse_reverse]

/-- Nothing is dropped of what stands before a character of another kind. -/
theorem dropEnd_append_of_getLast? (h : ∀ c ∈ a.getLast?, p c = false) :
    dropEnd p (a ++ s) = a ++ dropEnd p s := by
  have hrev : ∀ c ∈ a.reverse.head?, p c = false := by rwa [List.head?_reverse]
  rw [dropEnd, dropEnd, List.reverse_append, dropWhile_append_of_head? hrev, List.reverse_append,
    List.reverse_reverse]

/-! ### Trimming both ends -/

theorem trimBy_append_left (h : ∀ c ∈ a, p c = true) : trimBy p (a ++ s) = trimBy p s := by
  rw [trimBy, trimBy, List.dropWhile_append_of_pos h]

theorem trimBy_append_right (h : ∀ c ∈ b, p c = true) : trimBy p (s ++ b) = trimBy p s := by
  rw [trimBy, trimBy, List.dropWhile_append]
  split
  · rename_i hs
    rw [List.isEmpty_iff.1 hs, List.dropWhile_eq_nil_iff.2 h]
  · exact dropEnd_append_of_forall h

theorem exists_eq_trimBy (p : Char → Bool) (s : Text) :
    ∃ a b, s = a ++ (trimBy p s ++ b) ∧ (∀ c ∈ a, p c = true) ∧ ∀ c ∈ b, p c = true := by
  obtain ⟨b, hb, hblank⟩ := exists_eq_dropEnd p (s.dropWhile p)
  refine ⟨s.takeWhile p, b, ?_, fun c hc => List.mem_takeWhile_imp hc, hblank⟩
  rw [trimBy, ← hb, List.takeWhile_append_dropWhile]

theorem trimBy_trimBy (p : Char → Bool) (s : Text) : trimBy p (trimBy p s) = trimBy p s := by
  obtain ⟨a, b, hs, ha, hb⟩ := exists_eq_trimBy p s
  calc trimBy p (trimBy p s) = trimBy p (a ++ (trimBy p s ++ b)) := by
        rw [trimBy_append_left ha, trimBy_append_right hb]
    _ = trimBy p s := by rw [← hs]

theorem trimBy_dropEnd (p : Char → Bool) (s : Text) : trimBy p (dropEnd p s) = trimBy p s := by
  obtain ⟨b, hs, hb⟩ := exists_eq_dropEnd p s
  rw [← trimBy_append_right hb, ← hs]

theorem trimBy_subset (p : Char → Bool) (s : Text) : trimBy p s ⊆ s := by
  obtain ⟨a, b, hs, -, -⟩ := exists_eq_trimBy p s
  intro c hc
  rw [hs]
  exact List.mem_append_right _ (List.mem_append_left _ hc)

theorem length_trimBy_le (p : Char → Bool) (s : Text) : (trimBy p s).length ≤ s.length := by
  obtain ⟨a, b, hs, -, -⟩ := exists_eq_trimBy p s
  have := congrArg List.length hs
  simp only [List.length_append] at this
  omega

/-- A character of another kind stays. -/
theorem mem_trimBy {c : Char} (hc : c ∈ s) (h : p c = false) : c ∈ trimBy p s := by
  obtain ⟨a, b, hs, ha, hb⟩ := exists_eq_trimBy p s
  have hnot {t : Text} (ht : ∀ d ∈ t, p d = true) : c ∉ t := by
    intro hmem
    rw [ht c hmem] at h
    cases h
  rw [hs, List.mem_append, List.mem_append] at hc
  rcases hc with hc | hc | hc
  · exact absurd hc (hnot ha)
  · exact hc
  · exact absurd hc (hnot hb)

theorem getLast?_trimBy (p : Char → Bool) (s : Text) : ∀ c ∈ (trimBy p s).getLast?, p c = false := by
  intro c hc
  rw [trimBy, dropEnd, List.getLast?_reverse, Option.mem_def] at hc
  have hnot := List.head?_dropWhile_not p (s.dropWhile p).reverse
  rwa [hc] at hnot

theorem head?_trimBy (p : Char → Bool) (s : Text) : ∀ c ∈ (trimBy p s).head?, p c = false := by
  intro c hc
  obtain ⟨b, hb, -⟩ := exists_eq_dropEnd p (s.dropWhile p)
  have hhead : (s.dropWhile p).head? = some c := by
    rw [hb, List.head?_append, ← trimBy, Option.mem_def.1 hc]
    rfl
  have hnot := List.head?_dropWhile_not p s
  rwa [hhead] at hnot

theorem trimBy_of_ends (hhead : ∀ c ∈ s.head?, p c = false) (hlast : ∀ c ∈ s.getLast?, p c = false) :
    trimBy p s = s := by
  have hdrop : s.dropWhile p = s := by
    cases s with
    | nil => rfl
    | cons c s => simp [hhead c rfl]
  rw [trimBy, hdrop, dropEnd_of_getLast? hlast]

/-- What starts and ends with characters of another kind stays, whatever follows. -/
theorem trimBy_append_of_ends (hne : a ≠ []) (hhead : ∀ c ∈ a.head?, p c = false) (hlast : ∀ c ∈ a.getLast?, p c = false) :
    trimBy p (a ++ s) = a ++ dropEnd p s := by
  obtain ⟨c, a, rfl⟩ := List.exists_cons_of_ne_nil hne
  have hc := hhead c rfl
  rw [trimBy, List.cons_append, List.dropWhile_cons_of_neg (by simp [hc]), ← List.cons_append,
    dropEnd_append_of_getLast? hlast]

/-! ### Trimming blanks -/

theorem trim_of_forall (h : ∀ c ∈ s, isBlank c = false) : trim s = s :=
  trimBy_of_ends (fun c hc => h c (List.mem_of_mem_head? hc)) fun c hc => h c (List.mem_of_mem_getLast? hc)

theorem trim_subset (s : Text) : trim s ⊆ s := trimBy_subset isBlank s

theorem trim_trim (s : Text) : trim (trim s) = trim s := trimBy_trimBy isBlank s

section

variable {c : Char} (hc : isBlank c = false)

include hc

private theorem map_trim_splitOn_append_left (ha : ∀ d ∈ a, isBlank d = true) :
    ((a ++ s).splitOn c).map trim = (s.splitOn c).map trim := by
  induction a with
  | nil => rfl
  | cons d a ih =>
    have hd := ha d (by simp)
    have hne : (d == c) = false := by
      rw [beq_eq_false_iff_ne]
      rintro rfl
      rw [hc] at hd
      cases hd
    rw [List.cons_append, List.splitOn_cons_eq_if_modifyHead, hne, if_neg Bool.false_ne_true,
      ← ih fun x hx => ha x (by simp [hx])]
    cases (a ++ s).splitOn c with
    | nil => rfl
    | cons piece pieces =>
      have hpiece : trim (d :: piece) = trim piece := trimBy_append_left (a := [d]) (by simpa using hd)
      rw [List.modifyHead_cons, List.map_cons, List.map_cons, hpiece]

private theorem map_trim_splitOn_append_right (hb : ∀ d ∈ b, isBlank d = true) :
    ((s ++ b).splitOn c).map trim = (s.splitOn c).map trim := by
  have hmem : c ∉ b := by
    intro hmem
    rw [hb c hmem] at hc
    cases hc
  -- only the last piece changes
  obtain ⟨a, run, rfl, hrun, ha⟩ := exists_last_run (· == c) s
  have hfree : c ∉ run := fun h => absurd (hrun c h) (by simp)
  have hrunb : c ∉ run ++ b := fun h => (List.mem_append.1 h).elim hfree hmem
  have htrim : trim (run ++ b) = trim run := trimBy_append_right hb
  rcases List.eq_nil_or_concat' a with rfl | ⟨a, d, rfl⟩
  · rw [List.nil_append, List.splitOn_eq_singleton hfree, List.splitOn_eq_singleton hrunb, List.map_singleton,
      List.map_singleton, htrim]
  · obtain rfl : d = c := by simpa using ha d (by simp)
    have hsplit {t : Text} (ht : d ∉ t) : (a ++ [d] ++ t).splitOn d = a.splitOn d ++ [t] := by
      rw [List.append_assoc, List.singleton_append, List.splitOn_append_cons_self, List.splitOn_eq_singleton ht]
    rw [List.append_assoc _ run, hsplit hfree, hsplit hrunb, List.map_append, List.map_append, List.map_singleton,
      List.map_singleton, htrim]

theorem map_trim_splitOn_trim (s : Text) : ((trim s).splitOn c).map trim = (s.splitOn c).map trim := by
  obtain ⟨a, b, hs, ha, hb⟩ := exists_eq_trimBy isBlank s
  calc ((trim s).splitOn c).map trim = ((a ++ (trim s ++ b)).splitOn c).map trim := by
        rw [map_trim_splitOn_append_left hc ha, map_trim_splitOn_append_right hc hb]
    _ = (s.splitOn c).map trim := by rw [trim, ← hs]

end

end TrackerAudit.Text
