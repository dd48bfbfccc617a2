import TrackerAudit.Compliance.Report
import TrackerAudit.Proofs.Text.Keyed

/-!
# What is in the compliance sets

A website of the legal analysis is in A or B if it was measured and is of that class, and in Ao or Bo if it is clean as
well (`mem_websitesIn`). A website that was not measured is named in the diagnostics (`websites_diagnostics`). Since the
sets Ao and Bo are parts of A and B, the score divides a number by one that is at least as large, and not zero if there is
a report at all (`ComplianceReport.of_cases`).
-/

namespace TrackerAudit

namespace PracticalResults

/-- The results have cookies and beacons of the website, none of which is tracking, and there are no beacons. -/
def IsClean (p : PracticalResults) (website : Text) : Prop :=
  ∃ cookies beacons, p.cookies.get? website = some cookies ∧ p.beacons.get? website = some beacons ∧
    (∀ c ∈ cookies, c.tracking = false) ∧ (∀ b ∈ beacons, b.tracking = false) ∧ beacons = []

variable {p : PracticalResults} {website : Text}

theorem measurement_of_covers (h : p.covers website = true) : ∃ m, p.measurement website = .ok m ∧
    (m.isClean = true ↔ p.IsClean website) := by
  unfold covers at h
  unfold measurement IsClean
  cases hcookies : p.cookies.get? website with
  | none => simp [hcookies] at h
  | some cookies =>
    cases hbeacons : p.beacons.get? website with
    | none => simp [hbeacons] at h
    | some beacons =>
      refine ⟨_, rfl, ?_⟩
      simp only [Measurement.isClean, Bool.and_eq_true, Bool.not_eq_true', Bool.or_eq_false_iff, List.any_eq_false,
        Bool.not_eq_true, beq_iff_eq, List.length_eq_zero_iff, Option.some.injEq, exists_and_left, exists_eq_left',
        and_assoc]

theorem measurement_of_not_covers (h : p.covers website = false) : ∃ f, p.measurement website = .error f := by
  unfold covers at h
  unfold measurement
  cases hcookies : p.cookies.get? website with
  | none => exact ⟨_, rfl⟩
  | some cookies =>
    cases hbeacons : p.beacons.get? website with
    | none => exact ⟨_, rfl⟩
    | some beacons => simp [hcookies, hbeacons] at h

end PracticalResults

section

variable {legal : LegalAnalysis} {practice : PracticalResults}

theorem isIn_iff {website : Text} {own c : LegalClass} {onlyClean : Bool} :
    (Assessment.mk website own (practice.measurement website)).isIn c onlyClean = true ↔
      practice.covers website = true ∧ own = c ∧ (onlyClean = true → practice.IsClean website) := by
  unfold Assessment.isIn
  cases hcovers : practice.covers website with
  | false =>
    obtain ⟨f, hf⟩ := PracticalResults.measurement_of_not_covers hcovers
    simp [hf]
  | true =>
    obtain ⟨m, hm, hclean⟩ := PracticalResults.measurement_of_covers hcovers
    cases onlyClean <;> simp [hm, hclean]

/-- The websites of a class are those of the legal analysis with the class that were measured, and are clean if they
have to be. -/
theorem mem_websitesIn {c : LegalClass} {onlyClean : Bool} {website : Text} :
    website ∈ (websitesIn (assess legal practice) c onlyClean).toList ↔
      (∃ record, legal.get? website = some record ∧ record.legalClass = c) ∧ practice.covers website = true ∧
        (onlyClean = true → practice.IsClean website) := by
  unfold websitesIn assess
  simp only [TextSet.mem_ofList, List.mem_map, List.mem_filter]
  constructor
  · rintro ⟨_, ⟨⟨⟨name, record⟩, hentry, rfl⟩, hin⟩, rfl⟩
    obtain ⟨hcovers, hclass, hclean⟩ := isIn_iff.1 hin
    exact ⟨⟨record, Keyed.mem_entries.1 hentry, hclass⟩, hcovers, hclean⟩
  · rintro ⟨⟨record, hrecord, hclass⟩, hcovers, hclean⟩
    exact ⟨_, ⟨⟨(website, record), Keyed.mem_entries.2 hrecord, rfl⟩, isIn_iff.2 ⟨hcovers, hclass, hclean⟩⟩, rfl⟩

/-- The diagnostics name the websites that were not measured, in the order of the legal analysis. -/
theorem websites_diagnostics : (ComplianceOutcome.of legal practice).diagnostics.map (·.website) =
    legal.keys.filter fun website => !practice.covers website := by
  have hfilter (entries : List (Text × LegalRecord)) :
      ((entries.map fun e => Assessment.mk e.1 e.2.legalClass (practice.measurement e.1)).filterMap
        Assessment.diagnostic?).map (·.website) = (entries.map (·.1)).filter fun website => !practice.covers website := by
    induction entries with
    | nil => rfl
    | cons e entries ih =>
      rw [List.map_cons, List.map_cons, List.filterMap_cons, List.filter_cons, Assessment.diagnostic?]
      cases hcovers : practice.covers e.1 with
      | false =>
        obtain ⟨f, hf⟩ := PracticalResults.measurement_of_not_covers hcovers
        simpa [hf] using ih
      | true =>
        obtain ⟨m, hm, -⟩ := PracticalResults.measurement_of_covers hcovers
        simpa [hm] using ih
  exact hfilter legal.entries

end

/-! ### The outcome -/

/-- What is meant to be in the sets and diagnostics of an outcome. -/
structure ComplianceOutcome.IsComparison (legal : LegalAnalysis) (practice : PracticalResults) (o : ComplianceOutcome) :
    Prop where
  mem_a : ∀ website, website ∈ o.sets.a.toList ↔ ∃ record, legal.get? website = some record ∧ record.legalClass = .a ∧
    (practice.cookies.get? website).isSome = true ∧ (practice.beacons.get? website).isSome = true
  mem_b : ∀ website, website ∈ o.sets.b.toList ↔ ∃ record, legal.get? website = some record ∧ record.legalClass = .b ∧
    (practice.cookies.get? website).isSome = true ∧ (practice.beacons.get? website).isSome = true
  mem_ao : ∀ website, website ∈ o.sets.ao.toList ↔ website ∈ o.sets.a.toList ∧ practice.IsClean website
  mem_bo : ∀ website, website ∈ o.sets.bo.toList ↔ website ∈ o.sets.b.toList ∧ practice.IsClean website
  disjoint : Disjoint o.sets.a.members o.sets.b.members
  ao_subset : o.sets.ao.members ⊆ o.sets.a.members
  bo_subset : o.sets.bo.members ⊆ o.sets.b.members
  diagnostics_ordered : (o.diagnostics.map (·.website)).Pairwise (· < ·)
  mem_diagnostics : ∀ website, website ∈ o.diagnostics.map (·.website) ↔ (legal.get? website).isSome = true ∧
    ((practice.cookies.get? website).isSome = false ∨ (practice.beacons.get? website).isSome = false)

namespace ComplianceOutcome

variable (legal : LegalAnalysis) (practice : PracticalResults)

private theorem mem_atRisk {c : LegalClass} {website : Text} :
    website ∈ (websitesIn (assess legal practice) c false).toList ↔
      ∃ record, legal.get? website = some record ∧ record.legalClass = c ∧
        (practice.cookies.get? website).isSome = true ∧ (practice.beacons.get? website).isSome = true := by
  rw [mem_websitesIn, PracticalResults.covers, Bool.and_eq_true]
  simp only [Bool.false_eq_true, false_implies, and_true, ← exists_and_right, and_assoc]

private theorem mem_clean {c : LegalClass} {website : Text} :
    website ∈ (websitesIn (assess legal practice) c true).toList ↔
      website ∈ (websitesIn (assess legal practice) c false).toList ∧ practice.IsClean website := by
  rw [mem_websitesIn, mem_websitesIn]
  simp only [Bool.false_eq_true, false_implies, true_implies, and_true, and_assoc]

theorem isComparison_of : (of legal practice).IsComparison legal practice where
  mem_a _ := mem_atRisk legal practice
  mem_b _ := mem_atRisk legal practice
  mem_ao _ := mem_clean legal practice
  mem_bo _ := mem_clean legal practice
  disjoint := by
    rw [Finset.disjoint_left]
    intro website ha hb
    obtain ⟨record, hrecord, hclass, -⟩ := (mem_atRisk legal practice).1 (TextSet.mem_members.1 ha)
    obtain ⟨record', hrecord', hclass', -⟩ := (mem_atRisk legal practice).1 (TextSet.mem_members.1 hb)
    -- a website has one record, and a record has one class
    obtain rfl := Option.some.inj (hrecord.symm.trans hrecord')
    rw [hclass] at hclass'
    cases hclass'
  ao_subset := fun _ h => TextSet.mem_members.2 ((mem_clean legal practice).1 (TextSet.mem_members.1 h)).1
  bo_subset := fun _ h => TextSet.mem_members.2 ((mem_clean legal practice).1 (TextSet.mem_members.1 h)).1
  diagnostics_ordered := by
    rw [websites_diagnostics]
    exact legal.keys_ordered.sublist List.filter_sublist
  mem_diagnostics website := by
    rw [websites_diagnostics, List.mem_filter, Keyed.mem_keys_iff, PracticalResults.covers, Bool.not_eq_true',
      Bool.and_eq_false_iff]

end ComplianceOutcome

/-! ### The report -/

/-- What is meant to be in a report on an outcome. -/
structure ComplianceReport.IsReportOn (o : ComplianceOutcome) (r : ComplianceReport) : Prop where
  sets : r.sets = o.sets
  diagnostics : r.diagnostics = o.diagnostics
  sizes : r.sizes = ⟨o.sets.a.members.card, o.sets.b.members.card, o.sets.ao.members.card, o.sets.bo.members.card⟩
  card_pos : 0 < (o.sets.a.members ∪ o.sets.b.members).card
  card_le : (o.sets.ao.members ∪ o.sets.bo.members).card ≤ (o.sets.a.members ∪ o.sets.b.members).card
  score : r.score = Float.ofNat (o.sets.ao.members ∪ o.sets.bo.members).card /
    Float.ofNat (o.sets.a.members ∪ o.sets.b.members).card

/-- There is no report exactly if A and B are empty. -/
theorem ComplianceReport.ofOutcome_cases {o : ComplianceOutcome} (hao : o.sets.ao.members ⊆ o.sets.a.members)
    (hbo : o.sets.bo.members ⊆ o.sets.b.members) :
    (ofOutcome o = .error (.undefined .noSiteAtRisk) ∧ o.sets.a.members = ∅ ∧ o.sets.b.members = ∅) ∨
      ∃ r, ofOutcome o = .ok r ∧ r.IsReportOn o := by
  have hcard : (o.sets.a.union o.sets.b).size = (o.sets.a.members ∪ o.sets.b.members).card := by
    rw [TextSet.size_eq_card, TextSet.members_union]
  have hclean : (o.sets.ao.union o.sets.bo).size = (o.sets.ao.members ∪ o.sets.bo.members).card := by
    rw [TextSet.size_eq_card, TextSet.members_union]
  unfold ofOutcome ComplianceSets.score
  dsimp only
  rw [hcard, hclean]
  by_cases hzero : (o.sets.a.members ∪ o.sets.b.members).card = 0
  · rw [if_pos hzero]
    rw [Finset.card_eq_zero, Finset.union_eq_empty] at hzero
    exact Or.inl ⟨rfl, hzero⟩
  · rw [if_neg hzero]
    refine Or.inr ⟨_, rfl, ?_⟩
    exact {
      sets := rfl
      diagnostics := rfl
      sizes := by simp only [SetSizes.ofSets, TextSet.size_eq_card]
      card_pos := Nat.pos_of_ne_zero hzero
      card_le := Finset.card_le_card (Finset.union_subset_union hao hbo)
      score := rfl }

/-- The sets and diagnostics of a comparison are the intended ones. There is no report on it exactly if A and B are
empty, and else the report has their sizes, and as its score the share of the clean websites among those at risk. -/
theorem ComplianceReport.of_cases (legal : LegalAnalysis) (practice : PracticalResults) :
    (ComplianceOutcome.of legal practice).IsComparison legal practice ∧
      ((of legal practice = .error (.undefined .noSiteAtRisk) ∧
          (ComplianceOutcome.of legal practice).sets.a.members = ∅ ∧
          (ComplianceOutcome.of legal practice).sets.b.members = ∅) ∨
        ∃ r, of legal practice = .ok r ∧ r.IsReportOn (ComplianceOutcome.of legal practice)) := by
  have hcomparison := ComplianceOutcome.isComparison_of legal practice
  exact ⟨hcomparison, ofOutcome_cases hcomparison.ao_subset hcomparison.bo_subset⟩

end TrackerAudit
