import TrackerAudit.Classify.Website
import TrackerAudit.Proofs.Matching.Lines

/-!
# Stricter lists make more resources tracking

If each list of a catalogue gets stricter, then under both scopes of exceptions every request that was blocked stays
blocked (`Catalogue.Stricter.judge`), and so every cookie and beacon that was tracking stays tracking
(`Classifier.raisedTo_classify`).
-/

namespace TrackerAudit

namespace Catalogue

/-- Each list of the second catalogue is stricter. -/
structure Stricter (c c' : Catalogue) : Prop where
  easyList : c.easyList.Stricter c'.easyList
  easyPrivacy : c.easyPrivacy.Stricter c'.easyPrivacy
  fanboyAnnoyance : c.fanboyAnnoyance.Stricter c'.fanboyAnnoyance

variable {c c' : Catalogue} {q : Request}

theorem judgePerList_blocked : (c.judgePerList q).blocked = true ↔ ∃ s ∈ c.sets, (s.decision q).blocked = true := by
  unfold judgePerList
  dsimp only
  cases h : (c.sets.map (·.decision q)).find? (·.blocked) with
  | none =>
    rw [List.find?_eq_none] at h
    simpa using h
  | some d =>
    have hd := List.find?_some h
    obtain ⟨s, hs, rfl⟩ := List.mem_map.1 (List.mem_of_find?_eq_some h)
    simp only [Option.getD_some, hd, true_iff]
    exact ⟨s, hs, hd⟩

theorem judgeGlobal_blocked : (c.judgeGlobal q).blocked = true ↔
    (∃ s ∈ c.sets, (s.block? q).isSome = true) ∧ ∀ s ∈ c.sets, (s.exception? q).isSome = false := by
  rw [judgeGlobal, decideBy_blocked, List.findSome?_isSome_iff]
  simp [List.findSome?_eq_none_iff]

theorem mem_sets {P : RuleSet → Prop} : (∃ s ∈ c.sets, P s) ↔ P c.easyList ∨ P c.easyPrivacy ∨ P c.fanboyAnnoyance := by
  simp [sets]

theorem Stricter.perList (h : c.Stricter c') (hq : (c.judgePerList q).blocked = true) :
    (c'.judgePerList q).blocked = true := by
  rw [judgePerList_blocked, mem_sets] at hq ⊢
  exact hq.imp h.easyList.blocked (Or.imp h.easyPrivacy.blocked h.fanboyAnnoyance.blocked)

theorem Stricter.global (h : c.Stricter c') (hq : (c.judgeGlobal q).blocked = true) :
    (c'.judgeGlobal q).blocked = true := by
  rw [judgeGlobal_blocked, mem_sets] at hq ⊢
  refine ⟨hq.1.imp (h.easyList.block q) (Or.imp (h.easyPrivacy.block q) (h.fanboyAnnoyance.block q)), ?_⟩
  -- an exception of a stricter list is one of the list itself
  by_contra hne
  simp only [not_forall, Bool.not_eq_false, exists_prop] at hne
  have hexception : ∃ s ∈ c.sets, (s.exception? q).isSome = true := by
    rw [mem_sets] at hne ⊢
    exact hne.imp (h.easyList.exception q) (Or.imp (h.easyPrivacy.exception q) (h.fanboyAnnoyance.exception q))
  obtain ⟨s, hs, he⟩ := hexception
  rw [hq.2 s hs] at he
  cases he

theorem Stricter.judge (h : c.Stricter c') {scope : ExceptionScope} (hq : (c.judge scope q).blocked = true) :
    (c'.judge scope q).blocked = true := by
  cases scope with
  | perList => exact h.perList hq
  | global => exact h.global hq

end Catalogue

/-- The same cookie, which is tracking the second time if it was so the first time. -/
structure ClassifiedCookie.RaisedTo (c c' : ClassifiedCookie) : Prop where
  cookie : c.cookie = c'.cookie
  tracking : c.tracking = true → c'.tracking = true

/-- The same beacon, which is tracking the second time if it was so the first time. -/
structure ClassifiedBeacon.RaisedTo (b b' : ClassifiedBeacon) : Prop where
  beacon : b.beacon = b'.beacon
  tracking : b.tracking = true → b'.tracking = true

/-- The same cookies and beacons, which are tracking the second time if they were so the first time. -/
structure ClassifiedWebsite.RaisedTo (w w' : ClassifiedWebsite) : Prop where
  website : w.website = w'.website
  cookies : List.Forall₂ ClassifiedCookie.RaisedTo w.cookies w'.cookies
  beacons : List.Forall₂ ClassifiedBeacon.RaisedTo w.beacons w'.beacons

namespace Classifier

variable {c c' : Classifier}

theorem anyBlocked_of_stricter (h : c.catalogue.Stricter c'.catalogue) (ho : c.options = c'.options)
    {requests : List Request} (hq : c.anyBlocked requests = true) : c'.anyBlocked requests = true := by
  unfold anyBlocked at hq ⊢
  rw [List.any_eq_true] at hq ⊢
  obtain ⟨q, hmem, hblocked⟩ := hq
  refine ⟨q, hmem, ?_⟩
  unfold judge at hblocked ⊢
  rw [← ho]
  exact h.judge hblocked

theorem raisedTo_classify (h : c.catalogue.Stricter c'.catalogue) (ho : c.options = c'.options) (site : Evidence) :
    (c.classify site).RaisedTo (c'.classify site) where
  website := rfl
  cookies := by
    unfold classify
    rw [List.forall₂_map_left_iff, List.forall₂_map_right_iff, List.forall₂_same]
    intro cookie _
    refine ⟨rfl, ?_⟩
    unfold isTrackingCookie
    rw [← ho]
    exact anyBlocked_of_stricter h ho
  beacons := by
    unfold classify
    rw [List.forall₂_map_left_iff, List.forall₂_map_right_iff, List.forall₂_same]
    intro beacon _
    refine ⟨rfl, ?_⟩
    unfold isTrackingBeacon
    rw [← ho]
    exact anyBlocked_of_stricter h ho

end Classifier

end TrackerAudit
