import TrackerAudit.Compliance.Sets
import TrackerAudit.Proofs.Classify.Monotone
import TrackerAudit.Proofs.Text.Keyed

/-!
# One more line in a filter list, and the compliance sets

What is measured on websites decides which of them are clean, and more tracking resources leave fewer of them clean,
while the sets A and B do not depend on tracking at all (`ComplianceOutcome.sets_of_raisedTo`). So one more blocking rule
in any of the three lists can only take websites out of Ao and Bo, and one more exception can only put websites in.
-/

namespace TrackerAudit

open Text

/-! ### Measurements -/

/-- The second measurement has as many beacons, and tracking resources if the first has. -/
structure Measurement.RaisedTo (m m' : Measurement) : Prop where
  beacons : m.beacons = m'.beacons
  hasTracking : m.hasTracking = true → m'.hasTracking = true

theorem Measurement.RaisedTo.isClean {m m' : Measurement} (h : m.RaisedTo m') (hc : m'.isClean = true) :
    m.isClean = true := by
  simp only [Measurement.isClean, Bool.and_eq_true, Bool.not_eq_true', h.beacons] at hc ⊢
  refine ⟨?_, hc.2⟩
  rw [Bool.eq_false_iff]
  intro ht
  rw [h.hasTracking ht] at hc
  cases hc.1

private theorem any_of_forall₂ {α β : Type} {R : α → β → Prop} {p : α → Bool} {p' : β → Bool}
    (hR : ∀ a b, R a b → p a = true → p' b = true) {l : List α} {l' : List β} (h : List.Forall₂ R l l')
    (hl : l.any p = true) : l'.any p' = true := by
  induction h with
  | nil => exact hl
  | cons hab _ ih =>
    rw [List.any_cons, Bool.or_eq_true] at hl ⊢
    exact hl.imp (hR _ _ hab) ih

namespace PracticalResults

variable {ws ws' : List ClassifiedWebsite}

theorem rel_cookies (h : List.Forall₂ ClassifiedWebsite.RaisedTo ws ws') (website : Text) :
    Option.Rel (List.Forall₂ ClassifiedCookie.RaisedTo) ((ofWebsites ws).cookies.get? website)
      ((ofWebsites ws').cookies.get? website) := by
  refine Keyed.rel_get?_ofList ?_ website
  rw [List.forall₂_map_left_iff, List.forall₂_map_right_iff]
  exact h.imp fun _ _ hw => ⟨hw.website, hw.cookies⟩

theorem rel_beacons (h : List.Forall₂ ClassifiedWebsite.RaisedTo ws ws') (website : Text) :
    Option.Rel (List.Forall₂ ClassifiedBeacon.RaisedTo) ((ofWebsites ws).beacons.get? website)
      ((ofWebsites ws').beacons.get? website) := by
  refine Keyed.rel_get?_ofList ?_ website
  rw [List.forall₂_map_left_iff, List.forall₂_map_right_iff]
  exact h.imp fun _ _ hw => ⟨hw.website, hw.beacons⟩

/-- On each website both results lack the same, or the second measurement is a raised one. -/
theorem measurement_of_raisedTo (h : List.Forall₂ ClassifiedWebsite.RaisedTo ws ws') (website : Text) :
    (∃ f, (ofWebsites ws).measurement website = .error f ∧ (ofWebsites ws').measurement website = .error f) ∨
      ∃ m m', (ofWebsites ws).measurement website = .ok m ∧ (ofWebsites ws').measurement website = .ok m' ∧
        m.RaisedTo m' := by
  have hcookies := rel_cookies h website
  have hbeacons := rel_beacons h website
  unfold measurement
  generalize (ofWebsites ws).cookies.get? website = cookies at hcookies ⊢
  generalize (ofWebsites ws').cookies.get? website = cookies' at hcookies ⊢
  generalize (ofWebsites ws).beacons.get? website = beacons at hbeacons ⊢
  generalize (ofWebsites ws').beacons.get? website = beacons' at hbeacons ⊢
  -- a website that one of the results does not know is unknown to the other
  cases hcookies with
  | none => exact Or.inl ⟨_, rfl, rfl⟩
  | some hc =>
    cases hbeacons with
    | none => exact Or.inl ⟨_, rfl, rfl⟩
    | some hb =>
      refine Or.inr ⟨_, _, rfl, rfl, hb.length_eq, fun ht => ?_⟩
      rw [Bool.or_eq_true] at ht ⊢
      exact ht.imp (any_of_forall₂ (fun _ _ hab => hab.tracking) hc) (any_of_forall₂ (fun _ _ hab => hab.tracking) hb)

end PracticalResults

/-! ### The sets -/

/-- The second outcome has the same sets A and B, and its sets Ao and Bo are parts of those of the first. -/
structure ComplianceSets.LoweredTo (s s' : ComplianceSets) : Prop where
  a : s.a = s'.a
  b : s.b = s'.b
  ao : ∀ website ∈ s'.ao.toList, website ∈ s.ao.toList
  bo : ∀ website ∈ s'.bo.toList, website ∈ s.bo.toList

section

variable {ws ws' : List ClassifiedWebsite} (h : List.Forall₂ ClassifiedWebsite.RaisedTo ws ws') (legal : LegalAnalysis)

include h

private theorem isIn_of_raisedTo (website : Text) (c own : LegalClass) (onlyClean : Bool)
    (hin : (Assessment.mk website own ((PracticalResults.ofWebsites ws').measurement website)).isIn c onlyClean = true) :
    (Assessment.mk website own ((PracticalResults.ofWebsites ws).measurement website)).isIn c onlyClean = true := by
  unfold Assessment.isIn at hin ⊢
  rcases PracticalResults.measurement_of_raisedTo h website with ⟨f, -, hf'⟩ | ⟨m, m', hm, hm', hraised⟩
  · rw [hf'] at hin
    cases hin
  · rw [hm'] at hin
    rw [hm]
    simp only [Bool.and_eq_true, Bool.or_eq_true] at hin ⊢
    exact ⟨hin.1, hin.2.imp_right hraised.isClean⟩

private theorem isIn_false_of_raisedTo (website : Text) (c own : LegalClass) :
    (Assessment.mk website own ((PracticalResults.ofWebsites ws).measurement website)).isIn c false =
      (Assessment.mk website own ((PracticalResults.ofWebsites ws').measurement website)).isIn c false := by
  unfold Assessment.isIn
  rcases PracticalResults.measurement_of_raisedTo h website with ⟨f, hf, hf'⟩ | ⟨m, m', hm, hm', -⟩
  · rw [hf, hf']
  · rw [hm, hm']
    rfl

private theorem websitesIn_eq_of_raisedTo (c : LegalClass) :
    websitesIn (assess legal (PracticalResults.ofWebsites ws)) c false =
      websitesIn (assess legal (PracticalResults.ofWebsites ws')) c false := by
  unfold websitesIn assess
  rw [List.filter_map, List.filter_map, List.map_map, List.map_map]
  congr 2
  refine List.filter_congr fun e _ => ?_
  exact isIn_false_of_raisedTo h e.1 c e.2.legalClass

private theorem mem_websitesIn_of_raisedTo (c : LegalClass) {website : Text}
    (hin : website ∈ (websitesIn (assess legal (PracticalResults.ofWebsites ws')) c true).toList) :
    website ∈ (websitesIn (assess legal (PracticalResults.ofWebsites ws)) c true).toList := by
  unfold websitesIn assess at hin ⊢
  simp only [TextSet.mem_ofList, List.mem_map, List.mem_filter] at hin ⊢
  obtain ⟨_, ⟨⟨e, he, rfl⟩, hin⟩, rfl⟩ := hin
  exact ⟨_, ⟨⟨e, he, rfl⟩, isIn_of_raisedTo h e.1 c e.2.legalClass true hin⟩, rfl⟩

/-- More tracking resources leave A and B as they are and only take websites out of Ao and Bo. -/
theorem ComplianceOutcome.sets_of_raisedTo : (ComplianceOutcome.of legal (PracticalResults.ofWebsites ws)).sets.LoweredTo
    (ComplianceOutcome.of legal (PracticalResults.ofWebsites ws')).sets where
  a := websitesIn_eq_of_raisedTo h legal .a
  b := websitesIn_eq_of_raisedTo h legal .b
  ao := fun _ => mem_websitesIn_of_raisedTo h legal .a
  bo := fun _ => mem_websitesIn_of_raisedTo h legal .b

end

/-! ### One more line -/

namespace Classifier

/-- The classifier for the texts of the three lists. -/
def ofTexts (texts : SourceList → Text) (options : ClassifierOptions) : Classifier :=
  ⟨Catalogue.read (texts .easyList) (texts .easyPrivacy) (texts .fanboyAnnoyance), options⟩

/-- What is tracking for the first classifier is so for the second, which leaves A and B as they are and only takes
websites out of Ao and Bo. -/
structure Raises (c c' : Classifier) (legal : LegalAnalysis) (sites : List Evidence) : Prop where
  websites : ∀ site, (c.classify site).RaisedTo (c'.classify site)
  sets : (ComplianceOutcome.of legal (PracticalResults.ofWebsites (sites.map c.classify))).sets.LoweredTo
    (ComplianceOutcome.of legal (PracticalResults.ofWebsites (sites.map c'.classify))).sets

theorem raises_of_stricter {texts texts' : SourceList → Text}
    (h : ∀ s, (CompiledList.read (texts s) s).rules.Stricter (CompiledList.read (texts' s) s).rules)
    (options : ClassifierOptions) (legal : LegalAnalysis) (sites : List Evidence) :
    (ofTexts texts options).Raises (ofTexts texts' options) legal sites := by
  have hcatalogue : (ofTexts texts options).catalogue.Stricter (ofTexts texts' options).catalogue :=
    ⟨h .easyList, h .easyPrivacy, h .fanboyAnnoyance⟩
  have hclassify := raisedTo_classify hcatalogue rfl
  refine ⟨hclassify, ComplianceOutcome.sets_of_raisedTo ?_ legal⟩
  rw [List.forall₂_map_left_iff, List.forall₂_map_right_iff, List.forall₂_same]
  exact fun site _ => hclassify site

private theorem stricter_of_others {texts texts' : SourceList → Text} {source : SourceList}
    (hothers : ∀ other, other ≠ source → texts' other = texts other)
    (h : (CompiledList.read (texts source) source).rules.Stricter (CompiledList.read (texts' source) source).rules)
    (s : SourceList) : (CompiledList.read (texts s) s).rules.Stricter (CompiledList.read (texts' s) s).rules := by
  by_cases hs : s = source
  · rw [hs]
    exact h
  · rw [hothers s hs]
    exact .rfl

/-- One more line with a blocking rule in one of the lists makes no tracking cookie or beacon harmless and puts no
website into Ao or Bo; one more line with an exception makes none tracking and takes no website out. Both leave A and B
as they are. -/
theorem raises_of_insertsLine {texts texts' : SourceList → Text} {source : SourceList} {line : Text}
    (hline : InsertsLine line (texts source) (texts' source)) (hothers : ∀ other, other ≠ source → texts' other = texts other)
    {number : Nat} {r : Rule} (hr : Rule.read line source number = .ok (some r)) (hbad : r.flags.badfilter = false)
    (options : ClassifierOptions) (legal : LegalAnalysis) (sites : List Evidence) :
    if r.isException then (ofTexts texts' options).Raises (ofTexts texts options) legal sites
    else (ofTexts texts options).Raises (ofTexts texts' options) legal sites := by
  have hlist := CompiledList.stricter_of_insertsLine hline hr hbad
  split
  · rename_i hexception
    rw [if_pos hexception] at hlist
    exact raises_of_stricter (stricter_of_others (fun s hs => (hothers s hs).symm) hlist) options legal sites
  · rename_i hexception
    rw [if_neg hexception] at hlist
    exact raises_of_stricter (stricter_of_others hothers hlist) options legal sites

/-- An exception between two rules of the second list. -/
theorem raises_of_exception_between :
    InsertsLine "@@/ad".toList "/x\n/a".toList "/x\n@@/ad\n/a".toList ∧
      ∃ r, Rule.read "@@/ad".toList .easyPrivacy 2 = .ok (some r) ∧ r.isException = true ∧ r.flags.badfilter = false ∧
        (ofTexts (fun s => if s = .easyPrivacy then "/x\n@@/ad\n/a".toList else "/y".toList)
            { exceptionScope := .global }).Raises
          (ofTexts (fun s => if s = .easyPrivacy then "/x\n/a".toList else "/y".toList) { exceptionScope := .global })
          (Keyed.ofList [("shop.example".toList, ⟨.absent, false, false⟩)])
          [{ website := "shop.example".toList, beacons := [⟨[], "https://b.example/ad".toList⟩] }] := by
  have hline : InsertsLine "@@/ad".toList "/x\n/a".toList "/x\n@@/ad\n/a".toList :=
    InsertsLine.of_append (a := "/x\n".toList) (b := "/a".toList) (by decide) (by simp)
  have hread : ((Rule.read "@@/ad".toList .easyPrivacy 2).toOption.join.any
      fun r => r.isException && !r.flags.badfilter) = true := by decide +kernel
  refine ⟨hline, ?_⟩
  cases h : Rule.read "@@/ad".toList .easyPrivacy 2 with
  | error f => rw [h] at hread; cases hread
  | ok o =>
    cases o with
    | none => rw [h] at hread; cases hread
    | some r =>
      rw [h] at hread
      have hr : r.isException = true ∧ r.flags.badfilter = false := by simpa [Except.toOption] using hread
      refine ⟨r, rfl, hr.1, hr.2, ?_⟩
      have hothers : ∀ other, other ≠ SourceList.easyPrivacy →
          (if other = .easyPrivacy then "/x\n@@/ad\n/a".toList else "/y".toList) =
            if other = .easyPrivacy then "/x\n/a".toList else "/y".toList := by
        intro other hother
        rw [if_neg hother, if_neg hother]
      have hraises := raises_of_insertsLine hline hothers h hr.2 { exceptionScope := .global }
        (Keyed.ofList [("shop.example".toList, ⟨.absent, false, false⟩)])
        [{ website := "shop.example".toList, beacons := [⟨[], "https://b.example/ad".toList⟩] }]
      rwa [if_pos hr.1] at hraises

end Classifier

end TrackerAudit
