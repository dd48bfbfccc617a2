import TrackerAudit.Proofs.Classify.Monotone
import TrackerAudit.Proofs.Matching.HostList

/-!
# The two scopes of exceptions

Which rule of a set is found does not depend on the other rules, except that earlier ones go first
(`RuleSet.first?_eq_find?`). So three lists whose exceptions hold globally decide every request as one rule set that
holds the rules of the first list, then those of the second, then those of the third. A request that they block is
blocked by some list and excepted by none, so it is blocked as well if exceptions hold for their own list only
(`Catalogue.blocked_perList_of_global`).
-/

namespace TrackerAudit

namespace RuleSet

variable (isException : Bool) (q : Request)

/-- In the rules of several sets, one set after another, the first rule is that of the first set which has one. -/
theorem first?_flatMap (source : SourceList) (sets : List RuleSet) :
    (ofList source (sets.flatMap (·.rules.toList))).first? isException q = sets.findSome? (·.first? isException q) := by
  rw [first?_ofList, List.find?_flatMap]
  congr 1
  funext s
  exact (s.first?_eq_find? isException q).symm

end RuleSet

namespace Catalogue

/-- The rules of the three lists in one set, one list after another. -/
def merged (c : Catalogue) (source : SourceList) : RuleSet := .ofList source (c.sets.flatMap (·.rules.toList))

variable {c : Catalogue} {q : Request}

theorem size_merged (source : SourceList) : (c.merged source).size = c.size := by
  simp [merged, RuleSet.ofList, RuleSet.size, size, sets, Nat.add_assoc]

theorem judgeGlobal_eq_decision_merged (source : SourceList) : c.judgeGlobal q = (c.merged source).decision q := by
  unfold judgeGlobal RuleSet.decision RuleSet.block? RuleSet.exception? merged
  rw [RuleSet.first?_flatMap, RuleSet.first?_flatMap]

/-- What is blocked although exceptions hold globally is blocked if they hold for their own list only. -/
theorem blocked_perList_of_global (h : (c.judgeGlobal q).blocked = true) : (c.judgePerList q).blocked = true := by
  rw [judgeGlobal_blocked] at h
  rw [judgePerList_blocked]
  obtain ⟨⟨s, hs, hblock⟩, hexception⟩ := h
  refine ⟨s, hs, ?_⟩
  rw [RuleSet.decision, decideBy_blocked]
  exact ⟨hblock, hexception s hs⟩

end Catalogue

theorem Classifier.anyBlocked_perList_of_global {catalogue : Catalogue} {context : ContextMode} {requests : List Request}
    (h : anyBlocked ⟨catalogue, ⟨context, .global⟩⟩ requests = true) :
    anyBlocked ⟨catalogue, ⟨context, .perList⟩⟩ requests = true := by
  unfold anyBlocked at h ⊢
  rw [List.any_eq_true] at h ⊢
  obtain ⟨q, hq, hblocked⟩ := h
  exact ⟨q, hq, Catalogue.blocked_perList_of_global hblocked⟩

/-- If exceptions hold globally, the three lists give the same verdict by the same rule as one rule set with the rules
of all three in order, and a cookie or beacon that is tracking then is tracking as well if exceptions hold for their own
list only. -/
theorem Catalogue.judge_global_eq_merged (c : Catalogue) (source : SourceList) :
    (∀ q, c.judge .global q = (c.merged source).decision q) ∧
      ∀ (context : ContextMode) (site : Evidence),
        (∀ cookie, Classifier.isTrackingCookie ⟨c, ⟨context, .global⟩⟩ site cookie = true →
          Classifier.isTrackingCookie ⟨c, ⟨context, .perList⟩⟩ site cookie = true) ∧
        ∀ beacon, Classifier.isTrackingBeacon ⟨c, ⟨context, .global⟩⟩ site beacon = true →
          Classifier.isTrackingBeacon ⟨c, ⟨context, .perList⟩⟩ site beacon = true := by
  refine ⟨fun q => judgeGlobal_eq_decision_merged source, fun context site => ⟨fun cookie h => ?_, fun beacon h => ?_⟩⟩
  · exact Classifier.anyBlocked_perList_of_global h
  · exact Classifier.anyBlocked_perList_of_global h

/-- A block in the first list, and a beacon of which nothing but the URL is known. -/
theorem Catalogue.judge_global_eq_merged_okUrl :
    Classifier.isTrackingBeacon ⟨read "||ok.io^".toList [] [], ⟨.derived, .global⟩⟩ { website := "shop".toList }
        ⟨[], "https://ok.io/".toList⟩ = true ∧
      Classifier.isTrackingBeacon ⟨read "||ok.io^".toList [] [], ⟨.derived, .perList⟩⟩ { website := "shop".toList }
        ⟨[], "https://ok.io/".toList⟩ = true := by
  have hrequests : Beacon.requests ⟨[], "https://ok.io/".toList⟩ { website := "shop".toList } .derived =
      [{ url := "https://ok.io/".toList }] := by decide +kernel
  have hfirst := CompiledList.blocked_okUrl
  rw [RuleSet.decision, decideBy_blocked] at hfirst
  have hblocked : ((read "||ok.io^".toList [] []).judgeGlobal { url := "https://ok.io/".toList }).blocked = true := by
    refine judgeGlobal_blocked.2 ⟨mem_sets.2 (Or.inl hfirst.1), fun s hs => ?_⟩
    simp only [sets, List.mem_cons, List.not_mem_nil, or_false] at hs
    rcases hs with rfl | rfl | rfl
    · exact hfirst.2
    · rw [RuleSet.exception?, read, ofCompiled, CompiledList.first?_read]
      rfl
    · rw [RuleSet.exception?, read, ofCompiled, CompiledList.first?_read]
      rfl
  have htracking : Classifier.isTrackingBeacon ⟨read "||ok.io^".toList [] [], ⟨.derived, .global⟩⟩
      { website := "shop".toList } ⟨[], "https://ok.io/".toList⟩ = true := by
    rw [Classifier.isTrackingBeacon, hrequests]
    exact List.any_eq_true.2 ⟨_, List.mem_singleton_self _, hblocked⟩
  exact ⟨htracking, ((judge_global_eq_merged _ .easyList).2 .derived _).2 _ htracking⟩

end TrackerAudit
