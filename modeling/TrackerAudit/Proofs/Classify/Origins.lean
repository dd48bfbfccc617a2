import Mathlib.Data.List.Induction
import TrackerAudit.Evidence.Inspection
import TrackerAudit.Proofs.Classify.Scope

/-!
# The files that set a cookie

A cookie has the files of its recorded stack, each once and in the order in which they were first seen
(`RecordedCookie.filesOf_inOrder`); going through the stack, a frame adds its file at the end unless the file was seen
before. The cookie is judged by one request for its domain and one for each file, and it is tracking if one of them is
blocked. So its verdict depends on the set of its files alone, and more files can only make it tracking
(`Classifier.isTrackingCookie_of_stacks`).
-/

namespace TrackerAudit

/-! ### Files of a stack -/

namespace RecordedCookie

variable {stack : List (Option Text)} {f : Text}

/-- The files that a stack names, each once. -/
def filesOf (stack : List (Option Text)) : List Text := (stack.filterMap id).eraseDups

theorem mem_filesOf : f ∈ filesOf stack ↔ some f ∈ stack := by
  simp [filesOf, List.mem_eraseDups, List.mem_filterMap]

theorem filesOf_concat_none (stack : List (Option Text)) : filesOf (stack ++ [none]) = filesOf stack := by
  simp [filesOf]

theorem filesOf_concat_some (stack : List (Option Text)) (f : Text) :
    filesOf (stack ++ [some f]) = if some f ∈ stack then filesOf stack else filesOf stack ++ [f] := by
  have hnew : (([some f].filterMap id).removeAll (stack.filterMap id)).eraseDups =
      if some f ∈ stack then [] else [f] := by
    by_cases hf : some f ∈ stack <;> simp [List.removeAll, List.eraseDups_cons, hf]
  rw [filesOf, List.filterMap_append, List.eraseDups_append, hnew, ← filesOf]
  split
  · exact List.append_nil _
  · rfl

/-- The files of a stack are in the order in which they were first seen. -/
theorem filesOf_inOrder (stack : List (Option Text)) :
    (filesOf stack).Pairwise fun f g => stack.idxOf (some f) < stack.idxOf (some g) := by
  induction stack using List.reverseRecOn with
  | nil => exact List.Pairwise.nil
  | append_singleton stack frame ih =>
    -- the frames before stay at their places
    have hstay {f : Text} (hf : f ∈ filesOf stack) : (stack ++ [frame]).idxOf (some f) = stack.idxOf (some f) :=
      List.idxOf_append_of_mem (mem_filesOf.1 hf)
    have hbefore : (filesOf stack).Pairwise fun f g =>
        (stack ++ [frame]).idxOf (some f) < (stack ++ [frame]).idxOf (some g) := by
      refine ih.imp_of_mem fun hf hg hlt => ?_
      rwa [hstay hf, hstay hg]
    cases frame with
    | none => rwa [filesOf_concat_none]
    | some g =>
      rw [filesOf_concat_some]
      split
      · exact hbefore
      · rename_i hg
        refine List.pairwise_append.2 ⟨hbefore, List.pairwise_singleton _ _, fun f hf g' hg' => ?_⟩
        obtain rfl := List.mem_singleton.1 hg'
        rw [hstay hf, List.idxOf_append_of_notMem hg]
        have := List.idxOf_lt_length_of_mem (mem_filesOf.1 hf)
        omega

theorem nodup_filesOf (stack : List (Option Text)) : (filesOf stack).Nodup := by
  refine (filesOf_inOrder stack).imp fun hlt heq => ?_
  rw [heq] at hlt
  exact Nat.lt_irrefl _ hlt

end RecordedCookie

/-! ### Verdicts -/

/-- A cookie of the same domain with more files is judged by more requests. -/
theorem Cookie.requests_subset {a b : Cookie} (hdomain : a.domain = b.domain) (hfiles : a.files ⊆ b.files)
    (site : Evidence) (mode : ContextMode) : a.requests site mode ⊆ b.requests site mode := by
  unfold requests host
  rw [hdomain]
  exact List.cons_subset_cons _ (List.map_subset _ hfiles)

namespace Classifier

variable {c : Classifier}

theorem anyBlocked_of_subset {requests requests' : List Request} (h : requests ⊆ requests')
    (hblocked : c.anyBlocked requests = true) : c.anyBlocked requests' = true := by
  unfold anyBlocked at hblocked ⊢
  rw [List.any_eq_true] at hblocked ⊢
  obtain ⟨q, hq, hb⟩ := hblocked
  exact ⟨q, h hq, hb⟩

/-- A tracking cookie stays tracking if further files set it. -/
theorem isTrackingCookie_of_subset {site : Evidence} {a b : RecordedCookie} (hdomain : a.domain = b.domain)
    (hfiles : ∀ f, some f ∈ a.stack → some f ∈ b.stack) (ha : c.isTrackingCookie site a.toCookie = true) :
    c.isTrackingCookie site b.toCookie = true := by
  have hsubset : a.toCookie.files ⊆ b.toCookie.files := fun f hf =>
    RecordedCookie.mem_filesOf.2 (hfiles f (RecordedCookie.mem_filesOf.1 hf))
  have hrequests := Cookie.requests_subset (a := a.toCookie) (b := b.toCookie) hdomain hsubset site c.options.context
  exact anyBlocked_of_subset hrequests ha

/-- Of two recorded cookies of one domain, both are tracking or none is if their stacks name the same files, in any
order, any number of times and with any frames without a file between them; and if the stack of the second names all
files of the first, the second is tracking if the first is so. The files of a cookie are those that its stack names, each
once, in the order in which they were first seen. -/
theorem isTrackingCookie_of_stacks (c : Classifier) (site : Evidence) (a b : RecordedCookie)
    (hdomain : a.domain = b.domain) :
    ((∀ f, some f ∈ a.stack ↔ some f ∈ b.stack) →
        c.isTrackingCookie site a.toCookie = c.isTrackingCookie site b.toCookie) ∧
      ((∀ f, some f ∈ a.stack → some f ∈ b.stack) → c.isTrackingCookie site a.toCookie = true →
        c.isTrackingCookie site b.toCookie = true) ∧
      (∀ f, f ∈ a.toCookie.files ↔ some f ∈ a.stack) ∧ a.toCookie.files.Nodup ∧
      a.toCookie.files.Pairwise fun f g => a.stack.idxOf (some f) < a.stack.idxOf (some g) := by
  refine ⟨fun hsame => ?_, fun hfiles ha => isTrackingCookie_of_subset hdomain hfiles ha,
    fun f => RecordedCookie.mem_filesOf, RecordedCookie.nodup_filesOf a.stack, RecordedCookie.filesOf_inOrder a.stack⟩
  rw [Bool.eq_iff_iff]
  constructor
  · exact isTrackingCookie_of_subset hdomain fun f => (hsame f).1
  · exact isTrackingCookie_of_subset hdomain.symm fun f => (hsame f).2

/-- A rule for all types does not look at the type of a request. -/
private theorem isFound_types {r : Rule} (h : r.types = 0) (q : Request) (types : Option TypeMask) :
    r.isFound { q with types } = r.isFound { q with types := none } := by
  simp [Rule.isFound, Rule.isMatch, Rule.applies, admits, h]

private theorem types_okLine : ∀ r ∈ (FilterList.read "||ok.io^".toList .easyList).rules, r.types = 0 := by
  decide +kernel

private theorem blocked_okScript : ((CompiledList.read "||ok.io^".toList .easyList).rules.decision
    { url := "https://ok.io/".toList, types := some (typeOfScript true) }).blocked = true := by
  have hfound : ∀ r ∈ reduce (FilterList.read "||ok.io^".toList .easyList).rules,
      r.isFound { url := "https://ok.io/".toList, types := some (typeOfScript true) } =
        r.isFound { url := "https://ok.io/".toList } :=
    fun r hr => isFound_types (types_okLine r (mem_of_mem_reduce hr)) { url := "https://ok.io/".toList } _
  have hdecision : (CompiledList.read "||ok.io^".toList .easyList).rules.decision
      { url := "https://ok.io/".toList, types := some (typeOfScript true) } =
        (CompiledList.read "||ok.io^".toList .easyList).rules.decision { url := "https://ok.io/".toList } :=
    RuleSet.decision_congr hfound
  rw [hdecision]
  exact CompiledList.blocked_okUrl

/-- A blocked file that one cookie has alone, and another one after a file that is let through, and twice. -/
theorem isTrackingCookie_of_stacks_okUrl :
    (∀ f, some f ∈ [none, some "https://ok.io/".toList] →
        some f ∈ [some "b.js".toList, some "https://ok.io/".toList, none, some "https://ok.io/".toList]) ∧
      isTrackingCookie ⟨.read "||ok.io^".toList [] [], {}⟩ { website := "shop".toList }
        (RecordedCookie.toCookie ⟨[], ".x".toList, -1, none, [none, some "https://ok.io/".toList]⟩) = true ∧
      isTrackingCookie ⟨.read "||ok.io^".toList [] [], {}⟩ { website := "shop".toList }
        (RecordedCookie.toCookie ⟨[], ".x".toList, 0, some 3,
          [some "b.js".toList, some "https://ok.io/".toList, none, some "https://ok.io/".toList]⟩) = true := by
  have hfiles : ∀ f, some f ∈ [none, some "https://ok.io/".toList] →
      some f ∈ [some "b.js".toList, some "https://ok.io/".toList, none, some "https://ok.io/".toList] := by
    simp
  have htracking : isTrackingCookie ⟨.read "||ok.io^".toList [] [], {}⟩ { website := "shop".toList }
      (RecordedCookie.toCookie ⟨[], ".x".toList, -1, none, [none, some "https://ok.io/".toList]⟩) = true := by
    have hrequests : (RecordedCookie.toCookie ⟨[], ".x".toList, -1, none, [none, some "https://ok.io/".toList]⟩).requests
        { website := "shop".toList } .derived =
          [{ url := "x".toList }, { url := "https://ok.io/".toList, types := some (typeOfScript true) }] := by
      decide +kernel
    have hblocked : ((Catalogue.read "||ok.io^".toList [] []).judgePerList
        { url := "https://ok.io/".toList, types := some (typeOfScript true) }).blocked = true :=
      Catalogue.judgePerList_blocked.2 (Catalogue.mem_sets.2 (Or.inl blocked_okScript))
    rw [isTrackingCookie, hrequests]
    exact List.any_eq_true.2 ⟨_, List.mem_cons_of_mem _ (List.mem_singleton_self _), hblocked⟩
  exact ⟨hfiles, htracking, (isTrackingCookie_of_stacks _ _ ⟨[], ".x".toList, -1, none, _⟩ ⟨[], ".x".toList, 0, some 3, _⟩
    rfl).2.1 hfiles htracking⟩

end Classifier

end TrackerAudit
