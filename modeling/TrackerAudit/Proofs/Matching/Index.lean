import TrackerAudit.Matching.Index
import TrackerAudit.Proofs.Text.Cutting

/-!
# What the index of a rule list holds

Every rule stands in the index of its kind once: under its host, if it has one (`RuleIndex.mem_candidates`), and else
among the others (`RuleIndex.mem_others`). Both are in the order of the list (`RuleIndex.candidates_ascending`,
`RuleIndex.others_ascending`).
-/

namespace TrackerAudit

namespace HostIndex

variable (x : HostIndex) (host key : Text) (place : Nat)

@[simp] theorem others_add_some : (x.add (some host) place).others = x.others := rfl

@[simp] theorem others_add_none : (x.add none place).others = place :: x.others := rfl

@[simp] theorem candidates_add_none : (x.add none place).candidates key = x.candidates key := rfl

@[simp] theorem candidates_empty : ({} : HostIndex).candidates key = [] := Std.HashMap.getD_empty

theorem candidates_add_some : (x.add (some host) place).candidates key =
    if host = key then place :: x.candidates key else x.candidates key := by
  unfold candidates add
  rw [Std.HashMap.getD_insert]
  by_cases h : host = key
  · simp [h]
  · simp [h]

end HostIndex

namespace RuleIndex

theorem ofKind_add (x : RuleIndex) (r : Rule) (place : Nat) (kind : Bool) : (x.add r place).ofKind kind =
    if r.isException = kind then (x.ofKind kind).add r.indexedHost? place else x.ofKind kind := by
  unfold add ofKind
  cases kind <;> cases r.isException <;> rfl

/-- The index of rules with given places. -/
private def ofPlaces (entries : List (Rule × Nat)) : RuleIndex := entries.foldr (fun rp x => x.add rp.1 rp.2) {}

private theorem candidates_ofPlaces (entries : List (Rule × Nat)) (kind : Bool) (key : Text) :
    ((ofPlaces entries).ofKind kind).candidates key =
      (entries.filter fun e => e.1.isException = kind ∧ e.1.indexedHost? = some key).map (·.2) := by
  induction entries with
  | nil =>
    have hempty : (ofPlaces []).ofKind kind = {} := by cases kind <;> rfl
    rw [hempty, HostIndex.candidates_empty]
    rfl
  | cons e entries ih =>
    rw [ofPlaces, List.foldr_cons, ← ofPlaces, ofKind_add]
    by_cases hkind : e.1.isException = kind
    · rw [if_pos hkind]
      cases hhost : e.1.indexedHost? with
      | none => simp [ih, hkind, hhost]
      | some host =>
        rw [HostIndex.candidates_add_some, ih]
        by_cases hkey : host = key <;> simp [hkind, hhost, hkey]
    · simp [hkind, ih]

private theorem others_ofPlaces (entries : List (Rule × Nat)) (kind : Bool) :
    ((ofPlaces entries).ofKind kind).others =
      (entries.filter fun e => e.1.isException = kind ∧ e.1.indexedHost? = none).map (·.2) := by
  induction entries with
  | nil => cases kind <;> rfl
  | cons e entries ih =>
    rw [ofPlaces, List.foldr_cons, ← ofPlaces, ofKind_add]
    by_cases hkind : e.1.isException = kind
    · rw [if_pos hkind]
      cases hhost : e.1.indexedHost? <;> simp [ih, hkind, hhost]
    · simp [hkind, ih]

variable {rules : List Rule} {kind : Bool} {place : Nat}

private theorem build_eq : build rules = ofPlaces rules.zipIdx := rfl

theorem mem_candidates {key : Text} : place ∈ ((build rules).ofKind kind).candidates key ↔
    ∃ r, rules[place]? = some r ∧ r.isException = kind ∧ r.indexedHost? = some key := by
  rw [build_eq, candidates_ofPlaces]
  simp [List.mk_mem_zipIdx_iff_getElem?]

theorem mem_others : place ∈ ((build rules).ofKind kind).others ↔
    ∃ r, rules[place]? = some r ∧ r.isException = kind ∧ r.indexedHost? = none := by
  rw [build_eq, others_ofPlaces]
  simp [List.mk_mem_zipIdx_iff_getElem?]

private theorem ascending_filter (p : Rule × Nat → Bool) : ((rules.zipIdx.filter p).map (·.2)).Pairwise (· < ·) := by
  refine List.Pairwise.sublist (List.filter_sublist.map fun e : Rule × Nat => e.2) ?_
  rw [List.zipIdx_map_snd]
  exact List.pairwise_lt_range'

theorem candidates_ascending {key : Text} : (((build rules).ofKind kind).candidates key).Pairwise (· < ·) := by
  rw [build_eq, candidates_ofPlaces]
  exact ascending_filter _

theorem others_ascending : ((build rules).ofKind kind).others.Pairwise (· < ·) := by
  rw [build_eq, others_ofPlaces]
  exact ascending_filter _

end RuleIndex

end TrackerAudit
