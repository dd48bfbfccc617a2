import TrackerAudit.Proofs.Matching.Index

/-!
# The index of a rule list divides its places

One more rule adds its place to one list of the index and leaves the others (`RuleIndex.Holds.add`). So after all rules of
a list have been filed, every place stands once in all lists of the index taken together, and it stands in the list for the
kind and the host of its rule. All lists ascend, and the number of filed rules is that of the places under a host
(`RuleIndex.divides_build`).
-/

namespace TrackerAudit

open scoped List

/-! ### One kind of rules -/

namespace HostIndex

/-- The places filed under a host, host by host. -/
def underHosts (x : HostIndex) : List Nat := x.byHost.keys.flatMap x.candidates

/-- All places that the index holds. -/
def places (x : HostIndex) : List Nat := x.underHosts ++ x.others

variable (x : HostIndex) (host : Text) (host? : Option Text) (place : Nat)

/-- The places under one host, and then those under all others. -/
private theorem perm_underHosts :
    x.underHosts.Perm (x.candidates host ++ (x.byHost.keys.erase host).flatMap x.candidates) := by
  by_cases h : host ∈ x.byHost
  · exact (List.perm_cons_erase (Std.HashMap.mem_keys.2 h)).flatMap_right x.candidates
  · have hnone : x.candidates host = [] := Std.HashMap.getD_eq_fallback h
    rw [hnone, List.erase_of_not_mem fun hmem => h (Std.HashMap.mem_keys.1 hmem)]
    exact .refl _

private theorem keys_add_some : (x.add (some host) place).byHost.keys.Perm (host :: x.byHost.keys.erase host) := by
  have hnodup : (host :: x.byHost.keys.erase host).Nodup := by
    rw [List.nodup_cons]
    exact ⟨Std.HashMap.nodup_keys.not_mem_erase, Std.HashMap.nodup_keys.erase host⟩
  rw [List.perm_ext_iff_of_nodup Std.HashMap.nodup_keys hnodup]
  intro key
  rw [add, Std.HashMap.mem_keys, Std.HashMap.mem_insert, List.mem_cons, Std.HashMap.nodup_keys.mem_erase_iff,
    Std.HashMap.mem_keys, beq_iff_eq, eq_comm]
  by_cases hkey : key = host <;> simp [hkey]

theorem perm_underHosts_add : (x.add (some host) place).underHosts.Perm (place :: x.underHosts) := by
  have hothers : (x.byHost.keys.erase host).flatMap (x.add (some host) place).candidates =
      (x.byHost.keys.erase host).flatMap x.candidates := by
    refine List.flatMap_congr fun key hkey => ?_
    rw [candidates_add_some, if_neg]
    rintro rfl
    exact Std.HashMap.nodup_keys.not_mem_erase hkey
  calc (x.add (some host) place).underHosts
      ~ (host :: x.byHost.keys.erase host).flatMap (x.add (some host) place).candidates :=
        (x.keys_add_some host place).flatMap_right _
    _ = place :: (x.candidates host ++ (x.byHost.keys.erase host).flatMap x.candidates) := by
        rw [List.flatMap_cons, hothers, candidates_add_some, if_pos rfl, List.cons_append]
    _ ~ place :: x.underHosts := ((x.perm_underHosts host).cons place).symm

theorem perm_places_add : (x.add host? place).places.Perm (place :: x.places) := by
  cases host? with
  | none => exact List.perm_middle
  | some host => exact (x.perm_underHosts_add host place).append_right x.others

/-- The number of filed rules is that of the places under a host. -/
def IsCounted (x : HostIndex) : Prop := x.filed = x.underHosts.length

theorem isCounted_empty : IsCounted {} := by
  rw [IsCounted, underHosts, Std.HashMap.keys_empty]
  rfl

variable {x} in
theorem IsCounted.add (h : x.IsCounted) : (x.add host? place).IsCounted := by
  cases host? with
  | none => exact h
  | some host =>
    rw [IsCounted, (x.perm_underHosts_add host place).length_eq, List.length_cons, ← h]
    rfl

end HostIndex

/-! ### Both kinds -/

namespace RuleIndex

/-- The places under a host, of both kinds. -/
def underHosts (x : RuleIndex) : List Nat := x.blocks.underHosts ++ x.exceptions.underHosts

/-- The lists of the index hold the given places, no more and no less, and those under a host are counted. -/
structure Holds (x : RuleIndex) (places : List Nat) : Prop where
  perm : (x.blocks.places ++ x.exceptions.places).Perm places
  blocks : x.blocks.IsCounted
  exceptions : x.exceptions.IsCounted

theorem holds_empty : Holds {} [] := by
  refine ⟨?_, HostIndex.isCounted_empty, HostIndex.isCounted_empty⟩
  simp [HostIndex.places, HostIndex.underHosts]

/-- Filing one more rule adds its place. -/
theorem Holds.add {x : RuleIndex} {places : List Nat} (h : x.Holds places) (r : Rule) (place : Nat) :
    (x.add r place).Holds (place :: places) := by
  unfold RuleIndex.add
  split
  · refine ⟨?_, h.blocks, h.exceptions.add _ place⟩
    exact ((x.exceptions.perm_places_add _ place).append_left x.blocks.places).trans
      (List.perm_middle.trans (h.perm.cons place))
  · refine ⟨?_, h.blocks.add _ place, h.exceptions⟩
    exact ((x.blocks.perm_places_add _ place).append_right x.exceptions.places).trans (h.perm.cons place)

private theorem holds_foldr (entries : List (Rule × Nat)) :
    Holds (entries.foldr (fun rp x => x.add rp.1 rp.2) {}) (entries.map (·.2)) := by
  induction entries with
  | nil => exact holds_empty
  | cons e entries ih => exact ih.add e.1 e.2

theorem holds_build (rules : List Rule) : (build rules).Holds (List.range rules.length) := by
  have h := holds_foldr rules.zipIdx
  rwa [List.zipIdx_map_snd, ← List.range_eq_range'] at h

/-- The lists of the index divide the places of a list of rules among them, by the kind and the host of the rule at each
place, and in the order of the list. -/
structure Divides (x : RuleIndex) (rules : List Rule) : Prop where
  /-- every place stands in exactly one list, and there once -/
  once : (x.blocks.places ++ x.exceptions.places).Perm (List.range rules.length)
  candidates : ∀ kind host place, place ∈ (x.ofKind kind).candidates host ↔
    ∃ r, rules[place]? = some r ∧ r.isException = kind ∧ r.indexedHost? = some host
  others : ∀ kind place, place ∈ (x.ofKind kind).others ↔
    ∃ r, rules[place]? = some r ∧ r.isException = kind ∧ r.indexedHost? = none
  candidates_ascending : ∀ kind host, ((x.ofKind kind).candidates host).Pairwise (· < ·)
  others_ascending : ∀ kind, (x.ofKind kind).others.Pairwise (· < ·)
  filed_eq : x.filed = x.underHosts.length
  total : x.filed + (x.ofKind false).others.length + (x.ofKind true).others.length = rules.length

/-- The index of a list of rules divides its places: each is filed once, under the host of its rule if there is one, and
otherwise among the others of its kind. -/
theorem divides_build (rules : List Rule) : (build rules).Divides rules := by
  have h := holds_build rules
  have hfiled : (build rules).filed = (build rules).underHosts.length := by
    rw [filed, h.blocks, h.exceptions, underHosts, List.length_append]
  refine ⟨h.perm, fun _ _ _ => mem_candidates, fun _ _ => mem_others, fun _ _ => RuleIndex.candidates_ascending,
    fun _ => RuleIndex.others_ascending, hfiled, ?_⟩
  have hlength := h.perm.length_eq
  simp only [HostIndex.places, List.length_append, List.length_range] at hlength
  rw [hfiled, underHosts, List.length_append]
  change _ + (build rules).blocks.others.length + (build rules).exceptions.others.length = _
  omega

end RuleIndex

end TrackerAudit
