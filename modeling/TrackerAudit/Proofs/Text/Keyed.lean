import Mathlib.Data.Finset.Card
import Mathlib.Data.List.Forall2
import TrackerAudit.Text.Keyed

/-!
# Maps and sets from lists

Lists of entries that correspond one to one give maps that correspond key by key (`Keyed.rel_get?_ofList`). A map made
from a list has the last value that the list has for a key (`Keyed.get?_ofList_eq_some`), and the set of the texts of a
list has the texts of the list (`TextSet.mem_ofList`). A map is the one made of its entries (`Keyed.ofList_entries`), and a
set the one made of its texts (`TextSet.ofList_toList`).
-/

namespace TrackerAudit

namespace Keyed

variable {α β : Type}

/-- Maps of corresponding entries correspond. -/
theorem rel_get?_ofList {R : α → β → Prop} {entries : List (Text × α)} {entries' : List (Text × β)}
    (h : List.Forall₂ (fun e e' => e.1 = e'.1 ∧ R e.2 e'.2) entries entries') (key : Text) :
    Option.Rel R ((ofList entries).get? key) ((ofList entries').get? key) := by
  -- putting in the entries one after another, the maps built so far correspond at every key
  suffices hfold : ∀ (m : Keyed α) (m' : Keyed β), (∀ k, Option.Rel R (m.get? k) (m'.get? k)) →
      Option.Rel R ((entries.foldl (fun m e => m.insert e.1 e.2) m).get? key)
        ((entries'.foldl (fun m e => m.insert e.1 e.2) m').get? key) from
    hfold empty empty fun _ => .none
  induction h with
  | nil => exact fun m m' hm => hm key
  | cons he _ ih =>
    intro m m' hm
    refine ih _ _ fun k => ?_
    rw [get?_insert, get?_insert, he.1]
    split
    · exact .some he.2
    · exact hm k

private theorem mem_map_insertEntry {key k : Text} {value : α} {entries : List (Text × α)} :
    k ∈ (insertEntry key value entries).map (·.1) ↔ k = key ∨ k ∈ entries.map (·.1) := by
  induction entries with
  | nil => simp [insertEntry]
  | cons e entries ih =>
    obtain ⟨l, v⟩ := e
    simp only [insertEntry]
    split
    · simp
    · split
      · rename_i hkey
        simp [hkey]
      · simp only [List.map_cons, List.mem_cons, ih, or_left_comm]

theorem mem_keys_insert {m : Keyed α} {key k : Text} {value : α} :
    k ∈ (m.insert key value).keys ↔ k = key ∨ k ∈ m.keys := mem_map_insertEntry

theorem mem_keys_ofList {entries : List (Text × α)} {k : Text} :
    k ∈ (ofList entries).keys ↔ k ∈ entries.map (·.1) := by
  suffices hfold : ∀ m : Keyed α, k ∈ (entries.foldl (fun m e => m.insert e.1 e.2) m).keys ↔
      k ∈ entries.map (·.1) ∨ k ∈ m.keys by
    rw [ofList, hfold]
    simp [keys, empty]
  induction entries with
  | nil => simp
  | cons e entries ih =>
    intro m
    rw [List.foldl_cons, ih, mem_keys_insert, List.map_cons, List.mem_cons, or_assoc, or_left_comm]

/-- The entries of a map made from a list are entries of the list. -/
theorem mem_of_mem_ofList {entries : List (Text × α)} {e : Text × α} (h : e ∈ (ofList entries).entries) :
    e ∈ entries := by
  suffices hfold : ∀ m : Keyed α, e ∈ (entries.foldl (fun m e => m.insert e.1 e.2) m).entries →
      e ∈ entries ∨ e ∈ m.entries from
    (hfold empty h).resolve_right List.not_mem_nil
  clear h
  induction entries with
  | nil => exact fun m h => Or.inr h
  | cons a entries ih =>
    intro m h
    rw [List.mem_cons, or_assoc, or_left_comm]
    exact (ih (m.insert a.1 a.2) h).imp_right mem_insertEntry

theorem mem_values_ofList {entries : List (Text × α)} {a : α} (h : a ∈ (ofList entries).values) :
    ∃ e ∈ entries, e.2 = a := by
  obtain ⟨e, he, rfl⟩ := List.mem_map.1 h
  exact ⟨e, mem_of_mem_ofList he, rfl⟩

theorem keys_ordered (m : Keyed α) : m.keys.Pairwise (· < ·) := List.pairwise_map.2 m.ordered

theorem mem_entries {m : Keyed α} {key : Text} {value : α} : (key, value) ∈ m.entries ↔ m.get? key = some value := by
  obtain ⟨entries, hordered⟩ := m
  unfold get?
  dsimp only
  induction entries with
  | nil => simp
  | cons e entries ih =>
    obtain ⟨k, v⟩ := e
    obtain ⟨hfirst, hrest⟩ := List.pairwise_cons.1 hordered
    rw [List.mem_cons, ih hrest, List.lookup_cons]
    by_cases hkey : key = k
    · subst hkey
      -- the key does not come again
      have hnone : entries.lookup key ≠ some value := fun h => List.lt_irrefl key (hfirst (key, value) ((ih hrest).2 h))
      simp [hnone, eq_comm]
    · simp [hkey, beq_false_of_ne hkey]

theorem mem_keys_iff {m : Keyed α} {key : Text} : key ∈ m.keys ↔ (m.get? key).isSome = true := by
  rw [keys, List.mem_map, Option.isSome_iff_exists]
  constructor
  · rintro ⟨⟨_, value⟩, hentry, rfl⟩
    exact ⟨value, mem_entries.1 hentry⟩
  · rintro ⟨value, hvalue⟩
    exact ⟨(key, value), mem_entries.2 hvalue, rfl⟩

theorem ofList_concat (entries : List (Text × α)) (e : Text × α) :
    ofList (entries ++ [e]) = (ofList entries).insert e.1 e.2 := by
  rw [ofList, List.foldl_append]
  rfl

/-- The value of a key in a map made from a list is the last one that the list has for it. -/
theorem get?_ofList_eq_some {entries : List (Text × α)} {key : Text} {value : α} :
    (ofList entries).get? key = some value ↔
      ∃ before after, entries = before ++ (key, value) :: after ∧ ∀ e ∈ after, e.1 ≠ key := by
  induction entries using List.reverseRecOn with
  | nil => simp [ofList, empty, get?]
  | append_singleton entries e ih =>
    obtain ⟨k, v⟩ := e
    rw [ofList_concat, get?_insert]
    constructor
    · intro h
      split at h
      · rename_i hkey
        cases h
        exact ⟨entries, [], by rw [hkey], by simp⟩
      · rename_i hkey
        obtain ⟨before, after, rfl, hafter⟩ := ih.1 h
        refine ⟨before, after ++ [(k, v)], by simp, fun e he => ?_⟩
        rcases List.mem_append.1 he with he | he
        · exact hafter e he
        · obtain rfl := List.mem_singleton.1 he
          exact Ne.symm hkey
    · rintro ⟨before, after, heq, hafter⟩
      rcases List.eq_nil_or_concat' after with rfl | ⟨after, e, rfl⟩
      · obtain ⟨-, h⟩ := List.append_inj' heq rfl
        cases h
        exact if_pos rfl
      · rw [← List.cons_append, ← List.append_assoc] at heq
        obtain ⟨hentries, h⟩ := List.append_inj' heq rfl
        obtain rfl := (List.cons.inj h).1
        have hkey : key ≠ k := (hafter (k, v) (by simp)).symm
        rw [if_neg hkey]
        exact ih.2 ⟨before, after, hentries, fun e he => hafter e (by simp [he])⟩

theorem get?_ofList_of_nodup {l : List β} {key : β → Text} {value : β → α} (h : (l.map key).Nodup) {b : β} (hb : b ∈ l) :
    (ofList (l.map fun b => (key b, value b))).get? (key b) = some (value b) := by
  obtain ⟨before, after, rfl⟩ := List.append_of_mem hb
  rw [List.map_append, List.map_cons, List.nodup_append, List.nodup_cons] at h
  refine get?_ofList_eq_some.2 ⟨_, _, by rw [List.map_append, List.map_cons], fun e he hkey => ?_⟩
  obtain ⟨b', hb', rfl⟩ := List.mem_map.1 he
  exact h.2.1.1 (hkey ▸ List.mem_map_of_mem hb')

private theorem insertEntry_of_forall_lt {key : Text} {value : α} {entries : List (Text × α)}
    (h : ∀ e ∈ entries, e.1 < key) : insertEntry key value entries = entries ++ [(key, value)] := by
  induction entries with
  | nil => rfl
  | cons e entries ih =>
    obtain ⟨k, v⟩ := e
    obtain ⟨hfirst, hrest⟩ := List.forall_mem_cons.1 h
    have hlt : ¬key < k := List.not_lt.2 (List.le_of_lt hfirst)
    have hne : key ≠ k := by
      rintro rfl
      exact List.lt_irrefl _ hfirst
    rw [insertEntry, if_neg hlt, if_neg hne, ih hrest, List.cons_append]

theorem ofList_entries (m : Keyed α) : ofList m.entries = m := by
  obtain ⟨entries, hordered⟩ := m
  apply ext
  dsimp only
  induction entries using List.reverseRecOn with
  | nil => rfl
  | append_singleton entries e ih =>
    obtain ⟨hentries, -, hlast⟩ := List.pairwise_append.1 hordered
    rw [ofList_concat]
    change insertEntry e.1 e.2 (ofList entries).entries = entries ++ [e]
    rw [ih hentries]
    exact insertEntry_of_forall_lt fun a ha => hlast a ha e (List.mem_singleton_self e)

end Keyed

namespace TextSet

theorem mem_ofList {texts : List Text} {t : Text} : t ∈ (ofList texts).toList ↔ t ∈ texts := by
  rw [ofList, Keyed.mem_keys_ofList]
  simp

theorem ofList_toList (s : TextSet) : ofList s.toList = s := by
  have hordered : Ordered (s.toList.map fun t => (t, ())) := List.pairwise_map.2 s.ordered
  have hmap : Keyed.ofList (s.toList.map fun t => (t, ())) = ⟨s.toList.map fun t => (t, ()), hordered⟩ :=
    Keyed.ofList_entries ⟨_, hordered⟩
  apply ext
  calc (ofList s.toList).toList = (Keyed.ofList (s.toList.map fun t => (t, ()))).keys := rfl
    _ = (s.toList.map fun t => (t, ())).map (·.1) := by rw [hmap, Keyed.keys]
    _ = s.toList := by rw [List.map_map]; exact List.map_id _

/-- The texts of a set. -/
def members (s : TextSet) : Finset Text := s.toList.toFinset

@[simp] theorem mem_members {s : TextSet} {t : Text} : t ∈ s.members ↔ t ∈ s.toList := List.mem_toFinset

theorem size_eq_card (s : TextSet) : s.size = s.members.card := by
  have hnodup : s.toList.Nodup := s.ordered.imp fun hlt => by
    rintro rfl
    exact List.lt_irrefl _ hlt
  rw [size, members, List.toFinset_card_of_nodup hnodup]

@[simp] theorem members_union (s t : TextSet) : (s.union t).members = s.members ∪ t.members := by
  ext text
  simp [union, mem_ofList]

end TextSet

end TrackerAudit
