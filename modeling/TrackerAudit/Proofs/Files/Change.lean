import TrackerAudit.Proofs.Files.Growth

/-!
# What changes in a file tree

`FileTree.OnlyChanges` says of two trees that they differ only at given files, none of which was a directory, and at
directories that are new and stand at given places. Writing a file changes that file only
(`FileTree.OnlyChanges.of_write`), and creating a directory creates at most that directory and its parents
(`FileTree.OnlyChanges.of_createDirectories`), none of them if all of them exist
(`FileTree.HasDirectories.createDirectories_eq`).
-/

namespace TrackerAudit

namespace FileTree

variable {t : FileTree} {start place : Place} {components : List Text}

/-! ### Walks -/

/-- There is a way to go only from a directory. -/
theorem node?_eq_directory_of_walk (hne : components ≠ []) (h : t.walk start components = .ok place) :
    t.node? start = some .directory := by
  cases components with
  | nil => exact absurd rfl hne
  | cons c components =>
    simp only [walk] at h
    split at h
    · cases h
    · assumption
    · cases h

theorem along_of_idle (h : ∀ c ∈ components, Path.isIdle c = true) : along start components = start := by
  induction components with
  | nil => rfl
  | cons c components ih =>
    rw [List.forall_mem_cons] at h
    rw [along, if_pos h.1, ih h.2]

theorem along_append (start : Place) (a b : List Text) : along start (a ++ b) = along (along start a) b := by
  induction a generalizing start with
  | nil => rfl
  | cons c a ih =>
    rw [List.cons_append, along, along]
    split
    · exact ih start
    · split
      · exact ih _
      · exact ih _

end FileTree

open FileTree (along)

/-! ### Parents -/

namespace Path

variable {p q dir : Path} {name : Text} {components : List Text} {place : Place}

private theorem prefix_cons_of_kept {c : Text} {kept rest : List Text} (drop : Bool) (h : kept <+: rest) :
    (match kept with | [] => if drop then [] else [c] | kept => c :: kept) <+: c :: rest := by
  cases kept with
  | nil => cases drop <;> simp
  | cons k kept => exact List.cons_prefix_cons.2 ⟨rfl, h⟩

theorem isPrefix_trimIdle (components : List Text) : trimIdle components <+: components := by
  induction components with
  | nil => exact List.nil_prefix
  | cons c rest ih => exact prefix_cons_of_kept (isIdle c) ih

theorem isPrefix_trimmed (components : List Text) : trimmed components <+: components := by
  cases components with
  | nil => exact List.nil_prefix
  | cons c rest => exact prefix_cons_of_kept c.isEmpty (isPrefix_trimIdle rest)

private theorem dropLast_prefix_dropLast {front : List Text} (h : front <+: components) :
    front.dropLast <+: components.dropLast := by
  obtain ⟨rest, rfl⟩ := h
  rcases List.eq_nil_or_concat' rest with rfl | ⟨rest, c, rfl⟩
  · rw [List.append_nil]
  · rw [← List.append_assoc, List.dropLast_concat]
    exact (List.dropLast_prefix front).trans (List.prefix_append front rest)

/-- The parent of a path is joined from some of its first components, unless it is the root. -/
theorem exists_prefix_of_parent? (h : parent? p = some q) :
    ∃ first, first <+: (p.splitOn '/').dropLast ∧ (q = ['/'] ∨ q = Text.join ['/'] first) := by
  unfold parent? at h
  split at h
  · cases h
  · have hfront : trimmed (p.splitOn '/') <+: p.splitOn '/' := isPrefix_trimmed _
    refine ⟨_, (isPrefix_trimmed _).trans (dropLast_prefix_dropLast hfront), ?_⟩
    dsimp only at h
    split at h
    · exact Or.inl (Option.some.inj h).symm
    · exact Or.inr (Option.some.inj h).symm

/-- The place is the one of the path or of one of its parents: some of its first components lead there. -/
def LeadsThrough (p : Path) (place : Place) : Prop := ∃ first, first <+: p.splitOn '/' ∧ along [] first = place

theorem leadsThrough_of_resolve {t : FileTree} (h : t.resolve p = .ok place) : p.LeadsThrough place := by
  obtain ⟨-, -, -, hwalk⟩ := FileTree.resolve_eq_ok.1 h
  exact ⟨p.splitOn '/', List.prefix_rfl, FileTree.along_of_walk hwalk⟩

/-- The components in front of the last one lead wherever those of the parent lead. -/
theorem exists_along_of_parent? (h : parent? p = some q) (hq : q.LeadsThrough place) :
    ∃ first, first <+: (p.splitOn '/').dropLast ∧ along [] first = place := by
  obtain ⟨front, hfront, hparent⟩ := exists_prefix_of_parent? h
  obtain ⟨first, hfirst, rfl⟩ := hq
  have hpieces : (∀ c ∈ q.splitOn '/', isIdle c = true) ∨ q.splitOn '/' = front := by
    rcases hparent with rfl | rfl
    · exact Or.inl (by decide)
    · by_cases hnil : front = []
      · subst hnil
        exact Or.inl (by decide)
      · refine Or.inr (Text.splitOn_join hnil fun c hc => ?_)
        exact (Text.of_mem_splitOn (List.mem_of_mem_dropLast (hfront.subset hc))).1
  rcases hpieces with hidle | heq
  · have hstays : along [] first = [] := FileTree.along_of_idle fun c hc => hidle c (hfirst.subset hc)
    exact ⟨[], List.nil_prefix, hstays.symm⟩
  · exact ⟨first, (heq ▸ hfirst).trans hfront, rfl⟩

theorem LeadsThrough.of_parent? (h : parent? p = some q) (hq : q.LeadsThrough place) : p.LeadsThrough place := by
  obtain ⟨first, hfirst, hplace⟩ := exists_along_of_parent? h hq
  exact ⟨first, hfirst.trans (List.dropLast_prefix _), hplace⟩

/-- The parents of an entry of a directory are the directory and its parents. -/
theorem LeadsThrough.of_parent?_join (hname : '/' ∉ name) (h : parent? (join dir name) = some q)
    (hq : q.LeadsThrough place) : dir.LeadsThrough place := by
  obtain ⟨first, hfirst, hplace⟩ := exists_along_of_parent? h hq
  obtain ⟨before, hbefore, hcomponents⟩ := FileTree.exists_splitOn_join dir
  rw [hcomponents name hname, List.dropLast_concat] at hfirst
  refine ⟨first, hfirst.trans ?_, hplace⟩
  rcases hbefore with h | h
  · rw [h]
  · rw [h]
    exact List.prefix_append before [[]]

end Path

namespace FileTree

variable {t t' t'' : FileTree} {p dir : Path} {name : Text} {place : Place} {files files' : List Path}
  {mayCreate mayCreate' : Place → Prop}

/-! ### Changes -/

/-- How a place of the second tree can differ: one of the files was written, or a directory is new. -/
inductive Changed (t t' : FileTree) (files : List Path) (mayCreate : Place → Prop) (place : Place) : Prop
  | file {p : Path} {content : Text} (hp : p ∈ files) (hplace : t'.resolve p = .ok place)
    (hbefore : t.node? place ≠ some .directory) (hafter : t'.node? place = some (.file content))
  | directory (hplace : mayCreate place) (hbefore : t.node? place = none) (hafter : t'.node? place = some .directory)

/-- The second tree has what the first one has, except for the files that the given paths lead to and for new
directories at the given places. -/
def OnlyChanges (t t' : FileTree) (files : List Path) (mayCreate : Place → Prop) : Prop :=
  ∀ place, t'.node? place = t.node? place ∨ t.Changed t' files mayCreate place

namespace OnlyChanges

theorem refl (t : FileTree) : t.OnlyChanges t files mayCreate := fun _ => Or.inl rfl

theorem mono (h : t.OnlyChanges t' files mayCreate) (hfiles : files ⊆ files')
    (hcreate : ∀ place, mayCreate place → mayCreate' place) : t.OnlyChanges t' files' mayCreate' := by
  intro place
  rcases h place with heq | hchanged
  · exact Or.inl heq
  · cases hchanged with
    | file hp hplace hbefore hafter => exact Or.inr (.file (hfiles hp) hplace hbefore hafter)
    | directory hplace hbefore hafter => exact Or.inr (.directory (hcreate place hplace) hbefore hafter)

theorem directory (h : t.OnlyChanges t' files mayCreate) (hplace : t.node? place = some .directory) :
    t'.node? place = some .directory := by
  rcases h place with heq | hchanged
  · rw [heq, hplace]
  · cases hchanged with
    | file _ _ hbefore _ => exact absurd hplace hbefore
    | directory _ hbefore hafter => exact hafter

/-- Nothing is taken away. -/
theorem eq_none (h : t.OnlyChanges t' files mayCreate) (hplace : t'.node? place = none) : t.node? place = none := by
  rcases h place with heq | hchanged
  · rw [← heq, hplace]
  · cases hchanged with
    | file _ _ _ hafter =>
      rw [hafter] at hplace
      cases hplace
    | directory _ hbefore _ => exact hbefore

theorem trans (h : t.OnlyChanges t' files mayCreate) (h' : t'.OnlyChanges t'' files mayCreate) :
    t.OnlyChanges t'' files mayCreate := by
  intro place
  rcases h' place with heq | hchanged
  · rw [heq]
    rcases h place with heq' | hchanged
    · exact Or.inl heq'
    · cases hchanged with
      | file hp hplace hbefore hafter =>
        have hplace := resolve_of_directories (fun _ => h'.directory) hplace
        exact Or.inr (.file hp hplace hbefore (heq.trans hafter))
      | directory hplace hbefore hafter => exact Or.inr (.directory hplace hbefore (heq.trans hafter))
  · cases hchanged with
    | file hp hplace hbefore hafter =>
      exact Or.inr (.file hp hplace (fun hdirectory => hbefore (h.directory hdirectory)) hafter)
    | directory hplace hbefore hafter => exact Or.inr (.directory hplace (h.eq_none hbefore) hafter)

instance : Std.Refl fun t t' : FileTree => t.OnlyChanges t' files mayCreate := ⟨refl⟩

instance : IsTrans FileTree (·.OnlyChanges · files mayCreate) := ⟨fun _ _ _ h => h.trans⟩

theorem of_write {content : Text} (h : t.write p content = .ok t') : t.OnlyChanges t' [p] mayCreate := by
  have hgrows := grows_of_write h
  obtain ⟨place, hplace, hbefore, rfl⟩ := write_eq_ok h
  intro q
  by_cases hq : q = place
  · subst hq
    have hafter : (t.put q (.file content)).node? q = some (.file content) :=
      node?_put_self (isEntryName_of_resolve hplace) (ne_nil_of_node? hbefore)
    exact Or.inr (.file List.mem_cons_self (hgrows.resolve hplace) hbefore hafter)
  · exact Or.inl (node?_put_of_ne hq)

theorem of_createDirectory (h : t.createDirectory p = .ok t') : t.OnlyChanges t' files p.LeadsThrough := by
  obtain ⟨place, hplace, hnew, rfl⟩ := createDirectory_eq_ok h
  have hroot : place ≠ [] := ne_nil_of_node? (t := t) (by simp [hnew])
  intro q
  by_cases hq : q = place
  · subst hq
    exact Or.inr (.directory (Path.leadsThrough_of_resolve hplace) hnew
      (node?_put_self (isEntryName_of_resolve hplace) hroot))
  · exact Or.inl (node?_put_of_ne hq)

theorem of_createDirectories (t : FileTree) (p : Path) :
    t.OnlyChanges (t.createDirectories p).1 files p.LeadsThrough := by
  refine createFrom_keeps (P := fun t' => t.OnlyChanges t' files p.LeadsThrough)
    (Q := fun q => ∀ place, q.LeadsThrough place → p.LeadsThrough place) ?_ ?_ t _ p (fun _ => id) (.refl t)
  · intro q parent hq hparent place hplace
    exact hq place (hplace.of_parent? hparent)
  · intro t₁ t₂ q hq h hcreate
    exact h.trans ((of_createDirectory hcreate).mono (List.Subset.refl files) hq)

end OnlyChanges

/-! ### Directories that exist -/

/-- The path leads to a directory, and so do its first components: the directory exists with all of its parents. -/
def HasDirectories (t : FileTree) (p : Path) : Prop := ∀ place, p.LeadsThrough place → t.node? place = some .directory

/-- A directory with an entry that can be found exists, and so do its parents. -/
theorem HasDirectories.of_resolve_join (hname : '/' ∉ name) (hentry : t.resolve (Path.join dir name) = .ok place) :
    t.HasDirectories dir := by
  obtain ⟨-, -, -, hwalk⟩ := resolve_eq_ok.1 hentry
  obtain ⟨before, hbefore, hcomponents⟩ := exists_splitOn_join dir
  rw [hcomponents name hname] at hwalk
  rintro _ ⟨first, hfirst, rfl⟩
  have hshort : ∃ front, front <+: before ∧ along [] front = along [] first := by
    rcases hbefore with h | h
    · exact ⟨first, h ▸ hfirst, rfl⟩
    · rw [h, List.prefix_concat_iff] at hfirst
      rcases hfirst with rfl | hfirst
      · -- an empty component at the end leads nowhere else
        have hstays : along (along [] before) [[]] = along [] before := along_of_idle (by simp [Path.isIdle])
        exact ⟨before, List.prefix_rfl, by rw [along_append, hstays]⟩
      · exact ⟨first, hfirst, rfl⟩
  obtain ⟨front, ⟨rest, rfl⟩, heq⟩ := hshort
  rw [← heq]
  rw [List.append_assoc, walk_append] at hwalk
  cases hfront : t.walk [] front with
  | error e =>
    rw [hfront] at hwalk
    cases hwalk
  | ok start =>
    -- there is a way to go on from here
    rw [hfront] at hwalk
    rw [along_of_walk hfront]
    exact node?_eq_directory_of_walk (by simp) hwalk

/-- A directory that exists with all of its parents is not created again. -/
theorem HasDirectories.createDirectories_eq (h : t.HasDirectories p) : (t.createDirectories p).1 = t := by
  refine createFrom_keeps (P := fun t' => t' = t) (Q := t.HasDirectories) ?_ ?_ t _ p h rfl
  · intro q parent hq hparent place hplace
    exact hq place (hplace.of_parent? hparent)
  · intro t₁ t₂ q hq heq hcreate
    subst heq
    obtain ⟨place, hplace, hnew, -⟩ := createDirectory_eq_ok hcreate
    rw [hq place (Path.leadsThrough_of_resolve hplace)] at hnew
    cases hnew

end FileTree

end TrackerAudit
