import TrackerAudit.Proofs.Files.Place

/-!
# How a file tree grows

Creating directories and writing files never takes anything away: a directory stays one, so a path leads where it led,
and a file keeps its content unless it is written itself. `FileTree.Grows` says so of two trees, for any number of
steps; what is read from a file that was not written is read again (`FileTree.Grows.readText`), and a file that was
written has what was written last (`FileTree.readText_of_write`).
-/

namespace TrackerAudit.FileTree

variable {t t' t'' : FileTree} {place : Place} {node : FileNode} {p : Path} {paths paths' : List Path}

/-! ### Reading -/

theorem readText_eq_ok {content : Text} :
    t.readText p = .ok content ↔ ∃ place, t.resolve p = .ok place ∧ t.node? place = some (.file content) := by
  unfold readText
  cases t.resolve p with
  | error e => simp [bind, Except.bind]
  | ok place =>
    simp only [bind, Except.bind, Except.ok.injEq, exists_eq_left']
    split <;> simp_all [pure, Except.pure, throw, throwThe, MonadExceptOf.throw]

/-! ### Growth -/

/-- The second tree has all directories of the first one, and all of its files as they were except those that the given
paths now lead to. -/
structure Grows (t t' : FileTree) (paths : List Path) : Prop where
  directory {place : Place} (h : t.node? place = some .directory) : t'.node? place = some .directory
  keeps {place : Place} {node : FileNode} (h : t.node? place = some node)
    (hother : ∀ p ∈ paths, t'.resolve p ≠ .ok place) : t'.node? place = some node

theorem walk_of_directories (h : ∀ q, t.node? q = some .directory → t'.node? q = some .directory)
    {components : List Text} {start : Place} (hwalk : t.walk start components = .ok place) :
    t'.walk start components = .ok place := by
  induction components generalizing start with
  | nil => exact hwalk
  | cons c components ih =>
    simp only [walk] at hwalk ⊢
    split at hwalk
    · cases hwalk
    · rename_i hstart
      rw [h start hstart]
      dsimp only
      split at hwalk
      · rename_i hidle
        rw [if_pos hidle]
        exact ih hwalk
      · rename_i hidle
        rw [if_neg hidle]
        split at hwalk
        · rename_i hup
          rw [if_pos hup]
          split at hwalk
          · cases hwalk
          · rename_i hroot
            rw [if_neg hroot]
            exact ih hwalk
        · rename_i hup
          rw [if_neg hup]
          exact ih hwalk
    · cases hwalk

theorem resolve_of_directories (h : ∀ q, t.node? q = some .directory → t'.node? q = some .directory)
    (hp : t.resolve p = .ok place) : t'.resolve p = .ok place := by
  unfold resolve at hp ⊢
  split at hp
  · cases hp
  · split at hp
    · cases hp
    · rename_i hnul hrelative
      rw [if_neg hnul, if_neg hrelative]
      exact walk_of_directories h hp

namespace Grows

theorem refl (t : FileTree) : t.Grows t [] := ⟨id, fun h _ => h⟩

/-- A path leads where it led before. -/
theorem resolve (h : t.Grows t' paths) (hp : t.resolve p = .ok place) : t'.resolve p = .ok place :=
  resolve_of_directories (fun _ => h.directory) hp

theorem trans (h : t.Grows t' paths) (h' : t'.Grows t'' paths') : t.Grows t'' (paths ++ paths') where
  directory hplace := h'.directory (h.directory hplace)
  keeps hplace hother := by
    rw [List.forall_mem_append] at hother
    refine h'.keeps (h.keeps hplace fun p hp heq => ?_) hother.2
    exact hother.1 p hp (h'.resolve heq)

/-- What was read from a file is read again if no given path leads to that file. -/
theorem readText {content : Text} (h : t.Grows t' paths) (hp : t.readText p = .ok content)
    (hother : ∀ q ∈ paths, ∀ place, t'.resolve q = .ok place → t'.resolve p ≠ .ok place) :
    t'.readText p = .ok content := by
  obtain ⟨place, hplace, hfile⟩ := readText_eq_ok.1 hp
  have hplace' := h.resolve hplace
  exact readText_eq_ok.2 ⟨place, hplace', h.keeps hfile fun q hq heq => hother q hq place heq hplace'⟩

end Grows

/-! ### Directories -/

theorem grows_put_of_none (hnew : t.node? place = none) : t.Grows (t.put place node) [] := by
  have hkeeps {q : Place} {m : FileNode} (h : t.node? q = some m) : (t.put place node).node? q = some m := by
    have hne : q ≠ place := by
      rintro rfl
      rw [hnew] at h
      cases h
    rw [node?_put_of_ne hne, h]
  exact ⟨hkeeps, fun h _ => hkeeps h⟩

theorem createDirectory_eq_ok (h : t.createDirectory p = .ok t') :
    ∃ place, t.resolve p = .ok place ∧ t.node? place = none ∧ t' = t.put place .directory := by
  unfold createDirectory at h
  cases hp : t.resolve p with
  | error e =>
    rw [hp] at h
    cases h
  | ok place =>
    rw [hp] at h
    simp only [bind, Except.bind] at h
    split at h
    · cases h
    · rename_i hnew
      cases h
      exact ⟨place, rfl, hnew, rfl⟩

theorem grows_of_createDirectory (h : t.createDirectory p = .ok t') : t.Grows t' [] := by
  obtain ⟨place, -, hnew, rfl⟩ := createDirectory_eq_ok h
  exact grows_put_of_none hnew

/-- What creating one directory of a kind keeps, creating its missing parents keeps as well, if they are of that kind. -/
theorem createFrom_keeps {P : FileTree → Prop} {Q : Path → Prop}
    (hparent : ∀ {p q : Path}, Q p → Path.parent? p = some q → Q q)
    (hcreate : ∀ {t t' : FileTree} {p : Path}, Q p → P t → t.createDirectory p = .ok t' → P t') (t : FileTree)
    (fuel : Nat) (p : Path) (hp : Q p) (h : P t) : P (t.createFrom fuel p).1 := by
  induction fuel generalizing t p with
  | zero => exact h
  | succ fuel ih =>
    unfold createFrom
    split
    · exact h
    · dsimp only
      split
      · rename_i hone
        exact hcreate hp h hone
      · split
        · exact h
        · rename_i parent hup
          have hfirst := ih t parent (hparent hp hup) h
          split
          · rename_i hfrom
            rwa [hfrom] at hfirst
          · rename_i hfrom
            rw [hfrom] at hfirst
            split
            · rename_i hone
              exact hcreate hp hfirst hone
            · exact hfirst
      · exact h

theorem grows_createDirectories (t : FileTree) (p : Path) : t.Grows (t.createDirectories p).1 [] :=
  createFrom_keeps (P := fun t' => t.Grows t' []) (Q := fun _ => True) (fun _ _ => trivial)
    (fun _ h hcreate => h.trans (grows_of_createDirectory hcreate)) t _ p trivial (.refl t)

/-! ### Files -/

theorem write_eq_ok {content : Text} (h : t.write p content = .ok t') :
    ∃ place, t.resolve p = .ok place ∧ t.node? place ≠ some .directory ∧ t' = t.put place (.file content) := by
  unfold write at h
  cases hp : t.resolve p with
  | error e =>
    rw [hp] at h
    cases h
  | ok place =>
    rw [hp] at h
    simp only [bind, Except.bind] at h
    split at h
    · cases h
    · rename_i hfile
      cases h
      exact ⟨place, rfl, hfile, rfl⟩

theorem grows_of_write {content : Text} (h : t.write p content = .ok t') : t.Grows t' [p] := by
  obtain ⟨place, hp, hfile, rfl⟩ := write_eq_ok h
  have hdirectory {q : Place} (hq : t.node? q = some .directory) :
      (t.put place (.file content)).node? q = some .directory := by
    have hne : q ≠ place := by
      rintro rfl
      exact hfile hq
    rw [node?_put_of_ne hne, hq]
  refine ⟨hdirectory, ?_⟩
  intro q node hq hother
  have hne : q ≠ place := by
    rintro rfl
    exact hother p (by simp) (resolve_of_directories (fun _ => hdirectory) hp)
  rw [node?_put_of_ne hne, hq]

theorem readText_of_write {content : Text} (h : t.write p content = .ok t') : t'.readText p = .ok content := by
  have hgrows := grows_of_write h
  obtain ⟨place, hp, hfile, rfl⟩ := write_eq_ok h
  refine readText_eq_ok.2 ⟨place, hgrows.resolve hp, ?_⟩
  exact node?_put_self (isEntryName_of_resolve hp) (ne_nil_of_node? hfile)

end TrackerAudit.FileTree
