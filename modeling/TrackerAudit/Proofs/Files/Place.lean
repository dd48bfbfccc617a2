import Mathlib.Data.List.Infix
import Mathlib.Data.List.Nodup
import TrackerAudit.Files.Tree
import TrackerAudit.Proofs.Text.Cutting

/-!
# Places

A node stands at a place exactly if it is listed there (`FileTree.node?_eq_some_iff`), so that putting a node at a place
changes what is found at that place only (`FileTree.node?_put_self`, `FileTree.node?_put_of_ne`), and putting it there
with directories on the way changes at most the way to it (`FileTree.node?_putDeep`). The directories in a directory are
listed, each once (`FileTree.exists_directories`).

A path leads to the same place in all trees in which it leads anywhere (`FileTree.eq_of_resolve`), and the path of an
entry leads to the entry (`FileTree.resolve_entry`).
-/

namespace TrackerAudit.FileTree

variable {t t' : FileTree} {place place' start q : Place} {node : FileNode} {p dir : Path} {name : Text}
  {components : List Text}

/-! ### Nodes -/

private theorem lookup_eq_some_iff {nodes : List (Place × FileNode)} (h : (nodes.map (·.1)).Nodup) {q : Place} :
    nodes.lookup q = some node ↔ (q, node) ∈ nodes := by
  induction nodes with
  | nil => simp
  | cons n nodes ih =>
    obtain ⟨r, m⟩ := n
    rw [List.map_cons, List.nodup_cons] at h
    rw [List.lookup_cons, List.mem_cons]
    by_cases hq : q = r
    · subst hq
      have hnew : (q, node) ∉ nodes := fun hmem => h.1 (List.mem_map.2 ⟨_, hmem, rfl⟩)
      simp [hnew, eq_comm]
    · simp [beq_false_of_ne hq, hq, ih h.2]

theorem node?_eq_some_iff (hplace : place ≠ []) : t.node? place = some node ↔ (place, node) ∈ t.nodes := by
  rw [node?, if_neg (by simpa using hplace), lookup_eq_some_iff t.once]

theorem isEntryName (hnode : t.node? (place ++ [name]) = some node) : Path.IsEntryName name :=
  t.names _ ((node?_eq_some_iff (by simp)).1 hnode) name (by simp)

theorem ne_nil_of_node? (h : t.node? place ≠ some .directory) : place ≠ [] := by
  rintro rfl
  exact h rfl

theorem node?_put_self (hnames : ∀ name ∈ place, Path.IsEntryName name) (hplace : place ≠ []) :
    (t.put place node).node? place = some node := by
  rw [node?_eq_some_iff hplace, put, dif_pos hnames]
  exact List.mem_cons_self

theorem node?_put_of_ne (h : q ≠ place) : (t.put place node).node? q = t.node? q := by
  by_cases hq : q = []
  · subst hq
    rfl
  · refine Option.ext fun m => ?_
    rw [node?_eq_some_iff hq, node?_eq_some_iff hq, put]
    split
    · simp [h]
    · rfl

theorem node?_putMissing (hnames : ∀ name ∈ place, Path.IsEntryName name) (q : Place) :
    (t.putMissing place).node? q = if q = place then some ((t.node? q).getD .directory) else t.node? q := by
  unfold putMissing
  by_cases hq : q = place
  · subst hq
    rw [if_pos rfl]
    cases hnode : t.node? q with
    | none => exact node?_put_self hnames (ne_nil_of_node? (t := t) (by simp [hnode]))
    | some m => exact hnode
  · rw [if_neg hq]
    split
    · exact node?_put_of_ne hq
    · rfl

/-- Directories are put at those places of a list where nothing is. -/
theorem node?_foldl_putMissing {places : List Place} (hnames : ∀ p ∈ places, ∀ name ∈ p, Path.IsEntryName name)
    (t : FileTree) (q : Place) :
    (places.foldl putMissing t).node? q = if q ∈ places then some ((t.node? q).getD .directory) else t.node? q := by
  induction places generalizing t with
  | nil => rfl
  | cons p places ih =>
    rw [List.forall_mem_cons] at hnames
    rw [List.foldl_cons, ih hnames.2, node?_putMissing hnames.1]
    by_cases hq : q = p
    · simp [hq]
    · simp [hq]

/-- Putting a node at a place with directories on the way leaves the nodes on the way and all others as they are. -/
theorem node?_putDeep (hnames : ∀ name ∈ place, Path.IsEntryName name) (hplace : place ≠ []) (t : FileTree)
    (node : FileNode) (q : Place) :
    (t.putDeep place node).node? q =
      if q = place then some node else if q <+: place then some ((t.node? q).getD .directory) else t.node? q := by
  have hway : ∀ p ∈ (List.range place.length).map place.take, ∀ name ∈ p, Path.IsEntryName name := by
    intro p hp name hname
    obtain ⟨n, -, rfl⟩ := List.mem_map.1 hp
    exact hnames name (List.mem_of_mem_take hname)
  unfold putDeep
  by_cases hq : q = place
  · subst hq
    rw [if_pos rfl, node?_put_self hnames hplace]
  · have honWay : q ∈ (List.range place.length).map place.take ↔ q <+: place := by
      rw [List.mem_map]
      constructor
      · rintro ⟨n, -, rfl⟩
        exact List.take_prefix n place
      · intro hfront
        have hlt : q.length < place.length := lt_of_le_of_ne hfront.length_le fun h => hq (hfront.eq_of_length h)
        exact ⟨q.length, List.mem_range.2 hlt, (List.prefix_iff_eq_take.1 hfront).symm⟩
    rw [if_neg hq, node?_put_of_ne hq, node?_foldl_putMissing hway, if_congr honWay rfl rfl]

/-! ### Walks -/

theorem walk_append (t : FileTree) (start : Place) (before after : List Text) :
    t.walk start (before ++ after) = (t.walk start before).bind fun place => t.walk place after := by
  induction before generalizing start with
  | nil => rfl
  | cons c before ih =>
    simp only [List.cons_append, walk]
    split
    · rfl
    · split
      · exact ih start
      · split
        · split
          · rfl
          · exact ih _
        · exact ih _
    · rfl

/-- Where components lead if nothing is in the way. -/
def along : (place : Place) → List Text → Place
  | place, [] => place
  | place, c :: rest =>
    if Path.isIdle c then along place rest
    else if c = "..".toList then along place.dropLast rest
    else along (place ++ [c]) rest

theorem along_of_walk (h : t.walk start components = .ok place) : along start components = place := by
  induction components generalizing start with
  | nil => exact Except.ok.inj h
  | cons c components ih =>
    rw [along]
    simp only [walk] at h
    split at h
    · cases h
    · split at h
      · rename_i hidle
        rw [if_pos hidle]
        exact ih h
      · rename_i hidle
        rw [if_neg hidle]
        split at h
        · rename_i hup
          rw [if_pos hup]
          split at h
          · cases h
          · exact ih h
        · rename_i hup
          rw [if_neg hup]
          exact ih h
    · cases h

/-- What is true of every name on the way is true of the names of the place. -/
theorem forall_mem_along (P : Text → Prop) (hstart : ∀ name ∈ start, P name)
    (hcomponents : ∀ c ∈ components, Path.isIdle c = false → c ≠ "..".toList → P c) :
    ∀ name ∈ along start components, P name := by
  induction components generalizing start with
  | nil => exact hstart
  | cons c components ih =>
    rw [List.forall_mem_cons] at hcomponents
    rw [along]
    split
    · exact ih hstart hcomponents.2
    · rename_i hidle
      split
      · exact ih (fun name hname => hstart name (List.mem_of_mem_dropLast hname)) hcomponents.2
      · rename_i hup
        refine ih (fun name hname => ?_) hcomponents.2
        rcases List.mem_append.1 hname with hname | hname
        · exact hstart name hname
        · rw [List.mem_singleton.1 hname]
          exact hcomponents.1 (by simpa using hidle) hup

/-! ### Paths -/

theorem resolve_eq_ok : t.resolve p = .ok place ↔
    '\x00' ∉ p ∧ p ≠ [] ∧ p.head? ≠ some '/' ∧ t.walk [] (p.splitOn '/') = .ok place := by
  unfold resolve
  split
  · rename_i hnul
    simp [List.contains_iff_mem.1 hnul]
  · rename_i hnul
    have hnul : '\x00' ∉ p := fun h => hnul (List.contains_iff_mem.2 h)
    split
    · rename_i hfirst
      rw [Bool.or_eq_true, List.isEmpty_iff, decide_eq_true_eq] at hfirst
      tauto
    · rename_i hfirst
      rw [Bool.or_eq_true, List.isEmpty_iff, decide_eq_true_eq, not_or] at hfirst
      simp [hnul, hfirst]

/-- A path leads to the same place wherever it leads to one. -/
theorem eq_of_resolve (h : t.resolve p = .ok place) (h' : t'.resolve p = .ok place') : place = place' := by
  obtain ⟨-, -, -, hwalk⟩ := resolve_eq_ok.1 h
  obtain ⟨-, -, -, hwalk'⟩ := resolve_eq_ok.1 h'
  rw [← along_of_walk hwalk, along_of_walk hwalk']

/-- A place that a path leads to is made of names of entries. -/
theorem isEntryName_of_resolve (h : t.resolve p = .ok place) : ∀ name ∈ place, Path.IsEntryName name := by
  obtain ⟨hnul, -, -, hwalk⟩ := resolve_eq_ok.1 h
  rw [← along_of_walk hwalk]
  refine forall_mem_along _ (by simp) fun c hc hidle hup => ?_
  obtain ⟨hslash, hsub⟩ := Text.of_mem_splitOn hc
  exact ⟨hslash, fun h => hnul (hsub h), hidle, hup⟩

/-! ### Entries of a directory -/

/-- The components of a path to an entry are those of the directory, without an empty one at their end, and the entry. -/
theorem exists_splitOn_join (dir : Path) : ∃ before, (dir.splitOn '/' = before ∨ dir.splitOn '/' = before ++ [[]]) ∧
    ∀ name : Text, '/' ∉ name → (Path.join dir name).splitOn '/' = before ++ [name] := by
  by_cases hdir : (dir.isEmpty || dir.getLast? = some '/') = true
  · rcases List.eq_nil_or_concat' dir with rfl | ⟨before, c, rfl⟩
    · refine ⟨[], .inr (List.splitOn_nil '/'), ?_⟩
      intro name hname
      have hhead : name.head? ≠ some '/' := fun h => hname (List.mem_of_head? h)
      rw [Path.join, if_neg hhead, if_pos hdir]
      exact List.splitOn_eq_singleton hname
    · obtain rfl : c = '/' := by simpa using hdir
      refine ⟨before.splitOn '/', .inr ?_, ?_⟩
      · rw [List.splitOn_append_cons_self, List.splitOn_nil]
      · intro name hname
        have hhead : name.head? ≠ some '/' := fun h => hname (List.mem_of_head? h)
        rw [Path.join, if_neg hhead, if_pos hdir, List.append_assoc, List.singleton_append,
          List.splitOn_append_cons_self, List.splitOn_eq_singleton hname]
  · refine ⟨dir.splitOn '/', .inl rfl, ?_⟩
    intro name hname
    have hhead : name.head? ≠ some '/' := fun h => hname (List.mem_of_head? h)
    rw [Path.join, if_neg hhead, if_neg hdir, List.splitOn_append_cons_self, List.splitOn_eq_singleton hname]

theorem getLast?_of_walk (hplain : Path.isIdle name = false)
    (hup : name ≠ "..".toList) (h : t.walk start (components ++ [name]) = .ok place) : place.getLast? = some name := by
  induction components generalizing start with
  | nil =>
    simp only [List.nil_append, walk, hplain, hup] at h
    split at h
    · cases h
    · cases h
      simp
    · cases h
  | cons c components ih =>
    simp only [List.cons_append, walk] at h
    split at h
    · cases h
    · split at h
      · exact ih h
      · split at h
        · split at h
          · cases h
          · exact ih h
        · exact ih h
    · cases h

/-- A path to an entry of a directory leads to a place with the name of the entry. -/
theorem getLast?_of_resolve_join (hname : '/' ∉ name) (hplain : Path.isIdle name = false)
    (hup : name ≠ "..".toList) (h : t.resolve (Path.join dir name) = .ok place) : place.getLast? = some name := by
  obtain ⟨components, -, hcomponents⟩ := exists_splitOn_join dir
  unfold resolve at h
  split at h
  · cases h
  · split at h
    · cases h
    · rw [hcomponents name hname] at h
      exact getLast?_of_walk hplain hup h

private theorem eq_of_walk_empty (h : t.walk start [[]] = .ok place) : start = place := by
  simp only [walk] at h
  split at h
  · cases h
  · exact Except.ok.inj h
  · cases h

theorem resolve_join (hp : t.resolve dir = .ok place) (hname : Path.IsEntryName name) :
    t.resolve (Path.join dir name) = t.walk place [name] := by
  obtain ⟨hnul, hdir, hrelative, hwalk⟩ := resolve_eq_ok.1 hp
  obtain ⟨before, hbefore, hcomponents⟩ := exists_splitOn_join dir
  have hstart : t.walk [] before = .ok place := by
    rcases hbefore with hbefore | hbefore
    · rw [← hbefore, hwalk]
    · -- an empty component at the end leads nowhere else
      rw [hbefore, walk_append] at hwalk
      cases hfirst : t.walk [] before with
      | error e =>
        rw [hfirst] at hwalk
        cases hwalk
      | ok start =>
        rw [hfirst] at hwalk
        rw [eq_of_walk_empty hwalk]
  have hjoin : Path.join dir name = dir ++ name ∨ Path.join dir name = dir ++ '/' :: name := by
    have hhead : name.head? ≠ some '/' := fun h => hname.slash (List.mem_of_head? h)
    rw [Path.join, if_neg hhead]
    split
    · exact .inl rfl
    · exact .inr rfl
  have hnul' : '\x00' ∉ Path.join dir name := by
    rcases hjoin with h | h <;> simp [h, hnul, hname.nul]
  have hrelative' : ((Path.join dir name).isEmpty || (Path.join dir name).head? = some '/') = false := by
    obtain ⟨c, dir, rfl⟩ := List.exists_cons_of_ne_nil hdir
    rcases hjoin with h | h <;> simpa [h] using hrelative
  unfold resolve
  rw [if_neg (by simpa using hnul'), if_neg (by simp [hrelative']), hcomponents name hname.slash, walk_append, hstart]
  rfl

/-- The path of an entry of a directory leads to the entry. -/
theorem resolve_entry (hp : t.resolve dir = .ok place) (hdir : t.node? place = some .directory)
    (hname : Path.IsEntryName name) : t.resolve (Path.join dir name) = .ok (place ++ [name]) := by
  rw [resolve_join hp hname]
  simp only [walk, hdir, hname.notIdle, hname.notUp, Bool.false_eq_true, if_false]

/-! ### Directories -/

theorem isDirectory_iff : t.isDirectory p = true ↔ ∃ place, t.resolve p = .ok place ∧ t.node? place = some .directory := by
  unfold isDirectory
  cases t.resolve p <;> simp

/-- Only the directories in a directory are listed. -/
theorem exists_place_of_directories {names : List Text} (h : t.directories p = .ok names) :
    ∃ place, t.resolve p = .ok place ∧ t.node? place = some .directory := by
  unfold directories at h
  cases hp : t.resolve p with
  | error e => rw [hp] at h; cases h
  | ok place =>
    refine ⟨place, rfl, ?_⟩
    simp only [hp, bind, Except.bind] at h
    split at h
    · assumption
    · cases h
    · cases h

/-- The directories in a directory are listed, each once. -/
theorem exists_directories (hp : t.resolve p = .ok place) (hdir : t.node? place = some .directory) :
    ∃ names, t.directories p = .ok names ∧ names.Nodup ∧
      ∀ name, name ∈ names ↔ t.node? (place ++ [name]) = some .directory := by
  have heq : t.directories p = .ok (t.nodes.filterMap fun n =>
      if n.2 = .directory && n.1.dropLast = place then n.1.getLast? else none) := by
    simp only [directories, hp, bind, Except.bind, hdir]
    rfl
  have hlisted (q : Place) (m : FileNode) (name : Text) :
      (if m = .directory && q.dropLast = place then q.getLast? else none) = some name ↔
        q = place ++ [name] ∧ m = .directory := by
    constructor
    · intro hname
      split at hname
      · rename_i hboth
        simp only [Bool.and_eq_true, decide_eq_true_eq] at hboth
        rw [← List.dropLast_append_getLast? name hname, hboth.2]
        exact ⟨rfl, hboth.1⟩
      · cases hname
    · rintro ⟨rfl, rfl⟩
      simp
  refine ⟨_, heq, ?_, ?_⟩
  · refine List.Nodup.filterMap (fun n n' name hn hn' => ?_) (List.Nodup.of_map _ t.once)
    obtain ⟨hplace, hnode⟩ := (hlisted n.1 n.2 name).1 hn
    obtain ⟨hplace', hnode'⟩ := (hlisted n'.1 n'.2 name).1 hn'
    exact Prod.ext (hplace.trans hplace'.symm) (hnode.trans hnode'.symm)
  · intro name
    rw [node?_eq_some_iff (by simp), List.mem_filterMap]
    constructor
    · rintro ⟨⟨q, m⟩, hmem, hname⟩
      obtain ⟨rfl, rfl⟩ := (hlisted q m name).1 hname
      exact hmem
    · intro hmem
      exact ⟨_, hmem, (hlisted _ _ name).2 ⟨rfl, rfl⟩⟩

/-! ### Trees that differ in one part -/

/-- The trees have the same nodes, except at a place and below. -/
def DifferBelow (t t' : FileTree) (place : Place) : Prop := ∀ q, ¬ place <+: q → t.node? q = t'.node? q

theorem differBelow_put (t : FileTree) (hbelow : place <+: place') (node : FileNode) :
    t.DifferBelow (t.put place' node) place := by
  intro q hq
  have hne : q ≠ place' := by
    rintro rfl
    exact hq hbelow
  exact (node?_put_of_ne hne).symm

end TrackerAudit.FileTree
