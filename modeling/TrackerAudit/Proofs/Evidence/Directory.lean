import Mathlib.Data.List.Sort
import TrackerAudit.Proofs.Evidence.Loading
import TrackerAudit.Proofs.Files.Place
import TrackerAudit.Proofs.Text.Order

/-!
# The corpus of an evidence directory

What is loaded for a website depends on its own record alone (`Evidence.ofNode`), so that a corpus is made name by name:
those whose record gives evidence are loaded, and all others are excluded (`Corpus.ofEach`). Every directory in the
evidence directory is therefore loaded or excluded, once and in order, and what becomes of it does not depend on the
others (`Corpus.load_accounts`).
-/

namespace TrackerAudit

/-! ### Records -/

/-- All five sections of the record are there. -/
def Inspection.IsComplete (i : Inspection) : Prop :=
  i.cookies.isSome ∧ i.beacons.isSome ∧ ∃ hosts ∈ i.hosts, hosts.cookies.isSome ∧ hosts.beacons.isSome

instance (i : Inspection) : Decidable i.IsComplete :=
  inferInstanceAs (Decidable (_ ∧ _ ∧ ∃ hosts ∈ i.hosts, hosts.cookies.isSome ∧ hosts.beacons.isSome))

namespace Evidence

variable {website : Text} {i : Inspection} {e : Evidence} {path : Path} {node : Option FileNode}

theorem ofInspection_eq_ok : ofInspection website i = .ok e ↔ ∃ cookies beacons cookieHosts beaconHosts,
    i = ⟨some cookies, some beacons, some ⟨some cookieHosts, some beaconHosts⟩⟩ ∧
      e = ⟨website, cookies.map RecordedCookie.toCookie, beacons, cookieHosts, beaconHosts⟩ := by
  obtain ⟨cookies, beacons, hosts⟩ := i
  constructor
  · intro h
    cases cookies with
    | none => cases h
    | some cookies =>
      cases beacons with
      | none => cases h
      | some beacons =>
        rcases hosts with _ | ⟨_ | cookieHosts, _ | beaconHosts⟩
        · cases h
        · cases h
        · cases h
        · cases h
        · cases h
          exact ⟨_, _, _, _, rfl, rfl⟩
  · rintro ⟨cookies, beacons, cookieHosts, beaconHosts, ⟨rfl, rfl, rfl⟩, rfl⟩
    rfl

theorem website_of_ofInspection (h : ofInspection website i = .ok e) : e.website = website := by
  obtain ⟨_, _, _, _, -, rfl⟩ := ofInspection_eq_ok.1 h
  rfl

/-- A record gives evidence exactly if it is complete. -/
theorem exists_ofInspection_iff : (∃ e, ofInspection website i = .ok e) ↔ i.IsComplete := by
  obtain ⟨cookies, beacons, hosts⟩ := i
  constructor
  · rintro ⟨e, h⟩
    obtain ⟨_, _, _, _, heq, -⟩ := ofInspection_eq_ok.1 h
    cases heq
    exact ⟨rfl, rfl, _, rfl, rfl, rfl⟩
  · rintro ⟨hcookies, hbeacons, ⟨cookieHosts, beaconHosts⟩, rfl, hcookieHosts, hbeaconHosts⟩
    obtain ⟨_, rfl⟩ := Option.isSome_iff_exists.1 hcookies
    obtain ⟨_, rfl⟩ := Option.isSome_iff_exists.1 hbeacons
    obtain ⟨_, rfl⟩ := Option.isSome_iff_exists.1 hcookieHosts
    obtain ⟨_, rfl⟩ := Option.isSome_iff_exists.1 hbeaconHosts
    exact ⟨_, rfl⟩

theorem ofNode_eq_ok : ofNode path website node = .ok e ↔
    ∃ text i, node = some (.file text) ∧ Inspection.read? text = some i ∧ ofInspection website i = .ok e := by
  constructor
  · intro h
    unfold ofNode at h
    split at h
    · split at h
      · cases h
      · rename_i text _ i hi
        exact ⟨text, i, rfl, hi, h⟩
    · cases h
    · cases h
    · cases h
  · rintro ⟨text, i, rfl, hi, h⟩
    rw [ofNode, hi]
    exact h

end Evidence

/-! ### Corpora -/

namespace Corpus

variable {names names' : List Text} {evidence evidence' : Text → Except AnalysisFault Evidence} {name : Text}

/-- The names of the websites with evidence. -/
def loaded (c : Corpus) : List Text := c.websites.map (·.website)

/-- The names of the websites that were left out. -/
def excluded (c : Corpus) : List Text := c.diagnostics.map (·.website)

/-- The corpus without the entries of one website. -/
def without (c : Corpus) (name : Text) : Corpus :=
  ⟨c.websites.filter (·.website != name), c.diagnostics.filter (·.website != name)⟩

/-- The corpus of websites whose evidence is given by their names. -/
def ofEach (names : List Text) (evidence : Text → Except AnalysisFault Evidence) : Corpus :=
  ofResults (names.map fun name => (name, evidence name))

/-- Evidence for a name is evidence of the website with this name. -/
def Named (evidence : Text → Except AnalysisFault Evidence) : Prop :=
  ∀ name e, evidence name = .ok e → e.website = name

theorem ofEach_cons_ok {e : Evidence} (h : evidence name = .ok e) : ofEach (name :: names) evidence =
    ⟨e :: (ofEach names evidence).websites, (ofEach names evidence).diagnostics⟩ := by
  simp [ofEach, ofResults, h, Except.toOption]

theorem ofEach_cons_error {f : AnalysisFault} (h : evidence name = .error f) : ofEach (name :: names) evidence =
    ⟨(ofEach names evidence).websites, ⟨name, f.message⟩ :: (ofEach names evidence).diagnostics⟩ := by
  simp [ofEach, ofResults, h, Except.toOption]

theorem loaded_ofEach (h : Named evidence) (names : List Text) :
    (ofEach names evidence).loaded = names.filter fun name => (evidence name).isOk := by
  induction names with
  | nil => rfl
  | cons name names ih =>
    cases hname : evidence name with
    | error f =>
      rw [ofEach_cons_error hname, List.filter_cons, hname, ← ih]
      rfl
    | ok e =>
      rw [ofEach_cons_ok hname, List.filter_cons, hname, ← ih, ← h name e hname]
      rfl

theorem excluded_ofEach (names : List Text) (evidence : Text → Except AnalysisFault Evidence) :
    (ofEach names evidence).excluded = names.filter fun name => !(evidence name).isOk := by
  induction names with
  | nil => rfl
  | cons name names ih =>
    cases hname : evidence name with
    | error f =>
      rw [ofEach_cons_error hname, List.filter_cons, hname, ← ih]
      rfl
    | ok e =>
      rw [ofEach_cons_ok hname, List.filter_cons, hname, ← ih]
      rfl

theorem evidence_of_mem_websites {e : Evidence} (h : Named evidence) (he : e ∈ (ofEach names evidence).websites) :
    evidence e.website = .ok e := by
  induction names with
  | nil => cases he
  | cons name names ih =>
    cases hname : evidence name with
    | error f =>
      rw [ofEach_cons_error hname] at he
      exact ih he
    | ok e' =>
      rw [ofEach_cons_ok hname] at he
      rcases List.mem_cons.1 he with rfl | he
      · rw [h name e hname, hname]
      · exact ih he

theorem without_ofEach (h : Named evidence) (names : List Text) (name : Text) :
    (ofEach names evidence).without name = ofEach (names.filter (· != name)) evidence := by
  induction names with
  | nil => rfl
  | cons n names ih =>
    have ihw := congrArg websites ih
    have ihd := congrArg diagnostics ih
    simp only [without] at ihw ihd
    rw [List.filter_cons, without]
    cases hn : evidence n with
    | error f =>
      rw [ofEach_cons_error hn]
      by_cases hne : n = name
      · simp [hne, ihw, ihd]
      · simp [hne, ihw, ihd, ofEach_cons_error hn]
    | ok e =>
      rw [ofEach_cons_ok hn]
      have hwebsite := h n e hn
      by_cases hne : n = name
      · simp [hne, hwebsite, ihw, ihd]
      · simp [hne, hwebsite, ihw, ihd, ofEach_cons_ok hn]

/-- Websites that have the same evidence have the same entries, whatever other websites there are. -/
theorem without_ofEach_eq (h : Named evidence) (h' : Named evidence')
    (hnames : names.filter (· != name) = names'.filter (· != name))
    (hevidence : ∀ n, n ≠ name → evidence n = evidence' n) :
    (ofEach names evidence).without name = (ofEach names' evidence').without name := by
  rw [without_ofEach h, without_ofEach h', hnames, ofEach, ofEach]
  refine congrArg ofResults (List.map_congr_left fun n hn => ?_)
  rw [hevidence n (by simpa using List.of_mem_filter hn)]

/-! ### Loading -/

/-- The corpus accounts for the directories in a directory: each is loaded or excluded, and only once, in the order of
the bytes of their names. A website is loaded if its record is there and complete, and has the evidence of its record. -/
structure Accounts (c : Corpus) (t : FileTree) (place : Place) : Prop where
  loadedInOrder : c.loaded.Pairwise fun a b => Text.bytes a < Text.bytes b
  excludedInOrder : c.excluded.Pairwise fun a b => Text.bytes a < Text.bytes b
  listed (name : Text) : name ∈ c.loaded ∨ name ∈ c.excluded ↔ t.node? (place ++ [name]) = some .directory
  apart (name : Text) : name ∈ c.loaded → name ∉ c.excluded
  isLoaded (name : Text) : name ∈ c.loaded ↔ t.node? (place ++ [name]) = some .directory ∧
    ∃ text i, t.node? (place ++ [name, MissingPart.inspection.name]) = some (.file text) ∧
      Inspection.read? text = some i ∧ i.IsComplete
  ownRecord : ∀ e ∈ c.websites, ∃ text i,
    t.node? (place ++ [e.website, MissingPart.inspection.name]) = some (.file text) ∧
      Inspection.read? text = some i ∧ Evidence.ofInspection e.website i = .ok e

variable {t t' : FileTree} {place : Place} {dir : Path} {w : World}

/-- The evidence in a directory by the names of the websites. -/
def evidenceIn (t : FileTree) (dir : Path) (place : Place) (name : Text) : Except AnalysisFault Evidence :=
  Evidence.ofNode (recordPath dir name) name (t.node? (place ++ [name, MissingPart.inspection.name]))

theorem named_evidenceIn (t : FileTree) (dir : Path) (place : Place) : Named (evidenceIn t dir place) := by
  intro name e h
  obtain ⟨text, i, -, -, he⟩ := Evidence.ofNode_eq_ok.1 h
  exact Evidence.website_of_ofInspection he

private theorem isOk_iff {α ε : Type} {x : Except ε α} : x.isOk = true ↔ ∃ a, x = .ok a := by
  cases x <;> simp [Except.toBool]

theorem isOk_evidenceIn : (evidenceIn t dir place name).isOk = true ↔ ∃ text i,
    t.node? (place ++ [name, MissingPart.inspection.name]) = some (.file text) ∧ Inspection.read? text = some i ∧
      i.IsComplete := by
  rw [isOk_iff]
  constructor
  · rintro ⟨e, he⟩
    obtain ⟨text, i, hnode, hi, hok⟩ := Evidence.ofNode_eq_ok.1 he
    exact ⟨text, i, hnode, hi, Evidence.exists_ofInspection_iff.1 ⟨e, hok⟩⟩
  · rintro ⟨text, i, hnode, hi, hcomplete⟩
    obtain ⟨e, he⟩ := Evidence.exists_ofInspection_iff.2 hcomplete
    exact ⟨e, Evidence.ofNode_eq_ok.2 ⟨text, i, hnode, hi, he⟩⟩

/-- The names are those of the directories in a directory, in order. -/
structure NamesIn (names : List Text) (t : FileTree) (place : Place) : Prop where
  inOrder : names.Pairwise (· < ·)
  mem (name : Text) : name ∈ names ↔ t.node? (place ++ [name]) = some .directory

theorem NamesIn.accounts (h : NamesIn names t place) (dir : Path) :
    (ofEach names (evidenceIn t dir place)).Accounts t place := by
  have hloaded := loaded_ofEach (named_evidenceIn t dir place) names
  have hexcluded := excluded_ofEach names (evidenceIn t dir place)
  have hbytes : names.Pairwise fun a b => Text.bytes a < Text.bytes b := h.inOrder.imp Text.bytes_lt_bytes_iff.2
  refine ⟨?_, ?_, fun name => ?_, fun name => ?_, fun name => ?_, fun e he => ?_⟩
  · rw [hloaded]
    exact hbytes.filter _
  · rw [hexcluded]
    exact hbytes.filter _
  · rw [hloaded, hexcluded, List.mem_filter, List.mem_filter, ← h.mem]
    cases (evidenceIn t dir place name).isOk <;> simp
  · rw [hloaded, hexcluded, List.mem_filter, List.mem_filter]
    rintro ⟨-, hok⟩
    simp [hok]
  · rw [hloaded, List.mem_filter, h.mem, isOk_evidenceIn]
  · exact Evidence.ofNode_eq_ok.1 (evidence_of_mem_websites (named_evidenceIn t dir place) he)

private theorem isEntryName_inspection : Path.IsEntryName MissingPart.inspection.name := by decide +kernel

theorem run_load (hp : w.tree.resolve dir = .ok place) (hdir : w.tree.node? place = some .directory) :
    ∃ names, NamesIn names w.tree place ∧
      (load (m := WorldM) dir).run w = (.ok (ofEach names (evidenceIn w.tree dir place)), w) := by
  obtain ⟨names, hnames, hnodup, hmem⟩ := FileTree.exists_directories hp hdir
  have hperm : (websiteOrder names).Perm names := List.mergeSort_perm _ _
  have hnamesIn : NamesIn (websiteOrder names) w.tree place := by
    refine ⟨Text.pairwise_lt_sort hnodup, fun name => ?_⟩
    rw [hperm.mem_iff, hmem]
  refine ⟨_, hnamesIn, ?_⟩
  rw [WorldM.run_loadCorpus hnames, ofEach]
  have heach : ∀ name ∈ websiteOrder names,
      ((Evidence.load (m := WorldM) dir name).run w).1 = evidenceIn w.tree dir place name := by
    intro name hname
    have hnode := (hnamesIn.mem name).1 hname
    have hentry := FileTree.isEntryName hnode
    have hwebsite := FileTree.resolve_entry hp hdir hentry
    have hrecord := FileTree.resolve_entry hwebsite hnode isEntryName_inspection
    rw [WorldM.run_loadEvidence hrecord, List.append_assoc]
    rfl
  rw [List.map_congr_left fun name hname => by rw [heach name hname]]

/-- Only a directory can be loaded. -/
theorem exists_place_of_load {corpus : Corpus} (h : ((load (m := WorldM) dir).run w).1 = .ok corpus) :
    ∃ place, w.tree.resolve dir = .ok place ∧ w.tree.node? place = some .directory := by
  cases hnames : w.tree.directories dir with
  | ok names => exact FileTree.exists_place_of_directories hnames
  | error e =>
    have hrun : (Files.directories (m := WorldM) dir).run w = (.error e, w) := congrArg (·, w) hnames
    rw [load, WorldM.run_bind, hrun] at h
    cases h

/-- The websites of a loaded corpus are in the order of their names. -/
theorem pairwise_websites_of_load {corpus : Corpus}
    (h : ((load (m := WorldM) dir).run w).1 = .ok corpus) :
    corpus.websites.Pairwise fun a b => a.website < b.website := by
  obtain ⟨place, hp, hplace⟩ := exists_place_of_load h
  obtain ⟨names, hnames, hload⟩ := run_load hp hplace
  rw [hload] at h
  cases h
  refine List.pairwise_map.1 (?_ : (ofEach names (evidenceIn w.tree dir place)).loaded.Pairwise (· < ·))
  rw [loaded_ofEach (named_evidenceIn w.tree dir place)]
  exact hnames.inOrder.filter _

/-- Loading a directory accounts for the directories in it, and the entries of a website do not depend on what the other
websites have. -/
theorem load_accounts (w : World) (dir : Path) (hdir : w.tree.isDirectory dir = true) :
    ∃ place corpus, w.tree.resolve dir = .ok place ∧ (load (m := WorldM) dir).run w = (.ok corpus, w) ∧
      corpus.Accounts w.tree place ∧
      ∀ (w' : World) (name : Text), w'.tree.isDirectory dir = true →
        w.tree.DifferBelow w'.tree (place ++ [name]) →
        ∃ corpus', (load (m := WorldM) dir).run w' = (.ok corpus', w') ∧ corpus'.without name = corpus.without name := by
  obtain ⟨place, hp, hplace⟩ := FileTree.isDirectory_iff.1 hdir
  obtain ⟨names, hnames, hload⟩ := run_load hp hplace
  refine ⟨place, _, hp, hload, hnames.accounts dir, ?_⟩
  intro w' name hdir' hdiffer
  obtain ⟨place', hp', hplace'⟩ := FileTree.isDirectory_iff.1 hdir'
  obtain rfl := FileTree.eq_of_resolve hp hp'
  obtain ⟨names', hnames', hload'⟩ := run_load hp' hplace'
  have hother {n : Text} (hne : n ≠ name) (rest : Place) :
      w.tree.node? (place ++ n :: rest) = w'.tree.node? (place ++ n :: rest) := by
    refine hdiffer _ fun hprefix => ?_
    rw [List.prefix_append_right_inj] at hprefix
    exact hne (List.cons_prefix_cons.1 hprefix).1.symm
  -- the other names are the same in order, and their records are the same
  refine ⟨_, hload', without_ofEach_eq (named_evidenceIn _ _ _) (named_evidenceIn _ _ _) ?_ fun n hne => ?_⟩
  · refine (hnames'.inOrder.filter _).eq_of_mem_iff (hnames.inOrder.filter _) fun n => ?_
    rw [List.mem_filter, List.mem_filter, hnames.mem, hnames'.mem]
    refine and_congr_left fun hne => ?_
    rw [hother (by simpa using hne)]
  · rw [evidenceIn, evidenceIn, hother hne]

/-! A directory with a website whose record is complete, one whose record is no text, and a file. -/

private def fullRecord : Text :=
  "\x7b\"cookies\": [], \"beacons\": [], \"hosts\": \x7b\"cookies\": \x7b\x7d, \"beacons\": \x7b\x7d\x7d\x7d".toList

private def mixedTree : FileTree :=
  FileTree.empty
    |>.putDeep ["ev".toList, "b.io".toList, "inspection.json".toList] .binary
    |>.putDeep ["ev".toList, "notes.txt".toList] (.file [])
    |>.putDeep ["ev".toList, "a.io".toList, "inspection.json".toList] (.file fullRecord)

private def mendedTree : FileTree := mixedTree.put ["ev".toList, "b.io".toList, "inspection.json".toList] (.file fullRecord)

theorem load_accounts_mixed : ∃ corpus corpus',
    (load (m := WorldM) "ev".toList).run ⟨mixedTree, []⟩ = (.ok corpus, ⟨mixedTree, []⟩) ∧
    (load (m := WorldM) "ev".toList).run ⟨mendedTree, []⟩ = (.ok corpus', ⟨mendedTree, []⟩) ∧
    "a.io".toList ∈ corpus.loaded ∧ "b.io".toList ∈ corpus.excluded ∧
    corpus'.without "b.io".toList = corpus.without "b.io".toList := by
  have hdiffer : mixedTree.DifferBelow mendedTree ["ev".toList, "b.io".toList] :=
    FileTree.differBelow_put _ ⟨["inspection.json".toList], rfl⟩ _
  obtain ⟨place, corpus, hplace, hload, haccounts, hothers⟩ :=
    load_accounts ⟨mixedTree, []⟩ "ev".toList (by decide +kernel)
  have hev : mixedTree.resolve "ev".toList = .ok ["ev".toList] := by decide +kernel
  obtain rfl := FileTree.eq_of_resolve hplace hev
  obtain ⟨corpus', hload', heq⟩ := hothers ⟨mendedTree, []⟩ "b.io".toList (by decide +kernel) hdiffer
  refine ⟨corpus, corpus', hload, hload', ?_, ?_, heq⟩
  · obtain ⟨i, hi, hcomplete⟩ : ∃ i ∈ Inspection.read? fullRecord, i.IsComplete := by decide +kernel
    exact (haccounts.isLoaded _).2 ⟨by decide +kernel, fullRecord, i, by decide +kernel, hi, hcomplete⟩
  · have hb : mixedTree.node? ["ev".toList, "b.io".toList] = some .directory := by decide +kernel
    refine ((haccounts.listed _).2 hb).resolve_left fun hloaded => ?_
    obtain ⟨-, text, i, hrecord, -⟩ := (haccounts.isLoaded _).1 hloaded
    have hbinary : mixedTree.node? ["ev".toList, "b.io".toList, MissingPart.inspection.name] = some .binary := by
      decide +kernel
    exact absurd (hbinary.symm.trans hrecord) (by simp)

end Corpus

end TrackerAudit
