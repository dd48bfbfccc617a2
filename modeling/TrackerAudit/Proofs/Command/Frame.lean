import TrackerAudit.Proofs.Command.Parts
import TrackerAudit.Proofs.Files.Change

/-!
# What commands leave alone

Whatever becomes of a command, it writes its own result files only, and creates at most the output directory and its
parents (`Settings.relates_classify`, `Settings.relates_perform_run`). A command writes only after it has read what it
needs: a classification that cannot load its filter lists or its evidence changes nothing
(`Settings.exec_classify_of_failsToLoad`). A score alone reads the output directory first, so that there is none to
create, and either writes its file or changes nothing (`Settings.exec_score`).
-/

namespace TrackerAudit

open Steps

variable {α β : Type} {w w' : World} {output : Path} {files : List Path} {mayCreate : Place → Prop}

/-! ### Trees before and after steps -/

namespace Steps

variable {x : Steps WorldM α} {R : FileTree → FileTree → Prop}

/-- Whatever becomes of the steps, the tree that they leave is related to the one that they found. -/
def Relates (x : Steps WorldM α) (R : FileTree → FileTree → Prop) : Prop := ∀ w, R w.tree (x.exec w).2.tree

theorem IsReading.relates [Std.Refl R] (h : x.IsReading) : x.Relates R := by
  intro w
  rw [h w]
  exact refl w.tree

theorem Relates.bind [IsTrans FileTree R] {f : α → Steps WorldM β} (hx : x.Relates R) (hf : ∀ a, (f a).Relates R) :
    (x >>= f).Relates R := by
  intro w
  have hx := hx w
  rw [exec_bind]
  rcases h : x.exec w with ⟨r, w'⟩
  rw [h] at hx
  cases r with
  | error e => exact hx
  | ok a => exact Trans.trans hx (hf a w')

theorem relates_printLines [Std.Refl R] (lines : List Text) : (printLines lines).Relates R := by
  intro w
  obtain ⟨printed, h⟩ := exec_printLines lines w
  rw [h]
  exact refl w.tree

theorem relates_write (path : Path) (content : Text) (fault : FileError → CommandFault) :
    (attempt (Files.write (m := WorldM) path content) fault).Relates (·.OnlyChanges · [path] mayCreate) := by
  intro w
  rcases exec_write path content fault w with ⟨tree, hwrite, hexec⟩ | ⟨f, hexec⟩
  · rw [hexec]
    exact .of_write hwrite
  · rw [hexec]
    exact .refl w.tree

theorem relates_createDirectories (dir : Path) (fault : FileError → CommandFault) :
    (attempt (Files.createDirectories (m := WorldM) dir) fault).Relates (·.OnlyChanges · files dir.LeadsThrough) :=
  fun w => .of_createDirectories w.tree dir

end Steps

/-! ### Result files -/

namespace ResultFile

theorem slash_notMem_name (f : ResultFile) : '/' ∉ f.name := by
  cases f <;> decide

/-- Writing a result changes its file, and creates at most the output directory and its parents. -/
theorem relates_writeJson (f : ResultFile) (output : Path) (j : Json) :
    (writeJson (f.path output) j).Relates (·.OnlyChanges · [f.path output] output.LeadsThrough) := by
  unfold writeJson
  dsimp only
  split
  · exact relates_write _ _ _
  · rename_i dir hdir
    refine .bind (fun w => ?_) fun _ => relates_write _ _ _
    refine (relates_createDirectories dir _ w).mono (List.Subset.refl _) fun place hplace => ?_
    exact hplace.of_parent?_join f.slash_notMem_name hdir

/-- In a directory that exists, the file of a result is written in full, or nothing changes. -/
theorem exec_writeJson (f : ResultFile) (j : Json) (h : w.tree.HasDirectories output) :
    (∃ tree, w.tree.write (f.path output) j.pretty = .ok tree ∧
      (writeJson (f.path output) j).exec w = (.ok (), { w with tree })) ∨
    ∃ e, (writeJson (f.path output) j).exec w = (.error e, w) := by
  unfold writeJson
  dsimp only
  split
  · exact exec_write _ _ _ w
  · rename_i dir hdir
    have hparent : w.tree.HasDirectories dir := fun place hplace =>
      h place (hplace.of_parent?_join f.slash_notMem_name hdir)
    have hworld : ((attempt (Files.createDirectories (m := WorldM) dir) (.notCreated dir)).exec w).2 = w := by
      change { w with tree := (w.tree.createDirectories dir).1 } = w
      rw [hparent.createDirectories_eq]
    rw [exec_bind]
    rcases exec_cases hworld with ⟨e, hcreate⟩ | ⟨⟨⟩, hcreate⟩
    · rw [hcreate]
      exact Or.inr ⟨e, rfl⟩
    · rw [hcreate]
      exact exec_write _ _ _ w

end ResultFile

/-! ### Actions -/

namespace Settings

variable {s : Settings} {practical : PracticalResults}

theorem relates_compile (s : Settings) (showErrors : Bool) : (s.compile showErrors).Relates Eq := by
  have hlist (source : SourceList) (path : Path) : (compileList showErrors source path).Relates Eq :=
    .bind (isReading_attempt (WorldM.isReading_readText path) _).relates fun _ =>
      .bind (relates_printLines _) fun _ => (isReading_pure _).relates
  exact .bind (hlist _ _) fun _ => .bind (hlist _ _) fun _ => .bind (hlist _ _) fun _ _ => rfl

theorem relates_check (s : Settings) (q : Request) : (s.check q).Relates Eq :=
  .bind (isReading_loadCatalogue s.lists).relates fun _ => relates_printLines _

/-- What a classification must read cannot be read: one of the filter lists, or the directory of the evidence. -/
inductive FailsToLoad (s : Settings) (w : World) : Prop
  | lists {f : CommandFault} (h : ((loadCatalogue s.lists).exec w).1 = .error f)
  | evidence {f : AnalysisFault} (h : ((Corpus.load (m := WorldM) s.evidence).run w).1 = .error f)

/-- A classification that cannot load what it reads fails and changes nothing. -/
theorem exec_classify_of_failsToLoad (h : s.FailsToLoad w) : ∃ f, s.classify.exec w = (.error f, w) := by
  rcases exec_cases (isReading_loadCatalogue s.lists w) with ⟨e, hcatalogue⟩ | ⟨catalogue, hcatalogue⟩
  · exact ⟨e, by rw [classify, exec_bind, hcatalogue]⟩
  · cases h with
    | lists h =>
      rw [hcatalogue] at h
      cases h
    | @evidence f h =>
      have hcorpus : (attempt (Corpus.load (m := WorldM) s.evidence) .evidence).exec w = (.error (.evidence f), w) := by
        rw [exec_attempt, h, WorldM.isReading_loadCorpus s.evidence w]
        rfl
      refine ⟨.evidence f, ?_⟩
      rw [classify, exec_bind, hcatalogue]
      dsimp only
      rw [exec_bind, hcorpus]

def resultPaths (s : Settings) (files : List ResultFile) : List Path := files.map (·.path s.output)

theorem relates_writeJson (s : Settings) {f : ResultFile} {files : List ResultFile} (hf : f ∈ files) (j : Json) :
    (writeJson (f.path s.output) j).Relates (·.OnlyChanges · (s.resultPaths files) s.output.LeadsThrough) := by
  intro w
  refine (f.relates_writeJson s.output j w).mono ?_ fun _ => id
  intro p hp
  rw [List.mem_singleton.1 hp]
  exact List.mem_map_of_mem hf

theorem relates_classify (s : Settings) :
    s.classify.Relates (·.OnlyChanges · (s.resultPaths ResultFile.ofClassification) s.output.LeadsThrough) := by
  have hwrite {f : ResultFile} (hf : f ∈ ResultFile.ofClassification) (j : Json) := s.relates_writeJson hf j
  have hresults (r : ResultFiles) : (r.write s.output).Relates
      (·.OnlyChanges · (s.resultPaths ResultFile.ofClassification) s.output.LeadsThrough) :=
    .bind (hwrite (by decide) _) fun _ => .bind (hwrite (by decide) _) fun _ =>
      .bind (hwrite (by decide) _) fun _ => hwrite (by decide) _
  refine .bind (isReading_loadCatalogue s.lists).relates fun _ => ?_
  refine .bind (isReading_attempt (WorldM.isReading_loadCorpus s.evidence) _).relates fun _ => ?_
  refine .bind (relates_printLines _) fun _ => .bind (hresults _) fun _ => .bind (relates_printLines _) fun _ => ?_
  exact .bind (hwrite (by decide) _) fun _ => .bind (relates_printLines _) fun _ => (isReading_pure _).relates

theorem relates_scoreOf (s : Settings) (practical : PracticalResults) :
    (s.scoreOf practical).Relates (·.OnlyChanges · (s.resultPaths [.compliance]) s.output.LeadsThrough) := by
  refine .bind (isReading_attempt (WorldM.isReading_readRecord s.legal _) _).relates fun legal => ?_
  split
  · exact fun w => .refl w.tree
  · exact .bind (s.relates_writeJson (by decide) _) fun _ => relates_printLines _

theorem relates_perform_classify (s : Settings) : (s.perform .classify).Relates
    (·.OnlyChanges · (s.resultPaths ResultFile.ofClassification) s.output.LeadsThrough) :=
  .bind s.relates_classify fun _ => (isReading_pure _).relates

theorem relates_perform_run (s : Settings) : (s.perform .run).Relates
    (·.OnlyChanges · (s.resultPaths (ResultFile.ofClassification ++ [.compliance])) s.output.LeadsThrough) := by
  refine .bind (fun w => (s.relates_classify w).mono ?_ fun _ => id) fun practical w =>
    (s.relates_scoreOf practical w).mono ?_ fun _ => id
  · exact List.map_subset _ (List.subset_append_left _ _)
  · exact List.map_subset _ (List.subset_append_right _ _)

/-- In a directory that exists, a score is written in full, or nothing changes. -/
theorem exec_scoreOf (practical : PracticalResults) (h : w.tree.HasDirectories s.output) :
    (∃ tree content printed, w.tree.write (ResultFile.compliance.path s.output) content = .ok tree ∧
      (s.scoreOf practical).exec w = (.ok (), ⟨tree, printed⟩)) ∨
    ∃ f, (s.scoreOf practical).exec w = (.error f, w) := by
  have hreading := isReading_attempt (WorldM.isReading_readRecord s.legal LegalAnalysis.read?) CommandFault.legalAnalysis
  rw [scoreOf, exec_bind]
  rcases exec_cases (hreading w) with ⟨e, hlegal⟩ | ⟨legal, hlegal⟩
  · rw [hlegal]
    exact Or.inr ⟨e, rfl⟩
  · rw [hlegal]
    dsimp only
    split
    · exact Or.inr ⟨_, rfl⟩
    · rename_i report hreport
      rw [exec_bind]
      rcases ResultFile.compliance.exec_writeJson report.toJson h with ⟨tree, hwrite, hexec⟩ | ⟨e, hexec⟩
      · obtain ⟨printed, hprinted⟩ := exec_printLines report.listing { w with tree }
        rw [hexec]
        exact Or.inl ⟨tree, _, printed, hwrite, hprinted⟩
      · rw [hexec]
        exact Or.inr ⟨e, rfl⟩

theorem isReading_readPractical (output : Path) : IsReading (ResultFiles.readPractical (m := WorldM) output) := by
  have hread {γ : Type} (path : Path) (decode : Decoder γ) : IsReading (readJson (m := WorldM) path decode) :=
    isReading_bind (isReading_attempt (WorldM.isReading_readText path) _) fun _ => isReading_expect _ _
  exact isReading_bind (hread _ _) fun _ => isReading_bind (hread _ _) fun _ => isReading_pure _

/-- Results can only be read from a directory that exists. -/
theorem hasDirectories_of_readPractical (h : (ResultFiles.readPractical s.output).exec w = (.ok practical, w')) :
    w.tree.HasDirectories s.output := by
  obtain ⟨cookies, w₁, hcookies, -⟩ := exec_bind_eq_ok.1 h
  obtain ⟨text, w₂, htext, -⟩ := exec_bind_eq_ok.1 hcookies
  have htext : w.tree.readText (ResultFile.cookies.path s.output) = .ok text :=
    congrArg Prod.fst (attempt_eq_ok.1 htext)
  obtain ⟨place, hplace, -⟩ := FileTree.readText_eq_ok.1 htext
  exact .of_resolve_join ResultFile.cookies.slash_notMem_name hplace

/-- A score from the output directory is written in full, or nothing changes. -/
theorem exec_score (s : Settings) (w : World) :
    (∃ tree content printed, w.tree.write (ResultFile.compliance.path s.output) content = .ok tree ∧
      s.score.exec w = (.ok (), ⟨tree, printed⟩)) ∨
    ∃ f, s.score.exec w = (.error f, w) := by
  rw [score, exec_bind]
  rcases exec_cases (isReading_readPractical s.output w) with ⟨e, hread⟩ | ⟨practical, hread⟩
  · rw [hread]
    exact Or.inr ⟨e, rfl⟩
  · rw [hread]
    exact exec_scoreOf practical (hasDirectories_of_readPractical hread)

end Settings

/-! ### Commands -/

/-- Without settings a command changes nothing. Compiling lists and checking a request never change a file. A score from
the output directory writes its own file and changes no other, and changes nothing at all if it fails. A classification,
alone or with a score, changes its own files and creates at most the output directory and its parents, and it changes
nothing if it cannot load what it reads. -/
theorem Command.onlyChanges_exec (c : Command) (w : World) :
    match (c.overrides.settings.exec w).1 with
    | .error f => c.run.exec w = (.error f, w)
    | .ok s =>
      match c.action with
      | .compile _ | .check _ => (c.run.exec w).2.tree = w.tree
      | .score =>
        (∀ f, (c.run.exec w).1 = .error f → (c.run.exec w).2 = w) ∧
        ((c.run.exec w).1 = .ok () →
          ∃ content, w.tree.write (ResultFile.compliance.path s.output) content = .ok (c.run.exec w).2.tree) ∧
        w.tree.OnlyChanges (c.run.exec w).2.tree (s.resultPaths [.compliance]) fun _ => False
      | .classify =>
        (s.FailsToLoad w → ∃ f, c.run.exec w = (.error f, w)) ∧
        w.tree.OnlyChanges (c.run.exec w).2.tree (s.resultPaths ResultFile.ofClassification) s.output.LeadsThrough
      | .run =>
        (s.FailsToLoad w → ∃ f, c.run.exec w = (.error f, w)) ∧
        w.tree.OnlyChanges (c.run.exec w).2.tree (s.resultPaths (ResultFile.ofClassification ++ [.compliance]))
          s.output.LeadsThrough := by
  rcases exec_cases (c.overrides.isReading_settings w) with ⟨e, hsettings⟩ | ⟨s, hsettings⟩
  · rw [hsettings, Command.run, exec_bind, hsettings]
  · have hrun : c.run.exec w = (s.perform c.action).exec w := by rw [Command.run, exec_bind, hsettings]
    have hloads {β : Type} (f : PracticalResults → Steps WorldM β) (h : s.FailsToLoad w) :
        ∃ e, (s.classify >>= f).exec w = (.error e, w) := by
      obtain ⟨e, hclassify⟩ := Settings.exec_classify_of_failsToLoad h
      exact ⟨e, by rw [exec_bind, hclassify]⟩
    rw [hsettings, hrun]
    dsimp only
    cases c.action with
    | compile showErrors => exact (s.relates_compile showErrors w).symm
    | check q => exact (s.relates_check q w).symm
    | score =>
      dsimp only [Settings.perform]
      rcases s.exec_score w with ⟨tree, content, printed, hwrite, hexec⟩ | ⟨e, hexec⟩
      · rw [hexec]
        refine ⟨fun f hf => ?_, fun _ => ⟨content, hwrite⟩, .of_write hwrite⟩
        cases hf
      · rw [hexec]
        refine ⟨fun f _ => rfl, fun hf => ?_, .refl w.tree⟩
        cases hf
    | classify => exact ⟨hloads _, s.relates_perform_classify w⟩
    | run => exact ⟨hloads _, s.relates_perform_run w⟩

private def noEvidence : World where
  tree := FileTree.empty
    |>.putDeep ["assets".toList, "easylist.txt".toList] (.file "||ok.io^\n".toList)
    |>.putDeep ["assets".toList, "easyprivacy.txt".toList] (.file [])
    |>.putDeep ["assets".toList, "fanboy-annoyance.txt".toList] (.file [])
    |>.putDeep ["results".toList, "summary.json".toList] (.file [])

theorem Command.onlyChanges_exec_noEvidence :
    Settings.FailsToLoad {} noEvidence ∧ ∃ f, (Command.run ⟨.run, {}⟩).exec noEvidence = (.error f, noEvidence) := by
  have hnames : (Files.directories (m := WorldM) "wec-evidences".toList).run noEvidence =
      (.error .notFound, noEvidence) := by
    have hmissing : noEvidence.tree.directories "wec-evidences".toList = .error .notFound := by decide +kernel
    exact congrArg (·, noEvidence) hmissing
  have hload : ((Corpus.load (m := WorldM) "wec-evidences".toList).run noEvidence).1 =
      .error (.unreadable "wec-evidences".toList .notFound) := by
    rw [Corpus.load, WorldM.run_bind, hnames]
    rfl
  have hfails : Settings.FailsToLoad {} noEvidence := .evidence hload
  exact ⟨hfails, (Command.onlyChanges_exec ⟨.run, {}⟩ noEvidence).1 hfails⟩

end TrackerAudit
