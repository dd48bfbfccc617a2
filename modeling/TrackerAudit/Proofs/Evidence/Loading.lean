import TrackerAudit.Evidence.Directory
import TrackerAudit.Proofs.Files.Growth

/-!
# Loading only reads

What loads evidence leaves the world as it is (`WorldM.IsReading`). The result for a directory is made of what is loaded
for each of its websites in the same world (`WorldM.run_loadCorpus`).
-/

namespace TrackerAudit

variable {α β : Type} {w : World}

/-- Where the record of a website in a directory is read from. -/
def recordPath (dir : Path) (website : Text) : Path := Path.join (Path.join dir website) MissingPart.inspection.name

/-- The evidence of a website, given what stands where its record is read from. -/
def Evidence.ofNode (path : Path) (website : Text) : Option FileNode → Except AnalysisFault Evidence
  | some (.file text) =>
    match Inspection.read? text with
    | none => .error (.badJson path)
    | some i => Evidence.ofInspection website i
  | some .binary => .error (.unreadable path .notText)
  | some .directory | none => .error (.missing website .inspection)

/-- The action leaves every world as it is. -/
def WorldM.IsReading (x : WorldM α) : Prop := ∀ w, (x.run w).2 = w

namespace WorldM

theorem isReading_pure (a : α) : IsReading (pure a) := fun _ => rfl

theorem run_bind (x : WorldM α) (f : α → WorldM β) (w : World) :
    (x >>= f).run w = (f (x.run w).1).run (x.run w).2 := rfl

theorem isReading_bind {x : WorldM α} {f : α → WorldM β} (hx : x.IsReading) (hf : ∀ a, (f a).IsReading) :
    (x >>= f).IsReading := by
  intro w
  rw [run_bind, hf, hx]

/-- Reading actions do not get in the way of each other. -/
theorem run_mapM {f : α → WorldM β} (hf : ∀ a, (f a).IsReading) (as : List α) (w : World) :
    (as.mapM f).run w = (as.map fun a => ((f a).run w).1, w) := by
  induction as with
  | nil => rfl
  | cons a as ih =>
    rw [List.mapM_cons, run_bind, hf a w, run_bind, ih]
    rfl

theorem isReading_mapM {f : α → WorldM β} (hf : ∀ a, (f a).IsReading) (as : List α) : (as.mapM f).IsReading :=
  fun w => congrArg Prod.snd (run_mapM hf as w)

theorem isReading_readText (p : Path) : IsReading (Files.readText p) := fun _ => rfl

theorem isReading_isFile (p : Path) : IsReading (Files.isFile p) := fun _ => rfl

theorem isReading_directories (p : Path) : IsReading (Files.directories p) := fun _ => rfl

/-! ### Loading -/

theorem isReading_readRecord (p : Path) (read : Text → Option α) : IsReading (readRecord p read) := by
  refine isReading_bind (isReading_readText p) fun r => ?_
  cases r with
  | error e => exact isReading_pure _
  | ok text =>
    dsimp only
    split <;> exact isReading_pure _

theorem isReading_loadEvidence (dir : Path) (website : Text) : IsReading (Evidence.load dir website) := by
  refine isReading_bind (isReading_isFile _) fun isFile => ?_
  split
  · exact isReading_bind (isReading_readRecord _ _) fun r => isReading_pure _
  · exact isReading_pure _

/-- The evidence of a website depends on what stands where its record is read from, and on nothing else. -/
theorem run_loadEvidence {dir : Path} {website : Text} {place : Place}
    (hp : w.tree.resolve (recordPath dir website) = .ok place) :
    (Evidence.load (m := WorldM) dir website).run w =
      (Evidence.ofNode (recordPath dir website) website (w.tree.node? place), w) := by
  unfold recordPath at hp ⊢
  let path := Path.join (Path.join dir website) MissingPart.inspection.name
  have hisFile (b : Bool) (h : w.tree.isFile path = b) : (Files.isFile (m := WorldM) path).run w = (b, w) :=
    congrArg (·, w) h
  have hreadText (r : Except FileError Text) (h : w.tree.readText path = r) :
      (Files.readText (m := WorldM) path).run w = (r, w) := congrArg (·, w) h
  cases hnode : w.tree.node? place with
  | none =>
    have hfile := hisFile false (by simp only [path, FileTree.isFile, hp, hnode])
    rw [Evidence.load, run_bind, hfile]
    rfl
  | some node =>
    cases node with
    | directory =>
      have hfile := hisFile false (by simp only [path, FileTree.isFile, hp, hnode])
      rw [Evidence.load, run_bind, hfile]
      rfl
    | binary =>
      have hfile := hisFile true (by simp only [path, FileTree.isFile, hp, hnode])
      have htext := hreadText (.error .notText) (by simp only [path, FileTree.readText, hp, bind, Except.bind, hnode]; rfl)
      rw [Evidence.load, run_bind, hfile, if_pos rfl, run_bind, readRecord, run_bind, htext]
      rfl
    | file text =>
      have hfile := hisFile true (by simp only [path, FileTree.isFile, hp, hnode])
      have htext := hreadText (.ok text) (FileTree.readText_eq_ok.2 ⟨place, hp, hnode⟩)
      rw [Evidence.load, run_bind, hfile, if_pos rfl, run_bind, readRecord, run_bind, htext]
      dsimp only [Evidence.ofNode]
      cases Inspection.read? text <;> rfl

theorem isReading_loadCorpus (dir : Path) : IsReading (Corpus.load dir) := by
  refine isReading_bind (isReading_directories dir) fun r => ?_
  cases r with
  | error e => exact isReading_pure _
  | ok names =>
    refine isReading_bind (isReading_mapM (fun website => ?_) _) fun results => isReading_pure _
    exact isReading_bind (isReading_loadEvidence dir website) fun r => isReading_pure _

/-- The corpus of a directory has what is loaded for each of its websites. -/
theorem run_loadCorpus {dir : Path} {names : List Text} (h : w.tree.directories dir = .ok names) :
    (Corpus.load (m := WorldM) dir).run w = (.ok (Corpus.ofResults ((websiteOrder names).map fun website =>
      (website, ((Evidence.load (m := WorldM) dir website).run w).1))), w) := by
  have hload (website : Text) :
      IsReading (do return (website, ← Evidence.load (m := WorldM) dir website)) :=
    isReading_bind (isReading_loadEvidence dir website) fun r => isReading_pure _
  have hnames : (Files.directories (m := WorldM) dir).run w = (.ok names, w) := congrArg (·, w) h
  rw [Corpus.load, run_bind, hnames]
  dsimp only
  rw [run_bind, run_mapM hload]
  rfl

end WorldM

end TrackerAudit
