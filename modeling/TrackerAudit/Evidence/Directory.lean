import TrackerAudit.Evidence.Inspection

/-!
# Evidence directories

The evidence of many websites stands in one directory, with a directory for each website that holds the record of its
inspection. A website whose record is missing, not readable or not complete is left out and reported.
-/

namespace TrackerAudit

/-- The evidence of the websites of a directory, and the websites left out, both in the order of their names. -/
structure Corpus where
  websites : List Evidence := []
  diagnostics : List Diagnostic := []

/-- Read a JSON file. -/
def readRecord {m : Type → Type} [Monad m] [Files m] {α : Type} (path : Path) (read : Text → Option α) :
    m (Except AnalysisFault α) := do
  match ← Files.readText path with
  | .error e => return .error (.unreadable path e)
  | .ok text =>
    match read text with
    | none => return .error (.badJson path)
    | some a => return .ok a

/-- The evidence of a website from its directory. -/
def Evidence.load {m : Type → Type} [Monad m] [Files m] (dir : Path) (website : Text) :
    m (Except AnalysisFault Evidence) := do
  let path := Path.join (Path.join dir website) MissingPart.inspection.name
  if ← Files.isFile path then
    return (← readRecord path Inspection.read?).bind (Evidence.ofInspection website)
  else
    return .error (.missing website .inspection)

/-- The names of the websites of a directory, in order. -/
def websiteOrder (names : List Text) : List Text := names.mergeSort fun a b => !decide (b < a)

/-- The corpus of websites that were loaded or not. -/
def Corpus.ofResults (results : List (Text × Except AnalysisFault Evidence)) : Corpus where
  websites := results.filterMap fun (_, r) => r.toOption
  diagnostics := results.filterMap fun (website, r) =>
    match r with
    | .ok _ => none
    | .error f => some ⟨website, f.message⟩

/-- Load the evidence of all websites of a directory. -/
def Corpus.load {m : Type → Type} [Monad m] [Files m] (dir : Path) : m (Except AnalysisFault Corpus) := do
  match ← Files.directories dir with
  | .error e => return .error (.unreadable dir e)
  | .ok names =>
    let results ← (websiteOrder names).mapM fun website => do return (website, ← Evidence.load dir website)
    return .ok (Corpus.ofResults results)

end TrackerAudit
