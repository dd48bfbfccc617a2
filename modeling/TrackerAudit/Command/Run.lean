import TrackerAudit.Classify.Pool
import TrackerAudit.Command.Basic
import TrackerAudit.Command.Listing
import TrackerAudit.Command.Results
import TrackerAudit.Evidence.Directory

/-!
# Running commands

Each command as a sequence of steps. Everything that a command reads before its first result is read before anything is
written, and a run of both parts takes the same steps as the parts one after another, except that it does not read its
results back.
-/

namespace TrackerAudit

variable {m : Type → Type} [Monad m] [Files m]

/-- The settings of a command: those of the given file, or the default, with what the command line says. -/
def Overrides.settings (o : Overrides) : Steps m Settings := do
  match o.config with
  | none => return o.apply {}
  | some path =>
    let text ← Steps.attempt (Files.readText (m := m) path) (.unreadableSettings path)
    let settings ← Steps.expect (Settings.read? text) (.badSettings path)
    return o.apply settings

/-- Read the text of a filter list for a classification. -/
def readList (path : Path) : Steps m Text :=
  Steps.attempt (Files.readText (m := m) path) fun e => .lists (.unreadable path e)

/-- The catalogue of the filter lists in files. -/
def loadCatalogue (paths : ListPaths) : Steps m Catalogue := do
  let easyList ← readList paths.easyList
  let easyPrivacy ← readList paths.easyPrivacy
  let fanboyAnnoyance ← readList paths.fanboyAnnoyance
  return Catalogue.read easyList easyPrivacy fanboyAnnoyance

namespace Settings

/-- Compile one filter list, report on it, and give the number of its rules. -/
def compileList (showErrors : Bool) (source : SourceList) (path : Path) : Steps m Nat := do
  let text ← Steps.attempt (Files.readText (m := m) path) (.unreadableList path)
  let compiled := CompiledList.read text source
  Steps.printLines (compiled.listing path showErrors)
  return compiled.rules.size

/-- Compile the filter lists and report on each. -/
def compile (s : Settings) (showErrors : Bool) : Steps m Unit := do
  let easyList ← compileList showErrors .easyList s.lists.easyList
  let easyPrivacy ← compileList showErrors .easyPrivacy s.lists.easyPrivacy
  let fanboyAnnoyance ← compileList showErrors .fanboyAnnoyance s.lists.fanboyAnnoyance
  Files.print (m := m) (.compiled (easyList + easyPrivacy + fanboyAnnoyance))

/-- Check one request. -/
def check (s : Settings) (q : Request) : Steps m Unit := do
  let catalogue ← loadCatalogue s.lists
  Steps.printLines ((catalogue.judge s.classifier.exceptionScope q).listing q.url)

/-- The line about a website that is left out. -/
def excludedLine (d : Diagnostic) : Text := line ["  Excluded ".toList, d.website, ": ".toList, d.message]

/-- The line about the results written. -/
def wroteLine (s : Settings) (websites : Nat) : Text :=
  line ["Wrote results for ".toList, Text.ofNat websites, " websites to '".toList, s.output, "'".toList]

/-- Classify the evidence, write and report the results, and give those that a score is computed from. -/
def classify (s : Settings) : Steps m PracticalResults := do
  let catalogue ← loadCatalogue s.lists
  let corpus ← Steps.attempt (Corpus.load s.evidence : m _) .evidence
  Steps.printLines (corpus.diagnostics.map excludedLine)
  let classifier : Classifier := ⟨catalogue, s.classifier⟩
  let websites := classifier.classifyAll s.workerCount corpus.websites
  let results := ResultFiles.ofWebsites websites
  results.write s.output
  Steps.printLines [s.wroteLine websites.length]
  let summary := CorpusSummary.ofWebsites s.top websites
  Steps.writeJson (ResultFile.summary.path s.output) summary.toJson
  Steps.printLines summary.listing
  return results.practical

/-- Compute the score from results in practice, and write and report it. -/
def scoreOf (s : Settings) (practical : PracticalResults) : Steps m Unit := do
  let legal ← Steps.attempt (readRecord s.legal LegalAnalysis.read? : m _) .legalAnalysis
  match ComplianceReport.of legal practical with
  | .error f => throw (.score f)
  | .ok report =>
    Steps.writeJson (ResultFile.compliance.path s.output) report.toJson
    Steps.printLines report.listing

/-- Compute the score from the results in the output directory. -/
def score (s : Settings) : Steps m Unit := do
  let practical ← ResultFiles.readPractical s.output
  s.scoreOf practical

/-- Do what is asked for with the given settings. -/
def perform (s : Settings) : Action → Steps m Unit
  | .compile showErrors => s.compile showErrors
  | .check request => s.check request
  | .classify => do
    let _ ← s.classify
  | .score => s.score
  | .run => do
    let practical ← s.classify
    s.scoreOf practical

end Settings

/-- Run a command. -/
def Command.run (c : Command) : Steps m Unit := do
  let settings ← c.overrides.settings
  settings.perform c.action

end TrackerAudit
