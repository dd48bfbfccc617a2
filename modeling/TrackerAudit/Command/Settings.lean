import TrackerAudit.Classify.Options
import TrackerAudit.Files.Basic

/-!
# Settings of a run

Which files a run reads and writes, and how it classifies. The settings stand in a JSON file, where each one may be left
out in favour of its default, and arguments of the command line go before them.
-/

namespace TrackerAudit

def Path.decode : Decoder Path := .text

/-- The files of the three filter lists. -/
structure ListPaths where
  easyList : Path := "assets/easylist.txt".toList
  easyPrivacy : Path := "assets/easyprivacy.txt".toList
  fanboyAnnoyance : Path := "assets/fanboy-annoyance.txt".toList
  deriving DecidableEq

namespace ListPaths

def toJson (p : ListPaths) : Json :=
  Json.record [("easylist", Json.str p.easyList), ("easyprivacy", Json.str p.easyPrivacy),
    ("fanboy_annoyance", Json.str p.fanboyAnnoyance)]

def decode : Decoder ListPaths := fun j => do
  let default : ListPaths := {}
  let r ← j.row? ["easylist", "easyprivacy", "fanboy_annoyance"]
  return {
    easyList := ← r.defaulted "easylist" default.easyList Path.decode
    easyPrivacy := ← r.defaulted "easyprivacy" default.easyPrivacy Path.decode
    fanboyAnnoyance := ← r.defaulted "fanboy_annoyance" default.fanboyAnnoyance Path.decode }

end ListPaths

/-- The settings of a run. -/
structure Settings where
  lists : ListPaths := {}
  /-- the directory of the evidence -/
  evidence : Path := "wec-evidences".toList
  /-- the file of the legal analysis -/
  legal : Path := "theoretical_analysis.json".toList
  /-- the directory for the results -/
  output : Path := "results".toList
  /-- the length of rankings -/
  top : Nat := 10
  classifier : ClassifierOptions := {}
  /-- the number of workers that classify websites -/
  workers : Option Nat := none
  deriving DecidableEq

namespace Settings

/-- The number of workers, of which there is at least one. Where the settings name none, a system may well run more than
the one taken here; the results are the same for any number of workers (`Settings.classify_workers`). -/
def workerCount (s : Settings) : Nat := max (s.workers.getD 1) 1

def toJson (s : Settings) : Json :=
  Json.record [("lists", s.lists.toJson), ("evidence_dir", Json.str s.evidence), ("theoretical", Json.str s.legal),
    ("output_dir", Json.str s.output), ("top_n", Json.nat s.top), ("classifier", s.classifier.toJson),
    ("workers", Json.ofOption Json.nat s.workers)]

def decode : Decoder Settings := fun j => do
  let default : Settings := {}
  let r ← j.row? ["lists", "evidence_dir", "theoretical", "output_dir", "top_n", "classifier", "workers"]
  return {
    lists := ← r.defaulted "lists" default.lists ListPaths.decode
    evidence := ← r.defaulted "evidence_dir" default.evidence Path.decode
    legal := ← r.defaulted "theoretical" default.legal Path.decode
    output := ← r.defaulted "output_dir" default.output Path.decode
    top := ← r.defaulted "top_n" default.top .nat
    classifier := ← r.defaulted "classifier" default.classifier ClassifierOptions.decode
    workers := ← r.defaulted "workers" none (.optional .nat) }

/-- The settings in a JSON text. -/
def read? (text : Text) : Option Settings := (Json.read? text).bind decode

end Settings

end TrackerAudit
