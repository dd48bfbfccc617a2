import TrackerAudit.Compliance.Sets

/-!
# The compliance report

The sets, their sizes, the score and the websites left out, with a JSON form.
-/

namespace TrackerAudit

namespace Diagnostic

def toJson (d : Diagnostic) : Json :=
  Json.record [("website", Json.str d.website), ("message", Json.str d.message)]

def decode : Decoder Diagnostic := fun j => do
  let r ← j.row? ["website", "message"]
  return { website := ← r.required "website" .text, message := ← r.required "message" .text }

end Diagnostic

/-- The sizes of the sets. -/
structure SetSizes where
  a : Nat
  b : Nat
  ao : Nat
  bo : Nat
  deriving DecidableEq

namespace SetSizes

/-- The sizes of the given sets. -/
def ofSets (s : ComplianceSets) : SetSizes := ⟨s.a.size, s.b.size, s.ao.size, s.bo.size⟩

def toJson (s : SetSizes) : Json :=
  Json.record [("a", Json.nat s.a), ("b", Json.nat s.b), ("ao", Json.nat s.ao), ("bo", Json.nat s.bo)]

def decode : Decoder SetSizes := fun j => do
  let r ← j.row? ["a", "b", "ao", "bo"]
  return {
    a := ← r.required "a" .nat
    b := ← r.required "b" .nat
    ao := ← r.required "ao" .nat
    bo := ← r.required "bo" .nat }

end SetSizes

/-- The compliance report. -/
structure ComplianceReport where
  sets : ComplianceSets
  sizes : SetSizes
  score : Float
  diagnostics : List Diagnostic

namespace ComplianceReport

/-- The report on an outcome; there is none if no website is at risk. -/
def ofOutcome (o : ComplianceOutcome) : Except AnalysisFault ComplianceReport :=
  match o.sets.score with
  | .error u => .error (.undefined u)
  | .ok score => .ok { sets := o.sets, sizes := SetSizes.ofSets o.sets, score, diagnostics := o.diagnostics }

/-- The report on a legal analysis and results in practice. -/
def of (legal : LegalAnalysis) (practice : PracticalResults) : Except AnalysisFault ComplianceReport :=
  ofOutcome (ComplianceOutcome.of legal practice)

def toJson (r : ComplianceReport) : Json :=
  Json.record (r.sets.members ++ [("sizes", r.sizes.toJson), ("gdc", Json.float r.score),
    ("diagnostics", Json.array (r.diagnostics.map Diagnostic.toJson))])

def decode : Decoder ComplianceReport := fun j => do
  let r ← j.partRow? (["sizes", "gdc", "diagnostics"] ++ ComplianceSets.fields) 126
  return {
    sets := ← ComplianceSets.ofRow r
    sizes := ← r.required "sizes" SetSizes.decode
    score := ← r.required "gdc" .float
    diagnostics := ← r.defaulted "diagnostics" [] (.list Diagnostic.decode) }

end ComplianceReport

end TrackerAudit
