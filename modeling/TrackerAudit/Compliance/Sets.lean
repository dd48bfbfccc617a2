import TrackerAudit.Compliance.Legal
import TrackerAudit.Compliance.Practice

/-!
# Compliance

The legal analysis puts some websites at risk: the sets A and B. Those of them where nothing that tracks was found form
the sets Ao and Bo, and their share is the score. A website without results in practice is left out of all sets and
reported.
-/

namespace TrackerAudit

/-- The websites at risk, and those of them that are clean in practice. -/
structure ComplianceSets where
  a : TextSet := .empty
  b : TextSet := .empty
  ao : TextSet := .empty
  bo : TextSet := .empty

namespace ComplianceSets

/-- The share of clean websites among those at risk. -/
def score (s : ComplianceSets) : Except Undefined Float :=
  let atRisk := (s.a.union s.b).size
  if atRisk = 0 then .error .noSiteAtRisk else .ok (Float.ofNat (s.ao.union s.bo).size / Float.ofNat atRisk)

/-- The sets as members of a JSON object. -/
def members (s : ComplianceSets) : List (String × Json) :=
  [("a", Json.strings s.a.toList), ("b", Json.strings s.b.toList), ("ao", Json.strings s.ao.toList),
    ("bo", Json.strings s.bo.toList)]

def fields : List String := ["a", "b", "ao", "bo"]

def ofRow (r : Json.Row) : Option ComplianceSets := do
  return {
    a := ← r.required "a" .textSet
    b := ← r.required "b" .textSet
    ao := ← r.required "ao" .textSet
    bo := ← r.required "bo" .textSet }

def toJson (s : ComplianceSets) : Json := Json.record s.members

def decode : Decoder ComplianceSets := fun j => (j.row? fields).bind ofRow

end ComplianceSets

/-- A website of the legal analysis with what was measured on it, if it was. -/
structure Assessment where
  website : Text
  legalClass : LegalClass
  measurement : Except AnalysisFault Measurement

namespace Assessment

/-- The website was measured, belongs to a class, and is clean if it has to be. -/
def isIn (x : Assessment) (c : LegalClass) (onlyClean : Bool) : Bool :=
  match x.measurement with
  | .error _ => false
  | .ok m => x.legalClass == c && (!onlyClean || m.isClean)

/-- The report of a website that was not measured. -/
def diagnostic? (x : Assessment) : Option Diagnostic :=
  match x.measurement with
  | .error f => some ⟨x.website, f.message⟩
  | .ok _ => none

end Assessment

/-- Assess all websites of the legal analysis, in the order of their names. -/
def assess (legal : LegalAnalysis) (practice : PracticalResults) : List Assessment :=
  legal.entries.map fun (website, record) => ⟨website, record.legalClass, practice.measurement website⟩

/-- The websites of a class. -/
def websitesIn (assessments : List Assessment) (c : LegalClass) (onlyClean : Bool) : TextSet :=
  TextSet.ofList ((assessments.filter (·.isIn c onlyClean)).map (·.website))

/-- The sets, and the websites left out for lack of results. -/
structure ComplianceOutcome where
  sets : ComplianceSets
  diagnostics : List Diagnostic

/-- Compare the legal analysis with the results in practice. -/
def ComplianceOutcome.of (legal : LegalAnalysis) (practice : PracticalResults) : ComplianceOutcome :=
  let assessments := assess legal practice
  { sets := {
      a := websitesIn assessments .a false
      b := websitesIn assessments .b false
      ao := websitesIn assessments .a true
      bo := websitesIn assessments .b true }
    diagnostics := assessments.filterMap Assessment.diagnostic? }

end TrackerAudit
