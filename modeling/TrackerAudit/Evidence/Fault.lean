import TrackerAudit.Files.Basic

/-!
# What can be wrong with the evidence

The causes for which a website is left out, or a number is not defined, and their wording.
-/

namespace TrackerAudit

/-- What is missing of a website. -/
inductive MissingPart
  | inspection
  | cookies
  | beacons
  | hosts
  | cookieHosts
  | beaconHosts
  | cookieClassification
  | beaconClassification
  deriving DecidableEq

/-- The name of a missing part. -/
def MissingPart.name : MissingPart → Text
  | inspection => "inspection.json".toList
  | cookies => "cookies".toList
  | beacons => "beacons".toList
  | hosts => "hosts".toList
  | cookieHosts => "hosts.cookies".toList
  | beaconHosts => "hosts.beacons".toList
  | cookieClassification => "cookie classification".toList
  | beaconClassification => "beacon classification".toList

/-- Why a number is not defined. -/
inductive Undefined
  | meanOfNothing
  | deviationOf (count : Nat)
  | noSiteAtRisk
  deriving DecidableEq

/-- The wording of why a number is not defined. -/
def Undefined.message : Undefined → Text
  | meanOfNothing => "mean of an empty sample".toList
  | deviationOf count => "standard deviation needs at least 2 values, got ".toList ++ Text.ofNat count
  | noSiteAtRisk => "A and B are both empty".toList

/-- Why an analysis fails for a website, or as a whole. -/
inductive AnalysisFault
  | missing (website : Text) (part : MissingPart)
  | undefined (u : Undefined)
  | unreadable (path : Path) (e : FileError)
  | badJson (path : Path)
  deriving DecidableEq

/-- The wording of a fault of JSON text. -/
def badJsonMessage : Text := "not of the expected form".toList

/-- The wording of a fault. -/
def AnalysisFault.message : AnalysisFault → Text
  | missing website part => "missing evidence for '".toList ++ website ++ "': ".toList ++ part.name
  | undefined u => "degenerate input: ".toList ++ u.message
  | unreadable path e => "failed to read '".toList ++ path ++ "': ".toList ++ e.message
  | badJson path => "invalid JSON in '".toList ++ path ++ "': ".toList ++ badJsonMessage

/-- A website that was left out, and why. -/
structure Diagnostic where
  website : Text
  message : Text
  deriving DecidableEq

end TrackerAudit
