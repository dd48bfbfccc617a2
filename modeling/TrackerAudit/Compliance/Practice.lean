import TrackerAudit.Classify.Website
import TrackerAudit.Evidence.Fault
import TrackerAudit.Text.Keyed

/-!
# Results in practice

The classified cookies and beacons of each website. A website counts as measured when it has both.
-/

namespace TrackerAudit

/-- What was measured on a website. -/
structure Measurement where
  hasTracking : Bool
  beacons : Nat
  deriving DecidableEq

/-- Nothing that tracks was found: no tracking resource and no beacon at all. -/
def Measurement.isClean (m : Measurement) : Bool := !m.hasTracking && m.beacons == 0

/-- Classified cookies and beacons, by website. -/
structure PracticalResults where
  cookies : Keyed (List ClassifiedCookie)
  beacons : Keyed (List ClassifiedBeacon)

namespace PracticalResults

/-- The results for classified websites; of two with the same name the later one counts. -/
def ofWebsites (websites : List ClassifiedWebsite) : PracticalResults where
  cookies := Keyed.ofList (websites.map fun w => (w.website, w.cookies))
  beacons := Keyed.ofList (websites.map fun w => (w.website, w.beacons))

/-- The website has results for both cookies and beacons. -/
def covers (p : PracticalResults) (website : Text) : Bool :=
  (p.cookies.get? website).isSome && (p.beacons.get? website).isSome

/-- What was measured on a website. -/
def measurement (p : PracticalResults) (website : Text) : Except AnalysisFault Measurement :=
  match p.cookies.get? website, p.beacons.get? website with
  | none, _ => .error (.missing website .cookieClassification)
  | some _, none => .error (.missing website .beaconClassification)
  | some cookies, some beacons =>
    .ok { hasTracking := cookies.any (·.tracking) || beacons.any (·.tracking), beacons := beacons.length }

/-- Read the classified cookies of all websites. -/
def decodeCookies : Decoder (Keyed (List ClassifiedCookie)) := .keyed (.list (ClassifiedCookie.decode 124))

/-- Read the classified beacons of all websites. -/
def decodeBeacons : Decoder (Keyed (List ClassifiedBeacon)) := .keyed (.list (ClassifiedBeacon.decode 124))

end PracticalResults

end TrackerAudit
