import TrackerAudit.Classify.Resource

/-!
# Classified websites

Every cookie and beacon of a website with its verdict. In JSON the verdict is one more member of the cookie or beacon.
-/

namespace TrackerAudit

/-- A cookie with its verdict. -/
structure ClassifiedCookie where
  cookie : Cookie
  tracking : Bool

namespace ClassifiedCookie

def toJson (c : ClassifiedCookie) : Json := Json.record (c.cookie.members ++ [("tracking", Json.bool c.tracking)])

/-- Read a classified cookie, with `room` for arrays and objects in its unknown members. -/
def decode (room : Nat) : Decoder ClassifiedCookie := fun j => do
  let r ← j.partRow? ("tracking" :: Cookie.fields) room
  return { cookie := ← Cookie.ofRow r, tracking := ← r.required "tracking" .bool }

end ClassifiedCookie

/-- A beacon with its verdict. -/
structure ClassifiedBeacon where
  beacon : Beacon
  tracking : Bool
  deriving DecidableEq

namespace ClassifiedBeacon

def toJson (b : ClassifiedBeacon) : Json := Json.record (b.beacon.members ++ [("tracking", Json.bool b.tracking)])

/-- Read a classified beacon, with `room` for arrays and objects in its unknown members. A beacon without a verdict is
not tracking. -/
def decode (room : Nat) : Decoder ClassifiedBeacon := fun j => do
  let r ← j.partRow? ("tracking" :: Beacon.fields) room
  return { beacon := ← Beacon.ofRow r, tracking := ← r.defaulted "tracking" false .bool }

end ClassifiedBeacon

/-- The verdicts on everything found on one website. -/
structure ClassifiedWebsite where
  website : Text
  cookies : List ClassifiedCookie
  beacons : List ClassifiedBeacon
  cookieHosts : PartyHosts
  beaconHosts : PartyHosts

namespace ClassifiedWebsite

/-- The number of tracking cookies. -/
def trackingCookies (w : ClassifiedWebsite) : Nat := w.cookies.countP (·.tracking)

/-- The number of tracking beacons. -/
def trackingBeacons (w : ClassifiedWebsite) : Nat := w.beacons.countP (·.tracking)

/-- One of the cookies is tracking. -/
def hasTrackingCookies (w : ClassifiedWebsite) : Bool := w.cookies.any (·.tracking)

/-- One of the cookies or beacons is tracking. -/
def hasTracking (w : ClassifiedWebsite) : Bool := w.hasTrackingCookies || w.beacons.any (·.tracking)

end ClassifiedWebsite

/-- Classify everything found on a website. -/
def Classifier.classify (c : Classifier) (site : Evidence) : ClassifiedWebsite where
  website := site.website
  cookies := site.cookies.map fun cookie => ⟨cookie, c.isTrackingCookie site cookie⟩
  beacons := site.beacons.map fun beacon => ⟨beacon, c.isTrackingBeacon site beacon⟩
  cookieHosts := site.cookieHosts
  beaconHosts := site.beaconHosts

end TrackerAudit
