import TrackerAudit.Classify.Website
import TrackerAudit.Summary.Ranking
import TrackerAudit.Summary.Sample

/-!
# Counts for websites

What is counted on each website, how one such count is distributed over all websites, and how many websites use cookies.
-/

namespace TrackerAudit

/-- The counts for one website. -/
structure WebsiteCounts where
  website : Text
  cookies : Nat
  trackingCookies : Nat
  beacons : Nat
  trackingBeacons : Nat
  firstPartyCookieHosts : Nat
  thirdPartyCookieHosts : Nat
  firstPartyBeaconHosts : Nat
  thirdPartyBeaconHosts : Nat
  hasTracking : Bool
  deriving DecidableEq

namespace WebsiteCounts

/-- The counts for a classified website. -/
def ofWebsite (w : ClassifiedWebsite) : WebsiteCounts where
  website := w.website
  cookies := w.cookies.length
  trackingCookies := w.trackingCookies
  beacons := w.beacons.length
  trackingBeacons := w.trackingBeacons
  firstPartyCookieHosts := w.cookieHosts.firstParty.length
  thirdPartyCookieHosts := w.cookieHosts.thirdParty.length
  firstPartyBeaconHosts := w.beaconHosts.firstParty.length
  thirdPartyBeaconHosts := w.beaconHosts.thirdParty.length
  hasTracking := w.hasTracking

/-- The number of tracking cookies and beacons. -/
def trackingResources (c : WebsiteCounts) : Nat := c.trackingCookies + c.trackingBeacons

/-- The website has cookies, or hosts of cookies. -/
def usesCookies (c : WebsiteCounts) : Bool :=
  c.cookies > 0 || c.firstPartyCookieHosts > 0 || c.thirdPartyCookieHosts > 0

def toJson (c : WebsiteCounts) : Json :=
  Json.record [("website", Json.str c.website), ("cookies", Json.nat c.cookies),
    ("trackingCookies", Json.nat c.trackingCookies), ("beacons", Json.nat c.beacons),
    ("trackingBeacons", Json.nat c.trackingBeacons), ("firstPartyCookieHosts", Json.nat c.firstPartyCookieHosts),
    ("thirdPartyCookieHosts", Json.nat c.thirdPartyCookieHosts),
    ("firstPartyBeaconHosts", Json.nat c.firstPartyBeaconHosts),
    ("thirdPartyBeaconHosts", Json.nat c.thirdPartyBeaconHosts), ("hasTracking", Json.bool c.hasTracking)]

def decode : Decoder WebsiteCounts := fun j => do
  let r ← j.row? ["website", "cookies", "trackingCookies", "beacons", "trackingBeacons", "firstPartyCookieHosts",
    "thirdPartyCookieHosts", "firstPartyBeaconHosts", "thirdPartyBeaconHosts", "hasTracking"]
  return {
    website := ← r.required "website" .text
    cookies := ← r.required "cookies" .nat
    trackingCookies := ← r.required "trackingCookies" .nat
    beacons := ← r.required "beacons" .nat
    trackingBeacons := ← r.required "trackingBeacons" .nat
    firstPartyCookieHosts := ← r.required "firstPartyCookieHosts" .nat
    thirdPartyCookieHosts := ← r.required "thirdPartyCookieHosts" .nat
    firstPartyBeaconHosts := ← r.required "firstPartyBeaconHosts" .nat
    thirdPartyBeaconHosts := ← r.required "thirdPartyBeaconHosts" .nat
    hasTracking := ← r.required "hasTracking" .bool }

end WebsiteCounts

/-- The sum of counts, which are words of 64 bits. -/
def total (counts : List Nat) : Nat := counts.foldl (· + ·) 0 % Nat.pow 2 64

/-- The distribution of a count over the websites. -/
structure CountSummary where
  total : Nat
  /-- the mean, if it is defined -/
  mean : Option Float
  /-- the standard deviation, if it is defined -/
  deviation : Option Float
  /-- the website with the largest count, if that is not zero -/
  largest : Option RankedEntry
  top : List RankedEntry

namespace CountSummary

/-- The distribution of counts, with a ranking of at most `n` entries. -/
def ofEntries (n : Nat) (entries : List RankedEntry) : CountSummary :=
  let values := entries.map fun e => Float.ofNat e.count
  let top := TrackerAudit.top n entries
  { total := TrackerAudit.total (entries.map (·.count))
    mean := (Sample.mean values).toOption
    deviation := (Sample.deviation values).toOption
    largest := top.head?.filter (·.count > 0)
    top }

/-- Why the mean or the standard deviation of counts is not defined. -/
def undefined (entries : List RankedEntry) : List Undefined :=
  match entries.length with
  | 0 => [.meanOfNothing]
  | 1 => [.deviationOf 1]
  | _ => []

def toJson (s : CountSummary) : Json :=
  Json.record [("total", Json.nat s.total), ("mean", Json.ofOption Json.float s.mean),
    ("stdDev", Json.ofOption Json.float s.deviation), ("maxWebsite", Json.ofOption RankedEntry.toJson s.largest),
    ("topWebsites", Json.array (s.top.map RankedEntry.toJson))]

def decode : Decoder CountSummary := fun j => do
  let r ← j.row? ["total", "mean", "stdDev", "maxWebsite", "topWebsites"]
  return {
    total := ← r.required "total" .nat
    mean := ← r.optional "mean" .float
    deviation := ← r.optional "stdDev" .float
    largest := ← r.optional "maxWebsite" RankedEntry.decode
    top := ← r.required "topWebsites" (.list RankedEntry.decode) }

end CountSummary

/-- How many websites use cookies, and of which kind. -/
structure CookieUsage where
  websites : Nat
  withTrackingCookies : Nat
  withThirdPartyCookies : Nat
  withCookies : Nat
  withoutCookies : Nat
  deriving DecidableEq

namespace CookieUsage

/-- The usage on websites with the given counts. -/
def ofCounts (counts : List WebsiteCounts) : CookieUsage where
  websites := counts.length
  withTrackingCookies := counts.countP (·.trackingCookies > 0)
  withThirdPartyCookies := counts.countP (·.thirdPartyCookieHosts > 0)
  withCookies := counts.countP (·.usesCookies)
  withoutCookies := counts.countP (!·.usesCookies)

/-- A number of websites in percent of all, if there are any. -/
def percent? (u : CookieUsage) (count : Nat) : Option Float :=
  if u.websites = 0 then none else some (Float.ofNat count * 100 / Float.ofNat u.websites)

def toJson (u : CookieUsage) : Json :=
  Json.record [("websites", Json.nat u.websites), ("withTrackingCookies", Json.nat u.withTrackingCookies),
    ("withThirdPartyCookies", Json.nat u.withThirdPartyCookies), ("withCookies", Json.nat u.withCookies),
    ("withoutCookies", Json.nat u.withoutCookies)]

def decode : Decoder CookieUsage := fun j => do
  let r ← j.row? ["websites", "withTrackingCookies", "withThirdPartyCookies", "withCookies", "withoutCookies"]
  return {
    websites := ← r.required "websites" .nat
    withTrackingCookies := ← r.required "withTrackingCookies" .nat
    withThirdPartyCookies := ← r.required "withThirdPartyCookies" .nat
    withCookies := ← r.required "withCookies" .nat
    withoutCookies := ← r.required "withoutCookies" .nat }

end CookieUsage

end TrackerAudit
