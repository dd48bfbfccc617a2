import TrackerAudit.Summary.Counts

/-!
# Summary of a corpus

The counts for all websites of a corpus, their distributions, and the domains seen most often. Where a mean or standard
deviation is not defined, only that number is left out, and a note says so.
-/

namespace TrackerAudit

open Text

/-- The summary of a corpus of websites. -/
structure CorpusSummary where
  websites : Nat
  usage : CookieUsage
  perWebsite : List WebsiteCounts
  trackingCookies : CountSummary
  beacons : CountSummary
  trackingResources : CountSummary
  topCookieDomains : List RankedEntry
  topBeaconDomains : List RankedEntry
  /-- the numbers that are not defined -/
  undefined : List Text

namespace CorpusSummary

/-- A count for each website. -/
def entriesOf (counts : List WebsiteCounts) (count : WebsiteCounts → Nat) : List RankedEntry :=
  counts.map fun c => ⟨c.website, count c⟩

/-- The notes on what is not defined for the given counts. -/
def notes (metric : String) (entries : List RankedEntry) : List Text :=
  (CountSummary.undefined entries).map fun u =>
    metric.toList ++ ": ".toList ++ (AnalysisFault.undefined u).message

/-- The summary of classified websites, with rankings of at most `n` entries. -/
def ofWebsites (n : Nat) (websites : List ClassifiedWebsite) : CorpusSummary :=
  let counts := websites.map WebsiteCounts.ofWebsite
  let trackingCookies := entriesOf counts (·.trackingCookies)
  let beacons := entriesOf counts (·.beacons)
  let trackingResources := entriesOf counts (·.trackingResources)
  { websites := counts.length
    usage := CookieUsage.ofCounts counts
    perWebsite := counts
    trackingCookies := CountSummary.ofEntries n trackingCookies
    beacons := CountSummary.ofEntries n beacons
    trackingResources := CountSummary.ofEntries n trackingResources
    topCookieDomains := top n (occurrences (websites.flatMap (·.cookieHosts.thirdParty)))
    topBeaconDomains := top n (occurrences (websites.flatMap (·.beaconHosts.thirdParty)))
    undefined := notes "tracking cookies" trackingCookies ++ notes "beacons" beacons ++
      notes "tracking resources" trackingResources }

def toJson (s : CorpusSummary) : Json :=
  Json.record ([("websites", Json.nat s.websites), ("usage", s.usage.toJson),
    ("perWebsite", Json.array (s.perWebsite.map WebsiteCounts.toJson)),
    ("trackingCookies", s.trackingCookies.toJson), ("beacons", s.beacons.toJson),
    ("trackingResources", s.trackingResources.toJson),
    ("topCookieDomains", Json.array (s.topCookieDomains.map RankedEntry.toJson)),
    ("topBeaconDomains", Json.array (s.topBeaconDomains.map RankedEntry.toJson))] ++
    if s.undefined.isEmpty then [] else [("degenerate", Json.strings s.undefined)])

def decode : Decoder CorpusSummary := fun j => do
  let r ← j.row? ["websites", "usage", "perWebsite", "trackingCookies", "beacons", "trackingResources",
    "topCookieDomains", "topBeaconDomains", "degenerate"]
  return {
    websites := ← r.required "websites" .nat
    usage := ← r.required "usage" CookieUsage.decode
    perWebsite := ← r.required "perWebsite" (.list WebsiteCounts.decode)
    trackingCookies := ← r.required "trackingCookies" CountSummary.decode
    beacons := ← r.required "beacons" CountSummary.decode
    trackingResources := ← r.required "trackingResources" CountSummary.decode
    topCookieDomains := ← r.required "topCookieDomains" (.list RankedEntry.decode)
    topBeaconDomains := ← r.required "topBeaconDomains" (.list RankedEntry.decode)
    undefined := ← r.defaulted "degenerate" [] (.list .text) }

end CorpusSummary

end TrackerAudit
