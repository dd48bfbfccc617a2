import TrackerAudit.Compliance.Report
import TrackerAudit.Decimal.Fixed
import TrackerAudit.Summary.Corpus

/-!
# What commands print

The lines that report on a compiled list, a verdict, a summary and a compliance report.
-/

namespace TrackerAudit

open Text

/-- Texts one after another. -/
def line (parts : List Text) : Text := parts.flatten

/-- A text that fills at least `width` characters, with blanks in front. -/
def padStart (width : Nat) (s : Text) : Text := List.replicate (width - s.length) ' ' ++ s

/-- The report on a filter list read from a file. -/
def CompiledList.listing (c : CompiledList) (path : Path) (showErrors : Bool) : List Text :=
  let r := c.reduction
  [line [c.rules.source.name, " (".toList, path, ")".toList],
    line ["  Lines:      ".toList, ofNat c.lines],
    line ["  Rules:      ".toList, ofNat r.before, " -> ".toList, ofNat r.after, " (dedupe removed ".toList,
      ofNat r.repeated, ", badfilter removed ".toList, ofNat r.named, ")".toList],
    line ["  Exceptions: ".toList, ofNat c.rules.exceptions],
    line ["  Skipped:    ".toList, ofNat c.errors.length]] ++
  if showErrors then c.errors.map fun e => line ["    ".toList, e.message] else []

/-- The report on a verdict. -/
def Decision.listing (d : Decision) (url : Text) : List Text :=
  line [url, ": ".toList, if d.blocked then "tracking".toList else "not tracking".toList] ::
    (d.rule.map fun r => line ["  Rule: ".toList, r.shown]).toList

namespace CorpusSummary

/-- A number of websites with their share. -/
def shareLine (u : CookieUsage) (label : String) (count : Nat) : Text :=
  line [label.toList, ofNat count, " (".toList, Decimal.fixed 1 ((u.percent? count).getD 0), "%)".toList]

/-- A number that may not be defined. -/
def statistic (x : Option Float) : Text := (x.map (Decimal.fixed 3)).getD "n/a".toList

/-- The report on a distribution. -/
def distribution (label : String) (s : CountSummary) : List Text :=
  line [label.toList, ": total ".toList, ofNat s.total, ", mean ".toList, statistic s.mean, ", std ".toList,
    statistic s.deviation] ::
  (s.largest.map fun e => line ["  Most: ".toList, e.label, " (".toList, ofNat e.count, ")".toList]).toList

/-- An entry of a ranking. -/
def rankLine (e : RankedEntry) : Text := line ["  ".toList, padStart 4 (ofNat e.count), "  ".toList, e.label]

/-- The report on a summary. -/
def listing (s : CorpusSummary) : List Text :=
  let u := s.usage
  ["".toList,
    line ["Websites:                  ".toList, ofNat s.websites],
    shareLine u "  With cookies:            " u.withCookies,
    line ["  Without cookies:         ".toList, ofNat u.withoutCookies],
    shareLine u "  With third-party cookies: " u.withThirdPartyCookies,
    shareLine u "  With tracking cookies:   " u.withTrackingCookies,
    "".toList] ++
  distribution "Tracking cookies" s.trackingCookies ++ distribution "Web beacons" s.beacons ++
  distribution "Tracking resources" s.trackingResources ++
  ["".toList, "Top third-party cookie domains:".toList] ++ s.topCookieDomains.map rankLine ++
  ["Top third-party beacon domains:".toList] ++ s.topBeaconDomains.map rankLine ++
  s.undefined.map fun note => line ["Undefined: ".toList, note]

end CorpusSummary

namespace ComplianceReport

/-- A set with its name. -/
def setLine (label : String) (s : TextSet) : Text :=
  line [label.toList, " := \x7b".toList, join ", ".toList s.toList, "\x7d".toList]

/-- The report as lines. -/
def listing (r : ComplianceReport) : List Text :=
  ["".toList,
    setLine "A " r.sets.a, setLine "B " r.sets.b, setLine "Ao" r.sets.ao, setLine "Bo" r.sets.bo,
    "".toList,
    line ["|A| = ".toList, ofNat r.sizes.a, ", |B| = ".toList, ofNat r.sizes.b, ", |Ao| = ".toList,
      ofNat r.sizes.ao, ", |Bo| = ".toList, ofNat r.sizes.bo],
    line ["GdC = ".toList, Decimal.fixed 4 r.score]] ++
  if r.diagnostics.isEmpty then []
  else [line ["Excluded ".toList, ofNat r.diagnostics.length, " website(s) without practical results".toList]]

end ComplianceReport

end TrackerAudit
