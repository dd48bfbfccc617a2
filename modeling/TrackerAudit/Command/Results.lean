import TrackerAudit.Command.Steps
import TrackerAudit.Compliance.Practice

/-!
# Result files

What a classification leaves behind: for each kind of result a JSON file in the output directory, by website. The files
with classified cookies and beacons are read back to compute the score.
-/

namespace TrackerAudit

/-- The files of the output directory. -/
inductive ResultFile
  | cookies
  | cookieHosts
  | beacons
  | beaconHosts
  | summary
  | compliance
  deriving DecidableEq

namespace ResultFile

/-- The name of a file. -/
def name : ResultFile → Text
  | cookies => "cookie-results.json".toList
  | cookieHosts => "domain-cookie-results.json".toList
  | beacons => "beacons-results.json".toList
  | beaconHosts => "domain-beacons-results.json".toList
  | summary => "summary.json".toList
  | compliance => "compliance.json".toList

/-- The path of a file in the output directory. -/
def path (output : Path) (f : ResultFile) : Path := Path.join output f.name

end ResultFile

/-- The results of a classification, by website. -/
structure ResultFiles where
  cookies : Keyed (List ClassifiedCookie)
  cookieHosts : Keyed PartyHosts
  beacons : Keyed (List ClassifiedBeacon)
  beaconHosts : Keyed PartyHosts

namespace ResultFiles

/-- The results for classified websites. -/
def ofWebsites (websites : List ClassifiedWebsite) : ResultFiles where
  cookies := Keyed.ofList (websites.map fun w => (w.website, w.cookies))
  cookieHosts := Keyed.ofList (websites.map fun w => (w.website, w.cookieHosts))
  beacons := Keyed.ofList (websites.map fun w => (w.website, w.beacons))
  beaconHosts := Keyed.ofList (websites.map fun w => (w.website, w.beaconHosts))

/-- An object with a member for each website. -/
def byWebsite {α : Type} (f : α → Json) (entries : Keyed α) : Json :=
  Json.object (entries.entries.map fun e => (some e.1, f e.2))

/-- The classified cookies as a JSON value. -/
def cookiesJson (r : ResultFiles) : Json := byWebsite (fun cs => Json.array (cs.map ClassifiedCookie.toJson)) r.cookies

/-- The hosts of cookies as a JSON value. -/
def cookieHostsJson (r : ResultFiles) : Json := byWebsite PartyHosts.toJson r.cookieHosts

/-- The classified beacons as a JSON value. -/
def beaconsJson (r : ResultFiles) : Json := byWebsite (fun bs => Json.array (bs.map ClassifiedBeacon.toJson)) r.beacons

/-- The hosts of beacons as a JSON value. -/
def beaconHostsJson (r : ResultFiles) : Json := byWebsite PartyHosts.toJson r.beaconHosts

/-- The results that a score is computed from. -/
def practical (r : ResultFiles) : PracticalResults where
  cookies := r.cookies
  beacons := r.beacons

variable {m : Type → Type} [Monad m] [Files m]

/-- Write the results to the output directory. -/
def write (output : Path) (r : ResultFiles) : Steps m Unit := do
  Steps.writeJson (ResultFile.cookies.path output) r.cookiesJson
  Steps.writeJson (ResultFile.cookieHosts.path output) r.cookieHostsJson
  Steps.writeJson (ResultFile.beacons.path output) r.beaconsJson
  Steps.writeJson (ResultFile.beaconHosts.path output) r.beaconHostsJson

/-- Read the results that a score is computed from. -/
def readPractical (output : Path) : Steps m PracticalResults := do
  let cookies ← Steps.readJson (ResultFile.cookies.path output) PracticalResults.decodeCookies
  let beacons ← Steps.readJson (ResultFile.beacons.path output) PracticalResults.decodeBeacons
  return { cookies, beacons }

end ResultFiles

end TrackerAudit
