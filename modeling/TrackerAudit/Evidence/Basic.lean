import TrackerAudit.Host.Authority
import TrackerAudit.Json.Decode

/-!
# Evidence of a website

What an inspection of a website has found: its cookies, with the script files that set them, its web beacons, and the
hosts of both, sorted by party. Each kind of record has a JSON form, and what is written in it is read back by its
decoder.
-/

namespace TrackerAudit

open Text

/-- The hosts seen on a website for one kind of resource. -/
structure PartyHosts where
  firstParty : List Text := []
  thirdParty : List Text := []
  deriving DecidableEq

namespace PartyHosts

/-- No host is listed. -/
def isEmpty (h : PartyHosts) : Bool := h.firstParty.isEmpty && h.thirdParty.isEmpty

/-- A host without the dots in front. -/
def bare (host : Text) : Text := host.dropWhile (· == '.')

/-- Whether a list has the host, without dots in front and in any case. -/
def lists (hosts : List Text) (host : Text) : Bool := hosts.any fun h => sameNoCase (bare h) (bare host)

/-- Whether a host is a third party, if it is listed. A host in both lists is one. -/
def isThirdParty? (h : PartyHosts) (host : Text) : Option Bool :=
  if lists h.thirdParty host then some true else if lists h.firstParty host then some false else none

/-- No host is listed exactly if of no host the party is known. -/
theorem isEmpty_iff {h : PartyHosts} : h.isEmpty = true ↔ ∀ host, h.isThirdParty? host = none := by
  obtain ⟨firstParty, thirdParty⟩ := h
  constructor
  · intro hempty host
    simp only [isEmpty, Bool.and_eq_true, List.isEmpty_iff] at hempty
    obtain ⟨rfl, rfl⟩ := hempty
    rfl
  · intro hnone
    cases thirdParty with
    | cons host _ => simpa [isThirdParty?, lists, sameNoCase] using hnone host
    | nil =>
      cases firstParty with
      | cons host _ => simpa [isThirdParty?, lists, sameNoCase] using hnone host
      | nil => rfl

def toJson (h : PartyHosts) : Json :=
  Json.record [("firstParty", Json.strings h.firstParty), ("thirdParty", Json.strings h.thirdParty)]

def decode : Decoder PartyHosts := fun j => do
  let r ← j.row? ["firstParty", "thirdParty"]
  return {
    firstParty := ← r.defaulted "firstParty" [] (.list .text)
    thirdParty := ← r.defaulted "thirdParty" [] (.list .text) }

end PartyHosts

/-- A cookie of a website. -/
structure Cookie where
  name : Text
  domain : Text
  /-- the time at which it expires; -1 for the end of the session -/
  expires : Float
  /-- the days until it expires, unless it lasts for the session -/
  expiresDays : Option Float
  /-- the script files that set it, each once -/
  files : List Text

namespace Cookie

def fields : List String := ["name", "domain", "expires", "expiresDays", "files"]

def members (c : Cookie) : List (String × Json) :=
  [("name", Json.str c.name), ("domain", Json.str c.domain), ("expires", Json.float c.expires)] ++
    (c.expiresDays.map fun d => ("expiresDays", Json.float d)).toList ++ [("files", Json.strings c.files)]

def toJson (c : Cookie) : Json := Json.record c.members

def ofRow (r : Json.Row) : Option Cookie := do
  return {
    name := ← r.required "name" .text
    domain := ← r.required "domain" .text
    expires := ← r.required "expires" .float
    expiresDays := ← r.defaulted "expiresDays" none (.optional .float)
    files := ← r.defaulted "files" [] (.list .text) }

def decode : Decoder Cookie := fun j => (j.row? fields).bind ofRow

end Cookie

/-- A web beacon of a website. -/
structure Beacon where
  /-- the list that the inspection found it by -/
  listName : Text
  url : Text
  deriving DecidableEq

namespace Beacon

def fields : List String := ["listName", "url"]

def members (b : Beacon) : List (String × Json) := [("listName", Json.str b.listName), ("url", Json.str b.url)]

def toJson (b : Beacon) : Json := Json.record b.members

def ofRow (r : Json.Row) : Option Beacon := do
  return { listName := ← r.required "listName" .text, url := ← r.required "url" .text }

def decode : Decoder Beacon := fun j => (j.row? fields).bind ofRow

end Beacon

/-- Everything found on one website. -/
structure Evidence where
  website : Text
  cookies : List Cookie := []
  beacons : List Beacon := []
  cookieHosts : PartyHosts := {}
  beaconHosts : PartyHosts := {}

/-- The domain of the website's pages, if its name is one. -/
def Evidence.page? (e : Evidence) : Option Text :=
  let domain := dropEnd (· == '/') (trim e.website)
  if Host.looksLikeDomain domain then some domain else none

end TrackerAudit
