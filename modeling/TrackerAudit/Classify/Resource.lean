import TrackerAudit.Classify.Catalogue
import TrackerAudit.Evidence.Basic

/-!
# Tracking resources

A cookie is judged by its domain and by every file that set it, a beacon by its URL. A resource is tracking if one of
its requests is blocked.
-/

namespace TrackerAudit

open Text

/-- Whether the host of a request string is a third party to a page, if both are known. -/
def thirdPartyTo? (page : Option Text) (request : Text) : Option Bool := do
  let host ← Host.requestHost? request
  return Host.isThirdParty (← page) host

/-- A request whose context is derived or assumed. -/
def requestIn (mode : ContextMode) (site : Evidence) (url : Text) (thirdParty : Option Bool)
    (types : Option TypeMask) : Request :=
  match mode with
  | .derived => { url, page := site.page?, thirdParty, types }
  | .assumeThirdPartyScript => { url, page := site.page?, thirdParty := some true, types := some (typeOfScript true) }

namespace Cookie

/-- The domain without dots in front. -/
def host (c : Cookie) : Text := PartyHosts.bare (trim c.domain)

/-- The requests that a cookie is judged by: its domain, and each of its files, which are scripts. -/
def requests (c : Cookie) (site : Evidence) (mode : ContextMode) : List Request :=
  requestIn mode site c.host ((site.cookieHosts.isThirdParty? c.host).or (thirdPartyTo? site.page? c.host)) none ::
    c.files.map fun file =>
      requestIn mode site file (thirdPartyTo? site.page? file) (some (typeOfScript true))

end Cookie

/-- The requests that a beacon is judged by: its URL. -/
def Beacon.requests (b : Beacon) (site : Evidence) (mode : ContextMode) : List Request :=
  let party := (Host.requestHost? b.url).bind fun host =>
    (site.beaconHosts.isThirdParty? host).or (thirdPartyTo? site.page? host)
  [requestIn mode site b.url party none]

/-- A catalogue together with the options of a classification. -/
structure Classifier where
  catalogue : Catalogue
  options : ClassifierOptions := {}

namespace Classifier

/-- The verdict on a request. -/
def judge (c : Classifier) (q : Request) : Decision := c.catalogue.judge c.options.exceptionScope q

/-- One of the requests is blocked. -/
def anyBlocked (c : Classifier) (requests : List Request) : Bool := requests.any fun q => (c.judge q).blocked

/-- A cookie of a website is tracking. -/
def isTrackingCookie (c : Classifier) (site : Evidence) (cookie : Cookie) : Bool :=
  c.anyBlocked (cookie.requests site c.options.context)

/-- A beacon of a website is tracking. -/
def isTrackingBeacon (c : Classifier) (site : Evidence) (beacon : Beacon) : Bool :=
  c.anyBlocked (beacon.requests site c.options.context)

end Classifier

end TrackerAudit
