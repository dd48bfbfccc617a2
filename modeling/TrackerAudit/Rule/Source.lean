import TrackerAudit.Json.Decode
import TrackerAudit.Rule.Basic

/-!
# Filter lists in JSON

In JSON a filter list is named by its words, with hyphens between them.
-/

namespace TrackerAudit.SourceList

/-- The name of a list in JSON. -/
def jsonName : SourceList → Text
  | easyList => "easy-list".toList
  | easyPrivacy => "easy-privacy".toList
  | fanboyAnnoyance => "fanboy-annoyance".toList

def toJson (s : SourceList) : Json := Json.str s.jsonName

def decode : Decoder SourceList := .name fun s => all.find? (·.jsonName == s)

end TrackerAudit.SourceList
