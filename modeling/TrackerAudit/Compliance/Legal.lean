import TrackerAudit.Json.Decode

/-!
# Legal analysis

For each website the legal analysis records what its consent mechanism is like. The record puts the website into one of
three classes: it has no such mechanism, it has one that does not force the user's hand, or neither.
-/

namespace TrackerAudit

/-- The consent mechanism of a website. -/
inductive ConsentType
  /-- there is none -/
  | absent
  | noOption
  | confirm
  /-- any other kind; its name is none of the three above -/
  | other (name : Text)
  deriving DecidableEq

namespace ConsentType

/-- The name of a consent mechanism. -/
def name : ConsentType → Text
  | absent => "none".toList
  | noOption => "no_option".toList
  | confirm => "confirm".toList
  | other name => name

/-- The consent mechanism with a name. -/
def ofName (name : Text) : ConsentType :=
  if name = "none".toList then absent
  else if name = "no_option".toList then noOption
  else if name = "confirm".toList then confirm
  else other name

theorem name_ofName (n : Text) : (ofName n).name = n := by
  unfold ofName
  split
  · next h => exact h.symm
  · split
    · next h => exact h.symm
    · split
      · next h => exact h.symm
      · rfl

def decode : Decoder ConsentType := fun j => (Decoder.text j).map ofName

end ConsentType

/-- The class of a website in the legal analysis. -/
inductive LegalClass
  /-- no consent mechanism -/
  | a
  /-- a consent mechanism that does not force acceptance -/
  | b
  | neither
  deriving DecidableEq

namespace LegalClass

/-- The name of a class. -/
def name : LegalClass → Text
  | a => "A".toList
  | b => "B".toList
  | neither => "Neither".toList

/-- All classes. -/
def all : List LegalClass := [a, b, neither]

def decode : Decoder LegalClass := .name fun s => all.find? (·.name == s)

end LegalClass

/-- The legal analysis of one website. -/
structure LegalRecord where
  consent : ConsentType
  /-- the website cannot be used without accepting -/
  hasCookieWall : Bool
  /-- acceptance is chosen beforehand -/
  activeByDefault : Bool
  deriving DecidableEq

namespace LegalRecord

/-- The class of a website. -/
def legalClass (r : LegalRecord) : LegalClass :=
  match r.consent with
  | .absent => .a
  | .noOption => .neither
  | .confirm => .neither
  | .other _ => if r.hasCookieWall || r.activeByDefault then .neither else .b

def toJson (r : LegalRecord) : Json :=
  Json.record [("consent_type", Json.str r.consent.name), ("has_cookies_wall", Json.bool r.hasCookieWall),
    ("default_active", Json.bool r.activeByDefault)]

def decode : Decoder LegalRecord := fun j => do
  let r ← j.row? ["consent_type", "has_cookies_wall", "default_active"]
  return {
    consent := ← r.required "consent_type" ConsentType.decode
    hasCookieWall := ← r.required "has_cookies_wall" .bool
    activeByDefault := ← r.required "default_active" .bool }

end LegalRecord

/-- The legal analysis of all websites, by name. -/
abbrev LegalAnalysis := Keyed LegalRecord

/-- The legal analysis in a JSON text. -/
def LegalAnalysis.read? (text : Text) : Option LegalAnalysis :=
  (Json.read? text).bind (Decoder.keyed LegalRecord.decode)

end TrackerAudit
