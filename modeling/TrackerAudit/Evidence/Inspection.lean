import TrackerAudit.Evidence.Basic
import TrackerAudit.Evidence.Fault

/-!
# Inspection records

The record of an inspection is a JSON text with sections for cookies, beacons and hosts. A section is absent when the
inspection did not finish; the evidence then names the first one that is missing.
-/

namespace TrackerAudit

open Text

/-- A cookie as the inspection recorded it. -/
structure RecordedCookie where
  name : Text
  domain : Text
  expires : Float
  expiresDays : Option Float
  /-- the files named in the log of its creation, in order -/
  stack : List (Option Text)

namespace RecordedCookie

/-- Read the name of the file of a stack frame. -/
def decodeFrame : Decoder (Option Text) := fun j => do
  let r ← j.row? ["fileName"]
  r.defaulted "fileName" none (.optional .text)

/-- Read the log of a cookie. -/
def decodeLog : Decoder (List (Option Text)) := fun j => do
  let r ← j.row? ["stack"]
  r.defaulted "stack" [] (.list decodeFrame)

/-- Read a recorded cookie. A cookie without a time of expiry lasts for the session. -/
def decode : Decoder RecordedCookie := fun j => do
  let r ← j.row? ["name", "domain", "expires", "expiresDays", "log"]
  let log ← r.defaulted "log" none (.optional decodeLog)
  return {
    name := ← r.required "name" .text
    domain := ← r.required "domain" .text
    expires := ← r.defaulted "expires" (-1) .float
    expiresDays := ← r.defaulted "expiresDays" none (.optional .float)
    stack := log.getD [] }

/-- The cookie of a record: each file once, and no days for the session. -/
def toCookie (c : RecordedCookie) : Cookie where
  name := c.name
  domain := c.domain
  expires := c.expires
  expiresDays := if c.expires == -1 then none else c.expiresDays
  files := (c.stack.filterMap id).eraseDups

end RecordedCookie

/-- The hosts of a record. -/
structure RecordedHosts where
  cookies : Option PartyHosts
  beacons : Option PartyHosts

def RecordedHosts.decode : Decoder RecordedHosts := fun j => do
  let r ← j.row? ["cookies", "beacons"]
  return {
    cookies := ← r.optional "cookies" PartyHosts.decode
    beacons := ← r.optional "beacons" PartyHosts.decode }

/-- The record of an inspection. -/
structure Inspection where
  cookies : Option (List RecordedCookie)
  beacons : Option (List Beacon)
  hosts : Option RecordedHosts

def Inspection.decode : Decoder Inspection := fun j => do
  let r ← j.row? ["cookies", "beacons", "hosts"]
  return {
    cookies := ← r.optional "cookies" (.list RecordedCookie.decode)
    beacons := ← r.optional "beacons" (.list Beacon.decode)
    hosts := ← r.optional "hosts" RecordedHosts.decode }

/-- The record of an inspection in a JSON text. -/
def Inspection.read? (text : Text) : Option Inspection := (Json.read? text).bind Inspection.decode

/-- A section that must be there. -/
def present {α : Type} (website : Text) (part : MissingPart) : Option α → Except AnalysisFault α
  | some a => .ok a
  | none => .error (.missing website part)

/-- The evidence of a website from the record of its inspection. -/
def Evidence.ofInspection (website : Text) (i : Inspection) : Except AnalysisFault Evidence := do
  let cookies ← present website .cookies i.cookies
  let beacons ← present website .beacons i.beacons
  let hosts ← present website .hosts i.hosts
  let cookieHosts ← present website .cookieHosts hosts.cookies
  let beaconHosts ← present website .beaconHosts hosts.beacons
  return { website, cookies := cookies.map RecordedCookie.toCookie, beacons, cookieHosts, beaconHosts }

end TrackerAudit
