import TrackerAudit.Host.Suffix
import TrackerAudit.Rule.Basic

/-!
# Requests, and the rules that match them

A request is a string to be matched together with what is known about where it was seen. What is not known satisfies
every restriction of a rule.
-/

namespace TrackerAudit

/-- A request string with its context, as far as known. -/
structure Request where
  /-- a URL, a file name or a domain -/
  url : Text
  /-- the domain of the page -/
  page : Option Text := none
  thirdParty : Option Bool := none
  types : Option TypeMask := none
  deriving DecidableEq

/-- The party of a request. -/
def partyOf (thirdParty : Bool) : PartyMask := if thirdParty then Party.third.mask else Party.first.mask

/-- The type of a request that is, or is not, a script. -/
def typeOfScript (script : Bool) : TypeMask := if script then ResourceType.script.mask else ResourceType.other.mask

/-- A mask admits a value: the mask is empty, the value unknown, or they have a bit in common. -/
def admits {n : Nat} (mask : BitVec n) (value : Option (BitVec n)) : Bool :=
  mask == 0 || value.all fun v => mask &&& v != 0

/-- A page satisfies a constraint: it lies within one of the included domains, if there are any, and within none of
the excluded ones. -/
def DomainConstraint.allows (c : DomainConstraint) (page : Text) : Bool :=
  (c.included.isEmpty || c.included.any (Host.within page)) && !c.excluded.any (Host.within page)

namespace Rule

/-- The context of a request satisfies the restrictions of a rule. -/
def applies (r : Rule) (q : Request) : Bool :=
  admits r.types q.types && admits r.party (q.thirdParty.map partyOf) &&
    r.domains.all fun c => q.page.all c.allows

/-- The rule matches the request: the context satisfies its restrictions, and its pattern occurs in the string. -/
def isMatch (r : Rule) (q : Request) : Bool := r.applies q && r.pattern.isMatch q.url

end Rule

end TrackerAudit
