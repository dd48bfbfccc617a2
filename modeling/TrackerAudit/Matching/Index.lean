import TrackerAudit.Host.Keys
import TrackerAudit.Rule.Basic
import Std.Data.HashMap

/-!
# Index of a rule list by host

Most rules of a filter list have a pattern `||host^`. They are filed under their host, separately for blocking rules
and exceptions, so that a request is only compared with the rules filed under one of its host keys. All other rules
are compared with every request.

Rules are named by their place in the list, from 0 on. Places are natural numbers here; a number of 32 bits holds them as
long as the list has fewer than `2 ^ 32` rules, and what is said of an index is said of such lists.
-/

namespace TrackerAudit

open Text

/-- The host of a pattern `||host^` that ignores case. -/
def Rule.indexedHost? (r : Rule) : Option Text :=
  if r.flags.rawRegex || r.flags.matchCase then none
  else
    match (cutStart? "||".toList r.text).bind (cutEnd? ['^']) with
    | some host =>
      let plain := !host.isEmpty && host.head? != some '.' && host.getLast? != some '.' &&
        host.all fun c => isAlnum c || c == '.' || c == '-'
      if plain then some (lower host) else none
    | none => none

/-- The rules of one kind: those filed by host, and the others. All lists of places are ascending. -/
structure HostIndex where
  byHost : Std.HashMap Text (List Nat) := ∅
  others : List Nat := []
  /-- the number of rules filed by host -/
  filed : Nat := 0

/-- File one more rule, which stands before all rules filed so far. -/
def HostIndex.add (x : HostIndex) (host : Option Text) (place : Nat) : HostIndex :=
  match host with
  | some host => { x with byHost := x.byHost.insert host (place :: x.byHost.getD host []), filed := x.filed + 1 }
  | none => { x with others := place :: x.others }

/-- The places of the rules filed under a host. -/
def HostIndex.candidates (x : HostIndex) (host : Text) : List Nat := x.byHost.getD host []

/-- The index of a rule list. -/
structure RuleIndex where
  blocks : HostIndex := {}
  exceptions : HostIndex := {}

namespace RuleIndex

/-- File one more rule, which stands before all rules filed so far. -/
def add (x : RuleIndex) (r : Rule) (place : Nat) : RuleIndex :=
  if r.isException then { x with exceptions := x.exceptions.add r.indexedHost? place }
  else { x with blocks := x.blocks.add r.indexedHost? place }

/-- The index of a list of rules. -/
def build (rules : List Rule) : RuleIndex := rules.zipIdx.foldr (fun rp x => x.add rp.1 rp.2) {}

/-- The rules of one kind. -/
def ofKind (x : RuleIndex) (isException : Bool) : HostIndex := if isException then x.exceptions else x.blocks

/-- The number of rules filed by host. -/
def filed (x : RuleIndex) : Nat := x.blocks.filed + x.exceptions.filed

end RuleIndex

end TrackerAudit
