import TrackerAudit.Command.Arguments
import TrackerAudit.Command.Settings
import TrackerAudit.Matching.Request

/-!
# Commands

What the program can be asked to do: compile the filter lists, check one request, classify the evidence, compute the
score from written results, or the last two in one run.
-/

namespace TrackerAudit

/-- What the command line says about the settings. -/
structure Overrides where
  /-- the file of the settings -/
  config : Option Path := none
  easyList : Option Path := none
  easyPrivacy : Option Path := none
  fanboyAnnoyance : Option Path := none
  evidence : Option Path := none
  legal : Option Path := none
  output : Option Path := none
  top : Option Nat := none
  assumeThirdPartyScript : Bool := false
  globalExceptions : Bool := false
  workers : Option Nat := none
  deriving DecidableEq

namespace Overrides

/-- The flags for settings. -/
def flags : List Flag :=
  [.config, .easyList, .easyPrivacy, .fanboyAnnoyance, .evidence, .legal, .output, .top, .assumeThirdPartyScript,
    .globalExceptions, .workers]

/-- What the given flags say about the settings. -/
def ofFlags (s : FlagSet) : Overrides where
  config := s.value? .config
  easyList := s.value? .easyList
  easyPrivacy := s.value? .easyPrivacy
  fanboyAnnoyance := s.value? .fanboyAnnoyance
  evidence := s.value? .evidence
  legal := s.value? .legal
  output := s.value? .output
  top := s.number? .top
  assumeThirdPartyScript := s.has .assumeThirdPartyScript
  globalExceptions := s.has .globalExceptions
  workers := s.number? .workers

/-- Read what the command line says about the settings. -/
def read? (arguments : List Text) : Option Overrides := (FlagSet.read? flags arguments).map ofFlags

/-- The settings with what the command line says about them. -/
def apply (o : Overrides) (s : Settings) : Settings where
  lists := {
    easyList := o.easyList.getD s.lists.easyList
    easyPrivacy := o.easyPrivacy.getD s.lists.easyPrivacy
    fanboyAnnoyance := o.fanboyAnnoyance.getD s.lists.fanboyAnnoyance }
  evidence := o.evidence.getD s.evidence
  legal := o.legal.getD s.legal
  output := o.output.getD s.output
  top := o.top.getD s.top
  classifier := {
    context := if o.assumeThirdPartyScript then .assumeThirdPartyScript else s.classifier.context
    exceptionScope := if o.globalExceptions then .global else s.classifier.exceptionScope }
  workers := o.workers.or s.workers

end Overrides

/-- What the program is asked to do. -/
inductive Action
  /-- compile the filter lists, and maybe show the lines at fault -/
  | compile (showErrors : Bool)
  /-- check one request -/
  | check (request : Request)
  /-- classify the evidence -/
  | classify
  /-- compute the score from written results -/
  | score
  /-- classify the evidence and compute the score -/
  | run
  deriving DecidableEq

/-- An action and what the command line says about the settings. -/
structure Command where
  action : Action
  overrides : Overrides
  deriving DecidableEq

namespace Command

/-- The flags for a request. -/
def requestFlags : List Flag := [.url, .page, .thirdParty, .firstParty, .script]

/-- The request that the given flags describe. It must have a URL, and cannot be of both parties. -/
def requestOfFlags? (s : FlagSet) : Option Request := do
  let url ← s.value? .url
  if s.has .thirdParty && s.has .firstParty then none
  return {
    url
    page := s.value? .page
    thirdParty := if s.has .thirdParty then some true else if s.has .firstParty then some false else none
    types := if s.has .script then some (typeOfScript true) else none }

/-- Read the flags of a command, with some flags of its own. -/
def withFlags (own : List Flag) (action : FlagSet → Option Action) (arguments : List Text) : Option Command := do
  let s ← FlagSet.read? (.verbose :: own ++ Overrides.flags) arguments
  return { action := ← action s, overrides := Overrides.ofFlags s }

/-- Read the command with a name. -/
def named? (name : Text) (arguments : List Text) : Option Command :=
  if name = "compile".toList then
    withFlags [.showErrors] (fun s => some (.compile (s.has .showErrors))) arguments
  else if name = "check".toList then
    withFlags requestFlags (fun s => (requestOfFlags? s).map Action.check) arguments
  else if name = "classify".toList then withFlags [] (fun _ => some .classify) arguments
  else if name = "gdc".toList then withFlags [] (fun _ => some .score) arguments
  else if name = "run".toList then withFlags [] (fun _ => some .run) arguments
  else none

/-- Read a command line. Before the name of the command there can only be flags for more log output. -/
def read? : List Text → Option Command
  | [] => none
  | arg :: rest =>
    if Argument.looksLikeFlag arg then (Argument.read? [.verbose] arg).bind fun _ => read? rest
    else named? arg rest

end Command

end TrackerAudit
