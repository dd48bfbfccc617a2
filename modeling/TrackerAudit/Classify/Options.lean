import TrackerAudit.Json.Decode

/-!
# Options of the classification

What the classification assumes where the evidence leaves a choice. Both options have a default, and a JSON form in
which the default need not be written.
-/

namespace TrackerAudit

/-- Where the context of a request is taken from. -/
inductive ContextMode
  /-- the evidence; what it is silent about stays unknown -/
  | derived
  /-- every request is taken for a third-party script -/
  | assumeThirdPartyScript
  deriving DecidableEq

namespace ContextMode

def name : ContextMode → Text
  | derived => "derived".toList
  | assumeThirdPartyScript => "assume-third-party-script".toList

def all : List ContextMode := [derived, assumeThirdPartyScript]

def decode : Decoder ContextMode := .name fun s => all.find? (·.name == s)

end ContextMode

/-- The blocks that an exception overrides. -/
inductive ExceptionScope
  /-- those of its own list -/
  | perList
  /-- those of all lists -/
  | global
  deriving DecidableEq

namespace ExceptionScope

def name : ExceptionScope → Text
  | perList => "per-list".toList
  | global => "global".toList

def all : List ExceptionScope := [perList, global]

def decode : Decoder ExceptionScope := .name fun s => all.find? (·.name == s)

end ExceptionScope

/-- The options of a classification. -/
structure ClassifierOptions where
  context : ContextMode := .derived
  exceptionScope : ExceptionScope := .perList
  deriving DecidableEq

namespace ClassifierOptions

def toJson (o : ClassifierOptions) : Json :=
  Json.record [("context", Json.str o.context.name), ("exception_scope", Json.str o.exceptionScope.name)]

def decode : Decoder ClassifierOptions := fun j => do
  let r ← j.row? ["context", "exception_scope"]
  return {
    context := ← r.defaulted "context" .derived ContextMode.decode
    exceptionScope := ← r.defaulted "exception_scope" .perList ExceptionScope.decode }

end ClassifierOptions

end TrackerAudit
