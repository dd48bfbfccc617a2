import TrackerAudit.Text.Basic

/-!
# Arguments of the command line

An argument is a flag with a long name after `--`, or a group of flags with short names after `-`. The value of a flag
stands in the same argument, with or without `=`, or is the next argument, unless that looks like a flag. The argument
`--` ends the flags. Other arguments are not allowed.
-/

namespace TrackerAudit

open Text

/-- A flag of the command line. -/
inductive Flag
  | verbose
  | config
  | easyList
  | easyPrivacy
  | fanboyAnnoyance
  | evidence
  | legal
  | output
  | top
  | assumeThirdPartyScript
  | globalExceptions
  | workers
  | showErrors
  | url
  | page
  | thirdParty
  | firstParty
  | script
  deriving DecidableEq

namespace Flag

/-- The long name of a flag. -/
def long : Flag → Text
  | verbose => "verbose".toList
  | config => "config".toList
  | easyList => "easylist".toList
  | easyPrivacy => "easyprivacy".toList
  | fanboyAnnoyance => "fanboy".toList
  | evidence => "evidence".toList
  | legal => "theoretical".toList
  | output => "output".toList
  | top => "top".toList
  | assumeThirdPartyScript => "assume-third-party-script".toList
  | globalExceptions => "global-exceptions".toList
  | workers => "workers".toList
  | showErrors => "show-errors".toList
  | url => "url".toList
  | page => "page".toList
  | thirdParty => "third-party".toList
  | firstParty => "first-party".toList
  | script => "script".toList

/-- The short name of a flag. -/
def short? : Flag → Option Char
  | verbose => some 'v'
  | config => some 'c'
  | output => some 'o'
  | url => some 'u'
  | page => some 'p'
  | _ => none

/-- What is given with a flag. -/
inductive Kind
  /-- nothing, and the flag may be repeated -/
  | count
  /-- nothing -/
  | switch
  | path
  | number
  | text
  deriving DecidableEq

/-- What is given with a flag. -/
def kind : Flag → Kind
  | verbose => .count
  | config => .path
  | easyList => .path
  | easyPrivacy => .path
  | fanboyAnnoyance => .path
  | evidence => .path
  | legal => .path
  | output => .path
  | top => .number
  | workers => .number
  | url => .text
  | page => .text
  | assumeThirdPartyScript => .switch
  | globalExceptions => .switch
  | showErrors => .switch
  | thirdParty => .switch
  | firstParty => .switch
  | script => .switch

end Flag

/-- A value is given with a flag of this kind. -/
def Flag.Kind.hasValue (k : Flag.Kind) : Bool := k != .count && k != .switch

/-- A number below `2 ^ 64` in decimal digits, with or without a plus sign. -/
def readCount? (s : Text) : Option Nat :=
  let digits := (cutStart? ['+'] s).getD s
  let n := digits.foldl (fun n c => 10 * n + (c.toNat - '0'.toNat)) 0
  if !digits.isEmpty && digits.all Char.isDigit && n < Nat.pow 2 64 then some n else none

/-- The value is one of its kind. -/
def Flag.Kind.admits (k : Flag.Kind) (value : Text) : Bool :=
  match k with
  | .path => !value.isEmpty
  | .number => (readCount? value).isSome
  | _ => true

/-- A flag with its value, which is empty for flags without one. -/
structure GivenFlag where
  flag : Flag
  value : Text := []
  deriving DecidableEq

/-- What one argument says: some flags, and maybe a flag whose value is the next argument. -/
structure Argument where
  given : List GivenFlag
  awaiting : Option Flag := none

namespace Argument

/-- The argument is neither a value nor a name. -/
def looksLikeFlag (arg : Text) : Bool := arg.head? == some '-' && arg.length > 1

/-- Read a flag by its long name, maybe with a value. -/
def ofLong? (allowed : List Flag) (body : Text) : Option Argument :=
  match cutFirst? '=' body with
  | some (name, value) => do
    let flag ← allowed.find? (·.long == name)
    if flag.kind.hasValue then some { given := [⟨flag, value⟩] } else none
  | none => do
    let flag ← allowed.find? (·.long == body)
    if flag.kind.hasValue then some { given := [], awaiting := some flag } else some { given := [⟨flag, []⟩] }

/-- Read flags by their short names. What follows a flag with a value is its value. -/
def ofShort? (allowed : List Flag) : Text → Option Argument
  | [] => some { given := [] }
  | c :: rest => do
    let flag ← allowed.find? (·.short? == some c)
    if flag.kind.hasValue then
      if rest.isEmpty then return { given := [], awaiting := some flag }
      else return { given := [⟨flag, (cutStart? ['='] rest).getD rest⟩] }
    else
      let others ← ofShort? allowed rest
      return { others with given := ⟨flag, []⟩ :: others.given }

/-- Read an argument. -/
def read? (allowed : List Flag) : Text → Option Argument
  | '-' :: '-' :: body => ofLong? allowed body
  | '-' :: c :: rest => ofShort? allowed (c :: rest)
  | _ => none

end Argument

/-- Read all flags of a command. -/
def readFlags? (allowed : List Flag) : List Text → Option (List GivenFlag)
  | [] => some []
  | [arg] => do
    if arg = "--".toList then return []
    let a ← Argument.read? allowed arg
    if a.awaiting.isSome then none else return a.given
  | arg :: next :: rest => do
    let a ← Argument.read? allowed arg
    match a.awaiting with
    | none => return a.given ++ (← readFlags? allowed (next :: rest))
    | some flag =>
      if Argument.looksLikeFlag next then none
      else return a.given ++ ⟨flag, next⟩ :: (← readFlags? allowed rest)

/-- All values are of their kind, and no flag is repeated unless it may be. -/
def areValid (given : List GivenFlag) : Bool :=
  given.all (fun g => g.flag.kind.admits g.value) &&
    decide ((given.map (·.flag)).filter (·.kind != .count)).Nodup

/-- The flags given to a command, if they are valid. -/
structure FlagSet where
  given : List GivenFlag

namespace FlagSet

/-- Read the flags given to a command. -/
def read? (allowed : List Flag) (arguments : List Text) : Option FlagSet := do
  let given ← readFlags? allowed arguments
  if areValid given then some ⟨given⟩ else none

/-- A flag is given. -/
def has (s : FlagSet) (flag : Flag) : Bool := s.given.any (·.flag == flag)

/-- The value given with a flag. -/
def value? (s : FlagSet) (flag : Flag) : Option Text := (s.given.find? (·.flag == flag)).map (·.value)

/-- The number given with a flag. -/
def number? (s : FlagSet) (flag : Flag) : Option Nat := (s.value? flag).bind readCount?

end FlagSet

end TrackerAudit
