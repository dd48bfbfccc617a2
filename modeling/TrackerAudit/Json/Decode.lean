import TrackerAudit.Json.Read
import TrackerAudit.Text.Keyed

/-!
# Decoding JSON values

A record is decoded from an object, or from an array of its fields in order. In an object, unknown members are
ignored, a known member must not occur twice, and one that is absent is taken as its default if it has one. In an
array, only fields with a default may be absent, and only at the end.
-/

namespace TrackerAudit

/-- What a JSON value is decoded to, if it has the right form. -/
abbrev Decoder (α : Type) := Json → Option α

namespace Decoder

variable {α : Type}

/-- A string. -/
def text : Decoder Text
  | .string s => s
  | _ => none

/-- `true` or `false`. -/
def bool : Decoder Bool
  | .bool b => some b
  | _ => none

/-- A count: an integer that is not negative. -/
def nat : Decoder Nat
  | .number (.natural n) => some n
  | _ => none

/-- A number. -/
def float : Decoder Float
  | .number (.natural n) => some (Float.ofNat n)
  | .number (.negative n) => some (-(Float.ofNat n))
  | .number (.float x) => some x
  | _ => none

/-- An array of items. -/
def list (item : Decoder α) : Decoder (List α)
  | .array items => items.mapM item
  | _ => none

/-- A value, or `null` for none. -/
def optional (value : Decoder α) : Decoder (Option α)
  | .null => some none
  | j => (value j).map some

/-- An object with values of one kind. Of two members with the same key the later one counts. -/
def keyed (value : Decoder α) : Decoder (Keyed α)
  | .object members => do
    let entries ← members.mapM fun m => do return (← m.1, ← value m.2)
    return Keyed.ofList entries
  | _ => none

/-- A set of strings, given by an array. -/
def textSet : Decoder TextSet := fun j => (list text j).map TextSet.ofList

/-- One of some names, as a string or as an object with that name as its only key and the value `null`. -/
def name (find : Text → Option α) : Decoder α
  | .string s => s.bind find
  | .object [(key, .null)] => key.bind find
  | _ => none

end Decoder

/-- The fields of a record that are present. -/
structure Json.Row where
  cells : List (Text × Json)
  /-- the fields were given in order, in an array -/
  positional : Bool

namespace Json

/-- The value can be taken apart completely: it has no text that is none, no number beyond the floats, and nests at
most `room` arrays and objects. -/
def isPlain : (room : Nat) → Json → Bool
  | _, number .tooLarge => false
  | _, string none => false
  | 0, array _ => false
  | room + 1, array items => items.attach.all fun ⟨j, _⟩ => isPlain room j
  | 0, object _ => false
  | room + 1, object members => members.attach.all fun ⟨m, _⟩ => m.1.isSome && isPlain room m.2
  | _, _ => true

/-- The members with one of the given names. All keys must be texts, and no name may occur twice. -/
def knownMembers? (names : List Text) : List (Option Text × Json) → Option (List (Text × Json))
  | [] => some []
  | (none, _) :: _ => none
  | (some key, value) :: rest => do
    let known ← knownMembers? names rest
    if !names.contains key then return known
    else if known.any (·.1 == key) then none
    else return (key, value) :: known

/-- The fields of a record with the given names. -/
def row? (names : List String) : Json → Option Row
  | object members => (knownMembers? (names.map String.toList) members).map fun cells => ⟨cells, false⟩
  | array items =>
    if items.length ≤ names.length then some ⟨(names.map String.toList).zip items, true⟩ else none
  | _ => none

/-- The fields of a record that is part of a larger object. The members with other names are taken apart, with
`room` for arrays and objects inside of them. -/
def partRow? (names : List String) (room : Nat) : Json → Option Row
  | object members => do
    let cells ← knownMembers? (names.map String.toList) members
    let known := names.map String.toList
    if members.all fun m => m.1.any known.contains || m.2.isPlain room then return ⟨cells, false⟩ else none
  | _ => none

namespace Row

variable {α : Type}

/-- The field with the given name. -/
def cell (r : Row) (field : String) : Option Json := r.cells.lookup field.toList

/-- A field that must be present. -/
def required (r : Row) (field : String) (value : Decoder α) : Option α := (r.cell field).bind value

/-- A field with a default. -/
def defaulted (r : Row) (field : String) (default : α) (value : Decoder α) : Option α :=
  match r.cell field with
  | some j => value j
  | none => some default

/-- A field that may be `null`, or absent from an object. -/
def optional (r : Row) (field : String) (value : Decoder α) : Option (Option α) :=
  match r.cell field with
  | some j => Decoder.optional value j
  | none => if r.positional then none else some none

end Row

end Json

end TrackerAudit
