import Std.Data.HashMap
import TrackerAudit.Json.Decode

/-!
# Rankings

Labels with their counts, the largest counts first. Among equal counts the order of the input stays.
-/

namespace TrackerAudit

/-- A label and a count. -/
structure RankedEntry where
  label : Text
  count : Nat
  deriving DecidableEq

namespace RankedEntry

def toJson (e : RankedEntry) : Json := Json.record [("label", Json.str e.label), ("count", Json.nat e.count)]

def decode : Decoder RankedEntry := fun j => do
  let r ← j.row? ["label", "count"]
  return { label := ← r.required "label" .text, count := ← r.required "count" .nat }

end RankedEntry

/-- The entries by descending count. -/
def ranked (entries : List RankedEntry) : List RankedEntry := entries.mergeSort fun a b => b.count ≤ a.count

/-- The `n` entries with the largest counts. -/
def top (n : Nat) (entries : List RankedEntry) : List RankedEntry := (ranked entries).take n

/-- Labels counted so far. -/
structure Tally where
  /-- the labels in the order of first occurrence, with the number of their occurrences -/
  entries : Array RankedEntry := #[]
  /-- the place of the entry of each label -/
  places : Std.HashMap Text Nat := ∅

/-- Count one more occurrence of a label. -/
def Tally.add (t : Tally) (label : Text) : Tally :=
  match t.places[label]? with
  | some place => { t with entries := t.entries.modify place fun e => { e with count := e.count + 1 } }
  | none => { entries := t.entries.push ⟨label, 1⟩, places := t.places.insert label t.entries.size }

/-- Each label once, in the order of first occurrence, with the number of its occurrences. -/
def occurrences (labels : List Text) : List RankedEntry := (labels.foldl Tally.add {}).entries.toList

end TrackerAudit
