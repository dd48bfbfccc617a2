import TrackerAudit.Text.Basic

/-!
# Tables of runs

A property that has a value at each code point is given by runs of code points with the same value, from 0 on. In the
text of such a table a run is a label, and the number of its points in hexadecimal digits.
-/

namespace TrackerAudit.Unicode

open Text

/-- The value of a hexadecimal number in capital letters. -/
def hexNat (s : Text) : Nat :=
  s.foldl (fun n c => 16 * n + if c.isDigit then c.toNat - '0'.toNat else c.toNat - 'A'.toNat + 10) 0

/-- Runs of code points: a label, and the number of points. -/
abbrev Runs := List (Text × Nat)

namespace Runs

/-- The runs that are written in the rows of a table, with labels of the given width. -/
def ofRows (width : Nat) (rows : List String) : Runs :=
  (rows.flatMap fun row => words row.toList).map fun w => (w.take width, hexNat (w.drop width))

/-- The label of a code point. -/
def label? : Runs → Nat → Option Text
  | [], _ => none
  | (label, length) :: rest, n => if n < length then some label else label? rest (n - length)

/-- The number of stretches of code points with one of the labels. -/
def stretches (runs : Runs) (labels : List Text) : Nat :=
  let inside := runs.map fun r => labels.contains r.1
  (inside.zip (false :: inside)).countP fun b => b.1 && !b.2

end Runs

end TrackerAudit.Unicode
