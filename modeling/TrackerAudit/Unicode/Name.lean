import TrackerAudit.Unicode.Property

/-!
# Names of properties

A property is named by a trait, a general category or a script, or by the kind of property and its value with a `=`
or `:` between them, or `!=` for its complement. Case, blanks, hyphens and underscores do not count in a name, nor does
`is` in front of it.
-/

namespace TrackerAudit.Unicode

open Text

/-- A name without what does not count in it. -/
def looseName (name : Text) : Text :=
  let (isCut, rest) := match name with
    | i :: s :: rest => if lower [i, s] = "is".toList then (true, rest) else (false, name)
    | name => (false, name)
  let loose := lower (rest.filter fun c => c != ' ' && c != '_' && c != '-' && c.toNat < 128)
  if isCut && loose = ['c'] then "isc".toList else loose

/-- The property of a general category, and whether it is the complement that is meant. -/
def categoryProperty? (name : Text) : Option (Property × Bool) :=
  if name = "any".toList then some (.any, false)
  else if name = "ascii".toList then some (.ascii, false)
  else if name = "assigned".toList then some (.category ["Cn".toList], true)
  else (categories? name).map fun labels => (.category labels, false)

/-- The property of a script. -/
def scriptProperty? (name : Text) : Option (Property × Bool) := (script? name).map fun label => (.script label, false)

/-- The property with a name of its own. Three names of categories are names of other kinds of property as well. -/
def plainProperty? (name : Text) : Option (Property × Bool) :=
  let isCategory := ["cf", "sc", "lc"].any (·.toList == name)
  match if isCategory then none else trait? name with
  | some trait => some (.trait trait, false)
  | none => (categoryProperty? name).or (scriptProperty? name)

/-- The property with a value of its kind. -/
def valueProperty? (kind value : Text) : Option (Property × Bool) :=
  let kind := looseName kind
  let value := looseName value
  if kind = "gc".toList || kind = "generalcategory".toList then categoryProperty? value
  else if kind = "sc".toList || kind = "script".toList then scriptProperty? value
  else none

/-- A name cut at its first `!=`. -/
def cutUnequal? : Text → Option (Text × Text)
  | '!' :: '=' :: rest => some ([], rest)
  | c :: rest => (cutUnequal? rest).map fun cut => (c :: cut.1, cut.2)
  | [] => none

/-- The property with a name, and whether it is the complement that is meant. -/
def Property.ofName? (name : Text) : Option (Property × Bool) :=
  match cutUnequal? name with
  | some (kind, value) => (valueProperty? kind value).map fun p => (p.1, !p.2)
  | none =>
    match (cutFirst? ':' name).or (cutFirst? '=' name) with
    | some (kind, value) => valueProperty? kind value
    | none => plainProperty? (looseName name)

end TrackerAudit.Unicode
