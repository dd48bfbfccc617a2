import Mathlib.Data.List.Forall2
import TrackerAudit.Host.Keys
import TrackerAudit.Proofs.Pattern.Reading
import TrackerAudit.Proofs.Regex.Search
import TrackerAudit.Proofs.Unicode.Orbit

/-!
# What the parts of a pattern take

`PatternPart.Takes` reads a part directly, without regular expressions: a literal takes its characters, a wildcard any
run without a line feed, a separator one character that does not belong to words or nothing at the end, an anchor nothing
at its end of the request, and a host anchor an optional scheme and optional labels at the start of the request. A pattern
given by its parts matches a request exactly if the parts take some part of it one after another
(`Pattern.isMatch_ofParts`).
-/

namespace TrackerAudit

open Text

/-- The character `d` counts as `c`: it is `c` or, where case is ignored, folds like `c`. -/
def CountsAs (noCase : Bool) (c d : Char) : Prop := d = c ∨ noCase = true ∧ Unicode.fold d = Unicode.fold c

/-- The character counts as one of a kind. -/
def CountsAsOne (noCase : Bool) (kind : Char → Bool) (d : Char) : Prop := ∃ c, kind c = true ∧ CountsAs noCase c d

/-- A character that folds like no other counts only as itself. -/
theorem countsAs_iff_eq {noCase : Bool} {c d : Char} (h : Unicode.orbit c = [c]) : CountsAs noCase c d ↔ d = c := by
  constructor
  · rintro (rfl | ⟨-, hd⟩)
    · rfl
    · have := Unicode.mem_orbit.2 hd
      rw [h] at this
      exact List.mem_singleton.1 this
  · exact Or.inl

namespace CharSet

theorem mem_cased {noCase : Bool} {s : CharSet} {d : Char} :
    (cased noCase s).mem d = true ↔ CountsAsOne noCase s.mem d := by
  cases noCase with
  | false => simp [cased, CountsAsOne, CountsAs]
  | true =>
    simp only [cased, if_true, mem_folded, CountsAsOne, CountsAs, true_and]
    constructor
    · rintro ⟨c, hc, hm⟩
      exact ⟨c, hm, Or.inr hc.symm⟩
    · rintro ⟨c, hm, rfl | hc⟩
      · exact ⟨d, rfl, hm⟩
      · exact ⟨c, hc.symm, hm⟩

theorem mem_cased_single {noCase : Bool} {c d : Char} : (cased noCase (single c)).mem d = true ↔ CountsAs noCase c d := by
  rw [mem_cased]
  constructor
  · rintro ⟨c', hc', h⟩
    obtain rfl := mem_single.1 hc'
    exact h
  · intro h
    exact ⟨c, mem_single.2 rfl, h⟩

end CharSet

namespace PatternPart

open Regex CharSet

/-! ### The direct reading -/

/-- A character that a scheme can go on with: a small letter, a digit, `+`, `.` or `-`. -/
def isSchemeChar (c : Char) : Bool := c.isLower || c.isDigit || c == '+' || c == '.' || c == '-'

/-- A scheme with its colon, and perhaps two slashes. -/
def IsSchemeMark (noCase : Bool) (taken : Text) : Prop :=
  ∃ c name slashes, taken = c :: (name ++ ':' :: slashes) ∧ CountsAsOne noCase Char.isLower c ∧
    (∀ d ∈ name, CountsAsOne noCase isSchemeChar d) ∧ (slashes = [] ∨ slashes = ['/', '/'])

/-- Labels up to a dot, within an authority. -/
def IsLabels (taken : Text) : Prop := ∃ run, taken = run ++ ['.'] ∧ ∀ c ∈ run, Host.endsAuthority c = false

/-- The part takes `taken` between the character `prev` and the text `rest`. -/
def Takes (noCase : Bool) : PatternPart → (prev : Option Char) → (taken rest : Text) → Prop
  | literal text, _, taken, _ => List.Forall₂ (CountsAs noCase) text taken
  | wildcard, _, taken, _ => '\n' ∉ taken
  | separator, _, taken, rest =>
    (∃ c, taken = [c] ∧ ¬CountsAsOne noCase (fun d => !Host.isSeparator d) c) ∨ taken = [] ∧ rest = []
  | requestStart, prev, taken, _ => prev = none ∧ taken = []
  | requestEnd, _, taken, rest => taken = [] ∧ rest = []
  | hostAnchor, prev, taken, _ => prev = none ∧ ∃ scheme labels, taken = scheme ++ labels ∧
    (scheme = [] ∨ IsSchemeMark noCase scheme) ∧ (labels = [] ∨ IsLabels labels)

/-- The parts of a list take `taken` one after another. -/
def TakeAll (noCase : Bool) : List PatternPart → (prev : Option Char) → (taken rest : Text) → Prop
  | [], _, taken, _ => taken = []
  | p :: ps, prev, taken, rest =>
    ∃ u v, taken = u ++ v ∧ p.Takes noCase prev u (v ++ rest) ∧ TakeAll noCase ps (prevAfter prev u) v rest

/-! ### The sets of characters -/

variable {noCase : Bool} {c : Char} {prev : Option Char} {t rest : Text}

private theorem mem_ranges {rs : List (Char × Char)} :
    (ranges rs).mem c = true ↔ ∃ r ∈ rs, (range r.1 r.2).mem c = true := by
  induction rs with
  | nil => simp [ranges, mem]
  | cons r rs ih =>
    have hcons : (ranges (r :: rs)).mem c = ((range r.1 r.2).mem c || (ranges rs).mem c) := rfl
    rw [hcons, Bool.or_eq_true, ih]
    simp

private theorem mem_range_self {d : Char} : (range d d).mem c = true ↔ c = d := mem_single

private theorem mem_range_lower : (range 'a' 'z').mem c = c.isLower := rfl

private theorem mem_range_digit : (range '0' '9').mem c = c.isDigit := rfl

private theorem mem_range_upper : (range 'A' 'Z').mem c = c.isUpper := by
  rw [Bool.eq_iff_iff, isUpper_iff]
  simp [mem, Char.le_def, UInt32.le_iff_toNat_le]

theorem mem_schemeChars : schemeChars.mem = isSchemeChar := by
  funext c
  rw [Bool.eq_iff_iff, schemeChars, mem_ranges]
  simp [mem_range_self, mem_range_lower, mem_range_digit, isSchemeChar, or_assoc]

theorem mem_authorityEnds : authorityEnds.mem = Host.endsAuthority := by
  funext c
  rw [Bool.eq_iff_iff, authorityEnds, mem_ranges]
  simp [mem_range_self, Host.endsAuthority, or_assoc]

theorem mem_wordChars : wordChars.mem = fun c => !Host.isSeparator c := by
  funext c
  rw [Bool.eq_iff_iff, wordChars, mem_ranges]
  simp [mem_range_self, mem_range_lower, mem_range_digit, mem_range_upper, Host.isSeparator, isAlnum, Char.isAlphanum,
    isAlpha_eq, or_assoc, or_left_comm]

/-- A set whose members fold like no other character is not changed by ignoring case. -/
private theorem mem_cased_of_rigid {s : CharSet} (hs : ∀ c, s.mem c = true → Unicode.orbit c = [c]) :
    (cased noCase s).mem c = s.mem c := by
  rw [Bool.eq_iff_iff, mem_cased]
  constructor
  · rintro ⟨d, hd, h⟩
    rwa [(countsAs_iff_eq (hs d hd)).1 h]
  · intro h
    exact ⟨c, h, Or.inl rfl⟩

private theorem mem_cased_authorityEnds : (cased noCase authorityEnds).mem c = Host.endsAuthority c := by
  rw [← mem_authorityEnds]
  refine mem_cased_of_rigid fun d hd => ?_
  rw [mem_authorityEnds] at hd
  simp only [Host.endsAuthority, Bool.or_eq_true, beq_iff_eq] at hd
  rcases hd with (rfl | rfl) | rfl <;> decide +kernel

private theorem consumes_charRegex {d : Char} : (charRegex noCase d).Consumes prev t rest ↔ ∃ c, t = [c] ∧ CountsAs noCase d c := by
  rw [charRegex, consumes_set]
  simp only [mem_cased_single]
  constructor
  · rintro ⟨c, hc, rfl⟩
    exact ⟨c, rfl, hc⟩
  · rintro ⟨c, rfl, hc⟩
    exact ⟨c, hc, rfl⟩

/-- A character that folds like no other is taken as it stands. -/
private theorem consumes_charRegex_rigid {d : Char} (h : Unicode.orbit d = [d]) :
    (charRegex noCase d).Consumes prev t rest ↔ t = [d] := by
  rw [consumes_charRegex]
  simp only [countsAs_iff_eq h]
  constructor
  · rintro ⟨c, rfl, rfl⟩
    rfl
  · rintro rfl
    exact ⟨d, rfl, rfl⟩

/-! ### The expressions of the parts -/

private theorem consumesAll_chars {text : Text} :
    ConsumesAll (text.map (charRegex noCase)) prev t rest ↔ List.Forall₂ (CountsAs noCase) text t := by
  induction text generalizing prev t with
  | nil => simp
  | cons c text ih =>
    rw [List.map_cons, consumesAll_cons]
    simp only [consumes_charRegex, ih]
    constructor
    · rintro ⟨_, v, rfl, ⟨d, rfl, hd⟩, hv⟩
      exact .cons hd hv
    · intro h
      cases h with
      | cons hd hv => exact ⟨[_], _, rfl, ⟨_, rfl, hd⟩, hv⟩

private theorem consumes_slashes :
    (Regex.rep (catList [charRegex noCase '/', charRegex noCase '/']) 0 (some 1)).Consumes prev t rest ↔
      t = [] ∨ t = ['/', '/'] := by
  have hslash : Unicode.orbit '/' = ['/'] := by decide +kernel
  rw [consumes_optional, consumes_catList, consumesAll_cons]
  simp only [consumesAll_singleton, consumes_charRegex_rigid hslash]
  refine or_congr_right ?_
  constructor
  · rintro ⟨_, _, rfl, rfl, rfl⟩
    rfl
  · rintro rfl
    exact ⟨['/'], ['/'], rfl, rfl, rfl⟩

private theorem consumes_schemeRegex : (schemeRegex noCase).Consumes prev t rest ↔ IsSchemeMark noCase t := by
  -- a colon has no other case
  have hcolon : Unicode.orbit ':' = [':'] := by decide +kernel
  rw [schemeRegex, consumes_catList]
  simp only [consumesAll_cons, consumesAll_nil, consumes_set, consumes_star_set, consumes_charRegex_rigid hcolon,
    consumes_slashes, mem_cased, mem_schemeChars]
  constructor
  · rintro ⟨_, _, rfl, ⟨c, hc, rfl⟩, name, _, rfl, hname, _, _, rfl, rfl, slashes, _, rfl, hslashes, rfl⟩
    exact ⟨c, name, slashes, by simp, hc, hname, hslashes⟩
  · rintro ⟨c, name, slashes, rfl, hc, hname, hslashes⟩
    exact ⟨[c], _, rfl, ⟨c, hc, rfl⟩, name, _, rfl, hname, [':'], _, rfl, rfl, slashes, [], by simp, hslashes, rfl⟩

private theorem consumes_labelsRegex : (labelsRegex noCase).Consumes prev t rest ↔ IsLabels t := by
  have hdot : Unicode.orbit '.' = ['.'] := by decide +kernel
  rw [labelsRegex, consumes_catList]
  simp only [consumesAll_cons, consumesAll_nil, consumes_star_set, consumes_charRegex_rigid hdot, mem,
    mem_cased_authorityEnds]
  constructor
  · rintro ⟨run, _, rfl, hrun, _, _, rfl, rfl, rfl⟩
    exact ⟨run, rfl, by simpa using hrun⟩
  · rintro ⟨run, rfl, hrun⟩
    exact ⟨run, ['.'], rfl, by simpa using hrun, ['.'], [], rfl, rfl, rfl⟩

/-- The expressions of a part take what the part takes. -/
theorem consumesAll_regexes {p : PatternPart} : ConsumesAll (p.regexes noCase) prev t rest ↔ p.Takes noCase prev t rest := by
  cases p with
  | literal text => exact consumesAll_chars
  | wildcard =>
    rw [regexes, consumesAll_singleton, consumes_star_set, Takes]
    constructor
    · intro h hn
      have := h '\n' hn
      simp [mem, single] at this
    · intro h c hc
      have hne : c ≠ '\n' := by
        rintro rfl
        exact h hc
      rw [mem, Bool.not_eq_true', Bool.eq_false_iff]
      exact fun hm => hne (mem_single.1 hm)
  | separator =>
    rw [regexes, consumesAll_singleton, consumes_alt, consumes_set, consumes_look, Takes, ← mem_wordChars]
    simp only [mem, Bool.not_eq_true', Bool.eq_false_iff, ne_eq, mem_cased, Look.holds, Option.isNone_iff_eq_none,
      List.head?_eq_none_iff]
    refine or_congr_left ?_
    constructor
    · rintro ⟨c, hc, rfl⟩
      exact ⟨c, rfl, hc⟩
    · rintro ⟨c, rfl, hc⟩
      exact ⟨c, hc, rfl⟩
  | requestStart =>
    rw [regexes, consumesAll_singleton, consumes_look, Takes, and_comm]
    simp [Look.holds]
  | requestEnd =>
    rw [regexes, consumesAll_singleton, consumes_look, Takes]
    simp [Look.holds]
  | hostAnchor =>
    rw [regexes, Takes]
    simp only [consumesAll_cons, consumesAll_nil, consumes_look, consumes_optional, consumes_schemeRegex,
      consumes_labelsRegex]
    constructor
    · rintro ⟨_, _, rfl, ⟨rfl, hprev⟩, scheme, _, rfl, hscheme, labels, _, rfl, hlabels, rfl⟩
      exact ⟨by simpa [Look.holds] using hprev, scheme, labels, by simp, hscheme, hlabels⟩
    · rintro ⟨rfl, scheme, labels, rfl, hscheme, hlabels⟩
      exact ⟨[], _, rfl, ⟨rfl, rfl⟩, scheme, _, rfl, hscheme, labels, [], by simp, hlabels, rfl⟩

/-- The expressions of a row of parts take what the parts take one after another. -/
theorem consumesAll_flatMap {parts : List PatternPart} :
    ConsumesAll (parts.flatMap (regexes noCase)) prev t rest ↔ TakeAll noCase parts prev t rest := by
  induction parts generalizing prev t with
  | nil => rfl
  | cons p parts ih =>
    rw [List.flatMap_cons, consumesAll_append, TakeAll]
    simp only [consumesAll_regexes, ih]

theorem counted_regexes (p : PatternPart) : ∀ r ∈ p.regexes noCase, r.Counted := by
  cases p with
  | literal text =>
    intro r hr
    obtain ⟨c, -, rfl⟩ := List.mem_map.1 hr
    trivial
  | _ => simp [regexes, Counted, schemeRegex, labelsRegex, catList, charRegex]

end PatternPart

open Regex in
theorem Regex.counted_catList {rs : List Regex} (h : ∀ r ∈ rs, r.Counted) : (catList rs).Counted := by
  induction rs with
  | nil => trivial
  | cons r rs ih =>
    cases rs with
    | nil => exact h r (by simp)
    | cons r' rs => exact ⟨h r (by simp), ih fun q hq => h q (by simp [hq])⟩

/-- A pattern given by its parts matches a request exactly if the parts take some part of it one after another. -/
theorem Pattern.isMatch_ofParts {parts : List PatternPart} {matchCase : Bool} {p : Pattern}
    (h : Pattern.ofParts parts matchCase = .ok p) (request : Text) : p.isMatch request = true ↔
      ∃ before taken rest, request = before ++ taken ++ rest ∧
        PatternPart.TakeAll (!matchCase) parts before.getLast? taken rest := by
  have hcounted : ∀ r ∈ parts.flatMap (PatternPart.regexes (!matchCase)), r.Counted := by
    intro r hr
    obtain ⟨part, -, hr⟩ := List.mem_flatMap.1 hr
    exact part.counted_regexes r hr
  rw [Pattern.isMatch, Pattern.regex_ofParts h, Regex.isMatch_iff_occurs (Regex.counted_catList hcounted), Regex.Occurs]
  simp only [Regex.consumes_catList, PatternPart.consumesAll_flatMap]

end TrackerAudit
