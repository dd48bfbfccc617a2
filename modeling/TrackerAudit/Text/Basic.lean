/-!
# Texts

A text is a list of characters. This file has the few ways in which filter lists, URLs and result files take
texts apart: trimming from the ends, cutting off a known beginning or end, cutting at the first or the last
character of a kind, and comparing while ignoring the case of ASCII letters.

Nothing is lost by a cut: `before_append_startingAt`, `cutStart?_eq_some`, `cutEnd?_eq_some`, `cutFirst?_eq_some` and
`cutLast?_eq_some` put the parts together again.
-/

namespace TrackerAudit

/-- A text, character by character. -/
abbrev Text := List Char

instance : Hashable Text where
  hash s := s.foldl (fun h c => mixHash h c.val.toUInt64) 7

namespace Text

/-! ### Kinds of characters -/

/-- ASCII letters and digits. -/
def isAlnum (c : Char) : Bool := c.isAlphanum

/-- The characters with the Unicode property `White_Space`. -/
def isBlank (c : Char) : Bool :=
  let n := c.toNat
  (0x09 ≤ n && n ≤ 0x0D) || n == 0x20 || n == 0x85 || n == 0xA0 || n == 0x1680 ||
    (0x2000 ≤ n && n ≤ 0x200A) || n == 0x2028 || n == 0x2029 || n == 0x202F || n == 0x205F || n == 0x3000

/-! ### Trimming -/

/-- Drop the characters with `p` from the end. -/
def dropEnd (p : Char → Bool) (s : Text) : Text := (s.reverse.dropWhile p).reverse

/-- Drop the characters with `p` from both ends. -/
def trimBy (p : Char → Bool) (s : Text) : Text := dropEnd p (s.dropWhile p)

/-- Drop blanks from both ends. -/
def trim (s : Text) : Text := trimBy isBlank s

/-- Drop blanks from the start. -/
def trimStart (s : Text) : Text := s.dropWhile isBlank

/-- Drop dots from both ends. -/
def trimDots (s : Text) : Text := trimBy (· == '.') s

/-! ### Cutting -/

/-- The rest of `s` after `lead`, if `s` starts with it. -/
def cutStart? : (lead s : Text) → Option Text
  | [], s => some s
  | _ :: _, [] => none
  | c :: lead, d :: s => if c = d then cutStart? lead s else none

/-- The part of `s` before `tail`, if `s` ends with it. -/
def cutEnd? (tail s : Text) : Option Text :=
  (cutStart? tail.reverse s.reverse).map List.reverse

/-- The characters before the first one with `p`. -/
def before (p : Char → Bool) (s : Text) : Text := s.takeWhile (!p ·)

/-- The characters from the first one with `p` on. -/
def startingAt (p : Char → Bool) (s : Text) : Text := s.dropWhile (!p ·)

theorem before_append_startingAt (p : Char → Bool) (s : Text) : before p s ++ startingAt p s = s :=
  List.takeWhile_append_dropWhile

/-- What stands before and after the last `c`, if there is one. -/
def cutLast? (c : Char) : Text → Option (Text × Text)
  | [] => none
  | d :: s =>
    match cutLast? c s with
    | some (l, r) => some (d :: l, r)
    | none => if d = c then some ([], s) else none

/-- What stands before and after the first `c`, if there is one. -/
def cutFirst? (c : Char) : Text → Option (Text × Text)
  | [] => none
  | d :: s => if d = c then some ([], s) else (cutFirst? c s).map fun lr => (d :: lr.1, lr.2)

theorem cutStart?_eq_some {lead s r : Text} : cutStart? lead s = some r ↔ s = lead ++ r := by
  induction lead generalizing s with
  | nil => simp [cutStart?]
  | cons c lead ih =>
    cases s with
    | nil => simp [cutStart?]
    | cons d s =>
      by_cases h : c = d
      · simp [cutStart?, h, ih]
      · simp [cutStart?, h, Ne.symm h]

theorem cutEnd?_eq_some {tail s l : Text} : cutEnd? tail s = some l ↔ s = l ++ tail := by
  simp only [cutEnd?, Option.map_eq_some_iff, cutStart?_eq_some]
  constructor
  · rintro ⟨m, h, rfl⟩
    rw [← List.reverse_reverse s, h]; simp
  · rintro rfl
    exact ⟨l.reverse, by simp, by simp⟩

theorem cutFirst?_eq_some {c : Char} {s l r : Text} :
    cutFirst? c s = some (l, r) ↔ s = l ++ c :: r ∧ c ∉ l := by
  induction s generalizing l r with
  | nil => simp [cutFirst?]
  | cons d s ih =>
    by_cases h : d = c
    · cases l with
      | nil => simp [cutFirst?, h]
      | cons e l => simp +contextual [cutFirst?, h]
    · cases l with
      | nil => simp [cutFirst?, h]
      | cons e l =>
        simp only [cutFirst?, h, if_false, Option.map_eq_some_iff, Prod.mk.injEq, List.cons.injEq]
        constructor
        · rintro ⟨⟨l', r'⟩, hs, ⟨rfl, rfl⟩, rfl⟩
          have := ih.1 hs
          exact ⟨by simp [this.1], by simp [this.2, Ne.symm h]⟩
        · rintro ⟨hs, hc⟩
          obtain ⟨rfl, ht⟩ := List.cons.inj hs
          exact ⟨(l, r), ih.2 ⟨ht, by simp_all⟩, ⟨rfl, rfl⟩, rfl⟩

private theorem cutLast?_eq_none {c : Char} {s : Text} : cutLast? c s = none ↔ c ∉ s := by
  induction s with
  | nil => simp [cutLast?]
  | cons d s ih =>
    rw [cutLast?]
    split
    · rename_i l r h
      have : c ∈ s := by
        apply Classical.byContradiction
        intro hc
        rw [ih.2 hc] at h
        cases h
      simp [this]
    · rename_i h
      by_cases hd : d = c
      · simp [hd]
      · simp [hd, ih.1 h, Ne.symm hd]

theorem cutLast?_eq_some {c : Char} {s l r : Text} :
    cutLast? c s = some (l, r) ↔ s = l ++ c :: r ∧ c ∉ r := by
  induction s generalizing l r with
  | nil => simp [cutLast?]
  | cons d s ih =>
    rw [cutLast?]
    split
    · rename_i l' r' h
      have hs := ih.1 h
      constructor
      · rintro ⟨⟩
        exact ⟨by simp [hs.1], hs.2⟩
      · rintro ⟨h', hr⟩
        cases l with
        | nil =>
          obtain ⟨-, rfl⟩ := List.cons.inj h'
          exact absurd (by simp [hs.1]) hr
        | cons e l =>
          obtain ⟨rfl, ht⟩ := List.cons.inj h'
          have := ih.2 ⟨ht, hr⟩
          rw [h] at this
          cases this
          rfl
    · rename_i h
      have hc := cutLast?_eq_none.1 h
      by_cases hd : d = c
      · cases l with
        | nil =>
          simp only [hd, if_true, Option.some.injEq, Prod.mk.injEq, true_and, List.nil_append, List.cons.injEq]
          exact ⟨fun h' => ⟨h', h' ▸ hc⟩, fun h' => h'.1⟩
        | cons e l =>
          simp only [hd, if_true, Option.some.injEq, Prod.mk.injEq, List.nil_eq, reduceCtorEq, false_and, false_iff]
          rintro ⟨h', -⟩
          obtain ⟨-, rfl⟩ := List.cons.inj h'
          exact hc (by simp)
      · simp only [hd, if_false, reduceCtorEq, false_iff]
        rintro ⟨h', -⟩
        cases l with
        | nil => exact hd (List.cons.inj h').1
        | cons e l =>
          obtain ⟨-, rfl⟩ := List.cons.inj h'
          exact hc (by simp)

/-! ### ASCII case -/

/-- ASCII capitals become small letters; all else stays. -/
def lower (s : Text) : Text := s.map Char.toLower

/-- Equality up to the case of ASCII letters. -/
def sameNoCase (a b : Text) : Bool := lower a == lower b

theorem sameNoCase_iff {a b : Text} : sameNoCase a b = true ↔ lower a = lower b := by
  simp [sameNoCase]

@[simp] theorem length_lower (s : Text) : (lower s).length = s.length := by simp [lower]

/-! ### Lines and words -/

/-- Whether `part` occurs somewhere in the text. -/
def includes (part : Text) : Text → Bool
  | [] => part.isEmpty
  | c :: s => (cutStart? part (c :: s)).isSome || includes part s

/-- The lines of a text. A line ends with a line feed; one carriage return before it belongs to the line end, and
the last line may lack its end. -/
def lines (s : Text) : List Text :=
  let pieces := s.splitOn '\n'
  let last := pieces.getLastD []
  pieces.dropLast.map (fun l => (cutEnd? ['\r'] l).getD l) ++ if last.isEmpty then [] else [last]

/-- The maximal runs of characters that are not blank. -/
def words (s : Text) : List Text := (s.splitOnP isBlank).filter (!·.isEmpty)

/-! ### Joining -/

/-- The texts one after another with `sep` between neighbours. -/
def join (sep : Text) : List Text → Text
  | [] => []
  | [s] => s
  | s :: rest => s ++ sep ++ join sep rest

/-- The decimal digits of a number. -/
def ofNat (n : Nat) : Text := Nat.toDigits 10 n

end Text

end TrackerAudit
