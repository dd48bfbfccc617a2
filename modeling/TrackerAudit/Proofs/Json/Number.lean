import Mathlib.Algebra.Group.Nat.Defs
import TrackerAudit.Json.Print
import TrackerAudit.Json.Read
import TrackerAudit.Proofs.Text.Cutting

/-!
# Numbers in JSON

A number is read from the same characters whatever follows it, as long as that is nothing a number can go on with
(`read?_append`). Integers within the range of the reader are read back from their decimal digits. Reading a float
rounds more than once, so some floats do not survive; `JsonNumber.IsKept` says which numbers do (`read?_numberText`).
-/

namespace TrackerAudit.JsonNumber

open Text

/-- A number cannot go on with this text. -/
def EndsNumber (rest : Text) : Prop := ∀ c ∈ rest.head?, c.isDigit = false ∧ c ≠ '.' ∧ c ≠ 'e' ∧ c ≠ 'E'

@[simp] theorem endsNumber_nil : EndsNumber [] := by simp [EndsNumber]

theorem endsNumber_cons {c : Char} {rest : Text} (h : c.isDigit = false ∧ c ≠ '.' ∧ c ≠ 'e' ∧ c ≠ 'E') :
    EndsNumber (c :: rest) := by simpa [EndsNumber] using h

/-! ### What follows a number -/

variable {s r rest : Text}

/-- The digits at the start of a text, of which there is at least one, and the rest. -/
def digits? (s : Text) : Option (Text × Text) := if (spanDigits s).1 = [] then none else some (spanDigits s)

theorem spanDigits_append (hrest : EndsNumber rest) :
    spanDigits (s ++ rest) = ((spanDigits s).1, (spanDigits s).2 ++ rest) :=
  span_append_of_head? fun c hc => (hrest c hc).1

theorem digits?_append (hrest : EndsNumber rest) :
    digits? (s ++ rest) = (digits? s).map fun x => (x.1, x.2 ++ rest) := by
  simp only [digits?, spanDigits_append hrest]
  split <;> simp_all

theorem readFraction?_of_head? (h : ∀ c ∈ s.head?, c ≠ '.') : readFraction? s = some (none, s) := by
  unfold readFraction?
  split
  · exact absurd rfl (h '.' rfl)
  · rfl

theorem readFraction?_dot : readFraction? ('.' :: s) = (digits? s).map fun x => (some x.1, x.2) := by
  simp only [readFraction?, digits?]
  split <;> simp_all

theorem readFraction?_append {fraction : Option Text} (h : readFraction? s = some (fraction, r))
    (hrest : EndsNumber rest) : readFraction? (s ++ rest) = some (fraction, r ++ rest) := by
  by_cases hdot : s.head? = some '.'
  · obtain ⟨s, rfl⟩ := List.head?_eq_some_iff.1 hdot
    rw [readFraction?_dot] at h
    rw [List.cons_append, readFraction?_dot, digits?_append hrest, Option.map_map]
    obtain ⟨x, hx, hxr⟩ := Option.map_eq_some_iff.1 h
    cases hxr
    simp [hx]
  · have hs : ∀ c ∈ s.head?, c ≠ '.' := fun c hc heq => hdot (heq ▸ hc)
    rw [readFraction?_of_head? hs] at h
    cases h
    refine readFraction?_of_head? ?_
    cases s with
    | nil => exact fun c hc => (hrest c hc).2.1
    | cons c s => exact hs

/-- The sign in front of a text: whether it is a minus, and the rest. -/
def cutSign : Text → Bool × Text
  | '+' :: s => (false, s)
  | '-' :: s => (true, s)
  | s => (false, s)

theorem cutSign_append (hs : s ≠ []) : cutSign (s ++ rest) = ((cutSign s).1, (cutSign s).2 ++ rest) := by
  fun_cases cutSign s with
  | case1 => rfl
  | case2 => rfl
  | case3 s hplus hminus =>
    obtain ⟨c, s, rfl⟩ := List.exists_cons_of_ne_nil hs
    refine cutSign.eq_3 _ ?_ ?_
    · rintro t ⟨⟩
      exact hplus s rfl
    · rintro t ⟨⟩
      exact hminus s rfl

theorem readExponent?_of_head? (h : ∀ c ∈ s.head?, c ≠ 'e' ∧ c ≠ 'E') : readExponent? s = some (none, s) := by
  unfold readExponent?
  split
  · rename_i c s
    have hc := h c rfl
    simp [hc.1, hc.2]
  · rfl

theorem readExponent?_mark {c : Char} (hc : (c == 'e' || c == 'E') = true) :
    readExponent? (c :: s) = (digits? (cutSign s).2).map fun x => (some ((cutSign s).1, x.1), x.2) := by
  unfold readExponent? digits? cutSign
  simp only [hc, if_true]
  split <;> split <;> simp_all

theorem readExponent?_append {exponent : Option (Bool × Text)} (h : readExponent? s = some (exponent, r))
    (hrest : EndsNumber rest) : readExponent? (s ++ rest) = some (exponent, r ++ rest) := by
  by_cases hs : ∀ c ∈ s.head?, c ≠ 'e' ∧ c ≠ 'E'
  · rw [readExponent?_of_head? hs] at h
    cases h
    refine readExponent?_of_head? ?_
    cases s with
    | nil => exact fun c hc => (hrest c hc).2.2
    | cons c s => exact hs
  · push Not at hs
    obtain ⟨c, hc, hmark⟩ := hs
    obtain ⟨s, rfl⟩ := List.head?_eq_some_iff.1 hc
    have hmark : (c == 'e' || c == 'E') = true := by simpa [or_iff_not_imp_left] using hmark
    rw [readExponent?_mark hmark] at h
    obtain ⟨x, hx, hxr⟩ := Option.map_eq_some_iff.1 h
    cases hxr
    have hne : s ≠ [] := by
      rintro rfl
      simp [cutSign, digits?, spanDigits] at hx
    rw [List.cons_append, readExponent?_mark hmark, cutSign_append hne, digits?_append hrest, hx]
    rfl

/-- The digits can be the whole part of a number: there are some, and none of several is a leading zero. -/
def isWhole : Text → Bool
  | [] => false
  | '0' :: _ :: _ => false
  | _ => true

/-- Read a number after its sign. -/
def readUnsigned? (minus : Bool) (s : Text) : Option (JsonNumber × Text) :=
  if isWhole (spanDigits s).1 then
    (readFraction? (spanDigits s).2).bind fun (fraction, s') =>
      (readExponent? s').map fun (exponent, s') => (ofDigits minus (spanDigits s).1 fraction exponent, s')
  else none

private theorem bind_some_eq_map {α β : Type} (x : Option α) (f : α → β) : (x.bind fun a => some (f a)) = x.map f := by
  cases x <;> rfl

theorem read?_minus (s : Text) : read? ('-' :: s) = readUnsigned? true s := by
  unfold read? readUnsigned? isWhole
  dsimp only
  split <;> simp_all [bind_some_eq_map]

theorem read?_of_head? (h : ∀ c ∈ s.head?, c ≠ '-') : read? s = readUnsigned? false s := by
  unfold read? readUnsigned? isWhole
  split
  · rename_i hs
    split at hs
    · exact absurd rfl (h '-' rfl)
    · cases hs
      dsimp only
      split <;> simp_all [bind_some_eq_map]

theorem readUnsigned?_append {minus : Bool} {n : JsonNumber} (h : readUnsigned? minus s = some (n, r))
    (hrest : EndsNumber rest) : readUnsigned? minus (s ++ rest) = some (n, r ++ rest) := by
  unfold readUnsigned? at h ⊢
  rw [spanDigits_append hrest]
  split at h
  · rename_i hwhole
    obtain ⟨⟨fraction, s'⟩, hfraction, h⟩ := Option.bind_eq_some_iff.1 h
    obtain ⟨⟨exponent, s''⟩, hexponent, h⟩ := Option.map_eq_some_iff.1 h
    cases h
    simp only [hwhole, if_true, readFraction?_append hfraction hrest, Option.bind_some,
      readExponent?_append hexponent hrest, Option.map_some]
  · cases h

/-- A number is read from the same characters whatever follows it. -/
theorem read?_append {n : JsonNumber} (h : read? s = some (n, r)) (hrest : EndsNumber rest) :
    read? (s ++ rest) = some (n, r ++ rest) := by
  cases s with
  | nil => simp [read?, spanDigits] at h
  | cons c s =>
    by_cases hc : c = '-'
    · subst hc
      rw [read?_minus] at h
      rw [List.cons_append, read?_minus]
      exact readUnsigned?_append h hrest
    · rw [read?_of_head? (by simpa using hc)] at h
      rw [read?_of_head? (by simpa using hc)]
      exact readUnsigned?_append h hrest

/-- A number starts with a minus sign or a digit. -/
theorem exists_of_read? {n : JsonNumber} (h : read? s = some (n, r)) :
    ∃ c t, s = c :: t ∧ (c = '-' ∨ c.isDigit = true) := by
  cases s with
  | nil => simp [read?, spanDigits] at h
  | cons c s =>
    refine ⟨c, s, rfl, ?_⟩
    by_cases hc : c = '-'
    · exact Or.inl hc
    · rw [read?_of_head? (by simpa using hc)] at h
      refine Or.inr ?_
      by_contra hdigit
      simp [readUnsigned?, spanDigits, List.span_eq_takeWhile_dropWhile, hdigit, isWhole] at h

/-! ### Integers -/

theorem head?_ofNat {n : Nat} (h : n ≠ 0) : (ofNat n).head? ≠ some '0' := by
  induction n using Nat.strong_induction_on with
  | _ n ih =>
    by_cases hn : n < 10
    · have hdigit : ∀ n < 10, n ≠ 0 → [n.digitChar].head? ≠ some '0' := by decide
      rw [ofNat, Nat.toDigits_of_lt_base hn]
      exact hdigit n hn h
    · have hquot : n / 10 ≠ 0 := by omega
      rw [ofNat, Nat.toDigits_of_base_le (by decide) (by omega), List.head?_append_of_ne_nil _ Nat.toDigits_ne_nil]
      exact ih (n / 10) (by omega) hquot

theorem isWhole_ofNat (n : Nat) : isWhole (ofNat n) = true := by
  by_cases hn : n = 0
  · subst hn
    rfl
  · unfold isWhole
    split
    · rename_i h
      exact absurd h Nat.toDigits_ne_nil
    · rename_i h
      exact absurd (by rw [h]; rfl) (head?_ofNat hn)
    · rfl

/-- More digits only make a number larger. -/
private theorem le_foldl_digits (n : Nat) (digits : Text) : n ≤ digits.foldl (fun n c => n * 10 + digit c) n := by
  induction digits generalizing n with
  | nil => exact Nat.le_refl n
  | cons c digits ih => exact Nat.le_trans (by omega) (ih (n * 10 + digit c))

private theorem wholeDigits_of_lt {significand : Nat} {digits : Text}
    (h : digits.foldl (fun n c => n * 10 + digit c) significand < significandBound) :
    wholeDigits significand 0 digits = (digits.foldl (fun n c => n * 10 + digit c) significand, 0) := by
  induction digits generalizing significand with
  | nil => rfl
  | cons c digits ih =>
    rw [List.foldl_cons] at h ⊢
    have hfits := Nat.lt_of_le_of_lt (le_foldl_digits _ digits) h
    simp only [wholeDigits, hfits, decide_true, Bool.and_self, if_true]
    exact ih h

theorem wholeDigits_ofNat {n : Nat} (h : n < significandBound) : wholeDigits 0 0 (ofNat n) = (n, 0) := by
  have hvalue : (ofNat n).foldl (fun n c => n * 10 + digit c) 0 = n := by
    have := Nat.ofDigitChars_ten_toDigits (n := n)
    rw [Nat.ofDigitChars_eq_foldl] at this
    simpa only [ofNat, digit, Nat.mul_comm] using this
  rw [wholeDigits_of_lt (by rwa [hvalue]), hvalue]

theorem spanDigits_ofNat (n : Nat) : spanDigits (ofNat n) = (ofNat n, []) :=
  span_of_forall fun _ hc => Nat.isDigit_of_mem_toDigits (by decide) (by decide) hc

theorem readUnsigned?_ofNat {minus : Bool} (n : Nat) :
    readUnsigned? minus (ofNat n) = some (ofDigits minus (ofNat n) none none, []) := by
  rw [readUnsigned?, spanDigits_ofNat, if_pos (isWhole_ofNat n)]
  rfl

/-! ### Numbers that survive -/

/-- The number is read back from its text. An integer is if it is one of 64 bits; of a float it has to be checked. -/
def IsKept : JsonNumber → Prop
  | natural n => n < 2 ^ 64
  | negative n => 0 < n ∧ n ≤ 2 ^ 63
  | float x => read? (Json.numberText (.float x)) = some (.float x, [])
  | tooLarge => False

theorem IsKept.of_text {x : Float} (text : Text) (htext : Json.numberText (.float x) = text)
    (hread : read? text = some (.float x, [])) : (float x).IsKept := by
  rw [IsKept, htext, hread]

/-- A number that survives is read back from its text. -/
theorem read?_numberText {n : JsonNumber} (h : n.IsKept) : read? (Json.numberText n) = some (n, []) := by
  cases n with
  | natural n =>
    have hhead : ∀ c ∈ (ofNat n).head?, c ≠ '-' := by
      rintro c hc rfl
      have := Nat.isDigit_of_mem_toDigits (by decide) (by decide) (List.mem_of_head? hc)
      exact absurd this (by decide)
    rw [Json.numberText, read?_of_head? hhead, readUnsigned?_ofNat, ofDigits, wholeDigits_ofNat h]
    rfl
  | negative n =>
    obtain ⟨hpos, hle⟩ := h
    have hbound : n < significandBound := lt_of_le_of_lt hle (by decide)
    have hrange : (n = 0 || 9223372036854775808 < n) = false := by simp; omega
    rw [Json.numberText, read?_minus, readUnsigned?_ofNat, ofDigits, wholeDigits_ofNat hbound]
    simp [hrange]
  | float x => exact h
  | tooLarge => exact absurd h id

end TrackerAudit.JsonNumber
