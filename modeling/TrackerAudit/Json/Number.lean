import TrackerAudit.Json.Basic

/-!
# Reading JSON numbers

The digits of a number are collected into a significand of 64 bits. A digit for which there is no more room counts
only by its place. A number with a fraction or an exponent, or beyond the range of the integers, becomes a float: the
significand, scaled by a power of ten with floating-point arithmetic.
-/

namespace TrackerAudit.JsonNumber

open Text

/-- One more than the greatest significand. -/
def significandBound : Nat := 18446744073709551616

/-- The greatest exponent that can be written. -/
def maxExponent : Nat := 2147483647

/-- The value of a decimal digit. -/
def digit (c : Char) : Nat := c.toNat - '0'.toNat

/-- Collect the digits of the whole part into the significand, and count those for which there is no room. -/
def wholeDigits : (significand dropped : Nat) → Text → Nat × Nat
  | s, dropped, [] => (s, dropped)
  | s, dropped, c :: cs =>
    if dropped = 0 && s * 10 + digit c < significandBound then wholeDigits (s * 10 + digit c) 0 cs
    else wholeDigits s (dropped + 1) cs

/-- Collect the digits of the fraction into the significand up to the first one without room, and count them. -/
def fractionDigits : (significand taken : Nat) → Text → Nat × Nat
  | s, taken, [] => (s, taken)
  | s, taken, c :: cs =>
    if s * 10 + digit c < significandBound then fractionDigits (s * 10 + digit c) (taken + 1) cs else (s, taken)

/-- Ten to the power `n`, as a float. -/
def powerOfTen (n : Nat) : Float := Float.ofScientific 1 false n

/-- `x` times ten to the power `k`. A number that is not zero becomes zero after three divisions at the latest. -/
def scale : (fuel : Nat) → (x : Float) → (k : Int) → JsonNumber
  | 0, x, _ => .float x
  | fuel + 1, x, k =>
    if k.natAbs ≤ 308 then
      if 0 ≤ k then
        let y := x * powerOfTen k.toNat
        if y.isInf then .tooLarge else .float y
      else .float (x / powerOfTen k.natAbs)
    else if x == 0 then .float x
    else if 0 ≤ k then .tooLarge
    else scale fuel (x / powerOfTen 308) (k + 308)

/-- The number with the other sign. -/
def negate : JsonNumber → JsonNumber
  | float x => float (-x)
  | n => n

/-- The exponent, if it can be written. -/
def exponent? (digits : Text) : Option Nat :=
  let n := digits.foldl (fun n c => n * 10 + digit c) 0
  if n ≤ maxExponent then some n else none

/-- The number with the given digits. `exponent` is the sign and the digits of an exponent. -/
def ofDigits (minus : Bool) (whole : Text) (fraction : Option Text) (exponent : Option (Bool × Text)) :
    JsonNumber :=
  let (s, dropped) := wholeDigits 0 0 whole
  let sign := fun n : JsonNumber => if minus then n.negate else n
  match fraction, exponent with
  | none, none =>
    if dropped != 0 then sign (scale 4 (Float.ofNat s) dropped)
    else if !minus then .natural s
    else if s = 0 || 9223372036854775808 < s then .float (-(Float.ofNat s))
    else .negative s
  | fraction, exponent =>
    let (s, taken) := fractionDigits s 0 (fraction.getD [])
    let start := (dropped : Int) - taken
    match exponent with
    | none => sign (scale 4 (Float.ofNat s) start)
    | some (down, digits) =>
      match exponent? digits with
      | some e => sign (scale 4 (Float.ofNat s) (if down then start - e else start + e))
      | none => if s != 0 && !down then .tooLarge else sign (.float 0)

/-- Decimal digits at the start of a text, and the rest. -/
def spanDigits (s : Text) : Text × Text := s.span Char.isDigit

/-- Read the exponent of a number, if there is one: its sign and its digits. -/
def readExponent? : Text → Option (Option (Bool × Text) × Text)
  | c :: s =>
    if c == 'e' || c == 'E' then
      let (down, s) := match s with
        | '+' :: s => (false, s)
        | '-' :: s => (true, s)
        | s => (false, s)
      match spanDigits s with
      | ([], _) => none
      | (digits, rest) => some (some (down, digits), rest)
    else some (none, c :: s)
  | [] => some (none, [])

/-- Read the fraction of a number, if there is one: its digits. -/
def readFraction? : Text → Option (Option Text × Text)
  | '.' :: s =>
    match spanDigits s with
    | ([], _) => none
    | (digits, rest) => some (some digits, rest)
  | s => some (none, s)

/-- Read a number. The whole part has no leading zeros. -/
def read? (s : Text) : Option (JsonNumber × Text) := do
  let (minus, s) := match s with
    | '-' :: s => (true, s)
    | s => (false, s)
  let (whole, s) := spanDigits s
  match whole with
  | [] => none
  | '0' :: _ :: _ => none
  | _ =>
    let (fraction, s) ← readFraction? s
    let (exponent, s) ← readExponent? s
    return (ofDigits minus whole fraction exponent, s)

end TrackerAudit.JsonNumber
