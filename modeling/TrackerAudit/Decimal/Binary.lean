/-!
# The exact value of a floating-point number

A finite floating-point number is `m * 2 ^ q` with a natural number `m` below `2 ^ 53` and an integer `q`, up to its
sign. All decimal output starts from these two numbers and goes on in exact arithmetic.
-/

namespace TrackerAudit.Decimal

/-- The sign, significand and binary exponent of a floating-point number. -/
structure Binary where
  negative : Bool
  significand : Nat
  exponent : Int
  /-- the number below is only half a unit away, as below the powers of two -/
  closeBelow : Bool

/-- The exact value of a finite number; `none` for infinities and not-a-number. -/
def Binary.ofFloat? (x : Float) : Option Binary :=
  let bits : Nat := x.toBits.toNat
  let fraction : Nat := bits % Nat.pow 2 52
  let field : Nat := bits / Nat.pow 2 52 % Nat.pow 2 11
  let negative := bits / Nat.pow 2 63 == 1
  if field = 2047 then none
  else if field = 0 then some ⟨negative, fraction, -1074, false⟩
  else some ⟨negative, Nat.pow 2 52 + fraction, (field : Int) - 1075, fraction == 0 && 1 < field⟩

/-- Numerator and denominator of `n * 2 ^ q`. -/
def scaled (n : Nat) (q : Int) : Nat × Nat :=
  if 0 ≤ q then (n * Nat.pow 2 q.toNat, 1) else (n, Nat.pow 2 (-q).toNat)

/-- The quotient rounded to the nearest integer, an exact half to the even one. -/
def roundDiv (num den : Nat) : Nat :=
  let q := num / den
  let r := num % den
  if 2 * r < den then q else if den < 2 * r then q + 1 else if q % 2 = 0 then q else q + 1

end TrackerAudit.Decimal
