import TrackerAudit.Decimal.Binary
import TrackerAudit.Text.Basic

/-!
# Fixed decimal places

A number is written with a fixed number of decimal places by rounding its exact value, a half going to the even
neighbour.
-/

namespace TrackerAudit.Decimal

/-- `n` written with the point before the last `places` digits. -/
def pointed (n places : Nat) : Text :=
  let digits := Text.ofNat n
  let padded := List.replicate (places + 1 - digits.length) '0' ++ digits
  let whole := padded.take (padded.length - places)
  if places = 0 then whole else whole ++ '.' :: padded.drop (padded.length - places)

/-- The number with the given number of decimal places. -/
def fixed (places : Nat) (x : Float) : Text :=
  match Binary.ofFloat? x with
  | some b =>
    let (num, den) := scaled b.significand b.exponent
    (if b.negative then ['-'] else []) ++ pointed (roundDiv (num * Nat.pow 10 places) den) places
  | none => if x.isNaN then "NaN".toList else if x < 0 then "-inf".toList else "inf".toList

end TrackerAudit.Decimal
