import TrackerAudit.Decimal.Binary
import TrackerAudit.Text.Basic

/-!
# Shortest decimal text

The shortest decimal text of a floating-point number has the fewest digits that still round to it, and among those
the digits nearest to its exact value. The reals that round to a number form an interval; its ends belong to it when
the significand is even. A grid of multiples of a power of ten has a point in the interval exactly when one of the two
grid points next to the number is in it, so only these are tried, from the coarsest grid to the finest.
-/

namespace TrackerAudit.Decimal

/-- The interval of reals that round to a number, in quarters of a unit of the significand. -/
structure Interval where
  low : Nat
  mid : Nat
  high : Nat
  closed : Bool

/-- The reals that round to the number. -/
def Binary.interval (b : Binary) : Interval where
  low := 4 * b.significand - if b.closeBelow then 1 else 2
  mid := 4 * b.significand
  high := 4 * b.significand + 2
  closed := b.significand % 2 == 0

/-- Whether `c * step`, with the unit `1 / den`, lies in the interval scaled by `num`. -/
def Interval.has (i : Interval) (num den c step : Nat) : Bool :=
  let x := c * step * den
  if i.closed then i.low * num ≤ x && x ≤ i.high * num else i.low * num < x && x < i.high * num

/-- The multiple of `10 ^ k` that lies in the interval next to the number `mid * 2 ^ q`, if there is one. -/
def Interval.onGrid (i : Interval) (q k : Int) : Option Nat :=
  -- all quantities are brought to the denominator `den`, with `num` for a quarter and `step` for a grid unit
  let num := if 0 ≤ q then Nat.pow 2 q.toNat else 1
  let den := if 0 ≤ q then 1 else Nat.pow 2 (-q).toNat
  let num := if k < 0 then num * Nat.pow 10 (-k).toNat else num
  let step := if 0 ≤ k then Nat.pow 10 k.toNat else 1
  let unit := step * den
  let x := i.mid * num
  let below := x / unit
  let above := below + 1
  match i.has num den below step && below != 0, i.has num den above step with
  | true, true =>
    let d := 2 * (x % unit)
    if d < unit then some below else if unit < d then some above
    else if below % 2 = 0 then some below else some above
  | true, false => some below
  | false, true => some above
  | false, false => none

/-- The first hit on the grids `10 ^ k`, `10 ^ (k - 1)`, … . -/
def Interval.search (i : Interval) (q : Int) : (fuel : Nat) → (k : Int) → Nat × Int
  | 0, k => (0, k)
  | fuel + 1, k =>
    match i.onGrid q k with
    | some c => (c, k)
    | none => i.search q fuel (k - 1)

/-- The digits `c` and the exponent `k` of the shortest decimal `c * 10 ^ k` of a number that is not zero. No number
reaches `10 ^ 309`, and none needs a grid finer than `10 ^ (-324)`. -/
def Binary.shortest (b : Binary) : Nat × Int := b.interval.search (b.exponent - 2) 640 309

/-- How a decimal is laid out. -/
structure Layout where
  /-- the greatest number of digits before the point written without an exponent -/
  maxWhole : Nat
  /-- the greatest number of zeros right after the point written without an exponent -/
  maxZeros : Nat

/-- The digits `digits` with exponent `k` in the given layout, always with a point or an exponent. -/
def Layout.render (l : Layout) (digits : Text) (k : Int) : Text :=
  let whole := digits.length + k
  if 0 ≤ k && whole ≤ l.maxWhole then digits ++ List.replicate k.toNat '0' ++ ".0".toList
  else if 0 < whole && whole ≤ l.maxWhole then digits.take whole.toNat ++ '.' :: digits.drop whole.toNat
  else if -(l.maxZeros : Int) ≤ whole && whole ≤ 0 then
    "0.".toList ++ List.replicate (-whole).toNat '0' ++ digits
  else
    let exponent := whole - 1
    let mantissa := match digits with
      | [d] => [d]
      | d :: rest => d :: '.' :: rest
      | [] => []
    mantissa ++ 'e' :: (if exponent < 0 then '-' :: Text.ofNat exponent.natAbs else Text.ofNat exponent.natAbs)

/-- The shortest text of a finite number in the given layout. -/
def Layout.text? (l : Layout) (x : Float) : Option Text :=
  (Binary.ofFloat? x).map fun b =>
    (if b.negative then ['-'] else []) ++
      if b.significand = 0 then "0.0".toList
      else
        let (c, k) := b.shortest
        l.render (Text.ofNat c) k

end TrackerAudit.Decimal
