import RouteTemplate.Decimal.Binary64

/-!
The fewest decimal digits that read back to a binary64 number. The decimals that read back form an interval
around the number; on the grid of `n` digits only its two neighbours can lie in it, and the first grid with
a neighbour inside wins. Of two neighbours inside the nearer is taken, on a tie the even one.
-/

set_option autoImplicit false

namespace RouteTemplate.Binary64

/-- Compares `a * 10 ^ i` with `b * 2 ^ j` by cross-multiplication. -/
def compareScaled (a : Nat) (i : Int) (b : Nat) (j : Int) : Ordering :=
  compare (a * 10 ^ i.toNat * 2 ^ (-j).toNat) (b * 2 ^ j.toNat * 10 ^ (-i).toNat)

/-- Does the decimal lie among the reals that round to `m * 2 ^ q`? The ends of the interval belong to it
exactly when `m` is even; below a power of two it is half as wide. -/
def readsBack (m : Nat) (q : Int) (d : Decimal.Scaled) : Bool :=
  let low := if m = 2 ^ 52 ∧ -1074 < q then 4 * m - 1 else 4 * m - 2
  let high := 4 * m + 2
  let closed := m % 2 == 0
  let fromLow := compareScaled d.digits d.exponent low (q - 2)
  let fromHigh := compareScaled d.digits d.exponent high (q - 2)
  (fromLow == .gt || (closed && fromLow == .eq)) && (fromHigh == .lt || (closed && fromHigh == .eq))

/-- The least `k` with `numerator / denominator < 10 ^ k`, for a positive quotient of at least
`10 ^ (-fuel)`. -/
def decimalPlace : (fuel : Nat) → (numerator denominator : Nat) → Int
  | 0, _, _ => 0
  | fuel + 1, numerator, denominator =>
    if denominator ≤ numerator then ((Nat.toDigits 10 (numerator / denominator)).length : Int)
    else if denominator ≤ 10 * numerator then 0
    else decimalPlace fuel (10 * numerator) denominator - 1

/-- Moves zeros at the end of the digits into the exponent. -/
def stripZeros : (fuel : Nat) → Decimal.Scaled → Decimal.Scaled
  | 0, d => d
  | fuel + 1, d => if d.digits % 10 = 0 then stripZeros fuel ⟨d.digits / 10, d.exponent + 1⟩ else d

/-- The best decimal of `n` digits that reads back to `m * 2 ^ q`, which lies below `10 ^ place`. -/
def candidate? (m : Nat) (q : Int) (place : Int) (n : Nat) : Option Decimal.Scaled :=
  let exponent := place - n
  let numerator := m * 2 ^ q.toNat * 10 ^ (-exponent).toNat
  let denominator := 2 ^ (-q).toNat * 10 ^ exponent.toNat
  let below := numerator / denominator
  let lower : Decimal.Scaled := ⟨below, exponent⟩
  let upper : Decimal.Scaled := ⟨below + 1, exponent⟩
  match readsBack m q lower, readsBack m q upper with
  | true, true =>
    match compare (2 * numerator) ((2 * below + 1) * denominator) with
    | .lt => some lower
    | .gt => some upper
    | .eq => some (if below % 2 = 0 then lower else upper)
  | true, false => some lower
  | false, true => some upper
  | false, false => none

/-- The fewest digits that read back to `m * 2 ^ q`, for a positive `m`. Seventeen always suffice; were
they not to, the exact value would be given. -/
def shortest (m : Nat) (q : Int) : Decimal.Scaled :=
  let place := decimalPlace 400 (m * 2 ^ q.toNat) (2 ^ (-q).toNat)
  match ((List.range 17).findSome? fun n => candidate? m q place (n + 1)) with
  | some d => stripZeros 20 d
  | none => if 0 ≤ q then ⟨m * 2 ^ q.toNat, 0⟩ else ⟨m * 5 ^ (-q).toNat, q⟩

end RouteTemplate.Binary64
