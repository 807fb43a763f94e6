import RouteTemplate.Decimal.Literal

set_option autoImplicit false

namespace RouteTemplate

/-- A binary64 number. A finite one has `m < 2 ^ 53` and `-1074 ≤ q`, and `m ≥ 2 ^ 52` unless `q = -1074`. -/
inductive Binary64 where
  | finite (negative : Bool) (m : Nat) (q : Int)
  | infinite (negative : Bool)
  | nan
deriving Repr, DecidableEq

namespace Binary64

/-- The number held by 64 bits: sign, eleven bits of exponent, fifty-two of fraction. -/
def ofBits (bits : UInt64) : Binary64 :=
  let negative := bits.toNat / 2 ^ 63 == 1
  let exponent : Nat := bits.toNat / 2 ^ 52 % 2 ^ 11
  let fraction : Nat := bits.toNat % 2 ^ 52
  if exponent = 0x7FF then if fraction = 0 then .infinite negative else .nan
  else if exponent = 0 then .finite negative fraction (-1074)
  else .finite negative (2 ^ 52 + fraction) ((exponent : Int) - 1075)

/-- The number nearest to a decimal, ties to even. Decimals far outside the range are settled by their
size, so no large power is computed for them. -/
def ofScaled (negative : Bool) (d : Decimal.Scaled) : Binary64 :=
  let size := d.exponent + (Nat.toDigits 10 d.digits).length
  if d.digits = 0 || size < -330 then .finite negative 0 (-1074)
  else if 320 < size then .infinite negative
  else
    match ofBits (Float.ofScientific d.digits (decide (d.exponent < 0)) d.exponent.natAbs).toBits with
    | .finite _ m q => .finite negative m q
    | .infinite _ => .infinite negative
    | .nan => .nan

def isNegative : Binary64 → Bool
  | finite negative _ _ => negative
  | infinite negative => negative
  | nan => false

def toRat? : Binary64 → Option Rat
  | finite negative m q =>
    let size : Rat := if 0 ≤ q then ((m * 2 ^ q.toNat : Nat) : Rat) else mkRat m (2 ^ (-q).toNat)
    some (if negative then -size else size)
  | _ => none

end Binary64

end RouteTemplate
