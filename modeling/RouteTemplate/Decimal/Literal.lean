import RouteTemplate.Text.Basic

set_option autoImplicit false

-- The core library's powers, also where other instances are in scope.
attribute [instance (high), default_instance (high + 1)] instPowNat

namespace RouteTemplate.Decimal

/-- `digits * 10 ^ exponent`. -/
structure Scaled where
  digits : Nat
  exponent : Int
deriving Repr, DecidableEq

def digitsValue (t : Text) : Nat := t.foldl (fun n c => 10 * n + (c.val - 0x30)) 0

def isDigits (t : Text) : Bool := !t.isEmpty && t.all CodePoint.isAsciiDigit

def readInt? : Text → Option Int
  | [] => none
  | c :: rest =>
    if c = '-' then if isDigits rest then some (-(digitsValue rest : Int)) else none
    else if c = '+' then if isDigits rest then some (digitsValue rest) else none
    else if isDigits (c :: rest) then some (digitsValue (c :: rest)) else none

def splitSign : Text → Bool × Text
  | [] => (false, [])
  | c :: rest => if c = '-' then (true, rest) else if c = '+' then (false, rest) else (false, c :: rest)

/-- An unsigned numeral such as `12`, `1.50`, `.5` or `1e-7`. -/
def readScaled? (t : Text) : Option Scaled := do
  let (mantissa, exponent) :=
    match Text.splitFirst 'e' t.asciiLower with
    | some (mantissa, exponent) => (mantissa, readInt? exponent)
    | none => (t, some 0)
  let exponent ← exponent
  let (whole, fraction) := (Text.splitFirst '.' mantissa).getD (mantissa, [])
  if isDigits (whole ++ fraction) then
    some ⟨digitsValue (whole ++ fraction), exponent - fraction.length⟩
  else none

end RouteTemplate.Decimal
