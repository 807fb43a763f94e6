import RouteTemplate.Decimal.Shortest

set_option autoImplicit false

namespace RouteTemplate

namespace Decimal

/-- Digits with the point set before the one at `place`, with zeros where the point lies outside them. -/
def positional (digits : Text) (place : Int) : Text × Text :=
  if place ≤ 0 then ("0", List.replicate (-place).toNat (CodePoint.ofChar '0') ++ digits)
  else if digits.length ≤ place.toNat then
    (digits ++ List.replicate (place.toNat - digits.length) (CodePoint.ofChar '0'), [])
  else (digits.take place.toNat, digits.drop place.toNat)

def withFraction : Text × Text → Text
  | (whole, []) => whole
  | (whole, fraction) => List.flatten [whole, ".", fraction]

/-- An integer with its sign always written. -/
def signedExponent (width : Nat) (n : Int) : Text :=
  (if n < 0 then CodePoint.ofChar '-' else CodePoint.ofChar '+') :: Text.padded width n.natAbs

/-- A decimal number as it was written: the places of the coefficient count. -/
inductive Number where
  | finite (negative : Bool) (coefficient : Nat) (exponent : Int)
  | infinite (negative : Bool)
  | nan (negative signaling : Bool) (payload : Text)
deriving Repr, DecidableEq

namespace Number

/-- Reads the payload of a NaN: digits, without zeros in front. -/
def readPayload? (t : Text) : Option Text :=
  if t.all CodePoint.isAsciiDigit then some (t.dropWhile fun (c : CodePoint) => c = '0') else none

/-- Reads a decimal number, an infinity or a NaN with an optional payload of digits. -/
def read? (t : Text) : Option Number :=
  let (negative, body) := splitSign t
  let word := body.asciiLower
  if word = Text.ofString "inf" || word = Text.ofString "infinity" then some (.infinite negative)
  else
    match Text.afterStart? "nan" word, Text.afterStart? "snan" word with
    | some payload, _ => (readPayload? payload).map (.nan negative false)
    | _, some payload => (readPayload? payload).map (.nan negative true)
    | none, none => (readScaled? body).map fun d => .finite negative d.digits d.exponent

def toRat? : Number → Option Rat
  | finite negative coefficient exponent =>
    let size : Rat :=
      if 0 ≤ exponent then ((coefficient * 10 ^ exponent.toNat : Nat) : Rat)
      else mkRat coefficient (10 ^ (-exponent).toNat)
    some (if negative then -size else size)
  | _ => none

def magnitudeText (coefficient : Nat) (exponent : Int) : Text :=
  let digits := Text.ofNat coefficient
  let place := exponent + digits.length
  if exponent ≤ 0 ∧ -6 < place then withFraction (positional digits place)
  else List.flatten [withFraction (positional digits 1), "E", signedExponent 1 (place - 1)]

/-- The text of a decimal number; the sign of a zero and of a NaN is written too. -/
def text : Number → Text
  | finite negative coefficient exponent =>
    (if negative then "-" else "") ++ magnitudeText coefficient exponent
  | infinite negative => if negative then "-Infinity" else "Infinity"
  | nan negative signaling payload =>
    List.flatten [if negative then "-" else "", if signaling then "sNaN" else "NaN", payload]

end Number

end Decimal

namespace Binary64

/-- The text of a positive finite number; `pointZero` says whether an integer keeps a fraction. -/
def magnitudeText (pointZero : Bool) (m : Nat) (q : Int) : Text :=
  let d := if m = 0 then ⟨0, 0⟩ else shortest m q
  let digits := Text.ofNat d.digits
  let place := d.exponent + digits.length
  if -4 < place ∧ place ≤ 16 then
    match Decimal.positional digits place with
    | (whole, []) => if pointZero then whole ++ ".0" else whole
    | parts => Decimal.withFraction parts
  else List.flatten [Decimal.withFraction (Decimal.positional digits 1), "e", Decimal.signedExponent 2 (place - 1)]

/-- The text of a binary number, with `pointZero` as in `magnitudeText`. -/
def textWith (pointZero : Bool) : Binary64 → Text
  | finite negative m q => (if negative then "-" else "") ++ magnitudeText pointZero m q
  | infinite negative => if negative then "-inf" else "inf"
  | nan => "nan"

/-- The text of a binary number on its own: an integer keeps its `.0`. -/
def text (x : Binary64) : Text := textWith true x

/-- The text of a complex number. The real part is left out when it is plus zero; parts have no `.0`. -/
def complexText (re im : Binary64) : Text :=
  match re with
  | finite false 0 _ => textWith false im ++ "j"
  | _ =>
    let sign := if im.isNegative then "" else "+"
    List.flatten ["(", textWith false re, sign, textWith false im, "j)"]

def read? (t : Text) : Option Binary64 :=
  let (negative, body) := Decimal.splitSign t
  let word := body.asciiLower
  if word = Text.ofString "nan" then some nan
  else if word = Text.ofString "inf" || word = Text.ofString "infinity" then some (infinite negative)
  else (Decimal.readScaled? body).map (ofScaled negative)

end Binary64

end RouteTemplate
