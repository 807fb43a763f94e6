import RouteTemplate.Text.Utf8

set_option autoImplicit false

namespace RouteTemplate.Percent

/-- Letters, digits and `_`, `.`, `-`, `~`: never escaped. -/
def isUnreserved (c : CodePoint) : Bool :=
  c.isAsciiLetter || c.isAsciiDigit || c = '_' || c = '.' || c = '-' || c = '~'

def triple (octet : UInt8) : Text :=
  ['%', CodePoint.upperHexDigit (octet.toNat / 16), CodePoint.upperHexDigit (octet.toNat % 16)]

/-- An octet as a character of its own if it is unreserved, else as a triple. -/
def encodeOctet (octet : UInt8) : Text :=
  let c : CodePoint := Fin.ofNat _ octet.toNat
  if isUnreserved c then [c] else triple octet

/-- The escaped form of octets. -/
def encode (octets : List UInt8) : Text := octets.flatMap encodeOctet

def encodeText (t : Text) : Except SurrogateRun Text := t.encode.map encode

def octet? (high low : CodePoint) : Option UInt8 :=
  match high.hexValue?, low.hexValue? with
  | some h, some l => some (UInt8.ofNat (16 * h + l))
  | _, _ => none

/-- The octets of a text, triples read as the octets they stand for. -/
def decode : Text → List UInt8
  | [] => []
  | [c] => c.utf8
  | [c, d] => c.utf8 ++ d.utf8
  | c :: high :: low :: rest =>
    match if c = '%' then octet? high low else none with
    | some octet => octet :: decode rest
    | none => c.utf8 ++ decode (high :: low :: rest)

/-- The text of the octets; what is no text becomes replacement marks. -/
def decodeText (t : Text) : Text := Text.ofOctetsLossy (decode t)

/-- Escapes the code points that `keep` refuses, and leaves triples that are already there alone. -/
def encodeAround (keep : CodePoint → Bool) : Text → Except SurrogateRun Text
  | [] => .ok []
  | c :: rest => do
    let escaped ←
      if isUnreserved c || keep c then pure [c]
      else Percent.encodeText [c]
    return escaped ++ (← encodeAround keep rest)

@[simp] theorem encode_nil : encode [] = [] := rfl

@[simp] theorem encode_append (a b : List UInt8) : encode (a ++ b) = encode a ++ encode b := by
  simp [encode]

end RouteTemplate.Percent
