import RouteTemplate.Value.Basic
import RouteTemplate.Text.Quoted

/-!
The two texts of a value. The literal form is what stands inside brackets: texts and octets quoted, numbers
and dates as the calls that build them. The plain form is what a value shows on its own; it fails for a value whose
text cannot be had, and for one that holds an integer with too many digits.
-/

set_option autoImplicit false

namespace RouteTemplate

/-- The text of a thing could not be had; the reason is its own. -/
structure Unprintable where
  reason : Text
deriving Repr, DecidableEq

/-- The most digits that an integer is written with. -/
def maxDigits : Nat := 4300

def isOverlong (n : Int) : Bool := maxDigits < (Text.ofNat n.natAbs).length

def Unprintable.tooManyDigits : Unprintable where
  reason := List.flatten ["Exceeds the limit (", Text.ofNat maxDigits,
    " digits) for integer string conversion; use sys.set_int_max_str_digits() to increase the limit"]

def uuidText (n : Nat) : Text :=
  let digits := Text.hex 32 n
  Text.joinWith "-" [digits.take 8, (digits.drop 8).take 4, (digits.drop 12).take 4, (digits.drop 16).take 4,
    digits.drop 20]

/-- A quotient in lowest terms, as a numeral when it is whole. -/
def fractionText (q : Rat) : Text :=
  if q.den = 1 then Text.ofInt q.num else List.flatten [Text.ofInt q.num, "/", Text.ofNat q.den]

def truthName (b : Bool) : Text := if b then "True" else "False"

namespace Value

mutual

/-- The form of a value inside brackets. -/
def literal : Value → Text
  | absent => "None"
  | bool b => truthName b
  | int n => Text.ofInt n
  | float x => x.text
  | complex re im => Binary64.complexText re im
  | decimal d => List.flatten ["Decimal('", d.text, "')"]
  | fraction q => List.flatten ["Fraction(", Text.ofInt q.num, ", ", Text.ofNat q.den, ")"]
  | uuid n => List.flatten ["UUID('", uuidText n, "')"]
  | bytes octets => Text.quotedOctets octets
  | bytearray octets => List.flatten ["bytearray(", Text.quotedBuffer octets, ")"]
  | moment d c => Calendar.dayClockLiteral d c
  | day d => d.literal
  | clock c => c.literal
  | duration d => d.literal
  | zone offset => Calendar.zoneLiteral offset
  | text t => t.quoted
  | list items => List.flatten ["[", Text.joinWith ", " (literals items), "]"]
  | tuple items =>
    match literals items with
    | [item] => List.flatten ["(", item, ",)"]
    | texts => List.flatten ["(", Text.joinWith ", " texts, ")"]
  | dict entries => List.flatten ["\x7b", Text.joinWith ", " (entryLiterals entries), "\x7d"]
  | member owner _ name value => List.flatten ["<", owner, ".", name, ": ", literal value, ">"]
  | typeOf v => v.typeText
  | boundMethod name receiver => List.flatten ["<bound method ", name, " of ", receiver, ">"]
  | thing _ shown _ => List.flatten ["<", shown, ">"]

def literals : List Value → List Text
  | [] => []
  | item :: items => literal item :: literals items

def entryLiterals : List (Value × Value) → List Text
  | [] => []
  | (key, value) :: entries => List.flatten [literal key, ": ", literal value] :: entryLiterals entries

end

mutual

/-- Does the form of a value inside brackets hold an integer with too many digits? -/
def holdsOverlong : Value → Bool
  | int n => isOverlong n
  | fraction q => isOverlong q.num || isOverlong q.den
  | list items | tuple items => anyOverlong items
  | dict entries => entriesOverlong entries
  | member _ _ _ value => holdsOverlong value
  | _ => false

def anyOverlong : List Value → Bool
  | [] => false
  | item :: items => holdsOverlong item || anyOverlong items

def entriesOverlong : List (Value × Value) → Bool
  | [] => false
  | (key, value) :: entries => holdsOverlong key || holdsOverlong value || entriesOverlong entries

end

/-- The text of a value on its own. A member of an enumeration shows its name, unless its kind makes it
an integer or a string in the first place. -/
def plain : Value → Except Unprintable Text
  | text t => .ok t
  | thing _ shown unprintable => if unprintable then .error ⟨shown⟩ else .ok shown
  | decimal d => .ok d.text
  | fraction q => if (fraction q).holdsOverlong then .error .tooManyDigits else .ok (fractionText q)
  | uuid n => .ok (uuidText n)
  | moment d c => .ok (Calendar.dayClockIso " " d c)
  | day d => .ok d.iso
  | clock c => .ok c.iso
  | duration d => .ok d.text
  | zone offset => .ok (Calendar.zoneText offset)
  | member owner kind name value =>
    match kind with
    | .integer | .integerFlag | .string => plain value
    | _ => .ok (List.flatten [owner, ".", name])
  | v => if v.holdsOverlong then .error .tooManyDigits else .ok v.literal

end Value

end RouteTemplate
