import RouteTemplate.Calendar
import RouteTemplate.Decimal.Notation

/-!
The values a caller may bind to a parameter name. The absent value stands for "not given". A named value is
a member of an enumeration; what mixes into the enumeration decides how a member compares and how it is
written as a key. A zone is what a clock reading says of its offset. The type of a value is a value too, known
by the value that it is the type of, and a method is known by its full name and by how what it is bound to is
shown. A thing is any other object, of which only its type and its text are known.
-/

set_option autoImplicit false

namespace RouteTemplate

/-- What the members of an enumeration are besides members. -/
inductive EnumerationKind where
  | plain
  | integer
  | string
  | textual
  | octets
  | integerFlag
  | flag
deriving Repr, DecidableEq

/-- A parameter value. -/
inductive Value where
  | absent
  | bool (b : Bool)
  | int (n : Int)
  | float (x : Binary64)
  | complex (re im : Binary64)
  | decimal (d : Decimal.Number)
  | fraction (q : Rat)
  | uuid (n : Nat)
  | bytes (octets : List UInt8)
  | bytearray (octets : List UInt8)
  | moment (day : Calendar.Day) (clock : Calendar.Clock)
  | day (d : Calendar.Day)
  | clock (c : Calendar.Clock)
  | duration (d : Calendar.Duration)
  | zone (offset : Int)
  | text (t : Text)
  | list (items : List Value)
  | tuple (items : List Value)
  | dict (entries : List (Value × Value))
  | member (owner : Text) (kind : EnumerationKind) (name : Text) (value : Value)
  | typeOf (v : Value)
  | boundMethod (name receiver : Text)
  | thing (owner shown : Text) (unprintable : Bool)

namespace Value

def typeName : Value → Text
  | absent => "NoneType"
  | bool _ => "bool"
  | int _ => "int"
  | float _ => "float"
  | complex _ _ => "complex"
  | decimal _ => "Decimal"
  | fraction _ => "Fraction"
  | uuid _ => "UUID"
  | bytes _ => "bytes"
  | bytearray _ => "bytearray"
  | moment _ _ => "datetime"
  | day _ => "date"
  | clock _ => "time"
  | duration _ => "timedelta"
  | zone _ => "timezone"
  | text _ => "str"
  | list _ => "list"
  | tuple _ => "tuple"
  | dict _ => "dict"
  | member owner _ _ _ => owner
  | typeOf (fraction _) => "ABCMeta"
  | typeOf (member _ _ _ _) => "EnumType"
  | typeOf _ => "type"
  | boundMethod _ _ => "method"
  | thing owner _ _ => owner

/-- The module that the value's type belongs to; none for a type that is at hand everywhere. -/
def typeHome? : Value → Option Text
  | decimal _ => some "decimal"
  | fraction _ => some "fractions"
  | uuid _ => some "uuid"
  | moment _ _ | day _ | clock _ | duration _ | zone _ => some "datetime"
  | member owner _ _ _ =>
    some (if owner = Text.ofString "SafeUUID" then "uuid" else if owner = Text.ofString "FlagBoundary" then "enum"
      else "__main__")
  | typeOf (fraction _) => some "abc"
  | typeOf (member _ _ _ _) => some "enum"
  | thing owner _ _ => if owner = Text.ofString "Obj" then some "__main__" else none
  | _ => none

def fullTypeName (v : Value) : Text :=
  match v.typeHome? with
  | some home => List.flatten [home, ".", v.typeName]
  | none => v.typeName

def typeText (v : Value) : Text :=
  match v with
  | member owner .integerFlag _ _ | member owner .flag _ _ => List.flatten ["<flag '", owner, "'>"]
  | member owner _ _ _ => List.flatten ["<enum '", owner, "'>"]
  | v => List.flatten ["<class '", v.fullTypeName, "'>"]

def isAbsent : Value → Bool
  | absent => true
  | _ => false

@[simp] theorem isAbsent_iff {v : Value} : v.isAbsent = true ↔ v = .absent := by
  cases v <;> simp [isAbsent]

end Value

end RouteTemplate
