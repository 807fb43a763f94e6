import RouteTemplate.ResolveError
import RouteTemplate.Table
import RouteTemplate.Text.Uppercase
import RouteTemplate.Value.Literal

/-!
The parts of a value that can be read by name: those of numbers, of dates and times, of members of an
enumeration, of identifiers and of types. They matter where the name of a parameter is a path with dots in it.
Methods, and the special attributes that every object has, are not listed one by one: a bag says itself what its values
and its own type have besides.
-/

set_option autoImplicit false

namespace RouteTemplate

namespace Value

def qualifiedTypeName : Value → Text
  | decimal _ => "decimal.Decimal"
  | moment _ _ => "datetime.datetime"
  | day _ => "datetime.date"
  | clock _ => "datetime.time"
  | duration _ => "datetime.timedelta"
  | zone _ => "datetime.timezone"
  | v => v.typeName

def intParts (n : Int) : List (Text × Value) :=
  [("real", .int n), ("imag", .int 0), ("numerator", .int n), ("denominator", .int 1)]

def dayParts (d : Calendar.Day) : List (Text × Value) :=
  [("year", .int d.year), ("month", .int d.month), ("day", .int d.day)]

def clockParts (c : Calendar.Clock) : List (Text × Value) :=
  [("hour", .int c.hour), ("minute", .int c.minute), ("second", .int c.second),
    ("microsecond", .int c.microsecond), ("fold", .int 0), ("tzinfo", c.offset.elim .absent .zone)]

def dayEnds : Calendar.Day × Calendar.Day := (⟨1, 1, 1⟩, ⟨9999, 12, 31⟩)

def clockEnds : Calendar.Clock × Calendar.Clock := (⟨0, 0, 0, 0, none⟩, ⟨23, 59, 59, 999999, none⟩)

/-- What the type of a value holds for all its values: the ends of its range and the step inside it. -/
def typeConstants : Value → List (Text × Value)
  | moment _ _ =>
    [("min", .moment dayEnds.1 clockEnds.1), ("max", .moment dayEnds.2 clockEnds.2),
      ("resolution", .duration (.of 0 0 1))]
  | day _ => [("min", .day dayEnds.1), ("max", .day dayEnds.2), ("resolution", .duration (.of 1 0 0))]
  | clock _ => [("min", .clock clockEnds.1), ("max", .clock clockEnds.2), ("resolution", .duration (.of 0 0 1))]
  | duration _ =>
    [("min", .duration (.of (-999999999) 0 0)), ("max", .duration (.of 999999999 86399 999999)),
      ("resolution", .duration (.of 0 0 1))]
  | zone _ => [("min", .zone (-86340)), ("max", .zone 86340), ("utc", .zone 0)]
  | _ => []

/-- The sixteen octets of an identifier, most significant first. -/
def uuidOctets (n : Nat) : List UInt8 := (List.range 16).map fun i => UInt8.ofNat (n / 256 ^ (15 - i) % 256)

def uuidParts (n : Nat) : List (Text × Value) :=
  let timeLow : Nat := n / 2 ^ 96
  let timeMid : Nat := n / 2 ^ 80 % 2 ^ 16
  let timeHigh : Nat := n / 2 ^ 64 % 2 ^ 16
  let clockHigh : Nat := n / 2 ^ 56 % 2 ^ 8
  let clockLow : Nat := n / 2 ^ 48 % 2 ^ 8
  let node : Nat := n % 2 ^ 48
  let octets := uuidOctets n
  let standard : Bool := clockHigh / 2 ^ 6 == 2
  let variant : Text :=
    if clockHigh / 2 ^ 7 = 0 then "reserved for NCS compatibility"
    else if standard then "specified in RFC 4122"
    else if clockHigh / 2 ^ 5 = 6 then "reserved for Microsoft compatibility"
    else "reserved for future definition"
  [("int", .int n), ("is_safe", .member "SafeUUID" .plain "unknown" .absent),
    ("bytes", .bytes octets),
    ("bytes_le", .bytes ((octets.take 4).reverse ++ ((octets.drop 4).take 2).reverse ++
      ((octets.drop 6).take 2).reverse ++ octets.drop 8)),
    ("fields", .tuple [.int timeLow, .int timeMid, .int timeHigh, .int clockHigh, .int clockLow, .int node]),
    ("time_low", .int timeLow), ("time_mid", .int timeMid), ("time_hi_version", .int timeHigh),
    ("clock_seq_hi_variant", .int clockHigh), ("clock_seq_low", .int clockLow),
    ("time", .int ((timeHigh % 2 ^ 12) * 2 ^ 48 + timeMid * 2 ^ 32 + timeLow : Nat)),
    ("clock_seq", .int (clockHigh % 2 ^ 6 * 2 ^ 8 + clockLow : Nat)), ("node", .int node),
    ("hex", .text (Text.hex 32 n)), ("urn", .text ("urn:uuid:" ++ uuidText n)), ("variant", .text variant),
    ("version", if standard then .int (timeHigh / 2 ^ 12 : Nat) else .absent)]

/-- Methods of the type of quotients. -/
def fractionTypeParts (q : Rat) : List (Text × Value) :=
  let type := typeText (.fraction q)
  [("from_float", .boundMethod "Fraction.from_float" type),
    ("from_decimal", .boundMethod "Fraction.from_decimal" type)]

def fractionParts (q : Rat) : List (Text × Value) :=
  let itself := literal (.fraction q)
  let own : List (Text × Value) :=
    [("real", .fraction q), ("imag", .int 0), ("numerator", .int q.num), ("denominator", .int q.den),
      ("_numerator", .int q.num), ("_denominator", .int q.den),
      ("as_integer_ratio", .boundMethod "Fraction.as_integer_ratio" itself),
      ("limit_denominator", .boundMethod "Fraction.limit_denominator" itself),
      ("conjugate", .boundMethod "Real.conjugate" itself)]
  own ++ fractionTypeParts q

/-- The names of the members of an enumeration with a single one. Where members are sets of flags, one that is
not a single flag does not count. -/
def memberNames (kind : EnumerationKind) (name : Text) (value : Value) : List Text :=
  match kind, value with
  | .integerFlag, int n | .flag, int n => if 0 < n && 2 ^ n.toNat.log2 = n.toNat then [name] else []
  | _, _ => [name]

def safetyMembers : List (Text × Value) :=
  [("safe", .member "SafeUUID" .plain "safe" (.int 0)), ("unsafe", .member "SafeUUID" .plain "unsafe" (.int (-1))),
    ("unknown", .member "SafeUUID" .plain "unknown" .absent)]

/-- The member that says how an enumeration of flags takes a flag that no member has. -/
def boundaryMember (boundary : String) : Value :=
  .member "FlagBoundary" .string (Text.ofString boundary).upper (.text boundary)

/-- The members of an enumeration under their names, given one of them. Most have no other. -/
def siblings (owner : Text) (kind : EnumerationKind) (name : Text) (value : Value) : List (Text × Value) :=
  if owner = Text.ofString "SafeUUID" then safetyMembers
  else if owner = Text.ofString "FlagBoundary" then
    ["strict", "conform", "eject", "keep"].map fun (boundary : String) =>
      ((Text.ofString boundary).upper, boundaryMember boundary)
  else [(name, .member owner kind name value)]

/-- Can the value be a key? Containers that change cannot, nor can what holds one. -/
def isKeyLike : Value → Bool
  | list _ | dict _ | bytearray _ => false
  | tuple items => allKeyLike items
  | _ => true
where
  /-- Can all values of a sequence be keys? -/
  allKeyLike : List Value → Bool
    | [] => true
    | item :: items => isKeyLike item && allKeyLike items

/-- The type that all types build on, given by a value of it. -/
def bareThing : Value := .thing "object" [] false

def baseType : EnumerationKind → Value
  | .integer | .integerFlag => .typeOf (.int 0)
  | .string | .textual => .typeOf (.text [])
  | .octets => .typeOf (.bytes [])
  | .plain | .flag => .typeOf bareThing

/-- What an enumeration of flags holds: the flags of its members, all flags below, and how it takes other flags. -/
def flagParts (kind : EnumerationKind) (value : Value) : List (Text × Value) :=
  let held (n : Int) (boundary : String) : List (Text × Value) :=
    [("_flag_mask_", .int n), ("_all_bits_", .int (if n ≤ 0 then 0 else 2 ^ (n.toNat.log2 + 1) - 1)),
      ("_boundary_", boundaryMember boundary),
      ("_inverted_", .absent)]
  match kind, value with
  | .integerFlag, int n => held n "keep"
  | .flag, int n => held n "strict"
  | _, _ => []

def enumerationParts (owner : Text) (kind : EnumerationKind) (name : Text) (value : Value) : List (Text × Value) :=
  let members := siblings owner kind name value
  let names := if members.length = 1 then memberNames kind name value else Table.keys members
  let values : List (Value × Value) := members.filterMap fun (_, m) =>
    match m with
    | member _ _ _ v => if v.isKeyLike then some (v, m) else none
    | _ => none
  let held : List (Text × Value) :=
    [("_member_names_", .list (names.map .text)), ("_member_map_", .dict (members.map fun (n, m) => (.text n, m))),
      ("_value2member_map_", .dict values), ("_unhashable_values_", .list (if value.isKeyLike then [] else [value])),
      ("_member_type_", baseType kind), ("_use_args_", .bool (kind ≠ .plain && kind ≠ .flag))]
  members ++ held ++ flagParts kind value

/-- The number that a member of an enumeration is, if its kind makes it one. -/
def memberNumber? (kind : EnumerationKind) (value : Value) : Option Int :=
  match kind, value with
  | .integer, int n | .integerFlag, int n => some n
  | _, _ => none

def durationParts (d : Calendar.Duration) : List (Text × Value) :=
  [("days", .int d.days), ("seconds", .int d.seconds), ("microseconds", .int d.fraction)]

def memberParts (owner : Text) (kind : EnumerationKind) (name : Text) (value : Value) : List (Text × Value) :=
  [("name", .text name), ("value", value), ("_name_", .text name), ("_value_", value),
    ("_sort_order_", .int ((Table.keys (siblings owner kind name value)).idxOf name : Nat)),
    ("__objclass__", .typeOf (.member owner kind name value))]

def typeNames (v : Value) : List (Text × Value) :=
  [("__name__", .text v.typeName), ("__qualname__", .text v.typeName),
    ("__module__", .text (v.typeHome?.getD "builtins"))]

/-- The types that the type of a value builds on before the one that all build on, nearest first, each given by a
value of it. -/
def ancestry : Value → List Value
  | bool _ => [.int 0]
  | fraction _ =>
    ["numbers.Rational", "numbers.Real", "numbers.Complex", "numbers.Number"].map fun (name : String) =>
      .thing (Text.ofString name) [] false
  | moment d _ => [.day d]
  | zone _ => [.thing "datetime.tzinfo" [] false]
  | member _ kind _ _ =>
    let enumeration (kind : EnumerationKind) (name : String) : Value := .member (Text.ofString name) kind [] .absent
    match kind with
    | .plain => [enumeration .plain "Enum"]
    | .integer => [enumeration .integer "IntEnum", .int 0, enumeration .plain "ReprEnum", enumeration .plain "Enum"]
    | .string => [enumeration .string "StrEnum", .text [], enumeration .plain "ReprEnum", enumeration .plain "Enum"]
    | .textual => [.text [], enumeration .plain "Enum"]
    | .octets => [.bytes [], enumeration .plain "Enum"]
    | .integerFlag =>
      [enumeration .integerFlag "IntFlag", .int 0, enumeration .plain "ReprEnum", enumeration .flag "Flag",
        enumeration .plain "Enum"]
    | .flag => [enumeration .flag "Flag", enumeration .plain "Enum"]
  | typeOf (fraction _) | typeOf (member _ _ _ _) => [.typeOf bareThing]
  | _ => []

/-- What the type of a value tells of the types that it builds on: all of them behind itself, and the ones named
when it was made. -/
def typeFamily (v : Value) : List (Text × Value) :=
  let above : List Value := if v.typeName = bareThing.typeName then [] else (ancestry v ++ [bareThing]).map .typeOf
  let named : Nat :=
    match v with
    | member _ .textual _ _ | member _ .octets _ _ => 2
    | _ => 1
  [("__mro__", .tuple (.typeOf v :: above)), ("__base__", above.head?.getD .absent),
    ("__bases__", .tuple (above.take named))]

/-- Places of a kind for parts that the values of a type have, as the type shows them. -/
def places (kind word type : Text) (names : List String) : List (Text × Value) :=
  names.map fun name =>
    (Text.ofString name, .thing kind (List.flatten ["<", word, " '", name, "' of '", type, "' objects>"]) false)

def numberPlaces : List (Text × Value) :=
  places "getset_descriptor" "attribute" "int" ["real", "imag", "numerator", "denominator"]

/-- What the type of a value shows under the names of parts that its values have. -/
def typePlaces : Value → List (Text × Value)
  | bool _ | int _ | member _ .integer _ _ | member _ .integerFlag _ _ => numberPlaces
  | float _ => places "getset_descriptor" "attribute" "float" ["real", "imag"]
  | complex _ _ => places "member_descriptor" "member" "complex" ["real", "imag"]
  | decimal _ => places "getset_descriptor" "attribute" "decimal.Decimal" ["real", "imag"]
  | fraction _ => places "member_descriptor" "member" "Fraction" ["_numerator", "_denominator"]
  | uuid _ => places "member_descriptor" "member" "UUID" ["int", "is_safe"]
  | day _ => places "getset_descriptor" "attribute" "datetime.date" ["year", "month", "day"]
  | moment _ _ =>
    places "getset_descriptor" "attribute" "datetime.date" ["year", "month", "day"] ++
      places "getset_descriptor" "attribute" "datetime.datetime"
        ["hour", "minute", "second", "microsecond", "tzinfo", "fold"]
  | clock _ =>
    places "getset_descriptor" "attribute" "datetime.time"
      ["hour", "minute", "second", "microsecond", "tzinfo", "fold"]
  | duration _ => places "member_descriptor" "member" "datetime.timedelta" ["days", "seconds", "microseconds"]
  | _ => []

def typeParts (v : Value) : List (Text × Value) := typeNames v ++ typeFamily v ++ typePlaces v

def membersView (owner : Text) (kind : EnumerationKind) (name : Text) (value : Value) : Value :=
  let members : Value := .dict ((siblings owner kind name value).map fun (n, m) => (.text n, m))
  .thing "mappingproxy" members.literal false

/-- The parts of a value under their names; of several under one name the first counts. -/
def parts : Value → List (Text × Value)
  | bool b => intParts (if b then 1 else 0)
  | int n => intParts n
  | float x => [("real", .float x), ("imag", .float (.finite false 0 (-1074)))]
  | complex re im => [("real", .float re), ("imag", .float im)]
  | decimal d => [("real", .decimal d), ("imag", .decimal (.finite false 0 0))]
  | fraction q => fractionParts q
  | uuid n => uuidParts n
  | moment d c => dayParts d ++ clockParts c ++ typeConstants (.moment d c)
  | day d => dayParts d ++ typeConstants (.day d)
  | clock c => clockParts c ++ typeConstants (.clock c)
  | duration d => durationParts d ++ typeConstants (.duration d)
  | zone offset => typeConstants (.zone offset)
  | member owner kind name value =>
    memberParts owner kind name value ++ enumerationParts owner kind name value ++
      (memberNumber? kind value).elim [] intParts
  | typeOf (member owner kind name value) =>
    enumerationParts owner kind name value ++
      [(("__members__" : Text), membersView owner kind name value)] ++ typeParts (.member owner kind name value)
  | typeOf (fraction q) => fractionTypeParts q ++ typeParts (.fraction q)
  | typeOf v => typeConstants v ++ typeParts v
  | boundMethod name _ =>
    [(("__name__" : Text), .text (((Text.splitLast '.' name).map Prod.snd).getD name)), ("__qualname__", .text name)]
  | _ => []

/-- Does the type of a value tell its home to its values too? -/
def tellsHome : Value → Bool
  | decimal _ | fraction _ | uuid _ | member _ _ _ _ | thing _ _ _ => true
  | _ => false

/-- A part of a value by its name. Every value has its type as a part, and some have the home of their type. -/
def part? (v : Value) (name : Text) : Option Value :=
  match Table.get? name v.parts with
  | some part => some part
  | none =>
    if name = Text.ofString "__class__" then some (.typeOf v)
    else if name = Text.ofString "__module__" && v.tellsHome then v.typeHome?.map .text
    else none

/-- What is told to lack a part. -/
def partOwner : Value → AttributeOwner
  | typeOf (member _ _ _ _) => .enumeration
  | typeOf v => .classObject v.qualifiedTypeName
  | boundMethod _ _ => .object "function"
  | v => .object v.qualifiedTypeName

end Value

/-- What reading an attribute comes to that is not listed here. -/
inductive Attribute where
  | held (v : Value)
  | raising (kind message : Text)

/-- The attributes that a bag has from its type, and those that values have from theirs, besides the ones listed here. -/
structure Inherited where
  ofBag : Text → Option Value := fun _ => none
  ofValue : Value → Text → Option Attribute := fun _ _ => none

/-- Reads an attribute of a value: one of its parts, else what it has from its type besides. -/
def Inherited.read (above : Inherited) (v : Value) (name : Text) : Except ResolveError Value :=
  match v.part? name, above.ofValue v name with
  | some part, _ => .ok part
  | none, some (.held w) => .ok w
  | none, some (.raising kind message) => .error (.raised kind message)
  | none, none => .error (.noAttribute v.partOwner name)

end RouteTemplate
