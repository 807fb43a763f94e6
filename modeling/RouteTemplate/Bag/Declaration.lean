import RouteTemplate.Table
import RouteTemplate.Value.Equality

set_option autoImplicit false

namespace RouteTemplate

/-- What a computed attribute does when it is read. -/
inductive Computation where
  | returns (v : Value)
  | reads (other : Text)
  | raises (kind message : Text)
deriving DecidableEq

/-- Whether a declared field is kept by the object, by the class, or only passed on at construction. -/
inductive FieldKind where
  | kept
  | ofClass
  | passedOn
deriving Repr, DecidableEq

structure Field where
  name : Text
  kind : FieldKind
  default : Option Value
deriving DecidableEq

/-- A declared field of a validated class. From outside it goes by its outer name, and it may be taken under yet
another name from what an object is made from. -/
structure RecordField where
  name : Text
  outerName : Option Text
  takenUnder : Option Text
  default : Option Value
deriving DecidableEq

/-- What a validated class says of all its fields: whether its objects keep values that no field takes, whether a
field may be given under its own name beside its outer one, and whether outer names are made by upper-casing. -/
structure RecordOptions where
  extras : Option Bool := none
  byName : Option Bool := none
  upperAliases : Bool := false
deriving Repr, DecidableEq

/-- The slots that a class lists: names in a row, or a single name that stands on its own. -/
inductive SlotListing where
  | several (names : List Text)
  | single (name : Text)
deriving Repr, DecidableEq

/-- The names listed. A single name is one slot and not a row of letters. -/
def SlotListing.names : SlotListing → List Text
  | several names => names
  | single name => [name]

instance : Coe (List Text) SlotListing := ⟨.several⟩

/-- How a class keeps the values of its objects. -/
inductive ClassKind where
  | plain
  | slotted (slots : SlotListing)
  | namedTuple (fields : List Text)
  | dataclass (fields : List Field) (slotted : Bool)
  | record (fields : List RecordField) (options : RecordOptions)
deriving DecidableEq

/-- The declaration of a class. The places for values that it adds to its objects are settled when the class is
declared. -/
structure ClassDecl where
  name : Text
  kind : ClassKind := .plain
  bases : List Text := []
  computed : List (Text × Computation) := []
  attributes : List (Text × Value) := []
  places : List Text := []
deriving DecidableEq

/-- What a class holds under a name: a computed attribute, a place in its objects, or a value. -/
inductive ClassMember where
  | computed (body : Computation)
  | slot
  | element (index : Nat)
  | constant (v : Value)

/-- Is the name public: one that starts with no underscore? -/
def isPublicName (name : Text) : Bool := name.head? ≠ some (CodePoint.ofChar '_')

namespace ClassDecl

/-- The names that the declaration itself binds to values of the class. -/
def constant? (d : ClassDecl) (name : Text) : Option Value :=
  match Table.get? name d.attributes with
  | some v => some v
  | none =>
    match d.kind with
    | .dataclass fields slotted =>
      (fields.find? fun f => f.name = name).bind fun f =>
        if slotted && f.kind = .kept then none else f.default
    | _ => none

/-- What the declaration itself binds to a name. -/
def member? (d : ClassDecl) (name : Text) : Option ClassMember :=
  match Table.get? name d.computed, d.constant? name with
  | some body, _ => some (.computed body)
  | none, some v => some (.constant v)
  | none, none =>
    if name ∈ d.places then some .slot
    else
      match d.kind with
      | .namedTuple fields => (fields.idxOf? name).map .element
      | _ => none

def isOpen (d : ClassDecl) : Bool :=
  match d.kind with
  | .plain => true
  | .slotted slots => slots.names.contains "__dict__"
  | .namedTuple _ => false
  | .dataclass _ slotted => !slotted
  | .record _ _ => true

def isDataclass (d : ClassDecl) : Bool :=
  match d.kind with
  | .dataclass _ _ => true
  | _ => false

def isRecord (d : ClassDecl) : Bool :=
  match d.kind with
  | .record _ _ => true
  | _ => false

def fields (d : ClassDecl) : List Field :=
  match d.kind with
  | .dataclass fields _ => fields
  | _ => []

def recordFields (d : ClassDecl) : List RecordField :=
  match d.kind with
  | .record fields _ => fields
  | _ => []

def recordOptions (d : ClassDecl) : RecordOptions :=
  match d.kind with
  | .record _ options => options
  | _ => {}

/-- The public names bound by the declaration to anything, in its order; places stand in the order of their names. -/
def publicMembers (d : ClassDecl) : List Text :=
  let elements := match d.kind with
    | .namedTuple fields => fields
    | _ => []
  let places := d.places.mergeSort fun a b => !decide (b < a)
  ((Table.keys d.attributes ++ Table.keys d.computed ++ places ++ elements).filter isPublicName).eraseDups

end ClassDecl

end RouteTemplate
