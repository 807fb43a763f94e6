import RouteTemplate.Bag.Shape
import RouteTemplate.Text.Lowercase

set_option autoImplicit false

namespace RouteTemplate

/-- How one value is read from a bag. -/
inductive Reader where
  | entry (index : Nat)
  | slot (name : Text)
  | path (names : List Text)
deriving Repr, DecidableEq

structure Accessor where
  name : Text
  reader : Reader
deriving Repr, DecidableEq

/-- The accessors of a bag shape in order, with an index from names in lower case. -/
structure Accessors where
  toList : List Accessor
  index : List (Text × Accessor)
deriving Repr, DecidableEq

namespace Accessors

/-- Enters an accessor under its name in lower case, unless an earlier one is there. -/
def enter (index : List (Text × Accessor)) (a : Accessor) : List (Text × Accessor) :=
  if (Table.get? a.name.lower index).isSome then index else index ++ [(a.name.lower, a)]

/-- Accessors in order; the first of several that differ in case alone is the one that is found. -/
def ofList (accessors : List Accessor) : Accessors := ⟨accessors, accessors.foldl enter []⟩

/-- The accessor of a name, whatever its case. -/
def find? (accessors : Accessors) (name : Text) : Option Accessor := Table.get? name.lower accessors.index

def names (accessors : Accessors) : List Text := accessors.toList.map Accessor.name

end Accessors

namespace Bag

/-- The accessor that follows a name as a path of attributes. -/
def pathAccessor (name : Text) : Accessor := ⟨name, .path (Text.splitOn '.' name)⟩

/-- Accessors of names, with those of computed attributes behind them that no name shadows. -/
def withComputed (accessors : List Accessor) (computed : List Text) : List Accessor :=
  let taken := accessors.map Accessor.name
  accessors ++ (computed.filter fun name => !(taken.contains name)).map pathAccessor

/-- One accessor for each entry of a mapping, named by the text of its key. -/
def entryAccessors : (index : Nat) → List (Value × Value) → Except ResolveError (List Accessor)
  | _, [] => .ok []
  | index, (key, _) :: entries =>
    match key.plain with
    | .error e => .error (.unprintable e.reason)
    | .ok name => (entryAccessors (index + 1) entries).map (⟨name, .entry index⟩ :: ·)

/-- The accessors of the objects of a class in the order of their names, given those that an object brings itself. -/
def classAccessors (c : Class) (own : List Text) : List Accessor :=
  if c.isRecord then
    (c.recordFields.map fun f => ⟨f.parameterName, .path (Text.splitOn '.' f.name)⟩) ++ own.map pathAccessor
  else if c.isDataclass then c.fields.map fun f => pathAccessor f.name
  else
    match c.elements? with
    | some names => names.map pathAccessor
    | none =>
      if c.isOpen then withComputed (own.map pathAccessor) c.computedNames
      else withComputed (c.slotNames.map fun name => ⟨name, .slot name⟩) c.computedNames

def fractionAccessors : List Accessor :=
  ["real", "imag", "numerator", "denominator"].map fun (name : String) => pathAccessor name

def uuidAccessors (n : Nat) : List Accessor :=
  (Table.keys (Value.uuidParts n)).map fun name =>
    if name = Text.ofString "int" || name = Text.ofString "is_safe" then ⟨name, .slot name⟩
    else pathAccessor name

/-- The accessors of a bag, before they are indexed. -/
def accessorList : Bag → Except ResolveError (List Accessor)
  | mapping _ entries => entryAccessors 0 entries
  | object o => .ok (classAccessors o.cls o.ownNames)
  | bundle attributes _ => .ok (((Table.keys attributes).filter isPublicName).map pathAccessor)
  | classItself c _ =>
    .ok (if c.isDataclass then c.fields.map fun f => pathAccessor f.name
      else c.publicMembers.map pathAccessor)
  | plainValue (.fraction _) => .ok fractionAccessors
  | plainValue (.uuid n) => .ok (uuidAccessors n)
  | plainValue (.member _ _ _ _) => .ok []
  | plainValue (.thing _ _ _) => .ok []
  | plainValue v => .error (.unsupported v.typeName)
  | function => .ok []
  | bare => .error (.unsupported "object")

def accessors (bag : Bag) : Except ResolveError Accessors := bag.accessorList.map Accessors.ofList

/-- What the bag and the values on a path from it have from their types. Only bags that are read by names of a
caller's choice have any use for it. -/
def above : Bag → Inherited
  | object o => o.above
  | bundle _ above | classItself _ above => above
  | _ => {}

def readAttribute (bag : Bag) (name : Text) : Except ResolveError Value :=
  match bag with
  | object o => o.readAttribute name
  | bundle attributes above =>
    match (Table.get? name attributes).or (above.ofBag name) with
    | some v => .ok v
    | none => .error (.noAttribute (.object "types.SimpleNamespace") name)
  | classItself c above => c.readAttribute above name
  | plainValue v => bag.above.read v name
  | other => .error (.noAttribute (.object other.typeName) name)

/-- Follows attributes from a value. -/
def follow (above : Inherited) : Value → List Text → Except ResolveError Value
  | v, [] => .ok v
  | v, name :: names => do follow above (← above.read v name) names

/-- Reads a value from a bag. An unset slot reads as absent. -/
def read (bag : Bag) : Reader → Except ResolveError Value
  | .entry index =>
    match bag with
    | mapping _ entries => .ok ((entries[index]?.map (·.2)).getD .absent)
    | _ => .ok .absent
  | .slot name =>
    match bag.readAttribute name with
    | .ok v => .ok v
    | .error e => if e.isNoAttribute then .ok .absent else .error e
  | .path [] => .ok .absent
  | .path (name :: names) => do follow bag.above (← bag.readAttribute name) names

end Bag

end RouteTemplate
