import RouteTemplate.Bag.Object

/-!
The reading of attributes. A computed attribute or a slot of the class comes before what the object stores, and
that before a value of the class. A validated object has views of what it holds, views of its class and its methods
come behind what it stores, whatever else it has from its type behind these, and it looks among its extras last.
-/

set_option autoImplicit false

namespace RouteTemplate

-- The core library's sums, also where other instances are in scope.
attribute [local instance (high)] Zero.ofOfNat0

namespace Object

def recordLiteral (o : Object) : Text :=
  let fields := o.stored.filter fun entry => o.cls.recordFields.any fun f => f.name = entry.1
  List.flatten [o.cls.name, "(",
    Text.joinWith ", " ((fields ++ o.extras).map fun entry => List.flatten [entry.1, "=", entry.2.literal]), ")"]

def dictionary (entries : List (Text × Value)) : Value := .dict (entries.map fun (name, v) => (.text name, v))

/-- The names that a validated object was given values under, as they are shown. -/
def givenText (o : Object) : Text :=
  if o.given.isEmpty then "set()"
  else List.flatten ["\x7b", Text.joinWith ", " (o.given.map Text.quoted), "\x7d"]

/-- The views that a validated object has of what it holds. Nothing that it stores hides them. -/
def recordViews (o : Object) : List (Text × Value) :=
  [("model_extra", if o.cls.keepsExtras then dictionary o.extras else .absent),
    ("model_fields_set", .thing "set" o.givenText false), ("__dict__", dictionary o.stored),
    ("__pydantic_extra__", if o.cls.keepsExtras then dictionary o.extras else .absent),
    ("__pydantic_fields_set__", .thing "set" o.givenText false), ("__fields_set__", .thing "set" o.givenText false),
    ("__pydantic_private__", .absent), ("__class__", .thing "ModelMetaclass" o.cls.shown false)]

/-- The views that a validated object has of its class. -/
def recordClassViews (o : Object) : List (Text × Value) :=
  [("model_fields", .thing "dict" o.cls.recordFieldsText false), ("model_computed_fields", .dict []),
    ("__doc__", .absent), ("__module__", .text "__main__")]

/-- A method that a validated object has under a name, or what its class says of its fields. -/
def recordMethod? (o : Object) (name : Text) : Option Value :=
  if name = Class.optionsName then some (.dict o.cls.recordOptions.document)
  else if recordMethodNames.contains name then some (.boundMethod ("BaseModel." ++ name) o.recordLiteral)
  else if recordClassMethodNames.contains name then some (.boundMethod ("BaseModel." ++ name) o.cls.shown)
  else none

def noAttribute (o : Object) (name : Text) : ResolveError :=
  .noAttribute (if o.cls.isRecord then .record o.cls.name else .object o.cls.name) name

/-- The error of a chain of computed attributes that never ends. -/
def endless : ResolveError := .raised "RecursionError" "maximum recursion depth exceeded"

/-- What an object itself shows under a name that its class does not declare. -/
def shown? (o : Object) (name : Text) : Option Value :=
  if o.cls.isRecord then
    (((Table.get? name o.recordViews).orElse fun _ => Table.get? name o.stored).orElse fun _ =>
      Table.get? name o.recordClassViews).orElse fun _ => o.recordMethod? name
  else Table.get? name o.stored

/-- What an object has under a name that its class does not declare. -/
def undeclared? (o : Object) (name : Text) : Option Value := (o.shown? name).or (o.above.ofBag name)

/-- Reads an attribute. Computed attributes may read others; `fuel` bounds the chain. -/
def attributeWithin : (fuel : Nat) → Object → Text → Except ResolveError Value
  | 0, _, _ => .error endless
  | fuel + 1, o, name =>
    let outside : Except ResolveError Value :=
      match Table.get? name o.extras with
      | some v => .ok v
      | none => .error (o.noAttribute name)
    let inside : Option (Except ResolveError Value) :=
      match o.cls.member? name with
      | some (.computed (.returns v)) => some (.ok v)
      | some (.computed (.raises kind message)) => some (.error (.raised kind message))
      | some (.computed (.reads other)) => some (attributeWithin fuel o other)
      | some .slot => (Table.get? name o.slots).map .ok
      | some (.element _) => (Table.get? name o.slots).map .ok
      | some (.constant v) => some (.ok ((Table.get? name o.stored).getD v))
      | none => (o.undeclared? name).map .ok
    match inside with
    | none => outside
    | some (.ok v) => .ok v
    | some (.error e) =>
      if e.isNoAttribute && o.cls.isRecord && !o.extras.isEmpty then outside else .error e

def readAttribute (o : Object) (name : Text) : Except ResolveError Value :=
  attributeWithin (o.cls.computedNames.length + (o.cls.lineage.map fun d => d.computed.length).sum + 2) o name

end Object

/-- Reads a name on a class itself: places of its objects show as the descriptions of places. -/
def Class.readAttribute (c : Class) (above : Inherited) (name : Text) : Except ResolveError Value :=
  let holder := ((c.lineage.find? fun d => (d.member? name).isSome).map ClassDecl.name).getD c.name
  match c.member? name with
  | some (.constant v) => .ok v
  | some (.computed _) => .ok (.thing "property" "<property object>" false)
  | some .slot =>
    .ok (.thing "member_descriptor" (List.flatten ["<member '", name, "' of '", holder, "' objects>"]) false)
  | some (.element index) =>
    .ok (.thing "_tuplegetter"
      (List.flatten ["_tuplegetter(", Text.ofNat index, ", 'Alias for field number ", Text.ofNat index, "')"]) false)
  | none =>
    if c.isRecord && name = Class.optionsName then .ok (.dict c.recordOptions.document)
    else
      match above.ofBag name with
      | some v => .ok v
      | none => .error (.noAttribute (.classObject c.name) name)

end RouteTemplate
