import RouteTemplate.Bag.Record

set_option autoImplicit false

namespace RouteTemplate

/-- An object: its class, what it stores under free names, what fills its slots, its extras, the names that it was
given values under, and what it has from the types that its class builds on. -/
structure Object where
  cls : Class
  stored : List (Text × Value) := []
  slots : List (Text × Value) := []
  extras : List (Text × Value) := []
  given : List Text := []
  above : Inherited := {}

namespace Object

/-- Sets an attribute: into the slot of that name, else among the stored ones, else among the extras. A validated
object keeps no extra under a name that it answers to already, nor under one that is not public. -/
def set (o : Object) (name : Text) (v : Value) : Object :=
  match o.cls.member? name with
  | some .slot => { o with slots := Table.put name v o.slots }
  | some (.element _) => { o with slots := Table.put name v o.slots }
  | some (.computed _) => o
  | _ =>
    if o.cls.isRecord && !(o.cls.recordFields.any fun f => f.name = name) then
      if !isPublicName name || (o.cls.keepsExtras && (isRecordMethod name || (o.above.ofBag name).isSome)) then
        { o with stored := Table.put name v o.stored }
      else if o.cls.keepsExtras then { o with extras := Table.put name v o.extras }
      else o
    else if o.cls.isOpen then { o with stored := Table.put name v o.stored }
    else o

/-- Stores a value under a name past whatever the class holds there. -/
def store (o : Object) (name : Text) (v : Value) : Object := { o with stored := Table.put name v o.stored }

/-- Takes an attribute away. -/
def delete (o : Object) (name : Text) : Object :=
  match o.cls.member? name with
  | some .slot => { o with slots := Table.erase name o.slots }
  | _ =>
    if (Table.get? name o.stored).isSome then { o with stored := Table.erase name o.stored }
    else { o with extras := Table.erase name o.extras }

/-- Fills the fields of a validated object in order and keeps the rest as extras where the class does. -/
def ofRecord (cls : Class) (given : List (Text × Value)) : Object :=
  let input := Table.ofList given
  let source? (f : RecordField) : Option Text :=
    let names := if cls.acceptsFieldNames then [f.inputName, f.name] else [f.inputName]
    names.find? fun n => (Table.get? n input).isSome
  let fields := cls.recordFields
  let stored := fields.filterMap fun f =>
    match source? f with
    | some n => (Table.get? n input).map fun v => (f.name, v)
    | none => f.default.map fun v => (f.name, v)
  let used := fields.filterMap source?
  let extras := if cls.keepsExtras then input.filter fun entry => !(used.contains entry.1) else []
  { cls, stored, extras
    given := ((fields.filter fun f => (source? f).isSome).map RecordField.name) ++ Table.keys extras }

/-- Makes an object from values under names. Data classes and named tuples take them for their fields and
fill in defaults, validated classes match them with their fields, and others set them one by one. -/
def make (cls : Class) (given : List (Text × Value)) : Object :=
  if cls.isRecord then ofRecord cls given
  else if cls.isDataclass then
    let input := Table.ofList given
    cls.fields.foldl (fun o f =>
      match (Table.get? f.name input).orElse fun _ => f.default with
      | some v => o.set f.name v
      | none => o) { cls }
  else if cls.elements?.isSome then { cls, slots := Table.ofList given }
  else given.foldl (fun o entry => o.set entry.1 entry.2) { cls }

end Object

end RouteTemplate
