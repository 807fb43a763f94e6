import RouteTemplate.Bag.Class
import RouteTemplate.Text.Uppercase

set_option autoImplicit false

namespace RouteTemplate

namespace Class

/-- What the class or the nearest ancestor that knows the name holds under it. -/
def member? (c : Class) (name : Text) : Option ClassMember := c.lineage.findSome? fun d => d.member? name

/-- Do the objects of the class take attributes that were not declared? -/
def isOpen (c : Class) : Bool := c.lineage.any ClassDecl.isOpen

/-- The public slots of the lineage, those of ancestors first. -/
def slotNames (c : Class) : List Text :=
  c.collect fun d =>
    match d.kind with
    | .slotted slots => slots.names.filter isPublicName
    | _ => []

/-- The public computed attributes of the lineage, those of ancestors first. -/
def computedNames (c : Class) : List Text := c.collect fun d => (Table.keys d.computed).filter isPublicName

/-- The declared fields of a data class that its objects keep. -/
def fields (c : Class) : List Field := (c.fieldTable.map Prod.snd).filter fun f => f.kind = .kept

/-- The fields of the nearest named tuple of the lineage. -/
def elements? (c : Class) : Option (List Text) :=
  c.lineage.findSome? fun d =>
    match d.kind with
    | .namedTuple fields => some fields
    | _ => none

/-- Is the class a data class or derived from one? -/
def isDataclass (c : Class) : Bool := c.lineage.any ClassDecl.isDataclass

/-- Is the class a validated one or derived from one? -/
def isRecord (c : Class) : Bool := c.lineage.any ClassDecl.isRecord

/-- A field with the outer name that it has in effect: its own, or its name in upper case where the class asks for
that. -/
def effectiveField (upperAliases : Bool) (f : RecordField) : RecordField :=
  if upperAliases && f.outerName.isNone then { f with outerName := some f.name.upper } else f

/-- The fields of a validated class, with the outer names they have in effect. -/
def recordFields (c : Class) : List RecordField :=
  c.recordTable.map fun entry => effectiveField c.recordOptions.upperAliases entry.2

def keepsExtras (c : Class) : Bool := c.recordOptions.extras.getD false

/-- May a field of the validated class be given under its own name beside its outer one? -/
def acceptsFieldNames (c : Class) : Bool := c.recordOptions.byName.getD false

/-- The name under which a validated class holds what it says of its fields. -/
def optionsName : Text := "model_config"

/-- The public names that the class itself binds to anything, in its order. A validated class holds what it says of
its fields too. -/
def publicMembers (c : Class) : List Text := c.decl.publicMembers ++ if c.isRecord then [optionsName] else []

end Class

/-- The name under which a field of a validated class is a parameter; an empty outer name counts as none. -/
def RecordField.parameterName (f : RecordField) : Text :=
  match f.outerName with
  | some (c :: rest) => c :: rest
  | _ => f.name

/-- The name under which a field is looked for in what an object is made from. -/
def RecordField.inputName (f : RecordField) : Text := f.takenUnder.getD (f.outerName.getD f.name)

end RouteTemplate
