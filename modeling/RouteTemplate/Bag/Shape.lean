import RouteTemplate.Bag.Basic

set_option autoImplicit false

namespace RouteTemplate

/-- The type of a bag: a type of mappings or another by name, a declared class, or the class of one enumeration. -/
inductive ShapeType where
  | mapping (name : Text)
  | known (name : Text)
  | declared (cls : Class)
  | enumeration (only : Value)
deriving DecidableEq

/-- The shape of a bag: its type alone, or its type with its names. -/
inductive Shape where
  | fixed (type : ShapeType)
  | named (type : ShapeType) (names : List Value)

namespace ShapeType

def name : ShapeType → Text
  | mapping name => name
  | known name => name
  | declared cls => cls.name
  | enumeration only => only.typeName

end ShapeType

namespace Shape

/-- Two shapes are one when their types are and their names are pairwise one key. -/
def same : Shape → Shape → Bool
  | fixed a, fixed b => a = b
  | named a names, named b others => a = b && Value.sameKey.sameKeys names others
  | _, _ => false

def type : Shape → ShapeType
  | fixed type => type
  | named type _ => type

end Shape

namespace Object

def publicStored (o : Object) : List Text := (Table.keys o.stored).filter isPublicName

/-- The names that an object brings itself: its extras if it is a validated one, else what it stores. -/
def ownNames (o : Object) : List Text := if o.cls.isRecord then Table.keys o.extras else o.publicStored

/-- The shape of an object. Data classes, named tuples and closed classes fix the names; open objects
and validated ones with extras bring their own. -/
def shape (o : Object) : Shape :=
  let type := ShapeType.declared o.cls
  if o.cls.isRecord then
    if o.extras.isEmpty then .fixed type else .named type (o.ownNames.map .text)
  else if o.cls.isDataclass || o.cls.elements?.isSome || !o.cls.isOpen then .fixed type
  else .named type (o.ownNames.map .text)

end Object

/-- The shape of a bag; a value that exposes no named values has none. -/
def Bag.shape : Bag → Except ResolveError Shape
  | mapping type entries => .ok (.named (.mapping type) (entries.map (·.1)))
  | object o => .ok o.shape
  | bundle attributes _ =>
    .ok (.named (.known "SimpleNamespace") (((Table.keys attributes).filter isPublicName).map .text))
  | classItself c _ =>
    .ok (if c.isDataclass then .fixed (.known c.typeName) else .named (.known c.typeName) (c.publicMembers.map .text))
  | plainValue (.fraction _) => .ok (.fixed (.known "Fraction"))
  | plainValue (.uuid _) => .ok (.fixed (.known "UUID"))
  | plainValue (.member owner kind name value) => .ok (.named (.enumeration (.member owner kind name value)) [])
  | plainValue (.thing owner _ _) => .ok (.named (.known owner) [])
  | plainValue v => .error (.unsupported v.typeName)
  | function => .ok (.named (.known "function") [])
  | bare => .error (.unsupported "object")

end RouteTemplate
