import RouteTemplate.Bag.Declaration

set_option autoImplicit false

namespace RouteTemplate

-- The core library's sums, also where other instances are in scope.
attribute [local instance (high)] Zero.ofOfNat0

/-- A class: its declaration, its ancestors, nearest first, and its declared fields with those that it takes over.
-/
structure Class where
  decl : ClassDecl
  ancestors : List ClassDecl := []
  fieldTable : List (Text × Field) := []
  recordTable : List (Text × RecordField) := []
  recordOptions : RecordOptions := {}
deriving DecidableEq

/-- What a validated class says of its fields where another says nothing. -/
def RecordOptions.over (upper lower : RecordOptions) : RecordOptions where
  extras := upper.extras.orElse fun _ => lower.extras
  byName := upper.byName.orElse fun _ => lower.byName
  upperAliases := upper.upperAliases || lower.upperAliases

namespace Class

def name (c : Class) : Text := c.decl.name

/-- The class and its ancestors, nearest first. -/
def lineage (c : Class) : List ClassDecl := c.decl :: c.ancestors

/-- Merges lineages: the next class is the first head that stands behind no other head. -/
def mergeLineages : (fuel : Nat) → List (List ClassDecl) → List ClassDecl
  | 0, _ => []
  | fuel + 1, lineages =>
    let behind (d : ClassDecl) : Bool := lineages.any fun line => line.tail.any fun e => e.name = d.name
    match (lineages.filterMap List.head?).find? fun d => !behind d with
    | none => []
    | some next => next :: mergeLineages fuel (lineages.map fun line => line.filter fun d => d.name ≠ next.name)

/-- A field that is declared without a default, with the value that an ancestor holds under its name as one. -/
def withInheritedDefault (ancestors : List ClassDecl) (f : Field) : Field :=
  let inherited : Option ClassMember := ancestors.findSome? fun d => d.member? f.name
  match f.default, inherited with
  | none, some (.constant v) => { f with default := some v }
  | _, _ => f

/-- The fields of a data class: those that its ancestors have, furthest first, then its own; a field declared again
keeps its place. A class that is none has the fields of its nearest ancestor that is one. -/
def settleFields (decl : ClassDecl) (ancestors : List Class) : List (Text × Field) :=
  if decl.isDataclass then
    let taken := ancestors.reverse.foldl (fun table c => Table.merge table c.fieldTable) []
    decl.fields.foldl
      (fun table f => Table.put f.name (withInheritedDefault (ancestors.map Class.decl) f) table) taken
  else ((ancestors.find? fun c => c.decl.isDataclass).map Class.fieldTable).getD []

/-- The places that a class adds to its objects. A data class adds one for every field that has none yet. -/
def settlePlaces (decl : ClassDecl) (ancestors : List ClassDecl) (fields : List (Text × Field)) : List Text :=
  match decl.kind with
  | .slotted slots => slots.names
  | .dataclass _ true =>
    Table.keys (fields.filter fun entry =>
      entry.2.kind = .kept && !(ancestors.any fun d => d.places.contains entry.1))
  | _ => []

/-- The fields of a validated class in the order of its lineage, furthest first. A field that the class does not
declare itself is as the first base that has it settled it. -/
def settleRecordFields (decl : ClassDecl) (bases : List Class) (ancestors : List ClassDecl) :
    List (Text × RecordField) :=
  let declared : List (Text × RecordField) := (decl :: ancestors).reverse.foldl
    (fun table d => d.recordFields.foldl (fun table f => Table.put f.name f table) table) []
  let own (name : Text) : Option RecordField := decl.recordFields.find? fun f => f.name = name
  let inherited (name : Text) : Option RecordField := bases.findSome? fun c => Table.get? name c.recordTable
  declared.map fun (name, f) => (name, ((own name).orElse fun _ => inherited name).getD f)

/-- What a validated class says of its fields: its own word, else that of its last base that has one. -/
def settleRecordOptions (decl : ClassDecl) (bases : List Class) : RecordOptions :=
  decl.recordOptions.over (bases.foldl (fun options c => c.recordOptions.over options) {})

def declare (known : List Class) (decl : ClassDecl) : Class :=
  let bases := decl.bases.filterMap fun base => known.find? fun c => c.name = base
  let lineages := bases.map lineage ++ [bases.map Class.decl]
  let ancestors := mergeLineages (lineages.map List.length).sum lineages
  let fieldTable := settleFields decl (ancestors.filterMap fun d => known.find? fun c => c.name = d.name)
  { decl := { decl with places := settlePlaces decl ancestors fieldTable }
    ancestors, fieldTable
    recordTable := settleRecordFields decl bases ancestors
    recordOptions := settleRecordOptions decl bases }

def declareAll (decls : List ClassDecl) : List Class :=
  decls.foldl (fun known decl => known ++ [declare known decl]) []

/-- Names with those of a second list added that are not there yet. -/
def addNew (found names : List Text) : List Text :=
  names.foldl (fun found name => if name ∈ found then found else found ++ [name]) found

/-- Names collected along the lineage, furthest ancestor first, each once. -/
def collect (names : ClassDecl → List Text) (c : Class) : List Text :=
  c.lineage.reverse.foldl (fun found d => addNew found (names d)) []

end Class

end RouteTemplate
