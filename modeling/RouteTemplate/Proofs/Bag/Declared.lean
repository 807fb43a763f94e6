import Mathlib.Data.List.Basic
import RouteTemplate.Bag.Member
import RouteTemplate.Proofs.Table

set_option autoImplicit false

namespace RouteTemplate

/-- Names that an object of any class may declare: public ones, all different, none of them a path. -/
structure Declarable (names : List Text) : Prop where
  distinct : names.Nodup
  isPublic : ∀ name ∈ names, isPublicName name = true
  undotted : ∀ name ∈ names, CodePoint.ofChar '.' ∉ name

/-- The kinds of classes, each with what it leaves open: data classes may keep values in slots, and validated classes
may keep extras and be given fields by their names. -/
inductive ObjectForm where
  | plain
  | slotted
  | namedTuple
  | dataclass (inSlots : Bool)
  | record (extras byName : Option Bool)
deriving Repr, DecidableEq

def bareField (name : Text) : Field := ⟨name, .kept, none⟩

/-- A field of a validated class without an outer name and without a default. -/
def bareRecordField (name : Text) : RecordField := ⟨name, none, none, none⟩

namespace ObjectForm

def kind (names : List Text) : ObjectForm → ClassKind
  | plain => .plain
  | slotted => .slotted names
  | namedTuple => .namedTuple names
  | dataclass inSlots => .dataclass (names.map bareField) inSlots
  | record extras byName => .record (names.map bareRecordField) { extras, byName }

def declared (form : ObjectForm) (known : List Class) (name : Text) (names : List Text) : Class :=
  Class.declare known { name, kind := form.kind names }

def places (names : List Text) : ObjectForm → List Text
  | slotted => names
  | dataclass true => names
  | _ => []

def fieldTable (names : List Text) : ObjectForm → List (Text × Field)
  | dataclass _ => names.map fun name => (name, bareField name)
  | _ => []

def recordTable (names : List Text) : ObjectForm → List (Text × RecordField)
  | record _ _ => names.map fun name => (name, bareRecordField name)
  | _ => []

def recordOptions : ObjectForm → RecordOptions
  | record extras byName => { extras, byName }
  | _ => {}

end ObjectForm

theorem keys_of_named {α : Type} (make : Text → α) (names : List Text) :
    Table.keys (names.map fun name => (name, make name)) = names := by
  rw [Table.keys, List.map_map]
  exact List.map_id names

theorem eq_of_find?_bareRecordField {names : List Text} {name : Text} {f : RecordField}
    (found : (names.map bareRecordField).find? (fun f => f.name = name) = some f) : f = bareRecordField name := by
  obtain ⟨other, _, rfl⟩ := List.mem_map.mp (List.mem_of_find?_eq_some found)
  have fits := List.find?_some found
  have same : other = name := of_decide_eq_true fits
  rw [same]

/-- A class without bases has what it declares itself. -/
theorem declare_of_no_bases (known : List Class) (decl : ClassDecl) (bare : decl.bases = []) :
    Class.declare known decl =
      { decl := { decl with places := (Class.settlePlaces decl [] (Class.settleFields decl [])) }
        ancestors := []
        fieldTable := Class.settleFields decl []
        recordTable := Class.settleRecordFields decl [] []
        recordOptions := Class.settleRecordOptions decl [] } := by
  unfold Class.declare
  rw [bare]
  rfl

section Declare

variable {names : List Text} (distinct : names.Nodup) {decl : ClassDecl}

include distinct

theorem foldl_put_named {α : Type} (make : Text → α) :
    names.foldl (fun table name => Table.put name (make name) table) [] = names.map fun name => (name, make name) := by
  have table : Table.ofList (names.map fun name => (name, make name)) = names.map fun name => (name, make name) :=
    Table.ofList_eq_self (by rw [keys_of_named]; exact distinct)
  rw [Table.ofList, Table.merge, List.foldl_map] at table
  exact table

theorem settleFields_bare {inSlots : Bool} (kind : decl.kind = .dataclass (names.map bareField) inSlots) :
    Class.settleFields decl [] = names.map fun name => (name, bareField name) := by
  have data : decl.isDataclass = true := by rw [ClassDecl.isDataclass, kind]
  have fields : decl.fields = names.map bareField := by rw [ClassDecl.fields, kind]
  rw [Class.settleFields, if_pos data, fields, List.foldl_map]
  exact foldl_put_named distinct bareField

omit distinct in
theorem settlePlaces_bare (kind : decl.kind = .dataclass (names.map bareField) true) :
    Class.settlePlaces decl [] (names.map fun name => (name, bareField name)) = names := by
  rw [Class.settlePlaces, kind]
  dsimp only
  rw [List.filter_eq_self.mpr, keys_of_named]
  intro entry inside
  obtain ⟨name, _, rfl⟩ := List.mem_map.mp inside
  rfl

theorem settleRecordFields_bare {options : RecordOptions}
    (kind : decl.kind = .record (names.map bareRecordField) options) :
    Class.settleRecordFields decl [] [] = names.map fun name => (name, bareRecordField name) := by
  have fields : decl.recordFields = names.map bareRecordField := by rw [ClassDecl.recordFields, kind]
  have declared : ([decl].reverse.foldl
      (fun table d => d.recordFields.foldl (fun table f => Table.put f.name f table) table) []) =
        names.map fun name => (name, bareRecordField name) := by
    change decl.recordFields.foldl (fun table f => Table.put f.name f table) [] = _
    rw [fields, List.foldl_map]
    exact foldl_put_named distinct bareRecordField
  rw [Class.settleRecordFields, declared, fields]
  dsimp only
  rw [List.map_map]
  apply List.map_congr_left
  intro name _
  dsimp only [Function.comp_apply]
  cases found : (names.map bareRecordField).find? fun f => f.name = name with
  | none => rfl
  | some f =>
    rw [eq_of_find?_bareRecordField found]
    rfl

end Declare

namespace ObjectForm

variable (form : ObjectForm) (known : List Class) (name : Text) {names : List Text}

/-- What the class of a form has, with the names declared in it. -/
theorem declared_eq (distinct : names.Nodup) : form.declared known name names =
    { decl := { name, kind := form.kind names, places := form.places names }
      ancestors := []
      fieldTable := form.fieldTable names
      recordTable := form.recordTable names
      recordOptions := form.recordOptions } := by
  have fields : Class.settleFields { name, kind := form.kind names } [] = form.fieldTable names := by
    cases form with
    | dataclass inSlots => exact settleFields_bare distinct rfl
    | _ => rfl
  have places : Class.settlePlaces { name, kind := form.kind names } [] (form.fieldTable names) = form.places names := by
    cases form with
    | dataclass inSlots =>
      cases inSlots with
      | true => exact settlePlaces_bare rfl
      | false => rfl
    | _ => rfl
  have records : Class.settleRecordFields { name, kind := form.kind names } [] [] = form.recordTable names := by
    cases form with
    | record extras byName => exact settleRecordFields_bare distinct rfl
    | _ => rfl
  have options : Class.settleRecordOptions { name, kind := form.kind names } [] = form.recordOptions := by
    cases form with
    | record extras byName => cases extras <;> cases byName <;> rfl
    | _ => rfl
  rw [declared, declare_of_no_bases known _ rfl]
  dsimp only
  rw [fields, places, records, options]

def decl (names : List Text) : ClassDecl := { name, kind := form.kind names, places := form.places names }

theorem constant?_decl (n : Text) : (form.decl name names).constant? n = none := by
  cases form with
  | dataclass inSlots =>
    change ((names.map bareField).find? fun f => f.name = n).bind _ = none
    cases found : (names.map bareField).find? fun f => f.name = n with
    | none => rfl
    | some f =>
      obtain ⟨_, _, rfl⟩ := List.mem_map.mp (List.mem_of_find?_eq_some found)
      dsimp only [Option.bind, bareField]
      split <;> rfl
  | _ => rfl

/-- What the declaration binds to a name: a place in its objects, or nothing. -/
theorem member?_decl (n : Text) : (form.decl name names).member? n =
    if n ∈ form.places names then some .slot
    else if form = .namedTuple then (names.idxOf? n).map .element else none := by
  have computed : Table.get? n (form.decl name names).computed = none := rfl
  unfold ClassDecl.member?
  rw [computed, constant?_decl]
  dsimp only
  split
  · next inside =>
    have placed : n ∈ form.places names := inside
    rw [if_pos placed]
  · next outside =>
    have unplaced : n ∉ form.places names := outside
    rw [if_neg unplaced]
    cases form <;> rfl

theorem member?_declared (distinct : names.Nodup) (n : Text) :
    (form.declared known name names).member? n = (form.decl name names).member? n := by
  have line : (form.declared known name names).lineage = [form.decl name names] := by
    rw [declared_eq form known name distinct]
    rfl
  rw [Class.member?, line, List.findSome?_cons]
  cases (form.decl name names).member? n <;> rfl

/-- Does an object of the form keep its values in places of its class? -/
def inPlaces : ObjectForm → Bool
  | slotted => true
  | namedTuple => true
  | dataclass inSlots => inSlots
  | _ => false

theorem member?_of_place (distinct : names.Nodup) {n : Text} (inside : n ∈ form.places names) :
    (form.declared known name names).member? n = some .slot := by
  rw [member?_declared form known name distinct, member?_decl, if_pos inside]

theorem member?_of_element (distinct : names.Nodup) {n : Text} (inside : n ∈ names) :
    ∃ index, (namedTuple.declared known name names).member? n = some (.element index) := by
  obtain ⟨index, found⟩ := Option.isSome_iff_exists.mp (List.isSome_idxOf?.mpr inside)
  refine ⟨index, ?_⟩
  have unplaced : n ∉ namedTuple.places names := List.not_mem_nil
  rw [member?_declared namedTuple known name distinct, member?_decl, if_neg unplaced, if_pos rfl, found]
  rfl

theorem member?_of_stored (distinct : names.Nodup) (stored : form.inPlaces = false) (n : Text) :
    (form.declared known name names).member? n = none := by
  rw [member?_declared form known name distinct, member?_decl]
  cases form with
  | dataclass inSlots =>
    cases stored
    rfl
  | slotted => cases stored
  | namedTuple => cases stored
  | _ => rfl

def isRecord : ObjectForm → Bool
  | record _ _ => true
  | _ => false

def isDataclass : ObjectForm → Bool
  | dataclass _ => true
  | _ => false

theorem isRecord_declared (distinct : names.Nodup) :
    (form.declared known name names).isRecord = form.isRecord := by
  rw [declared_eq form known name distinct]
  cases form <;> rfl

theorem isDataclass_declared (distinct : names.Nodup) :
    (form.declared known name names).isDataclass = form.isDataclass := by
  rw [declared_eq form known name distinct]
  cases form <;> rfl

theorem elements?_declared (distinct : names.Nodup) :
    (form.declared known name names).elements? = if form = .namedTuple then some names else none := by
  rw [declared_eq form known name distinct]
  cases form <;> rfl

theorem isOpen_declared (declarable : Declarable names) :
    (form.declared known name names).isOpen = !form.inPlaces := by
  rw [declared_eq form known name declarable.distinct]
  cases form with
  | slotted =>
    have closed : Text.ofString "__dict__" ∉ names := fun inside =>
      absurd (declarable.isPublic _ inside) (by decide)
    change (names.contains (Text.ofString "__dict__") || false) = false
    rw [Bool.or_false, ← Bool.not_eq_true, List.contains_iff_mem]
    exact closed
  | dataclass inSlots => cases inSlots <;> rfl
  | _ => rfl

theorem fields_declared (distinct : names.Nodup) (data : form.isDataclass = true) :
    (form.declared known name names).fields = names.map bareField := by
  rw [declared_eq form known name distinct]
  cases form with
  | dataclass inSlots =>
    change ((names.map fun name => (name, bareField name)).map Prod.snd).filter _ = _
    rw [List.map_map, List.filter_eq_self.mpr]
    · rfl
    · intro f inside
      obtain ⟨_, _, rfl⟩ := List.mem_map.mp inside
      rfl
  | _ => cases data

theorem recordFields_declared (distinct : names.Nodup) (record : form.isRecord = true) :
    (form.declared known name names).recordFields = names.map bareRecordField := by
  rw [declared_eq form known name distinct]
  cases form with
  | record extras byName =>
    change (names.map fun name => (name, bareRecordField name)).map _ = _
    rw [List.map_map]
    rfl
  | _ => cases record

theorem computedNames_declared (distinct : names.Nodup) : (form.declared known name names).computedNames = [] := by
  rw [declared_eq form known name distinct]
  rfl

end ObjectForm

end RouteTemplate
