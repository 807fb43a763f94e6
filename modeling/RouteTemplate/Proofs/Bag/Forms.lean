import RouteTemplate.Bag.Accessors
import RouteTemplate.Proofs.Bag.Declared
import RouteTemplate.Proofs.Text.Cut

set_option autoImplicit false

namespace RouteTemplate

section Set

variable {o : Object} {n : Text} (v : Value)

theorem set_stored (free : o.cls.member? n = none) (unchecked : o.cls.isRecord = false) (opened : o.cls.isOpen = true) :
    o.set n v = { o with stored := Table.put n v o.stored } := by
  rw [Object.set, free, unchecked, opened]
  rfl

theorem set_placed (place : o.cls.member? n = some .slot) : o.set n v = { o with slots := Table.put n v o.slots } := by
  rw [Object.set, place]

end Set

def Object.setAll (o : Object) (given : List (Text × Value)) : Object :=
  given.foldl (fun o entry => o.set entry.1 entry.2) o

theorem setAll_stored {given : List (Text × Value)} {o : Object} (unchecked : o.cls.isRecord = false)
    (opened : o.cls.isOpen = true) (free : ∀ entry ∈ given, o.cls.member? entry.1 = none) :
    o.setAll given = { o with stored := Table.merge o.stored given } := by
  induction given generalizing o with
  | nil => rfl
  | cons entry given ih =>
    rw [Object.setAll, List.foldl_cons, set_stored entry.2 (free entry List.mem_cons_self) unchecked opened]
    exact ih unchecked opened fun other inside => free other (List.mem_cons_of_mem entry inside)

theorem setAll_placed {given : List (Text × Value)} {o : Object}
    (placed : ∀ entry ∈ given, o.cls.member? entry.1 = some .slot) :
    o.setAll given = { o with slots := Table.merge o.slots given } := by
  induction given generalizing o with
  | nil => rfl
  | cons entry given ih =>
    rw [Object.setAll, List.foldl_cons, set_placed entry.2 (placed entry List.mem_cons_self)]
    exact ih fun other inside => placed other (List.mem_cons_of_mem entry inside)

section Make

variable (form : ObjectForm) (known : List Class) (name : Text) {pairs : List (Text × Value)}

/-- An object of a data class is given the values of its fields one after another. -/
theorem foldl_bareFields {given rest : List (Text × Value)}
    (found : ∀ entry ∈ rest, Table.get? entry.1 given = some entry.2) (o : Object) :
    ((Table.keys rest).map bareField).foldl (fun o f =>
      match (Table.get? f.name given).orElse fun _ => f.default with
      | some v => o.set f.name v
      | none => o) o = o.setAll rest := by
  induction rest generalizing o with
  | nil => rfl
  | cons entry rest ih =>
    have own : Table.get? (bareField entry.1).name given = some entry.2 := found entry List.mem_cons_self
    have later := ih fun other inside => found other (List.mem_cons_of_mem entry inside)
    rw [Table.keys, List.map_cons, List.map_cons, List.foldl_cons, own, Object.setAll, List.foldl_cons]
    exact later _

variable (distinct : (Table.keys pairs).Nodup)

include distinct

theorem make_dataclass (data : form.isDataclass = true) :
    Object.make (form.declared known name (Table.keys pairs)) pairs =
      Object.setAll { cls := form.declared known name (Table.keys pairs) } pairs := by
  have unchecked : form.isRecord = false := by
    cases form with
    | dataclass inSlots => rfl
    | _ => cases data
  unfold Object.make
  rw [form.isRecord_declared known name distinct, unchecked, if_neg Bool.false_ne_true,
    form.isDataclass_declared known name distinct, if_pos data, form.fields_declared known name distinct data]
  dsimp only
  rw [Table.ofList_eq_self distinct]
  exact foldl_bareFields (fun entry inside => Table.get?_of_mem distinct inside) _

theorem make_open (unchecked : form.isRecord = false) (undated : form.isDataclass = false)
    (untupled : form ≠ .namedTuple) :
    Object.make (form.declared known name (Table.keys pairs)) pairs =
      Object.setAll { cls := form.declared known name (Table.keys pairs) } pairs := by
  unfold Object.make
  rw [form.isRecord_declared known name distinct, unchecked, if_neg Bool.false_ne_true,
    form.isDataclass_declared known name distinct, undated, if_neg Bool.false_ne_true,
    form.elements?_declared known name distinct, if_neg untupled]
  rfl

end Make

/-- The name under which a field of a validated class is found in what an object is made from. -/
def sourceOf? (byName : Bool) (given : List (Text × Value)) (f : RecordField) : Option Text :=
  (if byName then [f.inputName, f.name] else [f.inputName]).find? fun n => (Table.get? n given).isSome

section Record

variable {pairs : List (Text × Value)} (distinct : (Table.keys pairs).Nodup) (byName : Bool)

include distinct

theorem sourceOf?_bareRecordField {n : Text} (inside : n ∈ Table.keys pairs) :
    sourceOf? byName pairs (bareRecordField n) = some n := by
  obtain ⟨entry, given, rfl⟩ := List.mem_map.mp inside
  have found : (Table.get? entry.1 pairs).isSome = true := by
    rw [Table.get?_of_mem distinct given]
    rfl
  unfold sourceOf?
  split <;> exact List.find?_cons_of_pos found

theorem stored_bareRecordFields :
    (((Table.keys pairs).map bareRecordField).filterMap fun f =>
      match sourceOf? byName pairs f with
      | some n => (Table.get? n pairs).map fun v => (f.name, v)
      | none => f.default.map fun v => (f.name, v)) = pairs := by
  rw [Table.keys, List.map_map, List.filterMap_map]
  refine (List.filterMap_congr fun entry inside => ?_).trans List.filterMap_some
  have own := sourceOf?_bareRecordField distinct byName (List.mem_map_of_mem inside)
  dsimp only [Function.comp_apply]
  rw [own]
  dsimp only
  rw [Table.get?_of_mem distinct inside]
  rfl

theorem sources_bareRecordFields :
    ((Table.keys pairs).map bareRecordField).filterMap (sourceOf? byName pairs) = Table.keys pairs := by
  rw [List.filterMap_map]
  refine (List.filterMap_congr fun n inside => ?_).trans List.filterMap_some
  exact sourceOf?_bareRecordField distinct byName inside

theorem given_bareRecordFields :
    (((Table.keys pairs).map bareRecordField).filter fun f => (sourceOf? byName pairs f).isSome).map RecordField.name =
      Table.keys pairs := by
  rw [List.filter_eq_self.mpr, List.map_map]
  · exact List.map_id _
  · intro f inside
    obtain ⟨n, own, rfl⟩ := List.mem_map.mp inside
    rw [sourceOf?_bareRecordField distinct byName own]
    rfl

end Record

theorem filter_not_contains_keys (pairs : List (Text × Value)) :
    (pairs.filter fun entry => !(Table.keys pairs).contains entry.1) = [] := by
  rw [List.filter_eq_nil_iff]
  intro entry inside
  simp [Table.keys, List.mem_map_of_mem inside]

/-- A validated object takes every value for the field of its name and keeps nothing beside. -/
theorem make_record (form : ObjectForm) (known : List Class) (name : Text) {pairs : List (Text × Value)}
    (distinct : (Table.keys pairs).Nodup) (record : form.isRecord = true) :
    Object.make (form.declared known name (Table.keys pairs)) pairs =
      { cls := form.declared known name (Table.keys pairs), stored := pairs, given := Table.keys pairs } := by
  have stored := stored_bareRecordFields distinct (form.declared known name (Table.keys pairs)).acceptsFieldNames
  have sources := sources_bareRecordFields distinct (form.declared known name (Table.keys pairs)).acceptsFieldNames
  have given := given_bareRecordFields distinct (form.declared known name (Table.keys pairs)).acceptsFieldNames
  unfold sourceOf? at stored sources given
  unfold Object.make
  rw [form.isRecord_declared known name distinct, if_pos record]
  unfold Object.ofRecord
  rw [form.recordFields_declared known name distinct record, Table.ofList_eq_self distinct]
  dsimp only
  rw [sources, filter_not_contains_keys, ite_self, given, show Table.keys ([] : List (Text × Value)) = [] from rfl,
    List.append_nil]
  exact congrArg (fun stored => Object.mk _ stored [] [] (Table.keys pairs) {}) stored

namespace ObjectForm

variable (form : ObjectForm) (known : List Class) (name : Text) {pairs : List (Text × Value)}

/-- The object that a class of the form makes from values under the names that it declares. -/
def object (pairs : List (Text × Value)) : Object := Object.make (form.declared known name (Table.keys pairs)) pairs

theorem object_of_inPlaces (distinct : (Table.keys pairs).Nodup) (placed : form.inPlaces = true) :
    form.object known name pairs = { cls := form.declared known name (Table.keys pairs), slots := pairs } := by
  have table : Table.ofList pairs = pairs := Table.ofList_eq_self distinct
  have filled (every : form.places (Table.keys pairs) = Table.keys pairs) :
      Object.setAll { cls := form.declared known name (Table.keys pairs) } pairs =
        { cls := form.declared known name (Table.keys pairs), slots := pairs } := by
    rw [setAll_placed fun entry inside =>
      form.member?_of_place known name distinct (every.symm ▸ List.mem_map_of_mem inside), ← Table.ofList, table]
  cases form with
  | slotted => exact (make_open slotted known name distinct rfl rfl (by decide)).trans (filled rfl)
  | namedTuple =>
    unfold object Object.make
    rw [isRecord_declared _ known name distinct, isDataclass_declared _ known name distinct,
      elements?_declared _ known name distinct, table]
    rfl
  | dataclass inSlots =>
    have slots : inSlots = true := placed
    subst slots
    exact (make_dataclass _ known name distinct rfl).trans (filled rfl)
  | _ => cases placed

theorem object_of_stored (declarable : Declarable (Table.keys pairs)) (stored : form.inPlaces = false) :
    ∃ given, form.object known name pairs =
      { cls := form.declared known name (Table.keys pairs), stored := pairs, given } := by
  have distinct := declarable.distinct
  have opened : (form.declared known name (Table.keys pairs)).isOpen = true := by
    rw [form.isOpen_declared known name declarable, stored]
    rfl
  have filled (unchecked : form.isRecord = false) :
      Object.setAll { cls := form.declared known name (Table.keys pairs) } pairs =
        { cls := form.declared known name (Table.keys pairs), stored := pairs } := by
    rw [← form.isRecord_declared known name distinct] at unchecked
    rw [setAll_stored unchecked opened fun entry _ => form.member?_of_stored known name distinct stored entry.1,
      ← Table.ofList, Table.ofList_eq_self distinct]
  cases form with
  | plain =>
    exact ⟨[], (make_open plain known name distinct rfl rfl (by decide)).trans (filled rfl)⟩
  | dataclass inSlots => exact ⟨[], (make_dataclass _ known name distinct rfl).trans (filled rfl)⟩
  | record extras byName => exact ⟨_, make_record _ known name distinct rfl⟩
  | _ => cases stored

def accessor : ObjectForm → Text → Accessor
  | slotted, n => ⟨n, .slot n⟩
  | _, n => Bag.pathAccessor n

end ObjectForm

theorem addNew_eq_append {found names : List Text} (distinct : (found ++ names).Nodup) :
    Class.addNew found names = found ++ names := by
  induction names generalizing found with
  | nil => exact (List.append_nil found).symm
  | cons name names ih =>
    have fresh : name ∉ found := fun inside =>
      (List.nodup_append.mp distinct).2.2 name inside name List.mem_cons_self rfl
    have later : (found ++ [name] ++ names).Nodup := by simpa using distinct
    rw [Class.addNew, List.foldl_cons, if_neg fresh, ← Class.addNew, ih later]
    simp

theorem filter_isPublicName {names : List Text} (declarable : Declarable names) :
    names.filter isPublicName = names := List.filter_eq_self.mpr declarable.isPublic

namespace ObjectForm

variable (form : ObjectForm) (known : List Class) (name : Text)

theorem slotNames_declared {names : List Text} (declarable : Declarable names) :
    (slotted.declared known name names).slotNames = names := by
  rw [declared_eq slotted known name declarable.distinct]
  change Class.addNew [] (names.filter isPublicName) = names
  rw [filter_isPublicName declarable]
  exact addNew_eq_append declarable.distinct

/-- The names that an object of the form brings itself. -/
def brings (names : List Text) : ObjectForm → List Text
  | plain => names
  | dataclass false => names
  | _ => []

/-- Whether the class lists the names or an object brings them, the accessors are those of the names in their order. -/
theorem classAccessors_declared {names : List Text} (declarable : Declarable names) :
    Bag.classAccessors (form.declared known name names) (form.brings names) = names.map form.accessor := by
  have distinct := declarable.distinct
  have validated := form.isRecord_declared known name distinct
  have data := form.isDataclass_declared known name distinct
  have elements := form.elements?_declared known name distinct
  have opened := form.isOpen_declared known name declarable
  have computed := form.computedNames_declared known name distinct
  unfold Bag.classAccessors
  cases form with
  | plain =>
    rw [validated, data, elements, opened, computed]
    exact List.append_nil _
  | slotted =>
    rw [validated, data, elements, opened, computed, slotNames_declared known name declarable]
    exact List.append_nil _
  | namedTuple =>
    rw [validated, data, elements]
    rfl
  | dataclass inSlots =>
    rw [validated, data, fields_declared _ known name distinct rfl]
    exact List.map_map
  | record extras byName =>
    rw [validated, recordFields_declared _ known name distinct rfl, List.map_map]
    exact List.append_nil _

variable {pairs : List (Text × Value)}

theorem cls_object (declarable : Declarable (Table.keys pairs)) :
    (form.object known name pairs).cls = form.declared known name (Table.keys pairs) := by
  cases placed : form.inPlaces with
  | true => rw [form.object_of_inPlaces known name declarable.distinct placed]
  | false =>
    obtain ⟨given, made⟩ := form.object_of_stored known name declarable placed
    rw [made]

theorem ownNames_object (declarable : Declarable (Table.keys pairs)) :
    (form.object known name pairs).ownNames = form.brings (Table.keys pairs) := by
  have distinct := declarable.distinct
  unfold Object.ownNames Object.publicStored
  rw [form.cls_object known name declarable, form.isRecord_declared known name distinct]
  cases placed : form.inPlaces with
  | true =>
    rw [form.object_of_inPlaces known name distinct placed]
    cases form with
    | slotted => rfl
    | namedTuple => rfl
    | dataclass inSlots =>
      have slots : inSlots = true := placed
      subst slots
      rfl
    | _ => cases placed
  | false =>
    obtain ⟨given, made⟩ := form.object_of_stored known name declarable placed
    rw [made]
    cases form with
    | plain => exact filter_isPublicName declarable
    | dataclass inSlots =>
      have free : inSlots = false := placed
      subst free
      exact filter_isPublicName declarable
    | record extras byName => rfl
    | _ => cases placed

/-- The names that objects of the form answer to with something other than what was given. -/
def hides : ObjectForm → List Text
  | record _ _ => ["model_extra", "model_fields_set"]
  | _ => []

end ObjectForm

section Read

variable {o : Object} {n : Text} {v : Value}

theorem read_slot {bag : Bag} (read : bag.readAttribute n = .ok v) : bag.read (.slot n) = .ok v := by
  unfold Bag.read
  dsimp only
  rw [read]

/-- A path without a dot is one attribute. -/
theorem read_path {bag : Bag} (undotted : CodePoint.ofChar '.' ∉ n) :
    bag.read (.path (Text.splitOn '.' n)) = bag.readAttribute n := by
  rw [Text.splitOn_of_not_mem undotted]
  change (bag.readAttribute n >>= fun v => .ok v) = _
  cases bag.readAttribute n <;> rfl

/-- A path with a dot is an attribute and what is followed from it. -/
theorem read_dotted {bag : Bag} {first : Text} (undotted : CodePoint.ofChar '.' ∉ first) (rest : Text) :
    bag.read (.path (Text.splitOn '.' (first ++ CodePoint.ofChar '.' :: rest))) =
      bag.readAttribute first >>= fun v => Bag.follow bag.above v (Text.splitOn '.' rest) := by
  rw [Text.splitOn_append_cons, Text.splitOn_of_not_mem undotted]
  rfl

theorem read_pathAccessor {bag : Bag} (undotted : CodePoint.ofChar '.' ∉ n) (read : bag.readAttribute n = .ok v) :
    bag.read (Bag.pathAccessor n).reader = .ok v := by
  rw [Bag.pathAccessor, read_path undotted, read]

theorem readAttribute_of_place (place : o.cls.member? n = some .slot ∨ ∃ index, o.cls.member? n = some (.element index))
    (filled : Table.get? n o.slots = some v) : o.readAttribute n = .ok v := by
  unfold Object.readAttribute Object.attributeWithin
  obtain slot | ⟨index, element⟩ := place
  · rw [slot, filled]
    rfl
  · rw [element, filled]
    rfl

theorem undeclared?_of_shown (shown : o.shown? n = some v) : o.undeclared? n = some v := by
  rw [Object.undeclared?, shown, Option.some_or]

theorem readAttribute_of_undeclared (free : o.cls.member? n = none) (held : o.undeclared? n = some v) :
    o.readAttribute n = .ok v := by
  unfold Object.readAttribute Object.attributeWithin
  rw [free, held]
  rfl

/-- The names of the views of what a validated object holds. -/
def viewNames : List Text :=
  ["model_extra", "model_fields_set", "__dict__", "__pydantic_extra__", "__pydantic_fields_set__", "__fields_set__",
    "__pydantic_private__", "__class__"]

theorem keys_recordViews (o : Object) : Table.keys o.recordViews = viewNames := rfl

/-- Of the views of what a validated object holds, two have names without an underscore in front. -/
theorem get?_recordViews (o : Object) (isPublic : isPublicName n = true)
    (shown : n ≠ "model_extra" ∧ n ≠ "model_fields_set") :
    Table.get? n o.recordViews = none := by
  rw [Table.get?_eq_none_iff, keys_recordViews]
  intro viewed
  have every : ∀ view ∈ viewNames, isPublicName view = false ∨ view = "model_extra" ∨ view = "model_fields_set" := by
    decide
  rcases every n viewed with hidden | extra | set
  · rw [hidden] at isPublic
    cases isPublic
  · exact shown.1 extra
  · exact shown.2 set

end Read

namespace ObjectForm

variable (form : ObjectForm) (known : List Class) (name : Text) {pairs : List (Text × Value)}

theorem readAttribute_object (declarable : Declarable (Table.keys pairs)) {n : Text} {v : Value}
    (given : (n, v) ∈ pairs) (shown : n ∉ form.hides) : (form.object known name pairs).readAttribute n = .ok v := by
  have distinct := declarable.distinct
  have inside : n ∈ Table.keys pairs := List.mem_map_of_mem given
  have found : Table.get? n pairs = some v := Table.get?_of_mem distinct given
  cases placed : form.inPlaces with
  | true =>
    rw [form.object_of_inPlaces known name distinct placed]
    refine readAttribute_of_place ?_ found
    cases form with
    | namedTuple => exact .inr (member?_of_element known name distinct inside)
    | slotted => exact .inl (member?_of_place slotted known name distinct inside)
    | dataclass inSlots =>
      have slots : inSlots = true := placed
      subst slots
      exact .inl (member?_of_place (dataclass true) known name distinct inside)
    | _ => cases placed
  | false =>
    obtain ⟨under, made⟩ := form.object_of_stored known name declarable placed
    rw [made]
    refine readAttribute_of_undeclared (form.member?_of_stored known name distinct placed n) (undeclared?_of_shown ?_)
    unfold Object.shown?
    rw [form.isRecord_declared known name distinct]
    cases form with
    | record extras byName =>
      have visible : n ≠ "model_extra" ∧ n ≠ "model_fields_set" := by
        simpa [hides] using shown
      rw [get?_recordViews _ (declarable.isPublic n inside) visible, found]
      rfl
    | _ => exact found

theorem read_accessor (declarable : Declarable (Table.keys pairs)) {n : Text} {v : Value} (given : (n, v) ∈ pairs)
    (shown : n ∉ form.hides) :
    (Bag.object (form.object known name pairs)).read (form.accessor n).reader = .ok v := by
  have inside : n ∈ Table.keys pairs := List.mem_map_of_mem given
  have read : (Bag.object (form.object known name pairs)).readAttribute n = .ok v :=
    form.readAttribute_object known name declarable given shown
  cases form with
  | slotted => exact read_slot read
  | _ => exact read_pathAccessor (declarable.undotted n inside) read

end ObjectForm

end RouteTemplate
