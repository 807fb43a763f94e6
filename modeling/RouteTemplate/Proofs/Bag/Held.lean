import RouteTemplate.Bag.Accessors

/-!
Which of the values that an object holds are listed. A class may declare slots while another class of its lineage opens
its objects to free attributes, so that an object holds values in two places. The accessors of an open object are made
from its free attributes alone, and what stands in its slots is left out. An object that is not open has nothing but its
slots, and all of them are listed.
-/

set_option autoImplicit false

namespace RouteTemplate

namespace Class

variable {name : Text}

theorem mem_addNew {found names : List Text} : name ∈ addNew found names ↔ name ∈ found ∨ name ∈ names := by
  induction names generalizing found with
  | nil => exact (or_iff_left List.not_mem_nil).symm
  | cons first names ih =>
    rw [addNew, List.foldl_cons, ← addNew, ih, List.mem_cons]
    split
    · next there =>
      constructor
      · exact Or.imp_right .inr
      · rintro (early | rfl | late)
        · exact .inl early
        · exact .inl there
        · exact .inr late
    · rw [List.mem_append, List.mem_singleton, or_assoc]

theorem mem_foldl_addNew {names : ClassDecl → List Text} {line : List ClassDecl} {found : List Text} :
    name ∈ line.foldl (fun found d => addNew found (names d)) found ↔ name ∈ found ∨ ∃ d ∈ line, name ∈ names d := by
  induction line generalizing found with
  | nil => simp
  | cons d line ih =>
    rw [List.foldl_cons, ih, mem_addNew, or_assoc]
    simp only [List.mem_cons, exists_eq_or_imp]

/-- Along the lineage every name is collected, whichever class brings it. -/
theorem mem_collect {names : ClassDecl → List Text} {c : Class} :
    name ∈ c.collect names ↔ ∃ d ∈ c.lineage, name ∈ names d := by
  rw [collect, mem_foldl_addNew, or_iff_right List.not_mem_nil]
  simp only [List.mem_reverse]

theorem mem_collect_filter {declares : ClassDecl → List Text} {listed : Text → Bool} {c : Class} :
    name ∈ c.collect (fun d => (declares d).filter listed) ↔
      listed name = true ∧ ∃ d ∈ c.lineage, name ∈ declares d := by
  rw [mem_collect]
  simp only [List.mem_filter]
  constructor
  · rintro ⟨d, inside, declared, shown⟩
    exact ⟨shown, d, inside, declared⟩
  · rintro ⟨shown, d, inside, declared⟩
    exact ⟨d, inside, declared, shown⟩

end Class

def ClassDecl.slots (d : ClassDecl) : List Text :=
  match d.kind with
  | .slotted slots => slots.names
  | _ => []

/-- Does a class of the lineage list a slot of the name? -/
def Class.HasSlot (c : Class) (name : Text) : Prop := ∃ d ∈ c.lineage, name ∈ d.slots

instance (c : Class) (name : Text) : Decidable (c.HasSlot name) :=
  inferInstanceAs (Decidable (∃ d ∈ c.lineage, name ∈ d.slots))

theorem Class.slotNames_eq (c : Class) : c.slotNames = c.collect fun d => d.slots.filter isPublicName := by
  unfold slotNames ClassDecl.slots
  congr 1
  funext d
  cases d.kind <;> rfl

theorem Class.mem_slotNames {c : Class} {name : Text} :
    name ∈ c.slotNames ↔ isPublicName name = true ∧ c.HasSlot name := by
  rw [slotNames_eq]
  exact mem_collect_filter

/-- Does the object hold a value under the name: in a slot of its lineage, or, if it is open, as a free attribute? -/
def Object.Holds (o : Object) (name : Text) : Prop :=
  (o.cls.HasSlot name ∧ name ∈ Table.keys o.slots) ∨ (o.cls.isOpen = true ∧ name ∈ Table.keys o.stored)

instance (o : Object) (name : Text) : Decidable (o.Holds name) :=
  inferInstanceAs (Decidable ((o.cls.HasSlot name ∧ name ∈ Table.keys o.slots) ∨
    (o.cls.isOpen = true ∧ name ∈ Table.keys o.stored)))

theorem map_name_map {make : Text → Accessor} (named : ∀ name, (make name).name = name) (names : List Text) :
    (names.map make).map Accessor.name = names := by
  rw [List.map_map]
  exact (List.map_congr_left fun name _ => named name).trans (List.map_id names)

/-- A computed attribute is listed also when another accessor has its name. -/
theorem mem_names_withComputed {accessors : List Accessor} {computed : List Text} {name : Text} :
    name ∈ (Bag.withComputed accessors computed).map Accessor.name ↔
      name ∈ accessors.map Accessor.name ∨ name ∈ computed := by
  rw [Bag.withComputed, List.map_append, map_name_map fun _ => rfl, List.mem_append, List.mem_filter]
  by_cases taken : name ∈ accessors.map Accessor.name
  · simp [taken]
  · simp [taken]

section Plain

variable {o : Object} (unchecked : o.cls.isRecord = false) (undated : o.cls.isDataclass = false)
  (untupled : o.cls.elements? = none)

include unchecked undated untupled

/-- The accessors of an object that is no validated one, no data object and no tuple are made from its free attributes
if it is open, and else from its slots. -/
theorem classAccessors_plain :
    Bag.classAccessors o.cls o.ownNames =
      if o.cls.isOpen then Bag.withComputed (o.publicStored.map Bag.pathAccessor) o.cls.computedNames
      else Bag.withComputed (o.cls.slotNames.map fun name => ⟨name, .slot name⟩) o.cls.computedNames := by
  rw [Bag.classAccessors, Object.ownNames, unchecked, undated, untupled]
  rfl

theorem mem_names_plain {name : Text} (isPublic : isPublicName name = true) :
    name ∈ (Bag.classAccessors o.cls o.ownNames).map Accessor.name ↔
      (if o.cls.isOpen then name ∈ Table.keys o.stored else o.cls.HasSlot name) ∨ name ∈ o.cls.computedNames := by
  rw [classAccessors_plain unchecked undated untupled]
  cases o.cls.isOpen with
  | true =>
    rw [if_pos rfl, if_pos rfl, mem_names_withComputed, map_name_map fun _ => rfl, Object.publicStored,
      List.mem_filter, and_iff_left isPublic]
  | false =>
    rw [if_neg Bool.false_ne_true, if_neg Bool.false_ne_true, mem_names_withComputed, map_name_map fun _ => rfl,
      Class.mem_slotNames, and_iff_right isPublic]

/-- A public name under which the object holds a value is listed unless the object is open and holds the value in a slot
alone, where no computed attribute of its class has the name either. -/
theorem accessors_list_held :
    ∃ accessors, (Bag.object o).accessors = .ok accessors ∧
      ∀ name, isPublicName name = true → o.Holds name →
        (name ∈ accessors.names ↔
          o.cls.isOpen = false ∨ name ∈ Table.keys o.stored ∨ name ∈ o.cls.computedNames) := by
  refine ⟨_, rfl, fun name isPublic held => ?_⟩
  change name ∈ (Bag.classAccessors o.cls o.ownNames).map Accessor.name ↔ _
  rw [mem_names_plain unchecked undated untupled isPublic]
  cases opened : o.cls.isOpen with
  | true => simp
  | false =>
    -- A closed object has no free attributes, so the value stands in a slot.
    have slot : o.cls.HasSlot name := by
      rcases held with ⟨slot, _⟩ | ⟨free, _⟩
      · exact slot
      · exact absurd (opened.symm.trans free) Bool.false_ne_true
    simp [slot]

end Plain

def slotAndDictionary : Class := Class.declare [] { name := "A", kind := .slotted (.several ["a", "__dict__"]) }

/-- An object of that class with a value in the slot and a free attribute `c`. -/
def slotAndFree : Object := Object.make slotAndDictionary [("a", .int 1), ("c", .int 2)]

theorem accessors_list_held_dictionary :
    ∃ accessors, (Bag.object slotAndFree).accessors = .ok accessors ∧
      Text.ofString "c" ∈ accessors.names ∧ Text.ofString "a" ∉ accessors.names := by
  obtain ⟨accessors, known, listed⟩ := accessors_list_held (o := slotAndFree) (by decide) (by decide) (by decide)
  refine ⟨accessors, known, (listed "c" (by decide) (by decide)).mpr (by decide), fun inside => ?_⟩
  exact absurd ((listed "a" (by decide) (by decide)).mp inside) (by decide)

def openOverSlot : Class :=
  Class.declare [Class.declare [] { name := "A", kind := .slotted (.several ["a"]) }] { name := "B", bases := ["A"] }

/-- An object of the open class holds a value in the slot beneath, and only its free attribute is listed. -/
theorem accessors_leave_out_slot :
    let o := Object.make openOverSlot [("a", .int 1), ("c", .int 2)]
    o.Holds "a" ∧ (Bag.object o).accessors.map Accessors.names = .ok ["c"] :=
  ⟨by decide, rfl⟩

end RouteTemplate
