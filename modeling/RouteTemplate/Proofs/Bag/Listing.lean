import Mathlib.Data.List.Nodup
import RouteTemplate.Proofs.Bag.Held
import RouteTemplate.Proofs.Table

set_option autoImplicit false

namespace RouteTemplate

namespace Class

section Collect

variable {found : List Text}

/-- What was found before keeps its place. -/
theorem prefix_addNew (names : List Text) : found <+: addNew found names := by
  induction names generalizing found with
  | nil => exact List.prefix_rfl
  | cons name names ih =>
    rw [addNew, List.foldl_cons, ← addNew]
    split
    · exact ih
    · exact (List.prefix_append found [name]).trans ih

theorem nodup_addNew (distinct : found.Nodup) (names : List Text) : (addNew found names).Nodup := by
  induction names generalizing found with
  | nil => exact distinct
  | cons name names ih =>
    rw [addNew, List.foldl_cons, ← addNew]
    split
    · exact ih distinct
    · next absent =>
      have added : (found.concat name).Nodup := List.Nodup.concat absent distinct
      rw [List.concat_eq_append] at added
      exact ih added

variable {names : ClassDecl → List Text}

theorem prefix_foldl_addNew (line : List ClassDecl) :
    found <+: line.foldl (fun found d => addNew found (names d)) found := by
  induction line generalizing found with
  | nil => exact List.prefix_rfl
  | cons d line ih => exact (prefix_addNew (names d)).trans ih

theorem nodup_foldl_addNew (distinct : found.Nodup) (line : List ClassDecl) :
    (line.foldl (fun found d => addNew found (names d)) found).Nodup := by
  induction line generalizing found with
  | nil => exact distinct
  | cons d line ih => exact ih (nodup_addNew distinct (names d))

/-- However many classes of the lineage declare a name, it is collected once. -/
theorem nodup_collect (c : Class) : (c.collect names).Nodup :=
  nodup_foldl_addNew List.nodup_nil c.lineage.reverse

/-- Wherever the lineage is cut, the names of the classes further away are collected before all others. -/
theorem exists_collect_append (names : ClassDecl → List Text) {c : Class} {nearer further : List ClassDecl}
    (line : c.lineage = nearer ++ further) :
    ∃ front rest, c.collect names = front ++ rest ∧ ∀ name, name ∈ front ↔ ∃ d ∈ further, name ∈ names d := by
  have cut : further.reverse.foldl (fun found d => addNew found (names d)) [] <+: c.collect names := by
    rw [collect, line, List.reverse_append, List.foldl_append]
    exact prefix_foldl_addNew nearer.reverse
  obtain ⟨rest, whole⟩ := cut
  refine ⟨_, rest, whole.symm, fun name => ?_⟩
  rw [mem_foldl_addNew, or_iff_right List.not_mem_nil]
  simp only [List.mem_reverse]

end Collect

/-- Do the names of a class stand before those that a class derived from it declares first? In the lineage a class
stands nearer than those it derives from, and a name is declared first where no class further away declares it. -/
def BaseFirst (c : Class) (declares : ClassDecl → List Text) (names : List Text) : Prop :=
  ∀ nearer derived further, c.lineage = nearer ++ derived :: further →
    ∀ base ∈ further, ∀ early ∈ declares base, ∀ late ∈ declares derived, (∀ d ∈ further, late ∉ declares d) →
      early ∈ names → late ∈ names → [early, late].Sublist names

theorem baseFirst_collect (c : Class) (declares : ClassDecl → List Text) (listed : Text → Bool) :
    c.BaseFirst declares (c.collect fun d => (declares d).filter listed) := by
  intro nearer derived further line base below early inBase late _ first earlyIn lateIn
  rw [List.append_cons] at line
  obtain ⟨front, rest, whole, mem_front⟩ := exists_collect_append (fun d => (declares d).filter listed) line
  have early_front : early ∈ front := by
    have shown : listed early = true := (mem_collect_filter.mp earlyIn).1
    exact (mem_front early).mpr ⟨base, below, List.mem_filter.mpr ⟨inBase, shown⟩⟩
  have late_rest : late ∈ rest := by
    rw [whole, List.mem_append] at lateIn
    refine lateIn.resolve_left fun collected => ?_
    obtain ⟨d, inside, kept⟩ := (mem_front late).mp collected
    exact first d inside (List.mem_filter.mp kept).1
  rw [whole]
  exact (List.singleton_sublist.mpr early_front).append (List.singleton_sublist.mpr late_rest)

theorem BaseFirst.filter {c : Class} {declares : ClassDecl → List Text} {names : List Text}
    (ordered : c.BaseFirst declares names) (kept : Text → Bool) : c.BaseFirst declares (names.filter kept) := by
  intro nearer derived further line base below early inBase late inDerived first earlyIn lateIn
  rw [List.mem_filter] at earlyIn lateIn
  have whole := ordered nearer derived further line base below early inBase late inDerived first earlyIn.1 lateIn.1
  have both : [early, late].filter kept = [early, late] := by
    rw [List.filter_cons_of_pos earlyIn.2, List.filter_cons_of_pos lateIn.2, List.filter_nil]
  exact both ▸ whole.filter kept

def HasComputed (c : Class) (name : Text) : Prop := ∃ d ∈ c.lineage, name ∈ Table.keys d.computed

instance (c : Class) (name : Text) : Decidable (c.HasComputed name) :=
  inferInstanceAs (Decidable (∃ d ∈ c.lineage, name ∈ Table.keys d.computed))

theorem mem_computedNames {c : Class} {name : Text} :
    name ∈ c.computedNames ↔ isPublicName name = true ∧ c.HasComputed name :=
  mem_collect_filter

end Class

namespace Object

/-- An object as it comes about: without values at first, then changed step by step. -/
inductive Built : Object → Prop where
  | bare (cls : Class) (above : Inherited) : Built { cls, above }
  | set {o : Object} (built : Built o) (name : Text) (v : Value) : Built (o.set name v)
  | store {o : Object} (built : Built o) (name : Text) (v : Value) : Built (o.store name v)
  | delete {o : Object} (built : Built o) (name : Text) : Built (o.delete name)

/-- Setting an attribute puts its value among the stored ones or leaves them as they are. -/
theorem stored_set (o : Object) (name : Text) (v : Value) :
    (o.set name v).stored = Table.put name v o.stored ∨ (o.set name v).stored = o.stored := by
  unfold set
  split
  · exact .inr rfl
  · exact .inr rfl
  · exact .inr rfl
  · split
    · split
      · exact .inl rfl
      · split
        · exact .inr rfl
        · exact .inr rfl
    · split
      · exact .inl rfl
      · exact .inr rfl

theorem stored_delete (o : Object) (name : Text) :
    (o.delete name).stored = Table.erase name o.stored ∨ (o.delete name).stored = o.stored := by
  unfold delete
  split
  · exact .inr rfl
  · split
    · exact .inl rfl
    · exact .inr rfl

/-- However an object is changed, it stores one value under a name. -/
theorem Built.nodup_stored {o : Object} (built : o.Built) : (Table.keys o.stored).Nodup := by
  induction built with
  | bare cls => exact List.nodup_nil
  | @set o _ name v ih =>
    rcases o.stored_set name v with put | kept
    · exact put ▸ Table.nodup_keys_put ih name v
    · exact kept ▸ ih
  | store _ name v ih => exact Table.nodup_keys_put ih name v
  | @delete o _ name ih =>
    rcases o.stored_delete name with erased | kept
    · exact erased ▸ Table.nodup_keys_erase ih name
    · exact kept ▸ ih

theorem Built.foldl_set {o : Object} (built : o.Built) (given : List (Text × Value)) :
    (given.foldl (fun o entry => o.set entry.1 entry.2) o).Built := by
  induction given generalizing o with
  | nil => exact built
  | cons entry given ih => exact ih (built.set entry.1 entry.2)

/-- Objects are made by setting values one after another, unless their class declares fields. -/
theorem built_make {cls : Class} (unchecked : cls.isRecord = false) (undated : cls.isDataclass = false)
    (untupled : cls.elements? = none) (given : List (Text × Value)) : (make cls given).Built := by
  unfold make
  rw [unchecked, undated, untupled]
  exact (Built.bare cls {}).foldl_set given

/-- Is it a name that the object lists as a stored one: that of a free attribute if the object is open, and of a slot
if it is not? -/
def Stores (o : Object) (name : Text) : Prop :=
  if o.cls.isOpen then name ∈ Table.keys o.stored else o.cls.HasSlot name

instance (o : Object) (name : Text) : Decidable (o.Stores name) :=
  inferInstanceAs (Decidable (if o.cls.isOpen then name ∈ Table.keys o.stored else o.cls.HasSlot name))

/-- The public names that the object lists as stored ones. -/
def storedNames (o : Object) : List Text := if o.cls.isOpen then o.publicStored else o.cls.slotNames

def storedAccessor (o : Object) (name : Text) : Accessor :=
  if o.cls.isOpen then Bag.pathAccessor name else ⟨name, .slot name⟩

/-- The public computed attributes that no stored name hides. -/
def shownComputed (o : Object) : List Text := o.cls.computedNames.filter fun name => !(o.storedNames.contains name)

variable {o : Object} {name : Text}

@[simp] theorem name_storedAccessor : (o.storedAccessor name).name = name := by
  unfold storedAccessor
  split <;> rfl

theorem mem_storedNames : name ∈ o.storedNames ↔ isPublicName name = true ∧ o.Stores name := by
  unfold storedNames Stores
  split
  · rw [publicStored, List.mem_filter, and_comm]
  · exact Class.mem_slotNames

theorem mem_shownComputed :
    name ∈ o.shownComputed ↔ isPublicName name = true ∧ o.cls.HasComputed name ∧ ¬o.Stores name := by
  rw [shownComputed, List.mem_filter, Class.mem_computedNames, Bool.not_eq_true', ← Bool.not_eq_true,
    List.contains_iff_mem, mem_storedNames]
  constructor
  · rintro ⟨⟨isPublic, computed⟩, free⟩
    exact ⟨isPublic, computed, fun stored => free ⟨isPublic, stored⟩⟩
  · rintro ⟨isPublic, computed, free⟩
    exact ⟨⟨isPublic, computed⟩, fun stored => free stored.2⟩

theorem nodup_storedNames (built : o.Built) : o.storedNames.Nodup := by
  unfold storedNames
  split
  · exact List.filter_sublist.nodup built.nodup_stored
  · exact o.cls.nodup_collect

theorem nodup_listed (built : o.Built) : (o.storedNames ++ o.shownComputed).Nodup := by
  refine List.nodup_append.mpr ⟨nodup_storedNames built, List.filter_sublist.nodup o.cls.nodup_collect, ?_⟩
  rintro name stored other computed rfl
  exact (mem_shownComputed.mp computed).2.2 (mem_storedNames.mp stored).2

theorem slots_ordered (closed : o.cls.isOpen = false) : o.cls.BaseFirst ClassDecl.slots o.storedNames := by
  rw [storedNames, closed, if_neg Bool.false_ne_true, Class.slotNames_eq]
  exact o.cls.baseFirst_collect ClassDecl.slots isPublicName

theorem computed_ordered : o.cls.BaseFirst (fun d => Table.keys d.computed) o.shownComputed :=
  (o.cls.baseFirst_collect (fun d => Table.keys d.computed) isPublicName).filter _

/-- What holds of the names that an object lists: first those under which it stores values, then those of computed
attributes. -/
structure Listing (o : Object) (stored computed : List Text) : Prop where
  distinct : (stored ++ computed).Nodup
  isPublic : ∀ name ∈ stored ++ computed, isPublicName name = true
  mem_stored : ∀ name, name ∈ stored ↔ isPublicName name = true ∧ o.Stores name
  mem_computed : ∀ name ∈ computed, o.cls.HasComputed name
  /-- The slots of a class come before those that a class derived from it declares first. -/
  slots_ordered : o.cls.isOpen = false → o.cls.BaseFirst ClassDecl.slots stored
  /-- So do its computed attributes. -/
  computed_ordered : o.cls.BaseFirst (fun d => Table.keys d.computed) computed
  /-- A computed attribute, wherever in the lineage, is listed once: as such unless a stored name hides it. -/
  computed_once : ∀ name, isPublicName name = true → o.cls.HasComputed name →
    (stored ++ computed).count name = 1 ∧ (name ∈ computed ↔ ¬o.Stores name)

theorem listing_of_built (built : o.Built) : o.Listing o.storedNames o.shownComputed where
  distinct := nodup_listed built
  isPublic name listed := by
    rcases List.mem_append.mp listed with stored | computed
    · exact (mem_storedNames.mp stored).1
    · exact (mem_shownComputed.mp computed).1
  mem_stored _ := mem_storedNames
  mem_computed _ computed := (mem_shownComputed.mp computed).2.1
  slots_ordered := slots_ordered
  computed_ordered := computed_ordered
  computed_once name isPublic has := by
    have shown : name ∈ o.shownComputed ↔ ¬o.Stores name := by
      rw [mem_shownComputed, and_iff_right isPublic, and_iff_right has]
    have listed : name ∈ o.storedNames ++ o.shownComputed := by
      rw [List.mem_append, mem_storedNames, and_iff_right isPublic, shown]
      exact Classical.em (o.Stores name)
    exact ⟨(nodup_listed built).count.trans (if_pos listed), shown⟩

section Plain

variable (unchecked : o.cls.isRecord = false) (undated : o.cls.isDataclass = false) (untupled : o.cls.elements? = none)

include unchecked undated untupled

theorem classAccessors_eq :
    Bag.classAccessors o.cls o.ownNames =
      o.storedNames.map o.storedAccessor ++ o.shownComputed.map Bag.pathAccessor := by
  have assembled (names : List Text) (make : Text → Accessor) (named : ∀ name, (make name).name = name) :
      Bag.withComputed (names.map make) o.cls.computedNames =
        names.map make ++ (o.cls.computedNames.filter fun name => !(names.contains name)).map Bag.pathAccessor := by
    rw [Bag.withComputed, map_name_map named]
  rw [classAccessors_plain unchecked undated untupled]
  unfold shownComputed storedNames storedAccessor
  cases o.cls.isOpen with
  | true => exact assembled _ _ fun _ => rfl
  | false => exact assembled _ _ fun _ => rfl

/-- An object that is no validated one, no data object and no tuple lists the names that it stores values under, and
behind them the computed attributes of its lineage that none of those hides. No name is listed twice and none is
private; what a class declares stands before what a class derived from it adds. -/
theorem accessors_in_order (built : o.Built) :
    ∃ accessors stored computed, (Bag.object o).accessors = .ok accessors ∧
      accessors.toList = stored.map o.storedAccessor ++ computed.map Bag.pathAccessor ∧
      accessors.names = stored ++ computed ∧ o.Listing stored computed := by
  refine ⟨_, o.storedNames, o.shownComputed, rfl, classAccessors_eq unchecked undated untupled, ?_, listing_of_built built⟩
  change (Bag.classAccessors o.cls o.ownNames).map Accessor.name = _
  rw [classAccessors_eq unchecked undated untupled, List.map_append, map_name_map fun _ => name_storedAccessor,
    map_name_map fun _ => rfl]

end Plain

/-- A class with a single slot and two computed attributes, one of them private. -/
def slotBase : Class :=
  Class.declare [] { name := "A", kind := .slotted (.single "a"), computed := [("_h", .returns .absent), ("p", .reads "a")] }

/-- A class derived from it that lists the slot again behind one of its own, and computes `p` in its own way. -/
def slotDerived : Class :=
  Class.declare [slotBase]
    { name := "B", bases := ["A"], kind := .slotted (.several ["b", "a"])
      computed := [("r", .reads "b"), ("p", .returns (.int 2))] }

/-- A class derived from that one which computes what is a slot there. -/
def slotHidden : Class :=
  Class.declare [slotBase, slotDerived]
    { name := "C", bases := ["B"], kind := .slotted (.several []), computed := [("b", .returns (.int 3))] }

def overriding : Object := make slotHidden [("a", .int 1)]

theorem accessors_in_order_overriding :
    ∃ accessors stored computed, (Bag.object overriding).accessors = .ok accessors ∧
      accessors.names = stored ++ computed ∧ [Text.ofString "a", Text.ofString "b"].Sublist stored ∧
      [Text.ofString "p", Text.ofString "r"].Sublist computed ∧ accessors.names.count (Text.ofString "b") = 1 := by
  have built : overriding.Built := built_make rfl rfl rfl _
  obtain ⟨accessors, stored, computed, known, _, names, listing⟩ := accessors_in_order rfl rfl rfl built
  have line : overriding.cls.lineage = [slotHidden.decl] ++ slotDerived.decl :: [slotBase.decl] := rfl
  refine ⟨accessors, stored, computed, known, names, ?slots, ?computed, ?once⟩
  case slots =>
    exact listing.slots_ordered rfl _ _ _ line _ List.mem_cons_self "a" (by decide) "b" (by decide) (by decide)
      ((listing.mem_stored "a").mpr (by decide)) ((listing.mem_stored "b").mpr (by decide))
  case computed =>
    exact listing.computed_ordered _ _ _ line _ List.mem_cons_self "p" (by decide) "r" (by decide) (by decide)
      ((listing.computed_once "p" (by decide) (by decide)).2.mpr (by decide))
      ((listing.computed_once "r" (by decide) (by decide)).2.mpr (by decide))
  case once =>
    rw [names]
    exact (listing.computed_once "b" (by decide) (by decide)).1

end Object

end RouteTemplate
