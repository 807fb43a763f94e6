import RouteTemplate.Proofs.Bag.Forms
import RouteTemplate.Proofs.Except

/-!
What is read of a validated object. Its fields are listed under their outer names and read under their own, and its
extras are read as attributes too. So one name may be asked of two things: an extra counts last, behind the views and
methods that every validated object has, behind whatever else it has from its type, and behind the fields, also those that
have another outer name. A key with a dot in it is followed as a path and never asked for as a whole.
-/

set_option autoImplicit false

namespace RouteTemplate

variable {o : Object} {bag : Bag} {name : Text} {v : Value}

/-- The accessor of a field: listed under its outer name, read under its own. -/
def RecordField.accessor (f : RecordField) : Accessor := ⟨f.parameterName, .path (Text.splitOn '.' f.name)⟩

/-- The names of the views that a validated object has of its class. -/
def classViewNames : List Text := ["model_fields", "model_computed_fields", "__doc__", "__module__"]

theorem keys_recordClassViews (o : Object) : Table.keys o.recordClassViews = classViewNames := rfl

/-- Does a validated object answer to the name without looking among its extras? -/
def Object.Answers (o : Object) (name : Text) : Prop :=
  name ∈ viewNames ∨ name ∈ Table.keys o.stored ∨ name ∈ classViewNames ∨ isRecordMethod name = true ∨
    (o.above.ofBag name).isSome = true

instance (o : Object) (name : Text) : Decidable (o.Answers name) :=
  inferInstanceAs (Decidable (name ∈ viewNames ∨ name ∈ Table.keys o.stored ∨ name ∈ classViewNames ∨
    isRecordMethod name = true ∨ (o.above.ofBag name).isSome = true))

theorem recordMethod?_eq_none_iff : o.recordMethod? name = none ↔ isRecordMethod name = false := by
  unfold Object.recordMethod? isRecordMethod
  by_cases options : name = Class.optionsName
  · simp [options]
  · cases recordMethodNames.contains name
    · cases recordClassMethodNames.contains name <;> simp [options]
    · simp [options]

theorem undeclared?_eq_none_iff (validated : o.cls.isRecord = true) : o.undeclared? name = none ↔ ¬o.Answers name := by
  unfold Object.undeclared? Object.shown? Object.Answers
  rw [if_pos validated]
  simp only [Option.orElse_eq_or, Option.or_eq_none_iff, Table.get?_eq_none_iff, keys_recordViews, keys_recordClassViews,
    recordMethod?_eq_none_iff, not_or, Bool.not_eq_true, Option.isSome_eq_false_iff, Option.isNone_iff_eq_none, and_assoc]

section Read

/-- A path fails with its first attribute. -/
theorem read_path_error {first rest : Text} {e : ResolveError} (undotted : CodePoint.ofChar '.' ∉ first)
    (failed : bag.readAttribute first = .error e) :
    bag.read (.path (Text.splitOn '.' (first ++ CodePoint.ofChar '.' :: rest))) = .error e := by
  rw [read_dotted undotted, failed]
  rfl

variable (free : o.cls.member? name = none)

include free

theorem readAttribute_of_silent (silent : o.undeclared? name = none) :
    o.readAttribute name =
      match Table.get? name o.extras with
      | some v => .ok v
      | none => .error (o.noAttribute name) := by
  unfold Object.readAttribute Object.attributeWithin
  rw [free, silent]
  rfl

/-- Under a name that the class does not declare, an object reads what it answers with, and else its extra. -/
theorem readAttribute_undeclared_iff (held : Table.get? name o.extras = some v) :
    o.readAttribute name = .ok v ↔ ∀ w, o.undeclared? name = some w → w = v := by
  cases answer : o.undeclared? name with
  | none =>
    rw [readAttribute_of_silent free answer, held]
    simp
  | some w =>
    rw [readAttribute_of_undeclared free answer]
    simp

/-- A stored value is read unless a view has its name. -/
theorem readAttribute_stored_iff (validated : o.cls.isRecord = true) (held : Table.get? name o.stored = some v) :
    o.readAttribute name = .ok v ↔ ∀ w, Table.get? name o.recordViews = some w → w = v := by
  have answer : o.shown? name = some ((Table.get? name o.recordViews).getD v) := by
    rw [Object.shown?, if_pos validated, held]
    cases Table.get? name o.recordViews <;> rfl
  rw [readAttribute_of_undeclared free (undeclared?_of_shown answer)]
  cases Table.get? name o.recordViews <;> simp

end Read

section Made

variable {cls : Class} {given : List (Text × Value)} {key : Text}

/-- An object is made with values under the names of its fields and no others. -/
theorem keys_stored_ofRecord (stored : key ∈ Table.keys (Object.ofRecord cls given).stored) :
    ∃ f ∈ cls.recordFields, f.name = key := by
  obtain ⟨entry, inside, rfl⟩ := List.mem_map.mp stored
  obtain ⟨f, field, filled⟩ := List.mem_filterMap.mp inside
  refine ⟨f, field, ?_⟩
  split at filled
  all_goals
    obtain ⟨_, _, rfl⟩ := Option.map_eq_some_iff.mp filled
    rfl

/-- Whatever else a caller gives to a validated class that keeps extras, a value under a key that is no path, names no
field and is not one of the names that its objects answer to anyway is read back. -/
theorem read_extra_of_make (validated : cls.isRecord = true) (above : Inherited)
    (held : Table.get? key (Object.make cls given).extras = some v) (undotted : CodePoint.ofChar '.' ∉ key)
    (free : cls.member? key = none) (unnamed : ∀ f ∈ cls.recordFields, f.name ≠ key)
    (unreserved : key ∉ viewNames ∧ key ∉ classViewNames ∧ isRecordMethod key = false ∧ above.ofBag key = none) :
    (Bag.object { Object.make cls given with above }).read (Bag.pathAccessor key).reader = .ok v := by
  have made : Object.make cls given = Object.ofRecord cls given := if_pos validated
  rw [made] at held ⊢
  obtain ⟨unviewed, ofClass, method, alone⟩ := unreserved
  have silent : ¬{ Object.ofRecord cls given with above }.Answers key := by
    rintro (view | stored | view | called | inherited)
    · exact unviewed view
    · obtain ⟨f, field, same⟩ := keys_stored_ofRecord stored
      exact unnamed f field same
    · exact ofClass view
    · exact absurd (method.symm.trans called) Bool.false_ne_true
    · rw [alone] at inherited
      cases inherited
  have nothing := (undeclared?_eq_none_iff (o := { Object.ofRecord cls given with above }) validated).mpr silent
  rw [Bag.pathAccessor, read_path undotted]
  exact (readAttribute_of_silent free nothing).trans (by rw [held])

end Made

/-- The accessors of a validated object are those of its fields and behind them those of its extras. -/
theorem classAccessors_record (validated : o.cls.isRecord = true) :
    Bag.classAccessors o.cls o.ownNames =
      o.cls.recordFields.map RecordField.accessor ++ (Table.keys o.extras).map Bag.pathAccessor := by
  rw [Bag.classAccessors, Object.ownNames, if_pos validated, if_pos validated]
  rfl

/-- Every field and every extra of a validated object has an accessor, whatever the object and the values in it have from
their types. For a name that is no path and that the class does not declare otherwise, the accessor of a field reads the
value of the field unless a view of the object has the name of the field, and the accessor of an extra reads the extra
unless the object answers to its key with something else. The accessor of an extra whose key has a dot in it reads the extra
only if that is what is found along the path, and fails if the object has nothing under what stands in front. -/
theorem record_accessors_read (o : Object) (validated : o.cls.isRecord = true) :
    ∃ accessors, (Bag.object o).accessors = .ok accessors ∧
      accessors.toList = o.cls.recordFields.map RecordField.accessor ++ (Table.keys o.extras).map Bag.pathAccessor ∧
      (∀ f ∈ o.cls.recordFields, ∀ v, Table.get? f.name o.stored = some v → CodePoint.ofChar '.' ∉ f.name →
        o.cls.member? f.name = none →
        ((Bag.object o).read f.accessor.reader = .ok v ↔
          ∀ w, Table.get? f.name o.recordViews = some w → w = v)) ∧
      (∀ key v, Table.get? key o.extras = some v → CodePoint.ofChar '.' ∉ key → o.cls.member? key = none →
        ((Bag.object o).read (Bag.pathAccessor key).reader = .ok v ↔ ∀ w, o.undeclared? key = some w → w = v)) ∧
      ∀ first rest v, Table.get? (first ++ CodePoint.ofChar '.' :: rest) o.extras = some v → CodePoint.ofChar '.' ∉ first →
        let reader := (Bag.pathAccessor (first ++ CodePoint.ofChar '.' :: rest)).reader
        ((Bag.object o).read reader = .ok v ↔
          ∃ w, o.readAttribute first = .ok w ∧ Bag.follow o.above w (Text.splitOn '.' rest) = .ok v) ∧
        (o.cls.member? first = none → ¬o.Answers first → first ∉ Table.keys o.extras →
          (Bag.object o).read reader = .error (o.noAttribute first)) := by
  refine ⟨_, rfl, classAccessors_record validated, ?fields, ?extras, ?paths⟩
  case fields =>
    intro f _ v held undotted free
    rw [RecordField.accessor, read_path undotted]
    exact readAttribute_stored_iff free validated held
  case extras =>
    intro key v held undotted free
    rw [Bag.pathAccessor, read_path undotted]
    exact readAttribute_undeclared_iff free held
  case paths =>
    intro first rest v _ undotted reader
    constructor
    · change (Bag.object o).read (.path (Text.splitOn '.' (first ++ CodePoint.ofChar '.' :: rest))) = .ok v ↔ _
      rw [read_dotted undotted]
      exact bind_eq_ok
    · intro free silent absent
      apply read_path_error undotted
      have nothing := readAttribute_of_silent free ((undeclared?_eq_none_iff validated).mpr silent)
      rw [Table.get?_eq_none_iff.mpr absent] at nothing
      exact nothing

/-- A validated class that keeps extras, with one field `user_id` that is given as `userId`. -/
def aliased : Class :=
  Class.declare [] { name := "M", kind := .record [⟨"user_id", some "userId", none, none⟩] { extras := some true } }

/-- An object of that class with the value 1 for its field and the value 5 for one extra. -/
def withExtra (key : Text) : Object := Object.make aliased [("userId", .int 1), (key, .int 5)]

/-- What such an object has from its type besides, told of one name. -/
def comparable : Inherited where
  ofBag name := if name = Text.ofString "__eq__" then some (.boundMethod "BaseModel.__eq__" "M(user_id=1, __eq__=5)") else none

theorem record_accessors_read_aliased :
    (Bag.object (withExtra "note")).read (.path ["user_id"]) = .ok (.int 1) ∧
      (Bag.object (withExtra "note")).read (Bag.pathAccessor "note").reader = .ok (.int 5) ∧
      (Bag.object { withExtra "__eq__" with above := comparable }).read (Bag.pathAccessor "__eq__").reader ≠
        .ok (.int 5) ∧
      (Bag.object (withExtra "a.b")).read (Bag.pathAccessor "a.b").reader =
        .error (.noAttribute (.record "M") "a") := by
  have unviewed : Table.get? (Text.ofString "user_id") (withExtra "note").recordViews = none := by rfl
  have silent : ¬(withExtra "note").Answers "note" := by decide +kernel
  have nothing : ¬(withExtra "a.b").Answers "a" := by decide +kernel
  obtain ⟨_, _, _, fields, extras, _⟩ := record_accessors_read (withExtra "note") rfl
  obtain ⟨_, _, _, _, inherited, _⟩ := record_accessors_read { withExtra "__eq__" with above := comparable } rfl
  obtain ⟨_, _, _, _, _, paths⟩ := record_accessors_read (withExtra "a.b") rfl
  refine ⟨?_, ?_, ?_, ?_⟩
  · refine (fields ⟨"user_id", some "userId", none, none⟩ (by decide) (.int 1) rfl (by decide) rfl).mpr ?_
    rw [unviewed]
    exact nofun
  · refine (extras "note" (.int 5) rfl (by decide) rfl).mpr ?_
    rw [(undeclared?_eq_none_iff rfl).mpr silent]
    exact nofun
  · intro read
    cases (inherited "__eq__" (.int 5) rfl (by decide) rfl).mp read _ rfl
  · exact (paths "a" "b" (.int 5) rfl (by decide)).2 rfl nothing (by decide)

/-- An extra whose key is the own name of a field with another outer name is listed, and what is read is the field. -/
theorem record_extra_reads_field :
    (Bag.object (withExtra "user_id")).accessors.map Accessors.toList =
        .ok [⟨"userId", .path ["user_id"]⟩, ⟨"user_id", .path ["user_id"]⟩] ∧
      Table.get? (Text.ofString "user_id") (withExtra "user_id").extras = some (.int 5) ∧
      (Bag.object (withExtra "user_id")).read (Bag.pathAccessor "user_id").reader = .ok (.int 1) :=
  ⟨rfl, rfl, rfl⟩

end RouteTemplate
