import RouteTemplate.Proofs.Bag.Shape
import RouteTemplate.Proofs.Cache.Mappings

set_option autoImplicit false

namespace RouteTemplate

/-- Two data classes of one type have fields of the same names. -/
def FieldsAlike (first second : Class) : Prop :=
  first.isDataclass = true → second.isDataclass = true → first.typeName = second.typeName →
    first.fields.map Field.name = second.fields.map Field.name

instance (first second : Class) : Decidable (FieldsAlike first second) :=
  inferInstanceAs (Decidable (first.isDataclass = true → second.isDataclass = true → first.typeName = second.typeName →
    first.fields.map Field.name = second.fields.map Field.name))

section Itself

variable {c first second : Class} {above above' : Inherited}

theorem shape_dataclass (data : c.isDataclass = true) : (Bag.classItself c above).shape = .ok (.fixed (.known c.typeName)) := by
  rw [Bag.shape, if_pos data]

theorem shape_plainClass (undated : c.isDataclass = false) :
    (Bag.classItself c above).shape = .ok (.named (.known c.typeName) (c.publicMembers.map .text)) := by
  rw [Bag.shape, undated, if_neg Bool.false_ne_true]

theorem accessors_dataclass (data : c.isDataclass = true) :
    (Bag.classItself c above).accessors = .ok (.ofList ((c.fields.map Field.name).map Bag.pathAccessor)) := by
  rw [Bag.accessors, Bag.accessorList, if_pos data, List.map_map]
  rfl

theorem accessors_plainClass (undated : c.isDataclass = false) :
    (Bag.classItself c above).accessors = .ok (.ofList (c.publicMembers.map Bag.pathAccessor)) := by
  rw [Bag.accessors, Bag.accessorList, undated, if_neg Bool.false_ne_true]
  rfl

/-- Classes of one shape have the same accessors if, being data classes, they have fields of the same names. -/
theorem agree_of_fieldsAlike (alike : FieldsAlike first second) :
    (Bag.classItself first above).Agree (.classItself second above') := by
  intro shape other one two same
  cases data : first.isDataclass with
  | true =>
    cases data' : second.isDataclass with
    | true =>
      cases (shape_dataclass data).symm.trans one
      cases (shape_dataclass data').symm.trans two
      have types : first.typeName = second.typeName := by simpa [Shape.same] using same
      rw [accessors_dataclass data, accessors_dataclass data', alike data data' types]
    | false =>
      cases (shape_dataclass data).symm.trans one
      cases (shape_plainClass data').symm.trans two
      cases same
  | false =>
    cases data' : second.isDataclass with
    | true =>
      cases (shape_plainClass data).symm.trans one
      cases (shape_dataclass data').symm.trans two
      cases same
    | false =>
      cases (shape_plainClass data).symm.trans one
      cases (shape_plainClass data').symm.trans two
      simp only [Shape.same, Bool.and_eq_true] at same
      rw [accessors_plainClass data, accessors_plainClass data', eq_of_sameKeys same.2]

end Itself

/-- A class, whatever it has from its type besides, is resolved as though no other had been before it, unless both are
data classes of one type whose fields differ in their names. Then, on a resolver that knows no shape yet, the second class
goes by the accessors of the first, which are not its own. -/
theorem resolveCached_after_class (first second : Class) (above above' : Inherited) :
    (FieldsAlike first second → ∀ settings caches text next,
      (resolveCached settings (resolveCached settings caches text (some (.classItself first above))).caches next
          (some (.classItself second above'))).result =
        (resolveCached settings caches next (some (.classItself second above'))).result) ∧
      (¬FieldsAlike first second → ∀ settings text, refused settings text (Template.parse text) = none →
        (resolveCached settings {} text (some (.classItself first above))).caches.shapes.accessorsFor
              (.classItself second above') = (Bag.classItself first above).accessors ∧
          (Bag.classItself first above).accessors ≠ (Bag.classItself second above').accessors) := by
  constructor
  · intro alike settings caches text next
    exact resolveCached_after settings caches (agree_of_fieldsAlike alike) text next
  · intro unlike settings text admitted
    simp only [FieldsAlike, Classical.not_imp] at unlike
    obtain ⟨data, data', types, different⟩ := unlike
    have met : (Shape.fixed (.known first.typeName)).same (.fixed (.known second.typeName)) = true := by
      simp [Shape.same, types]
    rw [accessors_dataclass data, accessors_dataclass data']
    refine ⟨accessorsFor_after_first settings admitted (shape_dataclass data) (accessors_dataclass data)
      (shape_dataclass data') met, fun same => different ?_⟩
    have lists := congrArg Accessors.toList (Except.ok.inj same)
    exact (List.map_inj_right fun _ _ one => congrArg Accessor.name one).mp lists

def dataclassOf (name field : Text) (default : Value) : Class :=
  Class.declare [] { name, kind := .dataclass [⟨field, .kept, some default⟩] false }

/-- Two data classes with the same field and other defaults, and two without a field in common. -/
theorem resolveCached_after_class_defaults :
    let first : Class := dataclassOf "A" "x" (.int 1)
    let second : Class := dataclassOf "B" "x" (.text "a/b")
    let third : Class := dataclassOf "C" "y" (.int 2)
    let after := (resolveCached {} {} "/a" (some (.classItself first))).caches
    FieldsAlike first second ∧ ¬FieldsAlike first third ∧
      (resolveCached {} after "/\x7bX\x7d" (some (.classItself second))).result = .ok "/a%2Fb" ∧
      after.shapes.accessorsFor (.classItself third) = (Bag.classItself first).accessors := by
  intro first second third after
  have alike : FieldsAlike first second := by decide
  have unlike : ¬FieldsAlike first third := by decide
  have same := (resolveCached_after_class first second {} {}).1 alike {} {} "/a" "/\x7bX\x7d"
  have other := (resolveCached_after_class first third {} {}).2 unlike {} "/a" rfl
  exact ⟨alike, unlike, same.trans rfl, other.1⟩

/-- After a data class with a field `x`, one with a field `y` is asked for an attribute `x` that it does not have. -/
theorem resolveCached_after_class_confused :
    let first : Bag := .classItself (dataclassOf "A" "x" (.int 1))
    let second : Bag := .classItself (dataclassOf "B" "y" (.int 2))
    let after := (resolveCached {} {} "/a" (some first)).caches
    (resolveCached {} {} "/a" (some second)).result = .ok "/a?y=2" ∧
      (resolveCached {} after "/a" (some second)).result = .error (.noAttribute (.classObject "B") "x") :=
  ⟨rfl, rfl⟩

end RouteTemplate
