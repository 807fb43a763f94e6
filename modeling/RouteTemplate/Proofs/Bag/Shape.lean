import RouteTemplate.Bag.Accessors

set_option autoImplicit false

namespace RouteTemplate

open Bag (pathAccessor classAccessors fractionAccessors uuidAccessors)

/-- Mappings under texts, objects and plain values, but no class itself. -/
def Bag.Regular : Bag → Prop
  | mapping _ entries => ∀ entry ∈ entries, ∃ key, entry.1 = Value.text key
  | classItself _ _ => False
  | _ => True

/-- The accessors of entries under texts, the first of which has a given index. -/
def entryReaders (index : Nat) (keys : List Value) : List Accessor :=
  ((keys.filterMap Value.textContent?).zipIdx index).map fun (key, index) => ⟨key, .entry index⟩

def Shape.accessorList : Shape → List Accessor
  | named (.mapping _) keys => entryReaders 0 keys
  | named (.declared c) own => classAccessors c (own.filterMap Value.textContent?)
  | named _ names => (names.filterMap Value.textContent?).map pathAccessor
  | fixed (.declared c) => classAccessors c []
  | fixed type => if type = .known "Fraction" then fractionAccessors else uuidAccessors 0

def Shape.Textual : Shape → Prop
  | named _ names => ∃ texts : List Text, names = texts.map Value.text
  | fixed _ => True

theorem filterMap_textContent? (texts : List Text) : (texts.map Value.text).filterMap Value.textContent? = texts := by
  induction texts with
  | nil => rfl
  | cons t texts ih =>
    have first : (Value.text t).textContent? = some t := rfl
    rw [List.map_cons, List.filterMap_cons_some first, ih]

/-- The names of the parts of an identifier do not hang on the identifier. -/
theorem uuidAccessors_eq (n : Nat) : uuidAccessors n = uuidAccessors 0 := by
  simp only [uuidAccessors, Value.uuidParts, Table.keys, List.map_cons]

theorem texts_of_keys {entries : List (Value × Value)}
    (keys : ∀ entry ∈ entries, ∃ key, entry.1 = Value.text key) :
    ∃ texts : List Text, entries.map (·.1) = texts.map Value.text := by
  induction entries with
  | nil => exact ⟨[], rfl⟩
  | cons entry entries ih =>
    obtain ⟨key, first⟩ := keys entry (by simp)
    obtain ⟨texts, rest⟩ := ih (fun other found => keys other (by simp [found]))
    exact ⟨key :: texts, by simp [first, rest]⟩

theorem entryAccessors_eq {entries : List (Value × Value)}
    (keys : ∀ entry ∈ entries, ∃ key, entry.1 = Value.text key) (index : Nat) :
    Bag.entryAccessors index entries = .ok (entryReaders index (entries.map (·.1))) := by
  induction entries generalizing index with
  | nil => rfl
  | cons entry entries ih =>
    obtain ⟨key, value⟩ := entry
    obtain ⟨t, rfl⟩ := keys (key, value) (by simp)
    have rest := ih (fun other found => keys other (by simp [found])) (index + 1)
    simp [Bag.entryAccessors, Value.plain, rest, entryReaders, Value.textContent?, Except.map]

/-- An object whose class fixes the names has no use for names of its own. -/
theorem classAccessors_of_settled {c : Class} (own : List Text) (free : c.isRecord = false)
    (settled : (c.isDataclass || c.elements?.isSome || !c.isOpen) = true) :
    classAccessors c own = classAccessors c [] := by
  unfold classAccessors
  simp only [free, Bool.false_eq_true, ↓reduceIte]
  split
  · rfl
  · next data =>
    cases named : c.elements? with
    | some names => rfl
    | none =>
      have closed : c.isOpen = false := by simpa [data, named] using settled
      simp only [closed, Bool.false_eq_true, ↓reduceIte]

theorem classAccessors_of_shape (o : Object) :
    classAccessors o.cls o.ownNames = o.shape.accessorList := by
  unfold Object.shape
  by_cases record : o.cls.isRecord = true
  · by_cases none : o.extras.isEmpty = true
    · have bare : o.ownNames = [] := by
        rw [List.isEmpty_iff] at none
        simp [Object.ownNames, record, none, Table.keys]
      simp only [record, none, ↓reduceIte, Shape.accessorList, bare]
    · simp only [record, none, Bool.false_eq_true, ↓reduceIte, Shape.accessorList, filterMap_textContent?]
  · simp only [record, Bool.false_eq_true, ↓reduceIte]
    split
    · next settled =>
      exact classAccessors_of_settled o.ownNames (by simpa using record) settled
    · simp only [Shape.accessorList, filterMap_textContent?]

/-- The accessors of a bag are those of its shape, and a bag without a shape has none for the same reason. -/
theorem accessorList_eq {bag : Bag} (regular : bag.Regular) :
    bag.accessorList = bag.shape.map Shape.accessorList := by
  cases bag with
  | mapping type entries => exact entryAccessors_eq regular 0
  | object o => exact congrArg Except.ok (classAccessors_of_shape o)
  | bundle attributes above => simp only [Bag.accessorList, Bag.shape, Shape.accessorList, Except.map, filterMap_textContent?]
  | classItself c above => exact regular.elim
  | plainValue v =>
    cases v
    case uuid n => exact congrArg Except.ok (uuidAccessors_eq n)
    all_goals rfl
  | function => rfl
  | bare => rfl

theorem accessors_of_shape {bag : Bag} (regular : bag.Regular) {shape : Shape} (known : bag.shape = .ok shape) :
    bag.accessors = .ok (Accessors.ofList shape.accessorList) := by
  rw [Bag.accessors, accessorList_eq regular, known]
  rfl

theorem accessors_of_unshaped {bag : Bag} (regular : bag.Regular) {e : ResolveError}
    (unshaped : bag.shape = .error e) : bag.accessors = .error e := by
  rw [Bag.accessors, accessorList_eq regular, unshaped]
  rfl

theorem textual_of_shape {bag : Bag} (regular : bag.Regular) {shape : Shape} (known : bag.shape = .ok shape) :
    shape.Textual := by
  cases bag with
  | mapping type entries =>
    cases known
    exact texts_of_keys regular
  | object o =>
    cases known
    unfold Object.shape
    dsimp only
    split
    · split
      · trivial
      · exact ⟨_, rfl⟩
    · split
      · trivial
      · exact ⟨_, rfl⟩
  | bundle attributes above =>
    cases known
    exact ⟨_, rfl⟩
  | classItself c above => exact regular.elim
  | plainValue v =>
    cases v
    case member | thing =>
      cases known
      exact ⟨[], rfl⟩
    all_goals
      cases known
      try trivial
  | function =>
    cases known
    exact ⟨[], rfl⟩
  | bare => cases known

/-- Texts are one key only if they are one text. -/
theorem eq_of_sameKey {first second : Text} (same : Value.sameKey (.text first) (.text second) = true) :
    first = second := by
  simpa [Value.sameKey, Value.quantity?, Value.textContent?, Value.octetContent?, Value.agree,
    Value.sameKey.sameMember] using same

theorem eq_of_sameKeys {first second : List Text}
    (same : Value.sameKey.sameKeys (first.map Value.text) (second.map Value.text) = true) : first = second := by
  induction first generalizing second with
  | nil =>
    cases second with
    | nil => rfl
    | cons t second => simp [Value.sameKey.sameKeys] at same
  | cons t first ih =>
    cases second with
    | nil => simp [Value.sameKey.sameKeys] at same
    | cons u second =>
      simp only [List.map_cons, Value.sameKey.sameKeys, Bool.and_eq_true] at same
      rw [eq_of_sameKey same.1, ih same.2]

theorem Shape.eq_of_same {first second : Shape} (left : first.Textual) (right : second.Textual)
    (same : first.same second = true) : first = second := by
  cases first with
  | fixed type =>
    cases second with
    | fixed other => simpa [Shape.same] using same
    | named other names => cases same
  | named type names =>
    cases second with
    | fixed other => cases same
    | named other names =>
      obtain ⟨first, rfl⟩ := left
      obtain ⟨second, rfl⟩ := right
      simp only [Shape.same, Bool.and_eq_true, decide_eq_true_eq] at same
      rw [same.1, eq_of_sameKeys same.2]

end RouteTemplate
