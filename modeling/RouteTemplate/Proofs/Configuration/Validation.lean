import RouteTemplate.Configuration.Validation

set_option autoImplicit false

namespace RouteTemplate

namespace Setting

theorem key_injective {s t : Setting} (same : s.key = t.key) : s = t := by
  revert same
  cases s <;> cases t <;> decide

theorem mem_all (s : Setting) : s ∈ all := by
  cases s <;> decide

theorem ofKey?_eq_some_iff {key : Text} {s : Setting} : ofKey? key = some s ↔ s.key = key := by
  constructor
  · intro found
    simpa using List.find?_some found
  · rintro rfl
    cases s <;> decide

theorem ofKey?_eq_none_iff {key : Text} : ofKey? key = none ↔ ∀ s : Setting, s.key ≠ key := by
  constructor
  · intro absent s same
    rw [ofKey?_eq_some_iff.mpr same] at absent
    cases absent
  · intro unknown
    cases found : ofKey? key with
    | none => rfl
    | some s => exact absurd (ofKey?_eq_some_iff.mp found) (unknown s)

end Setting

namespace Settings

/-- A key that is no setting is an issue, and so is a value that cannot be read, and nothing else is. -/
theorem issues_eq_nil_iff {entries : List (Text × Json)} :
    issues entries = [] ↔
      (∀ (s : Setting) (value : Json), Table.get? s.key entries = some value → ∃ b, value.readTruth = .ok b) ∧
        ∀ key ∈ Table.keys entries, ∃ s : Setting, s.key = key := by
  have values (s : Setting) : issueOf? entries s = none ↔
      ∀ value, Table.get? s.key entries = some value → ∃ b, value.readTruth = .ok b := by
    unfold issueOf?
    split
    · next absent => simp [absent]
    · next value given =>
      cases read : value.readTruth with
      | ok b => simp [given, read]
      | error kind => simp [given, read]
  have keys (key : Text) : unknownKey? key = none ↔ ∃ s : Setting, s.key = key := by
    unfold unknownKey?
    cases found : Setting.ofKey? key with
    | none => simpa using Setting.ofKey?_eq_none_iff.mp found
    | some s => simpa using ⟨s, Setting.ofKey?_eq_some_iff.mp found⟩
  rw [issues, List.append_eq_nil_iff, List.filterMap_eq_nil_iff, List.filterMap_eq_nil_iff]
  refine and_congr ⟨fun clean s => (values s).mp (clean s s.mem_all), fun clean s _ => (values s).mpr (clean s)⟩ ?_
  exact forall₂_congr fun key _ => keys key

theorem ofEntries_eq_ok_iff {entries : List (Text × Json)} {settings : Settings} :
    ofEntries entries = .ok settings ↔ issues entries = [] ∧ settings = ofValues (valueOf entries) := by
  unfold ofEntries
  split
  · next clean => simp [clean, eq_comm]
  · next dirty =>
    constructor
    · intro done
      cases done
    · rintro ⟨clean, _⟩
      exact (dirty clean).elim

theorem valueOf_of_some {entries : List (Text × Json)} {s : Setting} {value : Json} {b : Bool}
    (given : Table.get? s.key entries = some value) (accepted : value.readTruth = .ok b) : valueOf entries s = b := by
  simp only [valueOf, given, accepted]
  rfl

theorem valueOf_of_none {entries : List (Text × Json)} {s : Setting} (absent : Table.get? s.key entries = none) :
    valueOf entries s = ({} : Settings).get s := by
  simp only [valueOf, absent]

/-- A truth value put under the key of a setting counts for that setting and for no other. -/
theorem valueOf_put (entries : List (Text × Json)) (s t : Setting) (b : Bool) :
    valueOf (Table.put s.key (.bool b) entries) t = if t = s then b else valueOf entries t := by
  by_cases same : t = s
  · subst same
    rw [if_pos rfl]
    exact valueOf_of_some (Table.get?_put_self _ _ _) rfl
  · have apart : t.key ≠ s.key := fun equal => same (Setting.key_injective equal)
    rw [if_neg same, valueOf, Table.get?_put_of_ne apart]
    rfl

end Settings

end RouteTemplate
