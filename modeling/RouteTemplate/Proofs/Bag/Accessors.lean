import RouteTemplate.Bag.Accessors

set_option autoImplicit false

namespace RouteTemplate.Accessors

theorem get?_foldl_enter (key : Text) (index : List (Text × Accessor)) (accessors : List Accessor) :
    Table.get? key (accessors.foldl enter index) =
      (Table.get? key index).or (accessors.find? fun a => a.name.lower = key) := by
  induction accessors generalizing index with
  | nil => simp
  | cons a accessors ih =>
    have entered : Table.get? key (enter index a) =
        (Table.get? key index).or (if a.name.lower = key then some a else none) := by
      unfold enter
      split
      · next taken =>
        by_cases same : a.name.lower = key
        · obtain ⟨earlier, found⟩ := Option.isSome_iff_exists.mp taken
          rw [same] at found
          simp [found]
        · simp [same]
      · rw [Table.get?_append]
        rfl
    rw [List.foldl_cons, ih, entered, Option.or_assoc]
    by_cases same : a.name.lower = key <;> simp [same]

/-- The accessor of a name is the first that has the name, whatever its case. -/
theorem find?_ofList (accessors : List Accessor) (name : Text) :
    (ofList accessors).find? name = accessors.find? fun a => a.name.lower = name.lower := by
  rw [find?, ofList, get?_foldl_enter, Table.get?_nil, Option.none_or]

/-- A name finds the first accessor that has it in lower case, and nothing if none has it. So the name of every accessor
is found, by the accessor itself or by one in front of it. -/
theorem finds_first (accessors : List Accessor) :
    (∀ name a, (ofList accessors).find? name = some a ↔
      a.name.lower = name.lower ∧
        ∃ before behind, accessors = before ++ a :: behind ∧ ∀ b ∈ before, b.name.lower ≠ name.lower) ∧
    (∀ name, (ofList accessors).find? name = none ↔ ∀ a ∈ accessors, a.name.lower ≠ name.lower) ∧
    ∀ i : Fin accessors.length, ∃ j ≤ i, (ofList accessors).find? accessors[i].name = some accessors[j] := by
  refine ⟨fun name a => ?first, fun name => ?none, fun i => ?own⟩
  case first =>
    rw [find?_ofList, List.find?_eq_some_iff_append]
    simp only [decide_eq_true_eq, Bool.not_eq_true', decide_eq_false_iff_not]
  case none =>
    rw [find?_ofList, List.find?_eq_none]
    simp only [decide_eq_true_eq]
  case own =>
    have there : (accessors.find? fun a => a.name.lower = accessors[i].name.lower).isSome = true :=
      List.find?_isSome.mpr ⟨accessors[i], List.getElem_mem i.isLt, decide_eq_true rfl⟩
    obtain ⟨a, found⟩ := Option.isSome_iff_exists.mp there
    obtain ⟨_, j, bound, rfl, earlier⟩ := List.find?_eq_some_iff_getElem.mp found
    -- The accessor has its own name, so the first that has it does not stand behind.
    have front : j ≤ i := Nat.le_of_not_lt fun behind => by simpa using earlier i behind
    exact ⟨⟨j, bound⟩, front, (find?_ofList accessors accessors[i].name).trans found⟩

/-- Of two names that differ in case alone the first is found. -/
example : (ofList [⟨"id", .entry 0⟩, ⟨"ID", .entry 1⟩]).find? "Id" = some ⟨"id", .entry 0⟩ := by decide

end RouteTemplate.Accessors
