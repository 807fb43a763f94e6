set_option autoImplicit false

namespace RouteTemplate.Table

variable {α β : Type} [DecidableEq α]

def get? (key : α) : List (α × β) → Option β
  | [] => none
  | (k, v) :: table => if k = key then some v else get? key table

def put (key : α) (value : β) : List (α × β) → List (α × β)
  | [] => [(key, value)]
  | (k, v) :: table => if k = key then (k, value) :: table else (k, v) :: put key value table

def erase (key : α) (table : List (α × β)) : List (α × β) := table.filter fun entry => !(entry.1 = key)

/-- Puts the entries of the second table into the first, one after another. -/
def merge (table other : List (α × β)) : List (α × β) :=
  other.foldl (fun table entry => put entry.1 entry.2 table) table

/-- The table of entries given one after another, the last value of a key counting. -/
def ofList (entries : List (α × β)) : List (α × β) := merge [] entries

def keys (table : List (α × β)) : List α := table.map (·.1)

@[simp] theorem get?_nil (key : α) : get? key ([] : List (α × β)) = none := rfl

@[simp] theorem get?_put_self (key : α) (value : β) (table : List (α × β)) :
    get? key (put key value table) = some value := by
  induction table with
  | nil => simp [put, get?]
  | cons entry table ih =>
    obtain ⟨k, v⟩ := entry
    by_cases same : k = key <;> simp [put, get?, same, ih]

theorem get?_put_of_ne {key other : α} (different : other ≠ key) (value : β) (table : List (α × β)) :
    get? other (put key value table) = get? other table := by
  induction table with
  | nil => simp [put, get?, Ne.symm different]
  | cons entry table ih =>
    obtain ⟨k, v⟩ := entry
    by_cases same : k = key
    · subst same
      simp [put, get?, Ne.symm different]
    · by_cases hit : k = other
      · subst hit
        simp [put, get?, same]
      · simp [put, get?, same, hit, ih]

theorem get?_put (key other : α) (value : β) (table : List (α × β)) :
    get? other (put key value table) = if other = key then some value else get? other table := by
  by_cases same : other = key
  · subst same
    simp
  · simp [get?_put_of_ne same, same]

theorem get?_append (key : α) (first second : List (α × β)) :
    get? key (first ++ second) = (get? key first).or (get? key second) := by
  induction first with
  | nil => rfl
  | cons entry first ih =>
    obtain ⟨k, v⟩ := entry
    by_cases same : k = key <;> simp [get?, same, ih]

theorem get?_eq_none_iff {key : α} {table : List (α × β)} : get? key table = none ↔ key ∉ keys table := by
  induction table with
  | nil => simp [keys]
  | cons entry table ih =>
    obtain ⟨k, v⟩ := entry
    by_cases same : k = key
    · simp [get?, keys, same]
    · simp only [get?, same, ite_false, ih]
      simp [keys, Ne.symm same]

/-- A key that is there keeps its place; another goes to the end. -/
theorem keys_put (key : α) (value : β) (table : List (α × β)) :
    keys (put key value table) = if key ∈ keys table then keys table else keys table ++ [key] := by
  induction table with
  | nil => simp [put, keys]
  | cons entry table ih =>
    obtain ⟨k, v⟩ := entry
    by_cases same : k = key
    · simp [put, keys, same]
    · simp only [put, same, ite_false]
      simp only [keys, List.map_cons] at ih ⊢
      rw [ih]
      by_cases there : key ∈ List.map (·.1) table <;> simp [there, Ne.symm same]

end RouteTemplate.Table
