import RouteTemplate.Table

set_option autoImplicit false

namespace RouteTemplate.Table

variable {α β : Type} [DecidableEq α]

def last? (key : α) (entries : List (α × β)) : Option β := get? key entries.reverse

theorem last?_cons (key : α) (entry : α × β) (entries : List (α × β)) :
    last? key (entry :: entries) = (last? key entries).or (if entry.1 = key then some entry.2 else none) := by
  rw [last?, List.reverse_cons, get?_append]
  rfl

theorem get?_merge (key : α) (table other : List (α × β)) :
    get? key (merge table other) = (last? key other).or (get? key table) := by
  induction other generalizing table with
  | nil => rfl
  | cons entry other ih =>
    have later := ih (put entry.1 entry.2 table)
    rw [merge, List.foldl_cons, ← merge, later, get?_put, last?_cons, Option.or_assoc]
    by_cases same : entry.1 = key
    · simp [same]
    · simp [same, Ne.symm same]

theorem mem_keys_put {key other : α} {value : β} {table : List (α × β)} :
    other ∈ keys (put key value table) ↔ other = key ∨ other ∈ keys table := by
  rw [keys_put]
  split
  · next there =>
    constructor
    · exact .inr
    · rintro (rfl | inside)
      · exact there
      · exact inside
  · rw [List.mem_append, List.mem_singleton, or_comm]

theorem mem_keys_merge {key : α} {table other : List (α × β)} :
    key ∈ keys (merge table other) ↔ key ∈ keys table ∨ key ∈ keys other := by
  induction other generalizing table with
  | nil => simp [merge, keys]
  | cons entry other ih =>
    have later : key ∈ keys (merge (put entry.1 entry.2 table) other) ↔
        key ∈ keys (put entry.1 entry.2 table) ∨ key ∈ keys other := ih
    rw [merge, List.foldl_cons, ← merge, later, mem_keys_put]
    simp only [keys, List.map_cons, List.mem_cons]
    rw [or_assoc, or_left_comm]

theorem nodup_keys_put {table : List (α × β)} (distinct : (keys table).Nodup) (key : α) (value : β) :
    (keys (put key value table)).Nodup := by
  rw [keys_put]
  split
  · exact distinct
  · next absent =>
    refine List.nodup_append.mpr ⟨distinct, List.pairwise_singleton _ key, ?_⟩
    rintro other inside last found rfl
    exact absent (List.mem_singleton.mp found ▸ inside)

theorem nodup_keys_merge {table : List (α × β)} (distinct : (keys table).Nodup) (other : List (α × β)) :
    (keys (merge table other)).Nodup := by
  induction other generalizing table with
  | nil => exact distinct
  | cons entry other ih => exact ih (nodup_keys_put distinct entry.1 entry.2)

/-- New keys follow those of the table in the order in which they are first given. -/
theorem keys_merge [BEq α] [LawfulBEq α] (table other : List (α × β)) :
    keys (merge table other) = keys table ++ ((keys other).filter (· ∉ keys table)).eraseDups := by
  induction other generalizing table with
  | nil => exact (List.append_nil _).symm
  | cons entry other ih =>
    have later := ih (put entry.1 entry.2 table)
    have split : keys (entry :: other) = entry.1 :: keys other := rfl
    rw [merge, List.foldl_cons, ← merge, later, keys_put, split]
    by_cases there : entry.1 ∈ keys table
    · rw [if_pos there, List.filter_cons_of_neg (by simpa using there)]
    · have kept (key : α) : decide (key ∉ keys table ++ [entry.1]) = (!key == entry.1 && decide (key ∉ keys table)) := by
        by_cases same : key = entry.1 <;> simp [same]
      rw [if_neg there, List.filter_cons_of_pos (by simpa using there), List.eraseDups_cons, List.filter_filter,
        List.append_assoc, List.singleton_append]
      simp only [kept]

/-- The keys of a table stand in the order in which they are first given. -/
theorem keys_ofList [BEq α] [LawfulBEq α] (entries : List (α × β)) :
    keys (ofList entries) = (keys entries).eraseDups := by
  have none : keys ([] : List (α × β)) = [] := rfl
  rw [ofList, keys_merge, none, List.nil_append, List.filter_eq_self.mpr fun _ _ => by simp]

/-- A table holds the value that is given last under a key. -/
theorem get?_ofList (key : α) (entries : List (α × β)) : get? key (ofList entries) = last? key entries := by
  rw [ofList, get?_merge, get?_nil, Option.or_none]

theorem get?_map {γ : Type} (key : α) (name : γ → α) (value : γ → β) (list : List γ) :
    get? key (list.map fun c => (name c, value c)) = (list.find? fun c => name c = key).map value := by
  induction list with
  | nil => rfl
  | cons c list ih =>
    rw [List.map_cons, get?, List.find?_cons]
    by_cases same : name c = key
    · simp [same]
    · simp [same, ih]

/-- However often a key is given, a table holds it once. -/
theorem nodup_keys_ofList (entries : List (α × β)) : (keys (ofList entries)).Nodup := by
  have empty : (keys ([] : List (α × β))).Nodup := List.nodup_nil
  exact nodup_keys_merge empty entries

@[simp] theorem put_put (key : α) (first second : β) (table : List (α × β)) :
    put key second (put key first table) = put key second table := by
  induction table with
  | nil => simp [put]
  | cons entry table ih =>
    obtain ⟨k, v⟩ := entry
    by_cases same : k = key <;> simp [put, same, ih]

theorem put_of_not_mem {key : α} {value : β} {table : List (α × β)} (absent : key ∉ keys table) :
    put key value table = table ++ [(key, value)] := by
  induction table with
  | nil => rfl
  | cons entry table ih =>
    obtain ⟨k, v⟩ := entry
    have other : k ≠ key := fun same => absent (same ▸ List.mem_cons_self)
    rw [put, if_neg other, ih fun inside => absent (List.mem_cons_of_mem k inside)]
    rfl

theorem merge_eq_append {table other : List (α × β)} (distinct : (keys (table ++ other)).Nodup) :
    merge table other = table ++ other := by
  induction other generalizing table with
  | nil => exact (List.append_nil table).symm
  | cons entry other ih =>
    have absent : entry.1 ∉ keys table := by
      rw [keys, List.map_append, List.nodup_append] at distinct
      intro inside
      exact distinct.2.2 _ inside _ List.mem_cons_self rfl
    have later : (keys (table ++ [entry] ++ other)).Nodup := by simpa using distinct
    rw [merge, List.foldl_cons, put_of_not_mem absent, ← merge, ih later]
    simp

/-- Entries under different keys are the table that they make. -/
theorem ofList_eq_self {entries : List (α × β)} (distinct : (keys entries).Nodup) : ofList entries = entries :=
  merge_eq_append distinct

theorem mem_put {key : α} {value : β} {table : List (α × β)} {entry : α × β} (inside : entry ∈ put key value table) :
    entry = (key, value) ∨ entry ∈ table := by
  induction table with
  | nil => exact .inl (List.mem_singleton.mp inside)
  | cons first table ih =>
    obtain ⟨k, v⟩ := first
    rw [put] at inside
    split at inside
    · next same =>
      rcases List.mem_cons.mp inside with new | old
      · exact .inl (same ▸ new)
      · exact .inr (List.mem_cons_of_mem _ old)
    · rcases List.mem_cons.mp inside with rfl | later
      · exact .inr List.mem_cons_self
      · exact (ih later).imp_right (List.mem_cons_of_mem _)

theorem mem_merge {table other : List (α × β)} {entry : α × β} (inside : entry ∈ merge table other) :
    entry ∈ table ∨ entry ∈ other := by
  induction other generalizing table with
  | nil => exact .inl inside
  | cons first other ih =>
    have cases : entry ∈ put first.1 first.2 table ∨ entry ∈ other := ih inside
    rcases cases with stored | later
    · rcases mem_put stored with rfl | old
      · exact .inr List.mem_cons_self
      · exact .inl old
    · exact .inr (List.mem_cons_of_mem first later)

/-- A table is made of entries that were given. -/
theorem mem_of_mem_ofList {entries : List (α × β)} {entry : α × β} (inside : entry ∈ ofList entries) :
    entry ∈ entries := by
  rcases mem_merge inside with impossible | given
  · cases impossible
  · exact given

/-- Under different keys every value is found. -/
theorem get?_of_mem {key : α} {value : β} {table : List (α × β)} (distinct : (keys table).Nodup)
    (inside : (key, value) ∈ table) : get? key table = some value := by
  induction table with
  | nil => cases inside
  | cons entry table ih =>
    obtain ⟨k, v⟩ := entry
    obtain ⟨absent, later⟩ := List.nodup_cons.mp distinct
    rcases List.mem_cons.mp inside with same | behind
    · cases same
      exact if_pos rfl
    · have other : k ≠ key := by
        rintro rfl
        exact absent (List.mem_map.mpr ⟨_, behind, rfl⟩)
      rw [get?, if_neg other, ih later behind]

theorem get?_erase (key other : α) (table : List (α × β)) :
    get? other (erase key table) = if other = key then none else get? other table := by
  induction table with
  | nil => simp [erase]
  | cons entry table ih =>
    obtain ⟨k, v⟩ := entry
    rw [erase, List.filter_cons, ← erase]
    by_cases gone : k = key
    · subst gone
      by_cases asked : other = k
      · subst asked
        simpa using ih
      · simpa [asked, get?, Ne.symm asked] using ih
    · by_cases hit : k = other
      · subst hit
        simp [get?, gone]
      · simp [get?, gone, hit, ih]

theorem nodup_keys_erase {table : List (α × β)} (distinct : (keys table).Nodup) (key : α) :
    (keys (erase key table)).Nodup :=
  (List.filter_sublist.map Prod.fst).nodup distinct

end RouteTemplate.Table
