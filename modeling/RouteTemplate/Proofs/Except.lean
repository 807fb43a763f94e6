set_option autoImplicit false

namespace RouteTemplate

variable {ε α β : Type}

@[simp] theorem ok_bind (a : α) (f : α → Except ε β) : (Except.ok a >>= f) = f a := rfl

theorem bind_eq_ok {x : Except ε α} {f : α → Except ε β} {b : β} :
    (x >>= f) = .ok b ↔ ∃ a, x = .ok a ∧ f a = .ok b := by
  cases x with
  | error e =>
    constructor
    · intro done
      cases done
    · rintro ⟨_, done, _⟩
      cases done
  | ok a =>
    constructor
    · intro done
      exact ⟨a, rfl, done⟩
    · rintro ⟨_, same, done⟩
      cases same
      exact done

theorem bind_eq_error {x : Except ε α} {f : α → Except ε β} {e : ε} :
    (x >>= f) = .error e ↔ x = .error e ∨ ∃ a, x = .ok a ∧ f a = .error e := by
  cases x with
  | error e' =>
    constructor
    · intro failed
      cases failed
      exact .inl rfl
    · rintro (same | ⟨_, impossible, _⟩)
      · cases same
        rfl
      · cases impossible
  | ok a =>
    constructor
    · intro failed
      exact .inr ⟨a, rfl, failed⟩
    · rintro (impossible | ⟨_, same, failed⟩)
      · cases impossible
      · cases same
        exact failed

theorem map_eq_ok {x : Except ε α} {f : α → β} {b : β} : x.map f = .ok b ↔ ∃ a, x = .ok a ∧ f a = b := by
  cases x <;> simp [Except.map]

theorem map_eq_error {x : Except ε α} {f : α → β} {e : ε} : x.map f = .error e ↔ x = .error e := by
  cases x <;> simp [Except.map]

theorem map_eq_bind (x : Except ε α) (f : α → β) : x.map f = x >>= fun a => .ok (f a) := by
  cases x <;> rfl

/-- Where results agree, either both computations fail alike or both succeed. -/
theorem map_eq_map {γ : Type} {x : Except ε α} {y : Except ε β} {f : α → γ} {g : β → γ} (same : x.map f = y.map g) :
    (∃ e, x = .error e ∧ y = .error e) ∨ ∃ a b, x = .ok a ∧ y = .ok b ∧ f a = g b := by
  cases x with
  | error e =>
    cases y with
    | error e' =>
      cases same
      exact .inl ⟨e, rfl, rfl⟩
    | ok b => cases same
  | ok a =>
    cases y with
    | error e => cases same
    | ok b => exact .inr ⟨a, b, rfl, rfl, Except.ok.inj same⟩

/-- Errors are retold step by step. -/
theorem mapError_bind {δ : Type} (x : Except ε α) (f : α → Except ε β) (g : ε → δ) :
    (x >>= f).mapError g = x.mapError g >>= fun a => (f a).mapError g := by
  cases x <;> rfl

theorem mapError_eq_self {x : Except ε α} {g : ε → ε} (kept : ∀ e, x = .error e → g e = e) : x.mapError g = x := by
  cases x with
  | error e => exact congrArg Except.error (kept e rfl)
  | ok a => rfl

@[simp] theorem throw_ne_ok {e : ε} {a : α} : (throw e : Except ε α) ≠ .ok a := by
  intro same
  cases same

theorem mapM_eq_ok_of_forall {f : α → Except ε β} {g : α → β} {list : List α} (each : ∀ a ∈ list, f a = .ok (g a)) :
    list.mapM f = .ok (list.map g) := by
  induction list with
  | nil => rfl
  | cons a list ih =>
    have first := each a List.mem_cons_self
    have rest := ih fun b inside => each b (List.mem_cons_of_mem a inside)
    rw [List.mapM_cons, first, rest]
    rfl

/-- What stops a traversal is its first element that fails. -/
theorem exists_first_of_mapM_eq_error {f : α → Except ε β} {list : List α} {e : ε} (failed : list.mapM f = .error e) :
    ∃ before a after, list = before ++ a :: after ∧ (∀ b ∈ before, ∃ c, f b = .ok c) ∧ f a = .error e := by
  induction list with
  | nil => cases failed
  | cons a list ih =>
    rw [List.mapM_cons] at failed
    rcases bind_eq_error.mp failed with here | ⟨b, first, failed⟩
    · exact ⟨[], a, list, rfl, List.forall_mem_nil _, here⟩
    · rcases bind_eq_error.mp failed with later | ⟨_, _, impossible⟩
      · obtain ⟨before, c, after, rfl, done, there⟩ := ih later
        exact ⟨a :: before, c, after, rfl, List.forall_mem_cons.mpr ⟨⟨b, first⟩, done⟩, there⟩
      · cases impossible

theorem mapM_eq_error_iff {f : α → Except ε β} {list : List α} {e : ε} :
    list.mapM f = .error e ↔
      ∃ before a after, list = before ++ a :: after ∧ (∀ b ∈ before, ∃ c, f b = .ok c) ∧ f a = .error e := by
  constructor
  · exact exists_first_of_mapM_eq_error
  · rintro ⟨before, a, after, rfl, done, here⟩
    induction before with
    | nil =>
      rw [List.nil_append, List.mapM_cons, here]
      rfl
    | cons b before ih =>
      obtain ⟨⟨c, first⟩, rest⟩ := List.forall_mem_cons.mp done
      rw [List.cons_append, List.mapM_cons, first, ok_bind, ih rest]
      rfl

theorem exists_of_mapM_eq_error {f : α → Except ε β} {list : List α} {e : ε} (failed : list.mapM f = .error e) :
    ∃ a ∈ list, f a = .error e := by
  obtain ⟨before, a, after, rfl, _, here⟩ := exists_first_of_mapM_eq_error failed
  exact ⟨a, List.mem_append_right before List.mem_cons_self, here⟩

theorem exists_of_mem_mapM {f : α → Except ε β} {list : List α} {bs : List β} (done : list.mapM f = .ok bs) {b : β}
    (inside : b ∈ bs) : ∃ a ∈ list, f a = .ok b := by
  induction list generalizing bs with
  | nil =>
    cases done
    cases inside
  | cons a list ih =>
    rw [List.mapM_cons] at done
    obtain ⟨first, own, done⟩ := bind_eq_ok.mp done
    obtain ⟨rest, later, done⟩ := bind_eq_ok.mp done
    cases done
    rcases List.mem_cons.mp inside with rfl | member
    · exact ⟨a, List.mem_cons_self, own⟩
    · obtain ⟨c, there, same⟩ := ih later member
      exact ⟨c, List.mem_cons_of_mem a there, same⟩

theorem forall_of_mapM_eq_ok {f : α → Except ε β} {list : List α} {bs : List β} (done : list.mapM f = .ok bs) :
    ∀ a ∈ list, ∃ b, f a = .ok b := by
  induction list generalizing bs with
  | nil => simp
  | cons a list ih =>
    rw [List.mapM_cons] at done
    obtain ⟨b, first, done⟩ := bind_eq_ok.mp done
    obtain ⟨rest, later, _⟩ := bind_eq_ok.mp done
    intro c inside
    rcases List.mem_cons.mp inside with rfl | member
    · exact ⟨b, first⟩
    · exact ih later c member

end RouteTemplate
