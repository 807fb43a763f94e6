import RouteTemplate.Text.Basic

set_option autoImplicit false

namespace RouteTemplate.Text

variable {separator : CodePoint}

theorem startsWith_singleton (t : Text) (c : CodePoint) : t.startsWith [c] = decide (t.head? = some c) := by
  cases t with
  | nil => rfl
  | cons d t =>
    by_cases same : c = d
    · simp [startsWith, afterStart?, same]
    · simp [startsWith, afterStart?, same, Ne.symm same]

theorem startsWith_slash (t : Text) : t.startsWith "/" = decide (t.head? = some (CodePoint.ofChar '/')) :=
  startsWith_singleton t (CodePoint.ofChar '/')

theorem afterStart?_eq_some_iff {start t rest : Text} : afterStart? start t = some rest ↔ start ++ rest = t := by
  induction start generalizing t with
  | nil => simp [afterStart?, eq_comm]
  | cons s start ih =>
    cases t with
    | nil => simp [afterStart?]
    | cons c t =>
      by_cases same : s = c
      · simp [afterStart?, same, ih]
      · simp [afterStart?, same]

theorem startsWith_eq_false_iff {t start : Text} : t.startsWith start = false ↔ ∀ rest, start ++ rest ≠ t := by
  rw [startsWith, Option.isSome_eq_false_iff, Option.isNone_iff_eq_none, Option.eq_none_iff_forall_ne_some]
  exact forall_congr' fun rest => not_congr afterStart?_eq_some_iff

theorem afterStart?_of_startsWith {t start : Text} (apart : t.startsWith start = false) : afterStart? start t = none := by
  rwa [startsWith, Option.isSome_eq_false_iff, Option.isNone_iff_eq_none] at apart

theorem startsWith_of_append {t start more : Text} (apart : (t ++ more).startsWith start = false) :
    t.startsWith start = false := by
  rw [startsWith_eq_false_iff] at apart ⊢
  rintro rest rfl
  exact apart (rest ++ more) (List.append_assoc start rest more).symm

theorem endsWith_singleton (t : Text) (c : CodePoint) : t.endsWith [c] = decide (t.getLast? = some c) := by
  rw [endsWith, List.reverse_singleton, startsWith_singleton, List.head?_reverse]

theorem splitFirst_of_not_mem {left right : Text} (free : separator ∉ left) :
    splitFirst separator (left ++ separator :: right) = some (left, right) := by
  induction left with
  | nil => simp [splitFirst]
  | cons c left ih =>
    have different : c ≠ separator := fun same => free (same ▸ List.mem_cons_self)
    have later := ih (fun inside => free (List.mem_cons_of_mem c inside))
    simp [splitFirst, different, later]

/-- A text that is put together with a separator is cut there, if what stands in front has none. -/
theorem eq_of_splitFirst {t left right front behind : Text} (cut : splitFirst separator t = some (left, right))
    (whole : t = front ++ separator :: behind) (free : separator ∉ front) : front = left ∧ behind = right := by
  rw [whole, splitFirst_of_not_mem free] at cut
  cases cut
  exact ⟨rfl, rfl⟩

/-- The first cut of a text stays where it is when the text goes on. -/
theorem splitFirst_append_right {t left right : Text} (cut : splitFirst separator t = some (left, right))
    (more : Text) : splitFirst separator (t ++ more) = some (left, right ++ more) := by
  obtain ⟨rfl, free⟩ := splitFirst_append cut
  rw [List.append_assoc, List.cons_append]
  exact splitFirst_of_not_mem free

theorem splitOn_of_not_mem {t : Text} (free : separator ∉ t) : splitOn separator t = [t] := by
  induction t with
  | nil => rfl
  | cons c t ih =>
    have different : c ≠ separator := fun same => free (same ▸ List.mem_cons_self)
    have later := ih (fun inside => free (List.mem_cons_of_mem c inside))
    simp [splitOn, different, later]

theorem splitOn_append_cons (left right : Text) :
    splitOn separator (left ++ separator :: right) = splitOn separator left ++ splitOn separator right := by
  induction left with
  | nil => simp [splitOn]
  | cons c left ih =>
    rw [List.cons_append, splitOn, splitOn, ih]
    split
    · simp
    · have nonempty := splitOn_ne_nil separator left
      cases pieces : splitOn separator left with
      | nil => exact absurd pieces nonempty
      | cons piece pieces => simp

theorem exists_getLast?_splitOn (separator : CodePoint) (t : Text) : ∃ last, (splitOn separator t).getLast? = some last :=
  ⟨_, List.getLast?_eq_some_getLast (splitOn_ne_nil separator t)⟩

theorem mem_splitOn (separator : CodePoint) {t : Text} {c : CodePoint} (inside : c ∈ t) :
    c = separator ∨ ∃ piece ∈ splitOn separator t, c ∈ piece := by
  by_cases same : c = separator
  · exact .inl same
  · refine .inr ?_
    induction t with
    | nil => cases inside
    | cons d t ih =>
      rw [splitOn]
      split
      · next cut =>
        rcases List.mem_cons.mp inside with rfl | later
        · exact absurd cut same
        · obtain ⟨piece, member, found⟩ := ih later
          exact ⟨piece, List.mem_cons_of_mem _ member, found⟩
      · cases pieces : splitOn separator t with
        | nil => exact absurd pieces (splitOn_ne_nil separator t)
        | cons first pieces =>
          rw [pieces] at ih
          rcases List.mem_cons.mp inside with rfl | later
          · exact ⟨c :: first, by simp, by simp⟩
          · obtain ⟨piece, member, found⟩ := ih later
            rcases List.mem_cons.mp member with rfl | other
            · exact ⟨d :: piece, by simp, by simp [found]⟩
            · exact ⟨piece, by simp [other], found⟩

/-- Pieces without a separator in them come apart where they were joined. -/
theorem splitOn_joinWith {pieces : List Text} (nonempty : pieces ≠ []) (free : ∀ piece ∈ pieces, separator ∉ piece) :
    splitOn separator (joinWith [separator] pieces) = pieces := by
  induction pieces with
  | nil => exact absurd rfl nonempty
  | cons piece pieces ih =>
    have first := splitOn_of_not_mem (free piece (by simp))
    cases pieces with
    | nil => exact first
    | cons next pieces =>
      have rest := ih (by simp) (fun other inside => free other (by simp [inside]))
      rw [joinWith, List.append_assoc, List.singleton_append, splitOn_append_cons, first, rest]
      rfl

theorem mem_joinWith {between : Text} {pieces : List Text} {c : CodePoint} (inside : c ∈ joinWith between pieces) :
    c ∈ between ∨ ∃ piece ∈ pieces, c ∈ piece := by
  induction pieces with
  | nil => cases inside
  | cons piece pieces ih =>
    cases pieces with
    | nil => exact .inr ⟨piece, by simp, inside⟩
    | cons next pieces =>
      rw [joinWith, List.mem_append, List.mem_append] at inside
      rcases inside with (here | mark) | later
      · exact .inr ⟨piece, by simp, here⟩
      · exact .inl mark
      · rcases ih later with mark | ⟨other, member, found⟩
        · exact .inl mark
        · exact .inr ⟨other, List.mem_cons_of_mem _ member, found⟩

theorem splitLast_eq_none_iff {t : Text} : splitLast separator t = none ↔ separator ∉ t := by
  induction t with
  | nil => simp [splitLast]
  | cons c t ih =>
    unfold splitLast
    cases later : splitLast separator t with
    | some cut =>
      have inside : separator ∈ t := Classical.not_not.mp (mt ih.mpr (by simp [later]))
      simp [inside]
    | none =>
      have free := ih.mp later
      by_cases same : c = separator
      · simp [same]
      · simp [same, free, Ne.symm same]

theorem splitLast_of_not_mem (left : Text) {right : Text} (free : separator ∉ right) :
    splitLast separator (left ++ separator :: right) = some (left, right) := by
  induction left with
  | nil => simp [splitLast, splitLast_eq_none_iff.mpr free]
  | cons c left ih => simp [splitLast, ih]

theorem splitLast_append {t left right : Text} (cut : splitLast separator t = some (left, right)) :
    left ++ separator :: right = t ∧ separator ∉ right := by
  induction t generalizing left with
  | nil => cases cut
  | cons c t ih =>
    unfold splitLast at cut
    split at cut
    · next inner later found =>
      cases cut
      obtain ⟨whole, free⟩ := ih found
      exact ⟨by rw [List.cons_append, whole], free⟩
    · next free =>
      split at cut
      · next same =>
        cases cut
        exact ⟨by rw [same, List.nil_append], splitLast_eq_none_iff.mp free⟩
      · cases cut

theorem mem_span {keep : CodePoint → Bool} {t : Text} {c : CodePoint} (inside : c ∈ (span keep t).1) :
    keep c = true := by
  induction t with
  | nil => cases inside
  | cons d t ih =>
    unfold span at inside
    split at inside
    · next kept =>
      rcases List.mem_cons.mp inside with rfl | later
      · exact kept
      · exact ih later
    · cases inside

/-- A text is cut where it goes on with what is not kept. -/
theorem span_append_stop {keep : CodePoint → Bool} {kept rest : Text} (all : ∀ c ∈ kept, keep c = true)
    (stop : ∀ c ∈ rest.head?, keep c = false) : span keep (kept ++ rest) = (kept, rest) := by
  induction kept with
  | nil =>
    cases rest with
    | nil => rfl
    | cons c rest => simp [span, stop c rfl]
  | cons c kept ih =>
    have first := all c (by simp)
    have later := ih fun d inside => all d (by simp [inside])
    simp [span, first, later]

end RouteTemplate.Text
