import RouteTemplate.Proofs.Route.Parts
import RouteTemplate.Proofs.Text.Cut

set_option autoImplicit false

namespace RouteTemplate

open Percent (isComponentPoint)

/-- The separator looks at nothing of a route but its last character. -/
theorem separator_congr (marked : Bool) {route other : Text} (same : route.getLast? = other.getLast?) :
    separator marked route = separator marked other := by
  have question : Text.ofString "?" = [CodePoint.ofChar '?'] := rfl
  have ampersand : Text.ofString "&" = [CodePoint.ofChar '&'] := rfl
  simp only [separator, question, ampersand, Text.endsWith_singleton, same]

/-- A query that is open is continued at once behind a question mark or an ampersand. -/
theorem separator_of_getLast? {route : Text} {c : CodePoint} (ends : route.getLast? = some c) :
    separator true route =
      if c = CodePoint.ofChar '?' ∨ c = CodePoint.ofChar '&' then [] else Text.ofString "&" := by
  have question : Text.ofString "?" = [CodePoint.ofChar '?'] := rfl
  have ampersand : Text.ofString "&" = [CodePoint.ofChar '&'] := rfl
  have nothing : Text.ofString "" = [] := rfl
  simp [separator, question, ampersand, nothing, Text.endsWith_singleton, ends]

theorem pairText_getLast? (name : Text) {component : Text} (points : ∀ c ∈ component, isComponentPoint c = true) :
    ∃ c, (pairText name component).getLast? = some c ∧ (isComponentPoint c = true ∨ c = CodePoint.ofChar '=') := by
  cases ends : component.getLast? with
  | none => exact ⟨CodePoint.ofChar '=', by simp [pairText, List.getLast?_cons, ends], .inr rfl⟩
  | some c => exact ⟨c, by simp [pairText, List.getLast?_cons, ends], .inl (points c (List.mem_of_getLast? ends))⟩

/-- Behind the query marker the filled segments end in a pair. -/
theorem substitute_getLast? {settings : Settings} {accessors : Accessors} {bag : Bag} {template filled : Text}
    {marked : Bool} {segments : List Segment} (nonempty : segments ≠ [])
    (passed : (marked || segments.any fun s => s.gap.contains '?') = true)
    (done : substitute settings accessors bag template marked segments = .ok filled) :
    ∃ c, filled.getLast? = some c ∧ (isComponentPoint c = true ∨ c = CodePoint.ofChar '=') := by
  induction segments generalizing marked filled with
  | nil => exact absurd rfl nonempty
  | cons s segments ih =>
    obtain ⟨piece, rest, first, second, rfl⟩ := substitute_cons_ok done
    cases segments with
    | nil =>
      cases second
      obtain ⟨_, _, component, _, _, _, written, rfl⟩ := fill_ok first
      have here : (marked || s.gap.contains '?') = true := by
        rw [← passed, List.any_cons, List.any_nil, Bool.or_false]
      have pair : placed (kindAfter (marked || s.gap.contains '?')) s.name component = pairText s.name component := by
        rw [here]
        rfl
      obtain ⟨c, ends, plain⟩ := pairText_getLast? s.name (Value.component_points written)
      refine ⟨c, ?_, plain⟩
      rw [pair, List.append_nil, List.getLast?_append, ends, Option.some_or]
    | cons next segments =>
      have later : ((marked || s.gap.contains '?') || (next :: segments).any fun s => s.gap.contains '?') = true := by
        rw [List.any_cons] at passed
        rw [Bool.or_assoc]
        exact passed
      obtain ⟨c, ends, plain⟩ := ih (by simp) later second
      exact ⟨c, by simp [ends], plain⟩

theorem any_mark_of_tail_nil {t : Template} (bare : t.tail = []) (marker : t.hasQueryMarker = true) :
    (t.segments.any fun s => s.gap.contains '?') = true := by
  have gap : t.lastGap = [] := (List.append_eq_nil_iff.mp bare).1
  simpa [Template.hasQueryMarker, gap] using marker

/-- The separator is that of the tail of the template: `&` when there is none. -/
theorem separator_filled {settings : Settings} {accessors : Accessors} {bag : Bag} {text filled : Text} {t : Template}
    (done : substitute settings accessors bag text false t.segments = .ok filled) :
    separator t.hasQueryMarker (filled ++ t.tail) = separator t.hasQueryMarker t.tail := by
  -- Only where nothing stands behind the last placeholder does the route end in what a value has given.
  by_cases bare : t.tail = []
  · cases marker : t.hasQueryMarker with
    | false => rfl
    | true =>
      have marks := any_mark_of_tail_nil bare marker
      have nonempty : t.segments ≠ [] := by
        intro none
        simp [none] at marks
      obtain ⟨c, ends, plain⟩ := substitute_getLast? nonempty (by simpa using marks) done
      have between : ¬(c = CodePoint.ofChar '?' ∨ c = CodePoint.ofChar '&') := by
        rintro (rfl | rfl)
        all_goals
          revert plain
          decide
      rw [bare, List.append_nil, separator_of_getLast? ends, if_neg between]
      rfl
  · apply separator_congr
    obtain ⟨c, ends⟩ := Option.ne_none_iff_exists'.mp (mt List.getLast?_eq_none_iff.mp bare)
    simp [ends]

end RouteTemplate
