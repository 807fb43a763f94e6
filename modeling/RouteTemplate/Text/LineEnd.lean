import RouteTemplate.Text.Basic

set_option autoImplicit false

namespace RouteTemplate.Text

/-- Every line end becomes a line feed, be it a carriage return, a line feed or one followed by the other. -/
def unifyLineEnds : Text → Text
  | [] => []
  | c :: rest =>
    if c = '\r' then
      if rest.head? = some (CodePoint.ofChar '\n') then unifyLineEnds rest
      else CodePoint.ofChar '\n' :: unifyLineEnds rest
    else c :: unifyLineEnds rest

/-- A text without carriage returns stays as it is. -/
theorem unifyLineEnds_eq_self {t : Text} (plain : CodePoint.ofChar '\r' ∉ t) : unifyLineEnds t = t := by
  induction t with
  | nil => rfl
  | cons c rest ih =>
    have different : c ≠ CodePoint.ofChar '\r' := fun same => plain (by simp [same])
    simp [unifyLineEnds, different, ih (fun inside => plain (by simp [inside]))]

end RouteTemplate.Text
