import RouteTemplate.Proofs.Url.Rooted

set_option autoImplicit false

namespace RouteTemplate.Url

open Percent (isUnreserved isComponentPoint)

/-- The text is read without a scheme, and it does not start as an authority does. -/
structure Unserved (t : Text) : Prop where
  scheme : splitScheme t = ([], t)
  slashes : t.startsWith "//" = false

theorem Rooted.unserved {t : Text} (rooted : Rooted t) : Unserved t := ⟨rooted.splitScheme, rooted.startsWith_slashes⟩

namespace Unserved

theorem authority {t : Text} (unserved : Unserved t) : splitAuthority t = ([], t) := by
  rw [splitAuthority, Text.afterStart?_of_startsWith unserved.slashes]

/-- The beginning of the text fits as the path of a URL without scheme and authority. -/
theorem fits {path more : Text} (unserved : Unserved (path ++ more)) : checkPath path false false = .ok () := by
  have colon : Text.ofString ":" = [CodePoint.ofChar ':'] := rfl
  have uncoloned : path.startsWith ":" = false := by
    rw [colon, Text.startsWith_singleton, decide_eq_false_iff_not]
    intro first
    obtain ⟨rest, rfl⟩ := List.head?_eq_some_iff.mp first
    have dropped : splitScheme (CodePoint.ofChar ':' :: rest ++ more) = ([], rest ++ more) := rfl
    have same := congrArg (fun cut => cut.2.length) (dropped.symm.trans unserved.scheme)
    simp at same
  simp only [checkPath, Text.startsWith_of_append unserved.slashes, uncoloned, Bool.false_and, Bool.and_false,
    Bool.false_eq_true, ↓reduceIte]

end Unserved

def isReferencePoint (c : CodePoint) : Bool := isUnreserved c || ("%/?&=,:@" : Text).contains c

theorem isReferencePoint_of_component {c : CodePoint} (point : isComponentPoint c = true) :
    isReferencePoint c = true := by
  rcases Bool.or_eq_true_iff.mp point with unreserved | percent
  · simp [isReferencePoint, unreserved]
  · rw [of_decide_eq_true percent]
    rfl

section Points

variable {c : CodePoint} (point : isReferencePoint c = true)

include point

theorem cases_of_isReferencePoint : isUnreserved c = true ∨ c ∈ Text.ofString "%/?&=,:@" := by
  rwa [isReferencePoint, Bool.or_eq_true, List.contains_iff_mem] at point

theorem printable_of_isReferencePoint : 0x20 ≤ c.val ∧ c.val < 0x7F := by
  rcases cases_of_isReferencePoint point with unreserved | mark
  · simp only [isUnreserved, CodePoint.isAsciiLetter, CodePoint.isAsciiDigit, Bool.or_eq_true, Bool.and_eq_true,
      decide_eq_true_eq] at unreserved
    rcases unreserved with ((((letter | digit) | rfl) | rfl) | rfl) | rfl
    · omega
    · omega
    all_goals decide
  · have marks : (Text.ofString "%/?&=,:@").all (fun d => 0x20 ≤ d.val ∧ d.val < 0x7F) = true := by decide
    exact of_decide_eq_true (List.all_eq_true.mp marks c mark)

theorem kept_in_path (other : c ≠ CodePoint.ofChar '?') : isUnreserved c = true ∨ keepInPath c = true := by
  have marks : (Text.ofString "%/?&=,:@").all (fun d => d = CodePoint.ofChar '?' || keepInPath d) = true := by decide
  refine (cases_of_isReferencePoint point).imp_right fun mark => ?_
  simpa [other] using List.all_eq_true.mp marks c mark

theorem kept_in_query : isUnreserved c = true ∨ keepInQuery c = true := by
  have marks : (Text.ofString "%/?&=,:@").all keepInQuery = true := by decide
  exact (cases_of_isReferencePoint point).imp_right (List.all_eq_true.mp marks c)

end Points

section Verbatim

variable {t : Text} (points : ∀ c ∈ t, isReferencePoint c = true)

include points

theorem firstControl?_of_points : firstControl? t = none := by
  rw [firstControl?, List.find?_eq_none]
  intro entry inside
  have printable := printable_of_isReferencePoint (points entry.1 (List.fst_mem_of_mem_zipIdx inside))
  simp only [Bool.or_eq_true, decide_eq_true_eq]
  omega

/-- Read as a URL, the text is a path and a query and nothing besides, both as they are written. -/
theorem parse_verbatim (unserved : Unserved t) (short : t.length ≤ maxLength) :
    parse t = .ok ⟨[], [], [], none, (cutOptional '?' t).1, (cutOptional '?' t).2, none⟩ := by
  have unsigned : CodePoint.ofChar '#' ∉ t := fun inside => absurd (points _ inside) (by decide)
  have whole := cutOptional_append (CodePoint.ofChar '?') t
  have unasked := not_mem_cutOptional (CodePoint.ofChar '?') t
  have cut : pieces t = ⟨[], [], (cutOptional '?' t).1, (cutOptional '?' t).2, none⟩ := by
    simp only [pieces, unserved.scheme, unserved.authority, cutOptional_of_not_mem unsigned]
  apply parse_of_normalizes short (firstControl?_of_points points)
  rw [cut]
  generalize (cutOptional '?' t).1 = path, (cutOptional '?' t).2 = query at *
  rw [← whole] at points unserved
  have pathPoints : ∀ c ∈ path, isReferencePoint c = true := fun c inside => points c (List.mem_append_left _ inside)
  refine ⟨rfl, rfl, rfl, rfl, unserved.fits, ?_, ?_, rfl⟩
  · apply escaped_eq_self
    intro c inside
    apply kept_in_path (pathPoints c inside)
    rintro rfl
    exact unasked inside
  · cases query with
    | none => rfl
    | some query =>
      have kept : escaped keepInQuery query = .ok query :=
        escaped_eq_self fun c inside => kept_in_query (points c (by simp [inside]))
      rw [escapedOptional, kept]
      rfl

/-- The URL that is read from the text is written as the text. -/
theorem text_of_parse_verbatim (unserved : Unserved t) {u : Url} (done : parse t = .ok u) : u.text = t := by
  rw [parse_verbatim points unserved (length_le_of_parse_ok done)] at done
  cases done
  have nothing : Text.ofString "" = [] := rfl
  simpa [text, authorityText, nothing] using cutOptional_append (CodePoint.ofChar '?') t

end Verbatim

end RouteTemplate.Url
