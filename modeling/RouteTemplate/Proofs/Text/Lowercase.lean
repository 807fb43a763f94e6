import RouteTemplate.Text.Lowercase

set_option autoImplicit false

namespace RouteTemplate

namespace CodePoint

theorem asciiLower_val (c : CodePoint) :
    c.asciiLower.val = if 0x41 ≤ c.val ∧ c.val ≤ 0x5A then c.val + 0x20 else c.val := by
  simp only [asciiLower, Bool.and_eq_true, decide_eq_true_eq]
  split
  · exact Nat.mod_eq_of_lt (by omega)
  · rfl

@[simp] theorem asciiLower_asciiLower (c : CodePoint) : c.asciiLower.asciiLower = c.asciiLower := by
  apply Fin.ext
  simp only [asciiLower_val]
  split
  · rw [if_neg (by omega)]
  · rfl

theorem isAsciiLetter_asciiLower {c : CodePoint} : c.asciiLower.isAsciiLetter = c.isAsciiLetter := by
  rw [Bool.eq_iff_iff]
  simp only [isAsciiLetter, asciiLower_val, Bool.or_eq_true, Bool.and_eq_true, decide_eq_true_eq]
  split <;> omega

/-- What is no letter has no lower case. -/
theorem asciiLower_of_not_letter {c : CodePoint} (other : c.isAsciiLetter = false) : c.asciiLower = c := by
  apply Fin.ext
  simp only [isAsciiLetter, Bool.or_eq_false_iff, Bool.and_eq_false_iff, decide_eq_false_iff_not] at other
  rw [asciiLower_val, if_neg (by omega)]

end CodePoint

namespace Text

@[simp] theorem asciiLower_asciiLower (t : Text) : t.asciiLower.asciiLower = t.asciiLower := by
  simp [asciiLower]

theorem lowerAfter_of_ascii {before t : Text} (ascii : ∀ c ∈ t, c.isAscii = true) :
    lowerAfter before t = t.asciiLower := by
  induction t generalizing before with
  | nil => rfl
  | cons c t ih =>
    have first : c.isAscii = true := ascii c (by simp)
    have small : c.val < 0x80 := by simpa [CodePoint.isAscii] using first
    have sigma : c.val ≠ 0x3A3 := by omega
    rw [lowerAfter, if_neg sigma, CodePoint.lower, if_pos first, ih fun d inside => ascii d (by simp [inside])]
    rfl

theorem lower_of_ascii {t : Text} (ascii : ∀ c ∈ t, c.isAscii = true) : t.lower = t.asciiLower :=
  lowerAfter_of_ascii ascii

end Text

end RouteTemplate
