import Mathlib.Data.List.TakeWhile
import RouteTemplate.Decimal.Numeral

set_option autoImplicit false

namespace RouteTemplate

theorem CodePoint.isAsciiDigit_ofChar {c : Char} (digit : c.isDigit = true) : (ofChar c).isAsciiDigit = true := by
  simp only [Char.isDigit, Bool.and_eq_true, decide_eq_true_eq] at digit
  have low : 48 ≤ c.toNat := UInt32.le_iff_toNat_le.mp digit.1
  have high : c.toNat ≤ 57 := UInt32.le_iff_toNat_le.mp digit.2
  simp [isAsciiDigit, ofChar, low, high]

theorem Text.isAsciiDigit_of_mem_ofNat {n : Nat} {c : CodePoint} (inside : c ∈ Text.ofNat n) :
    c.isAsciiDigit = true := by
  obtain ⟨d, digit, rfl⟩ := List.mem_map.mp inside
  exact CodePoint.isAsciiDigit_ofChar (Nat.isDigit_of_mem_toDigits (by decide) (by decide) digit)

theorem Text.ofNat_ne_nil (n : Nat) : Text.ofNat n ≠ [] := by
  simp [Text.ofNat]

/-- Only the numeral of zero starts with a zero. -/
theorem Text.head_ofNat_ne {n : Nat} (positive : 0 < n) {c : CodePoint} {rest : Text} (written : Text.ofNat n = c :: rest) :
    c ≠ CodePoint.ofChar '0' := by
  induction n using Nat.strongRecOn generalizing rest with
  | ind n ih =>
    unfold Text.ofNat at written
    by_cases short : n < 10
    · rw [Nat.toDigits_of_lt_base short] at written
      obtain ⟨rfl, rfl⟩ := List.cons.inj written
      have digits : ∀ d : Fin 10, 0 < d.val → CodePoint.ofChar d.val.digitChar ≠ CodePoint.ofChar '0' := by decide
      exact digits ⟨n, short⟩ positive
    · rw [Nat.toDigits_of_base_le (by decide) (Nat.le_of_not_lt short), List.map_append] at written
      obtain ⟨c', rest', front⟩ := List.exists_cons_of_ne_nil (ofNat_ne_nil (n / 10))
      have same : c' = c := by
        rw [← ofNat, front] at written
        exact (List.cons.inj written).1
      subst same
      exact ih (n / 10) (by omega) (by omega) front

theorem Text.length_ofNat_le {n digits : Nat} (positive : 0 < digits) (small : n < 10 ^ digits) :
    (Text.ofNat n).length ≤ digits := by
  rw [Text.ofNat, List.length_map]
  exact (Nat.length_toDigits_le_iff (by decide) positive).mpr small

theorem Text.ofInt_ne_nil (n : Int) : Text.ofInt n ≠ [] := by
  cases n with
  | ofNat n => exact ofNat_ne_nil n
  | negSucc n => exact List.cons_ne_nil _ _

/-- An integer is written with digits and a hyphen. -/
theorem Text.numeral_of_mem_ofInt {n : Int} {c : CodePoint} (inside : c ∈ Text.ofInt n) :
    c.isAsciiDigit = true ∨ c = CodePoint.ofChar '-' := by
  cases n with
  | ofNat n => exact .inl (isAsciiDigit_of_mem_ofNat inside)
  | negSucc n =>
    rcases List.mem_cons.mp inside with hyphen | digit
    · exact .inr hyphen
    · exact .inl (isAsciiDigit_of_mem_ofNat digit)

/-- Digits and the hyphen stand close together. -/
theorem Text.bounds_of_mem_ofInt {n : Int} {c : CodePoint} (inside : c ∈ Text.ofInt n) : 0x2D ≤ c.val ∧ c.val ≤ 0x39 := by
  rcases numeral_of_mem_ofInt inside with digit | rfl
  · simp only [CodePoint.isAsciiDigit, Bool.and_eq_true, decide_eq_true_eq] at digit
    omega
  · decide

theorem CodePoint.isBlank_of_printable {c : CodePoint} (low : 0x20 < c.val) (high : c.val < 0x7F) :
    c.isBlank = false := by
  have first : ¬c.val ≤ 0x0D := by omega
  have second : ¬c.val ≤ 0x20 := by omega
  have third : c.val ≤ 0x85 := by omega
  have gap : ¬0x85 ≤ c.val := by omega
  simp [isBlank, blankRanges, Ranges.contains, first, second, third, gap]

theorem Text.dropWhile_of_not_blank {t : Text} (solid : ∀ c ∈ t, c.isBlank = false) :
    t.dropWhile CodePoint.isBlank = t := by
  rw [List.dropWhile_eq_self_iff]
  intro positive
  simp only [solid _ (List.getElem_mem positive), Bool.false_eq_true, not_false_eq_true]

theorem Text.trim_of_not_blank {t : Text} (solid : ∀ c ∈ t, c.isBlank = false) : t.trim = t := by
  have back : ∀ c ∈ t.reverse, c.isBlank = false := fun c inside => solid c (List.mem_reverse.mp inside)
  rw [trim, dropWhile_of_not_blank solid, dropWhile_of_not_blank back, List.reverse_reverse]

namespace Decimal

theorem isDigits_ofNat (n : Nat) : isDigits (Text.ofNat n) = true := by
  have digits : (Text.ofNat n).all CodePoint.isAsciiDigit = true := by
    rw [List.all_eq_true]
    intro c inside
    exact Text.isAsciiDigit_of_mem_ofNat inside
  simp [isDigits, Text.ofNat_ne_nil, digits]

theorem digitsValue_ofNat (n : Nat) : digitsValue (Text.ofNat n) = n := by
  rw [digitsValue, Text.ofNat, List.foldl_map]
  exact Nat.ofDigitChars_ten_toDigits

theorem readInt?_ofNat (n : Nat) : readInt? (Text.ofNat n) = some (n : Int) := by
  have digits := isDigits_ofNat n
  have value := digitsValue_ofNat n
  cases shape : Text.ofNat n with
  | nil => exact absurd shape (Text.ofNat_ne_nil n)
  | cons c rest =>
    rw [shape] at digits value
    have first : c.isAsciiDigit = true := Text.isAsciiDigit_of_mem_ofNat (n := n) (by simp [shape])
    have minus : c ≠ CodePoint.ofChar '-' := by
      rintro rfl
      exact absurd first (by decide)
    have plus : c ≠ CodePoint.ofChar '+' := by
      rintro rfl
      exact absurd first (by decide)
    rw [readInt?, if_neg minus, if_neg plus, if_pos digits, value]

theorem readInt?_ofInt (n : Int) : readInt? (Text.ofInt n) = some n := by
  cases n with
  | ofNat n => exact readInt?_ofNat n
  | negSucc n =>
    rw [Text.ofInt, readInt?, if_pos rfl, if_pos (isDigits_ofNat _), digitsValue_ofNat]
    rfl

theorem asciiDigits_of_ascii {t : Text} (ascii : ∀ c ∈ t, c.isAscii = true) : asciiDigits t = t := by
  rw [asciiDigits, List.map_congr_left, List.map_id]
  intro c inside
  have plain := ascii c inside
  rw [CodePoint.digitValue?, if_pos plain]
  split
  · next digit =>
    simp only [CodePoint.isAsciiDigit, Bool.and_eq_true, decide_eq_true_eq] at digit
    have value : 0x30 + (c.val - 0x30) = c.val := by omega
    simp only [Option.elim_some, value, id_eq]
    exact Fin.ofNat_val_eq_self c
  · rfl

/-- A numeral is plain as it is written. -/
theorem plain?_ofInt (n : Int) : plain? (Text.ofInt n) = some (Text.ofInt n) := by
  have solid : ∀ c ∈ Text.ofInt n, c.isBlank = false := by
    intro c inside
    have bounds := Text.bounds_of_mem_ofInt inside
    exact CodePoint.isBlank_of_printable (by omega) (by omega)
  have ascii : ∀ c ∈ Text.ofInt n, c.isAscii = true := by
    intro c inside
    have bounds := Text.bounds_of_mem_ofInt inside
    simp only [CodePoint.isAscii, decide_eq_true_eq]
    omega
  have bare : ∀ c ∈ Text.ofInt n, c ≠ CodePoint.ofChar '_' := by
    rintro c inside rfl
    exact absurd (Text.bounds_of_mem_ofInt inside) (by decide)
  rw [plain?, Text.trim_of_not_blank solid, asciiDigits_of_ascii ascii, joinDigits?_eq_self bare]

theorem readInteger?_ofInt (n : Int) : readInteger? (Text.ofInt n) = some n := by
  rw [readInteger?, plain?_ofInt]
  exact readInt?_ofInt n

end Decimal

end RouteTemplate
