import RouteTemplate.Text.Quoted

set_option autoImplicit false

namespace RouteTemplate

namespace Text

def hexNumber (digits : Text) : Nat := digits.foldl (fun n d => 16 * n + d.hexValue?.getD 0) 0

theorem hexValue?_lowerHexDigit {n : Nat} (small : n < 16) : (CodePoint.lowerHexDigit n).hexValue? = some n := by
  have digits : ∀ n : Fin 16, (CodePoint.lowerHexDigit n).hexValue? = some n.val := by decide
  exact digits ⟨n, small⟩

theorem length_hex (width n : Nat) : (hex width n).length = width := by
  induction width generalizing n with
  | zero => rfl
  | succ width ih => rw [hex, List.length_append, ih, List.length_singleton]

theorem hexNumber_hex {width n : Nat} (small : n < 16 ^ width) : hexNumber (hex width n) = n := by
  induction width generalizing n with
  | zero => exact (Nat.lt_one_iff.mp small).symm
  | succ width ih =>
    have front : n / 16 < 16 ^ width := Nat.div_lt_of_lt_mul (by rwa [Nat.pow_succ, Nat.mul_comm] at small)
    have last := hexValue?_lowerHexDigit (show n % 16 < 16 by omega)
    have earlier : (hex width (n / 16)).foldl (fun n d => 16 * n + d.hexValue?.getD 0) 0 = n / 16 := ih front
    rw [hexNumber, hex, List.foldl_append, earlier, List.foldl_cons, List.foldl_nil, last, Option.getD_some]
    omega

/-- The code point whose number is written in front in so many digits, with what follows. -/
def readNumbered (width : Nat) (t : Text) : CodePoint × Text := (Fin.ofNat _ (hexNumber (t.take width)), t.drop width)

theorem readNumbered_hex {width : Nat} {c : CodePoint} (small : c.val < 16 ^ width) (rest : Text) :
    readNumbered width (hex width c.val ++ rest) = (c, rest) := by
  have front : (hex width c.val ++ rest).take width = hex width c.val := List.take_left' (length_hex width c.val)
  have behind : (hex width c.val ++ rest).drop width = rest := List.drop_left' (length_hex width c.val)
  rw [readNumbered, front, behind, hexNumber_hex small, Fin.ofNat_val_eq_self]

/-- The code point that stands in front between quotes, with what follows. -/
def unescape : Text → Option (CodePoint × Text)
  | [] => none
  | c :: rest =>
    if c ≠ '\\' then some (c, rest)
    else
      match rest with
      | [] => none
      | d :: rest =>
        if d = 'n' then some ('\n', rest)
        else if d = 'r' then some ('\r', rest)
        else if d = 't' then some ('\t', rest)
        else if d = 'x' then some (readNumbered 2 rest)
        else if d = 'u' then some (readNumbered 4 rest)
        else if d = 'U' then some (readNumbered 8 rest)
        else some (d, rest)

def IsQuote (quote : CodePoint) : Prop := quote = CodePoint.ofChar '\'' ∨ quote = CodePoint.ofChar '"'

theorem isQuote_quoteFor (t : Text) : IsQuote t.quoteFor := by
  unfold quoteFor
  split
  · exact .inr rfl
  · exact .inl rfl

theorem unescape_mark {c : CodePoint} (mark : IsQuote c ∨ c = CodePoint.ofChar '\\') (rest : Text) :
    unescape (CodePoint.ofChar '\\' :: c :: rest) = some (c, rest) := by
  rcases mark with (rfl | rfl) | rfl
  · rfl
  · rfl
  · rfl

/-- The form of a code point between quotes is read as that code point, whatever follows. -/
theorem unescape_escaped {quote : CodePoint} (mark : IsQuote quote) (c : CodePoint) (rest : Text) :
    unescape (quote.escaped c ++ rest) = some (c, rest) := by
  unfold CodePoint.escaped
  split
  · next marked =>
    refine unescape_mark ?_ rest
    rcases Bool.or_eq_true_iff.mp marked with same | same
    · exact .inl (of_decide_eq_true same ▸ mark)
    · exact .inr (of_decide_eq_true same)
  · next unmarked =>
    have plain : c ≠ CodePoint.ofChar '\\' := by
      rintro rfl
      simp at unmarked
    split
    · next same =>
      rw [same]
      rfl
    · split
      · next same =>
        rw [same]
        rfl
      · split
        · next same =>
          rw [same]
          rfl
        · split
          · exact if_pos plain
          · -- What cannot be shown is written by its number, in as many digits as the letter in front tells.
            split
            · next narrow => exact congrArg some (readNumbered_hex narrow rest)
            · split
              · next middle => exact congrArg some (readNumbered_hex middle rest)
              · have wide : c.val < 16 ^ 8 := Nat.lt_trans c.isLt (by decide)
                exact congrArg some (readNumbered_hex wide rest)

theorem escapes_injective {quote : CodePoint} (mark : IsQuote quote) {s t : Text}
    (same : s.flatMap (CodePoint.escaped quote) ++ [quote] = t.flatMap (CodePoint.escaped quote) ++ [quote]) : s = t := by
  have closing : unescape [quote] = some (quote, []) := by
    rcases mark with rfl | rfl
    · rfl
    · rfl
  induction s generalizing t with
  | nil =>
    cases t with
    | nil => rfl
    | cons d t =>
      rw [List.flatMap_nil, List.nil_append, List.flatMap_cons, List.append_assoc] at same
      rw [same, unescape_escaped mark] at closing
      simp at closing
  | cons c s ih =>
    rw [List.flatMap_cons, List.append_assoc] at same
    have first := unescape_escaped mark c (s.flatMap (CodePoint.escaped quote) ++ [quote])
    cases t with
    | nil =>
      rw [same, List.flatMap_nil, List.nil_append, closing] at first
      simp at first
    | cons d t =>
      rw [List.flatMap_cons, List.append_assoc] at same
      rw [same, unescape_escaped mark] at first
      obtain ⟨rfl, later⟩ := Prod.mk.inj (Option.some.inj first)
      rw [ih later.symm]

/-- Texts with the same quoted form are one text. -/
theorem quoted_injective {s t : Text} (same : s.quoted = t.quoted) : s = t := by
  obtain ⟨mark, behind⟩ := List.cons.inj same
  rw [mark] at behind
  exact escapes_injective (isQuote_quoteFor t) behind

end Text

end RouteTemplate
