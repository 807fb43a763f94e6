import RouteTemplate.Percent
import RouteTemplate.Proofs.Except

set_option autoImplicit false

namespace RouteTemplate

namespace Percent

def isComponentPoint (c : CodePoint) : Bool := isUnreserved c || c = '%'

theorem ascii_of_unreserved {c : CodePoint} (unreserved : isUnreserved c = true) : c.val < 0x80 := by
  simp only [isUnreserved, CodePoint.isAsciiLetter, CodePoint.isAsciiDigit, Bool.or_eq_true, Bool.and_eq_true,
    decide_eq_true_eq] at unreserved
  rcases unreserved with ((((letter | digit) | rfl) | rfl) | rfl) | rfl
  · omega
  · omega
  all_goals decide

theorem ne_percent_of_unreserved {c : CodePoint} (unreserved : isUnreserved c = true) :
    c ≠ CodePoint.ofChar '%' := by
  rintro rfl
  exact absurd unreserved (by decide)

theorem upperHexDigit_unreserved {n : Nat} (small : n < 16) :
    isUnreserved (CodePoint.upperHexDigit n) = true := by
  have digits : ∀ n : Fin 16, isUnreserved (CodePoint.upperHexDigit n) = true := by decide
  exact digits ⟨n, small⟩

theorem hexValue?_upperHexDigit {n : Nat} (small : n < 16) :
    (CodePoint.upperHexDigit n).hexValue? = some n := by
  have digits : ∀ n : Fin 16, (CodePoint.upperHexDigit n).hexValue? = some n.val := by decide
  exact digits ⟨n, small⟩

theorem isComponentPoint_of_mem_encodeOctet {octet : UInt8} {c : CodePoint} (inside : c ∈ encodeOctet octet) :
    isComponentPoint c = true := by
  have bound := octet.toNat_lt
  unfold encodeOctet at inside
  dsimp only at inside
  split at inside
  · next plain =>
    rw [List.mem_singleton.mp inside, isComponentPoint, plain, Bool.true_or]
  · have high := upperHexDigit_unreserved (show octet.toNat / 16 < 16 by omega)
    have low := upperHexDigit_unreserved (show octet.toNat % 16 < 16 by omega)
    simp only [triple, List.mem_cons, List.not_mem_nil, or_false] at inside
    rcases inside with rfl | rfl | rfl
    · rfl
    · simp [isComponentPoint, high]
    · simp [isComponentPoint, low]

theorem isComponentPoint_of_mem_encode {octets : List UInt8} {c : CodePoint} (inside : c ∈ encode octets) :
    isComponentPoint c = true := by
  obtain ⟨octet, _, written⟩ := List.mem_flatMap.mp inside
  exact isComponentPoint_of_mem_encodeOctet written

theorem encodeText_eq {t written : Text} (encoded : encodeText t = .ok written) :
    ∃ octets, t.encode = .ok octets ∧ written = encode octets := by
  unfold encodeText at encoded
  cases read : t.encode with
  | error run => simp [read, Except.map] at encoded
  | ok octets =>
    simp only [read, Except.map, Except.ok.injEq] at encoded
    exact ⟨octets, rfl, encoded.symm⟩

theorem length_le_encode (octets : List UInt8) : octets.length ≤ (encode octets).length := by
  induction octets with
  | nil => exact Nat.le_refl 0
  | cons octet octets ih =>
    have first : 1 ≤ (encodeOctet octet).length := by
      unfold encodeOctet
      dsimp only
      split
      · exact Nat.le_refl 1
      · exact Nat.le_add_left 1 2
    have split : encode (octet :: octets) = encodeOctet octet ++ encode octets := rfl
    rw [split, List.length_append, List.length_cons]
    omega

theorem encode_ne_nil {octets : List UInt8} (nonempty : octets ≠ []) : encode octets ≠ [] := by
  cases octets with
  | nil => exact absurd rfl nonempty
  | cons octet octets =>
    have first : encodeOctet octet ≠ [] := by
      unfold encodeOctet
      dsimp only
      split
      · exact List.cons_ne_nil _ _
      · exact List.cons_ne_nil _ _
    exact List.append_ne_nil_of_left_ne_nil first _

/-- Every character leaves something behind when it is escaped. -/
theorem encodeText_cons_ne_nil {c : CodePoint} {t written : Text} (encoded : encodeText (c :: t) = .ok written) :
    written ≠ [] := by
  obtain ⟨octets, read, rfl⟩ := encodeText_eq encoded
  apply encode_ne_nil
  unfold Text.encode at read
  split at read
  · cases read
  · cases read
    have own : c.utf8 ≠ [] := by
      unfold CodePoint.utf8
      dsimp only
      split
      · exact List.cons_ne_nil _ _
      · split
        · exact List.cons_ne_nil _ _
        · split
          · exact List.cons_ne_nil _ _
          · exact List.cons_ne_nil _ _
    exact List.append_ne_nil_of_left_ne_nil own _

theorem decode_cons {c : CodePoint} (plain : c ≠ CodePoint.ofChar '%') (rest : Text) :
    decode (c :: rest) = c.utf8 ++ decode rest := by
  match rest with
  | [] => simp [decode]
  | [d] => simp [decode]
  | high :: low :: rest => simp [decode, plain]

theorem decode_triple (octet : UInt8) (rest : Text) : decode (triple octet ++ rest) = octet :: decode rest := by
  have bound := octet.toNat_lt
  have high := hexValue?_upperHexDigit (show octet.toNat / 16 < 16 by omega)
  have low := hexValue?_upperHexDigit (show octet.toNat % 16 < 16 by omega)
  have whole : 16 * (octet.toNat / 16) + octet.toNat % 16 = octet.toNat := by omega
  simp [triple, decode, octet?, high, low, whole]

theorem decode_encodeOctet (octet : UInt8) (rest : Text) :
    decode (encodeOctet octet ++ rest) = octet :: decode rest := by
  unfold encodeOctet
  dsimp only
  split
  · next plain =>
    have value : (Fin.ofNat 0x110000 octet.toNat).val = octet.toNat := by
      have bound := octet.toNat_lt
      exact Nat.mod_eq_of_lt (by omega)
    have ascii : octet.toNat < 0x80 := value ▸ ascii_of_unreserved plain
    have own : CodePoint.utf8 (Fin.ofNat 0x110000 octet.toNat) = [octet] := by
      simp only [CodePoint.utf8, value, ascii, ↓reduceIte, UInt8.ofNat_toNat]
    rw [List.singleton_append, decode_cons (ne_percent_of_unreserved plain), own, List.singleton_append]
  · exact decode_triple octet rest

/-- Decoding undoes escaping, whatever stands behind. -/
theorem decode_encode_append (octets : List UInt8) (rest : Text) : decode (encode octets ++ rest) = octets ++ decode rest := by
  induction octets with
  | nil => rfl
  | cons octet octets ih =>
    change decode (encodeOctet octet ++ encode octets ++ rest) = octet :: (octets ++ decode rest)
    rw [List.append_assoc, decode_encodeOctet, ih]

/-- Decoding undoes escaping. -/
@[simp] theorem decode_encode (octets : List UInt8) : decode (encode octets) = octets := by
  have whole := decode_encode_append octets []
  rw [List.append_nil] at whole
  exact whole.trans (List.append_nil octets)

/-- A text without a percent sign stands for its own octets. -/
theorem decode_append {t : Text} (free : CodePoint.ofChar '%' ∉ t) (rest : Text) :
    decode (t ++ rest) = t.octets ++ decode rest := by
  induction t with
  | nil => rfl
  | cons c t ih =>
    obtain ⟨other, later⟩ := List.ne_and_not_mem_of_not_mem_cons free
    rw [List.cons_append, decode_cons (Ne.symm other), ih later, Text.octets, Text.octets, List.flatMap_cons,
      List.append_assoc]

/-- Texts are decoded apart on both sides of a character that belongs to no triple. -/
theorem decode_append_cons {d : CodePoint} (plain : d ≠ CodePoint.ofChar '%') (digit : d.hexValue? = none)
    (t rest : Text) : decode (t ++ d :: rest) = decode t ++ (d.utf8 ++ decode rest) := by
  have low (c : CodePoint) : octet? c d = none := by
    rw [octet?, digit]
    split
    · next impossible => cases impossible
    · rfl
  have high (c : CodePoint) : octet? d c = none := by rw [octet?, digit]
  have single (c : CodePoint) : decode (c :: d :: rest) = c.utf8 ++ (d.utf8 ++ decode rest) := by
    rw [← decode_cons plain]
    cases rest with
    | nil => simp [decode]
    | cons e rest => simp [decode, high]
  induction t using decode.induct with
  | case1 => exact decode_cons plain rest
  | case2 c => exact single c
  | case3 c e =>
    have behind := single e
    simp [decode, low, behind]
  | case4 c h l t octet found ih =>
    simp only [List.cons_append, decode, found]
    exact congrArg (octet :: ·) ih
  | case5 c h l t found ih =>
    simp only [List.cons_append] at ih
    simp only [List.cons_append, decode, found, ih, List.append_assoc]

theorem utf8_of_ascii {c : CodePoint} (ascii : c.val < 0x80) : c.utf8 = [UInt8.ofNat c.val] := by
  simp only [CodePoint.utf8, ascii, ↓reduceIte]

/-- The octet of an ASCII character is escaped as the character is. -/
theorem encode_utf8_of_ascii {c : CodePoint} (ascii : c.val < 0x80) :
    encode c.utf8 = if isUnreserved c then [c] else triple (UInt8.ofNat c.val) := by
  have value : (UInt8.ofNat c.val).toNat = c.val := UInt8.toNat_ofNat_of_lt' (Nat.lt_trans ascii (by decide))
  have same : (Fin.ofNat 0x110000 (UInt8.ofNat c.val).toNat : CodePoint) = c := by
    rw [value]
    exact Fin.ext (Nat.mod_eq_of_lt c.isLt)
  have split : encode [UInt8.ofNat c.val] = encodeOctet (UInt8.ofNat c.val) := List.append_nil _
  rw [utf8_of_ascii ascii, split, encodeOctet, same]

/-- A character that is not unreserved takes more than one place when it is escaped. -/
theorem one_lt_length_encode_utf8 {c : CodePoint} (reserved : isUnreserved c = false) : 1 < (encode c.utf8).length := by
  by_cases ascii : c.val < 0x80
  · rw [encode_utf8_of_ascii ascii, reserved]
    exact (by decide : 1 < 3)
  · have long : 1 < c.utf8.length := by
      simp only [CodePoint.utf8, ascii, ↓reduceIte]
      split
      · exact (by decide : 1 < 2)
      · split
        · exact (by decide : 1 < 3)
        · exact (by decide : 1 < 4)
    exact Nat.lt_of_lt_of_le long (length_le_encode c.utf8)

theorem length_le_encode_octets (t : Text) : t.length ≤ (encode t.octets).length := by
  induction t with
  | nil => exact Nat.le_refl 0
  | cons c t ih =>
    have first : 1 ≤ (encode c.utf8).length := by
      cases plain : isUnreserved c with
      | true => simp [encode_utf8_of_ascii (ascii_of_unreserved plain), plain]
      | false => exact Nat.le_of_lt (one_lt_length_encode_utf8 plain)
    have split : Text.octets (c :: t) = c.utf8 ++ Text.octets t := rfl
    rw [split, encode_append, List.length_append, List.length_cons]
    omega

/-- Texts of unreserved characters, and no others, are their own escaped form. -/
theorem encode_octets_eq_self_iff {t : Text} : encode t.octets = t ↔ ∀ c ∈ t, isUnreserved c = true := by
  induction t with
  | nil => exact iff_of_true rfl (by simp)
  | cons c t ih =>
    have split : Text.octets (c :: t) = c.utf8 ++ Text.octets t := rfl
    rw [split, encode_append, List.forall_mem_cons]
    cases plain : isUnreserved c with
    | true =>
      have own : encode c.utf8 = [c] := by rw [encode_utf8_of_ascii (ascii_of_unreserved plain), if_pos plain]
      rw [own, List.singleton_append, List.cons_inj_right, ih]
      exact (and_iff_right rfl).symm
    | false =>
      -- The escaped form is too long.
      refine iff_of_false (fun same => ?_) (by simp)
      have first := one_lt_length_encode_utf8 plain
      have rest := length_le_encode_octets t
      have whole := congrArg List.length same
      rw [List.length_append, List.length_cons] at whole
      omega

theorem isComponentPoint_of_mem_encodeText {t written : Text} (encoded : encodeText t = .ok written) {c : CodePoint}
    (inside : c ∈ written) : isComponentPoint c = true := by
  obtain ⟨octets, _, rfl⟩ := encodeText_eq encoded
  exact isComponentPoint_of_mem_encode inside

theorem encodeAround_cons_ok {keep : CodePoint → Bool} {c : CodePoint} {t written : Text}
    (encoded : encodeAround keep (c :: t) = .ok written) : ∃ first rest,
      (if isUnreserved c || keep c then first = [c] else encodeText [c] = .ok first) ∧
      encodeAround keep t = .ok rest ∧ written = first ++ rest := by
  unfold encodeAround at encoded
  dsimp only at encoded
  split at encoded
  · next plain =>
    obtain ⟨first, own, encoded⟩ := bind_eq_ok.mp encoded
    obtain ⟨rest, later, encoded⟩ := bind_eq_ok.mp encoded
    cases own
    cases encoded
    exact ⟨[c], rest, by rw [if_pos plain], later, rfl⟩
  · next special =>
    obtain ⟨first, own, encoded⟩ := bind_eq_ok.mp encoded
    obtain ⟨rest, later, encoded⟩ := bind_eq_ok.mp encoded
    cases encoded
    exact ⟨first, rest, by rw [if_neg special]; exact own, later, rfl⟩

/-- Around what is kept there are the characters of components alone. -/
theorem mem_encodeAround {keep : CodePoint → Bool} {t written : Text} (encoded : encodeAround keep t = .ok written)
    {c : CodePoint} (inside : c ∈ written) : isComponentPoint c = true ∨ keep c = true := by
  induction t generalizing written with
  | nil =>
    cases encoded
    cases inside
  | cons d t ih =>
    obtain ⟨first, rest, own, later, rfl⟩ := encodeAround_cons_ok encoded
    rcases List.mem_append.mp inside with here | there
    · split at own
      · next plain =>
        rw [own, List.mem_singleton] at here
        rw [here]
        rcases Bool.or_eq_true_iff.mp plain with unreserved | kept
        · exact .inl (by simp [isComponentPoint, unreserved])
        · exact .inr kept
      · exact .inl (isComponentPoint_of_mem_encodeText own here)
    · exact ih later there

/-- What is kept already stays as it is. -/
theorem encodeAround_eq_self {keep : CodePoint → Bool} {t : Text}
    (kept : ∀ c ∈ t, isUnreserved c = true ∨ keep c = true) : encodeAround keep t = .ok t := by
  induction t with
  | nil => rfl
  | cons c t ih =>
    have first : (isUnreserved c || keep c) = true := Bool.or_eq_true_iff.mpr (kept c (by simp))
    have rest := ih fun d inside => kept d (by simp [inside])
    simp only [encodeAround, first, ↓reduceIte, rest]
    rfl

end Percent

end RouteTemplate
