import RouteTemplate.Text.Utf8

set_option autoImplicit false

namespace RouteTemplate.Text

theorem toNat_ofNat {n : Nat} (small : n < 256) : (UInt8.ofNat n).toNat = n := UInt8.toNat_ofNat_of_lt' small

theorem continuation?_ofNat {n : Nat} (small : n < 0x40) : continuation? (UInt8.ofNat (0x80 + n)) = some n := by
  have value := toNat_ofNat (n := 0x80 + n) (by omega)
  unfold continuation?
  rw [value, if_pos (by simp; omega)]
  exact congrArg some (by omega)

/-- The second octet of a form is read when the form is the shortest, no surrogate and at most the last code point. -/
theorem second?_ofNat {lead n : Nat} (byte : lead < 256) (small : n < 0x40) (shortest : lead = 0xE0 → 0x20 ≤ n)
    (plain : lead = 0xED → n < 0x20) (wide : lead = 0xF0 → 0x10 ≤ n) (last : lead = 0xF4 → n < 0x10) :
    second? (UInt8.ofNat lead) (UInt8.ofNat (0x80 + n)) = some n := by
  have value := toNat_ofNat (n := 0x80 + n) (by omega)
  unfold second?
  simp only [toNat_ofNat byte, value]
  rw [if_pos]
  · exact congrArg some (by omega)
  · simp only [Bool.and_eq_true, decide_eq_true_eq]
    constructor
    · split
      · omega
      · split <;> omega
    · split
      · omega
      · split <;> omega

/-- The octets of a code point that is no surrogate, in front of more: they are read as the code point. -/
theorem leading_utf8 {c : CodePoint} (plain : c.isSurrogate = false) (more : List UInt8) :
    ∃ lead others, c.utf8 = lead :: others ∧ leading lead (others ++ more) = .point c (others.length + 1) := by
  have bound := c.isLt
  have gap : ¬(0xD800 ≤ c.val ∧ c.val ≤ 0xDFFF) := by simpa [CodePoint.isSurrogate] using plain
  have point {n : Nat} (same : n = c.val) : Fin.ofNat 0x110000 n = c := by
    subst same
    exact Fin.ofNat_val_eq_self c
  unfold CodePoint.utf8
  dsimp only
  split
  · next one =>
    refine ⟨_, [], rfl, ?_⟩
    unfold leading
    simp only [toNat_ofNat (show c.val < 256 by omega), if_pos one]
    rw [point rfl]
    rfl
  · next notOne =>
    split
    · next two =>
      refine ⟨_, [_], rfl, ?_⟩
      have lead := toNat_ofNat (n := 0xC0 + c.val / 0x40) (by omega)
      unfold leading
      simp only [lead, List.cons_append, List.nil_append]
      rw [if_neg (by omega), if_neg (by omega), if_pos (by omega), continuation?_ofNat (by omega)]
      dsimp only
      rw [point (by omega)]
      rfl
    · next notTwo =>
      split
      · next three =>
        refine ⟨_, [_, _], rfl, ?_⟩
        have lead := toNat_ofNat (n := 0xE0 + c.val / 0x1000) (by omega)
        unfold leading
        simp only [lead, List.cons_append, List.nil_append]
        rw [if_neg (by omega), if_neg (by omega), if_neg (by omega), if_pos (by omega),
          second?_ofNat (by omega) (by omega) (by omega) (by omega) (by omega) (by omega)]
        dsimp only
        rw [continuation?_ofNat (by omega)]
        dsimp only
        rw [point (by omega)]
        rfl
      · next four =>
        refine ⟨_, [_, _, _], rfl, ?_⟩
        have lead := toNat_ofNat (n := 0xF0 + c.val / 0x40000) (by omega)
        unfold leading
        simp only [lead, List.cons_append, List.nil_append]
        rw [if_neg (by omega), if_neg (by omega), if_neg (by omega), if_neg (by omega), if_pos (by omega),
          second?_ofNat (by omega) (by omega) (by omega) (by omega) (by omega) (by omega)]
        dsimp only
        rw [continuation?_ofNat (by omega)]
        dsimp only
        rw [continuation?_ofNat (by omega)]
        dsimp only
        rw [point (by omega)]
        rfl

theorem decodeFrom_skip (position : Nat) (passed more : List UInt8) :
    decodeFrom position passed.length (passed ++ more) = decodeFrom (position + passed.length) 0 more := by
  induction passed generalizing position with
  | nil => rfl
  | cons octet passed ih =>
    have next := ih (position + 1)
    rw [List.length_cons, List.cons_append, decodeFrom, next]
    congr 1
    omega

theorem decodeFrom_octets {t : Text} (plain : ∀ c ∈ t, c.isSurrogate = false) (position : Nat) :
    decodeFrom position 0 t.octets = .ok t := by
  induction t generalizing position with
  | nil => rfl
  | cons c rest ih =>
    have later (position : Nat) := ih (fun d inside => plain d (List.mem_cons_of_mem c inside)) position
    obtain ⟨lead, others, form, read⟩ := leading_utf8 (plain c List.mem_cons_self) (octets rest)
    have unfolded : octets (c :: rest) = lead :: (others ++ octets rest) := by
      rw [octets, List.flatMap_cons, form]
      rfl
    rw [unfolded, decodeFrom, read]
    simp only [Nat.add_sub_cancel, decodeFrom_skip, later, Except.map]

/-- A text without surrogates is read back from its octets. -/
theorem ofOctets_octets {t : Text} (plain : ∀ c ∈ t, c.isSurrogate = false) : ofOctets t.octets = .ok t :=
  decodeFrom_octets plain 0

theorem lossyFrom_skip (passed rest : List UInt8) : lossyFrom passed.length (passed ++ rest) = lossyFrom 0 rest := by
  induction passed with
  | nil => rfl
  | cons octet passed ih =>
    rw [List.length_cons, List.cons_append, lossyFrom]
    exact ih

/-- Lossy reading loses nothing of a text without surrogates, whatever octets follow. -/
theorem ofOctetsLossy_append {t : Text} (plain : ∀ c ∈ t, c.isSurrogate = false) (more : List UInt8) :
    ofOctetsLossy (t.octets ++ more) = t ++ ofOctetsLossy more := by
  induction t with
  | nil => rfl
  | cons c rest ih =>
    have later := ih fun d inside => plain d (List.mem_cons_of_mem c inside)
    obtain ⟨lead, others, form, read⟩ := leading_utf8 (plain c List.mem_cons_self) (octets rest ++ more)
    have unfolded : octets (c :: rest) ++ more = lead :: (others ++ (octets rest ++ more)) := by
      rw [octets, List.flatMap_cons, form]
      simp [octets]
    rw [unfolded, ofOctetsLossy, lossyFrom, read]
    simp only [Nat.add_sub_cancel, lossyFrom_skip]
    exact congrArg (c :: ·) later

def Leading.width : Leading → Nat
  | .point _ width => width
  | .bad width _ => width

def Leading.mark : Leading → CodePoint
  | .point c _ => c
  | .bad _ _ => CodePoint.replacement

theorem lossyFrom_cons (lead : UInt8) (rest : List UInt8) :
    lossyFrom 0 (lead :: rest) = (leading lead rest).mark :: lossyFrom ((leading lead rest).width - 1) rest := by
  rw [lossyFrom]
  cases leading lead rest <;> rfl

section Ascii

variable {a : UInt8} (ascii : a.toNat < 0x80)

include ascii

theorem continuation?_ascii : continuation? a = none := by
  rw [continuation?, if_neg (by simp; omega)]

theorem second?_ascii (lead : UInt8) : second? lead a = none := by
  have low : 0x80 ≤ (if lead.toNat = 0xE0 then 0xA0 else if lead.toNat = 0xF0 then 0x90 else 0x80) := by
    split
    · omega
    · split <;> omega
  rw [second?, if_neg]
  simp only [Bool.and_eq_true, decide_eq_true_eq]
  omega

/-- The octets that are read at the front stand before the next ASCII character, whatever follows it. -/
theorem leading_append_ascii (lead : UInt8) (rest more : List UInt8) :
    (leading lead rest).width ≤ rest.length + 1 ∧
      (leading lead (rest ++ a :: more)).width = (leading lead rest).width ∧
      (leading lead (rest ++ a :: more)).mark = (leading lead rest).mark := by
  have continued := continuation?_ascii ascii
  have second := second?_ascii ascii lead
  unfold leading
  dsimp only
  split
  · simp [Leading.width, Leading.mark]
  · split
    · simp [Leading.width, Leading.mark]
    · split
      · cases rest with
        | nil => simp [continued, Leading.width, Leading.mark]
        | cons b rest => cases one : continuation? b <;> simp [one, Leading.width]
      · split
        · cases rest with
          | nil => simp [second, Leading.width, Leading.mark]
          | cons b rest =>
            cases one : second? lead b with
            | none => simp [one, Leading.width]
            | some x =>
              cases rest with
              | nil => simp [one, continued, Leading.width, Leading.mark]
              | cons c rest => cases two : continuation? c <;> simp [one, two, Leading.width]
        · split
          · cases rest with
            | nil => simp [second, Leading.width, Leading.mark]
            | cons b rest =>
              cases one : second? lead b with
              | none => simp [one, Leading.width]
              | some x =>
                cases rest with
                | nil => simp [one, continued, Leading.width, Leading.mark]
                | cons c rest =>
                  cases two : continuation? c with
                  | none => simp [one, two, Leading.width]
                  | some y =>
                    cases rest with
                    | nil => simp [one, two, continued, Leading.width, Leading.mark]
                    | cons d rest => cases three : continuation? d <;> simp [one, two, three, Leading.width]
          · simp [Leading.width, Leading.mark]

/-- Octets are read apart on both sides of an ASCII character. -/
theorem lossyFrom_append_ascii {skip : Nat} {front : List UInt8} (within : skip ≤ front.length) (more : List UInt8) :
    lossyFrom skip (front ++ a :: more) = lossyFrom skip front ++ Fin.ofNat _ a.toNat :: lossyFrom 0 more := by
  induction front generalizing skip with
  | nil =>
    obtain rfl := Nat.le_zero.mp within
    have own : leading a more = .point (Fin.ofNat _ a.toNat) 1 := by
      unfold leading
      exact if_pos ascii
    rw [List.nil_append, lossyFrom_cons, own]
    rfl
  | cons lead front ih =>
    cases skip with
    | succ skip => exact ih (Nat.le_of_succ_le_succ within)
    | zero =>
      obtain ⟨bound, width, mark⟩ := leading_append_ascii ascii lead front more
      rw [List.cons_append, lossyFrom_cons, lossyFrom_cons, width, mark, ih (by omega), List.cons_append]

theorem ofOctetsLossy_append_ascii (front more : List UInt8) :
    ofOctetsLossy (front ++ a :: more) = ofOctetsLossy front ++ Fin.ofNat _ a.toNat :: ofOctetsLossy more :=
  lossyFrom_append_ascii ascii (Nat.zero_le _) more

end Ascii

theorem encode_eq_ok {t : Text} (plain : ∀ c ∈ t, c.isSurrogate = false) : t.encode = .ok t.octets := by
  rw [encode, SurrogateRun.find?_eq_none_iff.mpr plain]

end RouteTemplate.Text
