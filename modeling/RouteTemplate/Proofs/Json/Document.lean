import RouteTemplate.Proofs.Decimal.Numeral
import RouteTemplate.Proofs.Json.ReadBack
import RouteTemplate.Proofs.Text.Cut

set_option autoImplicit false

namespace RouteTemplate.Json

/-- A text is read back whatever it holds: what could end it or break it is escaped. -/
theorem readsBack_text (t : Text) : ReadsBack 0 (.text t) := by
  constructor
  · intro level
    exact ⟨CodePoint.ofChar '"', _, List.append_nil (quoted t) ▸ quoted_append t [], by decide, by decide⟩
  · intro level fuel room position rest enough _ _
    have written : textAt level (.text t) = quoted t := rfl
    rw [written] at enough ⊢
    obtain ⟨fuel, rfl⟩ := exists_fuel enough (by simp [quoted, Text.ofString])
    obtain ⟨further, read⟩ := readText_quoted position (position + 1) t rest
    refine ⟨further, ?_⟩
    rw [quoted_append, readValue]
    dsimp only
    rw [if_pos rfl, read]
    rfl

section Numbers

variable {rest : Text} (ends : EndsValue rest)

include ends

theorem EndsValue.head {c : CodePoint} (head : c ∈ rest.head?) :
    c.isAsciiDigit = false ∧ c ≠ CodePoint.ofChar '.' ∧ c ≠ CodePoint.ofChar 'e' ∧ c ≠ CodePoint.ofChar 'E' := by
  rcases ends c head with rfl | rfl <;> decide

theorem digitsOf_ofNat (n : Nat) : digitsOf (Text.ofNat n ++ rest) = Text.ofNat n := by
  rw [digitsOf, Text.span_append_stop (fun c => Text.isAsciiDigit_of_mem_ofNat) fun c head => (ends.head head).1]

theorem fractionLength_of_ends : fractionLength rest = 0 := by
  cases rest with
  | nil => rfl
  | cons c rest =>
    have plain := (ends.head rfl).2.1
    simp [fractionLength, plain]

theorem exponentLength_of_ends : exponentLength rest = 0 := by
  cases rest with
  | nil => rfl
  | cons c rest =>
    obtain ⟨_, _, lower, upper⟩ := ends.head rfl
    simp [exponentLength, lower, upper]

/-- What is shared by numerals with and without a hyphen: the digits, where they stop, and the number they make. -/
theorem numeral_digits {m : Nat} (small : m < 10 ^ 4300) :
    ∃ c others, Text.ofNat m = c :: others ∧ c.isAsciiDigit = true ∧ digitsOf (c :: (others ++ rest)) = c :: others ∧
      (if c = CodePoint.ofChar '0' then [c] else c :: others) = c :: others ∧ ¬4300 < (c :: others).length ∧
      Decimal.digitsValue (c :: others) = m := by
  obtain ⟨c, others, written⟩ := List.exists_cons_of_ne_nil (Text.ofNat_ne_nil m)
  have digits := digitsOf_ofNat ends m
  have fits := Text.length_ofNat_le (by decide) small
  have value := Decimal.digitsValue_ofNat m
  have first : c.isAsciiDigit = true := Text.isAsciiDigit_of_mem_ofNat (n := m) (by simp [written])
  rw [written] at digits fits value
  refine ⟨c, others, written, first, digits, ?_, Nat.not_lt.mpr fits, value⟩
  rcases Nat.eq_zero_or_pos m with rfl | positive
  · cases written
    rfl
  · rw [if_neg (Text.head_ofNat_ne positive written)]

theorem readNumber_ofInt {n : Int} (small : n.natAbs < 10 ^ 4300) (position : Nat) :
    readNumber ⟨position, Text.ofInt n ++ rest⟩ = .ok (.int n, ⟨position + (Text.ofInt n).length, rest⟩) := by
  have fraction := fractionLength_of_ends ends
  have exponent := exponentLength_of_ends ends
  cases n with
  | ofNat m =>
    obtain ⟨c, others, written, first, digits, whole, fits, value⟩ := numeral_digits ends (m := m) small
    have unsigned : c ≠ CodePoint.ofChar '-' := by
      rintro rfl
      cases first
    rw [Text.ofInt, written]
    have behind : (c :: (others ++ rest)).drop (c :: others).length = rest := List.drop_left
    simp only [readNumber, List.cons_append, if_neg unsigned, digits, whole, List.isEmpty_cons, Bool.false_eq_true,
      ↓reduceIte, behind, fraction, List.drop_zero, exponent, decide_true, Bool.and_self, fits, value]
    rw [Cursor.advance, Nat.zero_add, Nat.add_zero, behind]
    rfl
  | negSucc m =>
    obtain ⟨c, others, written, first, digits, whole, fits, value⟩ := numeral_digits ends (m := m + 1) small
    rw [Text.ofInt, written]
    have behind : (c :: (others ++ rest)).drop (c :: others).length = rest := List.drop_left
    simp only [readNumber, List.cons_append, digits, whole, List.isEmpty_cons, Bool.false_eq_true,
      ↓reduceIte, behind, fraction, List.drop_zero, exponent, decide_true, Bool.and_self, fits, value]
    rw [Cursor.advance, Nat.add_zero, Nat.add_zero, Nat.add_comm 1, List.drop_succ_cons, behind]
    rfl

end Numbers

/-- A numeral starts with a digit, or with a hyphen and a digit behind it. -/
theorem ofInt_cases (n : Int) :
    ∃ c others, c.isAsciiDigit = true ∧
      (Text.ofInt n = c :: others ∨ Text.ofInt n = CodePoint.ofChar '-' :: c :: others) := by
  have leading (m : Nat) : ∃ c others, c.isAsciiDigit = true ∧ Text.ofNat m = c :: others := by
    obtain ⟨c, others, written⟩ := List.exists_cons_of_ne_nil (Text.ofNat_ne_nil m)
    exact ⟨c, others, Text.isAsciiDigit_of_mem_ofNat (n := m) (by simp [written]), written⟩
  cases n with
  | ofNat m =>
    obtain ⟨c, others, digit, written⟩ := leading m
    exact ⟨c, others, digit, .inl written⟩
  | negSucc m =>
    obtain ⟨c, others, digit, written⟩ := leading (m + 1)
    exact ⟨c, others, digit, .inr (congrArg (List.cons _) written)⟩

/-- None of the words that stand for values starts as a numeral does. -/
theorem readScalar_ofInt (n : Int) (position : Nat) (rest : Text) :
    readScalar ⟨position, Text.ofInt n ++ rest⟩ = readNumber ⟨position, Text.ofInt n ++ rest⟩ := by
  obtain ⟨c, others, digit, written⟩ := ofInt_cases n
  have apart (letter : Char) (other : (CodePoint.ofChar letter).isAsciiDigit = false) : CodePoint.ofChar letter ≠ c := by
    rintro rfl
    cases digit.symm.trans other
  have none : (words.find? fun word => (Text.ofInt n ++ rest).startsWith word.1) = none := by
    rw [List.find?_eq_none]
    rcases written with written | written <;>
      simp [words, written, Text.startsWith, Text.afterStart?, Text.ofString, apart 'n' rfl, apart 't' rfl, apart 'f' rfl,
        apart 'N' rfl, apart 'I' rfl, apart '-' rfl]
  rw [readScalar]
  dsimp only
  rw [none]

/-- An integer is read back if it has no more digits than a number may have. -/
theorem readsBack_int {n : Int} (small : n.natAbs < 10 ^ 4300) : ReadsBack 0 (.int n) := by
  obtain ⟨c, others, written⟩ := List.exists_cons_of_ne_nil (Text.ofInt_ne_nil n)
  have bounds : 0x2D ≤ c.val ∧ c.val ≤ 0x39 := Text.bounds_of_mem_ofInt (n := n) (by simp [written])
  have apart (d : CodePoint) (outside : ¬(0x2D ≤ d.val ∧ d.val ≤ 0x39)) : c ≠ d := by
    rintro rfl
    exact outside bounds
  have visible : Cursor.isSpace c = false := by
    simp only [Cursor.isSpace, Bool.or_eq_false_iff, decide_eq_false_iff_not]
    exact ⟨⟨⟨apart _ (by decide), apart _ (by decide)⟩, apart _ (by decide)⟩, apart _ (by decide)⟩
  constructor
  · intro level
    exact ⟨c, others, written, visible, by omega⟩
  · intro level fuel room position rest enough _ ends
    have whole : textAt level (.int n) = Text.ofInt n := rfl
    rw [whole] at enough ⊢
    obtain ⟨fuel, rfl⟩ := exists_fuel enough (Text.ofInt_ne_nil n)
    have scalar : readValue (fuel + 1) room ⟨position, Text.ofInt n ++ rest⟩ =
        readScalar ⟨position, Text.ofInt n ++ rest⟩ := by
      rw [written, readValue]
      dsimp only [List.cons_append]
      rw [if_neg (apart _ (by decide)), if_neg (apart _ (by decide)), if_neg (apart _ (by decide))]
    exact ⟨_, by rw [scalar, readScalar_ofInt, readNumber_ofInt ends small]⟩

section Arrays

variable {depth : Nat}

theorem next_item {item : Json} (back : ReadsBack depth item) (outer level position : Nat) (more : Text) :
    ∃ further, Cursor.next ⟨position, newline outer ++ (textAt level item ++ more)⟩ =
      ⟨further, textAt level item ++ more⟩ := by
  obtain ⟨c, others, same, visible, _⟩ := back.starts level
  rw [same]
  exact next_newline outer position _ visible

theorem itemsAt_append (level : Nat) (item : Json) (items : List Json) (more : Text) :
    itemsAt level (item :: items) ++ more =
      CodePoint.ofChar ',' :: (newline level ++ (textAt level item ++ (itemsAt level items ++ more))) := by
  simp [itemsAt, Text.ofString]

theorem textAt_array_append (level : Nat) (item : Json) (items : List Json) (rest : Text) :
    textAt level (.array (item :: items)) ++ rest = CodePoint.ofChar '[' :: (newline (level + 1) ++
      (textAt (level + 1) item ++ (itemsAt (level + 1) items ++ (newline level ++ CodePoint.ofChar ']' :: rest)))) := by
  simp [textAt, Text.ofString]

theorem length_itemsAt (level : Nat) (item : Json) (items : List Json) :
    (itemsAt level (item :: items)).length =
      (newline level).length + (textAt level item).length + (itemsAt level items).length + 1 := by
  have parts := congrArg List.length (itemsAt_append level item items [])
  simp only [List.append_nil, List.length_append, List.length_cons] at parts
  omega

/-- What is read back does not start with a bracket that closes an array, for there is nothing to read in front of one. -/
theorem ReadsBack.head_ne_bracket {item : Json} (back : ReadsBack depth item) (level : Nat) (more : Text) :
    (textAt level item ++ more).head? ≠ some (CodePoint.ofChar ']') := by
  obtain ⟨c, others, same, _, _⟩ := back.starts level
  rw [same]
  intro first
  obtain rfl : c = CodePoint.ofChar ']' := Option.some.inj first
  have ends : EndsValue [] := fun _ impossible => by cases impossible
  obtain ⟨further, read⟩ := back.read level ((textAt level item).length + 1) depth 0 [] (Nat.le_succ _) (Nat.le_refl _) ends
  rw [same, List.append_nil, readValue] at read
  cases read

/-- Reading items takes the first as it is written and goes on with what stands behind it. -/
theorem readItems_item {fuel room : Nat} {more : Text} {item : Json} {level : Nat} (back : ReadsBack depth item)
    (deep : depth ≤ room) (enough : (textAt level item).length ≤ fuel) (ends : EndsValue more) (position : Nat) :
    ∃ further, readItems (fuel + 1) room ⟨position, textAt level item ++ more⟩ =
      let stop := Cursor.next ⟨further, more⟩
      match stop.rest with
      | [] => stop.fail .expectedComma
      | c :: _ =>
        if c = ']' then .ok ([item], stop.advance 1)
        else if c = ',' then
          readItems fuel room (stop.advance 1).next >>= fun (items, last) => .ok (item :: items, last)
        else stop.fail .expectedComma := by
  obtain ⟨further, itemRead⟩ := back.read level fuel room position more enough deep ends
  refine ⟨further, ?_⟩
  rw [readItems]
  simp only [itemRead, ok_bind]
  rfl

/-- Items as they are written in an array are read back up to its end. -/
theorem readItems_written (outer : Nat) (rest : Text) {level room : Nat} (deep : depth ≤ room) (item : Json)
    (items : List Json) (each : ∀ item' ∈ item :: items, ReadsBack depth item') (fuel position : Nat)
    (enough : (itemsAt level (item :: items)).length ≤ fuel) :
    ∃ further, readItems fuel room ⟨position, textAt level item ++
        (itemsAt level items ++ (newline outer ++ CodePoint.ofChar ']' :: rest))⟩ =
      .ok (item :: items, ⟨further, rest⟩) := by
  induction items generalizing item fuel position with
  | nil =>
    have back : ReadsBack depth item := each _ List.mem_cons_self
    rw [length_itemsAt] at enough
    obtain ⟨fuel, rfl⟩ : ∃ less, fuel = less + 1 := ⟨fuel - 1, by omega⟩
    have ends : EndsValue (newline outer ++ CodePoint.ofChar ']' :: rest) := by
      rintro c ⟨⟩
      exact .inr rfl
    have fits : (textAt level item).length ≤ fuel := by omega
    obtain ⟨afterItem, read⟩ := readItems_item back deep fits ends position
    obtain ⟨stop, reached⟩ := next_newline outer afterItem rest (c := CodePoint.ofChar ']') (by decide)
    refine ⟨stop + 1, ?_⟩
    rw [itemsAt, List.nil_append, read, reached]
    rfl
  | cons next items ih =>
    have back : ReadsBack depth item := each _ List.mem_cons_self
    have others : ∀ item' ∈ next :: items, ReadsBack depth item' := fun item' inside =>
      each item' (List.mem_cons_of_mem _ inside)
    rw [length_itemsAt] at enough
    obtain ⟨fuel, rfl⟩ : ∃ less, fuel = less + 1 := ⟨fuel - 1, by omega⟩
    rw [itemsAt_append]
    have ends : EndsValue (CodePoint.ofChar ',' :: (newline level ++ (textAt level next ++
        (itemsAt level items ++ (newline outer ++ CodePoint.ofChar ']' :: rest))))) := by
      rintro c ⟨⟩
      exact .inl rfl
    have fits : (textAt level item).length ≤ fuel := by omega
    obtain ⟨afterItem, read⟩ := readItems_item back deep fits ends position
    obtain ⟨nextStart, reached⟩ := next_item (others next List.mem_cons_self) level level (afterItem + 1)
      (itemsAt level items ++ (newline outer ++ CodePoint.ofChar ']' :: rest))
    obtain ⟨further, later⟩ := ih next others fuel nextStart (by omega)
    refine ⟨further, ?_⟩
    rw [read, next_of_not_space (by decide)]
    dsimp only
    rw [if_neg (by decide), if_pos rfl, advance_one, reached, later]
    rfl

theorem readsBack_array {items : List Json} (each : ∀ item ∈ items, ReadsBack depth item) :
    ReadsBack (depth + 1) (.array items) := by
  constructor
  · intro level
    cases items with
    | nil => exact ⟨_, _, rfl, by decide, by decide⟩
    | cons item items => exact ⟨_, _, rfl, by decide, by decide⟩
  · intro level fuel room position rest enough deep _
    obtain ⟨room, rfl⟩ : ∃ less, room = less + 1 := ⟨room - 1, by omega⟩
    cases items with
    | nil =>
      obtain ⟨fuel, rfl⟩ := exists_fuel enough (List.cons_ne_nil _ _)
      exact ⟨_, rfl⟩
    | cons item items =>
      have back : ReadsBack depth item := each item List.mem_cons_self
      have deepInside : depth ≤ room := Nat.le_of_succ_le_succ deep
      have inner : (itemsAt (level + 1) (item :: items)).length < (textAt level (.array (item :: items))).length := by
        have whole := congrArg List.length (textAt_array_append level item items [])
        rw [length_itemsAt]
        simp only [List.append_nil, List.length_append, List.length_cons] at whole
        omega
      obtain ⟨fuel, rfl⟩ : ∃ less, fuel = less + 1 := ⟨fuel - 1, by omega⟩
      obtain ⟨inside, reached⟩ := next_item back (level + 1) (level + 1) (position + 1)
        (itemsAt (level + 1) items ++ (newline level ++ CodePoint.ofChar ']' :: rest))
      have enoughInside : (itemsAt (level + 1) (item :: items)).length ≤ fuel := by omega
      obtain ⟨further, read⟩ := readItems_written level rest deepInside item items each fuel inside enoughInside
      refine ⟨further, ?_⟩
      rw [textAt_array_append, readValue]
      dsimp only
      rw [if_neg (by decide), if_neg (by decide), if_pos rfl, if_neg (Nat.succ_ne_zero room), advance_one, reached,
        Nat.add_sub_cancel]
      dsimp only
      rw [if_neg (back.head_ne_bracket (level + 1) _), read]
      rfl

end Arrays

end RouteTemplate.Json
