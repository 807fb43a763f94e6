import RouteTemplate.Json.Reader
import RouteTemplate.Json.Writer
import RouteTemplate.Proofs.Except
import RouteTemplate.Proofs.Table

set_option autoImplicit false

namespace RouteTemplate.Json

section Texts

variable {start position : Nat} {more : Text}

theorem readText_plain {c : CodePoint} (quote : c ≠ '"') (backslash : c ≠ '\\') (visible : ¬c.val < 0x20) :
    readText start position (c :: more) = consPoint c (readText start (position + 1) more) := by
  rw [readText.eq_def]
  dsimp only
  rw [if_neg quote, if_neg backslash, if_neg visible]

theorem readText_escape {e d : CodePoint} (letter : escapeOf? e = some d) (short : e ≠ 'u') :
    readText start position ('\\' :: e :: more) = consPoint d (readText start (position + 2) more) := by
  rw [readText.eq_def]
  dsimp only
  rw [if_neg (by decide), if_pos rfl, if_neg short, letter]

/-- The numeral of a control character is none of a surrogate, so what follows it is read on its own. -/
theorem readText_unicode {c : CodePoint} (control : c.val < 0x20) (goesOn : more ≠ []) :
    readText start position ([CodePoint.ofChar '\\', CodePoint.ofChar 'u'] ++ Text.hex 4 c.val ++ more) =
      consPoint c (readText start (position + 6) more) := by
  have numeral : ∀ n : Fin 0x20, hex4? (CodePoint.lowerHexDigit (n / 16 / 16 / 16 % 16))
      (CodePoint.lowerHexDigit (n / 16 / 16 % 16)) (CodePoint.lowerHexDigit (n / 16 % 16))
      (CodePoint.lowerHexDigit (n % 16)) = some n.val := by
    decide
  have read := numeral ⟨c.val, control⟩
  have low : isHighHalf c.val = false := by
    simp only [isHighHalf, Bool.and_eq_false_iff, decide_eq_false_iff_not]
    omega
  have point : Fin.ofNat 0x110000 c.val = c := Fin.ofNat_val_eq_self c
  obtain ⟨q, rest, rfl⟩ := List.exists_cons_of_ne_nil goesOn
  rw [readText.eq_def]
  simp only [Text.hex, List.nil_append, List.cons_append]
  rw [if_neg (by decide), if_pos trivial, if_pos trivial, read]
  dsimp only
  split
  · rw [low, point]
    rfl
  · rw [point]

/-- The form of a code point inside quotes is read as that code point. -/
theorem readText_escapePoint (start position : Nat) (c : CodePoint) (goesOn : more ≠ []) :
    ∃ further, readText start position (escapePoint c ++ more) = consPoint c (readText start further more) := by
  have letter {e d : CodePoint} (same : c = d) (read : escapeOf? e = some d) (short : e ≠ 'u') :
      ∃ further, readText start position ([CodePoint.ofChar '\\', e] ++ more) =
        consPoint c (readText start further more) := by
    subst same
    exact ⟨_, readText_escape read short⟩
  unfold escapePoint
  by_cases quote : c = '"'
  · rw [if_pos quote]
    exact letter quote rfl (by decide)
  rw [if_neg quote]
  by_cases backslash : c = '\\'
  · rw [if_pos backslash]
    exact letter backslash rfl (by decide)
  rw [if_neg backslash]
  by_cases feed : c = '\n'
  · rw [if_pos feed]
    exact letter feed rfl (by decide)
  rw [if_neg feed]
  by_cases carriage : c = '\r'
  · rw [if_pos carriage]
    exact letter carriage rfl (by decide)
  rw [if_neg carriage]
  by_cases tab : c = '\t'
  · rw [if_pos tab]
    exact letter tab rfl (by decide)
  rw [if_neg tab]
  by_cases back : c.val = 0x08
  · rw [if_pos back]
    exact letter (Fin.ext back) (d := 0x08) rfl (by decide)
  rw [if_neg back]
  by_cases form : c.val = 0x0C
  · rw [if_pos form]
    exact letter (Fin.ext form) (d := 0x0C) rfl (by decide)
  rw [if_neg form]
  by_cases control : c.val < 0x20
  · rw [if_pos control]
    exact ⟨_, readText_unicode control goesOn⟩
  · rw [if_neg control]
    exact ⟨_, readText_plain quote backslash control⟩

theorem quoted_append (t more : Text) :
    quoted t ++ more = CodePoint.ofChar '"' :: (t.flatMap escapePoint ++ CodePoint.ofChar '"' :: more) := by
  simp [quoted, Text.ofString]

/-- A text between quotes is read up to the closing one. -/
theorem readText_quoted (start position : Nat) (t more : Text) :
    ∃ further, readText start position (t.flatMap escapePoint ++ CodePoint.ofChar '"' :: more) =
      .ok (t, ⟨further, more⟩) := by
  induction t generalizing position with
  | nil =>
    refine ⟨position + 1, ?_⟩
    rw [List.flatMap_nil, List.nil_append, readText.eq_def]
    dsimp only
    rw [if_pos rfl]
  | cons c t ih =>
    have goesOn : t.flatMap escapePoint ++ CodePoint.ofChar '"' :: more ≠ [] := by simp
    obtain ⟨further, first⟩ := readText_escapePoint start position c goesOn
    obtain ⟨last, rest⟩ := ih further
    refine ⟨last, ?_⟩
    rw [List.flatMap_cons, List.append_assoc, first, rest]
    rfl

end Texts

section Spaces

theorem advance_one (position : Nat) (c : CodePoint) (rest : Text) :
    Cursor.advance ⟨position, c :: rest⟩ 1 = ⟨position + 1, rest⟩ := rfl

theorem next_of_not_space {position : Nat} {c : CodePoint} {rest : Text} (visible : Cursor.isSpace c = false) :
    Cursor.next ⟨position, c :: rest⟩ = ⟨position, c :: rest⟩ := by
  rw [Cursor.next, Cursor.skipSpace, if_neg (by simp [visible])]

/-- The place after a gap is where something visible stands. -/
theorem next_append {gap : Text} (blank : ∀ c ∈ gap, Cursor.isSpace c = true) (position : Nat) {c : CodePoint}
    {rest : Text} (visible : Cursor.isSpace c = false) :
    ∃ further, Cursor.next ⟨position, gap ++ c :: rest⟩ = ⟨further, c :: rest⟩ := by
  induction gap generalizing position with
  | nil => exact ⟨position, next_of_not_space visible⟩
  | cons d gap ih =>
    obtain ⟨further, reached⟩ := ih (fun e inside => blank e (List.mem_cons_of_mem d inside)) (position + 1)
    refine ⟨further, ?_⟩
    rw [← reached, Cursor.next, List.cons_append, Cursor.skipSpace, if_pos (blank d List.mem_cons_self)]
    rfl

theorem next_newline (level position : Nat) {c : CodePoint} (rest : Text) (visible : Cursor.isSpace c = false) :
    ∃ further, Cursor.next ⟨position, newline level ++ c :: rest⟩ = ⟨further, c :: rest⟩ := by
  refine next_append ?_ position visible
  intro d inside
  rcases List.mem_cons.mp inside with rfl | later
  · decide
  · rw [List.eq_of_mem_replicate later]
    decide

end Spaces

def EndsValue (rest : Text) : Prop := ∀ c ∈ rest.head?, c = CodePoint.ofChar ',' ∨ c = CodePoint.ofChar '\n'

/-- A document that is read back as it was written, on whatever level it stands, given room for the containers in it.
A text that is long enough allows for the steps of reading. -/
structure ReadsBack (depth : Nat) (document : Json) : Prop where
  starts : ∀ level, ∃ c rest, textAt level document = c :: rest ∧ Cursor.isSpace c = false ∧ c.val < 0x80
  read : ∀ level fuel room position rest, (textAt level document).length ≤ fuel → depth ≤ room → EndsValue rest →
    ∃ further, readValue fuel room ⟨position, textAt level document ++ rest⟩ = .ok (document, ⟨further, rest⟩)

/-- More room does no harm. -/
theorem ReadsBack.mono {depth more : Nat} {document : Json} (back : ReadsBack depth document) (le : depth ≤ more) :
    ReadsBack more document :=
  ⟨back.starts, fun level fuel room position rest enough deep =>
    back.read level fuel room position rest enough (Nat.le_trans le deep)⟩

/-- The place after the blank in front of a document is where the document starts. -/
theorem ReadsBack.next {depth : Nat} {document : Json} (back : ReadsBack depth document) (level position : Nat)
    (rest : Text) :
    ∃ further, Cursor.next ⟨position, CodePoint.ofChar ' ' :: (textAt level document ++ rest)⟩ =
      ⟨further, textAt level document ++ rest⟩ := by
  obtain ⟨c, others, same, visible, _⟩ := back.starts level
  have blank : ∀ d ∈ [CodePoint.ofChar ' '], Cursor.isSpace d = true := by
    intro d inside
    rw [List.mem_singleton.mp inside]
    decide
  rw [same]
  exact next_append blank position visible

theorem exists_fuel {t : Text} {fuel : Nat} (enough : t.length ≤ fuel) (written : t ≠ []) : ∃ less, fuel = less + 1 := by
  have some := List.length_pos_iff.mpr written
  exact ⟨fuel - 1, by omega⟩

theorem readsBack_bool (b : Bool) : ReadsBack 0 (.bool b) := by
  constructor
  · intro level
    cases b <;> exact ⟨_, _, rfl, by decide, by decide⟩
  · intro level fuel room position rest enough _ _
    obtain ⟨fuel, rfl⟩ := exists_fuel enough (by cases b <;> exact List.cons_ne_nil _ _)
    cases b <;> exact ⟨_, rfl⟩

section Objects

variable {depth : Nat}

def member (level : Nat) (key : Text) (item : Json) (more : Text) : Text :=
  quoted key ++ CodePoint.ofChar ':' :: CodePoint.ofChar ' ' :: (textAt level item ++ more)

theorem next_member (outer position level : Nat) (key : Text) (item : Json) (more : Text) :
    ∃ further, Cursor.next ⟨position, newline outer ++ member level key item more⟩ =
      ⟨further, member level key item more⟩ := by
  rw [member, quoted_append]
  exact next_newline outer position _ (by decide)

theorem entriesAt_append (level : Nat) (key : Text) (item : Json) (entries : List (Text × Json)) (more : Text) :
    entriesAt level ((key, item) :: entries) ++ more =
      CodePoint.ofChar ',' :: (newline level ++ member level key item (entriesAt level entries ++ more)) := by
  simp [entriesAt, member, Text.ofString]

theorem length_entriesAt (level : Nat) (key : Text) (item : Json) (entries : List (Text × Json)) :
    (entriesAt level ((key, item) :: entries)).length = (newline level).length + (quoted key).length +
      (textAt level item).length + (entriesAt level entries).length + 3 := by
  have comma : List.length (Text.ofString ",") = 1 := rfl
  have colon : List.length (Text.ofString ": ") = 2 := rfl
  simp only [entriesAt, List.flatten_cons, List.flatten_nil, List.length_append, List.length_nil, comma, colon]
  omega

theorem textAt_object_append (level : Nat) (key : Text) (item : Json) (entries : List (Text × Json)) (rest : Text) :
    textAt level (.object ((key, item) :: entries)) ++ rest = CodePoint.ofChar '\x7b' :: (newline (level + 1) ++
      member (level + 1) key item
        (entriesAt (level + 1) entries ++ (newline level ++ CodePoint.ofChar '\x7d' :: rest))) := by
  simp [textAt, member, Text.ofString]

/-- The text of an object is longer than that of its entries with a comma in front of the first. -/
theorem length_entriesAt_lt (level : Nat) (key : Text) (item : Json) (entries : List (Text × Json)) :
    (entriesAt (level + 1) ((key, item) :: entries)).length < (textAt level (.object ((key, item) :: entries))).length := by
  have whole := congrArg List.length (textAt_object_append level key item entries [])
  have parts := congrArg List.length (entriesAt_append (level + 1) key item entries [])
  simp only [member, List.append_nil, List.length_append, List.length_cons] at whole parts
  omega

/-- Reading entries takes the first as it is written and goes on with what stands behind it. -/
theorem readEntries_member {fuel room : Nat} {more : Text} {item : Json} {level : Nat} (back : ReadsBack depth item)
    (deep : depth ≤ room) (enough : (textAt level item).length ≤ fuel) (ends : EndsValue more) (position : Nat)
    (key : Text) :
    ∃ further, readEntries (fuel + 1) room ⟨position, member level key item more⟩ =
      let stop := Cursor.next ⟨further, more⟩
      match stop.rest with
      | [] => stop.fail .expectedComma
      | c :: _ =>
        if c = '\x7d' then .ok ([(key, item)], stop.advance 1)
        else if c = ',' then
          readEntries fuel room (stop.advance 1).next >>= fun (entries, last) => .ok ((key, item) :: entries, last)
        else stop.fail .expectedComma := by
  obtain ⟨afterKey, keyRead⟩ := readText_quoted position (position + 1) key
    (CodePoint.ofChar ':' :: CodePoint.ofChar ' ' :: (textAt level item ++ more))
  have colon : Cursor.next ⟨afterKey, CodePoint.ofChar ':' :: CodePoint.ofChar ' ' :: (textAt level item ++ more)⟩ =
      ⟨afterKey, CodePoint.ofChar ':' :: CodePoint.ofChar ' ' :: (textAt level item ++ more)⟩ :=
    next_of_not_space (by decide)
  obtain ⟨itemStart, reached⟩ := back.next level (afterKey + 1) more
  obtain ⟨further, itemRead⟩ := back.read level fuel room itemStart more enough deep ends
  refine ⟨further, ?_⟩
  rw [member, quoted_append, readEntries]
  simp only [↓reduceIte, keyRead, ok_bind, colon, advance_one, reached, itemRead, List.head?_cons, ne_eq, not_true_eq_false]
  rfl

/-- Entries as they are written in an object are read back up to its end. -/
theorem readEntries_written (outer : Nat) (rest : Text) {level room : Nat} (deep : depth ≤ room) (key : Text) (item : Json)
    (entries : List (Text × Json)) (each : ∀ entry ∈ (key, item) :: entries, ReadsBack depth entry.2) (fuel position : Nat)
    (enough : (entriesAt level ((key, item) :: entries)).length ≤ fuel) :
    ∃ further, readEntries fuel room ⟨position, member level key item
        (entriesAt level entries ++ (newline outer ++ CodePoint.ofChar '\x7d' :: rest))⟩ =
      .ok ((key, item) :: entries, ⟨further, rest⟩) := by
  induction entries generalizing key item fuel position with
  | nil =>
    have back : ReadsBack depth item := each _ List.mem_cons_self
    rw [length_entriesAt] at enough
    obtain ⟨fuel, rfl⟩ : ∃ less, fuel = less + 1 := ⟨fuel - 1, by omega⟩
    have fits : (textAt level item).length ≤ fuel := by omega
    have ends : EndsValue (newline outer ++ CodePoint.ofChar '\x7d' :: rest) := by
      rintro c ⟨⟩
      exact .inr rfl
    obtain ⟨afterItem, read⟩ := readEntries_member back deep fits ends position key
    obtain ⟨stop, reached⟩ := next_newline outer afterItem rest (c := CodePoint.ofChar '\x7d') (by decide)
    refine ⟨stop + 1, ?_⟩
    rw [entriesAt, List.nil_append, read, reached]
    rfl
  | cons entry entries ih =>
    obtain ⟨nextKey, nextItem⟩ := entry
    have back : ReadsBack depth item := each _ List.mem_cons_self
    rw [length_entriesAt] at enough
    obtain ⟨fuel, rfl⟩ : ∃ less, fuel = less + 1 := ⟨fuel - 1, by omega⟩
    have fits : (textAt level item).length ≤ fuel := by omega
    rw [entriesAt_append]
    have ends : EndsValue (CodePoint.ofChar ',' :: (newline level ++ member level nextKey nextItem
        (entriesAt level entries ++ (newline outer ++ CodePoint.ofChar '\x7d' :: rest)))) := by
      rintro c ⟨⟩
      exact .inl rfl
    obtain ⟨afterItem, read⟩ := readEntries_member back deep fits ends position key
    obtain ⟨nextStart, reached⟩ := next_member level (afterItem + 1) level nextKey nextItem
      (entriesAt level entries ++ (newline outer ++ CodePoint.ofChar '\x7d' :: rest))
    obtain ⟨further, others⟩ := ih nextKey nextItem (fun entry inside => each entry (List.mem_cons_of_mem _ inside)) fuel
      nextStart (by omega)
    refine ⟨further, ?_⟩
    rw [read, next_of_not_space (by decide)]
    dsimp only
    rw [if_neg (by decide), if_pos rfl, advance_one, reached, others]
    rfl

theorem readsBack_object {entries : List (Text × Json)} (distinct : (Table.keys entries).Nodup)
    (each : ∀ entry ∈ entries, ReadsBack depth entry.2) : ReadsBack (depth + 1) (.object entries) := by
  constructor
  · intro level
    cases entries with
    | nil => exact ⟨_, _, rfl, by decide, by decide⟩
    | cons entry entries => exact ⟨_, _, rfl, by decide, by decide⟩
  · intro level fuel room position rest enough deep _
    obtain ⟨room, rfl⟩ : ∃ less, room = less + 1 := ⟨room - 1, by omega⟩
    cases entries with
    | nil =>
      obtain ⟨fuel, rfl⟩ := exists_fuel enough (List.cons_ne_nil _ _)
      exact ⟨_, rfl⟩
    | cons entry entries =>
      obtain ⟨key, item⟩ := entry
      have inner := length_entriesAt_lt level key item entries
      have deepInside : depth ≤ room := Nat.le_of_succ_le_succ deep
      obtain ⟨fuel, rfl⟩ : ∃ less, fuel = less + 1 := ⟨fuel - 1, by omega⟩
      obtain ⟨inside, reached⟩ := next_member (level + 1) (position + 1) (level + 1) key item
        (entriesAt (level + 1) entries ++ (newline level ++ CodePoint.ofChar '\x7d' :: rest))
      have enoughInside : (entriesAt (level + 1) ((key, item) :: entries)).length ≤ fuel := by omega
      obtain ⟨further, read⟩ :=
        readEntries_written level rest deepInside key item entries each fuel inside enoughInside
      refine ⟨further, ?_⟩
      rw [textAt_object_append, readValue]
      dsimp only
      rw [if_neg (by decide), if_pos rfl, if_neg (Nat.succ_ne_zero room), advance_one, reached, Nat.add_sub_cancel]
      have opens : (member (level + 1) key item (entriesAt (level + 1) entries ++
          (newline level ++ CodePoint.ofChar '\x7d' :: rest))).head? ≠ some (CodePoint.ofChar '\x7d') := by
        rw [member, quoted_append]
        intro same
        exact absurd (Option.some.inj same) (by decide)
      dsimp only
      rw [if_neg opens, read]
      simp only [Except.map, Table.ofList_eq_self distinct]

end Objects

/-- A document that reads back is what reading finds in its text with a line end behind it. -/
theorem read_write {depth : Nat} {document : Json} (back : ReadsBack depth document) (shallow : depth ≤ maxDepth) :
    read (write document ++ [CodePoint.ofChar '\n']) = .ok document := by
  obtain ⟨c, others, same, visible, ascii⟩ := back.starts 0
  have ends : EndsValue [CodePoint.ofChar '\n'] := by
    rintro c ⟨⟩
    exact .inr rfl
  have text : write document ++ [CodePoint.ofChar '\n'] = c :: (others ++ [CodePoint.ofChar '\n']) := by
    rw [write, same]
    rfl
  have unmarked : (write document ++ [CodePoint.ofChar '\n']).head? ≠ some 0xFEFF := by
    rw [text]
    rintro ⟨⟩
    exact absurd ascii (by decide)
  have first : Cursor.next ⟨0, write document ++ [CodePoint.ofChar '\n']⟩ =
      ⟨0, write document ++ [CodePoint.ofChar '\n']⟩ := by
    rw [text]
    exact next_of_not_space visible
  obtain ⟨further, value⟩ := back.read 0 (2 * (write document ++ [CodePoint.ofChar '\n']).length + 2) maxDepth 0
    [CodePoint.ofChar '\n'] (by simp only [write, List.length_append]; omega) shallow ends
  rw [read, if_neg unmarked, first]
  simp only [write] at value ⊢
  simp only [value, ok_bind]
  rfl

end RouteTemplate.Json
