import RouteTemplate.Proofs.Route.Separator
import RouteTemplate.Proofs.Template.Append
import RouteTemplate.Proofs.Text.Cut

set_option autoImplicit false

namespace RouteTemplate

open Percent (isComponentPoint)

variable {settings : Settings} {accessors : Accessors} {bag : Bag} {text filled : Text} {segments : List Segment}

theorem not_mem_of_points {t : Text} (points : ∀ c ∈ t, isComponentPoint c = true) {c : CodePoint}
    (other : isComponentPoint c = false) : c ∉ t := by
  intro inside
  exact Bool.false_ne_true (other.symm.trans (points c inside))

/-- Besides its own characters and the sign behind a name, a component brings nothing, and a name is written once at
most. -/
theorem count_substitute_le (c : CodePoint) (other : isComponentPoint c = false) {marked : Bool}
    (unequal : c ≠ CodePoint.ofChar '=') (done : substitute settings accessors bag text marked segments = .ok filled) :
    filled.count c ≤ (segments.flatMap Template.segmentSource).count c := by
  induction segments generalizing marked filled with
  | nil =>
    cases done
    exact Nat.le_refl 0
  | cons s segments ih =>
    obtain ⟨piece, rest, first, second, rfl⟩ := substitute_cons_ok done
    obtain ⟨_, _, component, _, _, _, written, rfl⟩ := fill_ok first
    have later := ih second
    have bare := List.count_eq_zero.mpr (not_mem_of_points (Value.component_points written) other)
    have here : (placed (kindAfter (marked || s.gap.contains '?')) s.name component).count c ≤ s.name.count c := by
      cases kindAfter (marked || s.gap.contains '?') with
      | path => simp [placed, bare]
      | query => simp [placed, pairText, bare, Ne.symm unequal]
    have source : s.gap.count c + s.name.count c ≤ (Template.segmentSource s).count c := by
      simp only [Template.segmentSource, List.count_append, List.count_cons]
      omega
    simp only [List.flatMap_cons, List.count_append]
    omega

theorem mark_mem_substitute {marked : Bool} (done : substitute settings accessors bag text marked segments = .ok filled)
    (marker : (segments.any fun s => s.gap.contains '?') = true) : CodePoint.ofChar '?' ∈ filled := by
  induction segments generalizing marked filled with
  | nil => cases marker
  | cons s segments ih =>
    obtain ⟨piece, rest, _, second, rfl⟩ := substitute_cons_ok done
    rw [List.any_cons, Bool.or_eq_true] at marker
    rcases marker with here | later
    · exact List.mem_append_left _ (List.contains_iff_mem.mp here)
    · exact List.mem_append_right _ (List.mem_append_right _ (ih second later))

/-- As long as no query marker is passed, names are not written. -/
theorem mark_not_mem_substitute (done : substitute settings accessors bag text false segments = .ok filled)
    (unmarked : (segments.any fun s => s.gap.contains '?') = false) : CodePoint.ofChar '?' ∉ filled := by
  induction segments generalizing filled with
  | nil =>
    cases done
    exact List.not_mem_nil
  | cons s segments ih =>
    rw [List.any_cons, Bool.or_eq_false_iff] at unmarked
    obtain ⟨here, later⟩ := unmarked
    obtain ⟨piece, rest, first, second, rfl⟩ := substitute_cons_ok done
    rw [Bool.false_or, here] at first second
    obtain ⟨_, _, component, _, _, _, written, placed⟩ := fill_ok first
    have gap : CodePoint.ofChar '?' ∉ s.gap := fun inside =>
      Bool.false_ne_true (here.symm.trans (List.contains_iff_mem.mpr inside))
    have value : CodePoint.ofChar '?' ∉ piece := by
      rw [placed]
      exact not_mem_of_points (Value.component_points written) (by decide)
    simp only [List.mem_append, not_or]
    exact ⟨gap, value, ih second later⟩

/-- A piece of a query that a reading can be read back from. -/
def ReadBack (settings : Settings) (reading : Text × Except ResolveError Value) (piece : Text) : Prop :=
  ∃ name value v, Text.splitFirst '=' piece = some (name, value) ∧ reading.1.encode = .ok (Percent.decode name) ∧
    reading.2 = .ok v ∧ v.rendered settings = .ok (Percent.decode value)

theorem readBack_of_pair {reading : Text × Except ResolveError Value} {pair : Text}
    (rendered : PairOf settings reading pair) : ReadBack settings reading pair := by
  obtain ⟨v, name, component, read, encoded, written, rfl⟩ := rendered
  obtain ⟨nameOctets, nameEncoded, rfl⟩ := Percent.encodeText_eq encoded
  obtain ⟨octets, shown, rfl⟩ := Value.component_ok written
  have free : CodePoint.ofChar '=' ∉ Percent.encode nameOctets :=
    not_mem_of_points (fun c => Percent.isComponentPoint_of_mem_encode) (by decide)
  refine ⟨Percent.encode nameOctets, Percent.encode octets, v, Text.splitFirst_of_not_mem free, ?_, read, ?_⟩
  · rw [Percent.decode_encode, nameEncoded]
  · rw [Percent.decode_encode, shown]

theorem ampersand_not_mem_pairs {readings : List (Text × Except ResolveError Value)} {pairs : List Text}
    (rendered : List.Forall₂ (PairOf settings) readings pairs) : ∀ pair ∈ pairs, CodePoint.ofChar '&' ∉ pair := by
  intro pair member inside
  have point := points_of_pairs rendered pair member _ inside
  revert point
  decide

/-- Whatever stands in an open query, what follows it behind the separator comes apart from it. -/
theorem splitOn_behind_separator {route before query : Text}
    (cut : Text.splitFirst '?' route = some (before, query)) (single : route.count (CodePoint.ofChar '?') ≤ 1)
    (more : Text) : ∃ earlier,
      Text.splitOn '&' (query ++ (separator true route ++ more)) = earlier ++ Text.splitOn '&' more := by
  obtain ⟨rfl, _⟩ := Text.splitFirst_append cut
  cases ends : query.getLast? with
  | none =>
    have bare : query = [] := List.getLast?_eq_none_iff.mp ends
    have last : (before ++ CodePoint.ofChar '?' :: query).getLast? = some (CodePoint.ofChar '?') := by simp [bare]
    refine ⟨[], ?_⟩
    rw [separator_of_getLast? last, if_pos (.inl rfl), bare]
    rfl
  | some c =>
    have last : (before ++ CodePoint.ofChar '?' :: query).getLast? = some c := by simp [List.getLast?_cons, ends]
    -- A second question mark at the end would be taken for the one that opens the query.
    have unasked : c ≠ CodePoint.ofChar '?' := by
      rintro rfl
      have again := List.count_pos_iff.mpr (List.mem_of_getLast? ends)
      simp only [List.count_append, List.count_cons_self] at single
      omega
    by_cases open_ : c = CodePoint.ofChar '&'
    · obtain ⟨front, rfl⟩ : ∃ front, query = front ++ [CodePoint.ofChar '&'] := by
        rw [← open_]
        exact List.getLast?_eq_some_iff.mp ends
      refine ⟨Text.splitOn '&' front, ?_⟩
      rw [separator_of_getLast? last, if_pos (.inr open_), List.nil_append, List.append_assoc, List.singleton_append]
      exact Text.splitOn_append_cons front more
    · refine ⟨Text.splitOn '&' query, ?_⟩
      rw [separator_of_getLast? last, if_neg (by simp [unasked, open_])]
      exact Text.splitOn_append_cons query more

/-- Appended pairs are the last pieces behind the first question mark. -/
theorem splitOn_appendPairs {marked : Bool} {route : Text} {pairs : List Text}
    (marker : marked = true ↔ CodePoint.ofChar '?' ∈ route) (single : route.count (CodePoint.ofChar '?') ≤ 1)
    (nonempty : pairs ≠ []) (free : ∀ pair ∈ pairs, CodePoint.ofChar '&' ∉ pair) :
    ∃ before after earlier, Text.splitFirst '?' (appendPairs marked route pairs) = some (before, after) ∧
      Text.splitOn '&' after = earlier ++ pairs := by
  have joined : Text.splitOn '&' (Text.joinWith "&" pairs) = pairs := Text.splitOn_joinWith nonempty free
  have appended : appendPairs marked route pairs = route ++ (separator marked route ++ Text.joinWith "&" pairs) :=
    if_neg (by simpa using nonempty)
  rw [appended]
  cases marked with
  | false =>
    have unasked : CodePoint.ofChar '?' ∉ route := fun inside => Bool.false_ne_true (marker.mpr inside)
    exact ⟨route, Text.joinWith "&" pairs, [], Text.splitFirst_of_not_mem unasked, joined⟩
  | true =>
    have asked : CodePoint.ofChar '?' ∈ route := marker.mp rfl
    obtain ⟨⟨before, query⟩, cut⟩ :=
      Option.ne_none_iff_exists'.mp (mt Text.splitFirst_eq_none_iff.mp (not_not_intro asked))
    obtain ⟨earlier, behind⟩ := splitOn_behind_separator cut single (Text.joinWith "&" pairs)
    rw [joined] at behind
    exact ⟨before, _, earlier, Text.splitFirst_append_right cut _, behind⟩

/-- When every name is closed, the query marker is all that puts a question mark into a route. -/
theorem hasQueryMarker_iff {t : Template} (closed : t.unterminated? = none)
    (done : substitute settings accessors bag text false t.segments = .ok filled) :
    t.hasQueryMarker = true ↔ CodePoint.ofChar '?' ∈ filled ++ t.tail := by
  rw [Template.tail_of_closed closed, List.mem_append, Template.hasQueryMarker, Bool.or_eq_true, List.contains_iff_mem]
  cases marked : t.segments.any fun s => s.gap.contains '?' with
  | true => simp [mark_mem_substitute done marked]
  | false => simp [mark_not_mem_substitute done marked]

/-- What is left of a bag is read back from the last pieces of the query, in the order of the bag. -/
theorem leftovers_read_back {route : Text} (append : settings.appendUnconsumed = true)
    (single : text.count (CodePoint.ofChar '?') ≤ 1) (closed : (Template.parse text).unterminated? = none)
    (known : bag.accessors = .ok accessors) (left : (Template.parse text).remaining bag accessors ≠ [])
    (done : resolve settings text (some bag) = .ok route) :
    ∃ before after earlier pieces, Text.splitFirst '?' route = some (before, after) ∧
      Text.splitOn '&' after = earlier ++ pieces ∧
      List.Forall₂ (ReadBack settings) ((Template.parse text).remaining bag accessors) pieces := by
  obtain ⟨accessors', filled, pairs, parts, rfl⟩ := resolve_ok done
  cases known.symm.trans parts.known
  have appended := parts.appended
  rw [if_pos append] at appended
  have marker := hasQueryMarker_iff closed parts.substituted
  have once : (filled ++ (Template.parse text).tail).count (CodePoint.ofChar '?') ≤ 1 := by
    have filledOnce := count_substitute_le '?' (by decide) (by decide) parts.substituted
    have source := congrArg (List.count (CodePoint.ofChar '?')) (Template.source_parse text)
    simp only [Template.source, List.count_append] at source ⊢
    omega
  have nonempty : pairs ≠ [] := by
    intro bare
    rw [bare] at appended
    exact left (List.forall₂_nil_right_iff.mp appended)
  obtain ⟨before, after, earlier, cut, pieces⟩ :=
    splitOn_appendPairs marker once nonempty (ampersand_not_mem_pairs appended)
  exact ⟨before, after, earlier, pairs, cut, pieces, appended.imp fun _ _ => readBack_of_pair⟩

/-- A name with an equals sign in it, an empty value and one that is all delimiters, behind a query that is open. -/
theorem leftovers_read_back_delimiters :
    let text : Text := "/u?\x7bq\x7d"
    let bag : Bag := .mapping "dict"
      [(.text "q", .int 1), (.text "a=b", .text ""), (.text "s", .absent), (.text "c", .bytes [38, 61, 255])]
    let readings : List (Text × Except ResolveError Value) :=
      [("a=b", .ok (.text "")), ("c", .ok (.bytes [38, 61, 255]))]
    text.count (CodePoint.ofChar '?') ≤ 1 ∧ (Template.parse text).unterminated? = none ∧
      resolve {} text (some bag) = .ok "/u?q=1&a%3Db=&c=%26%3D%FF" ∧
      ∃ before after earlier pieces,
        Text.splitFirst '?' "/u?q=1&a%3Db=&c=%26%3D%FF" = some (before, after) ∧
        Text.splitOn '&' after = earlier ++ pieces ∧ List.Forall₂ (ReadBack {}) readings pieces := by
  intro text bag readings
  have single : text.count (CodePoint.ofChar '?') ≤ 1 := by decide
  have closed : (Template.parse text).unterminated? = none := by rfl
  have done : resolve {} text (some bag) = .ok "/u?q=1&a%3Db=&c=%26%3D%FF" := by rfl
  let accessors : Accessors := .ofList [⟨"q", .entry 0⟩, ⟨"a=b", .entry 1⟩, ⟨"s", .entry 2⟩, ⟨"c", .entry 3⟩]
  have known : bag.accessors = .ok accessors := by rfl
  have left : (Template.parse text).remaining bag accessors = readings := by rfl
  have back := leftovers_read_back rfl single closed known (by rw [left]; simp [readings]) done
  rw [left] at back
  exact ⟨single, closed, done, back⟩

end RouteTemplate
