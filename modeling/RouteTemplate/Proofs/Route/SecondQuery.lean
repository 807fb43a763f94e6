import RouteTemplate.Proofs.Route.Leftovers

set_option autoImplicit false

namespace RouteTemplate

variable {settings : Settings} {accessors : Accessors} {bag : Bag} {text filled : Text}

/-- Does the text behind a brace that is never closed hold a question mark? -/
def Template.HidesMark (t : Template) : Prop := CodePoint.ofChar '?' ∈ t.dangling.getD []

/-- Are pairs appended for what is left of what a caller hands over? -/
def Appends (settings : Settings) (text : Text) (params : Option Bag) : Prop :=
  settings.appendUnconsumed = true ∧ ∃ bag accessors, params = some bag ∧ bag.accessors = .ok accessors ∧
    (Template.parse text).remaining bag accessors ≠ []

theorem Parts.appends_iff {pairs : List Text} (parts : Parts settings text bag accessors filled pairs) :
    Appends settings text (some bag) ↔ pairs ≠ [] := by
  have appended := parts.appended
  constructor
  · rintro ⟨append, bag', accessors', same, known, left⟩ rfl
    cases same
    cases known.symm.trans parts.known
    rw [if_pos append] at appended
    exact left (List.forall₂_nil_right_iff.mp appended)
  · intro nonempty
    split at appended
    · next append =>
      refine ⟨append, bag, accessors, rfl, parts.known, ?_⟩
      intro bare
      rw [bare] at appended
      exact nonempty (List.forall₂_nil_left_iff.mp appended)
    · exact absurd (List.forall₂_nil_left_iff.mp appended) nonempty

/-- A separator is a question mark when there is no query marker. -/
theorem count_separator (marked : Bool) (route : Text) :
    (separator marked route).count (CodePoint.ofChar '?') = if marked then 0 else 1 := by
  cases marked with
  | false => rfl
  | true =>
    unfold separator
    rw [Bool.not_true, if_neg Bool.false_ne_true, if_pos rfl]
    split
    · rfl
    · rfl

theorem count_appendPairs (marked : Bool) (route : Text) {pairs : List Text}
    (free : ∀ pair ∈ pairs, CodePoint.ofChar '?' ∉ pair) :
    (appendPairs marked route pairs).count (CodePoint.ofChar '?') =
      route.count (CodePoint.ofChar '?') + if pairs ≠ [] ∧ marked = false then 1 else 0 := by
  have joined : (Text.joinWith "&" pairs).count (CodePoint.ofChar '?') = 0 := by
    refine List.count_eq_zero.mpr fun inside => ?_
    rcases Text.mem_joinWith inside with between | ⟨pair, member, there⟩
    · exact absurd between (by decide)
    · exact free pair member there
  unfold appendPairs
  by_cases bare : pairs = []
  · simp [bare]
  · rw [if_neg (by simpa using bare), List.count_append, List.count_append, count_separator, joined]
    cases marked <;> simp [bare]

theorem mark_not_mem_pairs {readings : List (Text × Except ResolveError Value)} {pairs : List Text}
    (rendered : List.Forall₂ (PairOf settings) readings pairs) : ∀ pair ∈ pairs, CodePoint.ofChar '?' ∉ pair := by
  intro pair member inside
  have point := points_of_pairs rendered pair member _ inside
  revert point
  decide

theorem Template.count_tail (t : Template) :
    t.tail.count (CodePoint.ofChar '?') =
      t.lastGap.count (CodePoint.ofChar '?') + (t.dangling.getD []).count (CodePoint.ofChar '?') := by
  obtain ⟨segments, lastGap, dangling⟩ := t
  cases dangling <;> simp [Template.tail, Template.openBrace]

/-- What stands in the segments, in the last gap and in the text of an open name is all that stands in a template. -/
theorem Template.count_mark (text : Text) :
    text.count (CodePoint.ofChar '?') =
      ((Template.parse text).segments.flatMap Template.segmentSource).count (CodePoint.ofChar '?') +
        ((Template.parse text).lastGap.count (CodePoint.ofChar '?') +
          ((Template.parse text).dangling.getD []).count (CodePoint.ofChar '?')) := by
  have whole := congrArg (List.count (CodePoint.ofChar '?')) (Template.source_parse text)
  rw [Template.source, List.count_append, Template.count_tail] at whole
  exact whole.symm

theorem Template.count_mark_pos {t : Template} (marker : t.hasQueryMarker = true) :
    0 < (t.segments.flatMap Template.segmentSource).count (CodePoint.ofChar '?') +
      t.lastGap.count (CodePoint.ofChar '?') := by
  rw [Template.hasQueryMarker, Bool.or_eq_true] at marker
  rcases marker with within | behind
  · obtain ⟨s, member, asked⟩ := List.any_eq_true.mp within
    have inside : CodePoint.ofChar '?' ∈ t.segments.flatMap Template.segmentSource :=
      List.mem_flatMap.mpr ⟨s, member, List.mem_append_left _ (List.contains_iff_mem.mp asked)⟩
    have positive := List.count_pos_iff.mpr inside
    omega
  · have positive := List.count_pos_iff.mpr (List.contains_iff_mem.mp behind)
    omega

/-- Without a query marker all question marks of a filled template are hidden. -/
theorem count_filled_of_unmarked {t : Template} (unmarked : t.hasQueryMarker = false)
    (done : substitute settings accessors bag text false t.segments = .ok filled) :
    (filled ++ t.tail).count (CodePoint.ofChar '?') = (t.dangling.getD []).count (CodePoint.ofChar '?') := by
  rw [Template.hasQueryMarker, Bool.or_eq_false_iff] at unmarked
  have front := List.count_eq_zero.mpr (mark_not_mem_substitute done unmarked.1)
  have gap : t.lastGap.count (CodePoint.ofChar '?') = 0 := by
    rw [List.count_eq_zero, ← List.contains_iff_mem, unmarked.2]
    exact Bool.false_ne_true
  rw [List.count_append, front, Template.count_tail, gap, Nat.zero_add, Nat.zero_add]

/-- A template with one question mark at most is resolved to a route with one at most, unless it hides the mark in an open
name and pairs are appended. -/
theorem resolve_one_mark_iff {params : Option Bag} {route : Text} (single : text.count (CodePoint.ofChar '?') ≤ 1)
    (done : resolve settings text params = .ok route) :
    route.count (CodePoint.ofChar '?') ≤ 1 ↔ ¬((Template.parse text).HidesMark ∧ Appends settings text params) := by
  cases params with
  | none =>
    cases done
    refine iff_of_true single ?_
    rintro ⟨_, _, bag, _, impossible, _⟩
    cases impossible
  | some bag =>
    obtain ⟨accessors, filled, pairs, parts, rfl⟩ := resolve_ok done
    have source := Template.count_mark text
    have front := count_substitute_le '?' (by decide) (by decide) parts.substituted
    have tail := Template.count_tail (Template.parse text)
    rw [parts.appends_iff, count_appendPairs _ _ (mark_not_mem_pairs parts.appended)]
    cases marker : (Template.parse text).hasQueryMarker with
    | true =>
      -- The mark of the template is its query marker, so it hides none.
      have visible := Template.count_mark_pos marker
      have shown : ¬(Template.parse text).HidesMark := fun hides => by
        have hidden := List.count_pos_iff.mpr hides
        omega
      refine iff_of_true ?_ fun both => shown both.1
      rw [if_neg (by simp), List.count_append]
      omega
    | false =>
      rw [count_filled_of_unmarked marker parts.substituted, Template.HidesMark, ← List.count_pos_iff]
      by_cases bare : pairs = []
      · simp only [bare, ne_eq, not_true_eq_false, false_and, and_false, ↓reduceIte, not_false_eq_true, iff_true]
        omega
      · simp only [ne_eq, bare, not_false_eq_true, and_self, and_true, ↓reduceIte]
        omega

/-- A question mark in a name that is filled, and text behind an open brace: what is left over opens the one query of the
route. -/
theorem resolve_one_mark_iff_open_name :
    let text : Text := "/\x7ba?\x7d/\x7bopen"
    let params : Option Bag := some (.mapping "dict" [(.text "a?", .text "?"), (.text "b", .text "?"), (.text "c", .int 1)])
    let route : Text := "/%3F/\x7bopen?b=%3F&c=1"
    text.count (CodePoint.ofChar '?') ≤ 1 ∧ resolve {} text params = .ok route ∧
      route.count (CodePoint.ofChar '?') ≤ 1 ∧ ¬((Template.parse text).HidesMark ∧ Appends {} text params) := by
  intro text params route
  have single : text.count (CodePoint.ofChar '?') ≤ 1 := by decide
  have done : resolve {} text params = .ok route := by rfl
  have shown : ¬(Template.parse text).HidesMark := by
    change CodePoint.ofChar '?' ∉ Text.ofString "open"
    decide
  have kept := resolve_one_mark_iff single done
  exact ⟨single, done, kept.mpr fun both => shown both.1, fun both => shown both.1⟩

/-- The pair that is left over opens a second query behind a question mark in an open name. -/
theorem resolve_second_mark :
    resolve {} "/a\x7bb?c" (some (.mapping "dict" [(.text "x", .int 1)])) = .ok "/a\x7bb?c?x=1" := by
  rfl

end RouteTemplate
