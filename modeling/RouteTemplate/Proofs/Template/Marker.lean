import RouteTemplate.Template

set_option autoImplicit false

namespace RouteTemplate.Template

theorem map_name_placeholdersFrom (start : Nat) (marked : Bool) (segments : List Segment) :
    (placeholdersFrom start marked segments).map Placeholder.name = segments.map Segment.name := by
  induction segments generalizing start marked with
  | nil => rfl
  | cons s segments ih => simp only [placeholdersFrom, List.map_cons, ih]

@[simp] theorem map_name_placeholders (t : Template) : t.placeholders.map Placeholder.name = t.names :=
  map_name_placeholdersFrom 0 false t.segments

theorem le_queryMarkerFrom {lastGap : Text} {offset marker : Nat} {segments : List Segment}
    (found : queryMarkerFrom lastGap offset segments = some marker) : offset ≤ marker := by
  induction segments generalizing offset with
  | nil =>
    obtain ⟨index, _, rfl⟩ := Option.map_eq_some_iff.mp found
    exact Nat.le_add_right offset index
  | cons s segments ih =>
    unfold queryMarkerFrom at found
    split at found
    · next index _ =>
      cases found
      exact Nat.le_add_right offset index
    · exact Nat.le_trans (Nat.le_add_right offset _) (ih found)

theorem le_offset_of_mem {start : Nat} {marked : Bool} {segments : List Segment} {p : Placeholder}
    (inside : p ∈ placeholdersFrom start marked segments) : start ≤ p.offset := by
  induction segments generalizing start marked with
  | nil => cases inside
  | cons s segments ih =>
    rcases List.mem_cons.mp inside with rfl | later
    · exact Nat.le_add_right start _
    · have next := ih later
      simp only [Placeholder.endOffset] at next
      omega

theorem contains_eq_isSome (gap : Text) :
    gap.contains (CodePoint.ofChar '?') = (gap.findIdx? fun (c : CodePoint) => c = '?').isSome := by
  rw [List.findIdx?_isSome, List.contains_eq_any_beq]
  congr 1
  funext c
  exact decide_eq_decide.mpr eq_comm

theorem kind_placeholdersFrom {lastGap : Text} {start : Nat} {marked : Bool} {segments : List Segment}
    {p : Placeholder} (inside : p ∈ placeholdersFrom start marked segments) :
    p.kind = if marked || (queryMarkerFrom lastGap start segments).any (· < p.offset) then .query else .path := by
  induction segments generalizing start marked with
  | nil => cases inside
  | cons s segments ih =>
    have asked := contains_eq_isSome s.gap
    have length := length_segmentSource s
    rw [placeholdersFrom] at inside
    -- A marker in the gap stands before this placeholder and all that follow; any other stands behind this one.
    cases found : s.gap.findIdx? fun (c : CodePoint) => c = '?' with
    | some index =>
      have small := (List.findIdx?_eq_some_iff_getElem.mp found).1
      rw [found, Option.isSome_some] at asked
      simp only [queryMarkerFrom, found, Option.any_some]
      rcases List.mem_cons.mp inside with rfl | later
      · rw [asked, Bool.or_true]
        simp [small]
      · have bound := le_offset_of_mem later
        have kind := ih later
        simp only [Placeholder.endOffset] at bound
        have before : start + index < p.offset := by omega
        rw [kind, asked]
        simp [before]
    | none =>
      rw [found, Option.isSome_none] at asked
      simp only [queryMarkerFrom, found]
      rcases List.mem_cons.mp inside with rfl | later
      · have behind : (queryMarkerFrom lastGap (start + (segmentSource s).length) segments).any
            (· < start + s.gap.length) = false := by
          cases marker : queryMarkerFrom lastGap (start + (segmentSource s).length) segments with
          | none => rfl
          | some offset =>
            have bound := le_queryMarkerFrom marker
            exact decide_eq_false (by omega)
        rw [asked, behind]
      · have kind := ih later
        rw [kind, asked, length]
        simp [Placeholder.endOffset, Nat.add_assoc]

/-- A placeholder belongs to the query when the query marker stands before it. -/
theorem kind_eq {t : Template} {p : Placeholder} (inside : p ∈ t.placeholders) :
    p.kind = if t.queryMarker?.any (· < p.offset) then .query else .path :=
  kind_placeholdersFrom inside

def isMark (c : CodePoint) : Bool := c = '?'

/-- For each character of a segment, whether it is a question mark of the gap. -/
def segmentMarks (s : Segment) : List Bool := s.gap.map isMark ++ List.replicate (s.name.length + 2) false

/-- For each character of segments and the gap after them, whether it is a question mark of a gap. -/
def marks (segments : List Segment) (lastGap : Text) : List Bool :=
  segments.flatMap segmentMarks ++ lastGap.map isMark

theorem length_segmentMarks (s : Segment) : (segmentMarks s).length = (segmentSource s).length := by
  rw [length_segmentSource]
  simp only [segmentMarks, List.length_append, List.length_map, List.length_replicate]
  omega

theorem marks_cons (s : Segment) (segments : List Segment) (lastGap : Text) :
    marks (s :: segments) lastGap = segmentMarks s ++ marks segments lastGap := by
  simp only [marks, List.flatMap_cons, List.append_assoc]

theorem findIdx?_map_isMark (gap : Text) :
    (gap.map isMark).findIdx? id = gap.findIdx? fun (c : CodePoint) => c = '?' := by
  rw [List.findIdx?_map]
  rfl

theorem findIdx?_segmentMarks (s : Segment) :
    (segmentMarks s).findIdx? id = s.gap.findIdx? fun (c : CodePoint) => c = '?' := by
  rw [segmentMarks, List.findIdx?_append, findIdx?_map_isMark, List.findIdx?_replicate]
  simp

theorem queryMarkerFrom_eq (lastGap : Text) (start : Nat) (segments : List Segment) :
    queryMarkerFrom lastGap start segments = ((marks segments lastGap).findIdx? id).map (start + ·) := by
  induction segments generalizing start with
  | nil =>
    rw [queryMarkerFrom, ← findIdx?_map_isMark]
    rfl
  | cons s segments ih =>
    rw [queryMarkerFrom, marks_cons, List.findIdx?_append, findIdx?_segmentMarks]
    cases s.gap.findIdx? fun (c : CodePoint) => c = '?' with
    | some index => rfl
    | none =>
      simp only [ih, length_segmentMarks, Option.none_or, Option.map_map]
      congr 1
      funext index
      simp only [Function.comp_apply]
      omega

theorem getElem?_map_isMark (gap : Text) (i : Nat) :
    (gap.map isMark)[i]? = some true ↔ gap[i]? = some (CodePoint.ofChar '?') := by
  rw [List.getElem?_map, Option.map_eq_some_iff]
  simp [isMark]

theorem getElem?_segmentMarks (s : Segment) {i : Nat} (inside : i < (segmentSource s).length) :
    (segmentMarks s)[i]? = some true ↔
      i < s.gap.length ∧ (segmentSource s)[i]? = some (CodePoint.ofChar '?') := by
  by_cases inGap : i < s.gap.length
  · rw [segmentMarks, segmentSource, List.getElem?_append_left (by simpa using inGap), List.getElem?_append_left inGap,
      getElem?_map_isMark]
    exact (and_iff_right inGap).symm
  · have behind : (segmentMarks s)[i]? = some false := by
      rw [length_segmentSource] at inside
      rw [segmentMarks, List.getElem?_append_right (by simpa using inGap), List.getElem?_replicate]
      exact if_pos (by rw [List.length_map]; omega)
    simp [behind, inGap]

/-- The marks are the question marks that no placeholder covers. -/
theorem getElem?_marks (lastGap : Text) (start : Nat) (marked : Bool) (segments : List Segment) (i : Nat) :
    (marks segments lastGap)[i]? = some true ↔
      (segments.flatMap segmentSource ++ lastGap)[i]? = some (CodePoint.ofChar '?') ∧
        ∀ p ∈ placeholdersFrom start marked segments, ¬(p.offset ≤ start + i ∧ start + i < p.endOffset) := by
  induction segments generalizing start marked i with
  | nil => simpa [marks, placeholdersFrom] using getElem?_map_isMark lastGap i
  | cons s segments ih =>
    have length := length_segmentSource s
    have sameLength := length_segmentMarks s
    rw [marks_cons, List.flatMap_cons, List.append_assoc, placeholdersFrom]
    simp only [List.forall_mem_cons, Placeholder.endOffset]
    -- Only the placeholder of the segment itself can cover one of its characters; the others start behind it.
    by_cases inside : i < (segmentSource s).length
    · rw [List.getElem?_append_left (by omega), List.getElem?_append_left inside, getElem?_segmentMarks s inside]
      have later (p : Placeholder)
          (member : p ∈ placeholdersFrom (start + s.gap.length + s.name.length + 2) (marked || s.gap.contains '?')
            segments) : ¬(p.offset ≤ start + i ∧ start + i < p.endOffset) := by
        have bound := le_offset_of_mem member
        omega
      constructor
      · rintro ⟨inGap, mark⟩
        exact ⟨mark, by omega, later⟩
      · rintro ⟨mark, uncovered, _⟩
        exact ⟨by omega, mark⟩
    · obtain ⟨j, rfl⟩ : ∃ j, i = (segmentSource s).length + j := ⟨i - (segmentSource s).length, by omega⟩
      have shift : start + s.gap.length + s.name.length + 2 + j = start + ((segmentSource s).length + j) := by omega
      have next := ih (start + s.gap.length + s.name.length + 2) (marked || s.gap.contains '?') j
      rw [shift] at next
      rw [List.getElem?_append_right (by omega), List.getElem?_append_right (by omega), sameLength,
        Nat.add_sub_cancel_left, next]
      constructor
      · rintro ⟨mark, uncovered⟩
        exact ⟨mark, by omega, uncovered⟩
      · rintro ⟨mark, _, uncovered⟩
        exact ⟨mark, uncovered⟩

/-- What stands in front of a brace that is never closed. -/
theorem getElem?_before_dangling (t : Template) (i : Nat) (c : CodePoint) :
    (t.segments.flatMap segmentSource ++ t.lastGap)[i]? = some c ↔
      t.source[i]? = some c ∧ ∀ offset ∈ t.unterminated?, i < offset := by
  obtain ⟨segments, lastGap, dangling⟩ := t
  cases dangling with
  | none => simp [source, tail, unterminated?]
  | some text =>
    have whole : source ⟨segments, lastGap, some text⟩ =
        (segments.flatMap segmentSource ++ lastGap) ++ openBrace :: text := by
      simp [source, tail]
    have brace : unterminated? ⟨segments, lastGap, some text⟩ =
        some (segments.flatMap segmentSource ++ lastGap).length := by
      simp [unterminated?]
    rw [whole, brace]
    simp only [Option.mem_some_iff, forall_eq']
    by_cases before : i < (segments.flatMap segmentSource ++ lastGap).length
    · rw [List.getElem?_append_left before]
      exact (and_iff_left before).symm
    · have behind : (segments.flatMap segmentSource ++ lastGap)[i]? = none :=
        List.getElem?_eq_none_iff.mpr (Nat.le_of_not_lt before)
      rw [behind]
      exact iff_of_false (by simp) fun inside => before inside.2

/-- A question mark of a text that stands in no placeholder and not behind a brace that is never closed. -/
structure OpenMark (text : Text) (i : Nat) : Prop where
  mark : text[i]? = some (CodePoint.ofChar '?')
  uncovered : ∀ p ∈ (parse text).placeholders, ¬(p.offset ≤ i ∧ i < p.endOffset)
  unopened : ∀ offset ∈ (parse text).unterminated?, i < offset

theorem openMark_iff (text : Text) (i : Nat) :
    OpenMark text i ↔ (marks (parse text).segments (parse text).lastGap)[i]? = some true := by
  have covers := getElem?_marks (parse text).lastGap 0 false (parse text).segments i
  have front := getElem?_before_dangling (parse text) i (CodePoint.ofChar '?')
  rw [source_parse] at front
  rw [covers, front, Nat.zero_add]
  constructor
  · rintro ⟨mark, uncovered, unopened⟩
    exact ⟨⟨mark, unopened⟩, uncovered⟩
  · rintro ⟨⟨mark, unopened⟩, uncovered⟩
    exact ⟨mark, uncovered, unopened⟩

theorem queryMarker?_eq (t : Template) : t.queryMarker? = (marks t.segments t.lastGap).findIdx? id := by
  rw [queryMarker?, queryMarkerFrom_eq]
  simp

theorem queryMarker?_eq_some_iff (text : Text) (i : Nat) :
    (parse text).queryMarker? = some i ↔ OpenMark text i ∧ ∀ j, OpenMark text j → i ≤ j := by
  rw [queryMarker?_eq, List.findIdx?_eq_some_iff_getElem]
  simp only [openMark_iff]
  constructor
  · rintro ⟨bound, here, before⟩
    refine ⟨List.getElem?_eq_some_iff.mpr ⟨bound, here⟩, ?_⟩
    intro j mark
    obtain ⟨_, there⟩ := List.getElem?_eq_some_iff.mp mark
    exact Nat.le_of_not_lt fun earlier => before j earlier there
  · rintro ⟨mark, least⟩
    obtain ⟨bound, here⟩ := List.getElem?_eq_some_iff.mp mark
    refine ⟨bound, here, ?_⟩
    intro j earlier there
    have late := least j (List.getElem?_eq_some_iff.mpr ⟨by omega, there⟩)
    omega

theorem queryMarker?_eq_none_iff (text : Text) : (parse text).queryMarker? = none ↔ ∀ i, ¬OpenMark text i := by
  rw [queryMarker?_eq, List.findIdx?_eq_none_iff]
  simp only [openMark_iff]
  constructor
  · intro unmarked i mark
    exact Bool.false_ne_true (unmarked true (List.mem_of_getElem? mark)).symm
  · intro unmarked b inside
    obtain ⟨i, found⟩ := List.mem_iff_getElem?.mp inside
    cases b with
    | false => rfl
    | true => exact absurd found (unmarked i)

theorem any_map_isMark (gap : Text) : (gap.map isMark).any id = gap.contains '?' := by
  rw [contains_eq_isSome, ← findIdx?_map_isMark, List.findIdx?_isSome]

theorem any_segmentMarks (s : Segment) : (segmentMarks s).any id = s.gap.contains '?' := by
  rw [segmentMarks, List.any_append, any_map_isMark]
  simp

/-- A template has a query marker when there is an offset of one. -/
theorem hasQueryMarker_eq (t : Template) : t.hasQueryMarker = t.queryMarker?.isSome := by
  rw [queryMarker?_eq, List.findIdx?_isSome, marks, List.any_append, List.any_flatMap, any_map_isMark, hasQueryMarker]
  simp only [any_segmentMarks]

/-- Placeholders stand behind one another. -/
theorem pairwise_placeholdersFrom (start : Nat) (marked : Bool) (segments : List Segment) :
    (placeholdersFrom start marked segments).Pairwise fun p q => p.endOffset ≤ q.offset := by
  induction segments generalizing start marked with
  | nil => exact .nil
  | cons s segments ih => exact .cons (fun q later => le_offset_of_mem later) (ih _ _)

theorem endOffset_le_of_mem {start : Nat} {marked : Bool} {segments : List Segment} {p : Placeholder}
    (inside : p ∈ placeholdersFrom start marked segments) :
    p.endOffset ≤ start + (segments.flatMap segmentSource).length := by
  induction segments generalizing start marked with
  | nil => cases inside
  | cons s segments ih =>
    have length := length_segmentSource s
    rw [List.flatMap_cons, List.length_append]
    rcases List.mem_cons.mp inside with rfl | later
    · simp only [Placeholder.endOffset]
      omega
    · have bound := ih later
      simp only [Placeholder.endOffset] at bound ⊢
      omega

section Bounds

variable {text : Text} {i : Nat}

theorem length_segments_add_tail (text : Text) :
    ((parse text).segments.flatMap segmentSource).length + (parse text).tail.length = text.length := by
  rw [← List.length_append, ← source, source_parse]

theorem offset_lt_length {p : Placeholder} (inside : p ∈ (parse text).placeholders) : p.offset < text.length := by
  have bound := endOffset_le_of_mem inside
  have whole := length_segments_add_tail text
  simp only [Placeholder.endOffset] at bound
  omega

theorem queryMarker?_lt_length (found : (parse text).queryMarker? = some i) : i < text.length := by
  have mark := ((queryMarker?_eq_some_iff text i).mp found).1.mark
  exact (List.getElem?_eq_some_iff.mp mark).1

theorem unterminated?_lt_length (found : (parse text).unterminated? = some i) : i < text.length := by
  obtain ⟨dangling, opened, rfl⟩ := Option.map_eq_some_iff.mp found
  have whole := length_segments_add_tail text
  simp only [tail, opened, Option.elim_some, List.length_append, List.length_cons] at whole
  omega

end Bounds

theorem kind_of_marked {start : Nat} {segments : List Segment} {p : Placeholder}
    (inside : p ∈ placeholdersFrom start true segments) : p.kind = .query := by
  have kind : p.kind = if true || (queryMarkerFrom [] start segments).any (· < p.offset) then .query else .path :=
    kind_placeholdersFrom inside
  rw [kind, Bool.true_or, if_pos rfl]

theorem filters_of_marked (start : Nat) (segments : List Segment) :
    (placeholdersFrom start true segments).filter (fun p => p.kind = .path) = [] ∧
      (placeholdersFrom start true segments).filter (fun p => p.kind = .query) =
        placeholdersFrom start true segments := by
  rw [List.filter_eq_nil_iff, List.filter_eq_self]
  constructor
  · intro p inside
    simp [kind_of_marked inside]
  · intro p inside
    simp [kind_of_marked inside]

theorem placeholdersFrom_eq_filters (start : Nat) (marked : Bool) (segments : List Segment) :
    placeholdersFrom start marked segments =
      (placeholdersFrom start marked segments).filter (fun p => p.kind = .path) ++
        (placeholdersFrom start marked segments).filter fun p => p.kind = .query := by
  induction segments generalizing start marked with
  | nil => rfl
  | cons s segments ih =>
    rw [placeholdersFrom]
    cases passed : marked || s.gap.contains '?' with
    | false => simpa using ih _ _
    | true =>
      have rest := filters_of_marked (start + s.gap.length + s.name.length + 2) segments
      simp [Placeholder.endOffset, rest]

theorem kind_eq_query_iff {t : Template} {p : Placeholder} (inside : p ∈ t.placeholders) :
    p.kind = .query ↔ ∃ i, t.queryMarker? = some i ∧ i < p.offset := by
  rw [kind_eq inside]
  cases t.queryMarker? with
  | none => simp
  | some i => by_cases before : i < p.offset <;> simp [before]

/-- The query marker is the first open question mark. Placeholders stand behind one another without overlap, those of the
query behind the marker and the others before it. -/
theorem placeholders_around_marker (text : Text) :
    (∀ i, (parse text).queryMarker? = some i ↔ OpenMark text i ∧ ∀ j, OpenMark text j → i ≤ j) ∧
      ((parse text).queryMarker? = none ↔ ∀ i, ¬OpenMark text i) ∧
      (parse text).hasQueryMarker = (parse text).queryMarker?.isSome ∧
      (∀ p ∈ (parse text).placeholders,
        p.kind = .query ↔ ∃ i, (parse text).queryMarker? = some i ∧ i < p.offset) ∧
      (parse text).placeholders.Pairwise (fun p q => p.offset < q.offset ∧ p.endOffset ≤ q.offset) ∧
      (parse text).placeholders = (parse text).pathPlaceholders ++ (parse text).queryPlaceholders := by
  refine ⟨queryMarker?_eq_some_iff text, queryMarker?_eq_none_iff text, hasQueryMarker_eq (parse text),
    fun p inside => kind_eq_query_iff inside, ?_, placeholdersFrom_eq_filters 0 false _⟩
  apply (pairwise_placeholdersFrom 0 false (parse text).segments).imp
  intro p q apart
  have longer : p.offset < p.endOffset := by
    unfold Placeholder.endOffset
    omega
  exact ⟨Nat.lt_of_lt_of_le longer apart, apart⟩

-- A question mark in a name is passed over, and so is one behind the marker or behind an open brace.
example : (parse "/\x7ba?\x7d?\x7bb\x7d?\x7b?").queryMarker? = some 5 ∧
    (parse "/\x7ba?\x7d?\x7bb\x7d?\x7b?").placeholders = [⟨"a?", .path, 1⟩, ⟨"b", .query, 6⟩] := by decide

end RouteTemplate.Template
