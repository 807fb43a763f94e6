import RouteTemplate.Template

set_option autoImplicit false

namespace RouteTemplate

/-- The part of a text between two offsets. -/
def Text.slice (t : Text) (start stop : Nat) : Text := (t.take stop).drop start

theorem Text.slice_append (before part after : Text) :
    (before ++ (part ++ after)).slice before.length (before.length + part.length) = part := by
  have front : (before ++ (part ++ after)).take (before.length + part.length) = before ++ part := by
    rw [List.take_length_add_append, List.take_left]
  rw [slice, front, List.drop_left]

namespace Template

/-- Gaps hold no opening brace, names and dangling text no closing one. -/
structure WellBraced (t : Template) : Prop where
  gaps : ∀ s ∈ t.segments, openBrace ∉ s.gap
  names : ∀ s ∈ t.segments, closeBrace ∉ s.name
  lastGap : openBrace ∉ t.lastGap
  dangling : ∀ text ∈ t.dangling, closeBrace ∉ text

theorem WellBraced.prepend {s : Segment} {t : Template} (braced : t.WellBraced) (gap : openBrace ∉ s.gap)
    (name : closeBrace ∉ s.name) : (Template.prepend s t).WellBraced :=
  ⟨List.forall_mem_cons.mpr ⟨gap, braced.gaps⟩, List.forall_mem_cons.mpr ⟨name, braced.names⟩, braced.lastGap,
    braced.dangling⟩

theorem wellBraced_scan {gap : Text} {name : Option Text} (gapFree : openBrace ∉ gap)
    (nameFree : ∀ n ∈ name, closeBrace ∉ n) (text : Text) : (scan gap name text).WellBraced := by
  have bare : ∀ s ∈ ([] : List Segment), openBrace ∉ s.gap ∧ closeBrace ∉ s.name := by simp
  induction text generalizing gap name with
  | nil =>
    cases name with
    | none => exact ⟨fun s inside => (bare s inside).1, fun s inside => (bare s inside).2, by simpa [scan] using gapFree,
        by simp [scan]⟩
    | some name =>
      have nameFree := nameFree name rfl
      exact ⟨fun s inside => (bare s inside).1, fun s inside => (bare s inside).2, by simpa [scan] using gapFree,
        by simpa [scan] using nameFree⟩
  | cons c rest ih =>
    cases name with
    | none =>
      unfold scan
      split
      · exact ih gapFree (by simp)
      · next other => exact ih (by simp [gapFree, Ne.symm other]) (by simp)
    | some name =>
      have nameFree := nameFree name rfl
      unfold scan
      split
      · have later : (scan [] none rest).WellBraced := ih List.not_mem_nil (by simp)
        exact later.prepend (by simpa using gapFree) (by simpa using nameFree)
      · next other => exact ih gapFree (by simp [nameFree, Ne.symm other])

theorem wellBraced_parse (text : Text) : (parse text).WellBraced :=
  wellBraced_scan List.not_mem_nil (by simp) text

theorem scan_gap {gap : Text} (free : openBrace ∉ gap) (before rest : Text) :
    scan before none (gap ++ rest) = scan (gap.reverse ++ before) none rest := by
  induction gap generalizing before with
  | nil => rfl
  | cons c gap ih =>
    obtain ⟨other, later⟩ := List.ne_and_not_mem_of_not_mem_cons free
    rw [List.cons_append, scan, if_neg (Ne.symm other), ih later]
    simp

theorem scan_name {name : Text} (free : closeBrace ∉ name) (gap before rest : Text) :
    scan gap (some before) (name ++ rest) = scan gap (some (name.reverse ++ before)) rest := by
  induction name generalizing before with
  | nil => rfl
  | cons c name ih =>
    obtain ⟨other, later⟩ := List.ne_and_not_mem_of_not_mem_cons free
    rw [List.cons_append, scan, if_neg (Ne.symm other), ih later]
    simp

theorem parse_segmentSource {s : Segment} (gap : openBrace ∉ s.gap) (name : closeBrace ∉ s.name) (rest : Text) :
    parse (segmentSource s ++ rest) = prepend s (parse rest) := by
  have shape : segmentSource s ++ rest = s.gap ++ openBrace :: (s.name ++ closeBrace :: rest) := by
    simp [segmentSource]
  rw [parse, shape, scan_gap gap, scan, if_pos rfl, scan_name name, scan, if_pos rfl]
  simp [parse]

/-- What is put together from well braced parts comes apart into these parts. -/
theorem parse_source {t : Template} (braced : t.WellBraced) : parse t.source = t := by
  obtain ⟨segments, lastGap, dangling⟩ := t
  induction segments with
  | nil =>
    have gapFree : openBrace ∉ lastGap := braced.lastGap
    cases dangling with
    | none =>
      have read := scan_gap gapFree [] []
      simpa [parse, source, tail, scan] using read
    | some text =>
      have textFree : closeBrace ∉ text := braced.dangling text rfl
      have read := scan_gap gapFree [] (openBrace :: text)
      have inside := scan_name textFree lastGap.reverse [] []
      rw [scan, if_pos rfl, List.append_nil] at read
      rw [List.append_nil, List.append_nil] at inside
      have whole : parse (lastGap ++ openBrace :: text) = scan lastGap.reverse (some text.reverse) [] :=
        read.trans inside
      simpa [source, tail, scan] using whole
  | cons s segments ih =>
    have gapFree := braced.gaps s List.mem_cons_self
    have nameFree := braced.names s List.mem_cons_self
    have later := ih ⟨fun r inside => braced.gaps r (List.mem_cons_of_mem s inside),
      fun r inside => braced.names r (List.mem_cons_of_mem s inside), braced.lastGap, braced.dangling⟩
    have first := source_prepend s ⟨segments, lastGap, dangling⟩
    rw [prepend] at first
    rw [first, parse_segmentSource gapFree nameFree, later, prepend]

/-- What the offsets of placeholders cut out of a text, read from an offset on: each name, with the text that stands
before it and behind the placeholder before. -/
def cut (text : Text) : (start : Nat) → List Placeholder → List Segment
  | _, [] => []
  | start, p :: placeholders => ⟨text.slice start p.offset, p.name⟩ :: cut text p.endOffset placeholders

def reach : (start : Nat) → List Placeholder → Nat
  | start, [] => start
  | _, p :: placeholders => reach p.endOffset placeholders

/-- What a segment adds to a text reaches to the end offset of its placeholder. -/
theorem length_append_segmentSource (before : Text) (s : Segment) :
    (before ++ segmentSource s).length = before.length + s.gap.length + s.name.length + 2 := by
  rw [List.length_append, length_segmentSource]
  omega

theorem slice_gap (before : Text) (s : Segment) (rest : Text) :
    (before ++ (segmentSource s ++ rest)).slice before.length (before.length + s.gap.length) = s.gap := by
  have shape : segmentSource s ++ rest = s.gap ++ (openBrace :: (s.name ++ [closeBrace]) ++ rest) := by
    simp [segmentSource]
  rw [shape]
  exact Text.slice_append before s.gap _

theorem reach_placeholdersFrom (start : Nat) (marked : Bool) (segments : List Segment) :
    reach start (placeholdersFrom start marked segments) = start + (segments.flatMap segmentSource).length := by
  induction segments generalizing start marked with
  | nil => rfl
  | cons s segments ih =>
    simp only [placeholdersFrom, reach, ih, Placeholder.endOffset, List.flatMap_cons, List.length_append,
      length_segmentSource]
    omega

theorem cut_placeholdersFrom (before : Text) (marked : Bool) (segments : List Segment) (rest : Text) :
    cut (before ++ (segments.flatMap segmentSource ++ rest)) before.length
      (placeholdersFrom before.length marked segments) = segments := by
  induction segments generalizing before marked with
  | nil => rfl
  | cons s segments ih =>
    have gap := slice_gap before s (segments.flatMap segmentSource ++ rest)
    have later := ih (before ++ segmentSource s) (marked || s.gap.contains '?')
    rw [length_append_segmentSource, List.append_assoc] at later
    rw [List.flatMap_cons, List.append_assoc]
    simp only [placeholdersFrom, cut, gap, Placeholder.endOffset, later]

theorem cut_placeholders (t : Template) : cut t.source 0 t.placeholders = t.segments :=
  cut_placeholdersFrom [] false t.segments t.tail

theorem drop_reach_placeholders (t : Template) : t.source.drop (reach 0 t.placeholders) = t.tail := by
  rw [placeholders, reach_placeholdersFrom, Nat.zero_add, source, List.drop_left]

/-- A brace structure of a text: names in braces, each behind a gap, then a rest. The rest opens no name, or it opens
one at an offset of the text and never closes it. -/
structure BraceStructure (text : Text) (segments : List Segment) (rest : Text) (unterminated : Option Nat) : Prop where
  tiles : text = segments.flatMap segmentSource ++ rest
  gaps : ∀ s ∈ segments, openBrace ∉ s.gap
  names : ∀ s ∈ segments, closeBrace ∉ s.name
  ending : unterminated = none ∧ openBrace ∉ rest ∨
    ∃ lastGap dangling, rest = lastGap ++ openBrace :: dangling ∧ openBrace ∉ lastGap ∧ closeBrace ∉ dangling ∧
      unterminated = some (segments.flatMap segmentSource ++ lastGap).length

theorem WellBraced.braceStructure {t : Template} (braced : t.WellBraced) :
    BraceStructure t.source t.segments t.tail t.unterminated? := by
  refine ⟨rfl, braced.gaps, braced.names, ?_⟩
  obtain ⟨segments, lastGap, dangling⟩ := t
  cases dangling with
  | none => exact .inl ⟨rfl, by simpa [tail] using braced.lastGap⟩
  | some text => exact .inr ⟨lastGap, text, rfl, braced.lastGap, braced.dangling text rfl, by simp [unterminated?]⟩

theorem BraceStructure.exists_template {text : Text} {segments : List Segment} {rest : Text} {unterminated : Option Nat}
    (structured : BraceStructure text segments rest unterminated) :
    ∃ t : Template, t.WellBraced ∧ t.source = text ∧ t.segments = segments ∧ t.tail = rest ∧
      t.unterminated? = unterminated := by
  rcases structured.ending with ⟨rfl, free⟩ | ⟨lastGap, dangling, rfl, gapFree, danglingFree, rfl⟩
  · refine ⟨⟨segments, rest, none⟩, ⟨structured.gaps, structured.names, free, by simp⟩, ?_, rfl, ?_, rfl⟩
    · simp [source, tail, structured.tiles]
    · simp [tail]
  · have inside : ∀ text ∈ some dangling, closeBrace ∉ text := by simpa using danglingFree
    refine ⟨⟨segments, lastGap, some dangling⟩, ⟨structured.gaps, structured.names, gapFree, inside⟩, ?_, rfl, rfl, ?_⟩
    · simp [source, tail, structured.tiles]
    · simp [unterminated?]

/-- A text has one brace structure: the one that the offsets of its placeholders cut out of it. -/
theorem braceStructure_iff (text : Text) (segments : List Segment) (rest : Text) (unterminated : Option Nat) :
    BraceStructure text segments rest unterminated ↔
      segments = cut text 0 (parse text).placeholders ∧ rest = text.drop (reach 0 (parse text).placeholders) ∧
        unterminated = (parse text).unterminated? := by
  constructor
  · intro structured
    obtain ⟨t, braced, rfl, rfl, rfl, rfl⟩ := structured.exists_template
    rw [parse_source braced]
    exact ⟨(cut_placeholders t).symm, (drop_reach_placeholders t).symm, rfl⟩
  · rintro ⟨rfl, rfl, rfl⟩
    have found := (wellBraced_parse text).braceStructure
    have segments := cut_placeholders (parse text)
    have rest := drop_reach_placeholders (parse text)
    rw [source_parse] at found segments rest
    rwa [segments, rest]

-- Braces do not nest, and one that closes nothing is text.
example : parse "a\x7bb\x7bc\x7dd\x7d\x7be" = ⟨[⟨"a", "b\x7bc"⟩], "d\x7d", some "e"⟩ := by decide

end Template

end RouteTemplate
