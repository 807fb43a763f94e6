import RouteTemplate.Proofs.Template.Braces

set_option autoImplicit false

namespace RouteTemplate.Template

def behindGap (gap : Text) (t : Template) : Template :=
  match t.segments with
  | [] => { t with lastGap := gap ++ t.lastGap }
  | s :: segments => { t with segments := ⟨gap ++ s.gap, s.name⟩ :: segments }

def behindSegments (segments : List Segment) (t : Template) : Template := { t with segments := segments ++ t.segments }

/-- A template put behind another, which leaves no name open. -/
def append (first second : Template) : Template := behindSegments first.segments (behindGap first.lastGap second)

theorem scan_behindGap (gap before : Text) (name : Option Text) (text : Text) :
    scan (before ++ gap.reverse) name text = behindGap gap (scan before name text) := by
  induction text generalizing before name with
  | nil => cases name <;> simp [scan, behindGap]
  | cons c rest ih =>
    cases name with
    | none =>
      simp only [scan]
      split
      · exact ih before (some [])
      · exact ih (c :: before) none
    | some name =>
      simp only [scan]
      split
      · simp only [behindGap, List.reverse_append, List.reverse_reverse]
        rfl
      · exact ih before (some (c :: name))

theorem parse_gap_append {gap : Text} (free : openBrace ∉ gap) (text : Text) :
    parse (gap ++ text) = behindGap gap (parse text) := by
  rw [parse, scan_gap free, List.append_nil]
  exact scan_behindGap gap [] none text

theorem parse_segments_append {segments : List Segment} (gaps : ∀ s ∈ segments, openBrace ∉ s.gap)
    (names : ∀ s ∈ segments, closeBrace ∉ s.name) (text : Text) :
    parse (segments.flatMap segmentSource ++ text) = behindSegments segments (parse text) := by
  induction segments with
  | nil => rfl
  | cons s segments ih =>
    have later := ih (fun r inside => gaps r (List.mem_cons_of_mem s inside))
      fun r inside => names r (List.mem_cons_of_mem s inside)
    rw [List.flatMap_cons, List.append_assoc, parse_segmentSource (gaps s List.mem_cons_self) (names s List.mem_cons_self),
      later]
    rfl

/-- Behind the last placeholder of a template that leaves no name open there is only a gap. -/
theorem tail_of_closed {t : Template} (closed : t.unterminated? = none) : t.tail = t.lastGap := by
  rw [tail, Option.map_eq_none_iff.mp closed, Option.elim_none, List.append_nil]

/-- A text that leaves no name open is read apart from what follows it. -/
theorem parse_append {first : Text} (closed : (parse first).unterminated? = none) (second : Text) :
    parse (first ++ second) = (parse first).append (parse second) := by
  have braced := wellBraced_parse first
  have whole : (parse first).segments.flatMap segmentSource ++ (parse first).lastGap = first := by
    rw [← tail_of_closed closed]
    exact source_parse first
  calc parse (first ++ second)
    _ = parse ((parse first).segments.flatMap segmentSource ++ ((parse first).lastGap ++ second)) := by
      rw [← List.append_assoc, whole]
    _ = behindSegments (parse first).segments (parse ((parse first).lastGap ++ second)) :=
      parse_segments_append braced.gaps braced.names _
    _ = (parse first).append (parse second) := by
      rw [parse_gap_append braced.lastGap]
      rfl

/-- What stands in an open name stands in the name that is closed next. -/
theorem exists_mem_names_of_open {c : CodePoint} {gap name text : Text} (inside : c ∈ name)
    (closed : (scan gap (some name) text).dangling = none) : ∃ n ∈ (scan gap (some name) text).names, c ∈ n := by
  induction text generalizing name with
  | nil => cases closed
  | cons d text ih =>
    rw [scan] at closed ⊢
    split at closed
    · next closes =>
      rw [if_pos closes]
      exact ⟨name.reverse, List.mem_cons_self, List.mem_reverse.mpr inside⟩
    · next reads =>
      rw [if_neg reads]
      exact ih (List.mem_cons_of_mem d inside) closed

theorem scan_dangling_of_append {c : CodePoint} (other : c ≠ closeBrace) {gap : Text} {name : Option Text}
    {front rest : Text} (unnamed : ∀ n ∈ (scan gap name (front ++ c :: rest)).names, c ∉ n)
    (closed : (scan gap name (front ++ c :: rest)).dangling = none) : (scan gap name front).dangling = none := by
  induction front generalizing gap name with
  | nil =>
    cases name with
    | none => rfl
    | some name =>
      rw [List.nil_append, scan, if_neg other] at unnamed closed
      obtain ⟨n, member, inside⟩ := exists_mem_names_of_open List.mem_cons_self closed
      exact absurd inside (unnamed n member)
  | cons d front ih =>
    cases name with
    | none =>
      simp only [List.cons_append, scan] at unnamed closed ⊢
      split at unnamed
      · next opens =>
        rw [if_pos opens] at closed ⊢
        exact ih unnamed closed
      · next reads =>
        rw [if_neg reads] at closed ⊢
        exact ih unnamed closed
    | some name =>
      simp only [List.cons_append, scan] at unnamed closed ⊢
      split at unnamed
      · next closes =>
        rw [if_pos closes] at closed ⊢
        exact ih (fun n member => unnamed n (List.mem_cons_of_mem _ member)) closed
      · next reads =>
        rw [if_neg reads] at closed ⊢
        exact ih unnamed closed

/-- In front of a character that stands in no name, no name is open. -/
theorem closed_of_append {c : CodePoint} (other : c ≠ closeBrace) {front rest : Text}
    (unnamed : ∀ n ∈ (parse (front ++ c :: rest)).names, c ∉ n)
    (closed : (parse (front ++ c :: rest)).unterminated? = none) : (parse front).unterminated? = none :=
  Option.map_eq_none_iff.mpr (scan_dangling_of_append other unnamed (Option.map_eq_none_iff.mp closed))

end RouteTemplate.Template
