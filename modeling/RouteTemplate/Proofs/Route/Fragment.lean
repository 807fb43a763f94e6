import RouteTemplate.Proofs.Route.Composition
import RouteTemplate.Proofs.Route.Leftovers

set_option autoImplicit false

namespace RouteTemplate

variable {settings : Settings} {accessors : Accessors} {bag : Bag} {text : Text}

/-- Every pair is a piece of the query of a route: of what follows the first question mark. -/
def InQuery (route : Text) (pairs : List Text) : Prop :=
  ∀ pair ∈ pairs, ∃ path query, Text.splitFirst '?' route = some (path, query) ∧ pair ∈ Text.splitOn '&' query

theorem not_mem_fillAll {c : CodePoint} (other : Percent.isComponentPoint c = false) (unequal : c ≠ CodePoint.ofChar '=')
    {marked : Bool} {t : Template} {filled : Text} (done : fillAll settings accessors bag text marked t = .ok filled)
    (free : c ∉ t.source) : c ∉ filled := by
  obtain ⟨front, substituted, done⟩ := bind_eq_ok.mp done
  cases done
  rw [Template.source, List.mem_append, not_or] at free
  have bare := count_substitute_le c other unequal substituted
  rw [List.count_eq_zero.mpr free.1] at bare
  rw [List.mem_append, not_or]
  exact ⟨List.count_eq_zero.mp (Nat.le_zero.mp bare), free.2⟩

/-- A template is filled apart on both sides of a number sign that stands in no name. -/
theorem fillAll_fragment {front fragment route : Text} (marked : Bool)
    (closed : (Template.parse front).unterminated? = none)
    (done : fillAll settings accessors bag text marked (Template.parse (front ++ CodePoint.ofChar '#' :: fragment)) =
      .ok route) :
    ∃ before filled, fillAll settings accessors bag text marked (Template.parse front) = .ok before ∧
      fillAll settings accessors bag text (marked || (Template.parse front).hasQueryMarker) (Template.parse fragment) =
        .ok filled ∧
      route = before ++ CodePoint.ofChar '#' :: filled := by
  have free : Template.openBrace ∉ [CodePoint.ofChar '#'] := by decide
  have sign : Template.parse (CodePoint.ofChar '#' :: fragment) =
      (Template.parse fragment).behindGap [CodePoint.ofChar '#'] := Template.parse_gap_append free fragment
  have unasked : [CodePoint.ofChar '#'].contains (CodePoint.ofChar '?') = false := by decide
  rw [Template.parse_append closed, sign, fillAll_append settings accessors bag text closed] at done
  obtain ⟨before, first, done⟩ := bind_eq_ok.mp done
  obtain ⟨behind, signed, done⟩ := bind_eq_ok.mp done
  cases done
  rw [fillAll_behindGap, unasked, Bool.or_false] at signed
  obtain ⟨filled, second, signed⟩ := bind_eq_ok.mp signed
  cases signed
  exact ⟨before, filled, first, second, rfl⟩

/-- Where a route ends in some text, pairs are appended to it as to that text. -/
theorem appendPairs_append (marked : Bool) (front : Text) {last : Text} (nonempty : last ≠ []) (pairs : List Text) :
    appendPairs marked (front ++ last) pairs = front ++ appendPairs marked last pairs := by
  have same : (front ++ last).getLast? = last.getLast? := by
    obtain ⟨c, ends⟩ := Option.ne_none_iff_exists'.mp (mt List.getLast?_eq_none_iff.mp nonempty)
    rw [List.getLast?_append, ends, Option.some_or]
  unfold appendPairs
  split
  · rfl
  · rw [separator_congr marked same, List.append_assoc]

/-- Appending changes a route unless there is nothing to append. -/
theorem exists_appendPairs (marked : Bool) (route : Text) {readings : List (Text × Except ResolveError Value)}
    {pairs : List Text} (rendered : List.Forall₂ (PairOf settings) readings pairs) :
    ∃ more, appendPairs marked route pairs = route ++ more ∧ (more = [] ↔ readings = []) := by
  cases rendered with
  | nil => exact ⟨[], (List.append_nil route).symm, by simp⟩
  | cons first later =>
    have written := joinWith_pairs_ne_nil (.cons first later) (List.cons_ne_nil _ _) "&"
    exact ⟨_, if_neg (by simp), iff_of_false (List.append_ne_nil_of_right_ne_nil _ written) (by simp)⟩

/-- A route is cut at the number sign of its template into the two sides filled apart, and what is left of the bag is
appended behind the second: the pairs are in the query and the fragment is that of the template just when nothing is
left. -/
theorem resolve_fragment_iff {front fragment route : Text} (append : settings.appendUnconsumed = true)
    (closed : (Template.parse text).unterminated? = none)
    (unnamed : ∀ name ∈ (Template.parse text).names, CodePoint.ofChar '#' ∉ name)
    (cut : Text.splitFirst '#' text = some (front, fragment)) (known : bag.accessors = .ok accessors)
    (done : resolve settings text (some bag) = .ok route) :
    ∃ before filled after pairs,
      fillAll settings accessors bag text false (Template.parse front) = .ok before ∧
      fillAll settings accessors bag text (Template.parse front).hasQueryMarker (Template.parse fragment) =
        .ok filled ∧
      List.Forall₂ (PairOf settings) ((Template.parse text).remaining bag accessors) pairs ∧
      Text.splitFirst '#' route = some (before, after) ∧
      CodePoint.ofChar '#' :: after =
        appendPairs (Template.parse text).hasQueryMarker (CodePoint.ofChar '#' :: filled) pairs ∧
      (InQuery before pairs ∧ after = filled ↔ (Template.parse text).remaining bag accessors = []) := by
  obtain ⟨whole, free⟩ := Text.splitFirst_append cut
  obtain ⟨accessors', substituted, pairs, parts, rfl⟩ := resolve_ok done
  cases known.symm.trans parts.known
  have rendered := parts.appended
  rw [if_pos append] at rendered
  have frontClosed : (Template.parse front).unterminated? = none := by
    rw [← whole] at closed unnamed
    exact Template.closed_of_append (by decide) unnamed closed
  have filledAll : fillAll settings accessors bag text false (Template.parse (front ++ CodePoint.ofChar '#' :: fragment)) =
      .ok (substituted ++ (Template.parse text).tail) := by
    rw [whole]
    exact bind_eq_ok.mpr ⟨substituted, parts.substituted, rfl⟩
  obtain ⟨before, filled, first, second, joined⟩ := fillAll_fragment false frontClosed filledAll
  obtain ⟨more, appended, nothing⟩ :=
    exists_appendPairs (Template.parse text).hasQueryMarker (CodePoint.ofChar '#' :: filled) rendered
  have unsigned : CodePoint.ofChar '#' ∉ before :=
    not_mem_fillAll (by decide) (by decide) first (by rwa [Template.source_parse])
  refine ⟨before, filled, filled ++ more, pairs, first, second, rendered, ?_, appended.symm, ?_⟩
  · -- The separator does not look past the number sign, so what is in front of it has no say in what is appended.
    rw [joined, appendPairs_append _ _ (by simp), appended]
    exact Text.splitFirst_of_not_mem unsigned
  · rw [← nothing, List.append_right_eq_self]
    refine and_iff_right_of_imp fun bare => ?_
    rw [nothing.mp bare, List.forall₂_nil_left_iff] at rendered
    intro pair inside
    rw [rendered] at inside
    cases inside

/-- A value with a number sign in it, placed on both sides of the one in the template, and a value that is left over. -/
theorem resolve_fragment_iff_value_left :
    let text : Text := "/\x7bp\x7d?q=1#s-\x7bp\x7d"
    let front : Text := "/\x7bp\x7d?q=1"
    let fragment : Text := "s-\x7bp\x7d"
    let bag : Bag := .mapping "dict" [(.text "p", .text "a#b"), (.text "x", .int 1)]
    let accessors : Accessors := .ofList [⟨"p", .entry 0⟩, ⟨"x", .entry 1⟩]
    let readings : List (Text × Except ResolveError Value) := [("x", .ok (.int 1))]
    (Template.parse text).unterminated? = none ∧
      (∀ name ∈ (Template.parse text).names, CodePoint.ofChar '#' ∉ name) ∧
      Text.splitFirst '#' text = some (front, fragment) ∧ bag.accessors = .ok accessors ∧
      resolve {} text (some bag) = .ok "/a%23b?q=1#s-p=a%23b&x=1" ∧
      ∃ before filled after pairs,
        fillAll {} accessors bag text false (Template.parse front) = .ok before ∧
        fillAll {} accessors bag text true (Template.parse fragment) = .ok filled ∧
        List.Forall₂ (PairOf {}) readings pairs ∧
        Text.splitFirst '#' "/a%23b?q=1#s-p=a%23b&x=1" = some (before, after) ∧
        CodePoint.ofChar '#' :: after = appendPairs true (CodePoint.ofChar '#' :: filled) pairs ∧
        ¬(InQuery before pairs ∧ after = filled) := by
  intro text front fragment bag accessors readings
  have closed : (Template.parse text).unterminated? = none := by rfl
  have unnamed : ∀ name ∈ (Template.parse text).names, CodePoint.ofChar '#' ∉ name := by decide
  have cut : Text.splitFirst '#' text = some (front, fragment) := by rfl
  have known : bag.accessors = .ok accessors := by rfl
  have done : resolve {} text (some bag) = .ok "/a%23b?q=1#s-p=a%23b&x=1" := by rfl
  have left : (Template.parse text).remaining bag accessors = readings := by rfl
  obtain ⟨before, filled, after, pairs, first, second, rendered, parted, appended, spared⟩ :=
    resolve_fragment_iff rfl closed unnamed cut known done
  rw [left] at rendered spared
  have unspared : ¬(InQuery before pairs ∧ after = filled) := mt spared.mp (List.cons_ne_nil _ _)
  exact ⟨closed, unnamed, cut, known, done, before, filled, after, pairs, first, second, rendered, parted, appended,
    unspared⟩

/-- The pair that opens the query of a route stands in its fragment. -/
theorem resolve_fragment_unqueried :
    resolve {} "/a#f" (some (.mapping "dict" [(.text "x", .int 1)])) = .ok "/a#f?x=1" := by
  rfl

end RouteTemplate
