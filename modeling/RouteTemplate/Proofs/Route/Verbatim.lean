import RouteTemplate.Proofs.Route.Server
import RouteTemplate.Proofs.Url.Relative

set_option autoImplicit false

namespace RouteTemplate

open Percent (isUnreserved isComponentPoint)

variable {settings : Settings} {accessors : Accessors} {bag : Bag} {text filled route : Text}

def Template.literal (t : Template) : Text := t.segments.flatMap Segment.gap ++ t.tail

/-- A filled template holds components, the gaps, and the names of the placeholders in its query with their marks. -/
theorem mem_substitute (start : Nat) {marked : Bool} {segments : List Segment}
    (done : substitute settings accessors bag text marked segments = .ok filled) {c : CodePoint} (inside : c ∈ filled) :
    isComponentPoint c = true ∨ c ∈ segments.flatMap Segment.gap ∨
      ∃ p ∈ Template.placeholdersFrom start marked segments, p.kind = .query ∧ c ∈ pairText p.name [] := by
  induction segments generalizing start marked filled with
  | nil =>
    cases done
    cases inside
  | cons s segments ih =>
    obtain ⟨piece, rest, first, second, rfl⟩ := substitute_cons_ok done
    obtain ⟨_, _, component, _, _, _, written, rfl⟩ := fill_ok first
    rw [Template.placeholdersFrom, List.flatMap_cons]
    simp only [List.mem_append, List.exists_mem_cons_iff]
    rcases List.mem_append.mp inside with gap | inside
    · exact .inr (.inl (.inl gap))
    · rcases List.mem_append.mp inside with here | later
      · have points := Value.component_points written c
        cases passed : marked || s.gap.contains '?' with
        | false =>
          rw [passed] at here
          exact .inl (points here)
        | true =>
          rw [passed] at here
          rcases List.mem_append.mp here with named | valued
          · exact .inr (.inr (.inl ⟨rfl, List.mem_append_left _ named⟩))
          · rcases List.mem_cons.mp valued with mark | valued
            · exact .inr (.inr (.inl ⟨rfl, by simp [pairText, mark]⟩))
            · exact .inl (points valued)
      · rcases ih _ second later with component | gap | named
        · exact .inl component
        · exact .inr (.inl (.inr gap))
        · exact .inr (.inr (.inr named))

/-- What a route holds: components and marks, the literal text of its template, and the names asked for in the query. -/
theorem mem_resolve (done : resolve settings text (some bag) = .ok route) {c : CodePoint} (inside : c ∈ route) :
    isComponentPoint c = true ∨ c ∈ Text.ofString "?&=" ∨ c ∈ (Template.parse text).literal ∨
      ∃ p ∈ (Template.parse text).queryPlaceholders, c ∈ p.name := by
  obtain ⟨accessors, filled, pairs, parts, rfl⟩ := resolve_ok done
  obtain ⟨more, appended, points⟩ := appendPairs_eq (Template.parse text).hasQueryMarker
    (filled ++ (Template.parse text).tail) parts.appended
  rw [appended] at inside
  rcases List.mem_append.mp inside with front | behind
  · rcases List.mem_append.mp front with filled | tail
    · rcases mem_substitute 0 parts.substituted filled with component | gap | ⟨p, member, asked, named⟩
      · exact .inl component
      · exact .inr (.inr (.inl (List.mem_append_left _ gap)))
      · rcases List.mem_append.mp named with name | mark
        · exact .inr (.inr (.inr ⟨p, List.mem_filter.mpr ⟨member, by simp [asked]⟩, name⟩))
        · rw [List.mem_singleton.mp mark]
          exact .inr (.inl (by decide))
    · exact .inr (.inr (.inl (List.mem_append_right _ tail)))
  · exact (points c behind).imp_right .inl

/-- A template that starts with a slash resolves to a route that does. -/
theorem head?_resolve (start : text.head? = some (CodePoint.ofChar '/'))
    (done : resolve settings text (some bag) = .ok route) : route.head? = some (CodePoint.ofChar '/') := by
  obtain ⟨accessors, filled, pairs, parts, rfl⟩ := resolve_ok done
  obtain ⟨more, appended, _⟩ := appendPairs_eq (Template.parse text).hasQueryMarker
    (filled ++ (Template.parse text).tail) parts.appended
  have substituted := parts.substituted
  rw [appended]
  cases parted : (Template.parse text).segments with
  | nil =>
    rw [parted] at substituted
    cases substituted
    have whole := Template.source_parse text
    rw [Template.source, parted, List.flatMap_nil, List.nil_append] at whole
    rw [List.nil_append, whole, List.head?_append, start, Option.some_or]
  | cons s segments =>
    rw [parted] at substituted
    obtain ⟨behind, opened⟩ := Template.gap_of_parse parted
    obtain ⟨piece, filled, _, _, rfl⟩ := substitute_cons_ok substituted
    cases gap : s.gap with
    | nil =>
      rw [opened, gap] at start
      exact absurd (Option.some.inj start) (by decide)
    | cons c following =>
      rw [opened, gap] at start
      exact start

/-- Is the code point one that literal text may be written in to be read in a URL as it stands? -/
def isLiteralPoint (c : CodePoint) : Bool := isUnreserved c || ("/?&=,:@" : Text).contains c

theorem isReferencePoint_of_literal {c : CodePoint} (point : isLiteralPoint c = true) :
    Url.isReferencePoint c = true := by
  have marks : Text.ofString "%/?&=,:@" = CodePoint.ofChar '%' :: Text.ofString "/?&=,:@" := rfl
  rcases Bool.or_eq_true_iff.mp point with unreserved | mark
  · rw [Url.isReferencePoint, unreserved, Bool.true_or]
  · rw [Url.isReferencePoint, marks, List.contains_cons, mark, Bool.or_true, Bool.or_true]

theorem isReferencePoint_of_mark {c : CodePoint} (mark : c ∈ Text.ofString "?&=") : Url.isReferencePoint c = true := by
  have marks : (Text.ofString "?&=").all Url.isReferencePoint = true := by decide
  exact List.all_eq_true.mp marks c mark

/-- A route is written in characters that stand for themselves if its literal text and the names asked for in the query
are. -/
theorem isReferencePoint_of_resolve (literal : ∀ c ∈ (Template.parse text).literal, isLiteralPoint c = true)
    (named : ∀ p ∈ (Template.parse text).queryPlaceholders, ∀ c ∈ p.name, isLiteralPoint c = true)
    (done : resolve settings text (some bag) = .ok route) {c : CodePoint} (inside : c ∈ route) :
    Url.isReferencePoint c = true := by
  rcases mem_resolve done inside with component | mark | outside | ⟨p, member, name⟩
  · exact Url.isReferencePoint_of_component component
  · exact isReferencePoint_of_mark mark
  · exact isReferencePoint_of_literal (literal c outside)
  · exact isReferencePoint_of_literal (named p member c name)

/-- The URL of a route is written as the route is: no escape in it is undone or escaped once more, and a query that is
there and empty is kept. -/
theorem resolveUrl_verbatim (settings : Settings) {text route : Text} {bag : Bag} (start : text.startsWith "/" = true)
    (literal : ∀ c ∈ (Template.parse text).literal, isLiteralPoint c = true)
    (named : ∀ p ∈ (Template.parse text).queryPlaceholders, ∀ c ∈ p.name, isLiteralPoint c = true)
    (done : resolve settings text (some bag) = .ok route) (single : route.startsWith "//" = false)
    (short : route.length ≤ Url.maxLength) :
    ∃ u, resolveUrl settings text (some bag) none = .ok u ∧ u.text = route := by
  rw [Text.startsWith_slash, decide_eq_true_eq] at start
  have points (c : CodePoint) := isReferencePoint_of_resolve literal named done (c := c)
  have unserved : Url.Unserved route := by
    obtain ⟨rest, rfl⟩ := List.head?_eq_some_iff.mp (head?_resolve start done)
    exact ⟨rfl, single⟩
  have read := Url.parse_verbatim points unserved short
  exact ⟨_, resolveUrl_eq_ok.mpr ⟨route, done, read⟩, Url.text_of_parse_verbatim points unserved read⟩

/-- A slash and a percent sign in a value, and a query without anything in it. -/
theorem resolveUrl_verbatim_empty_query :
    let text : Text := "/\x7bx\x7d/y,z?"
    let bag : Bag := .mapping "dict" [(.text "x", .text "a/b%")]
    let route : Text := "/a%2Fb%25/y,z?"
    text.startsWith "/" = true ∧ (∀ c ∈ (Template.parse text).literal, isLiteralPoint c = true) ∧
      (Template.parse text).queryPlaceholders = [] ∧ resolve {} text (some bag) = .ok route ∧
      route.startsWith "//" = false ∧ route.length ≤ Url.maxLength ∧
      ∃ u, resolveUrl {} text (some bag) none = .ok u ∧ u.text = route := by
  intro text bag route
  have start : text.startsWith "/" = true := by rfl
  have points : (Template.parse text).literal.all isLiteralPoint = true := by decide
  have literal := List.all_eq_true.mp points
  have unasked : (Template.parse text).queryPlaceholders = [] := by rfl
  have named : ∀ p ∈ (Template.parse text).queryPlaceholders, ∀ c ∈ p.name, isLiteralPoint c = true := by
    rw [unasked]
    simp
  have done : resolve {} text (some bag) = .ok route := by rfl
  have single : route.startsWith "//" = false := by rfl
  have short : route.length ≤ Url.maxLength := by decide
  exact ⟨start, literal, unasked, done, single, short, resolveUrl_verbatim {} start literal named done single short⟩

end RouteTemplate
