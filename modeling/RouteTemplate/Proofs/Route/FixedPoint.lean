import RouteTemplate.Proofs.Route.Spelling
import RouteTemplate.Proofs.Route.Verbatim

/-!
Resolved routes as templates. A text without an opening brace is all literal, and it resolves to itself where there is
nothing to append. A template that leaves no name open puts no opening brace into a route but those in the names that it
asks for in the query. So where these have none, a route is never taken apart again, whatever the values and the names of
the bag look like.
-/

set_option autoImplicit false

namespace RouteTemplate

variable {settings : Settings} {accessors : Accessors} {bag : Bag} {text filled route : Text}

/-- A text without placeholders in which no brace is left open. -/
def Template.IsLiteral (text : Text) : Prop := (parse text).placeholders = [] ∧ (parse text).unterminated? = none

theorem Template.segments_of_placeholders_eq_nil {t : Template} (bare : t.placeholders = []) : t.segments = [] := by
  have names := congrArg (List.map Placeholder.name) bare
  rw [map_name_placeholders, List.map_nil] at names
  exact List.map_eq_nil_iff.mp names

/-- It is opening braces alone that make a text more than literal. -/
theorem Template.isLiteral_iff {text : Text} : IsLiteral text ↔ openBrace ∉ text := by
  constructor
  · rintro ⟨bare, closed⟩
    have whole := source_parse text
    rw [source, segments_of_placeholders_eq_nil bare, List.flatMap_nil, List.nil_append, tail_of_closed closed] at whole
    rw [← whole]
    exact (wellBraced_parse text).lastGap
  · intro free
    rw [IsLiteral, parse_literal free]
    exact ⟨rfl, rfl⟩

/-- The name of a placeholder of the query is written into the route as it is. -/
theorem name_subset_substitute (start : Nat) {marked : Bool} {segments : List Segment}
    (done : substitute settings accessors bag text marked segments = .ok filled) {p : Placeholder}
    (member : p ∈ Template.placeholdersFrom start marked segments) (asked : p.kind = .query) : p.name ⊆ filled := by
  induction segments generalizing start marked filled with
  | nil => cases member
  | cons s segments ih =>
    obtain ⟨piece, rest, first, second, rfl⟩ := substitute_cons_ok done
    rw [Template.placeholdersFrom] at member
    rcases List.mem_cons.mp member with rfl | later
    · obtain ⟨_, _, component, _, _, _, _, rfl⟩ := fill_ok first
      have kind : kindAfter (marked || s.gap.contains '?') = .query := asked
      rw [kind, placed, pairText]
      intro c inside
      simp [inside]
    · have behind := ih _ second later
      exact List.Subset.trans behind (List.subset_append_of_subset_right _ (List.subset_append_right piece rest))

/-- Where every name is closed, opening braces come into a route by the names asked for in the query alone. -/
theorem openBrace_not_mem_resolve_iff (closed : (Template.parse text).unterminated? = none)
    (done : resolve settings text (some bag) = .ok route) :
    Template.openBrace ∉ route ↔ ∀ p ∈ (Template.parse text).queryPlaceholders, Template.openBrace ∉ p.name := by
  constructor
  · intro free p member inside
    obtain ⟨accessors, filled, pairs, parts, rfl⟩ := resolve_ok done
    obtain ⟨more, appended, _⟩ := appendPairs_eq (Template.parse text).hasQueryMarker
      (filled ++ (Template.parse text).tail) parts.appended
    obtain ⟨listed, asked⟩ := List.mem_filter.mp member
    have written := name_subset_substitute 0 parts.substituted listed (of_decide_eq_true asked) inside
    rw [appended] at free
    exact free (List.mem_append_left _ (List.mem_append_left _ written))
  · intro named inside
    have braced := Template.wellBraced_parse text
    rcases mem_resolve done inside with component | mark | literal | ⟨p, member, name⟩
    · exact absurd component (by decide)
    · exact absurd mark (by decide)
    · rw [Template.literal, Template.tail_of_closed closed] at literal
      rcases List.mem_append.mp literal with gap | last
      · obtain ⟨s, member, opens⟩ := List.mem_flatMap.mp gap
        exact braced.gaps s member opens
      · exact braced.lastGap last
    · exact named p member name

/-- A literal text resolves to itself against an empty mapping. -/
theorem resolve_literal (free : Template.openBrace ∉ text) (settings : Settings) (type : Text) :
    resolve settings text (some (.mapping type [])) = .ok text := by
  have known : (Bag.mapping type []).accessors = .ok (.ofList []) := rfl
  have accepted : refused settings text ⟨[], text, none⟩ = none := refused_eq_none (.inl rfl)
  have whole : (⟨[], text, none⟩ : Template).tail = text := List.append_nil text
  unfold resolve
  dsimp only
  rw [parse_literal free, accepted, known, ok_bind, resolveParsed, substitute, ok_bind, whole]
  cases settings.appendUnconsumed with
  | false => rfl
  | true => rfl

/-- A route is literal, and resolves to itself under all settings, just if no name asked for in the query has an opening
brace in it. -/
theorem resolve_again_iff (closed : (Template.parse text).unterminated? = none)
    (done : resolve settings text (some bag) = .ok route) :
    (∀ p ∈ (Template.parse text).queryPlaceholders, Template.openBrace ∉ p.name) ↔
      (Template.parse route).placeholders = [] ∧ (Template.parse route).unterminated? = none ∧
        ∀ other, resolve other route (some (.mapping "dict" [])) = .ok route := by
  rw [← openBrace_not_mem_resolve_iff closed done]
  constructor
  · intro free
    obtain ⟨bare, ended⟩ := Template.isLiteral_iff.mpr free
    exact ⟨bare, ended, fun other => resolve_literal free other "dict"⟩
  · rintro ⟨bare, ended, _⟩
    exact Template.isLiteral_iff.mp ⟨bare, ended⟩

/-- Values and a name that look like placeholders, in the path, in the query and behind it. -/
theorem resolve_again_iff_braces :
    let text : Text := "/\x7bx\x7d?\x7bq\x7d"
    let bag : Bag := .mapping "dict"
      [(.text "x", .text "\x7by\x7d"), (.text "q", .text "\x7b"), (.text "\x7bz\x7d", .int 1)]
    let route : Text := "/%7By%7D?q=%7B&%7Bz%7D=1"
    (Template.parse text).unterminated? = none ∧ resolve {} text (some bag) = .ok route ∧
      (∀ p ∈ (Template.parse text).queryPlaceholders, Template.openBrace ∉ p.name) ∧
      (Template.parse route).placeholders = [] ∧ (Template.parse route).unterminated? = none ∧
        ∀ other, resolve other route (some (.mapping "dict" [])) = .ok route := by
  intro text bag route
  have closed : (Template.parse text).unterminated? = none := by rfl
  have done : resolve {} text (some bag) = .ok route := by rfl
  have named : ∀ p ∈ (Template.parse text).queryPlaceholders, Template.openBrace ∉ p.name := by decide
  exact ⟨closed, done, named, (resolve_again_iff closed done).mp named⟩

end RouteTemplate
