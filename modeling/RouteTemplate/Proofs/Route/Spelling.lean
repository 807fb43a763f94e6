import RouteTemplate.Proofs.Bag.Accessors
import RouteTemplate.Proofs.Route.Failure
import RouteTemplate.Proofs.Route.Separator
import RouteTemplate.Proofs.Template.Append

set_option autoImplicit false

namespace RouteTemplate

def placeholderText (name : Text) : Text := Template.openBrace :: (name ++ [Template.closeBrace])

/-- Literal text behind which a pair of the query can follow at once. -/
structure OpensQuery (front : Text) : Prop where
  literal : Template.openBrace ∉ front
  marked : CodePoint.ofChar '?' ∈ front
  ends : ∃ c, front.getLast? = some c ∧ (c = CodePoint.ofChar '?' ∨ c = CodePoint.ofChar '&')

def singleBag (name : Text) (v : Value) : Bag := .mapping "dict" [(.text name, v)]

def singleAccessors (name : Text) : Accessors := .ofList [⟨name, .entry 0⟩]

theorem accessors_singleBag (name : Text) (v : Value) : (singleBag name v).accessors = .ok (singleAccessors name) := rfl

theorem parse_behind_placeholder {front name : Text} (literal : Template.openBrace ∉ front)
    (closed : Template.closeBrace ∉ name) :
    Template.parse (front ++ placeholderText name) = ⟨[⟨front, name⟩], [], none⟩ := by
  have whole := @Template.parse_segmentSource ⟨front, name⟩ literal closed []
  rw [List.append_nil] at whole
  exact whole

theorem parse_literal {front : Text} (literal : Template.openBrace ∉ front) :
    Template.parse front = ⟨[], front, none⟩ := by
  have whole := Template.parse_gap_append literal []
  rw [List.append_nil] at whole
  rw [whole]
  exact congrArg (Template.mk [] · none) (List.append_nil front)

section Single

variable {settings : Settings} {front name component : Text} {v : Value} (append : settings.appendUnconsumed = true)
  (opens : OpensQuery front) (present : v.isAbsent = false) (rendered : v.component settings = .ok component)

include append opens present rendered

/-- A placeholder behind an open query gives the pair with the name as the template spells it, and nothing is left. -/
theorem resolve_query_placeholder (closed : Template.closeBrace ∉ name) :
    resolve settings (front ++ placeholderText name) (some (singleBag name v)) =
      .ok (front ++ pairText name component) := by
  have parsed := parse_behind_placeholder opens.literal closed
  have marker : front.contains (CodePoint.ofChar '?') = true := List.contains_iff_mem.mpr opens.marked
  have found : (singleAccessors name).find? name = some ⟨name, .entry 0⟩ := by
    rw [singleAccessors, Accessors.find?_ofList]
    exact List.find?_cons_of_pos (decide_eq_true rfl)
  have read : (singleBag name v).read (.entry 0) = .ok v := rfl
  have filled : substitute settings (singleAccessors name) (singleBag name v) (front ++ placeholderText name) false
      [⟨front, name⟩] = .ok (front ++ pairText name component) := by
    unfold substitute fill
    dsimp only
    rw [Bool.false_or, marker, if_pos rfl, found]
    dsimp only
    rw [read, ok_bind, present, rendered]
    exact congrArg (fun t => Except.ok (front ++ t)) (List.append_nil _)
  have consumed : [name.lower].contains name.lower = true := List.contains_iff_mem.mpr List.mem_cons_self
  have left : leftovers settings (singleBag name v) [name.lower] [⟨name, .entry 0⟩] = .ok [] := by
    rw [leftovers, if_pos consumed]
    rfl
  rw [resolve_of_filled append parsed (refused_eq_none (.inl rfl)) (accessors_singleBag name v) filled left]
  exact congrArg Except.ok (List.append_nil _)

/-- A value that no placeholder asks for is appended to an open query under the escaped name. -/
theorem resolve_open_query (plain : name.IsPlain) :
    resolve settings front (some (singleBag name v)) =
      .ok (front ++ pairText (Percent.encode name.octets) component) := by
  have parsed := parse_literal opens.literal
  have read : (singleBag name v).read (.entry 0) = .ok v := rfl
  have pair : leftover? settings (singleBag name v) ⟨name, .entry 0⟩ =
      .ok (some (pairText (Percent.encode name.octets) component)) := by
    unfold leftover?
    rw [read, ok_bind, present, Percent.encodeText_of_isPlain plain, rendered]
    rfl
  have left : leftovers settings (singleBag name v) [] [⟨name, .entry 0⟩] =
      .ok [pairText (Percent.encode name.octets) component] := by
    rw [leftovers, if_neg (by simp), pair]
    rfl
  have marker : front.contains (CodePoint.ofChar '?') = true := List.contains_iff_mem.mpr opens.marked
  obtain ⟨c, last, between⟩ := opens.ends
  have bare : separator true front = [] := by rw [separator_of_getLast? last, if_pos between]
  have whole : Template.tail ⟨[], front, none⟩ = front := List.append_nil front
  have marked : Template.hasQueryMarker ⟨[], front, none⟩ = true := marker
  rw [resolve_of_filled append parsed (refused_eq_none (.inl rfl)) (accessors_singleBag name v) rfl left, whole, marked,
    List.nil_append]
  unfold appendPairs
  rw [if_neg (by simp), bare]
  rfl

end Single

theorem pairText_inj {name other component : Text} : pairText name component = pairText other component ↔ name = other :=
  List.append_left_inj _

theorem opensQuery_path : OpensQuery "/s?" := ⟨by decide, by decide, _, rfl, .inl rfl⟩

/-- Whether a placeholder of the query asks for a value or it is left over, one pair shows it: under the name as the
template spells it, or under the escaped name. Names of unreserved characters, and no others, make the two alike. -/
theorem resolve_query_alike_iff {settings : Settings} {name component : Text} {v : Value}
    (append : settings.appendUnconsumed = true) (closed : Template.closeBrace ∉ name) (plain : name.IsPlain)
    (present : v.isAbsent = false) (rendered : v.component settings = .ok component) :
    resolve settings ("/s?" ++ placeholderText name) (some (singleBag name v)) =
        .ok ("/s?" ++ pairText name component) ∧
      resolve settings "/s?" (some (singleBag name v)) =
        .ok ("/s?" ++ pairText (Percent.encode name.octets) component) ∧
      (resolve settings ("/s?" ++ placeholderText name) (some (singleBag name v)) =
          resolve settings "/s?" (some (singleBag name v)) ↔
        ∀ c ∈ name, Percent.isUnreserved c = true) := by
  have asked := resolve_query_placeholder append opensQuery_path present rendered closed
  have left := resolve_open_query append opensQuery_path present rendered plain
  refine ⟨asked, left, ?_⟩
  rw [asked, left, Except.ok.injEq, List.append_cancel_left_eq, pairText_inj, eq_comm]
  exact Percent.encode_octets_eq_self_iff

/-- A name with a mark of each kind that needs no escape, and a value that is all delimiters. -/
theorem resolve_query_alike_iff_unreserved :
    let name : Text := "a.b-c_d~0"
    let v : Value := .text "&=#"
    Template.closeBrace ∉ name ∧ name.IsPlain ∧ v.isAbsent = false ∧ v.component {} = .ok "%26%3D%23" ∧
      resolve {} ("/s?" ++ placeholderText name) (some (singleBag name v)) = .ok "/s?a.b-c_d~0=%26%3D%23" ∧
      resolve {} "/s?" (some (singleBag name v)) = .ok "/s?a.b-c_d~0=%26%3D%23" := by
  intro name v
  have closed : Template.closeBrace ∉ name := by decide
  have plain : name.IsPlain := by decide
  have rendered : v.component {} = .ok "%26%3D%23" := by rfl
  obtain ⟨asked, left, alike⟩ := @resolve_query_alike_iff {} name _ v rfl closed plain rfl rendered
  have unreserved : ∀ c ∈ name, Percent.isUnreserved c = true := List.all_eq_true.mp (by decide)
  have same := alike.mpr unreserved
  have shown : Text.ofString "/s?" ++ pairText name "%26%3D%23" = "/s?a.b-c_d~0=%26%3D%23" := by rfl
  rw [shown] at asked
  exact ⟨closed, plain, rfl, rendered, asked, same.symm.trans asked⟩

/-- A name with a blank in it is written in two ways. -/
theorem resolve_query_unlike :
    let name : Text := "a b"
    let v : Value := .int 1
    Template.closeBrace ∉ name ∧ name.IsPlain ∧ v.isAbsent = false ∧ v.component {} = .ok "1" ∧
      resolve {} ("/s?" ++ placeholderText name) (some (singleBag name v)) = .ok "/s?a b=1" ∧
      resolve {} "/s?" (some (singleBag name v)) = .ok "/s?a%20b=1" ∧
      resolve {} ("/s?" ++ placeholderText name) (some (singleBag name v)) ≠
        resolve {} "/s?" (some (singleBag name v)) := by
  intro name v
  have asked : resolve {} ("/s?" ++ placeholderText name) (some (singleBag name v)) = .ok "/s?a b=1" := by rfl
  have left : resolve {} "/s?" (some (singleBag name v)) = .ok "/s?a%20b=1" := by rfl
  refine ⟨by decide, by decide, rfl, rfl, asked, left, ?_⟩
  rw [asked, left, Ne, Except.ok.injEq]
  decide

end RouteTemplate
