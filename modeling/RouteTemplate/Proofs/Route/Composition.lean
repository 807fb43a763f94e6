import RouteTemplate.Proofs.Bag.Reading
import RouteTemplate.Proofs.Route.Parts
import RouteTemplate.Proofs.Template.Append

set_option autoImplicit false

namespace RouteTemplate

/-- The error told of another template, which only a missing value names. -/
def ResolveError.about (template : Text) : ResolveError → ResolveError
  | missing name _ => missing name template
  | e => e

theorem ResolveError.OfReading.about {e : ResolveError} (reading : e.OfReading) (template : Text) :
    e.about template = e := by
  rcases reading with ⟨owner, name, rfl⟩ | ⟨kind, message, rfl⟩
  · rfl
  · rfl

theorem about_of_component {settings : Settings} {v : Value} {e : ResolveError} (failed : v.component settings = .error e)
    (template : Text) : e.about template = e := by
  rcases Value.component_error failed with ⟨reason, rfl⟩ | ⟨run, rfl⟩
  · rfl
  · rfl

theorem about_of_entryAccessors {index : Nat} {entries : List (Value × Value)} {e : ResolveError}
    (failed : Bag.entryAccessors index entries = .error e) (template : Text) : e.about template = e := by
  induction entries generalizing index with
  | nil => cases failed
  | cons entry entries ih =>
    unfold Bag.entryAccessors at failed
    split at failed
    · cases failed
      rfl
    · exact ih (map_eq_error.mp failed)

theorem about_of_accessors {bag : Bag} {e : ResolveError} (failed : bag.accessors = .error e) (template : Text) :
    e.about template = e := by
  have unlisted : bag.accessorList = .error e := map_eq_error.mp failed
  unfold Bag.accessorList at unlisted
  split at unlisted
  · exact about_of_entryAccessors unlisted template
  all_goals cases unlisted <;> rfl

/-- A template with its placeholders filled, given the text that errors tell of and whether a query marker stands before
it. -/
def fillAll (settings : Settings) (accessors : Accessors) (bag : Bag) (text : Text) (marked : Bool) (t : Template) :
    Except ResolveError Text := do
  let filled ← substitute settings accessors bag text marked t.segments
  return filled ++ t.tail

section Filling

variable (settings : Settings) (accessors : Accessors) (bag : Bag) (text : Text)

theorem fill_about (other : Text) (kind : PlaceholderKind) (name : Text) :
    fill settings accessors bag text kind name =
      (fill settings accessors bag other kind name).mapError (ResolveError.about text) := by
  unfold fill
  cases accessors.find? name with
  | none => rfl
  | some a =>
    -- What reading and writing a value tell does not name the template.
    dsimp only
    rw [mapError_bind, mapError_eq_self fun e failed => (ofReading_read failed).about text]
    congr 1
    funext v
    cases v.isAbsent with
    | true => rfl
    | false =>
      simp only [Bool.false_eq_true, ↓reduceIte]
      rw [mapError_bind, mapError_eq_self fun e failed => about_of_component failed text]
      rfl

theorem substitute_about (other : Text) (marked : Bool) (segments : List Segment) :
    substitute settings accessors bag text marked segments =
      (substitute settings accessors bag other marked segments).mapError (ResolveError.about text) := by
  induction segments generalizing marked with
  | nil => rfl
  | cons s segments ih =>
    simp only [substitute, mapError_bind]
    rw [← fill_about, ← ih]
    rfl

theorem fillAll_about (other : Text) (marked : Bool) (t : Template) :
    fillAll settings accessors bag text marked t =
      (fillAll settings accessors bag other marked t).mapError (ResolveError.about text) := by
  simp only [fillAll, mapError_bind]
  rw [← substitute_about]
  rfl

theorem substitute_append (marked : Bool) (first second : List Segment) :
    substitute settings accessors bag text marked (first ++ second) = do
      let left ← substitute settings accessors bag text marked first
      let right ← substitute settings accessors bag text (marked || first.any fun s => s.gap.contains '?') second
      return left ++ right := by
  induction first generalizing marked with
  | nil => simp [substitute]
  | cons s first ih =>
    simp only [List.cons_append, substitute, ih, List.any_cons, bind_assoc, pure_bind, Bool.or_assoc, List.append_assoc]

theorem fillAll_behindSegments (marked : Bool) (segments : List Segment) (t : Template) :
    fillAll settings accessors bag text marked (t.behindSegments segments) = do
      let left ← substitute settings accessors bag text marked segments
      let right ← fillAll settings accessors bag text (marked || segments.any fun s => s.gap.contains '?') t
      return left ++ right := by
  simp only [fillAll, Template.behindSegments, substitute_append, bind_assoc, pure_bind, List.append_assoc]
  rfl

theorem fillAll_behindGap (marked : Bool) (gap : Text) (t : Template) :
    fillAll settings accessors bag text marked (t.behindGap gap) = do
      let right ← fillAll settings accessors bag text (marked || gap.contains '?') t
      return gap ++ right := by
  obtain ⟨segments, lastGap, dangling⟩ := t
  cases segments with
  | nil => exact congrArg Except.ok (List.append_assoc gap lastGap _)
  | cons s segments =>
    have passed : (gap ++ s.gap).contains (CodePoint.ofChar '?') =
        (gap.contains (CodePoint.ofChar '?') || s.gap.contains (CodePoint.ofChar '?')) := by
      simp only [List.contains_eq_any_beq, List.any_append]
    simp only [fillAll, Template.behindGap, substitute, passed, Bool.or_assoc, bind_assoc, pure_bind, List.append_assoc]
    rfl

theorem fillAll_append {first : Template} (closed : first.unterminated? = none) (marked : Bool) (second : Template) :
    fillAll settings accessors bag text marked (first.append second) = do
      let left ← fillAll settings accessors bag text marked first
      let right ← fillAll settings accessors bag text (marked || first.hasQueryMarker) second
      return left ++ right := by
  have tail := Template.tail_of_closed closed
  rw [Template.append, fillAll_behindSegments]
  simp only [fillAll_behindGap]
  simp only [fillAll, bind_assoc, pure_bind, tail, Template.hasQueryMarker, Bool.or_assoc, List.append_assoc]

end Filling

/-- Without strictness and with nothing appended, resolution fills the template. -/
theorem resolve_eq_fillAll {settings : Settings} (keep : settings.appendUnconsumed = false)
    (lenient : settings.strictTemplates = false) (text : Text) (bag : Bag) :
    resolve settings text (some bag) =
      bag.accessors >>= fun accessors => fillAll settings accessors bag text false (Template.parse text) := by
  have accepted : refused settings text (Template.parse text) = none := by simp [refused, lenient]
  unfold resolve
  dsimp only
  rw [accepted]
  simp only [resolveParsed, keep, Bool.false_eq_true, ↓reduceIte]
  rfl

/-- What opens the query for a template behind another: the query marker, if the other has one. -/
def Template.opening (t : Template) : Text := if t.hasQueryMarker then "?" else ""

theorem Template.contains_opening (t : Template) : t.opening.contains (CodePoint.ofChar '?') = t.hasQueryMarker := by
  unfold opening
  cases t.hasQueryMarker
  · rfl
  · rfl

theorem Template.openBrace_not_mem_opening (t : Template) : openBrace ∉ t.opening := by
  unfold opening
  cases t.hasQueryMarker
  · decide
  · decide

/-- A template behind the marker of another is filled as behind the other itself. -/
theorem fillAll_opening (settings : Settings) (accessors : Accessors) (bag : Bag) (text : Text) (t : Template)
    (second : Text) :
    fillAll settings accessors bag text false (Template.parse (t.opening ++ second)) = do
      let right ← fillAll settings accessors bag text t.hasQueryMarker (Template.parse second)
      return t.opening ++ right := by
  rw [Template.parse_gap_append t.openBrace_not_mem_opening, fillAll_behindGap, t.contains_opening, Bool.false_or]

/-- Two templates filled apart, each with errors that tell of a text of its own, are filled together up to these texts. -/
theorem fillAll_parse_append (settings : Settings) (accessors : Accessors) (bag : Bag) {first : Text}
    (closed : (Template.parse first).unterminated? = none) (second front : Text) :
    fillAll settings accessors bag (first ++ second) false (Template.parse (first ++ second)) =
      (do
        let left ← fillAll settings accessors bag first false (Template.parse first)
        let right ← fillAll settings accessors bag front (Template.parse first).hasQueryMarker (Template.parse second)
        return left ++ right).mapError (ResolveError.about (first ++ second)) := by
  simp only [mapError_bind, ← fillAll_about]
  rw [Template.parse_append closed, fillAll_append settings accessors bag _ closed, Bool.false_or]
  rfl

theorem fillAll_dangling (settings : Settings) (accessors : Accessors) (bag : Bag) (text : Text) (marked : Bool)
    {rest : Text} (unclosed : Template.closeBrace ∉ rest) :
    fillAll settings accessors bag text marked (Template.parse (Template.openBrace :: rest)) =
      .ok (Template.openBrace :: rest) := by
  have braced : Template.WellBraced ⟨[], [], some rest⟩ :=
    ⟨by simp, by simp, List.not_mem_nil, by simpa using unclosed⟩
  have read : Template.parse (Template.openBrace :: rest) = ⟨[], [], some rest⟩ := Template.parse_source braced
  rw [read]
  rfl

/-- A text that leaves no name open is resolved apart from what follows it, which is resolved behind a query marker if
the text has one, and copied if it only opens a name. What fails first is told, a missing value of the whole text. -/
theorem resolve_append {settings : Settings} (keep : settings.appendUnconsumed = false)
    (lenient : settings.strictTemplates = false) {first : Text}
    (closed : (Template.parse first).unterminated? = none) (bag : Bag) :
    (∀ second, ∃ rest : Except ResolveError Text,
      resolve settings ((Template.parse first).opening ++ second) (some bag) =
          rest.map ((Template.parse first).opening ++ ·) ∧
        resolve settings (first ++ second) (some bag) =
          (do
            let left ← resolve settings first (some bag)
            let right ← rest
            return left ++ right).mapError (ResolveError.about (first ++ second))) ∧
      ∀ dangling, Template.closeBrace ∉ dangling →
        resolve settings (first ++ Template.openBrace :: dangling) (some bag) =
          ((resolve settings first (some bag)).map (· ++ Template.openBrace :: dangling)).mapError
            (ResolveError.about (first ++ Template.openBrace :: dangling)) := by
  simp only [resolve_eq_fillAll keep lenient, fillAll_opening, map_eq_bind]
  cases listed : bag.accessors with
  | error e =>
    -- A bag without accessors stops all three resolutions before the template is looked at.
    have told (text : Text) : e.about text = e := about_of_accessors listed text
    refine ⟨fun second => ⟨.error e, rfl, ?_⟩, fun dangling _ => ?_⟩
    · exact congrArg Except.error (told _).symm
    · exact congrArg Except.error (told _).symm
  | ok accessors =>
    constructor
    · intro second
      exact ⟨fillAll settings accessors bag ((Template.parse first).opening ++ second)
        (Template.parse first).hasQueryMarker (Template.parse second), rfl,
        fillAll_parse_append settings accessors bag closed second _⟩
    · intro dangling unclosed
      have joined := fillAll_parse_append settings accessors bag closed (Template.openBrace :: dangling) []
      rw [fillAll_dangling settings accessors bag _ _ unclosed] at joined
      exact joined

/-- A front with a query marker, and behind it a placeholder and a brace that is never closed; without the value of the
placeholder, the error of the second part is told of the whole template. -/
theorem resolve_append_behind_marker :
    let settings : Settings := { appendUnconsumed := false }
    let first : Text := "/\x7bid\x7d?p=&"
    let second : Text := "\x7bq\x7d\x7br?"
    let dangling : Text := "r?"
    let bag (name : Text) : Bag := .mapping "dict" [(.text "ID", .int 7), (.text name, .text "a b")]
    (Template.parse first).unterminated? = none ∧
      resolve settings ("?" ++ second) (some (bag "Q")) = .ok "?q=a%20b\x7br?" ∧
      resolve settings (first ++ second) (some (bag "Q")) = .ok "/7?p=&q=a%20b\x7br?" ∧
      resolve settings ("?" ++ second) (some (bag "z")) = .error (.missing "q" ("?" ++ second)) ∧
      resolve settings (first ++ second) (some (bag "z")) = .error (.missing "q" (first ++ second)) ∧
      resolve settings (first ++ Template.openBrace :: dangling) (some (bag "z")) = .ok "/7?p=&\x7br?" := by
  intro settings first second dangling bag
  have closed : (Template.parse first).unterminated? = none := by rfl
  have found : resolve settings ("?" ++ second) (some (bag "Q")) = .ok "?q=a%20b\x7br?" := by rfl
  have lost : resolve settings ("?" ++ second) (some (bag "z")) = .error (.missing "q" ("?" ++ second)) := by rfl
  have keep : settings.appendUnconsumed = false := rfl
  have lenient : settings.strictTemplates = false := rfl
  have marked : (Template.parse first).opening = ("?" : Text) := by rfl
  refine ⟨closed, found, ?_, lost, ?_, ?_⟩
  · obtain ⟨rest, behind, whole⟩ := (resolve_append keep lenient closed (bag "Q")).1 second
    have front : resolve settings first (some (bag "Q")) = .ok "/7?p=&" := by rfl
    rw [marked, found] at behind
    cases rest with
    | error e => cases behind
    | ok right =>
      have same : right = "q=a%20b\x7br?" := List.append_cancel_left (Except.ok.inj behind).symm
      rw [whole, front, same]
      rfl
  · obtain ⟨rest, behind, whole⟩ := (resolve_append keep lenient closed (bag "z")).1 second
    have front : resolve settings first (some (bag "z")) = .ok "/7?p=&" := by rfl
    rw [marked, lost] at behind
    cases rest with
    | error e =>
      cases behind
      rw [whole, front]
      rfl
    | ok right => cases behind
  · have unclosed : Template.closeBrace ∉ dangling := by decide
    have front : resolve settings first (some (bag "z")) = .ok "/7?p=&" := by rfl
    rw [(resolve_append keep lenient closed (bag "z")).2 dangling unclosed, front]
    rfl

end RouteTemplate
