import RouteTemplate.Proofs.Route.Absent
import RouteTemplate.Proofs.Template.Braces
import RouteTemplate.Proofs.Template.Marker

set_option autoImplicit false

namespace RouteTemplate

/-- The name of a placeholder in another case, or the same name where the route shows it. -/
structure Placeholder.Respells (p q : Placeholder) : Prop where
  lower : p.name.lower = q.name.lower
  shown : p.kind = .query → p.name = q.name

namespace Template

/-- The same gaps with names in another case between them. -/
structure Respells (first second : Template) : Prop where
  gaps : first.segments.map Segment.gap = second.segments.map Segment.gap
  tail : first.tail = second.tail
  placeholders : List.Forall₂ Placeholder.Respells first.placeholders second.placeholders

/-- The text behind the last placeholder tells where a brace is left open. -/
theorem WellBraced.parse_tail {t : Template} (braced : t.WellBraced) : parse t.tail = ⟨[], t.lastGap, t.dangling⟩ := by
  have bare : WellBraced ⟨[], t.lastGap, t.dangling⟩ :=
    ⟨List.forall_mem_nil _, List.forall_mem_nil _, braced.lastGap, braced.dangling⟩
  exact parse_source bare

theorem lower_names_of_respells {ps qs : List Placeholder} (alike : List.Forall₂ Placeholder.Respells ps qs) :
    (ps.map Placeholder.name).map Text.lower = (qs.map Placeholder.name).map Text.lower := by
  induction alike with
  | nil => rfl
  | cons head _ ih => simp only [List.map_cons, head.lower, ih]

namespace Respells

variable {first second : Template} (alike : Respells first second)

include alike

theorem names : first.names.map Text.lower = second.names.map Text.lower := by
  rw [← map_name_placeholders, ← map_name_placeholders]
  exact lower_names_of_respells alike.placeholders

theorem lastGap_dangling (one : first.WellBraced) (two : second.WellBraced) :
    first.lastGap = second.lastGap ∧ first.dangling = second.dangling := by
  have same := one.parse_tail
  rw [alike.tail, two.parse_tail] at same
  injection same with _ gap dangling
  exact ⟨gap.symm, dangling.symm⟩

theorem hasQueryMarker (gap : first.lastGap = second.lastGap) : first.hasQueryMarker = second.hasQueryMarker := by
  have marked := congrArg (List.any · fun gap => gap.contains (CodePoint.ofChar '?')) alike.gaps
  simp only [List.any_map] at marked
  unfold Template.hasQueryMarker
  rw [gap]
  exact congrArg (· || _) marked

end Respells

end Template

/-- The first of several names that lacks a value stands at an index. -/
structure LacksAt (bag : Bag) (entries : List Accessor) (names : List Text) (index : Nat) (name : Text) : Prop where
  here : names[index]? = some name
  lacks : Lacks bag entries name
  before : ∀ other ∈ names.take index, ¬Lacks bag entries other

section Filling

variable {bag : Bag} {entries : List Accessor} {name other : Text}

theorem lacks_congr (lower : name.lower = other.lower) : Lacks bag entries name ↔ Lacks bag entries other := by
  unfold Lacks
  rw [lower]

theorem LacksAt.cons {names : List Text} {index : Nat} {later : Text} (present : ¬Lacks bag entries name)
    (behind : LacksAt bag entries names index later) : LacksAt bag entries (name :: names) (index + 1) later :=
  ⟨behind.here, behind.lacks, List.forall_mem_cons.mpr ⟨present, behind.before⟩⟩

/-- Where a name has a value, what it gives depends on how the name is spelled only as far as the route shows it. -/
theorem fill_respelled (settings : Settings) (first second : Text) {kind : PlaceholderKind}
    (lower : name.lower = other.lower) (shown : kind = .query → name = other) (present : ¬Lacks bag entries name) :
    (∃ piece, fill settings (.ofList entries) bag first kind name = .ok piece ∧
        fill settings (.ofList entries) bag second kind other = .ok piece) ∨
      ∃ e, (∀ template, e.about template = e) ∧ fill settings (.ofList entries) bag first kind name = .error e ∧
        fill settings (.ofList entries) bag second kind other = .error e := by
  obtain ⟨a, found, present⟩ := exists_find?_of_not_lacks present
  have again : (Accessors.ofList entries).find? other = some a := by
    rw [← found, Accessors.find?, Accessors.find?, lower]
  unfold fill
  rw [found, again]
  dsimp only
  cases read : bag.read a.reader with
  | error e => exact .inr ⟨e, (ofReading_read read).about, rfl, rfl⟩
  | ok v =>
    rw [ok_bind, ok_bind, isAbsent_of_read_ne read present]
    cases written : v.component settings with
    | error e => exact .inr ⟨e, about_of_component written, rfl, rfl⟩
    | ok component =>
      have same : placed kind other component = placed kind name component := by
        cases kind with
        | path => rfl
        | query => rw [shown rfl]
      exact .inl ⟨placed kind name component, rfl, congrArg Except.ok same⟩

/-- Two rows of segments with the same gaps are filled alike, or stop at the same index for want of a value, or fail in
the same way for another reason. -/
theorem substitute_respelled (settings : Settings) (first second : Text) (start offset : Nat) (marked : Bool)
    {ones twos : List Segment} (gaps : ones.map Segment.gap = twos.map Segment.gap)
    (alike : List.Forall₂ Placeholder.Respells (Template.placeholdersFrom start marked ones)
      (Template.placeholdersFrom offset marked twos)) :
    (∃ filled, substitute settings (.ofList entries) bag first marked ones = .ok filled ∧
        substitute settings (.ofList entries) bag second marked twos = .ok filled) ∨
      (∃ index name other, LacksAt bag entries (ones.map Segment.name) index name ∧
        LacksAt bag entries (twos.map Segment.name) index other ∧
        substitute settings (.ofList entries) bag first marked ones = .error (.missing name first) ∧
        substitute settings (.ofList entries) bag second marked twos = .error (.missing other second)) ∨
      ∃ e, (∀ template, e.about template = e) ∧
        substitute settings (.ofList entries) bag first marked ones = .error e ∧
        substitute settings (.ofList entries) bag second marked twos = .error e := by
  induction ones generalizing twos start offset marked with
  | nil =>
    cases twos with
    | nil => exact .inl ⟨[], rfl, rfl⟩
    | cons r twos => cases gaps
  | cons s ones ih =>
    cases twos with
    | nil => cases gaps
    | cons r twos =>
      obtain ⟨gap, gaps⟩ := List.cons.inj gaps
      rw [Template.placeholdersFrom, Template.placeholdersFrom, ← gap] at alike
      obtain ⟨head, alike⟩ := List.forall₂_cons.mp alike
      unfold substitute
      dsimp only
      rw [← gap]
      by_cases lacks : Lacks bag entries s.name
      · have lacksToo : Lacks bag entries r.name := (lacks_congr head.lower).mp lacks
        refine .inr (.inl ⟨0, s.name, r.name, ⟨rfl, lacks, by simp⟩, ⟨rfl, lacksToo, by simp⟩, ?_, ?_⟩)
        · rw [fill_of_lacks first _ lacks]
          rfl
        · rw [fill_of_lacks second _ lacksToo]
          rfl
      · have held : ¬Lacks bag entries r.name := fun lacksToo => lacks ((lacks_congr head.lower).mpr lacksToo)
        rcases fill_respelled settings first second head.lower head.shown lacks with
          ⟨piece, one, two⟩ | ⟨e, untold, one, two⟩
        · rw [one, two, ok_bind, ok_bind]
          -- The first placeholders are filled with the same piece, so the rest decides.
          rcases ih _ _ _ gaps alike with ⟨filled, one, two⟩ | ⟨index, name, other, here, there, one, two⟩ |
            ⟨e, untold, one, two⟩
          · refine .inl ⟨s.gap ++ (piece ++ filled), ?_, ?_⟩
            · rw [one]
              rfl
            · rw [two]
              rfl
          · refine .inr (.inl ⟨index + 1, name, other, here.cons lacks, there.cons held, ?_, ?_⟩)
            · rw [one]
              rfl
            · rw [two]
              rfl
          · refine .inr (.inr ⟨e, untold, ?_, ?_⟩)
            · rw [one]
              rfl
            · rw [two]
              rfl
        · refine .inr (.inr ⟨e, untold, ?_, ?_⟩)
          · rw [one]
            rfl
          · rw [two]
            rfl

end Filling

/-- How resolution of two templates fails alike: both are refused for a brace that is never closed, the same placeholder of
both is the first that lacks a value, or the error is one that tells of no template. -/
inductive FailAlike (bag : Bag) (first second : Text) : ResolveError → ResolveError → Prop
  | malformed {offset other : Nat} (here : (Template.parse first).unterminated? = some offset)
      (there : (Template.parse second).unterminated? = some other) :
      FailAlike bag first second (.malformed first offset) (.malformed second other)
  | missing {entries : List Accessor} {index : Nat} {name other : Text}
      (known : bag.accessors = .ok (.ofList entries))
      (here : LacksAt bag entries (Template.parse first).names index name)
      (there : LacksAt bag entries (Template.parse second).names index other) :
      FailAlike bag first second (.missing name first) (.missing other second)
  | untold {e : ResolveError} (same : ∀ template, e.about template = e) : FailAlike bag first second e e

/-- Strictness refuses both of two templates with the same dangling text, or neither. -/
theorem refused_alike (settings : Settings) (first second : Text) {t u : Template} (same : t.dangling = u.dangling) :
    (refused settings first t = none ∧ refused settings second u = none) ∨
      ∃ offset other, t.unterminated? = some offset ∧ u.unterminated? = some other ∧
        refused settings first t = some (.malformed first offset) ∧
        refused settings second u = some (.malformed second other) := by
  unfold refused Template.unterminated?
  rw [← same]
  cases settings.strictTemplates with
  | false => exact .inl ⟨rfl, rfl⟩
  | true =>
    cases t.dangling with
    | none => exact .inl ⟨rfl, rfl⟩
    | some text => exact .inr ⟨_, _, rfl, rfl, rfl, rfl⟩

/-- Once the accessors are known, both templates are filled alike and leave the same values over. -/
theorem resolveParsed_respelled (settings : Settings) {bag : Bag} {first second : Text} {entries : List Accessor}
    (alike : (Template.parse first).Respells (Template.parse second)) (known : bag.accessors = .ok (.ofList entries)) :
    let outcome (text : Text) := resolveParsed settings text (Template.parse text) (.ofList entries) bag
    (∃ route, outcome first = .ok route ∧ outcome second = .ok route) ∨
      ∃ e e', outcome first = .error e ∧ outcome second = .error e' ∧ FailAlike bag first second e e' := by
  intro outcome
  obtain ⟨gap, _⟩ := alike.lastGap_dangling (Template.wellBraced_parse first) (Template.wellBraced_parse second)
  simp only [outcome, resolveParsed]
  rw [alike.names, alike.hasQueryMarker gap, alike.tail]
  rcases substitute_respelled settings first second 0 0 false alike.gaps alike.placeholders with
    ⟨filled, one, two⟩ | ⟨index, name, other, here, there, one, two⟩ | ⟨e, untold, one, two⟩
  · rw [one, two, ok_bind]
    cases settings.appendUnconsumed with
    | false => exact .inl ⟨_, rfl, rfl⟩
    | true =>
      rw [if_pos rfl]
      cases left : leftovers settings bag ((Template.parse second).names.map Text.lower)
        (Accessors.ofList entries).toList with
      | error e => exact .inr ⟨e, e, rfl, rfl, .untold (about_of_leftovers left)⟩
      | ok pairs => exact .inl ⟨_, rfl, rfl⟩
  · rw [one, two]
    exact .inr ⟨_, _, rfl, rfl, .missing known here there⟩
  · rw [one, two]
    exact .inr ⟨e, e, rfl, rfl, .untold untold⟩

/-- Templates that differ at most in the case of names give the same route, names shown in the query being the same, or
both fail, and where it is for want of a value, at the same placeholder. -/
theorem resolve_respelled (settings : Settings) (bag : Bag) {first second : Text}
    (alike : (Template.parse first).Respells (Template.parse second)) :
    (∃ route, resolve settings first (some bag) = .ok route ∧ resolve settings second (some bag) = .ok route) ∨
      ∃ e e', resolve settings first (some bag) = .error e ∧ resolve settings second (some bag) = .error e' ∧
        FailAlike bag first second e e' := by
  obtain ⟨_, dangling⟩ := alike.lastGap_dangling (Template.wellBraced_parse first) (Template.wellBraced_parse second)
  unfold resolve
  dsimp only
  rcases refused_alike settings first second dangling with ⟨one, two⟩ | ⟨offset, other, here, there, one, two⟩
  · rw [one, two]
    dsimp only
    cases listed : bag.accessors with
    | error e => exact .inr ⟨e, e, rfl, rfl, .untold (about_of_accessors listed)⟩
    | ok accessors =>
      obtain ⟨entries, _, rfl⟩ := map_eq_ok.mp listed
      exact resolveParsed_respelled settings alike listed
  · rw [one, two]
    exact .inr ⟨_, _, rfl, rfl, .malformed here there⟩

/-- A name whose lower case is longer, with a placeholder of the query and an open brace behind it; without its value, each
template tells its own spelling. -/
theorem resolve_respelled_dotted :
    let first : Text := "/x/\x7b\u0130D\x7d?\x7bq\x7d&\x7bz"
    let second : Text := "/x/\x7bi\u0307d\x7d?\x7bq\x7d&\x7bz"
    let bag (name : Text) : Bag := .mapping "dict" [(.text "Q", .text "a b"), (.text name, .int 7), (.text "R", .bool true)]
    (Template.parse first).Respells (Template.parse second) ∧ first.length ≠ second.length ∧
      resolve {} first (some (bag "i\u0307d")) = .ok "/x/7?q=a%20b&\x7bz&R=true" ∧
      resolve {} second (some (bag "i\u0307d")) = .ok "/x/7?q=a%20b&\x7bz&R=true" ∧
      resolve {} first (some (bag "id")) = .error (.missing "\u0130D" first) ∧
      resolve {} second (some (bag "id")) = .error (.missing "i\u0307d" second) ∧
      FailAlike (bag "id") first second (.missing "\u0130D" first) (.missing "i\u0307d" second) := by
  intro first second bag
  have lower : Text.lower "\u0130D" = Text.lower "i\u0307d" := by decide +kernel
  have alike : (Template.parse first).Respells (Template.parse second) := by
    have one : Template.parse first = ⟨[⟨"/x/", "\u0130D"⟩, ⟨"?", "q"⟩], "&", some "z"⟩ := by rfl
    have two : Template.parse second = ⟨[⟨"/x/", "i\u0307d"⟩, ⟨"?", "q"⟩], "&", some "z"⟩ := by rfl
    rw [one, two]
    exact ⟨rfl, rfl, .cons ⟨lower, fun shown => by cases shown⟩ (.cons ⟨rfl, fun _ => rfl⟩ .nil)⟩
  have done : resolve {} first (some (bag "i\u0307d")) = .ok "/x/7?q=a%20b&\x7bz&R=true" := by rfl
  have lost : resolve {} first (some (bag "id")) = .error (.missing "\u0130D" first) := by rfl
  have lostToo : resolve {} second (some (bag "id")) = .error (.missing "i\u0307d" second) := by rfl
  refine ⟨alike, by decide, done, ?_, lost, lostToo, ?_⟩
  · rcases resolve_respelled {} (bag "i\u0307d") alike with ⟨route, one, two⟩ | ⟨e, _, one, _⟩
    · rw [two, ← one, done]
    · cases done.symm.trans one
  · rcases resolve_respelled {} (bag "id") alike with ⟨route, one, _⟩ | ⟨e, e', one, two, failed⟩
    · cases lost.symm.trans one
    · cases lost.symm.trans one
      cases lostToo.symm.trans two
      exact failed

end RouteTemplate
