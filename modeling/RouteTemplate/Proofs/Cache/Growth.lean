import RouteTemplate.Proofs.Cache.Mappings
import RouteTemplate.Proofs.Cache.Transparency
import RouteTemplate.Proofs.Table
import RouteTemplate.Proofs.Value.KeyForm

set_option autoImplicit false

namespace RouteTemplate

namespace Trace

def isParsed : Trace → Bool
  | parsed _ _ => true
  | built _ _ => false

def isBuilt : Trace → Bool
  | parsed _ _ => false
  | built _ _ => true

end Trace

namespace Call

/-- The template that a call looks up. Without a bag a template is not looked up unless it is inspected or asked after.
-/
def template? : Call → Option Text
  | resolve text (some _) => some text
  | url text (some _) _ => some text
  | inspect text => some text
  | _ => none

def bag? : Call → Option Bag
  | resolve _ bag => bag
  | url _ bag _ => bag
  | names bag => some bag
  | _ => none

/-- Nothing can be entered for the bag of a call: there is none, the template is refused, the bag has no shape, or its
accessors cannot be built. -/
def EntersNoShape (settings : Settings) (c : Call) : Prop :=
  ∀ bag ∈ c.bag?, (∃ text ∈ c.template?, ∃ e, refused settings text (Template.parse text) = some e) ∨
    (∃ e, bag.shape = .error e) ∨ ∃ e, bag.accessors = .error e

end Call

theorem Shape.same_of_same {first second third : Shape} (left : first.same third = true)
    (right : second.same third = true) : first.same second = true := by
  cases third with
  | fixed type =>
    cases first with
    | named _ _ => cases left
    | fixed _ =>
      cases second with
      | named _ _ => cases right
      | fixed _ =>
        simp only [same, decide_eq_true_eq] at left right ⊢
        rw [left, right]
  | named type names =>
    cases first with
    | fixed _ => cases left
    | named _ _ =>
      cases second with
      | fixed _ => cases right
      | named _ _ =>
        simp only [same, Bool.and_eq_true, decide_eq_true_eq] at left right ⊢
        exact ⟨left.1.trans right.1.symm, Value.sameKeys_of_sameKeys left.2 right.2⟩

/-- Every template stands under its text, and no two entries have one key. -/
structure Caches.Orderly (caches : Caches) : Prop where
  parsed : caches.templates.Sound
  templates : (Table.keys caches.templates.entries).Nodup
  shapes : caches.shapes.entries.Pairwise fun first second => first.1.same second.1 = false

theorem Caches.empty_orderly : Caches.Orderly {} := ⟨TemplateCache.empty_sound, .nil, .nil⟩

section Lookups

theorem TemplateCache.getOrParse_cases (cache : TemplateCache) (text : Text) :
    (∃ template, Table.get? text cache.entries = some template ∧ cache.getOrParse text = (template, cache, [])) ∨
      text ∉ Table.keys cache.entries ∧
        cache.getOrParse text = (Template.parse text, ⟨cache.entries ++ [(text, Template.parse text)]⟩,
          [.parsed text (Template.parse text).placeholders.length]) := by
  cases stored : Table.get? text cache.entries with
  | some template => exact .inl ⟨template, rfl, by rw [getOrParse, stored]⟩
  | none => exact .inr ⟨Table.get?_eq_none_iff.mp stored, by rw [getOrParse, stored]⟩

/-- An entry is what a look-up of its text gives. -/
theorem TemplateCache.getOrParse_of_mem {cache : TemplateCache} (distinct : (Table.keys cache.entries).Nodup)
    {entry : Text × Template} (inside : entry ∈ cache.entries) : cache.getOrParse entry.1 = (entry.2, cache, []) := by
  rw [getOrParse, Table.get?_of_mem distinct inside]

/-- An entry is found under every shape that is one with its own. -/
theorem ShapeCache.get?_of_mem {cache : ShapeCache}
    (distinct : cache.entries.Pairwise fun first second => first.1.same second.1 = false) {entry : Shape × Accessors}
    (inside : entry ∈ cache.entries) {shape : Shape} (own : entry.1.same shape = true) :
    cache.get? shape = some entry.2 := by
  obtain ⟨front, rest, whole⟩ := List.append_of_mem inside
  rw [whole, List.pairwise_append] at distinct
  have passed : front.find? (fun other => other.1.same shape) = none := by
    rw [List.find?_eq_none]
    intro other ahead same
    have apart := distinct.2.2 other ahead entry List.mem_cons_self
    cases apart.symm.trans (Shape.same_of_same same own)
  simp only [get?, whole, List.find?_append, passed, Option.none_or, List.find?_cons, own, Option.map_some]

theorem ShapeCache.getOrBuild_of_mem {cache : ShapeCache}
    (distinct : cache.entries.Pairwise fun first second => first.1.same second.1 = false) {entry : Shape × Accessors}
    (inside : entry ∈ cache.entries) {bag : Bag} {shape : Shape} (known : bag.shape = .ok shape)
    (own : entry.1.same shape = true) : cache.getOrBuild bag = .ok (entry.2, cache, []) := by
  rw [getOrBuild, known, ok_bind, get?_of_mem distinct inside own]
  rfl

theorem ShapeCache.size_getOrBuild {cache shapes : ShapeCache} {bag : Bag} {accessors : Accessors} {traces : List Trace}
    (built : cache.getOrBuild bag = .ok (accessors, shapes, traces)) : shapes.size ≤ cache.size + 1 := by
  obtain ⟨_, _, ⟨_, rfl, _⟩ | ⟨_, _, rfl, _⟩⟩ := getOrBuild_ok built
  · exact Nat.le_succ _
  · simp [size]

/-- Where the accessors of a bag cannot be had, those of its shape may be stored, and nothing is entered. -/
theorem ShapeCache.getOrBuild_same {cache shapes : ShapeCache} {bag : Bag} {accessors : Accessors} {traces : List Trace}
    (failing : (∃ e, bag.shape = .error e) ∨ ∃ e, bag.accessors = .error e)
    (built : cache.getOrBuild bag = .ok (accessors, shapes, traces)) : shapes = cache := by
  obtain ⟨shape, known, ⟨_, same, _⟩ | ⟨_, own, _, _⟩⟩ := getOrBuild_ok built
  · exact same
  · rcases failing with ⟨e, unshaped⟩ | ⟨e, unbuilt⟩
    · cases known.symm.trans unshaped
    · cases own.symm.trans unbuilt

end Lookups

/-- What calls make of caches: entries are added behind those that are there, with a trace for each, and the templates
among them are those that were looked up. -/
structure Caches.Grown (before : Caches) (texts : List Text) (traces : List Trace) (after : Caches) : Prop where
  templates : ∃ added, after.templates.entries = before.templates.entries ++ added ∧
    traces.countP Trace.isParsed = added.length
  shapes : ∃ added, after.shapes.entries = before.shapes.entries ++ added ∧
    traces.countP Trace.isBuilt = added.length
  keys : ∀ text, text ∈ Table.keys after.templates.entries ↔ text ∈ Table.keys before.templates.entries ∨ text ∈ texts
  orderly : before.Orderly → after.Orderly

namespace Caches.Grown

theorem refl (caches : Caches) : caches.Grown [] [] caches :=
  ⟨⟨[], by simp⟩, ⟨[], by simp⟩, by simp, id⟩

theorem trans {first second third : Caches} {texts texts' : List Text} {traces traces' : List Trace}
    (early : first.Grown texts traces second) (late : second.Grown texts' traces' third) :
    first.Grown (texts ++ texts') (traces ++ traces') third := by
  obtain ⟨added, same, count⟩ := early.templates
  obtain ⟨added', same', count'⟩ := late.templates
  obtain ⟨shapes, sameShapes, countShapes⟩ := early.shapes
  obtain ⟨shapes', sameShapes', countShapes'⟩ := late.shapes
  refine ⟨⟨added ++ added', ?_, ?_⟩, ⟨shapes ++ shapes', ?_, ?_⟩, fun text => ?_, late.orderly ∘ early.orderly⟩
  · rw [same', same, List.append_assoc]
  · rw [List.countP_append, List.length_append, count, count']
  · rw [sameShapes', sameShapes, List.append_assoc]
  · rw [List.countP_append, List.length_append, countShapes, countShapes']
  · rw [late.keys, early.keys, List.mem_append, or_assoc]

/-- Looking a template up. -/
theorem parse (caches : Caches) (text : Text) :
    caches.Grown [text] (caches.templates.getOrParse text).2.2
      { caches with templates := (caches.templates.getOrParse text).2.1 } := by
  have sound (orderly : caches.Orderly) := TemplateCache.getOrParse_sound orderly.parsed text
  rcases caches.templates.getOrParse_cases text with ⟨template, stored, same⟩ | ⟨absent, same⟩
  · rw [same]
    have there : text ∈ Table.keys caches.templates.entries := by
      refine Classical.not_not.mp fun absent => ?_
      cases stored.symm.trans (Table.get?_eq_none_iff.mpr absent)
    refine ⟨⟨[], by simp⟩, ⟨[], by simp⟩, fun other => ?_, id⟩
    simp only [List.mem_singleton]
    exact ⟨.inl, fun asked => asked.elim id fun new => new ▸ there⟩
  · rw [same] at sound ⊢
    refine ⟨⟨_, rfl, rfl⟩, ⟨[], by simp [Trace.isBuilt]⟩, fun other => ?_,
      fun orderly => ⟨sound orderly, ?_, orderly.shapes⟩⟩
    · simp [Table.keys]
    · have apart (other : Text) (inside : other ∈ Table.keys caches.templates.entries) : other ≠ text := by
        rintro rfl
        exact absent inside
      have keys : Table.keys (caches.templates.entries ++ [(text, Template.parse text)]) =
          Table.keys caches.templates.entries ++ [text] := List.map_append
      rw [keys]
      exact List.nodup_append.mpr ⟨orderly.templates, by simp, by simpa using apart⟩

/-- Asking for accessors. -/
theorem build {caches : Caches} {bag : Bag} {accessors : Accessors} {shapes : ShapeCache} {traces : List Trace}
    (built : caches.shapes.getOrBuild bag = .ok (accessors, shapes, traces)) :
    caches.Grown [] traces { caches with shapes } := by
  obtain ⟨shape, known, ⟨_, rfl, rfl⟩ | ⟨absent, own, rfl, rfl⟩⟩ := ShapeCache.getOrBuild_ok built
  · exact refl caches
  · refine ⟨⟨[], by simp [Trace.isParsed]⟩, ⟨_, rfl, rfl⟩, by simp,
      fun orderly => ⟨orderly.parsed, orderly.templates, ?_⟩⟩
    refine List.pairwise_append.mpr ⟨orderly.shapes, List.pairwise_singleton _ _, fun entry inside other new => ?_⟩
    rw [List.mem_singleton.mp new]
    simpa using List.find?_eq_none.mp (Option.map_eq_none_iff.mp absent) entry inside

end Caches.Grown

theorem resolveCached_grown (settings : Settings) (caches : Caches) (text : Text) (bag : Bag) :
    let outcome := resolveCached settings caches text (some bag)
    caches.Grown [text] outcome.traces outcome.caches := by
  dsimp only
  have parsed := Caches.Grown.parse caches text
  rcases resolveCached_cases settings caches text bag with
    ⟨same, traces⟩ | ⟨_, accessors, shapes, traces, built, same, told⟩
  · rw [same, traces]
    exact parsed
  · have entered : Caches.Grown { caches with templates := (caches.templates.getOrParse text).2.1 } [] traces
        ⟨(caches.templates.getOrParse text).2.1, shapes⟩ := .build built
    rw [same, told]
    exact parsed.trans entered

theorem resolveCached_shapes_le (settings : Settings) {caches : Caches} (orderly : caches.Orderly)
    (text : Text) (bag : Bag) :
    let outcome := resolveCached settings caches text (some bag)
    outcome.caches.shapes.size ≤ caches.shapes.size + 1 ∧
      ((∃ e, refused settings text (Template.parse text) = some e) ∨ (∃ e, bag.shape = .error e) ∨
        (∃ e, bag.accessors = .error e) → outcome.caches.shapes = caches.shapes) := by
  dsimp only
  have parsed := TemplateCache.getOrParse_template orderly.parsed text
  rcases resolveCached_cases settings caches text bag with
    ⟨same, _⟩ | ⟨admitted, accessors, shapes, traces, built, same, _⟩
  · rw [same]
    exact ⟨Nat.le_succ _, fun _ => rfl⟩
  · rw [same]
    refine ⟨ShapeCache.size_getOrBuild built, fun failing => ?_⟩
    rcases failing with ⟨e, rejected⟩ | failing
    · rw [parsed, rejected] at admitted
      cases admitted
    · exact ShapeCache.getOrBuild_same failing built

namespace Call

/-- A call leaves its caches grown by the template that it looks up, and by nothing else but shapes. -/
theorem run_grown (settings : Settings) (caches : Caches) (c : Call) :
    let outcome := c.run settings caches
    caches.Grown c.template?.toList outcome.traces outcome.caches := by
  cases c with
  | resolve text bag =>
    cases bag with
    | none => exact .refl caches
    | some bag => exact resolveCached_grown settings caches text bag
  | url text bag base =>
    cases bag with
    | none => exact .refl caches
    | some bag => exact resolveCached_grown settings caches text bag
  | inspect text => exact .parse caches text
  | hasTemplate text => exact .refl caches
  | hasShape bag => exact .refl caches
  | names bag =>
    simp only [run]
    split
    · exact .refl caches
    · next accessors shapes traces built => exact .build built

/-- A call enters at most one shape, and none where it asks for no accessors that can be had. -/
theorem run_shapes (settings : Settings) {caches : Caches} (orderly : caches.Orderly) (c : Call) :
    let outcome := c.run settings caches
    outcome.caches.shapes.size ≤ caches.shapes.size + 1 ∧
      (c.EntersNoShape settings → outcome.caches.shapes = caches.shapes) := by
  cases c with
  | resolve text bag =>
    cases bag with
    | none => exact ⟨Nat.le_succ _, fun _ => rfl⟩
    | some bag =>
      obtain ⟨few, none⟩ := resolveCached_shapes_le settings orderly text bag
      exact ⟨few, fun failing => none (by simpa [EntersNoShape, bag?, template?] using failing)⟩
  | url text bag base =>
    cases bag with
    | none => exact ⟨Nat.le_succ _, fun _ => rfl⟩
    | some bag =>
      obtain ⟨few, none⟩ := resolveCached_shapes_le settings orderly text bag
      exact ⟨few, fun failing => none (by simpa [EntersNoShape, bag?, template?] using failing)⟩
  | inspect text => exact ⟨Nat.le_succ _, fun _ => rfl⟩
  | hasTemplate text => exact ⟨Nat.le_succ _, fun _ => rfl⟩
  | hasShape bag => exact ⟨Nat.le_succ _, fun _ => rfl⟩
  | names bag =>
    simp only [run]
    split
    · exact ⟨Nat.le_succ _, fun _ => rfl⟩
    · next accessors shapes traces built =>
      exact ⟨ShapeCache.size_getOrBuild built, fun failing =>
        ShapeCache.getOrBuild_same (by simpa [EntersNoShape, bag?, template?] using failing) built⟩

end Call

namespace Session

/-- Calls on resolvers that use the same two caches, each with settings of its own. -/
def sharing (calls : List (Settings × Call)) : List (ResolverSpec × Call) :=
  calls.map fun (settings, c) => (⟨settings, 0, 0⟩, c)

def shared (s : Session) : Caches := s.cachesOf ⟨{}, 0, 0⟩

def holding (caches : Caches) : Session := ⟨[], [caches.templates], [caches.shapes]⟩

theorem run_holding (caches : Caches) (calls : List (Settings × Call)) :
    let outcome := (holding caches).run (sharing calls)
    outcome.2 = holding outcome.2.shared ∧
      caches.Grown (calls.filterMap fun entry => entry.2.template?) (outcome.1.flatMap Step.traces) outcome.2.shared := by
  induction calls generalizing caches with
  | nil => exact ⟨rfl, .refl caches⟩
  | cons entry calls ih =>
    obtain ⟨settings, c⟩ := entry
    have first := Call.run_grown settings caches c
    obtain ⟨same, rest⟩ := ih (c.run settings caches).caches
    have asked : ((settings, c) :: calls).filterMap (fun entry => entry.2.template?) =
        c.template?.toList ++ calls.filterMap fun entry => entry.2.template? := by
      rw [List.filterMap_cons]
      cases c.template? <;> rfl
    refine ⟨same, ?_⟩
    rw [asked]
    exact first.trans rest

/-- In a run that begins with empty caches, whichever resolvers share them and whatever the calls ask for, no entry is
replaced or taken out, and each is what every later look-up of its key gives. The templates among the entries are those
that calls looked up, each once. A call enters at most one shape, and none where it asks for no accessors that can be
had. For every entry there is one trace. -/
theorem run_keeps_entries (first later : List (Settings × Call)) :
    let early := (empty [] 1 1).run (sharing first)
    let before := early.2.shared
    let after := (early.2.run (sharing later)).2.shared
    (before.templates.entries <+: after.templates.entries ∧ before.shapes.entries <+: after.shapes.entries) ∧
    (∀ entry ∈ before.templates.entries, after.templates.getOrParse entry.1 = (entry.2, after.templates, [])) ∧
    (∀ entry ∈ before.shapes.entries, ∀ bag shape, bag.shape = .ok shape → entry.1.same shape = true →
      after.shapes.getOrBuild bag = .ok (entry.2, after.shapes, [])) ∧
    (Table.keys before.templates.entries).Nodup ∧
    (∀ text, text ∈ Table.keys before.templates.entries ↔ ∃ call ∈ first, call.2.template? = some text) ∧
    (∀ settings c, let next := (early.2.run (sharing [(settings, c)])).2.shared.shapes
      next.size ≤ before.shapes.size + 1 ∧ (c.EntersNoShape settings → next = before.shapes)) ∧
    (early.1.flatMap Step.traces).countP Trace.isParsed = before.templates.size ∧
    (early.1.flatMap Step.traces).countP Trace.isBuilt = before.shapes.size := by
  intro early before after
  obtain ⟨held, grown⟩ := run_holding {} first
  have held : early.2 = holding before := held
  have grown : Caches.Grown {} (first.filterMap fun entry => entry.2.template?) (early.1.flatMap Step.traces) before :=
    grown
  have orderly := grown.orderly Caches.empty_orderly
  obtain ⟨_, further⟩ := run_holding before later
  rw [← held] at further
  have further : before.Grown _ _ after := further
  have later := further.orderly orderly
  obtain ⟨templates, moreTemplates, _⟩ := further.templates
  obtain ⟨shapes, moreShapes, _⟩ := further.shapes
  obtain ⟨parsed, allTemplates, toldTemplates⟩ := grown.templates
  obtain ⟨built, allShapes, toldShapes⟩ := grown.shapes
  refine ⟨⟨⟨templates, moreTemplates.symm⟩, ⟨shapes, moreShapes.symm⟩⟩, fun entry inside => ?_,
    fun entry inside bag shape known own => ?_, orderly.templates, fun text => ?_, fun settings c => ?_, ?_, ?_⟩
  · exact TemplateCache.getOrParse_of_mem later.templates (moreTemplates ▸ List.mem_append_left _ inside)
  · exact ShapeCache.getOrBuild_of_mem later.shapes (moreShapes ▸ List.mem_append_left _ inside) known own
  · rw [grown.keys, List.mem_filterMap]
    simp [Table.keys]
  · rw [held]
    exact Call.run_shapes settings orderly c
  · rw [toldTemplates, TemplateCache.size, allTemplates]
    rfl
  · rw [toldShapes, ShapeCache.size, allShapes]
    rfl

/-- Calls that fail in every place, and two mappings whose keys are one key though of two types. -/
theorem run_keeps_entries_failing_calls :
    let strict : Settings := { strictTemplates := true }
    let first : List (Settings × Call) :=
      [({}, .resolve "/a" none), (strict, .resolve "/b\x7b" (some (.mapping "dict" []))),
        ({}, .url "/a" (some (.plainValue (.int 3))) none), ({}, .inspect "/c"),
        ({}, .resolve "/a" (some (.mapping "dict" [(.thing "Obj" "no" true, .int 1)]))),
        ({}, .resolve "/\x7bx\x7d" (some (.mapping "dict" [(.int 1, .text "y")]))),
        ({}, .resolve "/a" (some (.mapping "dict" [(.bool true, .text "z")])))]
    let early := (empty [] 1 1).run (sharing first)
    Table.keys early.2.shared.templates.entries = ([("/b\x7b" : Text), "/a", "/c", "/\x7bx\x7d"] : List Text) ∧
      early.2.shared.shapes.size = 1 ∧
      (early.1.flatMap Step.traces).countP Trace.isParsed = 4 ∧ (early.1.flatMap Step.traces).countP Trace.isBuilt = 1 := by
  intro strict first early
  obtain ⟨_, _, _, _, _, _, parsed, built⟩ := run_keeps_entries first []
  have keys : Table.keys early.2.shared.templates.entries =
      ([("/b\x7b" : Text), "/a", "/c", "/\x7bx\x7d"] : List Text) := by decide +kernel
  have templates : early.2.shared.templates.size = 4 := by decide +kernel
  have shapes : early.2.shared.shapes.size = 1 := by decide +kernel
  exact ⟨keys, shapes, parsed.trans templates, built.trans shapes⟩

end Session

end RouteTemplate
