import RouteTemplate.Cache
import RouteTemplate.Proofs.Except

/-!
What one call leaves in the caches for the next. A cache only grows, and an entry that a call adds is met by a later
call on a bag of the same shape alone, so the first changes the result of the second only where bags of one shape
have other accessors. Mappings have where two of their keys are one key and yet spelled differently, as a number and
a truth value may be. Where keys are spelled alike nothing of the first call can be seen, and where they are not the
second mapping goes by the names of the first.
-/

set_option autoImplicit false

namespace RouteTemplate

theorem TemplateCache.getOrParse_grown (cache : TemplateCache) (first second : Text) :
    ((cache.getOrParse first).2.1.getOrParse second).1 = (cache.getOrParse second).1 := by
  cases stored : Table.get? first cache.entries with
  | some template =>
    have same : (cache.getOrParse first).2.1 = cache := by rw [getOrParse, stored]
    rw [same]
  | none =>
    have grown : (cache.getOrParse first).2.1 = ⟨cache.entries ++ [(first, Template.parse first)]⟩ := by
      rw [getOrParse, stored]
    rw [grown]
    unfold getOrParse
    rw [Table.get?_append]
    cases Table.get? second cache.entries with
    | some template => rfl
    | none =>
      by_cases same : first = second
      · simp [Table.get?, same]
      · simp [Table.get?, same]

namespace ShapeCache

/-- The accessors that the cache gives for a bag, stored ones or those of the bag itself. -/
def accessorsFor (cache : ShapeCache) (bag : Bag) : Except ResolveError Accessors :=
  (cache.getOrBuild bag).map (·.1)

theorem accessorsFor_eq (cache : ShapeCache) {bag : Bag} {shape : Shape} (known : bag.shape = .ok shape) :
    cache.accessorsFor bag = ((cache.get? shape).map Except.ok).getD bag.accessors := by
  unfold accessorsFor getOrBuild
  rw [known, ok_bind]
  cases stored : cache.get? shape with
  | some accessors => rfl
  | none => cases bag.accessors <;> rfl

theorem accessorsFor_empty {bag : Bag} {shape : Shape} (known : bag.shape = .ok shape) :
    ({} : ShapeCache).accessorsFor bag = bag.accessors := by
  rw [accessorsFor_eq _ known]
  rfl

theorem get?_append_entry (cache : ShapeCache) (shape other : Shape) (accessors : Accessors) :
    (⟨cache.entries ++ [(shape, accessors)]⟩ : ShapeCache).get? other =
      (cache.get? other).or (if shape.same other then some accessors else none) := by
  unfold get?
  rw [List.find?_append]
  cases cache.entries.find? fun entry => entry.1.same other with
  | some entry => rfl
  | none =>
    cases same : shape.same other with
    | true => simp [same]
    | false => simp [same]

/-- The accessors were stored, or they are those of the bag and the cache has grown by them. -/
theorem getOrBuild_ok {cache grown : ShapeCache} {bag : Bag} {accessors : Accessors} {traces : List Trace}
    (built : cache.getOrBuild bag = .ok (accessors, grown, traces)) :
    ∃ shape, bag.shape = .ok shape ∧
      (cache.get? shape = some accessors ∧ grown = cache ∧ traces = [] ∨
        cache.get? shape = none ∧ bag.accessors = .ok accessors ∧
          grown = ⟨cache.entries ++ [(shape, accessors)]⟩ ∧ traces = [.built bag.typeName accessors.names]) := by
  obtain ⟨shape, known, built⟩ := bind_eq_ok.mp built
  refine ⟨shape, known, ?_⟩
  split at built
  · next stored found =>
    cases built
    exact .inl ⟨found, rfl, rfl⟩
  · next found =>
    obtain ⟨own, made, built⟩ := bind_eq_ok.mp built
    cases built
    exact .inr ⟨found, made, rfl, rfl⟩

end ShapeCache

/-- Two bags have the same accessors if they are of one shape. -/
def Bag.Agree (first second : Bag) : Prop :=
  ∀ shape other, first.shape = .ok shape → second.shape = .ok other → shape.same other = true →
    first.accessors = second.accessors

theorem ShapeCache.accessorsFor_grown {cache grown : ShapeCache} {first second : Bag} (agree : first.Agree second)
    {accessors : Accessors} {traces : List Trace} (built : cache.getOrBuild first = .ok (accessors, grown, traces)) :
    grown.accessorsFor second = cache.accessorsFor second := by
  obtain ⟨shape, known, ⟨_, rfl, _⟩ | ⟨_, own, rfl, _⟩⟩ := getOrBuild_ok built
  · rfl
  · cases other : second.shape with
    | error e =>
      unfold accessorsFor getOrBuild
      rw [other]
      rfl
    | ok other' =>
      rw [accessorsFor_eq _ other, accessorsFor_eq _ other, get?_append_entry]
      cases cache.get? other' with
      | some stored => rfl
      | none =>
        rw [Option.none_or]
        split
        · next same => exact own.symm.trans (agree shape other' known other same)
        · rfl

section Calls

variable (settings : Settings) (caches : Caches)

/-- What a call results in, by the template and the accessors that the caches give. -/
theorem resolveCached_result_eq (text : Text) (bag : Bag) :
    (resolveCached settings caches text (some bag)).result =
      match refused settings text (caches.templates.getOrParse text).1 with
      | some e => .error e
      | none => caches.shapes.accessorsFor bag >>= fun accessors =>
          resolveParsed settings text (caches.templates.getOrParse text).1 accessors bag := by
  unfold resolveCached ShapeCache.accessorsFor
  dsimp only
  cases refused settings text (caches.templates.getOrParse text).1 with
  | some e => rfl
  | none => cases caches.shapes.getOrBuild bag <;> rfl

/-- The template of a call was looked up, and its accessors were asked for unless the template is refused. -/
theorem resolveCached_cases (text : Text) (bag : Bag) :
    let parsed := caches.templates.getOrParse text
    let outcome := resolveCached settings caches text (some bag)
    (outcome.caches = { caches with templates := parsed.2.1 } ∧ outcome.traces = parsed.2.2) ∨
      refused settings text parsed.1 = none ∧ ∃ accessors shapes traces,
        caches.shapes.getOrBuild bag = .ok (accessors, shapes, traces) ∧
          outcome.caches = ⟨parsed.2.1, shapes⟩ ∧ outcome.traces = parsed.2.2 ++ traces := by
  unfold resolveCached
  dsimp only
  cases admitted : refused settings text (caches.templates.getOrParse text).1 with
  | some e => exact .inl ⟨rfl, rfl⟩
  | none =>
    cases built : caches.shapes.getOrBuild bag with
    | error e => exact .inl ⟨rfl, rfl⟩
    | ok entry => exact .inr ⟨rfl, entry.1, entry.2.1, entry.2.2, rfl, rfl, rfl⟩

theorem resolveCached_templates (text : Text) (bag : Bag) :
    (resolveCached settings caches text (some bag)).caches.templates = (caches.templates.getOrParse text).2.1 := by
  rcases resolveCached_cases settings caches text bag with ⟨same, _⟩ | ⟨_, _, _, _, _, same, _⟩ <;> rw [same]

/-- A call leaves the shapes as they were, or with the entry of its bag. -/
theorem resolveCached_shapes (text : Text) (bag : Bag) :
    let after := (resolveCached settings caches text (some bag)).caches.shapes
    after = caches.shapes ∨ ∃ accessors traces, caches.shapes.getOrBuild bag = .ok (accessors, after, traces) := by
  dsimp only
  rcases resolveCached_cases settings caches text bag with ⟨same, _⟩ | ⟨_, accessors, shapes, traces, built, same, _⟩
  · exact .inl (by rw [same])
  · exact .inr ⟨accessors, traces, by rw [same]; exact built⟩

variable {first second : Bag} (agree : first.Agree second)

include agree

theorem accessorsFor_after (text : Text) :
    (resolveCached settings caches text (some first)).caches.shapes.accessorsFor second =
      caches.shapes.accessorsFor second := by
  rcases resolveCached_shapes settings caches text first with same | ⟨_, _, built⟩
  · rw [same]
  · exact ShapeCache.accessorsFor_grown agree built

theorem resolveCached_after (text next : Text) :
    (resolveCached settings (resolveCached settings caches text (some first)).caches next (some second)).result =
      (resolveCached settings caches next (some second)).result := by
  rw [resolveCached_result_eq, resolveCached_result_eq, resolveCached_templates, TemplateCache.getOrParse_grown,
    accessorsFor_after settings caches agree]

end Calls

section Fresh

variable (settings : Settings) {text : Text} (admitted : refused settings text (Template.parse text) = none)
  {first second : Bag} {shape other : Shape} {own : Accessors} (known : first.shape = .ok shape)
  (built : first.accessors = .ok own)

include admitted known built

/-- The first call of all, unless it is refused, leaves the accessors of its bag under the shape of the bag. -/
theorem shapes_after_first : (resolveCached settings {} text (some first)).caches.shapes = ⟨[(shape, own)]⟩ := by
  have entered : ({} : ShapeCache).getOrBuild first = .ok (own, ⟨[(shape, own)]⟩, [.built first.typeName own.names]) := by
    unfold ShapeCache.getOrBuild
    rw [known, ok_bind, built]
    rfl
  have parsed : (TemplateCache.getOrParse {} text).1 = Template.parse text := rfl
  unfold resolveCached
  dsimp only
  rw [parsed, admitted]
  dsimp only
  rw [entered]

/-- After the first call of all, a bag of the same shape goes by the accessors of the first bag. -/
theorem accessorsFor_after_first (met : second.shape = .ok other) (same : shape.same other = true) :
    (resolveCached settings {} text (some first)).caches.shapes.accessorsFor second = .ok own := by
  rw [shapes_after_first settings admitted known built, ShapeCache.accessorsFor_eq _ met]
  simp only [ShapeCache.get?, List.find?_cons, same, Option.map_some, Option.getD_some]

end Fresh

/-- Keys that are pairwise one key are spelled alike too. -/
def SpelledAlike (first second : List Value) : Prop :=
  Value.sameKey.sameKeys first second = true → first.map Value.plain = second.map Value.plain

theorem entryAccessors_congr {first second : List (Value × Value)}
    (spelled : first.map (fun entry => entry.1.plain) = second.map fun entry => entry.1.plain) (index : Nat) :
    Bag.entryAccessors index first = Bag.entryAccessors index second := by
  induction first generalizing second index with
  | nil =>
    cases second with
    | nil => rfl
    | cons entry second => cases spelled
  | cons entry first ih =>
    cases second with
    | nil => cases spelled
    | cons other second =>
      obtain ⟨key, value⟩ := entry
      obtain ⟨key', value'⟩ := other
      obtain ⟨head, tail⟩ := List.cons.inj spelled
      have same : key.plain = key'.plain := head
      rw [Bag.entryAccessors, Bag.entryAccessors, same, ih tail]

/-- The names of a mapping are its keys as they are spelled. -/
theorem names_of_entryAccessors {entries : List (Value × Value)} {index : Nat} {accessors : List Accessor}
    (built : Bag.entryAccessors index entries = .ok accessors) :
    entries.map (fun entry => entry.1.plain) = accessors.map fun a => .ok a.name := by
  induction entries generalizing index accessors with
  | nil =>
    cases built
    rfl
  | cons entry entries ih =>
    obtain ⟨key, value⟩ := entry
    rw [Bag.entryAccessors] at built
    split at built
    · cases built
    · next name spelled =>
      obtain ⟨rest, later, rfl⟩ := map_eq_ok.mp built
      rw [List.map_cons, List.map_cons, ih later]
      exact congrArg (· :: _) spelled

theorem names_of_accessors {type : Text} {entries : List (Value × Value)} {accessors : Accessors}
    (known : (Bag.mapping type entries).accessors = .ok accessors) :
    entries.map (fun entry => entry.1.plain) = accessors.names.map .ok := by
  obtain ⟨list, built, rfl⟩ := map_eq_ok.mp known
  rw [names_of_entryAccessors built, Accessors.names, List.map_map]
  rfl

section Mappings

variable {type : Text} {first second : List (Value × Value)}

theorem agree_of_spelledAlike (alike : SpelledAlike (first.map (·.1)) (second.map (·.1))) :
    (Bag.mapping type first).Agree (.mapping type second) := by
  intro shape other one two same
  cases one
  cases two
  have keys : Value.sameKey.sameKeys (first.map (·.1)) (second.map (·.1)) = true := by
    simpa [Shape.same] using same
  have spelled := alike keys
  rw [List.map_map, List.map_map] at spelled
  exact congrArg (Except.map Accessors.ofList) (entryAccessors_congr spelled 0)

/-- After a call on one mapping, another goes by its own names exactly if equal keys of the two are spelled alike. -/
theorem names_after_mapping_iff (settings : Settings) {text : Text}
    (admitted : refused settings text (Template.parse text) = none) {own other : Accessors}
    (built : (Bag.mapping type first).accessors = .ok other) (known : (Bag.mapping type second).accessors = .ok own) :
    let after := (resolveCached settings {} text (some (.mapping type first))).caches.shapes
    (after.accessorsFor (.mapping type second)).map Accessors.names = .ok own.names ↔
      SpelledAlike (first.map (·.1)) (second.map (·.1)) := by
  dsimp only
  constructor
  · intro named keys
    have met : (Shape.named (.mapping type) (first.map (·.1))).same (.named (.mapping type) (second.map (·.1))) = true := by
      simp [Shape.same, keys]
    rw [accessorsFor_after_first settings admitted rfl built rfl met] at named
    have names : other.names = own.names := Except.ok.inj named
    rw [List.map_map, List.map_map]
    exact (names_of_accessors built).trans (names ▸ (names_of_accessors known).symm)
  · intro alike
    rw [accessorsFor_after settings {} (agree_of_spelledAlike alike), ShapeCache.accessorsFor_empty rfl, known]
    rfl

/-- A mapping is resolved as though no other had been before it, if the keys of the two that are pairwise one key are
spelled alike. On a resolver that knows no shape yet it goes by its own keys. -/
theorem resolveCached_after_mapping (alike : SpelledAlike (first.map (·.1)) (second.map (·.1))) (settings : Settings)
    (caches : Caches) (text next : Text) :
    let after := (resolveCached settings caches text (some (.mapping type first))).caches
    (resolveCached settings after next (some (.mapping type second))).result =
        (resolveCached settings caches next (some (.mapping type second))).result ∧
      (caches.shapes.entries = [] → ∀ accessors, after.shapes.accessorsFor (.mapping type second) = .ok accessors →
        second.map (fun entry => entry.1.plain) = accessors.names.map .ok) := by
  have agree : (Bag.mapping type first).Agree (.mapping type second) := agree_of_spelledAlike alike
  refine ⟨resolveCached_after settings caches agree text next, fun empty accessors known => ?_⟩
  have fresh : caches.shapes = {} := congrArg ShapeCache.mk empty
  rw [accessorsFor_after settings caches agree, fresh, ShapeCache.accessorsFor_empty rfl] at known
  exact names_of_accessors known

/-- Equal keys of several types, all spelled alike, on a resolver that has met the first mapping. -/
theorem resolveCached_after_mapping_mixed_keys :
    let first : List (Value × Value) := [(.int 1, .text "x"), (.absent, .text "y"), (.text "a", .int 2)]
    let second : List (Value × Value) := [(.int 1, .text "u"), (.absent, .absent), (.text "a", .text "/")]
    let after := (resolveCached {} {} "/\x7ba\x7d" (some (.mapping "dict" first))).caches
    SpelledAlike (first.map (·.1)) (second.map (·.1)) ∧
      (resolveCached {} after "/\x7bA\x7d" (some (.mapping "dict" second))).result = .ok "/%2F?1=u" := by
  intro first second after
  have alike : SpelledAlike (first.map (·.1)) (second.map (·.1)) := fun _ => rfl
  refine ⟨alike, ((resolveCached_after_mapping alike {} {} "/\x7ba\x7d" "/\x7bA\x7d").1).trans ?_⟩
  rfl

/-- A number and a truth value are one key, so a mapping under the one makes a mapping under the other go by its name.
-/
theorem resolveCached_after_mapping_misspelled :
    let first : Bag := .mapping "dict" [(.int 1, .text "x")]
    let second : Bag := .mapping "dict" [(.bool true, .text "y")]
    let after := (resolveCached {} {} "/a" (some first)).caches
    (resolveCached {} {} "/a" (some second)).result = .ok "/a?True=y" ∧
      (resolveCached {} after "/a" (some second)).result = .ok "/a?1=y" := by
  exact ⟨rfl, rfl⟩

end Mappings

end RouteTemplate
