import RouteTemplate.Proofs.Bag.Shape
import RouteTemplate.Session

/-!
Caches change what is computed again and not what comes out. A cache is sound when it holds nothing but what its
keys settle; every call keeps its caches sound, and on sound caches it answers as it does on empty ones. So it does
in every run, whichever resolvers share which caches.
-/

set_option autoImplicit false

namespace RouteTemplate

/-- Every template stands under the text it was read from. -/
def TemplateCache.Sound (cache : TemplateCache) : Prop :=
  ∀ text template, Table.get? text cache.entries = some template → template = Template.parse text

/-- All accessors stand under the shape that they belong to. -/
def ShapeCache.Sound (cache : ShapeCache) : Prop :=
  ∀ entry ∈ cache.entries, entry.1.Textual ∧ entry.2 = Accessors.ofList entry.1.accessorList

/-- Both caches hold nothing but what their keys settle. -/
structure Caches.Sound (caches : Caches) : Prop where
  templates : caches.templates.Sound
  shapes : caches.shapes.Sound

theorem TemplateCache.empty_sound : TemplateCache.Sound {} := by
  intro text template found
  cases found

theorem ShapeCache.empty_sound : ShapeCache.Sound {} := by
  intro entry found
  cases found

theorem Caches.empty_sound : Caches.Sound {} := ⟨TemplateCache.empty_sound, ShapeCache.empty_sound⟩

theorem TemplateCache.getOrParse_template {cache : TemplateCache} (sound : cache.Sound) (text : Text) :
    (cache.getOrParse text).1 = Template.parse text := by
  unfold getOrParse
  split
  · next template found => exact sound text template found
  · rfl

theorem TemplateCache.getOrParse_sound {cache : TemplateCache} (sound : cache.Sound) (text : Text) :
    (cache.getOrParse text).2.1.Sound := by
  unfold getOrParse
  split
  · exact sound
  · intro other template found
    simp only [Table.get?_append, Option.or_eq_some_iff] at found
    rcases found with stored | ⟨_, added⟩
    · exact sound other template stored
    · simp only [Table.get?] at added
      split at added
      · next same =>
        cases added
        rw [same]
      · cases added

/-- What is stored under the shape of a regular bag are the accessors of that bag. -/
theorem ShapeCache.accessors_of_get? {cache : ShapeCache} (sound : cache.Sound) {bag : Bag} (regular : bag.Regular)
    {shape : Shape} (known : bag.shape = .ok shape) {accessors : Accessors}
    (stored : cache.get? shape = some accessors) : bag.accessors = .ok accessors := by
  obtain ⟨entry, found, rfl⟩ := Option.map_eq_some_iff.mp stored
  have same : entry.1.same shape = true := by simpa using List.find?_some found
  obtain ⟨textual, built⟩ := sound entry (List.mem_of_find?_eq_some found)
  have key : entry.1 = shape := Shape.eq_of_same textual (textual_of_shape regular known) same
  rw [built, key, accessors_of_shape regular known]

theorem ShapeCache.getOrBuild_accessors {cache : ShapeCache} (sound : cache.Sound) {bag : Bag}
    (regular : bag.Regular) : (cache.getOrBuild bag).map (·.1) = bag.accessors := by
  unfold getOrBuild
  cases known : bag.shape with
  | error e => rw [accessors_of_unshaped regular known]; rfl
  | ok shape =>
    cases stored : cache.get? shape with
    | some accessors =>
      rw [accessors_of_get? sound regular known stored]
      simp [bind, Except.bind, stored, pure, Except.pure, Except.map]
    | none =>
      rw [accessors_of_shape regular known]
      simp [bind, Except.bind, stored, pure, Except.pure, Except.map]

theorem ShapeCache.getOrBuild_sound {cache grown : ShapeCache} (sound : cache.Sound) {bag : Bag}
    (regular : bag.Regular) {accessors : Accessors} {traces : List Trace}
    (built : cache.getOrBuild bag = .ok (accessors, grown, traces)) : grown.Sound := by
  unfold getOrBuild at built
  cases known : bag.shape with
  | error e => simp [known, bind, Except.bind] at built
  | ok shape =>
    have own := accessors_of_shape regular known
    cases stored : cache.get? shape with
    | some accessors =>
      simp only [known, bind, Except.bind, stored, pure, Except.pure, Except.ok.injEq, Prod.mk.injEq] at built
      exact built.2.1 ▸ sound
    | none =>
      simp only [known, bind, Except.bind, stored, own, pure, Except.pure, Except.ok.injEq,
        Prod.mk.injEq] at built
      obtain ⟨-, rfl, -⟩ := built
      intro entry found
      rcases List.mem_append.mp found with old | new
      · exact sound entry old
      · rw [List.mem_singleton.mp new]
        exact ⟨textual_of_shape regular known, rfl⟩

/-- On sound caches a template resolves to what it resolves to without caches. -/
theorem resolveCached_result (settings : Settings) {caches : Caches} (sound : caches.Sound) (text : Text)
    {bag : Option Bag} (regular : ∀ b ∈ bag, b.Regular) :
    (resolveCached settings caches text bag).result = resolve settings text bag := by
  cases bag with
  | none => rfl
  | some bag =>
    have accessors := ShapeCache.getOrBuild_accessors sound.shapes (regular bag rfl)
    have template := TemplateCache.getOrParse_template sound.templates text
    simp only [resolveCached, resolve, template]
    cases refused settings text (Template.parse text) with
    | some e => rfl
    | none =>
      rw [← accessors]
      cases caches.shapes.getOrBuild bag <;> rfl

theorem resolveCached_sound (settings : Settings) {caches : Caches} (sound : caches.Sound) (text : Text)
    {bag : Option Bag} (regular : ∀ b ∈ bag, b.Regular) :
    (resolveCached settings caches text bag).caches.Sound := by
  cases bag with
  | none => exact sound
  | some bag =>
    have templates := TemplateCache.getOrParse_sound sound.templates text
    simp only [resolveCached]
    cases refused settings text (caches.templates.getOrParse text).1 with
    | some e => exact ⟨templates, sound.shapes⟩
    | none =>
      cases built : caches.shapes.getOrBuild bag with
      | error e => exact ⟨templates, sound.shapes⟩
      | ok entry =>
        obtain ⟨accessors, shapes, traces⟩ := entry
        exact ⟨templates, ShapeCache.getOrBuild_sound sound.shapes (regular bag rfl) built⟩

theorem resolveUrlCached_result (settings : Settings) {caches : Caches} (sound : caches.Sound) (text : Text)
    {bag : Option Bag} (regular : ∀ b ∈ bag, b.Regular) (base : Option Text) :
    (resolveUrlCached settings caches text bag base).result = resolveUrl settings text bag base := by
  simp only [resolveUrlCached, resolveUrl, resolveCached_result settings sound text regular]

/-- The calls that are answered with a route, a URL or a template, for regular bags. -/
def Call.Regular : Call → Prop
  | resolve _ bag => ∀ b ∈ bag, b.Regular
  | url _ bag _ => ∀ b ∈ bag, b.Regular
  | inspect _ => True
  | _ => False

/-- An answer without what it tells of the caches. -/
def Answer.content : Answer → Answer
  | template t _ => template t false
  | other => other

theorem Call.run_content (settings : Settings) {caches : Caches} (sound : caches.Sound) {c : Call}
    (regular : c.Regular) :
    (c.run settings caches).result.map Answer.content = (c.run settings {}).result.map Answer.content := by
  cases c with
  | resolve text bag =>
    simp only [run, resolveCached_result settings sound text regular,
      resolveCached_result settings Caches.empty_sound text regular]
  | url text bag base =>
    simp only [run, resolveUrlCached_result settings sound text regular,
      resolveUrlCached_result settings Caches.empty_sound text regular]
  | inspect text =>
    simp only [run, TemplateCache.getOrParse_template sound.templates,
      TemplateCache.getOrParse_template TemplateCache.empty_sound, Except.map, Answer.content]
  | hasTemplate text => exact regular.elim
  | hasShape bag => exact regular.elim
  | names bag => exact regular.elim

theorem Call.run_sound (settings : Settings) {caches : Caches} (sound : caches.Sound) {c : Call}
    (regular : c.Regular) : (c.run settings caches).caches.Sound := by
  cases c with
  | resolve text bag => exact resolveCached_sound settings sound text regular
  | url text bag base => exact resolveCached_sound settings sound text regular
  | inspect text => exact ⟨TemplateCache.getOrParse_sound sound.templates text, sound.shapes⟩
  | hasTemplate text => exact regular.elim
  | hasShape bag => exact regular.elim
  | names bag => exact regular.elim

namespace Session

def empty (resolvers : List ResolverSpec) (templateCaches shapeCaches : Nat) : Session :=
  ⟨resolvers, List.replicate templateCaches {}, List.replicate shapeCaches {}⟩

structure Sound (s : Session) : Prop where
  templates : ∀ cache ∈ s.templateCaches, cache.Sound
  shapes : ∀ cache ∈ s.shapeCaches, cache.Sound

theorem empty_sound (resolvers : List ResolverSpec) (templateCaches shapeCaches : Nat) :
    (empty resolvers templateCaches shapeCaches).Sound := by
  refine ⟨?_, ?_⟩
  · intro cache found
    rw [List.eq_of_mem_replicate found]
    exact TemplateCache.empty_sound
  · intro cache found
    rw [List.eq_of_mem_replicate found]
    exact ShapeCache.empty_sound

theorem cachesOf_sound {s : Session} (sound : s.Sound) (r : ResolverSpec) : (s.cachesOf r).Sound := by
  refine ⟨?_, ?_⟩
  · cases kept : s.templateCaches[r.templateCache]? with
    | none => simpa [cachesOf, kept] using TemplateCache.empty_sound
    | some cache => simpa [cachesOf, kept] using sound.templates cache (List.mem_of_getElem? kept)
  · cases kept : s.shapeCaches[r.shapeCache]? with
    | none => simpa [cachesOf, kept] using ShapeCache.empty_sound
    | some cache => simpa [cachesOf, kept] using sound.shapes cache (List.mem_of_getElem? kept)

theorem call_sound {s : Session} (sound : s.Sound) (r : ResolverSpec) {c : Call} (regular : c.Regular) :
    (s.call r c).2.Sound := by
  have kept := Call.run_sound r.settings (cachesOf_sound sound r) regular
  refine ⟨?_, ?_⟩
  · intro cache found
    rcases List.mem_or_eq_of_mem_set found with old | rfl
    · exact sound.templates cache old
    · exact kept.templates
  · intro cache found
    rcases List.mem_or_eq_of_mem_set found with old | rfl
    · exact sound.shapes cache old
    · exact kept.shapes

theorem run_content {s : Session} (sound : s.Sound) {calls : List (ResolverSpec × Call)}
    (regular : ∀ entry ∈ calls, entry.2.Regular) :
    (s.run calls).1.map (fun step => step.result.map Answer.content) =
      calls.map fun entry => (entry.2.run entry.1.settings {}).result.map Answer.content := by
  induction calls generalizing s with
  | nil => rfl
  | cons entry calls ih =>
    obtain ⟨r, c⟩ := entry
    have first : c.Regular := regular (r, c) (by simp)
    have rest := ih (call_sound sound r first) (fun other found => regular other (by simp [found]))
    have answer := Call.run_content r.settings (cachesOf_sound sound r) first
    simp only [run, List.map_cons, rest]
    rw [← answer]
    rfl

/-- Whichever resolvers use which caches, in a run that begins with empty caches every call answers, or fails, as it
does on empty caches of its own. -/
theorem run_answers_as_fresh (resolvers : List ResolverSpec) (templateCaches shapeCaches : Nat)
    (calls : List (ResolverSpec × Call)) (regular : ∀ entry ∈ calls, entry.2.Regular) :
    ((empty resolvers templateCaches shapeCaches).run calls).1.map (fun step => step.result.map Answer.content) =
      calls.map fun entry => (entry.2.run entry.1.settings {}).result.map Answer.content :=
  run_content (empty_sound resolvers templateCaches shapeCaches) regular

/-- A strict resolver that fails leaves a template behind, and two bags of one shape meet. -/
theorem run_answers_as_fresh_two_resolvers :
    let calls : List (ResolverSpec × Call) :=
      [(⟨{ strictTemplates := true }, 0, 0⟩,
          .resolve "/u/\x7bid\x7d\x7b" (some (.mapping "dict" [(.text "id", .int 1)]))),
        (⟨{}, 0, 0⟩, .resolve "/u/\x7bid\x7d\x7b" (some (.mapping "dict" [(.text "id", .int 2)]))),
        (⟨{}, 0, 0⟩, .resolve "/\x7bID\x7d" (some (.mapping "dict" [(.text "id", .text "a b")])))]
    (∀ entry ∈ calls, entry.2.Regular) ∧
      ((empty [] 1 1).run calls).1.map (fun step => step.result.map Answer.content) =
        [.error (.route (.malformed "/u/\x7bid\x7d\x7b" 7)), .ok (.route "/u/2\x7b"), .ok (.route "/a%20b")] := by
  intro calls
  have regular : ∀ entry ∈ calls, entry.2.Regular := by
    simp [calls, Call.Regular, Bag.Regular]
  refine ⟨regular, (run_answers_as_fresh [] 1 1 calls regular).trans ?_⟩
  rfl

end Session

end RouteTemplate
