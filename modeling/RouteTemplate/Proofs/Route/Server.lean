import RouteTemplate.Proofs.Route.Separator
import RouteTemplate.Proofs.Url.Join
import RouteTemplate.RouteUrl

/-!
Whose server a route is asked of. A template that starts with one slash gives a route that is rooted on the server of
the base, whatever the values, but where its first slash meets another: every placeholder between the two has an empty
value, and what stands behind the two slashes is then read as a server of its own.
-/

set_option autoImplicit false

namespace RouteTemplate

open Percent (isComponentPoint)
open Url (Rooted)

variable {settings : Settings} {accessors : Accessors} {bag : Bag} {text filled : Text} {segments : List Segment}

/-- The value of a name is rendered as nothing. -/
def RendersEmpty (settings : Settings) (accessors : Accessors) (bag : Bag) (name : Text) : Prop :=
  ∃ a v, accessors.find? name = some a ∧ bag.read a.reader = .ok v ∧ v.rendered settings = .ok []

/-- Placeholders with empty values lead to a slash, with nothing else in between. -/
def EmptyToSlash (settings : Settings) (accessors : Accessors) (bag : Bag) : List Segment → (tail : Text) → Prop
  | [], tail => tail.head? = some (CodePoint.ofChar '/')
  | s :: segments, tail =>
    match s.gap with
    | [] => RendersEmpty settings accessors bag s.name ∧ EmptyToSlash settings accessors bag segments tail
    | c :: _ => c = CodePoint.ofChar '/'

/-- The first slash of a template meets another one across placeholders with empty values. -/
def SlashesMeet (settings : Settings) (text : Text) (bag : Bag) : Prop :=
  ∃ accessors s segments, bag.accessors = .ok accessors ∧ (Template.parse text).segments = s :: segments ∧
    s.gap = [CodePoint.ofChar '/'] ∧
    EmptyToSlash settings accessors bag (⟨[], s.name⟩ :: segments) (Template.parse text).tail

theorem rendersEmpty_of_component {name : Text} {a : Accessor} {v : Value} (found : accessors.find? name = some a)
    (read : bag.read a.reader = .ok v) (written : v.component settings = .ok []) :
    RendersEmpty settings accessors bag name := by
  obtain ⟨octets, rendered, empty⟩ := Value.component_ok written
  refine ⟨a, v, found, read, ?_⟩
  rw [rendered, Classical.not_not.mp (mt Percent.encode_ne_nil (not_not_intro empty.symm))]

theorem component_of_rendersEmpty {name : Text} {a : Accessor} {v : Value} {component : Text}
    (found : accessors.find? name = some a) (read : bag.read a.reader = .ok v)
    (written : v.component settings = .ok component) (empty : RendersEmpty settings accessors bag name) :
    component = [] := by
  obtain ⟨a', v', found', read', rendered⟩ := empty
  cases found.symm.trans found'
  cases read.symm.trans read'
  obtain ⟨octets, other, rfl⟩ := Value.component_ok written
  cases rendered.symm.trans other
  rfl

/-- Before the query marker a slash comes first where empty values lead to one, and only there. -/
theorem head?_slash_iff {tail : Text} (done : substitute settings accessors bag text false segments = .ok filled) :
    (filled ++ tail).head? = some (CodePoint.ofChar '/') ↔ EmptyToSlash settings accessors bag segments tail := by
  induction segments generalizing filled with
  | nil =>
    cases done
    exact Iff.rfl
  | cons s segments ih =>
    obtain ⟨piece, rest, first, second, rfl⟩ := substitute_cons_ok done
    unfold EmptyToSlash
    split
    · next bare =>
      rw [bare] at first second ⊢
      obtain ⟨a, v, component, found, read, _, written, placed⟩ := fill_ok first
      have same : piece = component := placed
      rw [same]
      cases component with
      | nil =>
        have empty := rendersEmpty_of_component found read written
        exact (ih second).trans ⟨fun later => ⟨empty, later⟩, And.right⟩
      | cons c component =>
        constructor
        · intro slash
          have point := Value.component_points written c List.mem_cons_self
          rw [Option.some.inj slash] at point
          exact absurd point (by decide)
        · rintro ⟨empty, _⟩
          cases component_of_rendersEmpty found read written empty
    · next c gap shape =>
      rw [shape]
      exact Option.some_inj

theorem mem_separator {marked : Bool} {route : Text} {c : CodePoint} (inside : c ∈ separator marked route) :
    c ∈ Text.ofString "?&=" := by
  have question : Text.ofString "?" ⊆ Text.ofString "?&=" := by decide
  have ampersand : Text.ofString "&" ⊆ Text.ofString "?&=" := by decide
  unfold separator at inside
  split at inside
  · exact question inside
  · split at inside
    · cases inside
    · exact ampersand inside

/-- Pairs are appended as components with marks between them. -/
theorem appendPairs_eq (marked : Bool) (route : Text) {readings : List (Text × Except ResolveError Value)}
    {pairs : List Text} (rendered : List.Forall₂ (PairOf settings) readings pairs) :
    ∃ more, appendPairs marked route pairs = route ++ more ∧
      ∀ c ∈ more, isComponentPoint c = true ∨ c ∈ Text.ofString "?&=" := by
  unfold appendPairs
  split
  · exact ⟨[], (List.append_nil route).symm, by simp⟩
  · refine ⟨_, rfl, ?_⟩
    intro c inside
    rcases List.mem_append.mp inside with between | joined
    · exact .inr (mem_separator between)
    · rcases Text.mem_joinWith joined with between | ⟨pair, member, found⟩
      · rw [List.mem_singleton.mp between]
        exact .inr (by decide)
      · rcases points_of_pairs rendered pair member c found with component | rfl
        · exact .inl component
        · exact .inr (by decide)

/-- The segments of a template come first in its text. -/
theorem Template.gap_of_parse {s : Segment} (parted : (Template.parse text).segments = s :: segments) :
    ∃ more, text = s.gap ++ Template.openBrace :: more := by
  have whole := Template.source_parse text
  rw [Template.source, parted, List.flatMap_cons, Template.segmentSource] at whole
  refine ⟨s.name ++ [Template.closeBrace] ++ segments.flatMap Template.segmentSource ++ (Template.parse text).tail,
    whole.symm.trans ?_⟩
  simp only [List.append_assoc, List.cons_append]

/-- Behind a slash that stands alone, filling goes on as if the gap were empty. -/
theorem substitute_behind_slash {s : Segment} (gap : s.gap = [CodePoint.ofChar '/'])
    (done : substitute settings accessors bag text false (s :: segments) = .ok filled) :
    ∃ rest, filled = CodePoint.ofChar '/' :: rest ∧
      substitute settings accessors bag text false (⟨[], s.name⟩ :: segments) = .ok rest := by
  obtain ⟨piece, rest, first, second, rfl⟩ := substitute_cons_ok done
  rw [gap] at first second ⊢
  exact ⟨piece ++ rest, rfl, bind_eq_ok.mpr ⟨piece, first, bind_eq_ok.mpr ⟨rest, second, rfl⟩⟩⟩

/-- A rooted template is rooted when its placeholders are filled, unless slashes meet. -/
theorem rooted_filled (rooted : Rooted text) (known : bag.accessors = .ok accessors)
    (apart : ¬SlashesMeet settings text bag)
    (done : substitute settings accessors bag text false (Template.parse text).segments = .ok filled) :
    Rooted (filled ++ (Template.parse text).tail) := by
  obtain ⟨rest, start, single⟩ := rooted
  cases parted : (Template.parse text).segments with
  | nil =>
    rw [parted] at done
    cases done
    have whole := Template.source_parse text
    rw [Template.source, parted] at whole
    exact ⟨rest, whole.trans start, single⟩
  | cons s segments =>
    rw [parted] at done
    obtain ⟨behind, opened⟩ := Template.gap_of_parse parted
    cases gap : s.gap with
    | nil =>
      rw [start, gap] at opened
      exact absurd (List.cons.inj opened).1 (by decide)
    | cons c following =>
      rw [start, gap] at opened
      obtain ⟨rfl, next⟩ := List.cons.inj opened
      -- Behind a slash that stands alone the values decide; any other gap has its second character there.
      cases following with
      | nil =>
        obtain ⟨rest, rfl, again⟩ := substitute_behind_slash gap done
        refine ⟨rest ++ (Template.parse text).tail, rfl, ?_⟩
        intro slash
        exact apart ⟨accessors, s, segments, known, parted, gap, (head?_slash_iff again).mp slash⟩
      | cons d following =>
        obtain ⟨piece, filled, _, _, rfl⟩ := substitute_cons_ok done
        rw [gap]
        refine ⟨d :: following ++ (piece ++ filled) ++ (Template.parse text).tail, by simp, ?_⟩
        rw [next] at single
        exact single

/-- Where slashes meet, the text starts with two. -/
theorem not_rooted_filled (known : bag.accessors = .ok accessors) (meet : SlashesMeet settings text bag)
    (done : substitute settings accessors bag text false (Template.parse text).segments = .ok filled) (more : Text) :
    ¬Rooted (filled ++ (Template.parse text).tail ++ more) := by
  obtain ⟨accessors', s, segments, known', parted, gap, empty⟩ := meet
  cases known.symm.trans known'
  rw [parted] at done
  obtain ⟨rest, rfl, again⟩ := substitute_behind_slash gap done
  have slash := (head?_slash_iff again).mpr empty
  rintro ⟨behind, start, single⟩
  have same : rest ++ (Template.parse text).tail ++ more = behind := (List.cons.inj start).2
  rw [← same] at single
  cases shape : rest ++ (Template.parse text).tail with
  | nil => simp [shape] at slash
  | cons c following =>
    rw [shape] at slash single
    exact single slash

/-- A rooted template resolves to a rooted route, except where slashes meet. -/
theorem rooted_resolve_iff {route : Text} (rooted : Rooted text) (done : resolve settings text (some bag) = .ok route) :
    Rooted route ↔ ¬SlashesMeet settings text bag := by
  obtain ⟨accessors, filled, pairs, parts, rfl⟩ := resolve_ok done
  obtain ⟨more, appended, points⟩ := appendPairs_eq (Template.parse text).hasQueryMarker
    (filled ++ (Template.parse text).tail) parts.appended
  have unslashed : CodePoint.ofChar '/' ∉ more := fun inside => absurd (points _ inside) (by decide)
  rw [appended]
  constructor
  · intro start meet
    exact not_rooted_filled parts.known meet parts.substituted more start
  · intro apart
    apply (rooted_filled rooted parts.known apart parts.substituted).append
    intro slash
    exact unslashed (List.mem_of_mem_head? slash)

theorem resolveUrl_eq_ok {params : Option Bag} {base : Option Text} {u : Url} :
    resolveUrl settings text params base = .ok u ↔
      ∃ route, resolve settings text params = .ok route ∧ locate route base = .ok u := by
  unfold resolveUrl
  cases resolve settings text params with
  | error e => simp
  | ok route =>
    dsimp only
    cases located : locate route base <;> simp [located]

theorem locate_some {route base : Text} {b : Url} (known : Url.parse base = .ok b) :
    locate route (some base) = b.join route := by
  rw [locate, known, ok_bind]

/-- Unless slashes meet, a route that starts at the root is asked of the server of the base. -/
theorem resolveUrl_sameServer (settings : Settings) {text base : Text} {bag : Option Bag} {b u : Url}
    (known : Url.parse base = .ok b) (http : Url.IsHttp b.scheme) (absolute : b.isAbsolute = true)
    (rooted : Rooted text) (apart : ∀ given ∈ bag, ¬SlashesMeet settings text given)
    (done : resolveUrl settings text bag (some base) = .ok u) : u.SameServer b := by
  have host : b.host ≠ [] := by
    intro empty
    simp [Url.isAbsolute, empty] at absolute
  obtain ⟨route, resolved, joined⟩ := resolveUrl_eq_ok.mp done
  rw [locate_some known] at joined
  have start : Rooted route := by
    cases bag with
    | none =>
      cases resolved
      exact rooted
    | some given => exact (rooted_resolve_iff rooted resolved).mpr (apart given rfl)
  exact Url.join_sameServer (Url.parse_ok known) http host start joined

/-- An empty value behind the first slash, and values that would name a server if they were not escaped. -/
theorem resolveUrl_sameServer_hostile_values :
    let text : Text := "/\x7bx\x7dusers/\x7by\x7d"
    let bag : Bag := .mapping "dict" [(.text "x", .text ""), (.text "y", .text "//b:1"), (.text "z", .text "@b")]
    let b : Url := ⟨"https", "me", "a", some 8080, "/v1", none, none⟩
    let u : Url := ⟨"https", "me", "a", some 8080, "/users/%2F%2Fb%3A1", some "z=%40b", none⟩
    Url.parse "https://me@a:8080/v1" = .ok b ∧ Rooted text ∧ ¬SlashesMeet {} text bag ∧
      resolveUrl {} text (some bag) (some "https://me@a:8080/v1") = .ok u ∧ u.SameServer b := by
  intro text bag b u
  have known : Url.parse "https://me@a:8080/v1" = .ok b := by rfl
  have rooted : Rooted text := ⟨"\x7bx\x7dusers/\x7by\x7d", rfl, by decide⟩
  have apart : ¬SlashesMeet {} text bag := by
    rintro ⟨accessors, s, segments, _, parted, _, _, later⟩
    have shape : (Template.parse text).segments = [⟨"/", "x"⟩, ⟨"users/", "y"⟩] := by rfl
    rw [shape] at parted
    cases parted
    have slash : CodePoint.ofChar 'u' = CodePoint.ofChar '/' := later
    exact absurd slash (by decide)
  have done : resolveUrl {} text (some bag) (some "https://me@a:8080/v1") = .ok u := by rfl
  refine ⟨known, rooted, apart, done, resolveUrl_sameServer {} known (.inr rfl) (by decide) rooted ?_ done⟩
  rintro given ⟨⟩
  exact apart

/-- Where slashes meet another server is asked. And even where none do, a default port that was written behind a scheme
in capitals is left out, and the digits of an escaped character in a host are lower-cased. -/
theorem resolveUrl_server_differs :
    (∃ b u : Url, Url.parse "https://api.example.com" = .ok b ∧
      resolveUrl {} "/\x7bx\x7d/users" (some (.mapping "dict" [(.text "x", .text "")]))
        (some "https://api.example.com") = .ok u ∧ b.host = "api.example.com" ∧ u.host = "users") ∧
    (∃ b u : Url, Url.parse "HTTP://h:80" = .ok b ∧ resolveUrl {} "/a" none (some "HTTP://h:80") = .ok u ∧
      b.port = some 80 ∧ u.port = none) ∧
    ∃ b u : Url, Url.parse "http://a<b" = .ok b ∧ resolveUrl {} "/a" none (some "http://a<b") = .ok u ∧
      b.host = "a%3Cb" ∧ u.host = "a%3cb" := by
  exact ⟨⟨_, _, rfl, rfl, rfl, rfl⟩, ⟨_, _, rfl, rfl, rfl, rfl⟩, ⟨_, _, rfl, rfl, rfl, rfl⟩⟩

end RouteTemplate
