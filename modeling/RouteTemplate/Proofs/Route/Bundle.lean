import RouteTemplate.Proofs.Bag.Forms
import RouteTemplate.Proofs.Route.Readings
import RouteTemplate.Proofs.Route.Spelling

/-!
Bundles of attributes under any names. An attribute is listed under its name and read as a path: a name without dots reads
what stands under it, and one with a dot reads what is found from the attribute in front of its first dot on, whatever
stands under the name itself. Where that leads nowhere, a resolution that reads the name fails for want of an attribute, and
it does so for no other reason.
-/

set_option autoImplicit false

namespace RouteTemplate

section Failing

variable {settings : Settings} {bag : Bag} {text : Text} {e : ResolveError}

theorem isNoAttribute_of_component {v : Value} (failed : v.component settings = .error e) : e.isNoAttribute = false := by
  rcases Value.component_error failed with ⟨reason, rfl⟩ | ⟨run, rfl⟩
  · rfl
  · rfl

/-- Filling a placeholder lacks an attribute only where reading its value does. -/
theorem read_of_fill {accessors : Accessors} {kind : PlaceholderKind} {name : Text} (told : e.isNoAttribute = true)
    (failed : fill settings accessors bag text kind name = .error e) :
    ∃ a, accessors.find? name = some a ∧ bag.read a.reader = .error e := by
  rcases fill_error failed with ⟨rfl, _⟩ | ⟨a, found, unread | ⟨_, _, unwritten⟩⟩
  · cases told
  · exact ⟨a, found, unread⟩
  · cases (isNoAttribute_of_component unwritten).symm.trans told

theorem read_of_writeReading {reading : Text × Except ResolveError Value} (told : e.isNoAttribute = true)
    (failed : writeReading settings reading = .error e) : reading.2 = .error e := by
  rcases writeReading_error failed with unread | ⟨_, _, rfl⟩ | ⟨_, _, unwritten⟩
  · exact unread
  · cases told
  · cases (isNoAttribute_of_component unwritten).symm.trans told

/-- A resolution lacks an attribute only where reading the value of a placeholder or a value that is left over does. -/
theorem read_of_resolve {entries : List Accessor} (known : bag.accessors = .ok (.ofList entries))
    (told : e.isNoAttribute = true) (failed : resolve settings text (some bag) = .error e) :
    (∃ s ∈ (Template.parse text).segments, ∃ a, (Accessors.ofList entries).find? s.name = some a ∧
        bag.read a.reader = .error e) ∨
      settings.appendUnconsumed = true ∧
        ∃ a ∈ entries, a.name.lower ∉ (Template.parse text).names.map Text.lower ∧ bag.read a.reader = .error e := by
  rcases resolve_failed known failed with ⟨_, rfl⟩ | ⟨s, inside, _, unfilled⟩ | ⟨append, a, inside, free, unwritten⟩
  · cases told
  · exact .inl ⟨s, inside, read_of_fill told unfilled⟩
  · exact .inr ⟨append, a, inside, free, read_of_writeReading told unwritten⟩

end Failing

section Bundles

variable {attributes : List (Text × Value)} {above : Inherited} {n : Text} {v : Value}

def publicNames (attributes : List (Text × Value)) : List Text := (Table.keys attributes).filter isPublicName

/-- What a bundle has under a name: the attribute that stands there, else what it has from its type. -/
def bundled? (attributes : List (Text × Value)) (above : Inherited) (name : Text) : Option Value :=
  (Table.get? name attributes).or (above.ofBag name)

/-- Does the name have a dot, and is there no attribute at some place on the path from what stands in front of it? -/
def LeadsNowhere (attributes : List (Text × Value)) (above : Inherited) (name : Text) : Prop :=
  ∃ first rest, name = first ++ CodePoint.ofChar '.' :: rest ∧ CodePoint.ofChar '.' ∉ first ∧
    ∀ v, bundled? attributes above first = some v →
      ∃ e, Bag.follow above v (Text.splitOn '.' rest) = .error e ∧ e.isNoAttribute = true

theorem bundled?_of_get? (held : Table.get? n attributes = some v) : bundled? attributes above n = some v := by
  rw [bundled?, held, Option.some_or]

theorem readAttribute_bundle (held : bundled? attributes above n = some v) :
    (Bag.bundle attributes above).readAttribute n = .ok v := by
  unfold bundled? at held
  unfold Bag.readAttribute
  dsimp only
  rw [held]

theorem readAttribute_bundle_of_none (free : bundled? attributes above n = none) :
    (Bag.bundle attributes above).readAttribute n = .error (.noAttribute (.object "types.SimpleNamespace") n) := by
  unfold bundled? at free
  unfold Bag.readAttribute
  dsimp only
  rw [free]

/-- The value under a name is what is read unless the name has a dot and another value, or none, is found along it. -/
theorem read_bundle_iff (held : Table.get? n attributes = some v) :
    (Bag.bundle attributes above).read (Bag.pathAccessor n).reader = .ok v ↔
      ∀ first rest, n = first ++ CodePoint.ofChar '.' :: rest → CodePoint.ofChar '.' ∉ first →
        ∃ w, bundled? attributes above first = some w ∧ Bag.follow above w (Text.splitOn '.' rest) = .ok v := by
  rw [Bag.pathAccessor]
  constructor
  · rintro read first rest rfl undotted
    rw [read_dotted undotted] at read
    obtain ⟨w, front, behind⟩ := bind_eq_ok.mp read
    cases stored : bundled? attributes above first with
    | none =>
      rw [readAttribute_bundle_of_none stored] at front
      cases front
    | some w' =>
      cases (readAttribute_bundle stored).symm.trans front
      exact ⟨w, rfl, behind⟩
  · intro found
    by_cases dotted : CodePoint.ofChar '.' ∈ n
    · obtain ⟨first, rest, whole, undotted⟩ := List.eq_append_cons_of_mem dotted
      obtain ⟨w, stored, behind⟩ := found first rest whole undotted
      rw [whole, read_dotted undotted, readAttribute_bundle stored, ok_bind, Bag.above, behind]
    · rw [read_path dotted, readAttribute_bundle (bundled?_of_get? held)]

theorem read_bundle_of_leadsNowhere (lost : LeadsNowhere attributes above n) :
    ∃ e, (Bag.bundle attributes above).read (Bag.pathAccessor n).reader = .error e ∧ e.isNoAttribute = true := by
  obtain ⟨first, rest, rfl, undotted, nothing⟩ := lost
  rw [Bag.pathAccessor, read_dotted undotted]
  cases stored : bundled? attributes above first with
  | none =>
    rw [readAttribute_bundle_of_none stored]
    exact ⟨_, rfl, rfl⟩
  | some v =>
    obtain ⟨e, lacking, told⟩ := nothing v stored
    rw [readAttribute_bundle stored, ok_bind]
    exact ⟨e, lacking, told⟩

theorem leadsNowhere_of_read {e : ResolveError} (listed : n ∈ Table.keys attributes)
    (failed : (Bag.bundle attributes above).read (Bag.pathAccessor n).reader = .error e) (told : e.isNoAttribute = true) :
    LeadsNowhere attributes above n := by
  rw [Bag.pathAccessor] at failed
  by_cases dotted : CodePoint.ofChar '.' ∈ n
  · obtain ⟨first, rest, whole, undotted⟩ := List.eq_append_cons_of_mem dotted
    refine ⟨first, rest, whole, undotted, fun v stored => ⟨e, ?_, told⟩⟩
    rw [whole, read_dotted undotted, readAttribute_bundle stored, ok_bind] at failed
    exact failed
  · obtain ⟨v, held⟩ := Option.ne_none_iff_exists'.mp (mt Table.get?_eq_none_iff.mp (not_not_intro listed))
    rw [read_path dotted, readAttribute_bundle (bundled?_of_get? held)] at failed
    cases failed

theorem accessors_bundle (attributes : List (Text × Value)) (above : Inherited) :
    (Bag.bundle attributes above).accessors = .ok (.ofList ((publicNames attributes).map Bag.pathAccessor)) := rfl

theorem find?_bundle (attributes : List (Text × Value)) (n : Text) :
    (Accessors.ofList ((publicNames attributes).map Bag.pathAccessor)).find? n =
      ((publicNames attributes).find? fun m => m.lower = n.lower).map Bag.pathAccessor := by
  rw [Accessors.find?_ofList, List.find?_map]
  rfl

theorem mem_publicNames (isPublic : isPublicName n = true) (held : Table.get? n attributes = some v) :
    n ∈ publicNames attributes := by
  refine List.mem_filter.mpr ⟨?_, isPublic⟩
  by_contra absent
  rw [Table.get?_eq_none_iff.mpr absent] at held
  cases held

section Asked

variable {front m : Text} (literal : Template.openBrace ∉ front) (closed : Template.closeBrace ∉ n)
  (found : ((publicNames attributes).find? fun m => m.lower = n.lower) = some m) (settings : Settings)

include literal closed found

/-- A placeholder that finds a name that leads nowhere makes resolution fail for want of an attribute. -/
theorem resolve_of_leadsNowhere (lost : LeadsNowhere attributes above m) :
    ∃ e, resolve settings (front ++ placeholderText n) (some (.bundle attributes above)) = .error e ∧
      e.isNoAttribute = true := by
  obtain ⟨e, unread, told⟩ := read_bundle_of_leadsNowhere lost
  refine ⟨e, ?_, told⟩
  have parsed := parse_behind_placeholder literal closed
  have accessor := find?_bundle attributes n
  rw [found, Option.map_some] at accessor
  unfold resolve
  dsimp only
  rw [parsed, refused_eq_none (.inl rfl), accessors_bundle, ok_bind, resolveParsed]
  unfold substitute fill
  dsimp only
  rw [accessor]
  dsimp only
  rw [unread]
  rfl

/-- Where resolution fails for want of an attribute, the name that the placeholder finds leads nowhere, or one that is left
over does. -/
theorem leadsNowhere_of_resolve {e : ResolveError}
    (failed : resolve settings (front ++ placeholderText n) (some (.bundle attributes above)) = .error e)
    (told : e.isNoAttribute = true) :
    LeadsNowhere attributes above m ∨
      settings.appendUnconsumed = true ∧
        ∃ k ∈ publicNames attributes, k.lower ≠ n.lower ∧ LeadsNowhere attributes above k := by
  have parsed := parse_behind_placeholder literal closed
  rcases read_of_resolve (accessors_bundle attributes above) told failed with
    ⟨s, inside, a, accessor, unread⟩ | ⟨append, a, inside, free, unread⟩
  · rw [parsed] at inside
    cases List.mem_singleton.mp inside
    rw [find?_bundle, found] at accessor
    cases accessor
    have listed := (List.mem_filter.mp (List.mem_of_find?_eq_some found)).1
    exact .inl (leadsNowhere_of_read listed unread told)
  · obtain ⟨k, member, rfl⟩ := List.mem_map.mp inside
    rw [parsed] at free
    refine .inr ⟨append, k, member, fun same => free ?_, leadsNowhere_of_read (List.mem_filter.mp member).1 unread told⟩
    exact List.mem_singleton.mpr same

end Asked

/-- Every public name of a bundle is listed, whatever the bundle and its values have from their types. What is read under
it is what stands under it, unless it has a dot and another value, or none, is found along it. A placeholder of the name
fails for want of an attribute if the first public name that is it in some case leads nowhere, and otherwise at most for
names that are left over and lead nowhere. -/
theorem bundle_reads_names (attributes : List (Text × Value)) (above : Inherited) :
    ∃ accessors, (Bag.bundle attributes above).accessors = .ok accessors ∧
      ∀ n v, isPublicName n = true → Table.get? n attributes = some v →
        (∃ a ∈ accessors.toList, a.name = n) ∧
        (∀ a ∈ accessors.toList, a.name = n →
          ((Bag.bundle attributes above).read a.reader = .ok v ↔
            ∀ first rest, n = first ++ CodePoint.ofChar '.' :: rest → CodePoint.ofChar '.' ∉ first →
              ∃ w, bundled? attributes above first = some w ∧ Bag.follow above w (Text.splitOn '.' rest) = .ok v)) ∧
        (Template.closeBrace ∉ n →
          ∃ m, ((publicNames attributes).find? fun m => m.lower = n.lower) = some m ∧
            ∀ settings,
              let outcome := resolve settings (Text.ofString "/" ++ placeholderText n) (some (.bundle attributes above))
              (LeadsNowhere attributes above m → ∃ e, outcome = .error e ∧ e.isNoAttribute = true) ∧
              ∀ e, outcome = .error e → e.isNoAttribute = true →
                LeadsNowhere attributes above m ∨
                  settings.appendUnconsumed = true ∧
                    ∃ k ∈ publicNames attributes, k.lower ≠ n.lower ∧ LeadsNowhere attributes above k) := by
  refine ⟨_, accessors_bundle attributes above, fun n v isPublic held => ⟨?listed, ?read, fun closed => ?asked⟩⟩
  case listed => exact ⟨_, List.mem_map_of_mem (mem_publicNames isPublic held), rfl⟩
  case read =>
    intro a inside named
    obtain ⟨name, _, rfl⟩ := List.mem_map.mp inside
    cases (named : name = n)
    exact read_bundle_iff held
  case asked =>
    have slash : Template.openBrace ∉ Text.ofString "/" := by decide
    have met : ((publicNames attributes).find? fun m => m.lower = n.lower).isSome = true :=
      List.find?_isSome.mpr ⟨n, mem_publicNames isPublic held, decide_eq_true rfl⟩
    obtain ⟨m, found⟩ := Option.isSome_iff_exists.mp met
    exact ⟨m, found, fun settings => ⟨resolve_of_leadsNowhere slash closed found settings,
      fun e => leadsNowhere_of_resolve slash closed found settings⟩⟩

end Bundles

/-- Of what values have from their types, a method of texts. -/
def upperCasing : Inherited where
  ofValue
    | .text _, name =>
      if name = Text.ofString "upper" then some (.held (.thing "builtin_function_or_method" "<built-in method upper>" false))
      else none
    | _, _ => none

/-- A bundle with a name that is no path, one that is the path of a number to itself, one that is the path of a text to one
of its methods, and one that leads nowhere. -/
theorem bundle_reads_names_dotted :
    let attributes : List (Text × Value) :=
      [("a b", .text "x"), ("n", .int 1), ("n.real", .int 1), ("a b.upper", .int 5), ("u.v", .int 5)]
    let bag : Bag := .bundle attributes upperCasing
    bag.read (Bag.pathAccessor "a b").reader = .ok (.text "x") ∧
      bag.read (Bag.pathAccessor "n.real").reader = .ok (.int 1) ∧
      bag.read (Bag.pathAccessor "a b.upper").reader ≠ .ok (.int 5) ∧
      (∃ e, resolve {} (Text.ofString "/" ++ placeholderText "u.v") (some bag) = .error e ∧ e.isNoAttribute = true) ∧
      ∀ e, resolve { appendUnconsumed := false } (Text.ofString "/" ++ placeholderText "a b.upper") (some bag) = .error e →
        e.isNoAttribute = false := by
  intro attributes bag
  obtain ⟨accessors, known, names⟩ := bundle_reads_names attributes upperCasing
  cases known
  have undotted : CodePoint.ofChar '.' ∉ Text.ofString "a b" := by decide
  have lost : LeadsNowhere attributes upperCasing "u.v" := ⟨"u", "v", rfl, by decide, nofun⟩
  have grounded : ¬LeadsNowhere attributes upperCasing "a b.upper" := by
    rintro ⟨first, rest, whole, free, nowhere⟩
    have atDot : Text.splitFirst '.' "a b.upper" = some (Text.ofString "a b", Text.ofString "upper") := rfl
    obtain ⟨rfl, rfl⟩ := Text.eq_of_splitFirst atDot whole free
    obtain ⟨e, lacking, _⟩ := nowhere (.text "x") rfl
    cases lacking
  obtain ⟨_, plain, _⟩ := names "a b" (.text "x") rfl rfl
  obtain ⟨_, path, _⟩ := names "n.real" (.int 1) rfl rfl
  obtain ⟨_, method, asked⟩ := names "a b.upper" (.int 5) rfl rfl
  obtain ⟨_, _, astray⟩ := names "u.v" (.int 5) rfl rfl
  refine ⟨?_, ?_, ?_, ?_, ?_⟩
  · refine (plain (Bag.pathAccessor "a b") (by decide) rfl).mpr fun first rest whole _ => ?_
    exact absurd (whole ▸ List.mem_append_right first List.mem_cons_self) undotted
  · refine (path (Bag.pathAccessor "n.real") (by decide) rfl).mpr fun first rest whole free => ?_
    have atDot : Text.splitFirst '.' "n.real" = some (Text.ofString "n", Text.ofString "real") := rfl
    obtain ⟨rfl, rfl⟩ := Text.eq_of_splitFirst atDot whole free
    exact ⟨.int 1, rfl, rfl⟩
  · intro read
    obtain ⟨w, held, found⟩ := (method (Bag.pathAccessor "a b.upper") (by decide) rfl).mp read "a b" "upper" rfl undotted
    cases held
    cases found
  · obtain ⟨m, found, failing⟩ := astray (by decide)
    cases found
    exact (failing {}).1 lost
  · intro e failed
    obtain ⟨m, found, failing⟩ := asked (by decide)
    cases found
    by_contra told
    rcases (failing { appendUnconsumed := false }).2 e failed (by simpa using told) with astray | ⟨append, _⟩
    · exact grounded astray
    · cases append

/-- A name with a dot is listed, and neither reading it nor a placeholder of it finds the value that stands under it. -/
theorem bundle_misses_dotted_name :
    let attributes : List (Text × Value) := [("a.b", .int 5)]
    let lacking : ResolveError := .noAttribute (.object "types.SimpleNamespace") "a"
    (Bag.bundle attributes).accessors.map Accessors.names = .ok ["a.b"] ∧
      (Bag.bundle attributes).read (Bag.pathAccessor "a.b").reader = .error lacking ∧
      resolve {} (Text.ofString "/" ++ placeholderText "a.b") (some (.bundle attributes)) = .error lacking :=
  ⟨rfl, rfl, rfl⟩

end RouteTemplate
