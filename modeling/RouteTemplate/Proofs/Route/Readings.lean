import RouteTemplate.Proofs.Bag.Accessors
import RouteTemplate.Proofs.Route.Outline

set_option autoImplicit false

namespace RouteTemplate

/-- Accessors of two bags, under one name and reading the same. -/
structure ReadsAlike (first second : Bag) (a b : Accessor) : Prop where
  name : a.name = b.name
  value : first.read a.reader = second.read b.reader

/-- What is read under a name, whatever its case. -/
def Bag.lookUp (bag : Bag) (accessors : Accessors) (name : Text) : Option (Except ResolveError Value) :=
  (accessors.find? name).map fun a => bag.read a.reader

/-- What is looked up is the first reading of the name. -/
theorem Bag.lookUp_ofList (bag : Bag) (accessors : List Accessor) (name : Text) :
    bag.lookUp (.ofList accessors) name =
      ((bag.readings (.ofList accessors)).find? fun reading => reading.1.lower = name.lower).map Prod.snd := by
  rw [lookUp, readings, Accessors.find?_ofList, Accessors.ofList, List.find?_map, Option.map_map]
  rfl

section LookUp

variable {first second : Bag} {a b : Accessors} (found : ∀ name, first.lookUp a name = second.lookUp b name)
  (settings : Settings) (text : Text)

include found

theorem fill_congr (kind : PlaceholderKind) (name : Text) :
    fill settings a first text kind name = fill settings b second text kind name := by
  have read := found name
  unfold Bag.lookUp at read
  unfold fill
  cases one : a.find? name with
  | none =>
    rw [one] at read
    rw [Option.map_eq_none_iff.mp read.symm]
  | some x =>
    rw [one] at read
    obtain ⟨y, two, value⟩ := Option.map_eq_some_iff.mp read.symm
    rw [two]
    dsimp only
    rw [value]

theorem substitute_congr (marked : Bool) (segments : List Segment) :
    substitute settings a first text marked segments = substitute settings b second text marked segments := by
  induction segments generalizing marked with
  | nil => rfl
  | cons s segments ih =>
    unfold substitute
    dsimp only
    rw [fill_congr found, ih]

end LookUp

/-- The pair of a reading: its name and its value, both escaped. -/
def writeReading (settings : Settings) (reading : Text × Except ResolveError Value) : Except ResolveError Text := do
  let v ← reading.2
  match Percent.encodeText reading.1 with
  | .ok name => (v.component settings).map (pairText name)
  | .error run => .error (.surrogates run)

section Writing

variable {settings : Settings} {reading : Text × Except ResolveError Value}

theorem pairOf_of_writeReading {pair : Text} (done : writeReading settings reading = .ok pair) :
    PairOf settings reading pair := by
  obtain ⟨v, read, done⟩ := bind_eq_ok.mp done
  split at done
  · next name encoded =>
    obtain ⟨component, written, rfl⟩ := map_eq_ok.mp done
    exact ⟨v, name, component, read, encoded, written, rfl⟩
  · cases done

/-- A reading is not written when there is no value to be read, when its name has surrogates, and when its value cannot be
written. -/
theorem writeReading_error {e : ResolveError} (failed : writeReading settings reading = .error e) :
    reading.2 = .error e ∨ (∃ run, reading.1.encode = .error run ∧ e = .surrogates run) ∨
      ∃ v, reading.2 = .ok v ∧ v.component settings = .error e := by
  rcases bind_eq_error.mp failed with unread | ⟨v, read, failed⟩
  · exact .inl unread
  · split at failed
    · exact .inr (.inr ⟨v, read, map_eq_error.mp failed⟩)
    · next run unencoded =>
      cases failed
      exact .inr (.inl ⟨run, map_eq_error.mp unencoded, rfl⟩)

theorem leftover?_eq (bag : Bag) (a : Accessor) :
    leftover? settings bag a = if readsAbsent (bag.read a.reader) then .ok none
      else (writeReading settings (a.name, bag.read a.reader)).map some := by
  unfold leftover? writeReading
  cases bag.read a.reader with
  | error e => rfl
  | ok v =>
    rw [ok_bind, ok_bind, readsAbsent]
    cases v.isAbsent with
    | true =>
      simp only [↓reduceIte]
      rfl
    | false =>
      simp only [Bool.false_eq_true, ↓reduceIte]
      cases Percent.encodeText a.name with
      | error run => rfl
      | ok name => cases v.component settings <;> rfl

/-- What is appended are the readings that remain, each written as a pair, the first that fails ending it all. -/
theorem leftovers_eq_mapM (bag : Bag) (consumed : List Text) (accessors : List Accessor) :
    leftovers settings bag consumed accessors =
      ((accessors.map fun a => (a.name, bag.read a.reader)).filter (remains consumed)).mapM (writeReading settings) := by
  induction accessors with
  | nil => rfl
  | cons a accessors ih =>
    rw [leftovers, leftover?_eq, ih, List.map_cons, List.filter_cons, remains]
    dsimp only
    cases consumed.contains a.name.lower with
    | true => rfl
    | false =>
      cases readsAbsent (bag.read a.reader) with
      | true =>
        simp only [Bool.not_true, Bool.and_false, Bool.false_eq_true, ↓reduceIte, ok_bind]
        cases List.mapM (writeReading settings) _ <;> rfl
      | false =>
        rw [Bool.not_false, Bool.and_true, if_pos rfl, List.mapM_cons]
        cases writeReading settings (a.name, bag.read a.reader) <;> rfl

end Writing

theorem leftovers_error {settings : Settings} {bag : Bag} {consumed : List Text} {accessors : List Accessor}
    {e : ResolveError} (failed : leftovers settings bag consumed accessors = .error e) :
    ∃ a ∈ accessors, a.name.lower ∉ consumed ∧ writeReading settings (a.name, bag.read a.reader) = .error e := by
  rw [leftovers_eq_mapM] at failed
  obtain ⟨reading, remaining, unwritten⟩ := exists_of_mapM_eq_error failed
  obtain ⟨listed, free⟩ := List.mem_filter.mp remaining
  obtain ⟨a, inside, rfl⟩ := List.mem_map.mp listed
  have unconsumed := (Bool.and_eq_true_iff.mp free).1
  exact ⟨a, inside, by simpa using unconsumed, unwritten⟩

/-- Once the accessors are known, resolution fails when the template is refused, when a placeholder is not filled, and when
something that is left over is not written. -/
theorem resolve_failed {settings : Settings} {text : Text} {bag : Bag} {accessors : Accessors} {e : ResolveError}
    (known : bag.accessors = .ok accessors) (failed : resolve settings text (some bag) = .error e) :
    (∃ offset : Nat, e = .malformed text offset) ∨
      (∃ s ∈ (Template.parse text).segments, ∃ kind, fill settings accessors bag text kind s.name = .error e) ∨
        settings.appendUnconsumed = true ∧ ∃ a ∈ accessors.toList,
          a.name.lower ∉ (Template.parse text).names.map Text.lower ∧
            writeReading settings (a.name, bag.read a.reader) = .error e := by
  unfold resolve at failed
  dsimp only at failed
  split at failed
  · next stopped =>
    cases failed
    exact .inl (refused_eq_some stopped)
  · rw [known, ok_bind] at failed
    rcases bind_eq_error.mp failed with unfilled | ⟨_, _, failed⟩
    · exact .inr (.inl (substitute_error unfilled))
    · split at failed
      · next append =>
        rcases bind_eq_error.mp failed with left | ⟨_, _, impossible⟩
        · exact .inr (.inr ⟨append, leftovers_error left⟩)
        · cases impossible
      · cases failed

theorem resolveParsed_congr (settings : Settings) (text : Text) (template : Template) {first second : Bag}
    {ones twos : List Accessor} (same : first.readings (.ofList ones) = second.readings (.ofList twos)) :
    resolveParsed settings text template (.ofList ones) first =
      resolveParsed settings text template (.ofList twos) second := by
  have found (name : Text) : first.lookUp (.ofList ones) name = second.lookUp (.ofList twos) name := by
    rw [Bag.lookUp_ofList, Bag.lookUp_ofList, same]
  unfold resolveParsed
  rw [substitute_congr found, leftovers_eq_mapM, leftovers_eq_mapM, ← Bag.readings, ← Bag.readings, same]

/-- The readings of a bag are those of its accessors. -/
theorem readingsOf_of_accessorList {bag : Bag} {accessors : List Accessor} (listed : bag.accessorList = .ok accessors) :
    readingsOf (some bag) = .ok (accessors.map fun a => (a.name, bag.read a.reader)) := by
  change (bag.accessorList.map Accessors.ofList).map bag.readings = _
  rw [listed]
  rfl

/-- Bags with the same readings are resolved to the same route, or fail with the same error. -/
theorem resolve_congr (settings : Settings) (text : Text) {first second : Bag}
    (same : readingsOf (some first) = readingsOf (some second)) :
    resolve settings text (some first) = resolve settings text (some second) := by
  have accessors : (first.accessors >>= fun a => resolveParsed settings text (Template.parse text) a first) =
      second.accessors >>= fun b => resolveParsed settings text (Template.parse text) b second := by
    rcases map_eq_map same with ⟨e, one, two⟩ | ⟨a, b, one, two, readings⟩
    · rw [one, two]
      rfl
    · obtain ⟨ones, _, rfl⟩ := map_eq_ok.mp one
      obtain ⟨twos, _, rfl⟩ := map_eq_ok.mp two
      rw [one, two]
      exact resolveParsed_congr settings text _ readings
  unfold resolve
  dsimp only
  rw [accessors]

end RouteTemplate
