import Mathlib.Data.List.Nodup
import RouteTemplate.Proofs.Route.Failure
import RouteTemplate.Proofs.Route.Forms

set_option autoImplicit false

namespace RouteTemplate

/-- The pairs of a mapping that are left over, in their order: those whose name no placeholder has, whatever its case, and
whose value is not absent. -/
def leftPairs (settings : Settings) (text : Text) (pairs : List (Text × Value)) : List (Text × Value) :=
  if settings.appendUnconsumed then
    pairs.filter fun pair => remains ((Template.parse text).names.map Text.lower) (pair.1, .ok pair.2)
  else []

/-- The first of several names that cannot be written, told by its run of surrogates. -/
def FirstUnwritten (names : List Text) (run : SurrogateRun) : Prop :=
  ∃ before name after, names = before ++ name :: after ∧ (∀ other ∈ before, ∃ octets, other.encode = .ok octets) ∧
    name.encode = .error run

def Settings.bare (settings : Settings) : Settings := { settings with appendUnconsumed := false }

section Bare

variable (settings : Settings) (text : Text)

theorem substitute_bare (accessors : Accessors) (bag : Bag) (marked : Bool) (segments : List Segment) :
    substitute settings.bare accessors bag text marked segments = substitute settings accessors bag text marked segments := by
  induction segments generalizing marked with
  | nil => rfl
  | cons s segments ih =>
    have piece (kind : PlaceholderKind) :
        fill settings.bare accessors bag text kind s.name = fill settings accessors bag text kind s.name := rfl
    unfold substitute
    dsimp only
    rw [piece, ih]

/-- Resolution is resolution with nothing appended, behind which the pairs that are left over are written. -/
theorem resolve_eq_bare {bag : Bag} {pairs : List (Text × Value)}
    (read : readingsOf (some bag) = .ok (pairs.map fun pair => (pair.1, .ok pair.2))) :
    resolve settings text (some bag) = do
      let route ← resolve settings.bare text (some bag)
      let written ← (leftPairs settings text pairs).mapM fun pair => writeReading settings (pair.1, .ok pair.2)
      return appendPairs (Template.parse text).hasQueryMarker route written := by
  obtain ⟨accessors, known, readings⟩ := map_eq_ok.mp read
  rw [Bag.readings] at readings
  unfold resolve
  dsimp only
  have strict : refused settings.bare text (Template.parse text) = refused settings text (Template.parse text) := rfl
  rw [strict]
  cases refused settings text (Template.parse text) with
  | some e => rfl
  | none =>
    dsimp only
    rw [known, ok_bind, ok_bind, resolveParsed, resolveParsed, substitute_bare]
    cases substitute settings accessors bag text false (Template.parse text).segments with
    | error e => rfl
    | ok filled =>
      rw [ok_bind, ok_bind, leftPairs]
      cases settings.appendUnconsumed with
      | false => rfl
      | true =>
        rw [if_pos rfl, if_pos rfl, leftovers_eq_mapM, readings, List.filter_map, List.mapM_map]
        rfl

end Bare

/-- In rows under different keys, an order more or less makes no difference to what is found. -/
theorem find?_perm {α κ : Type} [DecidableEq κ] (key : α → κ) {first second : List α} (perm : first.Perm second)
    (distinct : (first.map key).Nodup) (k : κ) :
    (first.find? fun x => key x = k) = second.find? fun x => key x = k := by
  cases one : first.find? fun x => key x = k with
  | none =>
    rw [List.find?_eq_none] at one
    exact (List.find?_eq_none.mpr fun x inside => one x (perm.mem_iff.mpr inside)).symm
  | some x =>
    have hit : key x = k := by simpa using List.find?_some one
    have inside := List.mem_of_find?_eq_some one
    obtain ⟨y, two⟩ : ∃ y, (second.find? fun x => key x = k) = some y :=
      Option.isSome_iff_exists.mp (List.find?_isSome.mpr ⟨x, perm.mem_iff.mp inside, by simpa using hit⟩)
    have again : key y = k := by simpa using List.find?_some two
    have there := perm.mem_iff.mpr (List.mem_of_find?_eq_some two)
    rw [two, List.inj_on_of_nodup_map distinct inside there (hit.trans again.symm)]

/-- With nothing appended, the order of readings under different names does not matter at all. -/
theorem resolve_bare_perm (settings : Settings) (text : Text) {first second : Bag}
    {ones twos : List (Text × Except ResolveError Value)} (one : readingsOf (some first) = .ok ones)
    (two : readingsOf (some second) = .ok twos) (perm : ones.Perm twos)
    (distinct : (ones.map fun reading => reading.1.lower).Nodup) :
    resolve settings.bare text (some first) = resolve settings.bare text (some second) := by
  obtain ⟨a, known, rfl⟩ := map_eq_ok.mp one
  obtain ⟨b, other, rfl⟩ := map_eq_ok.mp two
  obtain ⟨as, _, rfl⟩ := map_eq_ok.mp known
  obtain ⟨bs, _, rfl⟩ := map_eq_ok.mp other
  have found (name : Text) : first.lookUp (.ofList as) name = second.lookUp (.ofList bs) name := by
    rw [Bag.lookUp_ofList, Bag.lookUp_ofList, find?_perm (fun reading => reading.1.lower) perm distinct]
  unfold resolve
  dsimp only
  rw [known, other, ok_bind, ok_bind, resolveParsed, resolveParsed, substitute_congr found]
  rfl

section Pairs

variable {settings : Settings} {text : Text} {pairs : List (Text × Value)}

theorem mem_leftPairs {pair : Text × Value} (left : pair ∈ leftPairs settings text pairs) :
    pair ∈ pairs ∧ pair.2.isAbsent = false := by
  unfold leftPairs at left
  split at left
  · obtain ⟨inside, stays⟩ := List.mem_filter.mp left
    exact ⟨inside, by simpa [remains, readsAbsent] using (Bool.and_eq_true_iff.mp stays).2⟩
  · cases left

theorem leftPairs_perm {second : List (Text × Value)} (perm : pairs.Perm second) :
    (leftPairs settings text pairs).Perm (leftPairs settings text second) := by
  unfold leftPairs
  split
  · exact perm.filter _
  · exact .nil

/-- Where all values can be written and yet not all pairs, it is for the first name that cannot. -/
theorem mapM_writeReading (written : ∀ pair ∈ pairs, ∃ component, pair.2.component settings = .ok component)
    (stuck : ¬∀ pair ∈ pairs, ∃ t, writeReading settings (pair.1, .ok pair.2) = .ok t) :
    ∃ run, (pairs.mapM fun pair => writeReading settings (pair.1, .ok pair.2)) = .error (.surrogates run) ∧
      FirstUnwritten (pairs.map Prod.fst) run := by
  cases done : pairs.mapM fun pair => writeReading settings (pair.1, .ok pair.2) with
  | ok texts => exact absurd (forall_of_mapM_eq_ok done) stuck
  | error e =>
    obtain ⟨before, pair, after, rfl, others, failed⟩ := exists_first_of_mapM_eq_error done
    obtain ⟨component, own⟩ := written pair (List.mem_append_right before List.mem_cons_self)
    obtain ⟨run, unwritten, rfl⟩ : ∃ run, pair.1.encode = .error run ∧ e = .surrogates run := by
      rcases writeReading_error failed with impossible | unencoded | ⟨_, same, failed⟩
      · cases impossible
      · exact unencoded
      · cases same
        cases own.symm.trans failed
    refine ⟨run, rfl, before.map Prod.fst, pair.1, after.map Prod.fst, by simp, ?_, unwritten⟩
    intro name inside
    obtain ⟨other, there, rfl⟩ := List.mem_map.mp inside
    obtain ⟨_, written⟩ := others other there
    obtain ⟨_, _, _, _, encoded, _⟩ := pairOf_of_writeReading written
    obtain ⟨octets, plain, _⟩ := Percent.encodeText_eq encoded
    exact ⟨octets, plain⟩

end Pairs

def writtenPair (settings : Settings) (pair : Text × Value) : Text :=
  (writeReading settings (pair.1, .ok pair.2)).toOption.getD []

theorem writeReading_of_exists {settings : Settings} {pair : Text × Value}
    (written : ∃ t, writeReading settings (pair.1, .ok pair.2) = .ok t) :
    writeReading settings (pair.1, .ok pair.2) = .ok (writtenPair settings pair) := by
  obtain ⟨t, own⟩ := written
  rw [writtenPair, own]
  rfl

/-- A mapping of pairs is resolved to a text with the pairs that are left over behind it, in their order, each written by a
function, and something in front of them. -/
structure PairsBehind (settings : Settings) (text type : Text) (pairs : List (Text × Value)) (filled between : Text)
    (write : Text × Value → Text) : Prop where
  bare : resolve settings.bare text (some ((Form.mapping type).bag pairs)) = .ok filled
  separated : between = if (leftPairs settings text pairs).isEmpty then []
    else separator (Template.parse text).hasQueryMarker filled
  written : ∀ pair ∈ leftPairs settings text pairs, PairOf settings (pair.1, .ok pair.2) (write pair)
  resolved : resolve settings text (some ((Form.mapping type).bag pairs)) =
    .ok (filled ++ (between ++ Text.joinWith "&" ((leftPairs settings text pairs).map write)))

theorem readingsOf_distinct {pairs : List (Text × Value)} (type : Text)
    (distinct : (pairs.map fun pair => pair.1.lower).Nodup) :
    readingsOf (some ((Form.mapping type).bag pairs)) = .ok (pairs.map fun pair => (pair.1, .ok pair.2)) := by
  refine readingsOf_mapping type (List.Nodup.of_map Text.lower ?_)
  rw [Table.keys, List.map_map]
  exact distinct

theorem pairsBehind_of_written {settings : Settings} {text type filled : Text} {pairs : List (Text × Value)}
    {write : Text × Value → Text} (distinct : (pairs.map fun pair => pair.1.lower).Nodup)
    (bare : resolve settings.bare text (some ((Form.mapping type).bag pairs)) = .ok filled)
    (each : ∀ pair ∈ leftPairs settings text pairs, writeReading settings (pair.1, .ok pair.2) = .ok (write pair)) :
    PairsBehind settings text type pairs filled (if (leftPairs settings text pairs).isEmpty then []
      else separator (Template.parse text).hasQueryMarker filled) write := by
  refine ⟨bare, rfl, fun pair left => pairOf_of_writeReading (each pair left), ?_⟩
  rw [resolve_eq_bare settings text (readingsOf_distinct type distinct), bare, ok_bind, mapM_eq_ok_of_forall each, ok_bind]
  cases leftPairs settings text pairs with
  | nil => simp [appendPairs, Text.joinWith, pure, Except.pure]
  | cons pair left => rfl

section Failures

variable {settings : Settings} {text type filled : Text} {pairs : List (Text × Value)}
  (distinct : (pairs.map fun pair => pair.1.lower).Nodup)

include distinct

theorem resolve_of_unfilled {e : ResolveError}
    (failed : resolve settings.bare text (some ((Form.mapping type).bag pairs)) = .error e) :
    resolve settings text (some ((Form.mapping type).bag pairs)) = .error e := by
  rw [resolve_eq_bare settings text (readingsOf_distinct type distinct), failed]
  rfl

/-- Where not every pair left over can be written, resolving fails for the first name that cannot. -/
theorem resolve_of_unwritten (bare : resolve settings.bare text (some ((Form.mapping type).bag pairs)) = .ok filled)
    (rendered : ∀ pair ∈ leftPairs settings text pairs, ∃ component, pair.2.component settings = .ok component)
    (stuck : ¬∀ pair ∈ leftPairs settings text pairs, ∃ t, writeReading settings (pair.1, .ok pair.2) = .ok t) :
    ∃ run, resolve settings text (some ((Form.mapping type).bag pairs)) = .error (.surrogates run) ∧
      FirstUnwritten ((leftPairs settings text pairs).map Prod.fst) run := by
  obtain ⟨run, failed, unwritten⟩ := mapM_writeReading rendered stuck
  refine ⟨run, ?_, unwritten⟩
  rw [resolve_eq_bare settings text (readingsOf_distinct type distinct), bare, ok_bind, failed]
  rfl

end Failures

/-- Mappings of the same pairs in different orders are resolved alike: both fail with the same error, or each for the first
of its names left over that cannot be written, or both give the same text with the same pairs behind it, each in its own
order. -/
theorem resolve_perm (settings : Settings) (text type : Text) {first second : List (Text × Value)}
    (perm : first.Perm second) (distinct : (first.map fun pair => pair.1.lower).Nodup)
    (written : ∀ pair ∈ first, pair.2.isAbsent = false → ∃ component, pair.2.component settings = .ok component) :
    let outcome (pairs : List (Text × Value)) := resolve settings text (some ((Form.mapping type).bag pairs))
    (∃ e, outcome first = .error e ∧ outcome second = .error e) ∨
      (∃ run other, outcome first = .error (.surrogates run) ∧ outcome second = .error (.surrogates other) ∧
        FirstUnwritten ((leftPairs settings text first).map Prod.fst) run ∧
        FirstUnwritten ((leftPairs settings text second).map Prod.fst) other) ∨
      ∃ filled between write, PairsBehind settings text type first filled between write ∧
        PairsBehind settings text type second filled between write := by
  intro outcome
  have others : (second.map fun pair => pair.1.lower).Nodup := (perm.map _).nodup_iff.mp distinct
  have left : (leftPairs settings text first).Perm (leftPairs settings text second) := leftPairs_perm perm
  have bare : resolve settings.bare text (some ((Form.mapping type).bag first)) =
      resolve settings.bare text (some ((Form.mapping type).bag second)) :=
    resolve_bare_perm settings text (readingsOf_distinct type distinct) (readingsOf_distinct type others) (perm.map _)
      (by rw [List.map_map]; exact distinct)
  have firsts : ∀ pair ∈ leftPairs settings text first, ∃ component, pair.2.component settings = .ok component := by
    intro pair inside
    obtain ⟨member, present⟩ := mem_leftPairs inside
    exact written pair member present
  have seconds : ∀ pair ∈ leftPairs settings text second, ∃ component, pair.2.component settings = .ok component :=
    fun pair inside => firsts pair (left.mem_iff.mpr inside)
  cases filled : resolve settings.bare text (some ((Form.mapping type).bag first)) with
  | error e => exact .inl ⟨e, resolve_of_unfilled distinct filled, resolve_of_unfilled others (bare.symm.trans filled)⟩
  | ok route =>
    have filledToo := bare.symm.trans filled
    by_cases all : ∀ pair ∈ leftPairs settings text first, ∃ t, writeReading settings (pair.1, .ok pair.2) = .ok t
    · -- Each pair is written by itself, so one function writes those of both mappings.
      have each : ∀ pair ∈ leftPairs settings text first,
          writeReading settings (pair.1, .ok pair.2) = .ok (writtenPair settings pair) :=
        fun pair inside => writeReading_of_exists (all pair inside)
      have behind := pairsBehind_of_written others filledToo fun pair inside => each pair (left.mem_iff.mpr inside)
      rw [← left.isEmpty_eq] at behind
      exact .inr (.inr ⟨route, _, writtenPair settings, pairsBehind_of_written distinct filled each, behind⟩)
    · have stuck : ¬∀ pair ∈ leftPairs settings text second, ∃ t, writeReading settings (pair.1, .ok pair.2) = .ok t :=
        fun done => all fun pair inside => done pair (left.mem_iff.mp inside)
      obtain ⟨run, failed, unwritten⟩ := resolve_of_unwritten distinct filled firsts all
      obtain ⟨other, fails, unwrittenToo⟩ := resolve_of_unwritten others filledToo seconds stuck
      exact .inr (.inl ⟨run, other, failed, fails, unwritten, unwrittenToo⟩)

/-- A name in another case and an absent value among what is left over, behind a query that has been opened. -/
theorem resolve_perm_queried :
    let text : Text := "/u/\x7bID\x7d?\x7bq\x7d"
    let first : List (Text × Value) :=
      [("a", .text "x y"), ("id", .int 7), ("s", .absent), ("q", .text "&"), ("B", .bool true)]
    let second : List (Text × Value) :=
      [("B", .bool true), ("q", .text "&"), ("a", .text "x y"), ("s", .absent), ("id", .int 7)]
    first.Perm second ∧ (first.map fun pair => pair.1.lower).Nodup ∧
      (∀ pair ∈ first, pair.2.isAbsent = false → ∃ component, pair.2.component {} = .ok component) ∧
      resolve {} text (some ((Form.mapping "dict").bag first)) = .ok "/u/7?q=%26&a=x%20y&B=true" ∧
      resolve {} text (some ((Form.mapping "dict").bag second)) = .ok "/u/7?q=%26&B=true&a=x%20y" ∧
      ∃ write, PairsBehind {} text "dict" first "/u/7?q=%26" "&" write ∧
        PairsBehind {} text "dict" second "/u/7?q=%26" "&" write := by
  intro text first second
  have perm : first.Perm second := by decide +kernel
  have distinct : (first.map fun pair => pair.1.lower).Nodup := by decide +kernel
  have written : ∀ pair ∈ first, pair.2.isAbsent = false → ∃ component, pair.2.component {} = .ok component := by
    simp only [first, List.forall_mem_cons]
    exact ⟨fun _ => ⟨_, rfl⟩, fun _ => ⟨_, rfl⟩, fun present => (by cases present), fun _ => ⟨_, rfl⟩, fun _ => ⟨_, rfl⟩,
      by simp⟩
  have one : resolve {} text (some ((Form.mapping "dict").bag first)) = .ok "/u/7?q=%26&a=x%20y&B=true" := by rfl
  have two : resolve {} text (some ((Form.mapping "dict").bag second)) = .ok "/u/7?q=%26&B=true&a=x%20y" := by rfl
  refine ⟨perm, distinct, written, one, two, ?_⟩
  rcases resolve_perm {} text "dict" perm distinct written with ⟨e, failed, _⟩ | ⟨run, _, failed, _⟩ |
    ⟨filled, between, write, here, there⟩
  · cases one.symm.trans failed
  · cases one.symm.trans failed
  · have bare : resolve (Settings.bare {}) text (some ((Form.mapping "dict").bag first)) = .ok "/u/7?q=%26" := by rfl
    cases here.bare.symm.trans bare
    have separated : between = Text.ofString "&" := here.separated.trans (by rfl)
    exact ⟨write, separated ▸ here, separated ▸ there⟩

/-- Of two names that cannot be written, the one that comes first is told. -/
theorem resolve_perm_unwritten :
    let first : List (Text × Value) := [([0xD800], .int 1), ([CodePoint.ofChar 'x', 0xD800], .int 1)]
    let second : List (Text × Value) := [([CodePoint.ofChar 'x', 0xD800], .int 1), ([0xD800], .int 1)]
    first.Perm second ∧ (first.map fun pair => pair.1.lower).Nodup ∧
      (∀ pair ∈ first, ∃ component, pair.2.component {} = .ok component) ∧
      resolve {} "/a" (some ((Form.mapping "dict").bag first)) = .error (.surrogates ⟨0xD800, 0, 1⟩) ∧
      resolve {} "/a" (some ((Form.mapping "dict").bag second)) = .error (.surrogates ⟨0xD800, 1, 1⟩) := by
  intro first second
  have written : ∀ pair ∈ first, ∃ component, pair.2.component {} = .ok component := by
    simp only [first, List.forall_mem_cons]
    exact ⟨⟨_, rfl⟩, ⟨_, rfl⟩, by simp⟩
  exact ⟨List.Perm.swap _ _ _, by decide +kernel, written, rfl, rfl⟩

end RouteTemplate
