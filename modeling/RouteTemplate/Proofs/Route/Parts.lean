import Mathlib.Data.List.Forall2
import RouteTemplate.Proofs.Except
import RouteTemplate.Proofs.Percent
import RouteTemplate.Resolve

set_option autoImplicit false

namespace RouteTemplate

open Percent (isComponentPoint)

theorem Value.component_ok {settings : Settings} {v : Value} {component : Text}
    (done : v.component settings = .ok component) :
    ∃ octets, v.rendered settings = .ok octets ∧ component = Percent.encode octets := by
  obtain ⟨octets, rendered, rfl⟩ := map_eq_ok.mp done
  exact ⟨octets, rendered, rfl⟩

/-- A value that is not written has no text, or one with surrogates. -/
theorem Value.component_error {settings : Settings} {v : Value} {e : ResolveError} (failed : v.component settings = .error e) :
    (∃ reason, e = .unprintable reason) ∨ ∃ run, e = .surrogates run := by
  have unrendered : v.rendered settings = .error e := map_eq_error.mp failed
  unfold Value.rendered at unrendered
  split at unrendered
  · cases unrendered
  · split at unrendered
    · cases unrendered
      exact .inl ⟨_, rfl⟩
    · split at unrendered
      · cases unrendered
        exact .inr ⟨_, rfl⟩
      · cases unrendered

theorem Value.component_points {settings : Settings} {v : Value} {component : Text}
    (done : v.component settings = .ok component) : ∀ c ∈ component, isComponentPoint c = true := by
  obtain ⟨octets, _, rfl⟩ := component_ok done
  exact fun c => Percent.isComponentPoint_of_mem_encode

/-- What has been put in place of a placeholder is the component of a value under its name. -/
theorem fill_ok {settings : Settings} {accessors : Accessors} {bag : Bag} {template name filled : Text}
    {kind : PlaceholderKind} (done : fill settings accessors bag template kind name = .ok filled) :
    ∃ a v component, accessors.find? name = some a ∧ bag.read a.reader = .ok v ∧ v.isAbsent = false ∧
      v.component settings = .ok component ∧ filled = placed kind name component := by
  unfold fill at done
  split at done
  · cases done
  · next a found =>
    obtain ⟨v, read, done⟩ := bind_eq_ok.mp done
    cases absent : v.isAbsent with
    | true =>
      simp only [absent, ↓reduceIte] at done
      obtain ⟨_, impossible, _⟩ := bind_eq_ok.mp done
      exact (throw_ne_ok impossible).elim
    | false =>
      simp only [absent, Bool.false_eq_true, ↓reduceIte] at done
      obtain ⟨component, written, done⟩ := bind_eq_ok.mp done
      cases done
      exact ⟨a, v, component, found, read, absent, written, rfl⟩

/-- A placeholder is not filled when its name has no value or an absent one, when the value cannot be read, and when it
cannot be written. -/
theorem fill_error {settings : Settings} {accessors : Accessors} {bag : Bag} {template name : Text}
    {kind : PlaceholderKind} {e : ResolveError} (failed : fill settings accessors bag template kind name = .error e) :
    e = .missing name template ∧ (∀ a, accessors.find? name = some a → bag.read a.reader = .ok .absent) ∨
      ∃ a, accessors.find? name = some a ∧
        (bag.read a.reader = .error e ∨ ∃ v, bag.read a.reader = .ok v ∧ v.component settings = .error e) := by
  unfold fill at failed
  split at failed
  · next unknown =>
    cases failed
    exact .inl ⟨rfl, fun a found => by rw [unknown] at found; cases found⟩
  · next a found =>
    rcases bind_eq_error.mp failed with unread | ⟨v, read, failed⟩
    · exact .inr ⟨a, found, .inl unread⟩
    · cases absent : v.isAbsent with
      | true =>
        rw [absent] at failed
        cases failed
        refine .inl ⟨rfl, fun b same => ?_⟩
        cases found.symm.trans same
        rw [read, Value.isAbsent_iff.mp absent]
      | false =>
        rw [absent] at failed
        rcases bind_eq_error.mp failed with unwritten | ⟨_, _, impossible⟩
        · exact .inr ⟨a, found, .inr ⟨v, read, unwritten⟩⟩
        · cases impossible

def kindAfter (marked : Bool) : PlaceholderKind := if marked then .query else .path

theorem substitute_cons_ok {settings : Settings} {accessors : Accessors} {bag : Bag} {template filled : Text}
    {marked : Bool} {s : Segment} {segments : List Segment}
    (done : substitute settings accessors bag template marked (s :: segments) = .ok filled) :
    ∃ piece rest,
      fill settings accessors bag template (kindAfter (marked || s.gap.contains '?')) s.name = .ok piece ∧
      substitute settings accessors bag template (marked || s.gap.contains '?') segments = .ok rest ∧
      filled = s.gap ++ (piece ++ rest) := by
  obtain ⟨piece, first, done⟩ := bind_eq_ok.mp done
  obtain ⟨rest, second, done⟩ := bind_eq_ok.mp done
  cases done
  exact ⟨piece, rest, first, second, rfl⟩

theorem substitute_error {settings : Settings} {accessors : Accessors} {bag : Bag} {template : Text} {marked : Bool}
    {segments : List Segment} {e : ResolveError}
    (failed : substitute settings accessors bag template marked segments = .error e) :
    ∃ s ∈ segments, ∃ kind, fill settings accessors bag template kind s.name = .error e := by
  induction segments generalizing marked with
  | nil => cases failed
  | cons s segments ih =>
    rcases bind_eq_error.mp failed with here | ⟨_, _, failed⟩
    · exact ⟨s, List.mem_cons_self, _, here⟩
    · rcases bind_eq_error.mp failed with later | ⟨_, _, impossible⟩
      · obtain ⟨r, inside, unfilled⟩ := ih later
        exact ⟨r, List.mem_cons_of_mem s inside, unfilled⟩
      · cases impossible

theorem leftover?_ok {settings : Settings} {bag : Bag} {a : Accessor} {pair : Option Text}
    (done : leftover? settings bag a = .ok pair) :
    ∃ v, bag.read a.reader = .ok v ∧
      (v.isAbsent = true ∧ pair = none ∨
        v.isAbsent = false ∧ ∃ name component, Percent.encodeText a.name = .ok name ∧
          v.component settings = .ok component ∧ pair = some (pairText name component)) := by
  obtain ⟨v, read, done⟩ := bind_eq_ok.mp done
  refine ⟨v, read, ?_⟩
  cases absent : v.isAbsent with
  | true =>
    simp only [absent, ↓reduceIte, pure, Except.pure, Except.ok.injEq] at done
    exact .inl ⟨rfl, done.symm⟩
  | false =>
    simp only [absent, Bool.false_eq_true, ↓reduceIte] at done
    split at done
    · next name encoded =>
      obtain ⟨_, same, done⟩ := bind_eq_ok.mp done
      cases same
      obtain ⟨component, written, done⟩ := bind_eq_ok.mp done
      cases done
      exact .inr ⟨rfl, name, component, encoded, written, rfl⟩
    · obtain ⟨_, impossible, _⟩ := bind_eq_ok.mp done
      exact (throw_ne_ok impossible).elim

/-- The names of a bag in order, each with what is read under it. -/
def Bag.readings (bag : Bag) (accessors : Accessors) : List (Text × Except ResolveError Value) :=
  accessors.toList.map fun a => (a.name, bag.read a.reader)

def readsAbsent : Except ResolveError Value → Bool
  | .ok v => v.isAbsent
  | .error _ => false

/-- Does a reading remain when names in lower case are consumed? It does under another name, unless it is absent. -/
def remains (consumed : List Text) (reading : Text × Except ResolveError Value) : Bool :=
  !consumed.contains reading.1.lower && !readsAbsent reading.2

/-- The pair is that of a reading: its name and its value, both escaped. -/
def PairOf (settings : Settings) (reading : Text × Except ResolveError Value) (pair : Text) : Prop :=
  ∃ v name component, reading.2 = .ok v ∧ Percent.encodeText reading.1 = .ok name ∧
    v.component settings = .ok component ∧ pair = pairText name component

theorem PairOf.points {settings : Settings} {reading : Text × Except ResolveError Value} {pair : Text}
    (rendered : PairOf settings reading pair) : ∀ c ∈ pair, isComponentPoint c = true ∨ c = CodePoint.ofChar '=' := by
  obtain ⟨v, name, component, _, encoded, written, rfl⟩ := rendered
  intro c inside
  rw [pairText, List.mem_append, List.mem_cons] at inside
  rcases inside with named | mark | valued
  · exact .inl (Percent.isComponentPoint_of_mem_encodeText encoded named)
  · exact .inr mark
  · exact .inl (Value.component_points written c valued)

theorem PairOf.ne_nil {settings : Settings} {reading : Text × Except ResolveError Value} {pair : Text}
    (rendered : PairOf settings reading pair) : pair ≠ [] := by
  obtain ⟨_, name, component, _, _, _, rfl⟩ := rendered
  simp [pairText]

theorem joinWith_pairs_ne_nil {settings : Settings} {readings : List (Text × Except ResolveError Value)}
    {pairs : List Text} (rendered : List.Forall₂ (PairOf settings) readings pairs) (nonempty : pairs ≠ [])
    (between : Text) : Text.joinWith between pairs ≠ [] := by
  cases rendered with
  | nil => exact absurd rfl nonempty
  | cons first later => cases later <;> simp [Text.joinWith, first.ne_nil]

theorem points_of_pairs {settings : Settings} {readings : List (Text × Except ResolveError Value)} {pairs : List Text}
    (rendered : List.Forall₂ (PairOf settings) readings pairs) :
    ∀ pair ∈ pairs, ∀ c ∈ pair, isComponentPoint c = true ∨ c = CodePoint.ofChar '=' := by
  induction rendered with
  | nil => simp
  | cons first _ ih =>
    intro pair inside
    rcases List.mem_cons.mp inside with rfl | later
    · exact first.points
    · exact ih pair later

/-- The pairs that are appended are those of the readings that remain, in the order of the bag. -/
theorem leftovers_ok {settings : Settings} {bag : Bag} {consumed : List Text} {accessors : List Accessor}
    {pairs : List Text} (done : leftovers settings bag consumed accessors = .ok pairs) :
    List.Forall₂ (PairOf settings)
      ((accessors.map fun a => (a.name, bag.read a.reader)).filter (remains consumed)) pairs := by
  induction accessors generalizing pairs with
  | nil =>
    cases done
    exact .nil
  | cons a accessors ih =>
    unfold leftovers at done
    split at done
    · next used =>
      have skipped : remains consumed (a.name, bag.read a.reader) = false := by
        simp only [remains, used, Bool.not_true, Bool.false_and]
      rw [List.map_cons, List.filter_cons_of_neg (by simp [skipped])]
      exact ih done
    · next free =>
      obtain ⟨pair, first, done⟩ := bind_eq_ok.mp done
      obtain ⟨rest, second, done⟩ := bind_eq_ok.mp done
      cases done
      obtain ⟨v, read, ⟨absent, rfl⟩ | ⟨present, name, component, encoded, written, rfl⟩⟩ := leftover?_ok first
      · have skipped : remains consumed (a.name, bag.read a.reader) = false := by
          simp only [remains, readsAbsent, read, absent, Bool.not_true, Bool.and_false]
        rw [List.map_cons, List.filter_cons_of_neg (by simp [skipped])]
        exact ih second
      · have kept : remains consumed (a.name, bag.read a.reader) = true := by
          simp only [remains, readsAbsent, read, present, free, Bool.not_false, Bool.and_self]
        rw [List.map_cons, List.filter_cons_of_pos kept]
        exact .cons ⟨v, name, component, read, encoded, written, rfl⟩ (ih second)

/-- The readings whose pairs are appended to the route of a template. -/
def Template.remaining (t : Template) (bag : Bag) (accessors : Accessors) :
    List (Text × Except ResolveError Value) :=
  (bag.readings accessors).filter (remains (t.names.map Text.lower))

theorem refused_eq_none {settings : Settings} {text : Text} {t : Template}
    (accepted : t.unterminated? = none ∨ settings.strictTemplates = false) : refused settings text t = none := by
  rcases accepted with closed | lenient
  · simp [refused, closed]
  · simp [refused, lenient]

theorem refused_eq_some {settings : Settings} {text : Text} {t : Template} {e : ResolveError}
    (stopped : refused settings text t = some e) : ∃ offset : Nat, e = .malformed text offset := by
  unfold refused at stopped
  split at stopped
  · obtain ⟨offset, _, rfl⟩ := Option.map_eq_some_iff.mp stopped
    exact ⟨offset, rfl⟩
  · cases stopped

/-- The parts of a resolved route: the text in which placeholders are filled and the pairs appended to it. -/
structure Parts (settings : Settings) (text : Text) (bag : Bag) (accessors : Accessors) (filled : Text)
    (pairs : List Text) : Prop where
  known : bag.accessors = .ok accessors
  substituted : substitute settings accessors bag text false (Template.parse text).segments = .ok filled
  appended : List.Forall₂ (PairOf settings)
    (if settings.appendUnconsumed then (Template.parse text).remaining bag accessors else []) pairs

/-- A template that is accepted is resolved once it has been filled and what is left has been written. -/
theorem resolve_of_filled {settings : Settings} {text filled : Text} {t : Template} {bag : Bag} {accessors : Accessors}
    {pairs : List Text} (append : settings.appendUnconsumed = true) (parsed : Template.parse text = t)
    (accepted : refused settings text t = none) (known : bag.accessors = .ok accessors)
    (substituted : substitute settings accessors bag text false t.segments = .ok filled)
    (left : leftovers settings bag (t.names.map Text.lower) accessors.toList = .ok pairs) :
    resolve settings text (some bag) = .ok (appendPairs t.hasQueryMarker (filled ++ t.tail) pairs) := by
  unfold resolve
  dsimp only
  rw [parsed, accepted, known, ok_bind, resolveParsed, substituted, ok_bind, append, if_pos rfl, left]
  rfl

theorem resolve_ok {settings : Settings} {text route : Text} {bag : Bag}
    (done : resolve settings text (some bag) = .ok route) :
    ∃ accessors filled pairs, Parts settings text bag accessors filled pairs ∧
      route = appendPairs (Template.parse text).hasQueryMarker (filled ++ (Template.parse text).tail) pairs := by
  unfold resolve at done
  dsimp only at done
  split at done
  · cases done
  · obtain ⟨accessors, known, done⟩ := bind_eq_ok.mp done
    obtain ⟨filled, substituted, done⟩ := bind_eq_ok.mp done
    split at done
    · next append =>
      obtain ⟨pairs, left, done⟩ := bind_eq_ok.mp done
      cases done
      refine ⟨accessors, filled, pairs, ⟨known, substituted, ?_⟩, rfl⟩
      rw [if_pos append]
      exact leftovers_ok left
    · next keep =>
      cases done
      refine ⟨accessors, filled, [], ⟨known, substituted, ?_⟩, rfl⟩
      simp [keep]

end RouteTemplate
