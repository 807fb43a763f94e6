import RouteTemplate.Proofs.Bag.Shape
import RouteTemplate.Proofs.Route.Missing
import RouteTemplate.Proofs.Template.Marker
import RouteTemplate.Proofs.Text.Utf8

set_option autoImplicit false

namespace RouteTemplate

/-- What stands under the name of an accessor can be read, and it can be written with its name. -/
def Writable (settings : Settings) (bag : Bag) (a : Accessor) : Prop :=
  (∃ name, Percent.encodeText a.name = .ok name) ∧
    ∃ v, bag.read a.reader = .ok v ∧ (v.isAbsent = false → ∃ component, v.component settings = .ok component)

section Writable

variable {settings : Settings} {bag : Bag} {accessors : List Accessor}

theorem renders_of_writable (writable : ∀ a ∈ accessors, Writable settings bag a) (t : Template) :
    Renders settings t bag (.ofList accessors) where
  entries a inside := (writable a inside).2
  names _ reading left := by
    obtain ⟨a, inside, rfl⟩ := List.mem_map.mp (List.mem_filter.mp left).1
    exact (writable a inside).1

/-- Where all can be written, a placeholder of the template has no value or the template is refused. -/
theorem resolve_error {text : Text} {e : ResolveError} (listed : bag.accessorList = .ok accessors)
    (writable : ∀ a ∈ accessors, Writable settings bag a) (failed : resolve settings text (some bag) = .error e) :
    (∃ name ∈ (Template.parse text).names, e = .missing name text) ∨ ∃ offset : Nat, e = .malformed text offset := by
  cases stopped : refused settings text (Template.parse text) with
  | some told =>
    unfold resolve at failed
    dsimp only at failed
    rw [stopped] at failed
    cases failed
    exact .inr (refused_eq_some stopped)
  | none =>
    have known : bag.accessors = .ok (.ofList accessors) := by
      rw [Bag.accessors, listed]
      rfl
    rcases resolve_cases known (renders_of_writable writable _) stopped with
      ⟨p, ⟨before, after, whole, _⟩, missing⟩ | ⟨_, route, done⟩
    · cases failed.symm.trans missing
      refine .inl ⟨p.name, ?_, rfl⟩
      rw [← Template.map_name_placeholders, whole]
      exact List.mem_map_of_mem (List.mem_append_right before List.mem_cons_self)
    · cases failed.symm.trans done

end Writable

/-- The text has no surrogates. -/
def Text.IsPlain (t : Text) : Prop := ∀ c ∈ t, c.isSurrogate = false

-- The points of the text are looked at, not all there are.
instance (t : Text) : Decidable t.IsPlain := List.decidableBAll (fun c : CodePoint => c.isSurrogate = false) t

theorem Percent.encodeText_of_isPlain {t : Text} (plain : t.IsPlain) :
    Percent.encodeText t = .ok (Percent.encode t.octets) := by
  rw [encodeText, Text.encode_eq_ok plain]
  rfl

theorem Value.component_text {t : Text} (plain : t.IsPlain) (settings : Settings) :
    (Value.text t).component settings = .ok (Percent.encode t.octets) := by
  have shown : (Value.text t).shown settings = .ok t := rfl
  have rendered : (Value.text t).rendered settings = .ok t.octets := by
    rw [Value.rendered, shown]
    dsimp only [Value.octetContent?]
    rw [Text.encode_eq_ok plain]
  rw [Value.component, rendered]
  rfl

/-- An entry of texts that can be written. -/
def IsPlainEntry (entry : Value × Value) : Prop :=
  ∃ name value : Text, entry = (.text name, .text value) ∧ name.IsPlain ∧ value.IsPlain

theorem mem_putEntry {key value : Value} {entries : List (Value × Value)} {entry : Value × Value}
    (inside : entry ∈ Value.putEntry key value entries) :
    entry = (key, value) ∨ entry ∈ entries ∨ ∃ old ∈ entries, entry = (old.1, value) := by
  induction entries with
  | nil => exact .inl (List.mem_singleton.mp inside)
  | cons first entries ih =>
    rw [Value.putEntry] at inside
    split at inside
    · rcases List.mem_cons.mp inside with replaced | later
      · exact .inr (.inr ⟨first, List.mem_cons_self, replaced⟩)
      · exact .inr (.inl (List.mem_cons_of_mem first later))
    · rcases List.mem_cons.mp inside with rfl | later
      · exact .inr (.inl List.mem_cons_self)
      · rcases ih later with new | stored | ⟨old, stored, replaced⟩
        · exact .inl new
        · exact .inr (.inl (List.mem_cons_of_mem _ stored))
        · exact .inr (.inr ⟨old, List.mem_cons_of_mem _ stored, replaced⟩)

theorem isPlainEntry_of_mem_putEntry {key value : Value} {entries : List (Value × Value)}
    (new : IsPlainEntry (key, value)) (plain : ∀ entry ∈ entries, IsPlainEntry entry) :
    ∀ entry ∈ Value.putEntry key value entries, IsPlainEntry entry := by
  intro entry inside
  rcases mem_putEntry inside with rfl | stored | ⟨old, stored, rfl⟩
  · exact new
  · exact plain entry stored
  · obtain ⟨name, _, rfl, named, _⟩ := plain old stored
    obtain ⟨_, t, same, _, valued⟩ := new
    cases same
    exact ⟨name, t, rfl, named, valued⟩

theorem isPlainEntry_of_mem_entriesOf {pairs : List (Value × Value)} (plain : ∀ pair ∈ pairs, IsPlainEntry pair) :
    ∀ entry ∈ Value.entriesOf pairs, IsPlainEntry entry := by
  suffices grown : ∀ entries : List (Value × Value), (∀ entry ∈ entries, IsPlainEntry entry) →
      ∀ entry ∈ pairs.foldl (fun entries pair => Value.putEntry pair.1 pair.2 entries) entries, IsPlainEntry entry from
    grown [] fun entry impossible => by cases impossible
  induction pairs with
  | nil => exact fun _ stored => stored
  | cons pair pairs ih =>
    intro entries stored
    have first := isPlainEntry_of_mem_putEntry (plain pair List.mem_cons_self) stored
    exact ih (fun other inside => plain other (List.mem_cons_of_mem pair inside)) _ first

theorem writable_of_plain {settings : Settings} {type : Text} {entries : List (Value × Value)}
    (plain : ∀ entry ∈ entries, IsPlainEntry entry) :
    ∀ a ∈ entryReaders 0 (entries.map (·.1)), Writable settings (.mapping type entries) a := by
  intro a inside
  obtain ⟨⟨name, index⟩, listed, rfl⟩ := List.mem_map.mp inside
  obtain ⟨key, given, text⟩ := List.mem_filterMap.mp (List.fst_mem_of_mem_zipIdx listed)
  obtain ⟨entry, own, rfl⟩ := List.mem_map.mp given
  obtain ⟨_, _, rfl, named, _⟩ := plain entry own
  cases text
  refine ⟨⟨_, Percent.encodeText_of_isPlain named⟩, _, rfl, ?_⟩
  cases stored : entries[index]? with
  | none => exact fun present => by cases present
  | some found =>
    obtain ⟨_, value, rfl, _, valued⟩ := plain found (List.mem_of_getElem? stored)
    exact fun _ => ⟨_, Value.component_text valued settings⟩

theorem regular_of_plain {type : Text} {entries : List (Value × Value)} (plain : ∀ entry ∈ entries, IsPlainEntry entry) :
    (Bag.mapping type entries).Regular := by
  intro entry inside
  obtain ⟨name, _, rfl, _⟩ := plain entry inside
  exact ⟨name, rfl⟩

/-- A mapping of texts that can be written lacks a value, or the template is refused; nothing else goes wrong. -/
theorem resolve_error_of_plain {settings : Settings} {text type : Text} {entries : List (Value × Value)}
    (plain : ∀ entry ∈ entries, IsPlainEntry entry) {e : ResolveError}
    (failed : resolve settings text (some (.mapping type entries)) = .error e) :
    (∃ name ∈ (Template.parse text).names, e = .missing name text) ∨ ∃ offset : Nat, e = .malformed text offset := by
  have listed : (Bag.mapping type entries).accessorList = .ok (entryReaders 0 (entries.map (·.1))) :=
    entryAccessors_eq (regular_of_plain plain : (Bag.mapping type entries).Regular) 0
  exact resolve_error listed (writable_of_plain plain) failed

end RouteTemplate
