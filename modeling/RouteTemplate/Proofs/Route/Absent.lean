import RouteTemplate.Proofs.Route.Composition
import RouteTemplate.Proofs.Route.Missing
import RouteTemplate.Proofs.Route.Readings

set_option autoImplicit false

namespace RouteTemplate

/-- Accessors of two bags, those of the second being left when some of the first are dropped that read the absent
value. -/
inductive Dropped (first second : Bag) : List Accessor → List Accessor → Prop
  | nil : Dropped first second [] []
  | drop {a : Accessor} {ones twos : List Accessor} (absent : first.read a.reader = .ok .absent)
      (rest : Dropped first second ones twos) : Dropped first second (a :: ones) twos
  | keep {a b : Accessor} {ones twos : List Accessor} (same : ReadsAlike first second a b)
      (rest : Dropped first second ones twos) : Dropped first second (a :: ones) (b :: twos)

theorem lacks_iff {bag : Bag} {entries : List Accessor} {name : Text} : Lacks bag entries name ↔
    ∀ a, (Accessors.ofList entries).find? name = some a → bag.read a.reader = .ok .absent := by
  cases found : (Accessors.ofList entries).find? name with
  | none => exact iff_of_true (lacks_of_find?_eq_none found) fun a impossible => by cases impossible
  | some a =>
    rw [lacks_iff_of_find?_eq_some found]
    exact ⟨fun read b same => Option.some.inj same ▸ read, fun all => all a rfl⟩

/-- The error is none that names a missing value. -/
theorem ne_missing_of_about {e : ResolveError} (untold : ∀ template, e.about template = e) (name text : Text) :
    e ≠ .missing name text := by
  rintro rfl
  have longer : ResolveError.missing name (CodePoint.ofChar '/' :: text) = .missing name text := untold _
  injection longer with _ same
  exact List.cons_ne_self _ _ same

section Missing

variable {settings : Settings} {bag : Bag} {entries : List Accessor} {name text : Text}

theorem about_of_writeReading {reading : Text × Except ResolveError Value} {bag : Bag} {r : Reader} {e : ResolveError}
    (read : reading.2 = bag.read r) (failed : writeReading settings reading = .error e) (template : Text) :
    e.about template = e := by
  rcases writeReading_error failed with unread | ⟨_, _, rfl⟩ | ⟨_, _, unwritten⟩
  · exact (ofReading_read (read.symm.trans unread)).about template
  · rfl
  · exact about_of_component unwritten template

theorem about_of_leftovers {consumed : List Text} {accessors : List Accessor} {e : ResolveError}
    (failed : leftovers settings bag consumed accessors = .error e) (template : Text) : e.about template = e := by
  obtain ⟨_, _, _, unwritten⟩ := leftovers_error failed
  exact about_of_writeReading rfl unwritten template

theorem lacks_of_fill {kind : PlaceholderKind} {asked : Text}
    (failed : fill settings (.ofList entries) bag text kind asked = .error (.missing name text)) :
    Lacks bag entries name := by
  rcases fill_error failed with ⟨same, absent⟩ | ⟨_, _, unread | ⟨_, _, unwritten⟩⟩
  · cases same
    exact lacks_iff.mpr absent
  · exact absurd rfl (ne_missing_of_about (ofReading_read unread).about name text)
  · exact absurd rfl (ne_missing_of_about (about_of_component unwritten) name text)

/-- A missing value is told only of a name that lacks one. -/
theorem lacks_of_resolve (known : bag.accessors = .ok (.ofList entries))
    (failed : resolve settings text (some bag) = .error (.missing name text)) : Lacks bag entries name := by
  rcases resolve_failed known failed with ⟨_, impossible⟩ | ⟨_, _, _, unfilled⟩ | ⟨_, _, _, _, unwritten⟩
  · cases impossible
  · exact lacks_of_fill unfilled
  · exact absurd rfl (ne_missing_of_about (about_of_writeReading rfl unwritten) name text)

end Missing

section Dropped

variable {first second : Bag} {ones twos : List Accessor} (dropped : Dropped first second ones twos)

include dropped

/-- An accessor that is found and does not read the absent value is found when others are dropped. -/
theorem find?_dropped {name : Text} {a : Accessor} (found : (Accessors.ofList ones).find? name = some a)
    (present : first.read a.reader ≠ .ok .absent) :
    ∃ b, (Accessors.ofList twos).find? name = some b ∧ ReadsAlike first second a b := by
  rw [Accessors.find?_ofList] at found ⊢
  induction dropped with
  | nil => cases found
  | @drop c _ _ absent _ ih =>
    by_cases hit : c.name.lower = name.lower
    · rw [List.find?_cons_of_pos (by simpa using hit)] at found
      cases found
      exact absurd absent present
    · rw [List.find?_cons_of_neg (by simpa using hit)] at found
      exact ih found
  | @keep c d _ _ same _ ih =>
    by_cases hit : c.name.lower = name.lower
    · have other : d.name.lower = name.lower := same.name ▸ hit
      rw [List.find?_cons_of_pos (by simpa using hit)] at found
      cases found
      exact ⟨d, by rw [List.find?_cons_of_pos (by simpa using other)], same⟩
    · have other : d.name.lower ≠ name.lower := same.name ▸ hit
      rw [List.find?_cons_of_neg (by simpa using hit)] at found
      rw [List.find?_cons_of_neg (by simpa using other)]
      exact ih found

variable (settings : Settings) (text : Text)

theorem fill_dropped (kind : PlaceholderKind) {name : Text} (agree : Lacks first ones name → Lacks second twos name) :
    fill settings (.ofList ones) first text kind name = fill settings (.ofList twos) second text kind name := by
  by_cases lacks : Lacks first ones name
  · rw [fill_of_lacks text kind lacks, fill_of_lacks text kind (agree lacks)]
  · obtain ⟨a, found, present⟩ := exists_find?_of_not_lacks lacks
    obtain ⟨b, kept, same⟩ := find?_dropped dropped found present
    unfold fill
    rw [found, kept]
    dsimp only
    rw [same.value]

/-- Filling goes the same way until it meets a name that lacks a value in the first bag alone, and there it stops. -/
theorem substitute_dropped (marked : Bool) (segments : List Segment) :
    substitute settings (.ofList ones) first text marked segments =
        substitute settings (.ofList twos) second text marked segments ∨
      ∃ s ∈ segments, ¬Lacks second twos s.name ∧
        substitute settings (.ofList ones) first text marked segments = .error (.missing s.name text) := by
  induction segments generalizing marked with
  | nil => exact .inl rfl
  | cons s segments ih =>
    unfold substitute
    dsimp only
    by_cases agree : Lacks first ones s.name → Lacks second twos s.name
    · rw [fill_dropped dropped settings text _ agree]
      cases fill settings (.ofList twos) second text
        (if marked || s.gap.contains '?' then .query else .path) s.name with
      | error e => exact .inl rfl
      | ok piece =>
        rcases ih (marked || s.gap.contains '?') with same | ⟨r, inside, held, failed⟩
        · rw [same]
          exact .inl rfl
        · refine .inr ⟨r, List.mem_cons_of_mem s inside, held, ?_⟩
          rw [failed]
          rfl
    · obtain ⟨lacks, held⟩ := Classical.not_imp.mp agree
      refine .inr ⟨s, List.mem_cons_self, held, ?_⟩
      rw [fill_of_lacks text _ lacks]
      rfl

/-- Absent values are not appended. -/
theorem leftovers_dropped (consumed : List Text) :
    leftovers settings first consumed ones = leftovers settings second consumed twos := by
  induction dropped with
  | nil => rfl
  | @drop a ones _ absent _ ih =>
    have skipped : leftover? settings first a = .ok none := by
      unfold leftover?
      rw [absent]
      rfl
    rw [← ih, leftovers, skipped]
    split
    · rfl
    · cases leftovers settings first consumed ones <;> rfl
  | @keep a b _ _ same _ ih =>
    have pair : leftover? settings first a = leftover? settings second b := by
      unfold leftover?
      rw [same.value, same.name]
    unfold leftovers
    rw [same.name, pair, ih]

/-- When absent values are dropped a template is resolved as before, or it was a placeholder that failed for want of a
value which is there now. -/
theorem resolve_dropped (known : first.accessors = .ok (.ofList ones)) (other : second.accessors = .ok (.ofList twos)) :
    resolve settings text (some first) = resolve settings text (some second) ∨
      ∃ name ∈ (Template.parse text).names, ¬Lacks second twos name ∧
        resolve settings text (some first) = .error (.missing name text) := by
  unfold resolve
  dsimp only
  cases refused settings text (Template.parse text) with
  | some e => exact .inl rfl
  | none =>
    dsimp only
    rw [known, other, ok_bind, ok_bind, resolveParsed, resolveParsed]
    have pairs := leftovers_dropped dropped settings ((Template.parse text).names.map Text.lower)
    rcases substitute_dropped dropped settings text false (Template.parse text).segments with
      same | ⟨s, inside, held, failed⟩
    · left
      rw [same]
      dsimp only [Accessors.ofList]
      rw [pairs]
    · refine .inr ⟨s.name, List.mem_map_of_mem inside, held, ?_⟩
      rw [failed]
      rfl

theorem resolve_dropped_iff (known : first.accessors = .ok (.ofList ones))
    (other : second.accessors = .ok (.ofList twos)) :
    resolve settings text (some second) = resolve settings text (some first) ↔
      ∀ name ∈ (Template.parse text).names, resolve settings text (some first) = .error (.missing name text) →
        Lacks second twos name := by
  constructor
  · intro same name _ failed
    exact lacks_of_resolve other (same.trans failed)
  · intro told
    rcases resolve_dropped dropped settings text known other with same | ⟨name, asked, held, failed⟩
    · exact same.symm
    · exact absurd (told name asked failed) held

end Dropped

def isKeyFor (name : Text) (entry : Value × Value) : Bool :=
  match entry.1.plain with
  | .ok key => key.lower = name.lower
  | .error _ => false

/-- An absent value hides another: the first entry of a name is absent, and a later one is not. -/
def Hides (entries : List (Value × Value)) (name : Text) : Prop :=
  (∃ first, entries.find? (isKeyFor name) = some first ∧ first.2.isAbsent = true) ∧
    ∃ entry ∈ entries, isKeyFor name entry = true ∧ entry.2.isAbsent = false

def presentEntries (entries : List (Value × Value)) : List (Value × Value) := entries.filter fun entry => !entry.2.isAbsent

/-- An accessor has the name of an entry and reads its value. -/
structure Shows (bag : Bag) (a : Accessor) (entry : Value × Value) : Prop where
  name : entry.1.plain = .ok a.name
  value : bag.read a.reader = .ok entry.2

section Entries

variable (type : Text)

theorem exists_entryAccessors {all rest : List (Value × Value)} {index : Nat} (behind : all.drop index = rest)
    (keys : ∀ entry ∈ rest, ∃ name, entry.1.plain = .ok name) :
    ∃ accessors, Bag.entryAccessors index rest = .ok accessors ∧
      List.Forall₂ (Shows (.mapping type all)) accessors rest := by
  induction rest generalizing index with
  | nil => exact ⟨[], rfl, .nil⟩
  | cons entry rest ih =>
    have here : all[index]? = some entry := by
      rw [← List.head?_drop, behind]
      rfl
    have later : all.drop (index + 1) = rest := by
      rw [← List.tail_drop, behind]
      rfl
    obtain ⟨name, written⟩ := keys entry List.mem_cons_self
    obtain ⟨accessors, listed, shown⟩ := ih later fun other inside => keys other (List.mem_cons_of_mem entry inside)
    refine ⟨⟨name, .entry index⟩ :: accessors, ?_, .cons ⟨written, ?_⟩ shown⟩
    · simp only [Bag.entryAccessors, written, listed]
      rfl
    · simp only [Bag.read, here]
      rfl

/-- A mapping whose keys can be written has an accessor for each entry. -/
theorem exists_accessors {entries : List (Value × Value)} (keys : ∀ entry ∈ entries, ∃ name, entry.1.plain = .ok name) :
    ∃ accessors, (Bag.mapping type entries).accessors = .ok (.ofList accessors) ∧
      List.Forall₂ (Shows (.mapping type entries)) accessors entries := by
  obtain ⟨accessors, listed, shown⟩ := exists_entryAccessors type List.drop_zero keys
  exact ⟨accessors, map_eq_ok.mpr ⟨accessors, listed, rfl⟩, shown⟩

theorem dropped_of_shows {first second : Bag} {ones twos : List Accessor} {entries : List (Value × Value)}
    (one : List.Forall₂ (Shows first) ones entries) (two : List.Forall₂ (Shows second) twos (presentEntries entries)) :
    Dropped first second ones twos := by
  induction one generalizing twos with
  | nil =>
    cases two
    exact .nil
  | @cons a entry _ _ head _ ih =>
    rw [presentEntries, List.filter_cons] at two
    cases absent : entry.2.isAbsent with
    | true =>
      rw [absent] at two
      refine .drop ?_ (ih two)
      rw [head.value, Value.isAbsent_iff.mp absent]
    | false =>
      rw [absent] at two
      obtain ⟨b, rest, other, later, rfl⟩ := List.forall₂_cons_right_iff.mp two
      have name : a.name = b.name := Except.ok.inj (head.name.symm.trans other.name)
      exact .keep ⟨name, head.value.trans other.value.symm⟩ (ih later)

/-- A name lacks a value when the first entry that is written as the name is absent, and when there is none. -/
theorem lacks_iff_of_shows {bag : Bag} {accessors : List Accessor} {entries : List (Value × Value)}
    (shown : List.Forall₂ (Shows bag) accessors entries) (name : Text) :
    Lacks bag accessors name ↔
      ∀ entry, entries.find? (isKeyFor name) = some entry → entry.2.isAbsent = true := by
  rw [lacks_iff, Accessors.find?_ofList]
  induction shown with
  | nil => exact iff_of_true (fun _ impossible => by cases impossible) fun _ impossible => by cases impossible
  | @cons a entry _ _ head _ ih =>
    have key : isKeyFor name entry = decide (a.name.lower = name.lower) := by rw [isKeyFor, head.name]
    by_cases hit : a.name.lower = name.lower
    · rw [List.find?_cons_of_pos (by simpa using hit), List.find?_cons_of_pos (by simpa [key] using hit)]
      simp [head.value]
    · rw [List.find?_cons_of_neg (by simpa using hit), List.find?_cons_of_neg (by simpa [key] using hit)]
      exact ih

theorem lacks_present_iff {bag : Bag} {accessors : List Accessor} {entries : List (Value × Value)}
    (shown : List.Forall₂ (Shows bag) accessors (presentEntries entries)) (name : Text) :
    Lacks bag accessors name ↔ ∀ entry ∈ entries, isKeyFor name entry = true → entry.2.isAbsent = true := by
  rw [lacks_iff_of_shows shown]
  constructor
  · intro first entry inside named
    rw [← Bool.not_eq_false]
    intro present
    have kept : entry ∈ presentEntries entries := List.mem_filter.mpr ⟨inside, by rw [present]; rfl⟩
    obtain ⟨other, found⟩ := Option.isSome_iff_exists.mp (List.find?_isSome.mpr ⟨entry, kept, named⟩)
    have valued := (List.mem_filter.mp (List.mem_of_find?_eq_some found)).2
    rw [first other found] at valued
    cases valued
  · intro all entry found
    exact all entry (List.mem_filter.mp (List.mem_of_find?_eq_some found)).1 (List.find?_some found)

end Entries

/-- Whatever template is resolved, absent values may as well be left out of a mapping, unless resolution fails for want
of a value under a name where an absent value hides another. -/
theorem resolve_present_iff (settings : Settings) (text type : Text) {entries : List (Value × Value)}
    (keys : ∀ entry ∈ entries, ∃ name, entry.1.plain = .ok name) :
    resolve settings text (some (.mapping type (presentEntries entries))) =
        resolve settings text (some (.mapping type entries)) ↔
      ∀ name ∈ (Template.parse text).names, Hides entries name →
        resolve settings text (some (.mapping type entries)) ≠ .error (.missing name text) := by
  obtain ⟨ones, known, shown⟩ := exists_accessors type keys
  have kept : ∀ entry ∈ presentEntries entries, ∃ name, entry.1.plain = .ok name := fun entry inside =>
    keys entry (List.mem_filter.mp inside).1
  obtain ⟨twos, other, left⟩ := exists_accessors type kept
  rw [resolve_dropped_iff (dropped_of_shows shown left) settings text known other]
  constructor
  · rintro told name asked ⟨_, entry, inside, named, present⟩ failed
    have absent := (lacks_present_iff left name).mp (told name asked failed) entry inside named
    rw [present] at absent
    cases absent
  · intro unhidden name asked failed
    have lacks := (lacks_iff_of_shows shown name).mp (lacks_of_resolve known failed)
    rw [lacks_present_iff left]
    intro entry inside named
    rw [← Bool.not_eq_false]
    intro present
    obtain ⟨first, found⟩ := Option.isSome_iff_exists.mp (List.find?_isSome.mpr ⟨entry, inside, named⟩)
    exact unhidden name asked ⟨⟨first, found, lacks first found⟩, entry, inside, named, present⟩ failed

/-- An absent value hides another under a name that no placeholder asks for, and one stands behind the value of a name
that is asked for. -/
theorem resolve_present_iff_unasked :
    let text : Text := "/\x7ba\x7d"
    let entries : List (Value × Value) :=
      [(.text "Q", .absent), (.text "a", .int 1), (.text "A", .absent), (.text "q", .text "x y")]
    (∀ entry ∈ entries, ∃ name, entry.1.plain = .ok name) ∧ Hides entries "q" ∧
      resolve {} text (some (.mapping "dict" entries)) = .ok "/1?q=x%20y" ∧
      resolve {} text (some (.mapping "dict" (presentEntries entries))) = .ok "/1?q=x%20y" := by
  intro text entries
  have keys : ∀ entry ∈ entries, ∃ name, entry.1.plain = .ok name := by
    simp only [entries, List.forall_mem_cons]
    exact ⟨⟨_, rfl⟩, ⟨_, rfl⟩, ⟨_, rfl⟩, ⟨_, rfl⟩, by simp⟩
  have hidden : Hides entries "q" := ⟨⟨_, rfl, rfl⟩, (.text "q", .text "x y"), by simp [entries], rfl, rfl⟩
  have done : resolve {} text (some (.mapping "dict" entries)) = .ok "/1?q=x%20y" := by rfl
  refine ⟨keys, hidden, done, ((resolve_present_iff {} text "dict" keys).mpr ?_).trans done⟩
  intro name _ _ failed
  cases done.symm.trans failed

/-- The first entry of the name is absent, so the second is not looked at. -/
theorem resolve_present_hidden :
    let text : Text := "/\x7bid\x7d"
    let entries : List (Value × Value) := [(.text "Id", .absent), (.text "ID", .int 5)]
    Hides entries "id" ∧ presentEntries entries = [(.text "ID", .int 5)] ∧
      resolve {} text (some (.mapping "dict" entries)) = .error (.missing "id" text) ∧
      resolve {} text (some (.mapping "dict" (presentEntries entries))) = .ok "/5" := by
  intro text entries
  exact ⟨⟨⟨_, rfl, rfl⟩, (.text "ID", .int 5), by simp [entries], rfl, rfl⟩, rfl, rfl, rfl⟩

end RouteTemplate
