import RouteTemplate.Proofs.Bag.Accessors
import RouteTemplate.Proofs.Route.Parts
import RouteTemplate.Proofs.Template.Braces
import RouteTemplate.Proofs.Template.Marker

/-!
Where the values of a bag go. A resolved route is its template with something in place of every placeholder and pairs
behind it, and each of these shows one entry of the bag. No value is lost and none is sent twice: an entry fills all
placeholders of its name, or follows as one pair, or stands behind an earlier entry of a name that was asked for.
-/

set_option autoImplicit false

namespace RouteTemplate

variable {settings : Settings} {accessors : Accessors} {bag : Bag} {text filled : Text} {segments : List Segment}

/-- A text in which placeholders, read from an offset on, are replaced where they stand. -/
def replaced (text : Text) : (start : Nat) → List (Placeholder × Text) → Text
  | start, [] => text.drop start
  | start, (p, piece) :: rest => text.slice start p.offset ++ (piece ++ replaced text p.endOffset rest)

/-- Filling segments replaces their placeholders where they stand in the text and leaves what follows them alone. -/
theorem substitute_replaced {template : Text} (before rest : Text) {marked : Bool}
    (done : substitute settings accessors bag template marked segments = .ok filled) :
    ∃ pieces,
      List.Forall₂ (fun p piece => fill settings accessors bag template p.kind p.name = .ok piece)
        (Template.placeholdersFrom before.length marked segments) pieces ∧
      replaced (before ++ (segments.flatMap Template.segmentSource ++ rest)) before.length
        ((Template.placeholdersFrom before.length marked segments).zip pieces) = filled ++ rest := by
  induction segments generalizing before marked filled with
  | nil =>
    cases done
    exact ⟨[], .nil, List.drop_left⟩
  | cons s segments ih =>
    obtain ⟨piece, later, first, second, rfl⟩ := substitute_cons_ok done
    obtain ⟨pieces, fills, whole⟩ := ih (before ++ Template.segmentSource s) second
    have gap := Template.slice_gap before s (segments.flatMap Template.segmentSource ++ rest)
    rw [Template.length_append_segmentSource] at fills whole
    rw [List.append_assoc] at whole
    refine ⟨piece :: pieces, .cons first fills, ?_⟩
    rw [List.flatMap_cons, List.append_assoc]
    simp only [Template.placeholdersFrom, List.zip_cons_cons, replaced, gap, Placeholder.endOffset, whole,
      List.append_assoc]

/-- Something that a route shows: the index of an entry of the bag, and the text that stands for its value. -/
structure Shown where
  entry : Nat
  text : Text

/-- A placeholder shows the first entry of its name: the bare component of its value before the query marker, with the
name of the placeholder after it. -/
def Fills (settings : Settings) (bag : Bag) (entries : List Accessor) (marker : Option Nat) (p : Placeholder)
    (shown : Shown) : Prop :=
  (entries.findIdx? fun a => a.name.lower = p.name.lower) = some shown.entry ∧
    ∃ a v component, entries[shown.entry]? = some a ∧ bag.read a.reader = .ok v ∧ v.isAbsent = false ∧
      v.component settings = .ok component ∧
      shown.text = if marker.any (· < p.offset) then pairText p.name component else component

/-- A pair shows an entry: its name and its value, both escaped. -/
def Follows (settings : Settings) (bag : Bag) (entries : List Accessor) (shown : Shown) : Prop :=
  ∃ a, entries[shown.entry]? = some a ∧ PairOf settings (a.name, bag.read a.reader) shown.text ∧
    readsAbsent (bag.read a.reader) = false

/-- A route is put together from what fills the placeholders of its template and from pairs behind it, in the order of
the bag. -/
structure Composed (settings : Settings) (text : Text) (bag : Bag) (entries : List Accessor) (route : Text)
    (fillings pairs : List Shown) : Prop where
  route_eq : route = appendPairs (Template.parse text).hasQueryMarker
    (replaced text 0 ((Template.parse text).placeholders.zip (fillings.map Shown.text))) (pairs.map Shown.text)
  fills : List.Forall₂ (Fills settings bag entries (Template.parse text).queryMarker?)
    (Template.parse text).placeholders fillings
  follows : ∀ shown ∈ pairs, Follows settings bag entries shown
  ordered : (pairs.map Shown.entry).Pairwise (· < ·)

/-- Does some placeholder ask for a name, whatever its case? -/
def Template.Asks (t : Template) (name : Text) : Prop := ∃ p ∈ t.placeholders, p.name.lower = name.lower

/-- Does an entry before an index have a name, whatever its case? -/
def HasEarlier (entries : List Accessor) (index : Nat) (name : Text) : Prop :=
  ∃ j < index, ∃ b, entries[j]? = some b ∧ b.name.lower = name.lower

/-- The first entry of a name that is asked for: all placeholders of the name show it, no other, and no pair. -/
def InPlace (t : Template) (entries : List Accessor) (fillings pairs : List Shown) (index : Nat) (name : Text) : Prop :=
  ¬HasEarlier entries index name ∧ t.Asks name ∧
    (∀ p shown, (p, shown) ∈ t.placeholders.zip fillings → (shown.entry = index ↔ p.name.lower = name.lower)) ∧
    index ∉ pairs.map Shown.entry

/-- An entry of a name that is not asked for: no placeholder shows it, and one pair does. -/
def Appended (t : Template) (fillings pairs : List Shown) (index : Nat) (name : Text) : Prop :=
  ¬t.Asks name ∧ index ∉ fillings.map Shown.entry ∧ (pairs.map Shown.entry).count index = 1

/-- An entry behind another of a name that is asked for: nothing shows it. -/
def Shadowed (t : Template) (entries : List Accessor) (fillings pairs : List Shown) (index : Nat) (name : Text) : Prop :=
  HasEarlier entries index name ∧ t.Asks name ∧ index ∉ fillings.map Shown.entry ∧ index ∉ pairs.map Shown.entry

def ExactlyOne (p q r : Prop) : Prop := p ∧ ¬q ∧ ¬r ∨ ¬p ∧ q ∧ ¬r ∨ ¬p ∧ ¬q ∧ r

theorem Template.asks_iff {t : Template} {name : Text} :
    t.Asks name ↔ (t.names.map Text.lower).contains name.lower = true := by
  rw [List.contains_iff_mem, ← map_name_placeholders, List.map_map, List.mem_map]
  rfl

theorem fills_of_fill {template : Text} {t : Template} {p : Placeholder} {piece : Text} {entries : List Accessor}
    (inside : p ∈ t.placeholders)
    (done : fill settings (Accessors.ofList entries) bag template p.kind p.name = .ok piece) :
    ∃ shown, Fills settings bag entries t.queryMarker? p shown ∧ shown.text = piece := by
  obtain ⟨a, v, component, found, read, present, written, rfl⟩ := fill_ok done
  rw [Accessors.find?_ofList] at found
  obtain ⟨named, index, bound, entry, earlier⟩ := List.find?_eq_some_iff_getElem.mp found
  have first : (entries.findIdx? fun a => a.name.lower = p.name.lower) = some index := by
    rw [List.findIdx?_eq_some_iff_getElem]
    refine ⟨bound, by rw [entry]; exact named, fun j before => by simpa using earlier j before⟩
  have known : entries[index]? = some a := by rw [List.getElem?_eq_getElem bound, entry]
  refine ⟨⟨index, placed p.kind p.name component⟩, ⟨first, a, v, component, known, read, present, written, ?_⟩, rfl⟩
  rw [Template.kind_eq inside]
  split
  · rfl
  · rfl

theorem exists_fillings {template : Text} {t : Template} {entries : List Accessor} {placeholders : List Placeholder}
    {pieces : List Text} (part : ∀ p ∈ placeholders, p ∈ t.placeholders)
    (done : List.Forall₂ (fun p piece => fill settings (Accessors.ofList entries) bag template p.kind p.name = .ok piece)
      placeholders pieces) :
    ∃ fillings, List.Forall₂ (Fills settings bag entries t.queryMarker?) placeholders fillings ∧
      fillings.map Shown.text = pieces := by
  induction done with
  | nil => exact ⟨[], .nil, rfl⟩
  | cons first _ ih =>
    obtain ⟨shown, fills, rfl⟩ := fills_of_fill (part _ List.mem_cons_self) first
    obtain ⟨fillings, later, rfl⟩ := ih fun p inside => part p (List.mem_cons_of_mem _ inside)
    exact ⟨shown :: fillings, .cons fills later, rfl⟩

/-- Readings with their indices keep them when pairs are made of them. -/
theorem exists_shown {sources : List (Accessor × Nat)} {pairs : List Text}
    (rendered : List.Forall₂ (PairOf settings) (sources.map fun source => (source.1.name, bag.read source.1.reader))
      pairs) :
    ∃ all : List Shown, all.map Shown.entry = sources.map Prod.snd ∧ all.map Shown.text = pairs ∧
      ∀ shown ∈ all, ∃ source ∈ sources, shown.entry = source.2 ∧
        PairOf settings (source.1.name, bag.read source.1.reader) shown.text := by
  induction sources generalizing pairs with
  | nil =>
    cases rendered
    exact ⟨[], rfl, rfl, by simp⟩
  | cons source sources ih =>
    obtain ⟨pair, rest, first, second, rfl⟩ := List.forall₂_cons_left_iff.mp rendered
    obtain ⟨all, entries, texts, sound⟩ := ih second
    refine ⟨⟨source.2, pair⟩ :: all, by simp [entries], by simp [texts], ?_⟩
    intro shown inside
    rcases List.mem_cons.mp inside with rfl | later
    · exact ⟨source, List.mem_cons_self, rfl, first⟩
    · obtain ⟨origin, member, same⟩ := sound shown later
      exact ⟨origin, List.mem_cons_of_mem _ member, same⟩

/-- The entries that remain when the names of a template are consumed, with their indices. -/
def Template.sources (t : Template) (bag : Bag) (entries : List Accessor) : List (Accessor × Nat) :=
  entries.zipIdx.filter fun source => remains (t.names.map Text.lower) (source.1.name, bag.read source.1.reader)

theorem Template.map_sources (t : Template) (bag : Bag) (accessors : Accessors) :
    (t.sources bag accessors.toList).map (fun source => (source.1.name, bag.read source.1.reader)) =
      t.remaining bag accessors := by
  have entries : accessors.toList = accessors.toList.zipIdx.map Prod.fst := (List.zipIdx_map_fst 0 _).symm
  rw [remaining, Bag.readings, entries, List.map_map, List.filter_map, ← entries]
  rfl

theorem Template.sources_ordered (t : Template) (bag : Bag) (entries : List Accessor) :
    ((t.sources bag entries).map Prod.snd).Pairwise (· < ·) := by
  have indices : (entries.zipIdx.map Prod.snd).Pairwise (· < ·) := by
    rw [List.zipIdx_map_snd]
    exact List.pairwise_lt_range'
  exact indices.sublist (List.filter_sublist.map Prod.snd)

theorem Template.mem_sources_iff {t : Template} {entries : List Accessor} {a : Accessor} {index : Nat} {v : Value}
    (entry : entries[index]? = some a) (read : bag.read a.reader = .ok v) (present : v.isAbsent = false) :
    index ∈ (t.sources bag entries).map Prod.snd ↔ ¬t.Asks a.name := by
  have kept : remains (t.names.map Text.lower) (a.name, bag.read a.reader) = true ↔ ¬t.Asks a.name := by
    rw [asks_iff]
    simp [remains, readsAbsent, read, present]
  rw [← kept, List.mem_map]
  constructor
  · rintro ⟨source, member, rfl⟩
    obtain ⟨indexed, remaining⟩ := List.mem_filter.mp member
    cases entry.symm.trans (List.mem_zipIdx_iff_getElem?.mp indexed)
    exact remaining
  · intro remaining
    exact ⟨(a, index), List.mem_filter.mpr ⟨List.mem_zipIdx_iff_getElem?.mpr entry, remaining⟩, rfl⟩

theorem composed_of_resolve {route : Text} (append : settings.appendUnconsumed = true)
    (done : resolve settings text (some bag) = .ok route) :
    ∃ accessors fillings pairs, bag.accessors = .ok accessors ∧
      Composed settings text bag accessors.toList route fillings pairs ∧
      pairs.map Shown.entry = ((Template.parse text).sources bag accessors.toList).map Prod.snd := by
  obtain ⟨accessors, filled, pairs, parts, rfl⟩ := resolve_ok done
  obtain ⟨entries, _, rfl⟩ := map_eq_ok.mp parts.known
  obtain ⟨pieces, fills, whole⟩ := substitute_replaced [] (Template.parse text).tail parts.substituted
  have source : ([] : Text) ++ ((Template.parse text).segments.flatMap Template.segmentSource ++
      (Template.parse text).tail) = text := Template.source_parse text
  rw [source] at whole
  obtain ⟨fillings, filledFrom, rfl⟩ := exists_fillings (fun p inside => inside) fills
  have appended := parts.appended
  rw [if_pos append, ← Template.map_sources] at appended
  obtain ⟨all, indices, rfl, sound⟩ := exists_shown appended
  refine ⟨_, fillings, all, parts.known, ⟨?_, filledFrom, ?_, ?_⟩, indices⟩
  · rw [← whole]
    rfl
  · intro shown inside
    obtain ⟨source, member, same, rendered⟩ := sound shown inside
    obtain ⟨indexed, kept⟩ := List.mem_filter.mp member
    have entry := List.mem_zipIdx_iff_getElem?.mp indexed
    rw [← same] at entry
    have present : readsAbsent (bag.read source.1.reader) = false := by
      simpa [remains] using (Bool.and_eq_true_iff.mp kept).2
    exact ⟨source.1, entry, rendered, present⟩
  · rw [indices]
    exact (Template.parse text).sources_ordered bag entries

/-- The index that is found for a name is that of its first entry. -/
theorem first_of_findIdx? {entries : List Accessor} {name : Text} {index : Nat}
    (found : (entries.findIdx? fun a => a.name.lower = name.lower) = some index) :
    (∃ a, entries[index]? = some a ∧ a.name.lower = name.lower) ∧ ¬HasEarlier entries index name := by
  obtain ⟨bound, named, before⟩ := List.findIdx?_eq_some_iff_getElem.mp found
  refine ⟨⟨entries[index], List.getElem?_eq_getElem bound, by simpa using named⟩, ?_⟩
  rintro ⟨j, earlier, b, entry, same⟩
  obtain ⟨inside, rfl⟩ := List.getElem?_eq_some_iff.mp entry
  exact absurd same (by simpa using before j earlier)

section Composed

variable {entries : List Accessor} {route : Text} {fillings pairs : List Shown} {index : Nat} {a : Accessor}
  {p : Placeholder} {shown : Shown}

theorem Composed.name_of_mem_zip (composed : Composed settings text bag entries route fillings pairs)
    (inside : (p, shown) ∈ (Template.parse text).placeholders.zip fillings) (entry : entries[shown.entry]? = some a) :
    a.name.lower = p.name.lower ∧ ¬HasEarlier entries shown.entry a.name := by
  obtain ⟨⟨b, known, same⟩, first⟩ := first_of_findIdx? (List.forall₂_zip composed.fills inside).1
  cases entry.symm.trans known
  refine ⟨same, ?_⟩
  rw [HasEarlier, same]
  exact first

/-- The placeholders of a name show its first entry. -/
theorem Composed.entry_eq_iff (composed : Composed settings text bag entries route fillings pairs)
    (entry : entries[index]? = some a) (first : ¬HasEarlier entries index a.name)
    (inside : (p, shown) ∈ (Template.parse text).placeholders.zip fillings) :
    shown.entry = index ↔ p.name.lower = a.name.lower := by
  constructor
  · rintro rfl
    exact (composed.name_of_mem_zip inside entry).1.symm
  · intro same
    obtain ⟨⟨b, known, named⟩, unique⟩ := first_of_findIdx? (List.forall₂_zip composed.fills inside).1
    rcases Nat.lt_trichotomy shown.entry index with before | equal | after
    · exact absurd ⟨shown.entry, before, b, known, named.trans same⟩ first
    · exact equal
    · exact absurd ⟨index, after, a, entry, same.symm⟩ unique

/-- No placeholder shows an entry whose name is not asked for, or has an entry before it. -/
theorem Composed.not_mem_fillings (composed : Composed settings text bag entries route fillings pairs)
    (entry : entries[index]? = some a)
    (unshown : ¬(Template.parse text).Asks a.name ∨ HasEarlier entries index a.name) :
    index ∉ fillings.map Shown.entry := by
  intro inside
  obtain ⟨shown, member, rfl⟩ := List.mem_map.mp inside
  obtain ⟨p, asking, pair⟩ : ∃ p ∈ (Template.parse text).placeholders,
      (p, shown) ∈ (Template.parse text).placeholders.zip fillings := by
    obtain ⟨i, bound, rfl⟩ := List.mem_iff_getElem.mp member
    have length := composed.fills.length_eq
    have inside : i < ((Template.parse text).placeholders.zip fillings).length := by
      rw [List.length_zip]
      omega
    refine ⟨(Template.parse text).placeholders[i], List.getElem_mem _, ?_⟩
    rw [← List.getElem_zip (h := inside)]
    exact List.getElem_mem inside
  obtain ⟨named, first⟩ := composed.name_of_mem_zip pair entry
  rcases unshown with unasked | earlier
  · exact unasked ⟨p, asking, named.symm⟩
  · exact first earlier

end Composed

/-- Every value of a bag is shown where it belongs and nowhere else. -/
theorem resolve_shows_once {route : Text} (append : settings.appendUnconsumed = true)
    (done : resolve settings text (some bag) = .ok route) :
    ∃ accessors fillings pairs, bag.accessors = .ok accessors ∧
      Composed settings text bag accessors.toList route fillings pairs ∧
      ∀ index a v, accessors.toList[index]? = some a → bag.read a.reader = .ok v → v.isAbsent = false →
        ExactlyOne (InPlace (Template.parse text) accessors.toList fillings pairs index a.name)
          (Appended (Template.parse text) fillings pairs index a.name)
          (Shadowed (Template.parse text) accessors.toList fillings pairs index a.name) := by
  obtain ⟨accessors, fillings, pairs, known, composed, indices⟩ := composed_of_resolve append done
  refine ⟨accessors, fillings, pairs, known, composed, ?_⟩
  intro index a v entry read present
  have follows := Template.mem_sources_iff (t := Template.parse text) entry read present
  rw [← indices] at follows
  by_cases asked : (Template.parse text).Asks a.name
  · have unpaired : index ∉ pairs.map Shown.entry := fun inside => follows.mp inside asked
    have unappended : ¬Appended (Template.parse text) fillings pairs index a.name := fun other => other.1 asked
    by_cases earlier : HasEarlier accessors.toList index a.name
    · have hidden := composed.not_mem_fillings entry (.inr earlier)
      exact .inr (.inr ⟨fun other => other.1 earlier, unappended, earlier, asked, hidden, unpaired⟩)
    · have fills (p : Placeholder) (shown : Shown)
          (inside : (p, shown) ∈ (Template.parse text).placeholders.zip fillings) :=
        composed.entry_eq_iff entry earlier inside
      exact .inl ⟨⟨earlier, asked, fills, unpaired⟩, unappended, fun other => earlier other.1⟩
  · have hidden := composed.not_mem_fillings entry (.inl asked)
    have distinct : (pairs.map Shown.entry).Nodup := composed.ordered.imp Nat.ne_of_lt
    have single : (pairs.map Shown.entry).count index = 1 := by
      rw [distinct.count, if_pos (follows.mpr asked)]
    exact .inr (.inl ⟨fun other => asked other.2.1, ⟨asked, hidden, single⟩, fun other => asked other.2.1⟩)

/-- Names that collide in lower case, asked for twice and not at all, an absent value, and a brace that is never closed. -/
theorem resolve_shows_once_colliding_names :
    let text : Text := "/\x7bId\x7d?\x7bq\x7d&\x7bID\x7d#\x7bd"
    let bag : Bag := .mapping "dict" [(.text "id", .int 1), (.text "ID", .int 2), (.text "q", .text "x y"),
      (.text "z", .int 3), (.text "n", .absent), (.text "Z", .int 4)]
    let accessors : Accessors := .ofList [⟨"id", .entry 0⟩, ⟨"ID", .entry 1⟩, ⟨"q", .entry 2⟩, ⟨"z", .entry 3⟩,
      ⟨"n", .entry 4⟩, ⟨"Z", .entry 5⟩]
    let route : Text := "/1?q=x%20y&ID=1#\x7bd&z=3&Z=4"
    resolve {} text (some bag) = .ok route ∧ bag.accessors = .ok accessors ∧
      ∃ fillings pairs, Composed {} text bag accessors.toList route fillings pairs ∧
        ∀ index a v, accessors.toList[index]? = some a → bag.read a.reader = .ok v → v.isAbsent = false →
          ExactlyOne (InPlace (Template.parse text) accessors.toList fillings pairs index a.name)
            (Appended (Template.parse text) fillings pairs index a.name)
            (Shadowed (Template.parse text) accessors.toList fillings pairs index a.name) := by
  intro text bag accessors route
  have done : resolve {} text (some bag) = .ok route := by rfl
  have known : bag.accessors = .ok accessors := by rfl
  obtain ⟨accessors', fillings, pairs, same, composed, once⟩ := resolve_shows_once rfl done
  cases known.symm.trans same
  exact ⟨done, known, fillings, pairs, composed, once⟩

end RouteTemplate
