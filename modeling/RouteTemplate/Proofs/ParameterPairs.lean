import RouteTemplate.ParameterPairs
import RouteTemplate.Proofs.Except
import RouteTemplate.Proofs.Table
import RouteTemplate.Proofs.Text.Cut
import RouteTemplate.Proofs.Text.Quoted

set_option autoImplicit false

namespace RouteTemplate

/-- Is the entry no pair? It has no equals sign, or nothing in front of its first. -/
def IsBadEntry (entry : Text) : Prop := CodePoint.ofChar '=' ∉ entry ∨ entry.head? = some (CodePoint.ofChar '=')

instance (entry : Text) : Decidable (IsBadEntry entry) :=
  inferInstanceAs (Decidable (CodePoint.ofChar '=' ∉ entry ∨ entry.head? = some (CodePoint.ofChar '=')))

/-- What stands in front of the first equals sign. -/
def entryName (entry : Text) : Text := entry.takeWhile fun c => c ≠ CodePoint.ofChar '='

/-- What stands behind the first equals sign. -/
def entryValue (entry : Text) : Text := (entry.dropWhile fun c => c ≠ CodePoint.ofChar '=').tail

/-- The entry of a name with a value. -/
def pairEntry (pair : Text × Text) : Text := pair.1 ++ CodePoint.ofChar '=' :: pair.2

theorem splitFirst_entry {entry : Text} (marked : CodePoint.ofChar '=' ∈ entry) :
    Text.splitFirst '=' entry = some (entryName entry, entryValue entry) := by
  induction entry with
  | nil => cases marked
  | cons c entry ih =>
    by_cases same : c = CodePoint.ofChar '='
    · simp [Text.splitFirst, entryName, entryValue, same]
    · have later := ih (List.mem_of_ne_of_mem (Ne.symm same) marked)
      simp only [entryName, entryValue] at later
      simp [Text.splitFirst, entryName, entryValue, same, later]

theorem entryName_eq_nil_iff {entry : Text} (marked : CodePoint.ofChar '=' ∈ entry) :
    entryName entry = [] ↔ entry.head? = some (CodePoint.ofChar '=') := by
  cases entry with
  | nil => cases marked
  | cons c entry =>
    by_cases same : c = CodePoint.ofChar '='
    · simp [entryName, same]
    · simp [entryName, same]

theorem readPair_eq (entry : Text) :
    readPair entry = if IsBadEntry entry then .error ⟨entry⟩ else .ok (entryName entry, entryValue entry) := by
  unfold readPair
  by_cases marked : CodePoint.ofChar '=' ∈ entry
  · have unnamed : IsBadEntry entry ↔ entryName entry = [] :=
      (or_iff_right (not_not_intro marked)).trans (entryName_eq_nil_iff marked).symm
    rw [splitFirst_entry marked]
    cases named : entryName entry with
    | nil => rw [if_pos (unnamed.mpr named)]
    | cons c name =>
      rw [if_neg fun bad => List.cons_ne_nil c name (named.symm.trans (unnamed.mp bad))]
  · rw [Text.splitFirst_eq_none_iff.mpr marked, if_pos (.inl marked)]

/-- The first entry that is no pair is told. -/
theorem readPairs_eq_error_iff {entries : List Text} {e : Text} :
    readPairs entries = .error ⟨e⟩ ↔ entries.find? (fun entry => IsBadEntry entry) = some e := by
  rw [readPairs, map_eq_error, mapM_eq_error_iff, List.find?_eq_some_iff_append]
  constructor
  · rintro ⟨before, a, after, whole, pairs, failed⟩
    rw [readPair_eq] at failed
    split at failed
    · next bad =>
      cases failed
      refine ⟨decide_eq_true bad, before, after, whole, fun b inside => ?_⟩
      obtain ⟨pair, read⟩ := pairs b inside
      rw [readPair_eq] at read
      split at read
      · cases read
      · next good => simpa using good
    · cases failed
  · rintro ⟨bad, before, after, whole, pairs⟩
    refine ⟨before, e, after, whole, fun b inside => ?_, ?_⟩
    · have good : ¬IsBadEntry b := by simpa using pairs b inside
      exact ⟨_, (readPair_eq b).trans (if_neg good)⟩
    · exact (readPair_eq e).trans (if_pos (of_decide_eq_true bad))

/-- Where every entry is a pair, the parameters are the table of the pairs. -/
theorem readPairs_of_pairs {entries : List Text} (pairs : ∀ entry ∈ entries, ¬IsBadEntry entry) :
    readPairs entries = .ok (Table.ofList (entries.map fun entry => (entryName entry, entryValue entry))) := by
  have each : ∀ entry ∈ entries, readPair entry = .ok (entryName entry, entryValue entry) := fun entry inside =>
    (readPair_eq entry).trans (if_neg (pairs entry inside))
  rw [readPairs, mapM_eq_ok_of_forall each]
  rfl

theorem readPair_pairEntry {name : Text} (named : name ≠ []) (free : CodePoint.ofChar '=' ∉ name) (value : Text) :
    readPair (pairEntry (name, value)) = .ok (name, value) := by
  rw [readPair, pairEntry, Text.splitFirst_of_not_mem free]
  cases name with
  | nil => exact absurd rfl named
  | cons c name => rfl

/-- Pairs under different names that no equals sign cuts are read back in their order. -/
theorem readPairs_map_pairEntry {table : List (Text × Text)} (distinct : (Table.keys table).Nodup)
    (names : ∀ name ∈ Table.keys table, name ≠ [] ∧ CodePoint.ofChar '=' ∉ name) :
    readPairs (table.map pairEntry) = .ok table := by
  have each : ∀ pair ∈ table, (readPair ∘ pairEntry) pair = .ok pair := by
    intro pair inside
    obtain ⟨named, free⟩ := names pair.1 (List.mem_map_of_mem inside)
    exact readPair_pairEntry named free pair.2
  have all : (table.map pairEntry).mapM readPair = .ok table := by
    rw [List.mapM_map, mapM_eq_ok_of_forall (g := id) each, List.map_id]
  rw [readPairs, all]
  exact congrArg Except.ok (Table.ofList_eq_self distinct)

theorem BadPair.message_injective {e f : Text} (same : BadPair.message ⟨e⟩ = BadPair.message ⟨f⟩) : e = f :=
  Text.quoted_injective (List.append_cancel_left same)

/-- Reading fails just when an entry is no pair, with a message that tells the first such entry. Otherwise the names come
out in the order in which they are first given, each with the value that it is given last. So pairs that have been written
as entries are read back. -/
theorem readPairs_of_entries (entries : List Text) :
    (∀ e, (readPairs entries).mapError BadPair.message = .error (BadPair.message ⟨e⟩) ↔
        entries.find? (fun entry => IsBadEntry entry) = some e) ∧
      ((∀ entry ∈ entries, ¬IsBadEntry entry) → ∃ table, readPairs entries = .ok table ∧
        Table.keys table = (entries.map entryName).eraseDups ∧
        ∀ name, Table.get? name table =
          (entries.reverse.find? fun entry => entryName entry = name).map entryValue) ∧
      ∀ table : List (Text × Text), (Table.keys table).Nodup →
        (∀ name ∈ Table.keys table, name ≠ [] ∧ CodePoint.ofChar '=' ∉ name) →
        readPairs (table.map pairEntry) = .ok table := by
  refine ⟨fun e => ?bad, fun pairs => ⟨_, readPairs_of_pairs pairs, ?names, fun name => ?values⟩,
    fun table => readPairs_map_pairEntry⟩
  case bad =>
    rw [← readPairs_eq_error_iff]
    cases read : readPairs entries with
    | error told =>
      constructor
      · intro same
        exact congrArg Except.error (congrArg BadPair.mk (BadPair.message_injective (Except.error.inj same)))
      · intro same
        cases same
        rfl
    | ok table => exact iff_of_false nofun nofun
  case names =>
    rw [Table.keys_ofList, Table.keys, List.map_map, Function.comp_def]
  case values =>
    rw [Table.get?_ofList, Table.last?, ← List.map_reverse, Table.get?_map]

/-- A name that is given twice, values with equals signs in them, and two entries that are no pairs. -/
theorem readPairs_of_entries_repeated :
    let entries : List Text := ["b=x=y", "a=1", "b=", "a=2="]
    let faulty : List Text := ["a=1", "=x'", "c"]
    let a : Text := "a"
    let b : Text := "b"
    let table : List (Text × Text) := [("a b", "=v="), ("'", "")]
    (∀ entry ∈ entries, ¬IsBadEntry entry) ∧
      (∃ read, readPairs entries = .ok read ∧ Table.keys read = [b, a] ∧ Table.get? b read = some [] ∧
        Table.get? a read = some "2=") ∧
      (readPairs faulty).mapError BadPair.message = .error (BadPair.message ⟨"=x'"⟩) ∧
      (Table.keys table).Nodup ∧ (∀ name ∈ Table.keys table, name ≠ [] ∧ CodePoint.ofChar '=' ∉ name) ∧
      readPairs (table.map pairEntry) = .ok table := by
  intro entries faulty a b table
  have pairs : ∀ entry ∈ entries, ¬IsBadEntry entry := by decide
  have distinct : (Table.keys table).Nodup := by decide
  have names : ∀ name ∈ Table.keys table, name ≠ [] ∧ CodePoint.ofChar '=' ∉ name := by decide
  have ordered : (entries.map entryName).eraseDups = [b, a] := by decide
  have first : faulty.find? (fun entry => IsBadEntry entry) = some (Text.ofString "=x'") := by rfl
  obtain ⟨_, good, written⟩ := readPairs_of_entries entries
  obtain ⟨told, _, _⟩ := readPairs_of_entries faulty
  obtain ⟨read, done, keys, values⟩ := good pairs
  refine ⟨pairs, ⟨read, done, keys.trans ordered, ?_, ?_⟩, (told _).mpr first, distinct, names,
    written table distinct names⟩
  · exact (values b).trans rfl
  · exact (values a).trans rfl

end RouteTemplate
