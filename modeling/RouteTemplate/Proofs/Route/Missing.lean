import RouteTemplate.Proofs.Bag.Accessors
import RouteTemplate.Proofs.Route.Parts

set_option autoImplicit false

namespace RouteTemplate

/-- Is there no value under a name? No entry has the name, whatever its case, or the first that has it is absent. -/
def Lacks (bag : Bag) (entries : List Accessor) (name : Text) : Prop :=
  (∀ a ∈ entries, a.name.lower ≠ name.lower) ∨
    ∃ before a after, entries = before ++ a :: after ∧ (∀ b ∈ before, b.name.lower ≠ name.lower) ∧
      a.name.lower = name.lower ∧ bag.read a.reader = .ok .absent

/-- A placeholder lacks a value, and none before it does. -/
def FirstLacking (bag : Bag) (entries : List Accessor) (placeholders : List Placeholder) (p : Placeholder) : Prop :=
  ∃ before after, placeholders = before ++ p :: after ∧ (∀ q ∈ before, ¬Lacks bag entries q.name) ∧
    Lacks bag entries p.name

/-- An entry can be read, and its value can be written unless it is absent. -/
def Readable (settings : Settings) (bag : Bag) (a : Accessor) : Prop :=
  ∃ v, bag.read a.reader = .ok v ∧ (v.isAbsent = false → ∃ component, v.component settings = .ok component)

section Lacks

variable {settings : Settings} {bag : Bag} {entries : List Accessor} {name : Text}

theorem lacks_of_find?_eq_none (none : (Accessors.ofList entries).find? name = none) : Lacks bag entries name := by
  rw [Accessors.find?_ofList, List.find?_eq_none] at none
  exact .inl fun a inside => by simpa using none a inside

theorem lacks_iff_of_find?_eq_some {a : Accessor} (found : (Accessors.ofList entries).find? name = some a) :
    Lacks bag entries name ↔ bag.read a.reader = .ok .absent := by
  rw [Accessors.find?_ofList] at found
  obtain ⟨named, before, after, whole, others⟩ := List.find?_eq_some_iff_append.mp found
  constructor
  · rintro (none | ⟨before', first, after', split, others', same, read⟩)
    · exact absurd (of_decide_eq_true named) (none a (List.mem_of_find?_eq_some found))
    · -- The first entry of the name is the one that is found, so the two are the same.
      have again : entries.find? (fun a => a.name.lower = name.lower) = some first := by
        rw [List.find?_eq_some_iff_append]
        exact ⟨by simpa using same, before', after', split, fun b inside => by simpa using others' b inside⟩
      cases found.symm.trans again
      exact read
  · intro read
    exact .inr ⟨before, a, after, whole, fun b inside => by simpa using others b inside, by simpa using named, read⟩

/-- A name that lacks no value is found, and what is read there is not the absent value. -/
theorem exists_find?_of_not_lacks (present : ¬Lacks bag entries name) :
    ∃ a, (Accessors.ofList entries).find? name = some a ∧ bag.read a.reader ≠ .ok .absent := by
  cases found : (Accessors.ofList entries).find? name with
  | none => exact absurd (lacks_of_find?_eq_none found) present
  | some a =>
    rw [lacks_iff_of_find?_eq_some found] at present
    exact ⟨a, rfl, present⟩

theorem isAbsent_of_read_ne {r : Reader} {v : Value} (read : bag.read r = .ok v) (present : bag.read r ≠ .ok .absent) :
    v.isAbsent = false := by
  rw [Bool.eq_false_iff]
  intro absent
  rw [read, Value.isAbsent_iff.mp absent] at present
  exact present rfl

theorem fill_of_lacks (text : Text) (kind : PlaceholderKind) (lacks : Lacks bag entries name) :
    fill settings (.ofList entries) bag text kind name = .error (.missing name text) := by
  unfold fill
  cases found : (Accessors.ofList entries).find? name with
  | none => rfl
  | some a =>
    dsimp only
    rw [(lacks_iff_of_find?_eq_some found).mp lacks]
    rfl

theorem exists_fill (text : Text) (kind : PlaceholderKind) (readable : ∀ a ∈ entries, Readable settings bag a)
    (present : ¬Lacks bag entries name) : ∃ piece, fill settings (.ofList entries) bag text kind name = .ok piece := by
  obtain ⟨a, found, present⟩ := exists_find?_of_not_lacks present
  have inside : a ∈ entries := by
    rw [Accessors.find?_ofList] at found
    exact List.mem_of_find?_eq_some found
  obtain ⟨v, read, written⟩ := readable a inside
  have valued := isAbsent_of_read_ne read present
  obtain ⟨component, done⟩ := written valued
  refine ⟨placed kind name component, ?_⟩
  unfold fill
  rw [found]
  dsimp only
  rw [read, ok_bind, valued, done]
  rfl

/-- Filling stops at the leftmost placeholder that lacks a value, and only there. -/
theorem substitute_cases (readable : ∀ a ∈ entries, Readable settings bag a) (text : Text) (start : Nat) (marked : Bool)
    (segments : List Segment) :
    (∃ p, FirstLacking bag entries (Template.placeholdersFrom start marked segments) p ∧
        substitute settings (.ofList entries) bag text marked segments = .error (.missing p.name text)) ∨
      (∀ p ∈ Template.placeholdersFrom start marked segments, ¬Lacks bag entries p.name) ∧
        ∃ filled, substitute settings (.ofList entries) bag text marked segments = .ok filled := by
  induction segments generalizing start marked with
  | nil => exact .inr ⟨by simp [Template.placeholdersFrom], [], rfl⟩
  | cons s segments ih =>
    rw [Template.placeholdersFrom, substitute]
    -- Either the loop stops here, or what the later placeholders lack is all that can stop it.
    by_cases lacks : Lacks bag entries s.name
    · refine .inl ⟨_, ⟨[], _, rfl, by simp, lacks⟩, ?_⟩
      rw [fill_of_lacks text _ lacks]
      rfl
    · obtain ⟨piece, first⟩ := exists_fill text (kindAfter (marked || s.gap.contains '?')) readable lacks
      unfold kindAfter at first
      rw [first, ok_bind]
      rcases ih (start + s.gap.length + s.name.length + 2) (marked || s.gap.contains '?') with
        ⟨p, ⟨before, after, whole, present, later⟩, failed⟩ | ⟨present, filled, done⟩
      · refine .inl ⟨p, ⟨_ :: before, after, congrArg (List.cons _) whole, ?_, later⟩, ?_⟩
        · exact List.forall_mem_cons.mpr ⟨lacks, present⟩
        · rw [failed]
          rfl
      · refine .inr ⟨List.forall_mem_cons.mpr ⟨lacks, present⟩, s.gap ++ (piece ++ filled), ?_⟩
        rw [done]
        rfl

theorem exists_leftovers (consumed : List Text) (readable : ∀ a ∈ entries, Readable settings bag a)
    (named : ∀ a ∈ entries, remains consumed (a.name, bag.read a.reader) = true →
      ∃ written, Percent.encodeText a.name = .ok written) :
    ∃ pairs, leftovers settings bag consumed entries = .ok pairs := by
  induction entries with
  | nil => exact ⟨[], rfl⟩
  | cons a entries ih =>
    obtain ⟨pairs, rest⟩ := ih (fun b inside => readable b (List.mem_cons_of_mem a inside))
      fun b inside => named b (List.mem_cons_of_mem a inside)
    obtain ⟨v, read, written⟩ := readable a List.mem_cons_self
    rw [leftovers]
    split
    · exact ⟨pairs, rest⟩
    · next free =>
      cases absent : v.isAbsent with
      | true =>
        refine ⟨pairs, ?_⟩
        rw [leftover?, read, ok_bind, absent, rest]
        rfl
      | false =>
        obtain ⟨component, done⟩ := written absent
        obtain ⟨name, encoded⟩ := named a List.mem_cons_self (by simpa [remains, readsAbsent, read, absent] using free)
        refine ⟨pairText name component :: pairs, ?_⟩
        rw [leftover?, read, ok_bind, absent, encoded, done, rest]
        rfl

end Lacks

/-- Nothing that resolution reads or writes makes it fail: neither an entry of the bag nor, where values are appended, the
name of one that a template leaves over. -/
structure Renders (settings : Settings) (t : Template) (bag : Bag) (accessors : Accessors) : Prop where
  entries : ∀ a ∈ accessors.toList, Readable settings bag a
  names : settings.appendUnconsumed = true →
    ∀ reading ∈ t.remaining bag accessors, ∃ name, Percent.encodeText reading.1 = .ok name

/-- Resolution fails with the name of the leftmost placeholder that lacks a value, or it succeeds and none does. -/
theorem resolve_cases {settings : Settings} {text : Text} {bag : Bag} {accessors : Accessors}
    (known : bag.accessors = .ok accessors) (renders : Renders settings (Template.parse text) bag accessors)
    (accepted : refused settings text (Template.parse text) = none) :
    (∃ p, FirstLacking bag accessors.toList (Template.parse text).placeholders p ∧
        resolve settings text (some bag) = .error (.missing p.name text)) ∨
      (∀ p ∈ (Template.parse text).placeholders, ¬Lacks bag accessors.toList p.name) ∧
        ∃ route, resolve settings text (some bag) = .ok route := by
  obtain ⟨entries, _, rfl⟩ := map_eq_ok.mp known
  have readable : ∀ a ∈ entries, Readable settings bag a := renders.entries
  have parsed : resolve settings text (some bag) =
      resolveParsed settings text (Template.parse text) (.ofList entries) bag := by
    unfold resolve
    dsimp only
    rw [accepted, known]
    rfl
  rw [parsed, resolveParsed]
  rcases substitute_cases readable text 0 false (Template.parse text).segments with
    ⟨p, first, failed⟩ | ⟨present, filled, done⟩
  · refine .inl ⟨p, first, ?_⟩
    rw [failed]
    rfl
  · refine .inr ⟨present, ?_⟩
    rw [done, ok_bind]
    cases append : settings.appendUnconsumed with
    | false => exact ⟨_, rfl⟩
    | true =>
      obtain ⟨pairs, left⟩ := exists_leftovers ((Template.parse text).names.map Text.lower) readable
        fun a inside remaining => renders.names append (a.name, bag.read a.reader)
          (List.mem_filter.mpr ⟨List.mem_map_of_mem inside, remaining⟩)
      have listed : (Accessors.ofList entries).toList = entries := rfl
      rw [if_pos rfl, listed, left]
      exact ⟨_, rfl⟩

/-- Where nothing else goes wrong, resolution fails just when a placeholder lacks a value, and it tells the name of the
leftmost one as the template spells it. -/
theorem resolve_error_iff_lacks {settings : Settings} {text : Text} {bag : Bag} {accessors : Accessors}
    (known : bag.accessors = .ok accessors) (renders : Renders settings (Template.parse text) bag accessors)
    (accepted : (Template.parse text).unterminated? = none ∨ settings.strictTemplates = false) :
    ((∃ e, resolve settings text (some bag) = .error e) ↔
        ∃ p ∈ (Template.parse text).placeholders, Lacks bag accessors.toList p.name) ∧
      ∀ e, resolve settings text (some bag) = .error e →
        ∃ p, FirstLacking bag accessors.toList (Template.parse text).placeholders p ∧ e = .missing p.name text := by
  rcases resolve_cases known renders (refused_eq_none accepted) with ⟨p, first, failed⟩ | ⟨present, route, done⟩
  · obtain ⟨before, after, whole, _, lacks⟩ := id first
    constructor
    · refine iff_of_true ⟨_, failed⟩ ⟨p, ?_, lacks⟩
      rw [whole]
      exact List.mem_append_right before List.mem_cons_self
    · intro e told
      exact ⟨p, first, Except.error.inj (told.symm.trans failed)⟩
  · rw [done]
    constructor
    · refine iff_of_false ?_ ?_
      · rintro ⟨e, told⟩
        cases told
      · rintro ⟨p, inside, lacks⟩
        exact present p inside lacks
    · intro e told
      cases told

/-- Two names that differ in case, the first with an absent value: of two placeholders without a value the left one is
told, behind one that is filled. -/
theorem resolve_error_iff_lacks_absent_first :
    let text : Text := "/\x7bq\x7d/\x7biD\x7d?\x7bn\x7d&\x7bz"
    let bag : Bag := .mapping "dict"
      [(.text "Id", .absent), (.text "ID", .int 5), (.text "q", .text "a/b"), (.text "e f", .bool true)]
    let accessors : Accessors := .ofList [⟨"Id", .entry 0⟩, ⟨"ID", .entry 1⟩, ⟨"q", .entry 2⟩, ⟨"e f", .entry 3⟩]
    bag.accessors = .ok accessors ∧ Renders {} (Template.parse text) bag accessors ∧
      resolve {} text (some bag) = .error (.missing "iD" text) ∧
      (∃ p ∈ (Template.parse text).placeholders, Lacks bag accessors.toList p.name) ∧
      ∃ p, FirstLacking bag accessors.toList (Template.parse text).placeholders p ∧
        ResolveError.missing "iD" text = .missing p.name text := by
  intro text bag accessors
  have known : bag.accessors = .ok accessors := by rfl
  have renders : Renders {} (Template.parse text) bag accessors := by
    have left : (Template.parse text).remaining bag accessors = [(Text.ofString "e f", Except.ok (.bool true))] := by rfl
    constructor
    · have absent : Readable {} bag ⟨"Id", .entry 0⟩ := ⟨.absent, rfl, fun present => by cases present⟩
      simp only [accessors, Accessors.ofList, List.forall_mem_cons]
      exact ⟨absent, ⟨_, rfl, fun _ => ⟨_, rfl⟩⟩, ⟨_, rfl, fun _ => ⟨_, rfl⟩⟩, ⟨_, rfl, fun _ => ⟨_, rfl⟩⟩, by simp⟩
    · intro _ reading inside
      rw [left] at inside
      cases List.mem_singleton.mp inside
      exact ⟨_, rfl⟩
  have failed : resolve {} text (some bag) = .error (.missing "iD" text) := by rfl
  obtain ⟨fails, told⟩ := resolve_error_iff_lacks known renders (.inr rfl)
  exact ⟨known, renders, failed, fails.mp ⟨_, failed⟩, told _ failed⟩

end RouteTemplate
