import RouteTemplate.Proofs.Text.Utf8
import RouteTemplate.Proofs.Url.Dots

set_option autoImplicit false

namespace RouteTemplate

theorem Percent.decodeText_append_cons {d : CodePoint} (plain : d ≠ CodePoint.ofChar '%') (digit : d.hexValue? = none)
    (ascii : d.val < 0x80) (t rest : Text) :
    decodeText (t ++ d :: rest) = decodeText t ++ d :: decodeText rest := by
  have small : d.val < UInt8.size := Nat.lt_trans ascii (by decide)
  have value : (UInt8.ofNat d.val).toNat = d.val := UInt8.toNat_ofNat_of_lt' small
  have own : (Fin.ofNat 0x110000 (UInt8.ofNat d.val).toNat : CodePoint) = d := by
    rw [value]
    exact Fin.ext (Nat.mod_eq_of_lt d.isLt)
  rw [decodeText, decode_append_cons plain digit, utf8_of_ascii ascii, List.singleton_append,
    Text.ofOctetsLossy_append_ascii (by rwa [value]), own]
  rfl

namespace Url

/-- A path that ends in a slash, or is empty, and has neither empty segments inside nor dot segments. -/
structure IsFolder (path : Text) : Prop where
  ends : path = [] ∨ path.getLast? = some (CodePoint.ofChar '/')
  inner : ∀ segment ∈ (Text.splitOn '/' path).tail.dropLast, segment ≠ []
  plain : IsPlainPath (Text.splitOn '/' path)

/-- The segments are those of a path that goes on: none is empty, and none is `.` or `..`. -/
def IsProper (segments : List Text) : Prop := ∀ segment ∈ segments, segment ≠ [] ∧ isDots segment = false

instance (segments : List Text) : Decidable (IsProper segments) :=
  inferInstanceAs (Decidable (∀ segment ∈ segments, segment ≠ [] ∧ isDots segment = false))

/-- A folder up to its last slash; an empty one is the root. -/
structure FrontOf (folder front : Text) : Prop where
  form : folder = [] ∧ front = [] ∨ folder = front ++ [CodePoint.ofChar '/']
  inner : ∀ segment ∈ (Text.splitOn '/' front).tail, segment ≠ []
  plain : IsPlainPath (Text.splitOn '/' front)

theorem IsFolder.exists_front {folder : Text} (is : IsFolder folder) : ∃ front, FrontOf folder front := by
  rcases is.ends with rfl | ends
  · refine ⟨[], .inl ⟨rfl, rfl⟩, ?_, is.plain⟩
    intro segment impossible
    cases impossible
  · obtain ⟨front, rfl⟩ := List.getLast?_eq_some_iff.mp ends
    obtain ⟨_, inner, plain⟩ := is
    rw [Text.splitOn_append_cons] at inner plain
    refine ⟨front, .inr rfl, ?_, fun segment inside => plain segment (List.mem_append_left _ inside)⟩
    intro segment inside
    apply inner segment
    cases segments : Text.splitOn '/' front with
    | nil => exact absurd segments (Text.splitOn_ne_nil _ _)
    | cons first rest =>
      rw [segments] at inside
      simpa [Text.splitOn] using inside

theorem resolveDots_of_plain {segments : List Text} (plain : IsPlainPath segments) : resolveDots segments = segments := by
  suffices run : ∀ kept : List Text, segments.foldl (fun kept segment =>
      if segment = Text.ofString ".." then kept.dropLast
      else if segment = Text.ofString "." then kept
      else kept ++ [segment]) kept = kept ++ segments from run []
  induction segments with
  | nil => exact fun kept => (List.append_nil kept).symm
  | cons segment segments ih =>
    intro kept
    have first := plain segment List.mem_cons_self
    rw [isDots, Bool.or_eq_false_iff, decide_eq_false_iff_not, decide_eq_false_iff_not] at first
    rw [List.foldl_cons, if_neg first.2, if_neg first.1, ih fun other inside => plain other (List.mem_cons_of_mem _ inside),
      List.append_assoc, List.singleton_append]

theorem startsWith_of_proper {path : Text} (proper : IsProper (Text.splitOn '/' path)) : path.startsWith "/" = false := by
  rw [Text.startsWith_slash, decide_eq_false_iff_not]
  intro first
  obtain ⟨rest, rfl⟩ := List.head?_eq_some_iff.mp first
  exact (proper [] (by simp [Text.splitOn])).1 rfl

theorem startsWith_slashes_of_segments {t : Text} (segments : ∀ segment ∈ (Text.splitOn '/' t).tail, segment ≠ []) :
    t.startsWith "//" = false := by
  rw [Text.startsWith_eq_false_iff]
  rintro rest rfl
  have cut : Text.splitOn '/' (Text.ofString "//" ++ rest) = [] :: [] :: Text.splitOn '/' rest := rfl
  rw [cut] at segments
  exact segments [] List.mem_cons_self rfl

/-- What of the segments of a folder is kept in front of a path: those up to its last slash, with empty ones behind. -/
theorem FrontOf.keptSegments {folder front : Text} (of : FrontOf folder front) :
    ∃ first inner gap, Text.splitOn '/' front = first :: inner ∧ (∀ segment ∈ gap, segment = []) ∧
      (if (Text.splitOn '/' folder).getLast? = some [] then Text.splitOn '/' folder
        else (Text.splitOn '/' folder).dropLast) = first :: (inner ++ gap) := by
  rcases of.form with ⟨rfl, rfl⟩ | rfl
  · exact ⟨[], [], [], rfl, by simp, rfl⟩
  · cases segments : Text.splitOn '/' front with
    | nil => exact absurd segments (Text.splitOn_ne_nil _ _)
    | cons first inner =>
      refine ⟨first, inner, [[]], rfl, by simp, ?_⟩
      have last : Text.splitOn '/' [] = [[]] := rfl
      rw [Text.splitOn_append_cons, segments, last, List.getLast?_concat, if_pos rfl, List.cons_append]

section Joined

variable {folder front path : Text} (of : FrontOf folder front) (proper : IsProper (Text.splitOn '/' path))

include of proper

theorem FrontOf.isPlainPath : IsPlainPath (Text.splitOn '/' (front ++ CodePoint.ofChar '/' :: path)) := by
  rw [Text.splitOn_append_cons]
  intro segment inside
  rcases List.mem_append.mp inside with before | behind
  · exact of.plain segment before
  · exact (proper segment behind).2

theorem FrontOf.startsWith_slashes : (front ++ CodePoint.ofChar '/' :: path).startsWith "//" = false := by
  apply startsWith_slashes_of_segments
  rw [Text.splitOn_append_cons]
  intro segment inside
  rw [List.tail_append_of_ne_nil (Text.splitOn_ne_nil _ _)] at inside
  rcases List.mem_append.mp inside with before | behind
  · exact of.inner segment before
  · exact (proper segment behind).1

/-- The segments of a path stand behind those of the folder. -/
theorem FrontOf.joinedSegments :
    Url.joinedSegments folder path = Text.splitOn '/' (front ++ CodePoint.ofChar '/' :: path) := by
  obtain ⟨first, rest, gap, segments, empty, kept⟩ := of.keptSegments
  have inner := of.inner
  obtain ⟨last, ends⟩ := Text.exists_getLast?_splitOn '/' path
  obtain ⟨before, whole⟩ := List.getLast?_eq_some_iff.mp ends
  have unrooted := startsWith_of_proper proper
  rw [segments] at inner
  rw [whole] at proper
  have filtered : ((rest ++ (gap ++ before)).filter fun s => !s.isEmpty) = rest ++ before := by
    have keepsRest : (rest.filter fun s => !s.isEmpty) = rest :=
      List.filter_eq_self.mpr fun segment inside => by simpa using inner segment inside
    have dropsGap : (gap.filter fun s => !s.isEmpty) = [] :=
      List.filter_eq_nil_iff.mpr fun segment inside => by simp [empty segment inside]
    have keepsPath : (before.filter fun s => !s.isEmpty) = before :=
      List.filter_eq_self.mpr fun segment inside => by simpa using (proper segment (List.mem_append_left _ inside)).1
    rw [List.filter_append, List.filter_append, keepsRest, dropsGap, keepsPath, List.nil_append]
  have joined : first :: (rest ++ gap) ++ (before ++ [last]) = first :: (rest ++ (gap ++ before) ++ [last]) := by simp
  unfold Url.joinedSegments
  dsimp only
  rw [unrooted, if_neg Bool.false_ne_true, kept, whole, joined]
  dsimp only
  rw [List.getLast?_concat, List.dropLast_concat]
  dsimp only
  rw [filtered, Text.splitOn_append_cons, segments, whole, List.cons_append, List.cons_append, List.append_assoc]

/-- Joined onto a folder, a path stands behind it. -/
theorem FrontOf.joinedPath : Url.joinedPath folder path = front ++ CodePoint.ofChar '/' :: path := by
  have slash : Text.ofString "/" = [CodePoint.ofChar '/'] := rfl
  have plain := of.isPlainPath proper
  obtain ⟨last, ends⟩ := Text.exists_getLast?_splitOn '/' (front ++ CodePoint.ofChar '/' :: path)
  have undotted := plain last (List.mem_of_getLast? ends)
  unfold Url.joinedPath
  dsimp only
  rw [of.joinedSegments proper, resolveDots_of_plain plain, ends, Option.elim_some, undotted,
    if_neg Bool.false_ne_true, slash, Text.joinWith_splitOn, if_neg (by simp)]

end Joined

theorem IsFolder.startsWith_slashes {folder : Text} (is : IsFolder folder) : folder.startsWith "//" = false := by
  rw [Text.startsWith_eq_false_iff]
  rintro rest rfl
  have cut : Text.splitOn '/' (Text.ofString "//" ++ rest) = [] :: [] :: Text.splitOn '/' rest := rfl
  have inner := is.inner
  rw [cut] at inner
  apply inner [] _ rfl
  cases segments : Text.splitOn '/' rest with
  | nil => exact absurd segments (Text.splitOn_ne_nil _ _)
  | cons first rest => simp

theorem mem_rootedPath {path : Text} {c : CodePoint} (inside : c ∈ rootedPath path) :
    c = CodePoint.ofChar '/' ∨ c ∈ path := by
  unfold rootedPath at inside
  split at inside
  · exact List.mem_cons.mp inside
  · exact .inr inside

theorem isPlainPath_rootedPath {path : Text} (plain : IsPlainPath (Text.splitOn '/' path)) :
    IsPlainPath (Text.splitOn '/' (rootedPath path)) := by
  unfold rootedPath
  split
  · intro segment inside
    rw [Text.splitOn, if_pos rfl] at inside
    rcases List.mem_cons.mp inside with rfl | behind
    · rfl
    · exact plain segment behind
  · exact plain

theorem FrontOf.mem {folder front : Text} (of : FrontOf folder front) {c : CodePoint} (inside : c ∈ front) :
    c ∈ folder := by
  rcases of.form with ⟨_, rfl⟩ | rfl
  · cases inside
  · exact List.mem_append_left _ inside

theorem rootedPath_of_atRoot {path : Text} (root : AtRoot path) : rootedPath path = path := by
  unfold rootedPath
  cases path with
  | nil => rfl
  | cons c path =>
    rw [Text.startsWith_slash, root c rfl]
    exact if_neg (by simp)

theorem rootedPath_of_not_atRoot {path : Text} (unrooted : ¬AtRoot path) :
    rootedPath path = CodePoint.ofChar '/' :: path := by
  unfold rootedPath
  cases path with
  | nil => exact absurd (fun c impossible => by cases impossible) unrooted
  | cons c path =>
    have other : c ≠ CodePoint.ofChar '/' := by
      rintro rfl
      exact unrooted fun d first => (Option.some.inj first).symm
    rw [Text.startsWith_slash]
    exact if_pos (by simp [other])

theorem FrontOf.atRoot_iff {folder front : Text} (of : FrontOf folder front) (path : Text) :
    AtRoot (front ++ CodePoint.ofChar '/' :: path) ↔ AtRoot folder := by
  rcases of.form with ⟨rfl, rfl⟩ | rfl
  · exact iff_of_true (fun c first => (Option.some.inj first).symm) fun c impossible => by cases impossible
  · simp only [AtRoot, List.head?_append, List.head?_cons]

section Decoded

variable {base u : Url} {front path : Text} (of : FrontOf base.path front)

include of

theorem FrontOf.decodedPath : base.decodedPath = Percent.decodeText front ++ [CodePoint.ofChar '/'] := by
  rcases of.form with ⟨bare, rfl⟩ | whole
  · rw [Url.decodedPath, bare]
    rfl
  · have nonempty : base.path.isEmpty = false := by simp [whole]
    rw [Url.decodedPath, nonempty, if_neg Bool.false_ne_true, whole,
      Percent.decodeText_append_cons (by decide) (by decide) (by decide)]
    rfl

/-- The path with its escapes undone is that of the folder with that of the reference behind it. Where the folder has no
slash in front, one is put there. -/
theorem decodedPath_of_folder (written : u.path = rootedPath (front ++ CodePoint.ofChar '/' :: path)) :
    (AtRoot base.path → u.decodedPath = base.decodedPath ++ Percent.decodeText path) ∧
      (¬AtRoot base.path → u.decodedPath = CodePoint.ofChar '/' :: (base.decodedPath ++ Percent.decodeText path)) := by
  have behind (t : Text) : Percent.decodeText (t ++ CodePoint.ofChar '/' :: path) =
      Percent.decodeText t ++ CodePoint.ofChar '/' :: Percent.decodeText path :=
    Percent.decodeText_append_cons (by decide) (by decide) (by decide) t path
  rw [of.decodedPath, List.append_assoc, List.singleton_append, ← behind]
  constructor
  · intro root
    rw [rootedPath_of_atRoot ((of.atRoot_iff path).mpr root)] at written
    rw [Url.decodedPath, written, if_neg (by simp)]
  · intro unrooted
    rw [rootedPath_of_not_atRoot (mt (of.atRoot_iff path).mp unrooted)] at written
    have front' := Percent.decodeText_append_cons (d := CodePoint.ofChar '/') (by decide) (by decide) (by decide) []
      (front ++ CodePoint.ofChar '/' :: path)
    rw [Url.decodedPath, written, if_neg (by simp)]
    exact front'

end Decoded

end Url

end RouteTemplate
