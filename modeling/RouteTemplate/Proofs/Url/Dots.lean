import RouteTemplate.Proofs.Text.Cut
import RouteTemplate.Proofs.Url.Join

set_option autoImplicit false

namespace RouteTemplate.Url

def dotStep (kept : List Text) (segment : Text) : List Text :=
  if segment = Text.ofString "." then kept
  else if segment = Text.ofString ".." then if kept = [[]] then kept else kept.dropLast
  else kept ++ [segment]

theorem removeDots_eq_foldl (segments : List Text) : removeDots segments = segments.foldl dotStep [] := rfl

/-- None of the segments is `.` or `..`. -/
def IsPlainPath (segments : List Text) : Prop := ∀ segment ∈ segments, isDots segment = false

instance (segments : List Text) : Decidable (IsPlainPath segments) :=
  inferInstanceAs (Decidable (∀ segment ∈ segments, isDots segment = false))

theorem dotStep_of_plain {segment : Text} (plain : isDots segment = false) (kept : List Text) :
    dotStep kept segment = kept ++ [segment] := by
  rw [isDots, Bool.or_eq_false_iff, decide_eq_false_iff_not, decide_eq_false_iff_not] at plain
  rw [dotStep, if_neg plain.1, if_neg plain.2]

theorem foldl_dotStep_of_plain {segments : List Text} (plain : IsPlainPath segments) (kept : List Text) :
    segments.foldl dotStep kept = kept ++ segments := by
  induction segments generalizing kept with
  | nil => exact (List.append_nil kept).symm
  | cons segment segments ih =>
    have later := ih fun other inside => plain other (List.mem_cons_of_mem segment inside)
    rw [List.foldl_cons, dotStep_of_plain (plain segment List.mem_cons_self), later, List.append_assoc]
    rfl

/-- Between plain segments a segment acts on those before it, and those behind it are kept. -/
theorem removeDots_append_cons {before behind : List Text} (first : IsPlainPath before) (last : IsPlainPath behind)
    (segment : Text) : removeDots (before ++ segment :: behind) = dotStep before segment ++ behind := by
  rw [removeDots_eq_foldl, List.foldl_append, foldl_dotStep_of_plain first, List.nil_append, List.foldl_cons,
    foldl_dotStep_of_plain last]

theorem normalPath_of_plain {path : Text} (plain : IsPlainPath (Text.splitOn '/' path)) : normalPath path = path := by
  have none_ : ((Text.splitOn '/' path).any fun s => s = Text.ofString "." || s = Text.ofString "..") = false := by
    rw [List.any_eq_false]
    intro segment inside
    rw [Bool.not_eq_true]
    exact plain segment inside
  rw [normalPath, none_, if_neg Bool.false_ne_true]

theorem normalPath_of_dots {path segment : Text} (inside : segment ∈ Text.splitOn '/' path)
    (dots : isDots segment = true) : normalPath path = Text.joinWith "/" (removeDots (Text.splitOn '/' path)) := by
  have some_ : ((Text.splitOn '/' path).any fun s => s = Text.ofString "." || s = Text.ofString "..") = true :=
    List.any_eq_true.mpr ⟨segment, inside, dots⟩
  rw [normalPath, some_, if_pos rfl]

def segmentsBehind : Text → List Text
  | [] => []
  | _ :: rest => Text.splitOn '/' rest

theorem isPlainPath_segmentsBehind {right : Text} (behind : AtRoot right)
    (plain : IsPlainPath (Text.splitOn '/' right)) : IsPlainPath (segmentsBehind right) := by
  cases right with
  | nil =>
    intro segment impossible
    cases impossible
  | cons c rest =>
    intro segment inside
    apply plain segment
    rw [behind c rfl, Text.splitOn, if_pos rfl]
    exact List.mem_cons_of_mem [] inside

section Between

variable {front component right : Text} (free : CodePoint.ofChar '/' ∉ component) (behind : AtRoot right)

include free behind

theorem splitOn_between : Text.splitOn '/' (front ++ CodePoint.ofChar '/' :: (component ++ right)) =
    Text.splitOn '/' front ++ component :: segmentsBehind right := by
  rw [Text.splitOn_append_cons]
  cases right with
  | nil => rw [List.append_nil, Text.splitOn_of_not_mem free]; rfl
  | cons c rest => rw [behind c rfl, Text.splitOn_append_cons, Text.splitOn_of_not_mem free]; rfl

omit free in
theorem joinWith_without : Text.joinWith "/" (Text.splitOn '/' front ++ segmentsBehind right) = front ++ right := by
  cases right with
  | nil =>
    rw [segmentsBehind, List.append_nil, List.append_nil]
    exact Text.joinWith_splitOn '/' front
  | cons c rest =>
    rw [segmentsBehind, ← Text.splitOn_append_cons, behind c rfl]
    exact Text.joinWith_splitOn '/' _

variable (first : IsPlainPath (Text.splitOn '/' front)) (last : IsPlainPath (segmentsBehind right))

include first last

theorem normalPath_between (dots : isDots component = true) :
    normalPath (front ++ CodePoint.ofChar '/' :: (component ++ right)) =
      Text.joinWith "/" (dotStep (Text.splitOn '/' front) component ++ segmentsBehind right) := by
  have cut : Text.splitOn '/' (front ++ CodePoint.ofChar '/' :: (component ++ right)) =
      Text.splitOn '/' front ++ component :: segmentsBehind right := splitOn_between free behind
  have inside : component ∈ Text.splitOn '/' (front ++ CodePoint.ofChar '/' :: (component ++ right)) := by
    rw [cut]
    exact List.mem_append_right _ List.mem_cons_self
  rw [normalPath_of_dots inside dots, cut, removeDots_append_cons first last]

theorem normalPath_between_of_plain (plain : isDots component = false) :
    normalPath (front ++ CodePoint.ofChar '/' :: (component ++ right)) =
      front ++ CodePoint.ofChar '/' :: (component ++ right) := by
  apply normalPath_of_plain
  rw [splitOn_between free behind]
  intro segment inside
  rcases List.mem_append.mp inside with front | here
  · exact first segment front
  · rcases List.mem_cons.mp here with rfl | behind
    · exact plain
    · exact last segment behind

end Between

/-- A segment `.` goes with the slash in front of it. -/
theorem normalPath_dot {front right : Text} (behind : AtRoot right) (first : IsPlainPath (Text.splitOn '/' front))
    (last : IsPlainPath (segmentsBehind right)) :
    normalPath (front ++ CodePoint.ofChar '/' :: (Text.ofString "." ++ right)) = front ++ right := by
  rw [normalPath_between (by decide) behind first last (by decide), dotStep, if_pos rfl, joinWith_without behind]

/-- At the root there is nothing that a segment `..` could take along. -/
theorem normalPath_dots_atRoot {right : Text} (behind : AtRoot right) (last : IsPlainPath (segmentsBehind right)) :
    normalPath (CodePoint.ofChar '/' :: (Text.ofString ".." ++ right)) = right := by
  have nothing : IsPlainPath (Text.splitOn '/' []) := by
    intro segment inside
    rw [List.mem_singleton.mp inside]
    decide
  have gone : dotStep (Text.splitOn '/' []) (Text.ofString "..") = Text.splitOn '/' [] := by decide
  have dots : Url.isDots (Text.ofString "..") = true := by decide
  have normal := normalPath_between (by decide) behind nothing last dots
  rw [gone, joinWith_without behind] at normal
  exact normal

end RouteTemplate.Url
