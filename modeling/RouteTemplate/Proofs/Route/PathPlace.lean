import RouteTemplate.Proofs.Route.Failure
import RouteTemplate.Proofs.Template.Braces
import RouteTemplate.Proofs.Url.Dots
import RouteTemplate.RouteUrl

set_option autoImplicit false

namespace RouteTemplate

open Percent (isUnreserved)

/-- Is the code point one that literal paths are written in? -/
def isPathPoint (c : CodePoint) : Bool := isUnreserved c || c = '/'

/-- A place for one whole segment in the path of a URL: literal segments, none of them `.` or `..`, before and behind. -/
structure IsPathPlace (host left right : Text) : Prop where
  hostPoints : ∀ c ∈ host, isUnreserved c = true
  leftPoints : ∀ c ∈ left, isPathPoint c = true
  rightPoints : ∀ c ∈ right, isPathPoint c = true
  starts : left.head? = some (CodePoint.ofChar '/')
  ends : left.getLast? = some (CodePoint.ofChar '/')
  behind : Url.AtRoot right
  leftSegments : Url.IsPlainPath (Text.splitOn '/' left)
  rightSegments : Url.IsPlainPath (Text.splitOn '/' right)

def placeTemplate (host left right : Text) : Text :=
  Url.absoluteText "https" host (left ++ (Text.ofString "\x7bx\x7d" ++ right))

def placeBag (v : Text) : Bag := .mapping "dict" [(.text "x", .text v)]

def placeAccessors : List Accessor := [⟨"x", .entry 0⟩]

theorem fill_placeBag (settings : Settings) (text : Text) (kind : PlaceholderKind) {v : Text} (plain : v.IsPlain) :
    fill settings (.ofList placeAccessors) (placeBag v) text kind "x" = .ok (placed kind "x" (Percent.encode v.octets)) := by
  have found : (Accessors.ofList placeAccessors).find? "x" = some ⟨"x", .entry 0⟩ := by decide
  have read : (placeBag v).read (.entry 0) = .ok (.text v) := rfl
  have present : (Value.text v).isAbsent = false := rfl
  unfold fill
  rw [found]
  dsimp only
  rw [read, ok_bind, present, Value.component_text plain]
  rfl

theorem ne_of_isUnreserved {c d : CodePoint} (point : isUnreserved c = true) (other : isUnreserved d = false) :
    c ≠ d := by
  rintro rfl
  exact Bool.false_ne_true (other.symm.trans point)

theorem ne_of_isPathPoint {c d : CodePoint} (point : isPathPoint c = true) (other : isPathPoint d = false) : c ≠ d := by
  rintro rfl
  exact Bool.false_ne_true (other.symm.trans point)

theorem absoluteText_append (scheme authority rest more : Text) :
    Url.absoluteText scheme authority (rest ++ more) = Url.absoluteText scheme authority rest ++ more := by
  simp [Url.absoluteText]

namespace IsPathPlace

variable {host left right : Text} (place : IsPathPlace host left right)

include place

/-- The literal text in front of the place holds no character that is neither of the scheme, the host nor the path. -/
theorem point_of_mem_front {c : CodePoint} (inside : c ∈ Url.absoluteText "https" host left) :
    isPathPoint c = true ∨ c = CodePoint.ofChar ':' := by
  rw [Url.absoluteText, List.mem_append, List.mem_cons, List.mem_cons, List.mem_cons, List.mem_append] at inside
  rcases inside with scheme | rfl | rfl | rfl | named | literal
  · left
    have letters : (Text.ofString "https").all isPathPoint = true := by decide
    exact List.all_eq_true.mp letters c scheme
  · exact .inr rfl
  · exact .inl rfl
  · exact .inl rfl
  · exact .inl (by rw [isPathPoint, place.hostPoints c named, Bool.true_or])
  · exact .inl (place.leftPoints c literal)

theorem not_mem_front {d : CodePoint} (other : isPathPoint d = false) (apart : d ≠ CodePoint.ofChar ':') :
    d ∉ Url.absoluteText "https" host left := by
  intro inside
  rcases place.point_of_mem_front inside with point | colon
  · exact ne_of_isPathPoint point other rfl
  · exact apart colon

theorem parse_placeTemplate : Template.parse (placeTemplate host left right) =
    ⟨[⟨Url.absoluteText "https" host left, "x"⟩], right, none⟩ := by
  have braced : Template.WellBraced ⟨[⟨Url.absoluteText "https" host left, "x"⟩], right, none⟩ := by
    refine ⟨?_, ?_, ?_, ?_⟩
    · intro s inside
      rw [List.mem_singleton.mp inside]
      exact place.not_mem_front (by decide) (by decide)
    · intro s inside
      rw [List.mem_singleton.mp inside]
      change Template.closeBrace ∉ Text.ofString "x"
      decide
    · exact fun inside => ne_of_isPathPoint (place.rightPoints _ inside) (by decide) rfl
    · intro text impossible
      cases impossible
  have whole : placeTemplate host left right =
      (⟨[⟨Url.absoluteText "https" host left, "x"⟩], right, none⟩ : Template).source := by
    have source : Text.ofString "\x7bx\x7d" = Template.openBrace :: (Text.ofString "x" ++ [Template.closeBrace]) := rfl
    rw [placeTemplate, absoluteText_append, source]
    simp [Template.source, Template.tail, Template.segmentSource]
  rw [whole, Template.parse_source braced]

theorem substitute_placeTemplate (settings : Settings) (text : Text) {v : Text} (plain : v.IsPlain) :
    substitute settings (.ofList placeAccessors) (placeBag v) text false [⟨Url.absoluteText "https" host left, "x"⟩] =
      .ok (Url.absoluteText "https" host left ++ Percent.encode v.octets) := by
  have unmarked : (Url.absoluteText "https" host left).contains (CodePoint.ofChar '?') = false := by
    have free := place.not_mem_front (d := CodePoint.ofChar '?') (by decide) (by decide)
    simpa using free
  unfold substitute
  dsimp only
  rw [unmarked, Bool.or_false, if_neg Bool.false_ne_true, fill_placeBag settings text .path plain]
  exact congrArg (fun t => Except.ok (Url.absoluteText "https" host left ++ t)) (List.append_nil _)

/-- Filled with a text, the template is the literal text with the text escaped in its place. -/
theorem resolve_placeTemplate (settings : Settings) {v : Text} (plain : v.IsPlain) :
    resolve settings (placeTemplate host left right) (some (placeBag v)) =
      .ok (Url.absoluteText "https" host (left ++ (Percent.encode v.octets ++ right))) := by
  have known : (placeBag v).accessors = .ok (.ofList placeAccessors) := rfl
  have admitted : refused settings (placeTemplate host left right)
      ⟨[⟨Url.absoluteText "https" host left, "x"⟩], right, none⟩ = none := by
    unfold refused
    split <;> rfl
  -- The text has been consumed, so no pair is appended.
  have consumed : leftovers settings (placeBag v) [Text.lower "x"] placeAccessors = .ok [] := by
    rw [placeAccessors, leftovers, if_pos (by decide)]
    rfl
  have route : Url.absoluteText "https" host left ++ Percent.encode v.octets ++ right =
      Url.absoluteText "https" host (left ++ (Percent.encode v.octets ++ right)) := by
    rw [absoluteText_append, List.append_assoc]
  have tail : Template.tail ⟨[⟨Url.absoluteText "https" host left, "x"⟩], right, none⟩ = right := List.append_nil right
  unfold resolve resolveParsed
  dsimp only
  rw [place.parse_placeTemplate, admitted]
  dsimp only
  rw [known, ok_bind, place.substitute_placeTemplate settings _ plain, ok_bind, tail, route]
  split
  · change (leftovers settings (placeBag v) [Text.lower "x"] placeAccessors >>= fun pairs =>
      .ok (appendPairs _ _ pairs)) = _
    rw [consumed, ok_bind]
    rfl
  · rfl

end IsPathPlace

/-- Is the code point one that paths are written in when their places are filled? -/
def isFilledPoint (c : CodePoint) : Bool := Percent.isComponentPoint c || c = '/'

theorem escaped_of_filled {t : Text} (points : ∀ c ∈ t, isFilledPoint c = true) :
    Url.escaped Url.keepInPath t = .ok t := by
  apply Url.escaped_eq_self
  intro c inside
  have point := points c inside
  rw [isFilledPoint, Percent.isComponentPoint, Bool.or_eq_true, Bool.or_eq_true, decide_eq_true_eq,
    decide_eq_true_eq] at point
  rcases point with (unreserved | rfl) | rfl
  · exact .inl unreserved
  · exact .inr (by decide)
  · exact .inr (by decide)

theorem isFilledPoint_of_isPathPoint {c : CodePoint} (point : isPathPoint c = true) : isFilledPoint c = true := by
  rcases Bool.or_eq_true_iff.mp point with unreserved | slash
  · simp [isFilledPoint, Percent.isComponentPoint, unreserved]
  · simp [isFilledPoint, slash]

theorem isPlain_of_pathPoints {t : Text} (points : ∀ c ∈ t, isPathPoint c = true) : t.IsPlain := by
  intro c inside
  rcases Bool.or_eq_true_iff.mp (points c inside) with unreserved | slash
  · have ascii := Percent.ascii_of_unreserved unreserved
    rw [CodePoint.isSurrogate, Bool.and_eq_false_iff]
    exact .inl (decide_eq_false (by omega))
  · rw [of_decide_eq_true slash]
    decide

theorem percent_not_mem {t : Text} (points : ∀ c ∈ t, isPathPoint c = true) : CodePoint.ofChar '%' ∉ t :=
  fun inside => ne_of_isPathPoint (points _ inside) (by decide) rfl

/-- Literal text in front of a path is shown as it is. -/
theorem decodedPath_append {u : Url} {front more : Text} (points : ∀ c ∈ front, isPathPoint c = true)
    (nonempty : front ≠ []) (path : u.path = front ++ more) :
    u.decodedPath = front ++ Text.ofOctetsLossy (Percent.decode more) := by
  have written : (front ++ more).isEmpty = false := by simp [nonempty]
  rw [Url.decodedPath, path, written, if_neg Bool.false_ne_true, Percent.decodeText,
    Percent.decode_append (percent_not_mem points), Text.ofOctetsLossy_append (isPlain_of_pathPoints points)]

/-- A text in the middle of a path is shown as it was given. -/
theorem ofOctetsLossy_component {v right : Text} (plain : v.IsPlain) (points : ∀ c ∈ right, isPathPoint c = true) :
    Text.ofOctetsLossy (Percent.decode (Percent.encode v.octets ++ right)) = v ++ right := by
  have whole := Percent.decode_append (percent_not_mem points) []
  have read := Text.ofOctetsLossy_append (isPlain_of_pathPoints points) []
  rw [List.append_nil] at whole
  rw [Percent.decode_encode_append, Text.ofOctetsLossy_append plain, whole]
  exact congrArg (v ++ ·) (read.trans (List.append_nil right))

/-- Different texts are escaped differently. -/
theorem eq_of_encode_eq {v w : Text} (one : v.IsPlain) (two : w.IsPlain)
    (same : Percent.encode v.octets = Percent.encode w.octets) : v = w := by
  have nothing (t : Text) (points : t.IsPlain) : Text.ofOctetsLossy (Percent.decode (Percent.encode t.octets)) = t := by
    have none : ∀ c ∈ ([] : Text), isPathPoint c = true := fun c impossible => by cases impossible
    have shown := ofOctetsLossy_component points none
    rw [List.append_nil, List.append_nil] at shown
    exact shown
  rw [← nothing v one, same, nothing w two]

namespace IsPathPlace

variable {host left right : Text} (place : IsPathPlace host left right)

include place

/-- The literal text in front ends in a slash behind plain segments. -/
theorem exists_front : ∃ front, left = front ++ [CodePoint.ofChar '/'] ∧
    (∀ c ∈ front, isPathPoint c = true) ∧ Url.IsPlainPath (Text.splitOn '/' front) := by
  obtain ⟨front, rfl⟩ := List.getLast?_eq_some_iff.mp place.ends
  refine ⟨front, rfl, fun c inside => place.leftPoints c (List.mem_append_left _ inside), ?_⟩
  intro segment inside
  apply place.leftSegments segment
  rw [Text.splitOn_append_cons]
  exact List.mem_append_left _ inside

theorem filled_points {component : Text} (points : ∀ c ∈ component, Percent.isComponentPoint c = true) :
    ∀ c ∈ left ++ (component ++ right), isFilledPoint c = true := by
  intro c inside
  rcases List.mem_append.mp inside with front | inside
  · exact isFilledPoint_of_isPathPoint (place.leftPoints c front)
  · rcases List.mem_append.mp inside with own | behind
    · rw [isFilledPoint, points c own, Bool.true_or]
    · exact isFilledPoint_of_isPathPoint (place.rightPoints c behind)

/-- The path of the URL that is read from the filled template is the normal form of the filled path. -/
theorem path_of_parse {component : Text} (points : ∀ c ∈ component, Percent.isComponentPoint c = true) {u : Url}
    (done : Url.parse (Url.absoluteText "https" host (left ++ (component ++ right))) = .ok u) :
    Url.escaped Url.keepInPath (Url.normalPath (left ++ (component ++ right))) = .ok u.path := by
  have read := Url.parse_ok done
  have free : ∀ c ∈ host, Url.endsAuthority c = false := by
    intro c inside
    have point := place.hostPoints c inside
    have slash := ne_of_isUnreserved point (d := CodePoint.ofChar '/') (by decide)
    have question := ne_of_isUnreserved point (d := CodePoint.ofChar '?') (by decide)
    have number := ne_of_isUnreserved point (d := CodePoint.ofChar '#') (by decide)
    simp [Url.endsAuthority, slash, question, number]
  have stop : Url.EndsAuthority (left ++ (component ++ right)) := by
    intro c first
    rw [List.head?_append, place.starts, Option.some_or] at first
    cases first
    decide
  have filled := place.filled_points points
  have query : CodePoint.ofChar '?' ∉ left ++ (component ++ right) := fun inside =>
    absurd (filled _ inside) (by decide)
  have fragment : CodePoint.ofChar '#' ∉ left ++ (component ++ right) := fun inside =>
    absurd (filled _ inside) (by decide)
  rw [Url.pieces_absoluteText (.inr rfl) free stop, Url.cutOptional_of_not_mem fragment,
    Url.cutOptional_of_not_mem query] at read
  have named : u.scheme.isEmpty = false := by
    rw [read.scheme]
    rfl
  have written := read.path
  rw [named, Bool.not_false, Bool.true_or, if_pos rfl] at written
  exact written

/-- A component that is no dot segment leaves the path as it has been filled. -/
theorem path_of_plain {component : Text} (points : ∀ c ∈ component, Percent.isComponentPoint c = true)
    (plain : Url.isDots component = false) {u : Url}
    (done : Url.parse (Url.absoluteText "https" host (left ++ (component ++ right))) = .ok u) :
    u.path = left ++ (component ++ right) := by
  have written := place.path_of_parse points done
  have filled := place.filled_points points
  have slash : CodePoint.ofChar '/' ∉ component := fun inside => absurd (points _ inside) (by decide)
  have behindSegments := Url.isPlainPath_segmentsBehind place.behind place.rightSegments
  obtain ⟨front, rfl, _, frontSegments⟩ := place.exists_front
  have normal := Url.normalPath_between_of_plain slash place.behind frontSegments behindSegments plain
  rw [List.append_assoc, List.singleton_append] at written filled ⊢
  rw [normal, escaped_of_filled filled] at written
  exact (Except.ok.inj written).symm

/-- The component `.` goes with the slash in front of it. -/
theorem path_of_dot {front : Text} (ends : left = front ++ [CodePoint.ofChar '/']) {u : Url}
    (done : Url.parse (Url.absoluteText "https" host (left ++ (Text.ofString "." ++ right))) = .ok u) :
    u.path = front ++ right := by
  have written := place.path_of_parse (List.all_eq_true.mp (by decide)) done
  have behindSegments := Url.isPlainPath_segmentsBehind place.behind place.rightSegments
  obtain ⟨front', same, points, frontSegments⟩ := place.exists_front
  cases List.append_cancel_right (ends.symm.trans same)
  have joined : ∀ c ∈ front ++ right, isFilledPoint c = true := by
    intro c inside
    rcases List.mem_append.mp inside with literal | behind
    · exact isFilledPoint_of_isPathPoint (points c literal)
    · exact isFilledPoint_of_isPathPoint (place.rightPoints c behind)
  rw [ends, List.append_assoc, List.singleton_append, Url.normalPath_dot place.behind frontSegments behindSegments,
    escaped_of_filled joined] at written
  exact (Except.ok.inj written).symm

/-- At the root the component `..` goes with the slash in front of it. -/
theorem path_of_dots_atRoot (root : left = Text.ofString "/") {u : Url}
    (done : Url.parse (Url.absoluteText "https" host (left ++ (Text.ofString ".." ++ right))) = .ok u) :
    u.path = right := by
  have written := place.path_of_parse (List.all_eq_true.mp (by decide)) done
  have behindSegments := Url.isPlainPath_segmentsBehind place.behind place.rightSegments
  have slash : left ++ (Text.ofString ".." ++ right) = CodePoint.ofChar '/' :: (Text.ofString ".." ++ right) := by
    rw [root]
    rfl
  rw [slash, Url.normalPath_dots_atRoot place.behind behindSegments,
    escaped_of_filled fun c inside => isFilledPoint_of_isPathPoint (place.rightPoints c inside)] at written
  exact (Except.ok.inj written).symm

end IsPathPlace

theorem encode_dot : Percent.encode (Text.octets (Text.ofString ".")) = Text.ofString "." := by decide

theorem encode_dots : Percent.encode (Text.octets (Text.ofString "..")) = Text.ofString ".." := by decide

theorem isDots_encode {v : Text} (plain : v.IsPlain) : Url.isDots (Percent.encode v.octets) = Url.isDots v := by
  have dot : Percent.encode v.octets = Text.ofString "." ↔ v = Text.ofString "." := by
    constructor
    · intro same
      exact eq_of_encode_eq plain (by decide) (same.trans encode_dot.symm)
    · rintro rfl
      exact encode_dot
  have dots : Percent.encode v.octets = Text.ofString ".." ↔ v = Text.ofString ".." := by
    constructor
    · intro same
      exact eq_of_encode_eq plain (by decide) (same.trans encode_dots.symm)
    · rintro rfl
      exact encode_dots
  rw [Url.isDots, Url.isDots, decide_eq_decide.mpr dot, decide_eq_decide.mpr dots]

/-- Without the segment between them, what stands in front of a place and behind it makes a path that starts with all
that stands in front, the slash included, if there is anything behind or nothing but the slash in front. -/
theorem prefix_of_joined {front right : Text} {u : Url} (behind : Url.AtRoot right)
    (points : ∀ c ∈ front, isPathPoint c = true) (path : u.path = front ++ right) (more : right ≠ [] ∨ front = []) :
    front ++ [CodePoint.ofChar '/'] <+: u.decodedPath := by
  cases right with
  | nil =>
    cases more with
    | inl something => exact absurd rfl something
    | inr root =>
      subst root
      rw [Url.decodedPath, path]
      exact List.prefix_refl _
  | cons c rest =>
    have slash : front ++ c :: rest = front ++ [CodePoint.ofChar '/'] ++ rest := by rw [behind c rfl]; simp
    have own : ∀ d ∈ front ++ [CodePoint.ofChar '/'], isPathPoint d = true := by
      intro d inside
      rcases List.mem_append.mp inside with literal | last
      · exact points d literal
      · rw [List.mem_singleton.mp last]
        decide
    rw [decodedPath_append own (by simp) (path.trans slash)]
    exact List.prefix_append _ _

/-- The value stays in its place, or it goes without taking anything along. -/
def KeepsFront (left right v : Text) : Prop :=
  left = Text.ofString "/" ∨ v ≠ Text.ofString ".." ∧ (v ≠ Text.ofString "." ∨ right ≠ [])

/-- The path of a URL starts with the literal text in front of a value, if the value is none of those that are taken
out of a path with what stands before them. A value that is no dot segment stands in the path between the literal
texts, whatever characters it has. -/
theorem resolveUrl_keeps_front (settings : Settings) {host left right v : Text} {u : Url}
    (place : IsPathPlace host left right) (plain : v.IsPlain)
    (done : resolveUrl settings (placeTemplate host left right) (some (placeBag v)) none = .ok u) :
    (KeepsFront left right v → left <+: u.decodedPath) ∧
      (Url.isDots v = false → u.decodedPath = left ++ (v ++ right)) := by
  unfold resolveUrl at done
  rw [place.resolve_placeTemplate settings plain] at done
  dsimp only [locate] at done
  split at done
  · cases done
  · next url read =>
    cases done
    obtain ⟨front, ends, frontPoints, _⟩ := place.exists_front
    cases dots : Url.isDots v with
    | false =>
      have nonempty : left ≠ [] := by simp [ends]
      have path := place.path_of_plain (fun c => Percent.isComponentPoint_of_mem_encode)
        ((isDots_encode plain).trans dots) read
      have whole : u.decodedPath = left ++ (v ++ right) := by
        rw [decodedPath_append place.leftPoints nonempty path, ofOctetsLossy_component plain place.rightPoints]
      exact ⟨fun _ => whole ▸ List.prefix_append _ _, fun _ => whole⟩
    | true =>
      refine ⟨fun kept => ?_, fun impossible => by cases impossible⟩
      have root (only : left = Text.ofString "/") : front = [] :=
        (List.append_eq_singleton_iff.mp (ends.symm.trans only)).elim And.left fun other =>
          absurd other.2 (List.cons_ne_nil _ _)
      rw [Url.isDots, Bool.or_eq_true, decide_eq_true_eq, decide_eq_true_eq] at dots
      rw [ends]
      rcases dots with rfl | rfl
      · rw [encode_dot] at read
        apply prefix_of_joined place.behind frontPoints (place.path_of_dot ends read)
        rcases kept with only | ⟨_, other | more⟩
        · exact .inr (root only)
        · exact absurd rfl other
        · exact .inl more
      · rw [encode_dots] at read
        rcases kept with only | ⟨other, _⟩
        · rw [root only]
          apply prefix_of_joined place.behind (fun c impossible => by cases impossible)
            (place.path_of_dots_atRoot only read) (.inr rfl)
        · exact absurd rfl other

/-- A place behind one segment. -/
theorem isPathPlace_behind_segment {right : Text} (points : right.all isPathPoint = true) (behind : Url.AtRoot right)
    (segments : Url.IsPlainPath (Text.splitOn '/' right)) : IsPathPlace "h.example" "/a/" right where
  hostPoints := List.all_eq_true.mp (by decide)
  leftPoints := List.all_eq_true.mp (by decide)
  rightPoints := List.all_eq_true.mp points
  starts := rfl
  ends := rfl
  behind := behind
  leftSegments := by decide
  rightSegments := segments

/-- A value that would leave its place in many ways if it were not escaped. -/
theorem resolveUrl_keeps_front_hostile_value :
    let u : Url := ⟨"https", [], "h.example", none, "/a/..%2F%3F%23%7B%25/b", none, none⟩
    IsPathPlace "h.example" "/a/" "/b" ∧ KeepsFront "/a/" "/b" "../?#\x7b%" ∧
      resolveUrl {} (placeTemplate "h.example" "/a/" "/b") (some (placeBag "../?#\x7b%")) none = .ok u ∧
      u.decodedPath = "/a/../?#\x7b%/b" := by
  intro u
  have place : IsPathPlace "h.example" "/a/" "/b" :=
    isPathPlace_behind_segment (by decide) (fun _ first => (Option.some.inj first).symm) (by decide)
  have done : resolveUrl {} (placeTemplate "h.example" "/a/" "/b") (some (placeBag "../?#\x7b%")) none = .ok u := by rfl
  have kept : KeepsFront "/a/" "/b" "../?#\x7b%" := .inr ⟨by decide, .inl (by decide)⟩
  exact ⟨place, kept, done, (resolveUrl_keeps_front {} place (by decide) done).2 (by decide)⟩

/-- Dot segments do not keep what stands before them: one takes the segment in front of it along, the other the slash
behind that if nothing follows. -/
theorem resolveUrl_front_lost :
    IsPathPlace "h.example" "/a/" "/b" ∧ IsPathPlace "h.example" "/a/" [] ∧
    (∃ u, resolveUrl {} (placeTemplate "h.example" "/a/" "/b") (some (placeBag "..")) none = .ok u ∧
      u.decodedPath = "/b" ∧ ¬Text.ofString "/a/" <+: u.decodedPath) ∧
    ∃ u, resolveUrl {} (placeTemplate "h.example" "/a/" []) (some (placeBag ".")) none = .ok u ∧
      u.decodedPath = "/a" ∧ ¬Text.ofString "/a/" <+: u.decodedPath := by
  have inner : IsPathPlace "h.example" "/a/" "/b" :=
    isPathPlace_behind_segment (by decide) (fun _ first => (Option.some.inj first).symm) (by decide)
  have last : IsPathPlace "h.example" "/a/" [] :=
    isPathPlace_behind_segment rfl (fun _ impossible => by cases impossible) (by decide)
  exact ⟨inner, last, ⟨⟨"https", [], "h.example", none, "/b", none, none⟩, rfl, rfl, by decide⟩,
    ⟨⟨"https", [], "h.example", none, "/a", none, none⟩, rfl, rfl, by decide⟩⟩

end RouteTemplate
