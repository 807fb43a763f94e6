import RouteTemplate.Proofs.Route.Leftovers
import RouteTemplate.Proofs.Route.PathPlace
import RouteTemplate.Proofs.Route.Verbatim
import RouteTemplate.Proofs.Url.Folder

set_option autoImplicit false

namespace RouteTemplate

variable {settings : Settings} {bag : Bag} {text route : Text}

/-- Without a question mark in the gaps every placeholder stands in the path. -/
theorem Template.kind_of_unmarked {segments : List Segment} (free : CodePoint.ofChar '?' ∉ segments.flatMap Segment.gap)
    {start : Nat} {p : Placeholder} (inside : p ∈ placeholdersFrom start false segments) : p.kind = .path := by
  induction segments generalizing start with
  | nil => cases inside
  | cons s segments ih =>
    rw [List.flatMap_cons, List.mem_append, not_or] at free
    have unasked : (false || s.gap.contains (CodePoint.ofChar '?')) = false := by simpa using free.1
    rw [placeholdersFrom, unasked] at inside
    rcases List.mem_cons.mp inside with rfl | later
    · rfl
    · exact ih free.2 later

theorem Template.queryPlaceholders_of_unmarked {t : Template} (free : CodePoint.ofChar '?' ∉ t.literal) :
    t.queryPlaceholders = [] := by
  rw [queryPlaceholders, List.filter_eq_nil_iff]
  intro p inside
  rw [kind_of_unmarked (fun gap => free (List.mem_append_left _ gap)) inside]
  decide

theorem Template.hasQueryMarker_of_unmarked {t : Template} (free : CodePoint.ofChar '?' ∉ t.literal) :
    t.hasQueryMarker = false := by
  rw [literal, List.mem_append, not_or, tail, List.mem_append, not_or] at free
  rw [hasQueryMarker, Bool.or_eq_false_iff, List.any_eq_false]
  refine ⟨fun s member asked => free.1 ?_, by simpa using free.2.1⟩
  exact List.mem_flatMap.mpr ⟨s, member, List.contains_iff_mem.mp asked⟩

/-- Without a question mark in the template, the query of a route is what is left of the bag. -/
theorem cutOptional_resolve (free : CodePoint.ofChar '?' ∉ (Template.parse text).literal)
    (done : resolve settings text (some bag) = .ok route) :
    ∃ accessors pairs, bag.accessors = .ok accessors ∧
      List.Forall₂ (PairOf settings)
        (if settings.appendUnconsumed then (Template.parse text).remaining bag accessors else []) pairs ∧
      (Url.cutOptional '?' route).2 = if pairs = [] then none else some (Text.joinWith "&" pairs) := by
  obtain ⟨accessors, filled, pairs, parts, rfl⟩ := resolve_ok done
  refine ⟨accessors, pairs, parts.known, parts.appended, ?_⟩
  have marker := Template.hasQueryMarker_of_unmarked free
  have front := mark_not_mem_substitute parts.substituted (Bool.or_eq_false_iff.mp marker).1
  have unasked : CodePoint.ofChar '?' ∉ filled ++ (Template.parse text).tail := by
    rw [List.mem_append, not_or]
    exact ⟨front, fun tail => free (List.mem_append_right _ tail)⟩
  have question : separator false (filled ++ (Template.parse text).tail) = [CodePoint.ofChar '?'] := rfl
  rw [marker, appendPairs]
  by_cases none_ : pairs = []
  · rw [if_pos none_, none_]
    exact congrArg Prod.snd (Url.cutOptional_of_not_mem unasked)
  · rw [if_neg none_, if_neg (by simpa using none_), question]
    exact congrArg Prod.snd (Url.cutOptional_append_elim unasked (some (Text.joinWith "&" pairs)))

theorem isLiteralPoint_of_isPathPoint {c : CodePoint} (point : isPathPoint c = true) : isLiteralPoint c = true := by
  rcases Bool.or_eq_true_iff.mp point with unreserved | slash
  · rw [isLiteralPoint, unreserved, Bool.true_or]
  · rw [of_decide_eq_true slash]
    rfl

/-- Where the literal text is a path and the path of the route is proper, the route is a relative reference. -/
theorem isRelative_of_resolve (literal : ∀ c ∈ (Template.parse text).literal, isPathPoint c = true)
    (done : resolve settings text (some bag) = .ok route)
    (proper : Url.IsProper (Text.splitOn '/' (Url.cutOptional '?' route).1)) :
    Url.IsRelative (Url.cutOptional '?' route).1 (Url.cutOptional '?' route).2 := by
  have free : CodePoint.ofChar '?' ∉ (Template.parse text).literal := fun inside =>
    absurd (literal _ inside) (by decide)
  have unnamed := Template.queryPlaceholders_of_unmarked free
  have asked : (Url.cutOptional '?' route).2 ≠ some [] := by
    obtain ⟨_, pairs, _, rendered, query⟩ := cutOptional_resolve free done
    rw [query]
    split
    · simp
    · next nonempty => exact fun same => joinWith_pairs_ne_nil rendered nonempty _ (Option.some.inj same)
  have points (c : CodePoint) (inside : c ∈ route) : Url.isReferencePoint c = true := by
    apply isReferencePoint_of_resolve _ _ done inside
    · exact fun c outside => isLiteralPoint_of_isPathPoint (literal c outside)
    · simp [unnamed]
  have uncoloned : CodePoint.ofChar ':' ∉ route := by
    intro inside
    rcases mem_resolve done inside with component | mark | outside | ⟨p, member, _⟩
    · exact absurd component (by decide)
    · exact absurd mark (by decide)
    · exact absurd (literal _ outside) (by decide)
    · rw [unnamed] at member
      cases member
  have whole : Url.referenceText (Url.cutOptional '?' route).1 (Url.cutOptional '?' route).2 = route :=
    Url.cutOptional_append '?' route
  exact ⟨proper, asked, Url.not_mem_cutOptional '?' route, by rwa [whole], by rwa [whole]⟩

/-- Joined onto a folder, a route stands behind the path of the base on the same server, with what is left of the bag as
its query. No escape is undone or written once more on the way. -/
theorem resolveUrl_folder (settings : Settings) {text baseText route : Text} {bag : Bag} {base u : Url}
    (known : Url.parse baseText = .ok base) (http : Url.IsHttp base.scheme) (folder : Url.IsFolder base.path)
    (literal : ∀ c ∈ (Template.parse text).literal, isPathPoint c = true)
    (resolved : resolve settings text (some bag) = .ok route)
    (proper : Url.IsProper (Text.splitOn '/' (Url.cutOptional '?' route).1))
    (done : resolveUrl settings text (some bag) (some baseText) = .ok u) :
    u.RereadsServer base ∧
      (Url.AtRoot base.path →
        u.decodedPath = base.decodedPath ++ Percent.decodeText (Url.cutOptional '?' route).1) ∧
      (¬Url.AtRoot base.path →
        u.decodedPath = CodePoint.ofChar '/' :: (base.decodedPath ++ Percent.decodeText (Url.cutOptional '?' route).1)) ∧
      ∃ accessors pairs, bag.accessors = .ok accessors ∧
        List.Forall₂ (PairOf settings)
          (if settings.appendUnconsumed then (Template.parse text).remaining bag accessors else []) pairs ∧
        u.query = if pairs = [] then none else some (Text.joinWith "&" pairs) := by
  have free : CodePoint.ofChar '?' ∉ (Template.parse text).literal := fun inside =>
    absurd (literal _ inside) (by decide)
  have whole : Url.referenceText (Url.cutOptional '?' route).1 (Url.cutOptional '?' route).2 = route :=
    Url.cutOptional_append '?' route
  have relative := isRelative_of_resolve literal resolved proper
  obtain ⟨accessors, pairs, read, rendered, query⟩ := cutOptional_resolve free resolved
  obtain ⟨front, of⟩ := folder.exists_front
  obtain ⟨again, same, joined⟩ := resolveUrl_eq_ok.mp done
  cases resolved.symm.trans same
  rw [locate_some known, ← whole] at joined
  obtain ⟨server, path, sameQuery⟩ := Url.join_folder (Url.parse_ok known) http folder of relative joined
  obtain ⟨rooted, unrooted⟩ := Url.decodedPath_of_folder of path
  exact ⟨server, rooted, unrooted, accessors, pairs, read, rendered, sameQuery.trans query⟩

/-- A slash and a space in a value below a base with an escape of its own, and a value that is left over. -/
theorem resolveUrl_folder_escapes :
    let text : Text := "a/\x7bx\x7d"
    let baseText : Text := "https://me@H:8080/v%201/w/?old#f"
    let bag : Bag := .mapping "dict" [(.text "x", .text "b/c d"), (.text "y", .text "1&2")]
    let base : Url := ⟨"https", "me", "h", some 8080, "/v%201/w/", some "old", some "f"⟩
    let u : Url := ⟨"https", "me", "h", some 8080, "/v%201/w/a/b%2Fc%20d", some "y=1%262", none⟩
    Url.parse baseText = .ok base ∧ Url.IsHttp base.scheme ∧ Url.IsFolder base.path ∧
      (∀ c ∈ (Template.parse text).literal, isPathPoint c = true) ∧
      resolve {} text (some bag) = .ok "a/b%2Fc%20d?y=1%262" ∧ Url.IsProper (Text.splitOn '/' "a/b%2Fc%20d") ∧
      resolveUrl {} text (some bag) (some baseText) = .ok u ∧ u.RereadsServer base ∧
      u.decodedPath = base.decodedPath ++ Percent.decodeText "a/b%2Fc%20d" := by
  intro text baseText bag base u
  have known : Url.parse baseText = .ok base := by rfl
  have http : Url.IsHttp base.scheme := .inr rfl
  have folder : Url.IsFolder base.path := ⟨by decide, by decide, by decide⟩
  have points : (Template.parse text).literal.all isPathPoint = true := by decide
  have literal := List.all_eq_true.mp points
  have resolved : resolve {} text (some bag) = .ok "a/b%2Fc%20d?y=1%262" := by rfl
  have proper : Url.IsProper (Text.splitOn '/' "a/b%2Fc%20d") := by decide
  have done : resolveUrl {} text (some bag) (some baseText) = .ok u := by rfl
  have root : Url.AtRoot base.path := fun c first => (Option.some.inj first).symm
  obtain ⟨server, path, _⟩ := resolveUrl_folder {} known http folder literal resolved proper done
  exact ⟨known, http, folder, literal, resolved, proper, done, server, path root⟩

/-- A default port written behind a scheme in capitals is left out, the digits of an escaped character in a host are
lower-cased, and the path of a base without an authority gets the slash that it lacks. -/
theorem resolveUrl_folder_differs :
    let bag : Bag := .mapping "dict" []
    (∀ c ∈ (Template.parse "a").literal, isPathPoint c = true) ∧ resolve {} "a" (some bag) = .ok "a" ∧
      Url.IsProper (Text.splitOn '/' "a") ∧
      (∃ b u : Url, Url.parse "HTTP://h:80/" = .ok b ∧ Url.IsHttp b.scheme ∧ Url.IsFolder b.path ∧
        resolveUrl {} "a" (some bag) (some "HTTP://h:80/") = .ok u ∧ b.port = some 80 ∧ u.port = none) ∧
      (∃ b u : Url, Url.parse "http://a<b/" = .ok b ∧ Url.IsHttp b.scheme ∧ Url.IsFolder b.path ∧
        resolveUrl {} "a" (some bag) (some "http://a<b/") = .ok u ∧ b.host = "a%3Cb" ∧ u.host = "a%3cb") ∧
      ∃ b u : Url, Url.parse "http:v/" = .ok b ∧ Url.IsHttp b.scheme ∧ Url.IsFolder b.path ∧
        resolveUrl {} "a" (some bag) (some "http:v/") = .ok u ∧ b.decodedPath = "v/" ∧ u.decodedPath = "/v/a" := by
  have points : (Template.parse "a").literal.all isPathPoint = true := by decide
  have proper : Url.IsProper (Text.splitOn '/' "a") := by decide
  have http : Url.IsHttp "http" := .inl rfl
  have root : Url.IsFolder "/" := ⟨by decide, by decide, by decide⟩
  have unrooted : Url.IsFolder "v/" := ⟨by decide, by decide, by decide⟩
  exact ⟨List.all_eq_true.mp points, rfl, proper, ⟨_, _, rfl, http, root, rfl, rfl, rfl⟩,
    ⟨_, _, rfl, http, root, rfl, rfl, rfl⟩, _, _, rfl, http, unrooted, rfl, rfl, rfl⟩

end RouteTemplate
