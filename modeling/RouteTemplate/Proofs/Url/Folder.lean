import RouteTemplate.Proofs.Url.FolderPath
import RouteTemplate.Proofs.Url.Relative

set_option autoImplicit false

namespace RouteTemplate.Url

open Percent (isUnreserved)

theorem splitParameters_of_not_mem {path : Text} (free : CodePoint.ofChar ';' ∉ path) :
    splitParameters path = (path, []) := by
  unfold splitParameters
  split
  · next before last cut =>
    obtain ⟨rfl, _⟩ := Text.splitLast_append cut
    have unparted : CodePoint.ofChar ';' ∉ last := fun inside => free (by simp [inside])
    rw [Text.splitFirst_eq_none_iff.mpr unparted]
  · rw [Text.splitFirst_eq_none_iff.mpr free, Option.getD_none]

theorem splitParameters_of_ends {path : Text} (ends : path = [] ∨ path.getLast? = some (CodePoint.ofChar '/')) :
    splitParameters path = (path, []) := by
  rcases ends with rfl | ends
  · rfl
  · obtain ⟨front, rfl⟩ := List.getLast?_eq_some_iff.mp ends
    rw [splitParameters, Text.splitLast_of_not_mem front List.not_mem_nil]
    rfl

theorem startsWith_slashes_behindPath {u : Url} (single : u.path.startsWith "//" = false) :
    (u.path ++ u.behindPath).startsWith "//" = false := by
  have marks := head?_behindPath u
  have slashes : Text.ofString "//" = [CodePoint.ofChar '/', CodePoint.ofChar '/'] := rfl
  rw [Text.startsWith_eq_false_iff, slashes] at single ⊢
  intro rest same
  have apart (more : Text) : CodePoint.ofChar '/' :: more ≠ u.behindPath := by
    intro whole
    rw [← whole] at marks
    exact absurd (marks _ rfl) (by decide)
  cases path : u.path with
  | nil => exact apart _ (by rw [path] at same; exact same)
  | cons c more =>
    rw [path] at same single
    cases more with
    | nil => exact apart _ (List.cons.inj same).2
    | cons d more =>
      obtain ⟨rfl, behind⟩ := List.cons.inj same
      obtain ⟨rfl, _⟩ := List.cons.inj behind
      exact single more rfl

section Base

variable {t : Text} {base : Url} (read : Normalizes (pieces t) base)

include read

theorem Normalizes.kept_in_path {c : CodePoint} (inside : c ∈ base.path) : isUnreserved c = true ∨ keepInPath c = true := by
  rcases mem_escaped read.path inside with point | kept
  · rcases Bool.or_eq_true_iff.mp point with unreserved | percent
    · exact .inl unreserved
    · right
      rw [of_decide_eq_true percent]
      decide
  · exact .inr kept

theorem Normalizes.number_not_mem_query {query : Text} (asked : base.query = some query) :
    CodePoint.ofChar '#' ∉ query := by
  have written := read.query
  rw [asked] at written
  obtain ⟨_, _, own⟩ := escapedOptional_some written
  exact fun inside => absurd (mem_escaped own inside) (by decide)

/-- The text of a base that is a folder is taken apart into its parts. -/
theorem Normalizes.ofText_text (http : IsHttp base.scheme) (is : IsFolder base.path) {b : Reference}
    (done : Reference.ofText [] base.text = .ok b) :
    b.scheme = base.scheme ∧ b.authority = base.authorityText ∧ b.path = base.path := by
  have stop (served : base.authorityText ≠ []) : EndsAuthority (base.path ++ base.behindPath) :=
    (EndsAuthority.of_atRoot (read.path_atRoot (hasAuthority_of_authorityText served))).append (.behindPath base)
  have authority := splitAuthority_behindAuthority read.authority_free stop
    (startsWith_slashes_behindPath is.startsWith_slashes)
  have unsigned : CodePoint.ofChar '#' ∉ base.path ++ base.query.elim [] fun query => CodePoint.ofChar '?' :: query := by
    rw [List.mem_append, not_or]
    refine ⟨fun inside => absurd (read.kept_in_path inside) (by decide), ?_⟩
    cases asked : base.query with
    | none => exact List.not_mem_nil
    | some query => simp [read.number_not_mem_query asked]
  have unasked : CodePoint.ofChar '?' ∉ base.path := fun inside => absurd (read.kept_in_path inside) (by decide)
  have fragment := cutOptional_append_elim unsigned base.fragment
  have query := cutOptional_append_elim unasked base.query
  rw [List.append_assoc, ← behindPath] at fragment
  unfold Reference.ofText at done
  rw [text_eq_behindScheme http.ne_nil, Reference.cutScheme_append http] at done
  dsimp only at done
  rw [authority] at done
  obtain ⟨_, _, done⟩ := bind_eq_ok.mp done
  rw [fragment] at done
  dsimp only at done
  rw [query] at done
  dsimp only at done
  rw [splitParameters_of_ends is.ends, ite_self] at done
  cases done
  exact ⟨rfl, rfl, rfl⟩

end Base

theorem splitScheme_of_not_mem {t : Text} (uncoloned : CodePoint.ofChar ':' ∉ t) : splitScheme t = ([], t) := by
  unfold splitScheme
  split
  next word rest cut =>
  -- The colon is searched for in all of the text, or in what stands behind the letters in front.
  have inside : ∀ c ∈ rest, c ∈ t := by
    cases t with
    | nil =>
      cases cut
      exact fun c member => member
    | cons c t =>
      dsimp only at cut
      split at cut
      · intro d member
        rw [← Text.span_append isSchemePoint (c :: t), cut]
        exact List.mem_append_right _ member
      · cases cut
        exact fun d member => member
  cases rest with
  | nil => rfl
  | cons c after =>
    have other : c ≠ CodePoint.ofChar ':' := fun same => uncoloned (same ▸ inside c List.mem_cons_self)
    exact if_neg other

theorem Reference.cutScheme_of_not_mem {t : Text} (uncoloned : CodePoint.ofChar ':' ∉ t) (scheme : Text) :
    cutScheme scheme t = (scheme, t) := by
  rw [cutScheme, Text.splitFirst_eq_none_iff.mpr uncoloned]

def referenceText (path : Text) (query : Option Text) : Text :=
  path ++ query.elim [] fun query => CodePoint.ofChar '?' :: query

/-- A relative reference that is read as it is written: a path of proper segments, and a query that is not empty if it is
there. -/
structure IsRelative (path : Text) (query : Option Text) : Prop where
  proper : IsProper (Text.splitOn '/' path)
  asked : query ≠ some []
  unasked : CodePoint.ofChar '?' ∉ path
  points : ∀ c ∈ referenceText path query, isReferencePoint c = true
  uncoloned : CodePoint.ofChar ':' ∉ referenceText path query

namespace IsRelative

variable {path : Text} {query : Option Text} (relative : IsRelative path query)

include relative

theorem path_ne_nil : path ≠ [] := by
  rintro rfl
  exact (relative.proper [] List.mem_cons_self).1 rfl

theorem unserved : Unserved (referenceText path query) := by
  refine ⟨splitScheme_of_not_mem relative.uncoloned, ?_⟩
  have unrooted := startsWith_of_proper relative.proper
  rw [Text.startsWith_eq_false_iff] at unrooted ⊢
  intro rest same
  cases path with
  | nil => exact relative.path_ne_nil rfl
  | cons c more =>
    obtain ⟨rfl, _⟩ := List.cons.inj same
    exact unrooted more rfl

theorem cutOptional : cutOptional '?' (referenceText path query) = (path, query) :=
  cutOptional_append_elim relative.unasked query

/-- A relative reference is taken apart into its path and its query. -/
theorem ofText {scheme : Text} {r : Reference} (done : Reference.ofText scheme (referenceText path query) = .ok r) :
    r = ⟨scheme, [], path, [], query.getD [], []⟩ := by
  have unsigned : CodePoint.ofChar '#' ∉ referenceText path query := fun inside =>
    absurd (relative.points _ inside) (by decide)
  have unparted : CodePoint.ofChar ';' ∉ path := fun inside =>
    absurd (relative.points _ (List.mem_append_left _ inside)) (by decide)
  unfold Reference.ofText at done
  rw [Reference.cutScheme_of_not_mem relative.uncoloned] at done
  dsimp only at done
  rw [relative.unserved.authority] at done
  obtain ⟨_, _, done⟩ := bind_eq_ok.mp done
  rw [cutOptional_of_not_mem unsigned] at done
  dsimp only at done
  rw [relative.cutOptional] at done
  dsimp only at done
  rw [splitParameters_of_not_mem unparted, ite_self] at done
  cases done
  rfl

theorem shownBehind :
    Reference.shownBehind (query.getD []) [] = query.elim [] fun query => CodePoint.ofChar '?' :: query := by
  cases query with
  | none => rfl
  | some query =>
    have nonempty : query ≠ [] := fun bare => relative.asked (congrArg some bare)
    simp [Reference.shownBehind, nonempty]

theorem escaped_query : escapedOptional keepInQuery query = .ok query := by
  cases query with
  | none => rfl
  | some query =>
    have own : escaped keepInQuery query = .ok query :=
      escaped_eq_self fun c inside => kept_in_query (relative.points c (by simp [referenceText, inside]))
    rw [escapedOptional, own]
    rfl

end IsRelative

section Join

variable {t path front : Text} {query : Option Text} {base u : Url} (read : Normalizes (pieces t) base)
  (http : IsHttp base.scheme) (folder : IsFolder base.path) (of : FrontOf base.path front)
  (relative : IsRelative path query)

include read http folder of relative

/-- Joined onto a folder, a relative reference is a text with the scheme and the authority of the base. -/
theorem join_folder_eq (done : base.join (referenceText path query) = .ok u) :
    parse (absoluteText base.scheme base.authorityText
      (referenceText (rootedPath (front ++ CodePoint.ofChar '/' :: path)) query)) = .ok u := by
  obtain ⟨r, own, done⟩ := bind_eq_ok.mp done
  obtain ⟨joined, texts, again⟩ := bind_eq_ok.mp done
  have based : base.text ≠ [] := by
    rw [text_eq_behindScheme http.ne_nil]
    exact List.append_ne_nil_of_left_ne_nil http.ne_nil _
  have referred : referenceText path query ≠ [] := List.append_ne_nil_of_left_ne_nil relative.path_ne_nil _
  rw [text_of_parse_verbatim relative.points relative.unserved own] at texts
  obtain ⟨b, ref, baseCut, referenceCut, rfl⟩ := joinTexts_ok based referred texts
  obtain ⟨baseScheme, baseAuthority, basePath⟩ := read.ofText_text http folder baseCut
  have cut := relative.ofText referenceCut
  have known : IsHttp b.scheme := baseScheme ▸ http
  have single : (Reference.shownPath (front ++ CodePoint.ofChar '/' :: path) []).startsWith "//" = false :=
    of.startsWith_slashes relative.proper
  have bare (path : Text) : Reference.shownPath path [] = path := rfl
  rw [joinReferences_eq known (by rw [cut]) (by rw [cut]) (by rw [cut]; exact relative.path_ne_nil), cut] at again
  dsimp only at again
  rwa [basePath, of.joinedPath relative.proper, Reference.text_eq known (.inr single), bare, relative.shownBehind,
    baseScheme, baseAuthority] at again

omit http folder in
theorem kept_in_rootedPath {c : CodePoint} (inside : c ∈ rootedPath (front ++ CodePoint.ofChar '/' :: path)) :
    isUnreserved c = true ∨ keepInPath c = true := by
  rcases mem_rootedPath inside with rfl | inside
  · exact .inr (by decide)
  · rcases List.mem_append.mp inside with before | behind
    · exact read.kept_in_path (of.mem before)
    · rcases List.mem_cons.mp behind with rfl | there
      · exact .inr (by decide)
      · apply Url.kept_in_path (relative.points c (List.mem_append_left _ there))
        rintro rfl
        exact relative.unasked there

omit folder in
/-- Behind the authority of the base, the joined text is cut into the joined path and the query of the reference. -/
theorem pieces_joined :
    pieces (absoluteText base.scheme base.authorityText
        (referenceText (rootedPath (front ++ CodePoint.ofChar '/' :: path)) query)) =
      ⟨base.scheme, base.authorityText, rootedPath (front ++ CodePoint.ofChar '/' :: path), query, none⟩ := by
  have kept (c : CodePoint) := kept_in_rootedPath read of relative (c := c)
  have unasked : CodePoint.ofChar '?' ∉ rootedPath (front ++ CodePoint.ofChar '/' :: path) := fun inside =>
    absurd (kept _ inside) (by decide)
  have unsigned : CodePoint.ofChar '#' ∉ referenceText (rootedPath (front ++ CodePoint.ofChar '/' :: path)) query := by
    rw [referenceText, List.mem_append, not_or]
    refine ⟨fun inside => absurd (kept _ inside) (by decide), fun inside => ?_⟩
    exact absurd (relative.points _ (List.mem_append_right _ inside)) (by decide)
  have stop : EndsAuthority (referenceText (rootedPath (front ++ CodePoint.ofChar '/' :: path)) query) := by
    apply (EndsAuthority.rooted _).append
    cases query with
    | none => exact .nil
    | some query => exact .cons (by decide) query
  rw [pieces_absoluteText http read.authority_free stop, cutOptional_of_not_mem unsigned]
  dsimp only
  rw [referenceText, cutOptional_append_elim unasked]

/-- What is joined onto a folder keeps the server of the base and stands behind its path; the query is that of the
reference. -/
theorem join_folder (done : base.join (referenceText path query) = .ok u) :
    u.RereadsServer base ∧ u.path = rootedPath (front ++ CodePoint.ofChar '/' :: path) ∧ u.query = query := by
  have again := parse_ok (join_folder_eq read http folder of relative done)
  have kept (c : CodePoint) := kept_in_rootedPath read of relative (c := c)
  have plain := isPlainPath_rootedPath (of.isPlainPath relative.proper)
  rw [pieces_joined read http of relative] at again
  refine ⟨read.rereadsServer http.asciiLower_eq rfl rfl again, ?_, ?_⟩
  · have written := again.path
    dsimp only at written
    rw [normalPath_of_plain plain, ite_self, escaped_eq_self kept] at written
    exact (Except.ok.inj written).symm
  · have written := again.query
    dsimp only at written
    rw [relative.escaped_query] at written
    exact (Except.ok.inj written).symm

end Join

end RouteTemplate.Url
