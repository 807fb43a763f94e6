import RouteTemplate.Proofs.Url.Rooted

set_option autoImplicit false

namespace RouteTemplate.Url

/-- Is the scheme one of the two that servers of documents are asked by? -/
def IsHttp (scheme : Text) : Prop := scheme = Text.ofString "http" ∨ scheme = Text.ofString "https"

namespace IsHttp

variable {scheme : Text}

theorem ne_nil (http : IsHttp scheme) : scheme ≠ [] := by
  rcases http with rfl | rfl
  · decide
  · decide

theorem asciiLower_eq (http : IsHttp scheme) : scheme.asciiLower = scheme := by
  rcases http with rfl | rfl
  · decide
  · decide

theorem joined (http : IsHttp scheme) : isOneOf joinedSchemes scheme = true := by
  rcases http with rfl | rfl
  · decide
  · decide

theorem served (http : IsHttp scheme) : isOneOf authoritySchemes scheme = true := by
  rcases http with rfl | rfl
  · decide
  · decide

end IsHttp

/-- A path with the slash in front that it has to have behind an authority. -/
def rootedPath (path : Text) : Text := if !path.isEmpty && !path.startsWith "/" then '/' :: path else path

def EndsAuthority (t : Text) : Prop := ∀ c ∈ t.head?, endsAuthority c = true

namespace EndsAuthority

theorem nil : EndsAuthority [] := by
  intro c first
  cases first

theorem cons {c : CodePoint} (ends : endsAuthority c = true) (t : Text) : EndsAuthority (c :: t) := by
  intro d first
  cases first
  exact ends

theorem append {first second : Text} (one : EndsAuthority first) (two : EndsAuthority second) :
    EndsAuthority (first ++ second) := by
  cases first with
  | nil => exact two
  | cons c first => exact one

theorem behindPath (u : Url) : EndsAuthority u.behindPath := by
  intro c first
  rcases head?_behindPath u c first with rfl | rfl
  · decide
  · decide

theorem rooted (path : Text) : EndsAuthority (rootedPath path) := by
  unfold rootedPath
  split
  · exact cons (by decide) path
  · next fits =>
    rw [Text.startsWith_slash] at fits
    cases path with
    | nil => exact nil
    | cons c path =>
      have root : c = CodePoint.ofChar '/' := by simpa using fits
      rw [root]
      exact cons (by decide) path

end EndsAuthority

def absoluteText (scheme authority rest : Text) : Text :=
  scheme ++ CodePoint.ofChar ':' :: CodePoint.ofChar '/' :: CodePoint.ofChar '/' :: (authority ++ rest)

theorem splitAuthority_append {authority rest : Text} (free : ∀ c ∈ authority, endsAuthority c = false)
    (stop : EndsAuthority rest) :
    splitAuthority (CodePoint.ofChar '/' :: CodePoint.ofChar '/' :: (authority ++ rest)) = (authority, rest) := by
  apply Text.span_append_stop
  · intro c inside
    simpa [endsAuthority] using free c inside
  · intro c first
    change (!endsAuthority c) = false
    rw [stop c first, Bool.not_true]

def behindAuthority (authority rest : Text) : Text :=
  if authority.isEmpty then rest else CodePoint.ofChar '/' :: CodePoint.ofChar '/' :: (authority ++ rest)

theorem splitAuthority_behindAuthority {authority rest : Text} (free : ∀ c ∈ authority, endsAuthority c = false)
    (stop : authority ≠ [] → EndsAuthority rest) (single : rest.startsWith "//" = false) :
    splitAuthority (behindAuthority authority rest) = (authority, rest) := by
  unfold behindAuthority
  split
  · next none =>
    rw [List.isEmpty_iff.mp none, splitAuthority, Text.afterStart?_of_startsWith single]
  · next some =>
    exact splitAuthority_append free (stop (by simpa using some))

/-- Scheme and authority are read back, and what stands behind them is cut as a reference is. -/
theorem pieces_absoluteText {scheme authority rest : Text} (http : IsHttp scheme)
    (free : ∀ c ∈ authority, endsAuthority c = false) (stop : EndsAuthority rest) :
    pieces (absoluteText scheme authority rest) =
      ⟨scheme, authority, (cutOptional '?' (cutOptional '#' rest).1).1, (cutOptional '?' (cutOptional '#' rest).1).2,
        (cutOptional '#' rest).2⟩ := by
  have cut : splitScheme (absoluteText scheme authority rest) =
      (scheme, CodePoint.ofChar '/' :: CodePoint.ofChar '/' :: (authority ++ rest)) := by
    rcases http with rfl | rfl
    · rfl
    · rfl
  simp only [pieces, cut, splitAuthority_append free stop]

/-- A path that starts at the root does so without the parameters of its last segment. -/
theorem head?_splitParameters {path : Text} (root : path.head? = some (CodePoint.ofChar '/')) :
    (splitParameters path).1.head? = some (CodePoint.ofChar '/') := by
  unfold splitParameters
  split
  · next before last cut =>
    split
    · obtain ⟨whole, _⟩ := Text.splitLast_append cut
      cases before with
      | nil => rfl
      | cons c before =>
        rw [← whole] at root
        exact root
    · exact root
  · next unparted =>
    have free := Text.splitLast_eq_none_iff.mp unparted
    exact absurd (List.mem_of_mem_head? root) free

namespace Reference

theorem cutScheme_of_rooted {scheme t : Text} (rooted : Rooted t) : cutScheme scheme t = (scheme, t) := by
  obtain ⟨rest, rfl, _⟩ := rooted
  unfold cutScheme
  split
  · next word after cut =>
    obtain ⟨whole, _⟩ := Text.splitFirst_append cut
    have unlettered : word.head?.elim false CodePoint.isAsciiLetter = false := by
      cases word with
      | nil => rfl
      | cons c word =>
        rw [(List.cons.inj whole).1]
        rfl
    rw [unlettered, Bool.false_and, if_neg Bool.false_ne_true]
  · rfl

theorem ofText_of_rooted {scheme t : Text} {r : Reference} (rooted : Rooted t) (done : ofText scheme t = .ok r) :
    r.scheme = scheme ∧ r.authority = [] ∧ r.path.head? = some (CodePoint.ofChar '/') := by
  have path := (rooted.cutOptional '#' (by decide)).cutOptional '?' (by decide)
  unfold ofText at done
  rw [cutScheme_of_rooted rooted] at done
  dsimp only at done
  rw [rooted.splitAuthority] at done
  obtain ⟨_, _, done⟩ := bind_eq_ok.mp done
  cases done
  refine ⟨rfl, rfl, ?_⟩
  obtain ⟨rest, start, _⟩ := path
  have root : (Url.cutOptional '?' (Url.cutOptional '#' t).1).1.head? = some (CodePoint.ofChar '/') := by
    rw [start]
    rfl
  dsimp only
  split
  · exact head?_splitParameters root
  · exact root

theorem cutScheme_append {scheme : Text} (http : IsHttp scheme) (rest : Text) :
    cutScheme [] (scheme ++ CodePoint.ofChar ':' :: rest) = (scheme, rest) := by
  rcases http with rfl | rfl
  · rfl
  · rfl

theorem ofText_absoluteText {scheme authority rest : Text} {r : Reference} (http : IsHttp scheme)
    (free : ∀ c ∈ authority, endsAuthority c = false) (stop : EndsAuthority rest)
    (done : ofText [] (absoluteText scheme authority rest) = .ok r) : r.scheme = scheme ∧ r.authority = authority := by
  unfold ofText at done
  rw [absoluteText, cutScheme_append http] at done
  dsimp only at done
  rw [splitAuthority_append free stop] at done
  obtain ⟨_, _, done⟩ := bind_eq_ok.mp done
  cases done
  exact ⟨rfl, rfl⟩

/-- A path as it is written with the parameters of its last segment. -/
def shownPath (path parameters : Text) : Text := if parameters.isEmpty then path else List.flatten [path, ";", parameters]

def shownBehind (query fragment : Text) : Text :=
  (if query.isEmpty then [] else CodePoint.ofChar '?' :: query) ++
    if fragment.isEmpty then [] else CodePoint.ofChar '#' :: fragment

theorem endsAuthority_shownBehind (query fragment : Text) : EndsAuthority (shownBehind query fragment) := by
  apply EndsAuthority.append
  · split
    · exact .nil
    · exact .cons (by decide) _
  · split
    · exact .nil
    · exact .cons (by decide) _

/-- With a scheme of its own a reference is written with its authority, an empty one too unless the path starts as an
authority does. -/
theorem text_eq {scheme authority path parameters query fragment : Text} (http : IsHttp scheme)
    (served : authority ≠ [] ∨ (shownPath path parameters).startsWith "//" = false) :
    text ⟨scheme, authority, path, parameters, query, fragment⟩ =
      absoluteText scheme authority (rootedPath (shownPath path parameters) ++ shownBehind query fragment) := by
  have named : scheme.isEmpty = false := by simpa using http.ne_nil
  have hierarchical : (!authority.isEmpty || (!scheme.isEmpty && isOneOf authoritySchemes scheme &&
      !(shownPath path parameters).startsWith "//")) = true := by
    rcases served with authority | single
    · simp [authority]
    · rw [named, http.served, single, Bool.not_false, Bool.and_true, Bool.and_true, Bool.or_true]
  have colon : Text.ofString ":" = [CodePoint.ofChar ':'] := rfl
  have slashes : Text.ofString "//" = [CodePoint.ofChar '/', CodePoint.ofChar '/'] := rfl
  have question : Text.ofString "?" = [CodePoint.ofChar '?'] := rfl
  have number : Text.ofString "#" = [CodePoint.ofChar '#'] := rfl
  have nothing : Text.ofString "" = [] := rfl
  unfold text
  dsimp only
  rw [← shownPath, hierarchical, if_pos rfl, ← rootedPath]
  simp [absoluteText, shownBehind, named, colon, slashes, question, number, nothing]

end Reference

def AtRoot (t : Text) : Prop := ∀ c ∈ t.head?, c = CodePoint.ofChar '/'

theorem EndsAuthority.of_atRoot {t : Text} (root : AtRoot t) : EndsAuthority t := by
  intro c first
  rw [root c first]
  decide

/-- The empty segment in front of the first slash is never taken out. -/
theorem removeDots_cons (segments : List Text) : ∃ kept, removeDots ([] :: segments) = [] :: kept := by
  suffices run : ∀ kept : List Text, ∃ rest, segments.foldl (fun kept segment =>
      if segment = Text.ofString "." then kept
      else if segment = Text.ofString ".." then if kept = [[]] then kept else kept.dropLast
      else kept ++ [segment]) ([] :: kept) = [] :: rest from run []
  -- What is kept begins with the empty segment throughout: `..` takes the last segment, and not the empty one alone.
  induction segments with
  | nil => exact fun kept => ⟨kept, rfl⟩
  | cons segment segments ih =>
    intro kept
    rw [List.foldl_cons]
    split
    · exact ih kept
    · split
      · split
        · exact ih kept
        · next more =>
          cases kept with
          | nil => exact absurd rfl more
          | cons first kept => exact ih (first :: kept).dropLast
      · exact ih (kept ++ [segment])

theorem normalPath_atRoot {path : Text} (root : AtRoot path) : AtRoot (normalPath path) := by
  have segments : ∃ rest, Text.splitOn '/' path = [] :: rest := by
    cases path with
    | nil => exact ⟨[], rfl⟩
    | cons c path =>
      rw [root c rfl, Text.splitOn, if_pos rfl]
      exact ⟨_, rfl⟩
  unfold normalPath
  dsimp only
  split
  · obtain ⟨rest, parted⟩ := segments
    obtain ⟨kept, removed⟩ := removeDots_cons rest
    rw [parted, removed]
    cases kept with
    | nil => intro c first; cases first
    | cons next kept =>
      intro c first
      exact (Option.some.inj first).symm
  · exact root

theorem escaped_atRoot {path written : Text} (root : AtRoot path) (done : escaped keepInPath path = .ok written) :
    AtRoot written := by
  unfold escaped at done
  split at done
  · next encoded =>
    cases done
    cases path with
    | nil =>
      cases encoded
      exact root
    | cons c path =>
      obtain ⟨first, rest, own, _, rfl⟩ := Percent.encodeAround_cons_ok encoded
      rw [root c rfl, if_pos (by decide)] at own
      rw [own]
      intro d start
      exact (Option.some.inj start).symm
  · cases done

/-- Behind an authority a path is empty or starts with a slash. -/
theorem Normalizes.path_atRoot {p : Pieces} {u : Url} (read : Normalizes p u) (authority : u.hasAuthority = true) :
    AtRoot u.path := by
  have root : AtRoot p.path := by
    have fits := read.fits
    rw [checkPath, authority, Text.startsWith_slash] at fits
    split at fits
    · cases fits
    · next open_ =>
      cases path : p.path with
      | nil => intro c first; cases first
      | cons c rest =>
        intro d first
        cases first
        simpa [path] using open_
  have written := read.path
  rw [authority, Bool.or_true, if_pos rfl] at written
  exact escaped_atRoot (normalPath_atRoot root) written

theorem hasAuthority_of_authorityText {u : Url} (served : u.authorityText ≠ []) : u.hasAuthority = true := by
  rw [← Bool.not_eq_false]
  intro bare
  simp only [hasAuthority, Bool.or_eq_false_iff, Bool.not_eq_false', List.isEmpty_iff, Option.isSome_eq_false_iff,
    Option.isNone_iff_eq_none] at bare
  obtain ⟨⟨userinfo, host⟩, port⟩ := bare
  apply served
  rw [authorityText_eq, userinfo, host, port]
  rfl

theorem authorityText_ne_nil {u : Url} (host : u.host ≠ []) : u.authorityText ≠ [] := by
  intro bare
  rw [authorityText_eq, List.append_eq_nil_iff, List.append_eq_nil_iff] at bare
  have shown := bare.2.1
  unfold shownHost at shown
  split at shown
  · cases shown
  · exact host shown

/-- The text of a URL is its scheme with all that stands behind it. -/
theorem text_eq_behindScheme {u : Url} (scheme : u.scheme ≠ []) :
    u.text = u.scheme ++ CodePoint.ofChar ':' :: behindAuthority u.authorityText (u.path ++ u.behindPath) := by
  have named : u.scheme.isEmpty = false := by simpa using scheme
  have colon : Text.ofString ":" = [CodePoint.ofChar ':'] := rfl
  have slashes : Text.ofString "//" = [CodePoint.ofChar '/', CodePoint.ofChar '/'] := rfl
  have nothing : Text.ofString "" = [] := rfl
  unfold behindAuthority
  split
  · next none => simp [text, behindPath, named, none, colon, nothing]
  · next some => simp [text, behindPath, named, some, colon, slashes]

/-- The text of a URL with a server is its scheme, its authority and what stands behind them. -/
theorem Normalizes.text_eq {p : Pieces} {u : Url} (read : Normalizes p u) (scheme : u.scheme ≠ [])
    (host : u.host ≠ []) : ∃ rest, u.text = absoluteText u.scheme u.authorityText rest ∧ EndsAuthority rest := by
  have served : u.hasAuthority = true := by simp [hasAuthority, host]
  have written : u.authorityText.isEmpty = false := by simpa using authorityText_ne_nil host
  refine ⟨u.path ++ u.behindPath, ?_, (EndsAuthority.of_atRoot (read.path_atRoot served)).append (.behindPath u)⟩
  rw [text_eq_behindScheme scheme, behindAuthority, written, if_neg Bool.false_ne_true, absoluteText]

/-- Joined onto the base, a reference without an authority is a text with the scheme and the authority of the base. -/
theorem joinReferences_eq {base reference : Reference} {t : Text} (http : IsHttp base.scheme)
    (scheme : reference.scheme = base.scheme) (unserved : reference.authority = []) (path : reference.path ≠ []) :
    joinReferences base reference t = Reference.text { reference with
      scheme := base.scheme, authority := base.authority, path := joinedPath base.path reference.path } := by
  have written : reference.path.isEmpty = false := by simpa using path
  unfold joinReferences
  simp only [scheme, http.joined, http.served, unserved, written, ne_eq, not_true_eq_false, decide_false, Bool.not_true,
    Bool.or_false, Bool.false_eq_true, ↓reduceIte, List.isEmpty_nil, Bool.and_false, Bool.false_and]

theorem joinTexts_ok {base reference joined : Text} (based : base ≠ []) (referred : reference ≠ [])
    (done : joinTexts base reference = .ok joined) :
    ∃ b r, Reference.ofText [] base = .ok b ∧ Reference.ofText b.scheme reference = .ok r ∧
      joined = joinReferences b r reference := by
  unfold joinTexts at done
  rw [if_neg (by simpa using based), if_neg (by simpa using referred)] at done
  obtain ⟨b, baseCut, done⟩ := bind_eq_ok.mp done
  obtain ⟨r, referenceCut, done⟩ := bind_eq_ok.mp done
  cases done
  exact ⟨b, r, baseCut, referenceCut, rfl⟩

/-- A rooted reference stays on the server of the base that it is joined onto. -/
theorem join_sameServer {t reference : Text} {base u : Url} (read : Normalizes (pieces t) base)
    (http : IsHttp base.scheme) (host : base.host ≠ []) (rooted : Rooted reference)
    (done : base.join reference = .ok u) : u.SameServer base := by
  obtain ⟨r, relative, done⟩ := bind_eq_ok.mp done
  obtain ⟨joined, texts, again⟩ := bind_eq_ok.mp done
  obtain ⟨rest, written, stop⟩ := read.text_eq http.ne_nil host
  have back := (parse_ok relative).rooted rooted
  have based : base.text ≠ [] := by
    rw [written]
    exact List.append_ne_nil_of_left_ne_nil http.ne_nil _
  have referred : r.text ≠ [] := by
    obtain ⟨_, start, _⟩ := back
    rw [start]
    exact List.cons_ne_nil _ _
  obtain ⟨b, ref, baseCut, referenceCut, rfl⟩ := joinTexts_ok based referred texts
  rw [written] at baseCut
  obtain ⟨baseScheme, baseAuthority⟩ := Reference.ofText_absoluteText http read.authority_free stop baseCut
  obtain ⟨scheme, unserved, root⟩ := Reference.ofText_of_rooted back referenceCut
  have lower := http.asciiLower_eq
  rw [← baseScheme] at http
  have served : b.authority ≠ [] := by
    rw [baseAuthority]
    exact authorityText_ne_nil host
  have path : ref.path ≠ [] := by
    intro bare
    simp [bare] at root
  rw [joinReferences_eq http scheme unserved path, Reference.text_eq http (.inl served)] at again
  have stop := (EndsAuthority.rooted (Reference.shownPath (joinedPath b.path ref.path) ref.parameters)).append
    (Reference.endsAuthority_shownBehind ref.query ref.fragment)
  have back := parse_ok again
  rw [pieces_absoluteText http (baseAuthority ▸ read.authority_free) stop] at back
  exact (read.rereadsServer lower baseScheme baseAuthority back).sameServer

end RouteTemplate.Url
