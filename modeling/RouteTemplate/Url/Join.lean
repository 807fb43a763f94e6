import RouteTemplate.Url.Bracket

/-!
Joining a reference onto a base. Only schemes that are known to be hierarchical are joined, and a reference
of another scheme than the base stands for itself. Dot segments are taken out of the joined path, and empty
segments inside it too unless the reference starts at the root.
-/

set_option autoImplicit false

namespace RouteTemplate.Url

/-- A reference taken apart for joining; parts that are missing are empty. -/
structure Reference where
  scheme : Text
  authority : Text
  path : Text
  parameters : Text
  query : Text
  fragment : Text
deriving Repr, DecidableEq

/-- The schemes whose references are joined. -/
def joinedSchemes : List String :=
  ["", "ftp", "http", "gopher", "nntp", "imap", "wais", "file", "https", "shttp", "mms", "prospero", "rtsp",
    "rtspu", "sftp", "svn", "svn+ssh", "ws", "wss"]

/-- The schemes that have an authority. -/
def authoritySchemes : List String :=
  ["", "ftp", "http", "gopher", "nntp", "telnet", "imap", "wais", "file", "mms", "https", "shttp", "snews",
    "prospero", "rtsp", "rtspu", "rsync", "svn", "svn+ssh", "sftp", "nfs", "git", "git+ssh", "ws", "wss"]

/-- The schemes whose last path segment may carry parameters after a semicolon. -/
def parameterSchemes : List String :=
  ["", "ftp", "hdl", "prospero", "http", "imap", "https", "shttp", "rtsp", "rtspu", "sip", "sips", "mms",
    "sftp", "tel"]

def isOneOf (schemes : List String) (scheme : Text) : Bool := schemes.any fun s => Text.ofString s = scheme

/-- Cuts parameters off the last segment of a path. -/
def splitParameters (path : Text) : Text × Text :=
  match Text.splitLast '/' path with
  | some (before, last) =>
    match Text.splitFirst ';' last with
    | some (name, parameters) => (List.flatten [before, "/", name], parameters)
    | none => (path, [])
  | none => (Text.splitFirst ';' path).getD (path, [])

namespace Reference

/-- The scheme of a reference and what follows it; without a scheme of its own it has the one given. -/
def cutScheme (scheme : Text) (t : Text) : Text × Text :=
  match Text.splitFirst ':' t with
  | some (word, after) =>
    if (word.head?.elim false CodePoint.isAsciiLetter) && word.all isSchemePoint then (word.asciiLower, after)
    else (scheme, t)
  | none => (scheme, t)

/-- Takes a reference apart, given the scheme that it has without one of its own. Its authority has to be fit for
joining. -/
def ofText (scheme : Text) (t : Text) : Except UrlError Reference := do
  let (scheme, rest) := cutScheme scheme t
  let (authority, rest) := splitAuthority rest
  checkAuthority authority
  let (rest, fragment) := cutOptional '#' rest
  let (path, query) := cutOptional '?' rest
  let (path, parameters) := if isOneOf parameterSchemes scheme then splitParameters path else (path, [])
  return ⟨scheme, authority, path, parameters, query.getD [], fragment.getD []⟩

/-- Writes a reference; parts that are empty leave no mark. An empty authority is written for a scheme that has
one, unless the path looks as if it began with an authority. -/
def text (r : Reference) : Text :=
  let path := if r.parameters.isEmpty then r.path else List.flatten [r.path, ";", r.parameters]
  let hierarchical :=
    if !r.authority.isEmpty ||
        (!r.scheme.isEmpty && isOneOf authoritySchemes r.scheme && !path.startsWith "//") then
      let rooted : Text := if !path.isEmpty && !path.startsWith "/" then '/' :: path else path
      List.flatten ["//", r.authority, rooted]
    else path
  List.flatten [if r.scheme.isEmpty then "" else r.scheme ++ ":", hierarchical,
    if r.query.isEmpty then "" else "?" ++ r.query, if r.fragment.isEmpty then "" else "#" ++ r.fragment]

end Reference

/-- Is the segment `.` or `..`? -/
def isDots (segment : Text) : Bool := segment = Text.ofString "." || segment = Text.ofString ".."

/-- Resolves the dot segments of a list of segments: `..` removes the last kept segment. -/
def resolveDots (segments : List Text) : List Text :=
  segments.foldl (fun kept segment =>
    if segment = Text.ofString ".." then kept.dropLast
    else if segment = Text.ofString "." then kept
    else kept ++ [segment]) []

/-- The segments of a reference path behind those of a base path. A reference that starts at the root
replaces them; otherwise the last base segment goes and empty segments inside are dropped. -/
def joinedSegments (basePath path : Text) : List Text :=
  let segments := Text.splitOn '/' path
  if path.startsWith "/" then segments
  else
    let baseSegments := Text.splitOn '/' basePath
    let kept := if baseSegments.getLast? = some [] then baseSegments else baseSegments.dropLast
    match kept ++ segments with
    | first :: rest =>
      match rest.getLast? with
      | some last => first :: (rest.dropLast.filter fun s => !s.isEmpty) ++ [last]
      | none => [first]
    | [] => []

def joinedPath (basePath path : Text) : Text :=
  let segments := joinedSegments basePath path
  let kept := resolveDots segments
  let joined := Text.joinWith "/" (if (segments.getLast?.elim false isDots) then kept ++ [[]] else kept)
  if joined.isEmpty then "/" else joined

/-- Joins a reference that has been taken apart onto a base; its text is at hand. -/
def joinReferences (base reference : Reference) (text : Text) : Text :=
  if reference.scheme ≠ base.scheme || !isOneOf joinedSchemes reference.scheme then text
  else if isOneOf authoritySchemes reference.scheme && !reference.authority.isEmpty then reference.text
  else
    let authority := if isOneOf authoritySchemes reference.scheme then base.authority else reference.authority
    if reference.path.isEmpty && reference.parameters.isEmpty then
      { reference with
        authority, path := base.path, parameters := base.parameters,
        query := if reference.query.isEmpty then base.query else reference.query : Reference }.text
    else { reference with authority, path := joinedPath base.path reference.path : Reference }.text

def joinTexts (base reference : Text) : Except UrlError Text :=
  if base.isEmpty then .ok reference
  else if reference.isEmpty then .ok base
  else do
    let b ← Reference.ofText [] base
    let r ← Reference.ofText b.scheme reference
    return joinReferences b r reference

/-- Joins a reference onto a base: both are read as URLs first, and so is what comes out. -/
def join (base : Url) (reference : Text) : Except UrlError Url := do
  let r ← parse reference
  parse (← joinTexts base.text r.text)

end RouteTemplate.Url
