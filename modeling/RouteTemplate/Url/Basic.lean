import RouteTemplate.Decimal.Numeral
import RouteTemplate.Percent
import RouteTemplate.Table
import RouteTemplate.Text.Quoted
import RouteTemplate.Text.Lowercase
import RouteTemplate.Url.Ipv6

/-!
URLs: read from text, normalised, written back. A text is cut into scheme, authority, path, query and
fragment; host and scheme are lower-cased, the default port of a scheme is left out, and every part is
escaped where it needs to be, with escapes that are there left alone.
-/

set_option autoImplicit false

namespace RouteTemplate

/-- A URL in parts. The host stands without brackets; a query or fragment may be there and empty. -/
structure Url where
  scheme : Text
  userinfo : Text
  host : Text
  port : Option Int
  path : Text
  query : Option Text
  fragment : Option Text
deriving Repr, DecidableEq

inductive UrlError where
  | tooLong
  | control (c : CodePoint) (position : Nat)
  | badIpv4 (host : Text)
  | badIpv6 (host : Text)
  | badName (host : Text)
  | badPort (port : Text)
  | pathNotRooted
  | pathDoubleSlash
  | pathColon
  | badBrackets
  | badFuture
  | ipv4InBrackets
  | notAddress (host : Text)
  | hiddenSeparator (authority : Text)
  | surrogates (run : SurrogateRun)
deriving Repr, DecidableEq

namespace UrlError

def message : UrlError → Text
  | tooLong => "URL too long"
  | control c position =>
    List.flatten ["Invalid non-printable ASCII character in URL, ", Text.quoted [c], " at position ",
      Text.ofNat position, "."]
  | badIpv4 host => "Invalid IPv4 address: " ++ host.quoted
  | badIpv6 host => "Invalid IPv6 address: " ++ host.quoted
  | badName host => "Invalid IDNA hostname: " ++ host.quoted
  | badPort port => "Invalid port: " ++ port.quoted
  | pathNotRooted => "For absolute URLs, path must be empty or begin with '/'"
  | pathDoubleSlash => "Relative URLs cannot have a path starting with '//'"
  | pathColon => "Relative URLs cannot have a path starting with ':'"
  | badBrackets => "Invalid IPv6 URL"
  | badFuture => "IPvFuture address is invalid"
  | ipv4InBrackets => "An IPv4 address cannot be in brackets"
  | notAddress host => host.quoted ++ Text.ofString " does not appear to be an IPv4 or IPv6 address"
  | hiddenSeparator authority =>
    List.flatten ["netloc '", authority, "' contains invalid characters under NFKC normalization"]
  | surrogates run => run.message

end UrlError

namespace Url

def maxLength : Nat := 65536

def printableBut (refused : Text) (c : CodePoint) : Bool :=
  0x20 ≤ c.val && c.val < 0x7F && !(refused.contains c)

def keepInPath : CodePoint → Bool := printableBut " \"#<>?`\x7b\x7d"

def keepInQuery : CodePoint → Bool := printableBut " \"#<>"

def keepInFragment : CodePoint → Bool := printableBut " \"<>`"

def keepInUserinfo : CodePoint → Bool := printableBut " \"#<>?`\x7b\x7d/;=@[\\]^|"

def keepInHost (c : CodePoint) : Bool := ("!$&'()*+,;=\"`\x7b\x7d%|\\" : Text).contains c

/-- The port that a scheme has when none is given. -/
def defaultPort? (scheme : Text) : Option Int :=
  Table.get? scheme [("ftp", 21), ("http", 80), ("https", 443), ("ws", 80), ("wss", 443)]

def maxPortDigits : Nat := 4300

def readPort? (t : Text) : Option Int :=
  if maxPortDigits < t.countP fun c => c.digitValue?.isSome then none else Decimal.readInteger? t

/-- The port of a scheme: none when it is empty or the default one. -/
def normalPort (port scheme : Text) : Except UrlError (Option Int) :=
  if port.isEmpty then .ok none
  else
    match readPort? port with
    | none => .error (.badPort port)
    | some n => .ok (if defaultPort? scheme = some n then none else some n)

def isSchemePoint (c : CodePoint) : Bool :=
  c.isAsciiLetter || c.isAsciiDigit || c = '+' || c = '.' || c = '-'

/-- Cuts off a scheme with its colon. The scheme may be empty, so a colon in front is dropped. -/
def splitScheme (t : Text) : Text × Text :=
  let (word, rest) :=
    match t with
    | [] => ([], [])
    | c :: _ => if c.isAsciiLetter then t.span isSchemePoint else ([], t)
  match rest with
  | [] => ([], t)
  | c :: after => if c = ':' then (word, after) else ([], t)

/-- Cuts off an authority, which stands between two slashes and the path. -/
def splitAuthority (t : Text) : Text × Text :=
  match Text.afterStart? "//" t with
  | none => ([], t)
  | some rest => rest.span fun c => !(c = '/' || c = '?' || c = '#')

/-- Cuts at the first separator; nothing is taken off when there is none. -/
def cutOptional (separator : CodePoint) (t : Text) : Text × Option Text :=
  match Text.splitFirst separator t with
  | none => (t, none)
  | some (before, after) => (before, some after)

/-- The host and what follows it, of an authority without user information. A host in brackets reaches to the
last one. -/
def cutHost (rest : Text) : Text × Text :=
  match rest.head?, Text.splitLast ']' rest with
  | some c, some (inside, after) => if c = '[' then (inside ++ "]", after) else rest.span fun c => !(c = ':')
  | _, _ => rest.span fun c => !(c = ':')

def cutPort : Text → Text
  | [] => []
  | c :: port => if c = ':' then port else c :: port

def splitHost (authority : Text) : Text × Text × Text :=
  let (userinfo, rest) := (Text.splitLast '@' authority).getD ([], authority)
  let (host, after) := cutHost rest
  (userinfo, host, cutPort after)

/-- Escapes the parts of a URL; what has no octets makes it fail. -/
def escaped (keep : CodePoint → Bool) (t : Text) : Except UrlError Text :=
  match Percent.encodeAround keep t with
  | .ok text => .ok text
  | .error run => .error (.surrogates run)

/-- The normal form of a host: addresses are checked, names lower-cased and escaped. Every name beyond ASCII is refused,
since the encoding of international names is not covered. -/
def normalHost (host : Text) : Except UrlError Text :=
  if host.isEmpty then .ok []
  else if looksIpv4 host then if isIpv4 host then .ok host else .error (.badIpv4 host)
  else if 2 ≤ host.length && host.head? = some (CodePoint.ofChar '[') &&
      host.getLast? = some (CodePoint.ofChar ']') then
    if isIpv6 host.tail.dropLast then .ok host.tail.dropLast else .error (.badIpv6 host)
  else if host.all CodePoint.isAscii then escaped keepInHost host.lower
  else .error (.badName host)

/-- Takes the segments `.` and `..` out of a path: the latter removes the last kept segment, unless none or
only the empty one at the start is kept. -/
def removeDots (segments : List Text) : List Text :=
  segments.foldl (fun kept segment =>
    if segment = Text.ofString "." then kept
    else if segment = Text.ofString ".." then if kept = [[]] then kept else kept.dropLast
    else kept ++ [segment]) []

/-- The path without segments `.` and `..`. -/
def normalPath (path : Text) : Text :=
  let segments := Text.splitOn '/' path
  if segments.any fun s => s = Text.ofString "." || s = Text.ofString ".." then
    Text.joinWith "/" (removeDots segments)
  else path

def checkPath (path : Text) (hasScheme hasAuthority : Bool) : Except UrlError Unit :=
  if hasAuthority && !path.isEmpty && !path.startsWith "/" then .error .pathNotRooted
  else if !hasScheme && !hasAuthority && path.startsWith "//" then .error .pathDoubleSlash
  else if !hasScheme && !hasAuthority && path.startsWith ":" then .error .pathColon
  else .ok ()

/-- The first control character below 128 with its position. -/
def firstControl? (t : Text) : Option (CodePoint × Nat) :=
  (t.zipIdx.find? fun entry => entry.1.val < 0x20 || entry.1.val = 0x7F)

def escapedOptional (keep : CodePoint → Bool) : Option Text → Except UrlError (Option Text)
  | none => .ok none
  | some t => (escaped keep t).map some

def parse (t : Text) : Except UrlError Url := do
  if maxLength < t.length then throw .tooLong
  if let some (c, position) := firstControl? t then throw (.control c position)
  let (schemeText, rest) := splitScheme t
  let (authority, rest) := splitAuthority rest
  let (beforeFragment, fragmentText) := cutOptional '#' rest
  let (pathText, queryText) := cutOptional '?' beforeFragment
  let (userinfoText, hostText, portText) := splitHost authority
  let scheme := schemeText.asciiLower
  let userinfo ← escaped keepInUserinfo userinfoText
  let host ← normalHost hostText
  let port ← normalPort portText schemeText
  let hasScheme := !scheme.isEmpty
  let hasAuthority := !userinfo.isEmpty || !host.isEmpty || port.isSome
  checkPath pathText hasScheme hasAuthority
  let path ← escaped keepInPath (if hasScheme || hasAuthority then normalPath pathText else pathText)
  let query ← escapedOptional keepInQuery queryText
  let fragment ← escapedOptional keepInFragment fragmentText
  return ⟨scheme, userinfo, host, port, path, query, fragment⟩

/-- The authority in text: empty when there is no part of it. -/
def authorityText (u : Url) : Text :=
  List.flatten [if u.userinfo.isEmpty then "" else u.userinfo ++ "@",
    if u.host.contains ':' then List.flatten ["[", u.host, "]"] else u.host,
    u.port.elim [] fun n => ':' :: Text.ofInt n]

def text (u : Url) : Text :=
  List.flatten [if u.scheme.isEmpty then "" else u.scheme ++ ":",
    if u.authorityText.isEmpty then "" else "//" ++ u.authorityText,
    u.path,
    u.query.elim [] fun query => '?' :: query,
    u.fragment.elim [] fun fragment => '#' :: fragment]

/-- The path with its escapes undone, a slash when it is empty. -/
def decodedPath (u : Url) : Text := if u.path.isEmpty then "/" else Percent.decodeText u.path

/-- The fragment with its escapes undone, empty when there is none. -/
def decodedFragment (u : Url) : Text := Percent.decodeText (u.fragment.getD [])

/-- Does the URL have a scheme and a host? -/
def isAbsolute (u : Url) : Bool := !u.scheme.isEmpty && !u.host.isEmpty

end Url

end RouteTemplate
