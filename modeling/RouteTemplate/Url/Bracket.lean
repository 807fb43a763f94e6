import RouteTemplate.Url.Basic

set_option autoImplicit false

namespace RouteTemplate.Url

/-- The code points beyond ASCII whose compatibility forms hold one of `/ ? # @ :`. -/
def hiddenSeparators : List Nat :=
  [0x2047, 0x2048, 0x2049, 0x2100, 0x2101, 0x2105, 0x2106, 0x2A74, 0xFE13, 0xFE16, 0xFE55, 0xFE56, 0xFE5F, 0xFE6B,
    0xFF03, 0xFF0F, 0xFF1A, 0xFF1F, 0xFF20]

/-- Does an authority hide a separator? -/
def hidesSeparator (authority : Text) : Bool := authority.any fun c => hiddenSeparators.contains c.val

/-- Is the text `v`, a version in hexadecimal, a point and something more? -/
def isLaterAddress (t : Text) : Bool :=
  match t with
  | [] => false
  | v :: rest =>
    let (version, after) := rest.span fun (c : CodePoint) => c.hexValue?.isSome
    v = 'v' && !version.isEmpty && Text.startsWith after "." && 2 ≤ after.length

def checkBracketedHost (host : Text) : Except UrlError Unit :=
  if host.startsWith "v" then if isLaterAddress host then .ok () else .error .badFuture
  else if isIpv4 host then .error .ipv4InBrackets
  else if isIpv6 host then .ok ()
  else .error (.notAddress host)

/-- Checks the brackets of an authority. Only what stands behind the user information counts, but for the
question whether there are any. -/
def checkBrackets (authority : Text) : Except UrlError Unit :=
  let opened := authority.contains '['
  let closed := authority.contains ']'
  if opened != closed then .error .badBrackets
  else if !opened then .ok ()
  else
    let hostAndPort := ((Text.splitLast '@' authority).map Prod.snd).getD authority
    match Text.splitFirst '[' hostAndPort with
    | some (before, inside) =>
      let (host, after) := (Text.splitFirst ']' inside).getD (inside, [])
      if !before.isEmpty || !(after.isEmpty || Text.startsWith after ":") then .error .badBrackets
      else checkBracketedHost host
    | none => checkBracketedHost (hostAndPort.takeWhile fun (c : CodePoint) => !(c = ':'))

def checkAuthority (authority : Text) : Except UrlError Unit := do
  checkBrackets authority
  if hidesSeparator authority then throw (.hiddenSeparator authority)

end RouteTemplate.Url
