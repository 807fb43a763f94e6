import RouteTemplate.Percent
import RouteTemplate.ResolveError
import RouteTemplate.Settings
import RouteTemplate.Value.Equality
import RouteTemplate.Value.Literal

set_option autoImplicit false

namespace RouteTemplate.Value

/-- The text of a value in a URI, before it is escaped. -/
def shown (settings : Settings) : Value → Except Unprintable Text
  | bool b => .ok (if settings.lowercaseBooleans then if b then "true" else "false" else truthName b)
  | member _ _ _ value => value.plain
  | moment d c => .ok (Calendar.dayClockIso "T" d c)
  | v => v.plain

/-- The octets of a value in a URI, before they are escaped. -/
def rendered (settings : Settings) (v : Value) : Except ResolveError (List UInt8) :=
  match v.octetContent? with
  | some octets => .ok octets
  | none =>
    match v.shown settings with
    | .error e => .error (.unprintable e.reason)
    | .ok written =>
      match written.encode with
      | .error run => .error (.surrogates run)
      | .ok octets => .ok octets

def component (settings : Settings) (v : Value) : Except ResolveError Text :=
  (v.rendered settings).map Percent.encode

end RouteTemplate.Value
