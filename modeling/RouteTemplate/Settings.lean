set_option autoImplicit false

namespace RouteTemplate

/-- The switches of resolution. Strict templates refuse a brace that is never closed; unconsumed values are
appended to the query; truth values are written in lower case. -/
structure Settings where
  strictTemplates : Bool := false
  appendUnconsumed : Bool := true
  lowercaseBooleans : Bool := true
deriving Repr, DecidableEq

end RouteTemplate
