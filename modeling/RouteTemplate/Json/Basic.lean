import RouteTemplate.Decimal.Notation
import RouteTemplate.Table

set_option autoImplicit false

namespace RouteTemplate

inductive Json where
  | null
  | bool (b : Bool)
  | int (n : Int)
  | float (x : Binary64)
  | text (t : Text)
  | array (items : List Json)
  | object (entries : List (Text × Json))

namespace Json

def field? (key : Text) : Json → Option Json
  | object entries => Table.get? key entries
  | _ => none

end Json

end RouteTemplate
