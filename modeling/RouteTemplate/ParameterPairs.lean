import RouteTemplate.Table
import RouteTemplate.Text.Quoted

set_option autoImplicit false

namespace RouteTemplate

structure BadPair where
  entry : Text
deriving Repr, DecidableEq

def BadPair.message (e : BadPair) : Text := "Expected name=value, got: " ++ e.entry.quoted

/-- Cuts one entry; a name may not be empty. -/
def readPair (entry : Text) : Except BadPair (Text × Text) :=
  match Text.splitFirst '=' entry with
  | some (c :: name, value) => .ok (c :: name, value)
  | _ => .error ⟨entry⟩

def readPairs (entries : List Text) : Except BadPair (List (Text × Text)) :=
  (entries.mapM readPair).map Table.ofList

end RouteTemplate
