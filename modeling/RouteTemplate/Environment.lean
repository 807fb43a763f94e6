import RouteTemplate.Table
import RouteTemplate.Text.Basic

set_option autoImplicit false

namespace RouteTemplate

abbrev Environment := List (Text × Text)

namespace Environment

def get? (environment : Environment) (name : Text) : Option Text := Table.get? name environment

/-- The value of a variable, empty when it is not set. -/
def getD (environment : Environment) (name : Text) : Text := (environment.get? name).getD []

def set (environment : Environment) (name : Text) : Option Text → Environment
  | some value => Table.put name value environment
  | none => Table.erase name environment

end Environment

end RouteTemplate
