import RouteTemplate.Text.Blank
import RouteTemplate.Text.Lowercase

set_option autoImplicit false

namespace RouteTemplate

def trueWords : List Text := ["1", "true", "yes", "on"]

def falseWords : List Text := ["0", "false", "no", "off"]

def readTruth? (raw : Text) : Option Bool :=
  let word := raw.trim.lower
  if word ∈ trueWords then some true else if word ∈ falseWords then some false else none

end RouteTemplate
