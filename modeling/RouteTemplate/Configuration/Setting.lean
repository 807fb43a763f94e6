import RouteTemplate.Json.Basic
import RouteTemplate.Json.Writer
import RouteTemplate.Settings

set_option autoImplicit false

namespace RouteTemplate

inductive Setting where
  | strictTemplates
  | appendUnconsumed
  | lowercaseBooleans
deriving Repr, DecidableEq

namespace Setting

def all : List Setting := [strictTemplates, appendUnconsumed, lowercaseBooleans]

def key : Setting → Text
  | strictTemplates => "strict_templates"
  | appendUnconsumed => "append_unconsumed"
  | lowercaseBooleans => "lowercase_booleans"

def variableName : Setting → Text
  | strictTemplates => "HTTPBUTLER_STRICT_TEMPLATES"
  | appendUnconsumed => "HTTPBUTLER_APPEND_UNCONSUMED"
  | lowercaseBooleans => "HTTPBUTLER_LOWERCASE_BOOLEANS"

def ofKey? (key : Text) : Option Setting := all.find? fun s => s.key = key

end Setting

namespace Settings

def get (settings : Settings) : Setting → Bool
  | .strictTemplates => settings.strictTemplates
  | .appendUnconsumed => settings.appendUnconsumed
  | .lowercaseBooleans => settings.lowercaseBooleans

def ofValues (value : Setting → Bool) : Settings :=
  ⟨value .strictTemplates, value .appendUnconsumed, value .lowercaseBooleans⟩

@[simp] theorem get_ofValues (value : Setting → Bool) (s : Setting) : (ofValues value).get s = value s := by
  cases s <;> rfl

def document (settings : Settings) : Json :=
  .object (Setting.all.map fun s => (s.key, .bool (settings.get s)))

end Settings

end RouteTemplate
