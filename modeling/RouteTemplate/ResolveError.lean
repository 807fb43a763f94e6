import RouteTemplate.Text.Quoted
import RouteTemplate.Text.Utf8

set_option autoImplicit false

namespace RouteTemplate

/-- What lacks an attribute: an object of a type, a record of a validated class, a class itself, or an
enumeration itself. -/
inductive AttributeOwner where
  | object (type : Text)
  | record (type : Text)
  | classObject (name : Text)
  | enumeration
deriving Repr, DecidableEq

inductive ResolveError where
  | missing (name template : Text)
  | malformed (template : Text) (offset : Nat)
  | unsupported (type : Text)
  | noAttribute (owner : AttributeOwner) (name : Text)
  | raised (kind message : Text)
  | unprintable (reason : Text)
  | surrogates (run : SurrogateRun)
deriving Repr, DecidableEq

def missingMessage (name template : Text) : Text :=
  List.flatten ["Route parameter '", name, "' is missing for template '", template, "'"]

def malformedMessage (template : Text) (offset : Int) : Text :=
  List.flatten ["Unterminated placeholder at offset ", Text.ofInt offset, " in template '", template, "'"]

namespace ResolveError

def message : ResolveError → Text
  | missing name template => missingMessage name template
  | malformed template offset => malformedMessage template offset
  | unsupported type =>
    List.flatten ["Cannot use ", type, " as a parameter bag: it exposes no named values"]
  | noAttribute (.object type) name => List.flatten ["'", type, "' object has no attribute '", name, "'"]
  | noAttribute (.record type) name => List.flatten [type.quoted, " object has no attribute ", name.quoted]
  | noAttribute (.classObject type) name =>
    List.flatten ["type object '", type, "' has no attribute '", name, "'"]
  | noAttribute .enumeration name => name
  | raised _ message => message
  | unprintable reason => reason
  | surrogates run => run.message

/-- Does the error say that an attribute is not there? A computed attribute may raise such an error too. -/
def isNoAttribute : ResolveError → Bool
  | noAttribute _ _ => true
  | raised kind _ => kind = Text.ofString "AttributeError"
  | _ => false

end ResolveError

end RouteTemplate
