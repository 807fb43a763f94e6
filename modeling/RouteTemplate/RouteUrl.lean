import RouteTemplate.Cache
import RouteTemplate.Url.Join

set_option autoImplicit false

namespace RouteTemplate

/-- Why a template cannot be resolved to a URL: the route is not resolved, or a text is no URL. -/
inductive RouteUrlError where
  | route (e : ResolveError)
  | url (e : UrlError)
deriving Repr, DecidableEq

namespace RouteUrlError

def message : RouteUrlError → Text
  | route e => e.message
  | url e => e.message

end RouteUrlError

/-- The URL of a route: the route itself, or joined onto a base. -/
def locate (route : Text) : (base : Option Text) → Except UrlError Url
  | none => Url.parse route
  | some base => do (← Url.parse base).join route

def resolveUrl (settings : Settings) (text : Text) (bag : Option Bag) (base : Option Text) :
    Except RouteUrlError Url :=
  match resolve settings text bag with
  | .error e => .error (.route e)
  | .ok route =>
    match locate route base with
    | .error e => .error (.url e)
    | .ok url => .ok url

def resolveUrlCached (settings : Settings) (caches : Caches) (text : Text) (bag : Option Bag)
    (base : Option Text) : Outcome RouteUrlError Url :=
  let outcome := resolveCached settings caches text bag
  let result :=
    match outcome.result with
    | .error e => .error (.route e)
    | .ok route =>
      match locate route base with
      | .error e => .error (.url e)
      | .ok url => .ok url
  ⟨result, outcome.caches, outcome.traces⟩

end RouteTemplate
