import RouteTemplate.Bag.Accessors
import RouteTemplate.Template
import RouteTemplate.Value.Component

/-!
Resolution of a template against a bag. Each placeholder is replaced where it stands: before the query
marker by the component of its value, after it by `name=value`. Values that no placeholder consumed and
that are not absent follow as further `name=value` pairs of the query.
-/

set_option autoImplicit false

namespace RouteTemplate

def pairText (name component : Text) : Text := name ++ CodePoint.ofChar '=' :: component

/-- A component as it stands in place of a placeholder. -/
def placed : PlaceholderKind → (name component : Text) → Text
  | .path, _, component => component
  | .query, name, component => pairText name component

/-- What stands in place of a placeholder. -/
def fill (settings : Settings) (accessors : Accessors) (bag : Bag) (template : Text) (kind : PlaceholderKind)
    (name : Text) : Except ResolveError Text :=
  match accessors.find? name with
  | none => .error (.missing name template)
  | some a => do
    let v ← bag.read a.reader
    if v.isAbsent then throw (.missing name template)
    let component ← v.component settings
    return placed kind name component

/-- The segments with their placeholders filled, given whether the query marker has been passed. -/
def substitute (settings : Settings) (accessors : Accessors) (bag : Bag) (template : Text) :
    (marked : Bool) → List Segment → Except ResolveError Text
  | _, [] => .ok []
  | marked, s :: segments => do
    let marked := marked || s.gap.contains '?'
    let filled ← fill settings accessors bag template (if marked then .query else .path) s.name
    let rest ← substitute settings accessors bag template marked segments
    return s.gap ++ (filled ++ rest)

/-- The pair of a value that no placeholder consumed; none for an absent value. -/
def leftover? (settings : Settings) (bag : Bag) (a : Accessor) : Except ResolveError (Option Text) := do
  let v ← bag.read a.reader
  if v.isAbsent then return none
  let name ← match Percent.encodeText a.name with
    | .ok name => pure name
    | .error run => throw (.surrogates run)
  let component ← v.component settings
  return some (pairText name component)

/-- The pairs of the values that no placeholder consumed, in the order of the bag. -/
def leftovers (settings : Settings) (bag : Bag) (consumed : List Text) :
    List Accessor → Except ResolveError (List Text)
  | [] => .ok []
  | a :: accessors =>
    if consumed.contains a.name.lower then leftovers settings bag consumed accessors
    else do
      let pair ← leftover? settings bag a
      let pairs ← leftovers settings bag consumed accessors
      return pair.toList ++ pairs

/-- What stands between a route and the pairs appended to it: the query is opened if the template has no
query marker, and continued unless the route ends in a separator. -/
def separator (hasQueryMarker : Bool) (route : Text) : Text :=
  if !hasQueryMarker then "?"
  else if route.endsWith "?" || route.endsWith "&" then ""
  else "&"

def appendPairs (hasQueryMarker : Bool) (route : Text) (pairs : List Text) : Text :=
  if pairs.isEmpty then route else route ++ (separator hasQueryMarker route ++ Text.joinWith "&" pairs)

/-- Resolves a template that has been taken apart against a bag whose accessors are known. -/
def resolveParsed (settings : Settings) (text : Text) (template : Template) (accessors : Accessors) (bag : Bag) :
    Except ResolveError Text := do
  let filled ← substitute settings accessors bag text false template.segments
  let route := filled ++ template.tail
  if settings.appendUnconsumed then
    let pairs ← leftovers settings bag (template.names.map Text.lower) accessors.toList
    return appendPairs template.hasQueryMarker route pairs
  else return route

/-- Does strictness refuse the template? -/
def refused (settings : Settings) (text : Text) (template : Template) : Option ResolveError :=
  if settings.strictTemplates then (template.unterminated?).map (.malformed text ·) else none

/-- Resolves a template. Without a bag the template is returned as it is. -/
def resolve (settings : Settings) (text : Text) : Option Bag → Except ResolveError Text
  | none => .ok text
  | some bag =>
    let template := Template.parse text
    match refused settings text template with
    | some e => .error e
    | none => do
      let accessors ← bag.accessors
      resolveParsed settings text template accessors bag

end RouteTemplate
