import RouteTemplate.RouteUrl

set_option autoImplicit false

namespace RouteTemplate

/-- A resolver: its settings and the places of its two caches. -/
structure ResolverSpec where
  settings : Settings
  templateCache : Nat
  shapeCache : Nat

/-- Resolvers with the caches that they use. -/
structure Session where
  resolvers : List ResolverSpec
  templateCaches : List TemplateCache
  shapeCaches : List ShapeCache

inductive Call where
  | resolve (text : Text) (bag : Option Bag)
  | url (text : Text) (bag : Option Bag) (base : Option Text)
  | inspect (text : Text)
  | hasTemplate (text : Text)
  | hasShape (bag : Bag)
  | names (bag : Bag)

/-- What a call answers. Inspection tells the template and whether it had to be read. -/
inductive Answer where
  | route (text : Text)
  | url (u : Url)
  | template (t : Template) (fresh : Bool)
  | truth (b : Bool)
  | names (names : List Text)

/-- A call with what it left behind. -/
structure Step where
  result : Except RouteUrlError Answer
  templates : Nat
  shapes : Nat
  traces : List Trace

namespace Call

def run (settings : Settings) (caches : Caches) : Call → Outcome RouteUrlError Answer
  | resolve text bag =>
    let outcome := resolveCached settings caches text bag
    ⟨(outcome.result.map Answer.route).mapError .route, outcome.caches, outcome.traces⟩
  | url text bag base =>
    let outcome := resolveUrlCached settings caches text bag base
    ⟨outcome.result.map Answer.url, outcome.caches, outcome.traces⟩
  | inspect text =>
    let fresh := !caches.templates.contains text
    let (template, templates, traces) := caches.templates.getOrParse text
    ⟨.ok (.template template fresh), { caches with templates }, traces⟩
  | hasTemplate text => ⟨.ok (.truth (caches.templates.contains text)), caches, []⟩
  | hasShape bag => ⟨((caches.shapes.contains bag).map Answer.truth).mapError .route, caches, []⟩
  | names bag =>
    match caches.shapes.getOrBuild bag with
    | .error e => ⟨.error (.route e), caches, []⟩
    | .ok (accessors, shapes, traces) => ⟨.ok (.names accessors.names), { caches with shapes }, traces⟩

end Call

namespace Session

def cachesOf (s : Session) (r : ResolverSpec) : Caches :=
  ⟨(s.templateCaches[r.templateCache]?).getD {}, (s.shapeCaches[r.shapeCache]?).getD {}⟩

def call (s : Session) (r : ResolverSpec) (c : Call) : Step × Session :=
  let outcome := c.run r.settings (s.cachesOf r)
  (⟨outcome.result, outcome.caches.templates.size, outcome.caches.shapes.size, outcome.traces⟩,
    { s with
      templateCaches := s.templateCaches.set r.templateCache outcome.caches.templates
      shapeCaches := s.shapeCaches.set r.shapeCache outcome.caches.shapes })

def run (s : Session) : List (ResolverSpec × Call) → List Step × Session
  | [] => ([], s)
  | (r, c) :: calls =>
    let (step, s) := s.call r c
    let (steps, s) := s.run calls
    (step :: steps, s)

end Session

end RouteTemplate
