import RouteTemplate.Resolve

/-!
Caches of templates taken apart and of accessors. An entry is made on the first use of its key, is never
replaced and never taken out. What is stored is a function of the key alone, so a cache changes what is
computed again and not what comes out; a trace tells of each entry made.
-/

set_option autoImplicit false

namespace RouteTemplate

/-- An entry was made in a cache. -/
inductive Trace where
  | parsed (template : Text) (placeholders : Nat)
  | built (type : Text) (names : List Text)
deriving Repr, DecidableEq

namespace Trace

def message : Trace → Text
  | parsed template placeholders =>
    List.flatten ["Parsed route template ", template.quoted, ": ", Text.ofNat placeholders, " placeholder(s)"]
  | built type names =>
    let listed := Text.joinWith ", " names
    List.flatten ["Built accessors for ", type, ": ", if listed.isEmpty then "(none)" else listed]

end Trace

/-- Templates taken apart, under their texts. -/
structure TemplateCache where
  entries : List (Text × Template) := []
deriving Repr, DecidableEq

namespace TemplateCache

def contains (cache : TemplateCache) (text : Text) : Bool := (Table.get? text cache.entries).isSome

def size (cache : TemplateCache) : Nat := cache.entries.length

/-- The template of a text, taken apart on first use. -/
def getOrParse (cache : TemplateCache) (text : Text) : Template × TemplateCache × List Trace :=
  match Table.get? text cache.entries with
  | some template => (template, cache, [])
  | none =>
    let template := Template.parse text
    (template, ⟨cache.entries ++ [(text, template)]⟩, [.parsed text template.placeholders.length])

end TemplateCache

/-- Accessors, under the shapes they were built for. -/
structure ShapeCache where
  entries : List (Shape × Accessors) := []

namespace ShapeCache

def get? (cache : ShapeCache) (shape : Shape) : Option Accessors :=
  (cache.entries.find? fun entry => entry.1.same shape).map (·.2)

def contains (cache : ShapeCache) (bag : Bag) : Except ResolveError Bool :=
  bag.shape.map fun shape => (cache.get? shape).isSome

def size (cache : ShapeCache) : Nat := cache.entries.length

/-- The accessors of the shape of a bag, built from the bag on first use. -/
def getOrBuild (cache : ShapeCache) (bag : Bag) :
    Except ResolveError (Accessors × ShapeCache × List Trace) := do
  let shape ← bag.shape
  match cache.get? shape with
  | some accessors => return (accessors, cache, [])
  | none =>
    let accessors ← bag.accessors
    return (accessors, ⟨cache.entries ++ [(shape, accessors)]⟩, [.built bag.typeName accessors.names])

end ShapeCache

structure Caches where
  templates : TemplateCache := {}
  shapes : ShapeCache := {}

/-- What a call on a resolver leaves behind: its result, the caches, the traces of the entries made. -/
structure Outcome (ε α : Type) where
  result : Except ε α
  caches : Caches
  traces : List Trace

/-- Resolves a template with the help of caches. -/
def resolveCached (settings : Settings) (caches : Caches) (text : Text) : Option Bag → Outcome ResolveError Text
  | none => ⟨.ok text, caches, []⟩
  | some bag =>
    let (template, templates, parsed) := caches.templates.getOrParse text
    let caches := { caches with templates }
    match refused settings text template with
    | some e => ⟨.error e, caches, parsed⟩
    | none =>
      match caches.shapes.getOrBuild bag with
      | .error e => ⟨.error e, caches, parsed⟩
      | .ok (accessors, shapes, built) =>
        ⟨resolveParsed settings text template accessors bag, { caches with shapes }, parsed ++ built⟩

end RouteTemplate
