import RouteTemplate.Bag.Attribute
import RouteTemplate.Value.Equality

set_option autoImplicit false

namespace RouteTemplate

/-- A bag of parameters. The keys of a mapping are pairwise different. -/
inductive Bag where
  | mapping (type : Text) (entries : List (Value × Value))
  | object (o : Object)
  | bundle (attributes : List (Text × Value)) (above : Inherited := {})
  | classItself (c : Class) (above : Inherited := {})
  | plainValue (v : Value)
  | function
  | bare

namespace Bag

def ofEntries (type : Text) (entries : List (Value × Value)) : Bag := .mapping type (Value.entriesOf entries)

/-- A mapping that looks keys up in several mappings, the first that has a key counting. Its keys are those
of the last mapping, then the new ones of each mapping before it. -/
def ofChain (maps : List (List (Value × Value))) : Bag :=
  let entries := (maps.map Value.entriesOf).reverse.foldl
    (fun merged entries => entries.foldl (fun merged entry => Value.putEntry entry.1 entry.2 merged) merged) []
  .mapping "ChainMap" entries

/-- A value used as a bag; a dictionary is a mapping. -/
def ofValue : Value → Bag
  | .dict entries => .mapping "dict" entries
  | v => .plainValue v

def typeName : Bag → Text
  | mapping type _ => type
  | object o => o.cls.name
  | bundle _ _ => "SimpleNamespace"
  | classItself c _ => c.typeName
  | plainValue v => v.typeName
  | function => "function"
  | bare => "object"

end Bag

end RouteTemplate
