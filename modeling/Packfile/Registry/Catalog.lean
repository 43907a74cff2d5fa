import Packfile.Log
import Packfile.OrderedMap
import Packfile.Registry.Basic

/-!
# The registry catalog

The declared registries by name, in order of declaration. When a name is declared again the first
declaration stays and the other is reported and dropped.
-/

namespace Packfile

/-- Registries by name, in order of declaration. -/
structure Catalog where
  registries : OrderedMap Registry
  deriving DecidableEq

namespace Catalog

/-- The catalog without registries. -/
def empty : Catalog := ⟨∅⟩

instance : EmptyCollection Catalog := ⟨empty⟩

instance : Inhabited Catalog := ⟨empty⟩

/-- The registry of a name. -/
def get? (catalog : Catalog) (name : String) : Option Registry :=
  catalog.registries.get? name

/-- Whether a name is declared. -/
def contains (catalog : Catalog) (name : String) : Bool :=
  catalog.registries.contains name

/-- The registries in order. -/
def toList (catalog : Catalog) : List Registry :=
  catalog.registries.values

/-- The names in order. -/
def names (catalog : Catalog) : List String :=
  catalog.registries.keys

/-- The number of registries. -/
def size (catalog : Catalog) : Nat :=
  catalog.registries.size

/-- Whether there are no registries. -/
def isEmpty (catalog : Catalog) : Bool :=
  catalog.registries.isEmpty

/-- What is reported about a declaration that is dropped. -/
def duplicateWarning (registry : Registry) : LogEntry :=
  .warn ("Registry " ++ registry.name ++ " already exists, skipping")

/-- Adds a declaration, unless its name is taken. -/
def declare (catalog : Catalog) (registry : Registry) : Catalog × List LogEntry :=
  if catalog.contains registry.name then (catalog, [duplicateWarning registry])
  else (⟨catalog.registries.insert registry.name registry⟩, [])

/-- Adds declarations in order. -/
def declareAll (catalog : Catalog) : List Registry → Catalog × List LogEntry
  | [] => (catalog, [])
  | registry :: rest =>
    let (next, log) := catalog.declare registry
    let (final, more) := next.declareAll rest
    (final, log ++ more)

/-- The catalog of the declarations, and what is reported about those that are dropped. -/
def build (declarations : List Registry) : Catalog × List LogEntry :=
  (∅ : Catalog).declareAll declarations

end Catalog

end Packfile
