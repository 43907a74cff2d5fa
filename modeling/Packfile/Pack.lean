import Packfile.Registry.Catalog
import Packfile.Text.Lines

/-!
# Packs

A release names its pack by a reference. `registry://REGISTRY/PACK` is a pack of a declared
registry; any other reference is the name of a pack that the tool finds without a registry.
-/

namespace Packfile

/-- A pack, perhaps in a registry. -/
structure Pack where
  name : String
  registry : Option Registry := none
  deriving DecidableEq, Repr

/-- Why a reference names no pack. -/
inductive PackFault where
  | malformed
  | unknownRegistry (registry : String)
  deriving DecidableEq, Repr

namespace Pack

/-- What a reference into a registry begins with. -/
def scheme : String := "registry://"

/-- What follows the scheme, if the reference begins with it. -/
def afterScheme? (reference : String) : Option (List Char) :=
  if scheme.toList.isPrefixOf reference.toList then
    some (reference.toList.drop scheme.toList.length)
  else none

/-- The pack of a reference. After the scheme there have to be two parts, both not empty, with one
slash between them. -/
def resolve (catalog : Catalog) (reference : String) : Except PackFault Pack :=
  match afterScheme? reference with
  | none => .ok { name := reference }
  | some path =>
    match Text.fields '/' path with
    | [registry, name] =>
      if registry.isEmpty || name.isEmpty then .error .malformed
      else
        match catalog.get? (String.ofList registry) with
        | some node => .ok { name := String.ofList name, registry := some node }
        | none => .error (.unknownRegistry (String.ofList registry))
    | _ => .error .malformed

/-- The arguments that select the pack: its registry, the version of that if it is pinned, and the
name. -/
def args (pack : Pack) : List String :=
  let source :=
    match pack.registry with
    | none => []
    | some registry =>
      let version :=
        match registry.ref with
        | none => []
        | some ref => ["--ref", ref]
      "--registry" :: registry.name :: version
  source ++ [pack.name]

/-- The pack as data. -/
def toTree (pack : Pack) : Tree :=
  .recordOf [
    Tree.field "name" (.text pack.name),
    pack.registry.map fun registry => ("registry", registry.toTree)]

end Pack

end Packfile
