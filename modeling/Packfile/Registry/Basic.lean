import Packfile.Tree.Basic

/-!
# Registries

A registry is a place that packs come from. It has the name by which releases refer to it, a
location, and perhaps a version and a target within it.
-/

namespace Packfile

/-- A registry of packs. -/
structure Registry where
  name : String
  url : String
  /-- The branch, tag or commit that is pinned. -/
  ref : Option String := none
  /-- The single pack that is taken from the registry. -/
  target : Option String := none
  deriving DecidableEq, Repr

namespace Registry

/-- A registry as it is declared and listed: what it does not have is left out. -/
def toTree (registry : Registry) : Tree :=
  .recordOf [
    Tree.field "name" (.text registry.name),
    Tree.field "url" (.text registry.url),
    Tree.fieldIfSome "ref" registry.ref,
    Tree.fieldIfSome "target" registry.target]

/-- A registry as it is handed to an executor: every field is written. -/
def toRequestTree (registry : Registry) : Tree :=
  .record [
    ("name", .text registry.name),
    ("url", .text registry.url),
    ("git_ref", .optionalText registry.ref),
    ("target", .optionalText registry.target)]

/-- A registry as it is handed to an executor, read back. The version and the target may be
missing. -/
def ofRequestTree? (tree : Tree) : Option Registry := do
  match ← tree.structureFields ["name", "url", "git_ref", "target"] with
  | [name, url, ref, target] =>
    some {
      name := ← (← name).asText
      url := ← (← url).asText
      ref := ← (ref.getD .null).asOptionalText
      target := ← (target.getD .null).asOptionalText }
  | _ => none

end Registry

end Packfile
