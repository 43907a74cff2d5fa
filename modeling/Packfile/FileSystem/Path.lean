import Packfile.Text.Lines

/-!
# Paths as text

A path is kept as it was written, since messages and command lines show it unchanged. Slashes
separate its components; empty components, and the component `.` anywhere but at the front, do not
count.
-/

namespace Packfile.Path

/-- Whether the path starts at the root. -/
def isAbsolute (path : String) : Bool :=
  path.toList.head? = some '/'

/-- The path of `relative` seen from `base`; an absolute path is taken as it is. -/
def join (base relative : String) : String :=
  if isAbsolute relative then relative
  else if base.toList.getLast?.all (· = '/') then base ++ relative
  else base ++ "/" ++ relative

/-- A part between slashes that names no step. -/
def isIdle (part : String) : Bool :=
  part = "" || part = "."

/-- The number of components: the root or the first step, and every step after it. -/
def componentCount (path : String) : Nat :=
  if path = "" then 0
  else 1 + ((Text.splitFields '/' path).tail.filter fun part => !isIdle part).length

/-- The path without its last component; `none` for the root and for the empty path. -/
def parent? (path : String) : Option String :=
  match Text.splitFields '/' path with
  | [] => none
  | first :: rest =>
    match rest.reverse.dropWhile isIdle with
    | _ :: before =>
      let kept := (before.dropWhile isIdle).reverse
      if first = "" && kept.isEmpty then some "/"
      else some ("/".intercalate (first :: kept))
    | [] => if first = "" then none else some ""

/-- The directory that holds the file; the current directory for a bare name. -/
def directory (path : String) : String :=
  match parent? path with
  | none | some "" => "."
  | some parent => parent

example : join "deploy" "vars/a.hcl" = "deploy/vars/a.hcl" := by decide

example : join "deploy" "" = "deploy/" := by decide

example : directory "a//b//c.yaml" = "a//b" := by decide

example : directory "./packfile.yaml" = "." := by decide

theorem join_absolute {base relative : String} (h : isAbsolute relative) :
    join base relative = relative := by
  simp [join, h]

end Packfile.Path
