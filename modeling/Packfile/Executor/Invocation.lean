import Packfile.Registry.Basic

/-!
# Invocations

What an executor is asked to do: to add a registry, or to apply a command to a release. Everything
that a command needs travels in its invocation.
-/

namespace Packfile

/-- What is done with a release. -/
inductive PackCommand where
  | plan
  | render
  | run
  deriving DecidableEq, Repr

namespace PackCommand

/-- The name of a command. -/
def name : PackCommand → String
  | .plan => "plan"
  | .render => "render"
  | .run => "run"

/-- The command of a name. -/
def ofName? (name : String) : Option PackCommand :=
  if name = "plan" then some .plan
  else if name = "render" then some .render
  else if name = "run" then some .run
  else none

@[simp]
theorem ofName?_name (command : PackCommand) : ofName? command.name = some command := by
  cases command <;> rfl

end PackCommand

/-- The cluster that a release goes to. An empty address or token leaves the choice to the tool. -/
structure ClusterTarget where
  address : String := ""
  token : String := ""
  deriving DecidableEq, Repr

/-- One release, ready for a command. -/
structure Invocation where
  /-- The directory that the command runs in. -/
  workDir : String
  varFiles : List String := []
  /-- The variables in the order in which they are passed. -/
  vars : List (String × String) := []
  /-- The arguments that select the pack. -/
  packArgs : List String := []
  target : ClusterTarget := {}
  deriving DecidableEq, Repr

namespace ClusterTarget

/-- The target as data. -/
def toTree (target : ClusterTarget) : Tree :=
  .record [("nomad_addr", .text target.address), ("nomad_token", .text target.token)]

/-- The target in a tree. -/
def ofTree? (tree : Tree) : Option ClusterTarget := do
  match ← tree.structureFields ["nomad_addr", "nomad_token"] with
  | [address, token] => some { address := ← (← address).asText, token := ← (← token).asText }
  | _ => none

@[simp]
theorem ofTree?_toTree (target : ClusterTarget) : ofTree? target.toTree = some target := rfl

end ClusterTarget

namespace Invocation

/-- The invocation as data; a variable is a list of its name and value. -/
def toTree (invocation : Invocation) : Tree :=
  .record [
    ("work_dir", .text invocation.workDir),
    ("var_files", .texts invocation.varFiles),
    ("vars", .list (invocation.vars.map fun entry => .texts [entry.1, entry.2])),
    ("pack_args", .texts invocation.packArgs),
    ("target", invocation.target.toTree)]

/-- The invocation in a tree. -/
def ofTree? (tree : Tree) : Option Invocation := do
  match ← tree.structureFields ["work_dir", "var_files", "vars", "pack_args", "target"] with
  | [workDir, varFiles, vars, packArgs, target] =>
    some {
      workDir := ← (← workDir).asText
      varFiles := ← (← varFiles).asTexts
      vars := ← (← (← vars).asList).mapM Tree.asTextPair
      packArgs := ← (← packArgs).asTexts
      target := ← ClusterTarget.ofTree? (← target) }
  | _ => none

end Invocation

end Packfile
