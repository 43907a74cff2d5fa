import Packfile.Executor.Invocation
import Packfile.OrderedMap
import Packfile.Pack

/-!
# Release actions

A release compiled for one environment: every field resolved, ready to be handed to an executor.
The token stays out of everything that is printed.
-/

namespace Packfile

/-- A release compiled for one environment. -/
structure Action where
  name : String
  environment : String
  pack : Pack
  /-- The var files that exist, as they are seen from the working directory. -/
  varFiles : List String
  vars : OrderedMap String
  workDir : String
  address : String
  token : String
  deriving DecidableEq

namespace Action

/-- The cluster that the release goes to. -/
def target (action : Action) : ClusterTarget :=
  { address := action.address, token := action.token }

/-- What an executor is asked to do with the release. -/
def invocation (action : Action) : Invocation where
  workDir := action.workDir
  varFiles := action.varFiles
  vars := action.vars.entries
  packArgs := action.pack.args
  target := action.target

/-- A token as it is printed: only whether there is one. -/
def redacted (token : String) : String :=
  if token = "" then "" else "<redacted>"

/-- The action as data that may be printed. -/
def toTree (action : Action) : Tree :=
  .record [
    ("name", .text action.name),
    ("environment", .text action.environment),
    ("pack", action.pack.toTree),
    ("var_files", .texts action.varFiles),
    ("vars", .textFields action.vars.entries),
    ("work_dir", .text action.workDir),
    ("nomad_addr", .text action.address),
    ("nomad_token", .text (redacted action.token))]

end Action

end Packfile
