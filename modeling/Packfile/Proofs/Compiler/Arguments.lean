import Packfile.Executor.NomadPack
import Packfile.Proofs.Compiler.Registered

/-!
# Reading command lines back

The arguments of a release command are strings that nobody has checked, put one after the other
without any escape. They can still be read back. A flag takes exactly one value, whatever that looks
like, and something always follows it, since a command line ends with the name of the pack. So a
string that looks like a flag is one exactly if it is not the last, and behind the flags there is
either the name alone or the word that announces a registry.
-/

namespace Packfile

namespace Pack

/-- The registry that a pack is taken from, with the version that it is pinned to. -/
def selection (pack : Pack) : Option (String × Option String) :=
  pack.registry.map fun registry => (registry.name, registry.ref)

variable {pack other : Pack}

theorem args_cases (pack : Pack) :
    pack.args = [pack.name] ∨ ∃ rest, pack.args = "--registry" :: rest := by
  obtain ⟨name, _ | registry⟩ := pack
  · exact .inl rfl
  · exact .inr ⟨_, rfl⟩

theorem getLast?_args (pack : Pack) : pack.args.getLast? = some pack.name :=
  List.getLast?_concat ..

/-- The arguments of a pack say where it is taken from and what it is called, and nothing else. -/
theorem args_congr (source : pack.selection = other.selection) (name : pack.name = other.name) :
    pack.args = other.args := by
  obtain ⟨name, _ | ⟨registry, url, ref, target⟩⟩ := pack <;>
    obtain ⟨name', _ | ⟨registry', url', ref', target'⟩⟩ := other <;>
    simp_all [selection, args]

end Pack

/-- The variables of an action as they are passed. -/
def Action.settings (action : Action) : List String :=
  action.vars.entries.map fun entry => entry.1 ++ "=" ++ entry.2

namespace NomadPack

/-- Every value behind a flag of its own. -/
def flagged (flag : String) (values : List String) : List String :=
  values.flatMap fun value => [flag, value]

/-- What a command line says about a release. -/
structure Reading where
  command : PackCommand
  varFiles : List String
  settings : List String
  selection : Option (String × Option String)
  pack : Option String
  deriving DecidableEq

/-- The command that arguments begin with, and what is left behind it. -/
def readCommand? : List String → Option (PackCommand × List String)
  | "plan" :: "--diff" :: "--exit-code-makes-changes=0" :: rest => some (.plan, rest)
  | "render" :: rest => some (.render, rest)
  | "run" :: rest => some (.run, rest)
  | _ => none

/-- The values behind a flag, and what is left behind the last of them, which is never nothing. -/
def readFlagged (flag : String) : List String → List String × List String
  | first :: value :: next :: rest =>
    if first = flag then
      let (values, left) := readFlagged flag (next :: rest)
      (value :: values, left)
    else ([], first :: value :: next :: rest)
  | args => ([], args)

/-- Reads a command line. -/
def read? (args : List String) : Option Reading := do
  let (command, rest) ← readCommand? args
  let (varFiles, rest) := readFlagged "-var-file" rest
  let (settings, rest) := readFlagged "-var" rest
  some {
    command, varFiles, settings
    selection := Pack.selected? rest
    pack := rest.getLast? }

variable {flag other : String} {args : List String} {command : PackCommand}

/-- No further value of the flag is read from the arguments. -/
def Stops (flag : String) (args : List String) : Prop :=
  args ≠ [] ∧ readFlagged flag args = ([], args)

theorem stops_of_ne {first : String} (different : first ≠ flag) (rest : List String) :
    Stops flag (first :: rest) := by
  refine ⟨List.cons_ne_nil _ _, ?_⟩
  match rest with
  | [] | [_] => rfl
  | _ :: _ :: _ => rw [readFlagged, if_neg different]

theorem stops_singleton (flag arg : String) : Stops flag [arg] :=
  ⟨List.cons_ne_nil _ _, rfl⟩

/-- A pack is not mistaken for a value, even if it has the name of the flag. -/
theorem stops_args (different : "--registry" ≠ flag) (pack : Pack) : Stops flag pack.args := by
  rcases pack.args_cases with bare | ⟨rest, sourced⟩
  · rw [bare]
    exact stops_singleton flag pack.name
  · rw [sourced]
    exact stops_of_ne different rest

theorem Stops.flagged (stops : Stops flag args) (different : other ≠ flag) (values : List String) :
    Stops flag (NomadPack.flagged other values ++ args) := by
  cases values with
  | nil => exact stops
  | cons value values => exact stops_of_ne different _

/-- The values of a flag are read back, whatever they are. -/
theorem readFlagged_flagged (stops : Stops flag args) (values : List String) :
    readFlagged flag (flagged flag values ++ args) = (values, args) := by
  induction values with
  | nil => exact stops.2
  | cons value values ih =>
      obtain ⟨next, rest, left⟩ : ∃ next rest, flagged flag values ++ args = next :: rest :=
        List.exists_cons_of_ne_nil (List.append_ne_nil_of_right_ne_nil _ stops.1)
      have first : flagged flag (value :: values) ++ args = flag :: value :: next :: rest := by
        rw [← left]
        rfl
      rw [first, readFlagged, if_pos rfl, ← left, ih]

theorem readCommand?_commandArgs (command : PackCommand) (rest : List String) :
    readCommand? (commandArgs command ++ rest) = some (command, rest) := by
  cases command <;> rfl

theorem releaseArgs_invocation (command : PackCommand) (action : Action) :
    releaseArgs command action.invocation =
      commandArgs command ++ (flagged "-var-file" action.varFiles ++
        (flagged "-var" action.settings ++ action.pack.args)) := by
  simp [releaseArgs, Action.invocation, flagged, Action.settings, List.flatMap_map]

/-- A command line is read back as what it was made from. -/
theorem read?_releaseArgs (command : PackCommand) (action : Action) :
    read? (releaseArgs command action.invocation) = some {
      command
      varFiles := action.varFiles
      settings := action.settings
      selection := action.pack.selection
      pack := some action.pack.name } := by
  have pack : Stops "-var" action.pack.args := stops_args (by decide) action.pack
  have settings : Stops "-var-file" (flagged "-var" action.settings ++ action.pack.args) :=
    (stops_args (by decide) action.pack).flagged (by decide) action.settings
  rw [releaseArgs_invocation, read?, readCommand?_commandArgs]
  simp only [Option.bind_some, bind, readFlagged_flagged settings, readFlagged_flagged pack,
    Pack.selected?_args, Pack.getLast?_args]
  rfl

/-- Two command lines are equal exactly if they apply the same command with the same var files and
the same rendered variables to the same pack, taken from the same registry in the same version. No
string that a manifest can bring in makes one look like another. -/
theorem releaseArgs_eq_iff (first second : PackCommand) (a b : Action) :
    releaseArgs first a.invocation = releaseArgs second b.invocation ↔
      first = second ∧ a.varFiles = b.varFiles ∧ a.settings = b.settings ∧
        a.pack.name = b.pack.name ∧ a.pack.selection = b.pack.selection := by
  constructor
  · intro same
    have readings := congrArg read? same
    simp only [read?_releaseArgs, Option.some.injEq, Reading.mk.injEq] at readings
    obtain ⟨command, varFiles, settings, selection, name⟩ := readings
    exact ⟨command, varFiles, settings, name, selection⟩
  · rintro ⟨rfl, varFiles, settings, name, selection⟩
    rw [releaseArgs_invocation, releaseArgs_invocation, varFiles, settings,
      Pack.args_congr selection name]

end NomadPack

end Packfile
