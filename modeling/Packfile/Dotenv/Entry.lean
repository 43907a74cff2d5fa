import Packfile.Dotenv.Line
import Packfile.Dotenv.Value
import Packfile.Environment.Process

/-!
# Entries of an environment file

What a file says under the plain rules alone: every line that is neither blank nor a comment gives
one entry, a name with its text, or it is refused. A reference in a value is looked up in the
environment of the process first and then among the entries before it, the latest first.
-/

namespace Packfile.Dotenv

/-- The value of the first assignment to a name in a list. -/
def firstValue? (assignments : List (String × String)) (name : String) : Option String :=
  (assignments.find? fun entry => entry.1 = name).map Prod.snd

namespace Entry

/-- What a reference finds, given the entries before it, the latest first. -/
def lookup (process : ProcessEnvironment) (earlier : List (String × String)) (name : String) :
    Option String :=
  (process.getText? name).or (firstValue? earlier name)

/-- The index that is reported for a value that is refused. -/
def faultIndex (value : List Char) : Value.Fault → Nat
  | .unexpected index => index
  | .unterminated => Line.byteLength value - 1

/-- The entry of an assignment, with the names in its value looked up as given. -/
def ofAssignment (lookup : String → Option String) (assignment : Assignment) :
    Except LineError (String × String) :=
  match Value.decode lookup assignment.value with
  | .ok text => .ok (assignment.key, String.ofList text)
  | .error fault =>
    .error ⟨String.ofList assignment.value, faultIndex assignment.value fault⟩

/-- The entries of lines, given the entries before them, the latest first. -/
def ofLines (process : ProcessEnvironment) (earlier : List (String × String)) :
    List (List Char) → List (Except LineError (String × String))
  | [] => []
  | line :: rest =>
    match Line.parse line with
    | .error e => .error e :: ofLines process earlier rest
    | .ok none => ofLines process earlier rest
    | .ok (some assignment) =>
      match ofAssignment (lookup process earlier) assignment with
      | .error e => .error e :: ofLines process earlier rest
      | .ok entry => .ok entry :: ofLines process (entry :: earlier) rest

end Entry

end Packfile.Dotenv
