import Packfile.Environment.Store
import Packfile.Template.Token

/-!
# Commands and their values

An action is one operand, or `index` with a target and any number of keys. A command is evaluated
against a context, the current environment and the variables. A field or key that does not exist
has no value, which renders as nothing; only a field of a text, and `index` into or by something
that is neither a map nor missing, are errors. So would be a name in the place of an operand.
-/

namespace Packfile.Template

/-- What templates can refer to. -/
structure Context where
  /-- The name of the current environment. -/
  environment : String
  store : EnvironmentStore
  deriving DecidableEq

/-- The inside of an action. -/
inductive Command where
  | operand (operand : Token)
  | index (target : Token) (keys : List Token)
  deriving DecidableEq, Repr

/-- The command that the tokens of an action make. The one function is `index`; a name among its
arguments would be another one. -/
def Command.ofTokens (body : String) : List Token → Except ParseFault Command
  | [] => .error .missingValue
  | .name name :: arguments =>
    if name = "index" then
      match arguments with
      | [] => .error .missingIndexTarget
      | target :: keys =>
        match (target :: keys).findSome? Token.name? with
        | some name => .error (.undefinedFunction name)
        | none => .ok (.index target keys)
    else .error (.undefinedFunction name)
  | [.operand value] => .ok (.operand (.operand value))
  | .operand _ :: _ :: _ => .error (.argumentToValue body)

/-- The command in the inside of an action. -/
def Command.parse (body : List Char) : Except ParseFault Command := do
  Command.ofTokens (String.ofList body) (← Token.tokens (String.ofList body) body)

/-- The value of an operand. -/
inductive Value where
  /-- The whole context. -/
  | root
  /-- The current environment. -/
  | environment
  /-- All variables. -/
  | allVariables
  | text (value : String)
  | missing
  deriving DecidableEq, Repr

namespace Value

/-- The kind of a value. -/
def type : Value → ValueType
  | .root | .environment => .struct
  | .allVariables => .map
  | .text _ => .string
  | .missing => .nil

/-- The value of a variable, missing if it is not set. -/
def ofVariable (context : Context) (name : String) : Value :=
  match context.store.get? name with
  | some value => .text value
  | none => .missing

/-- The field of a value. -/
def field (context : Context) (name : String) : Value → Except ExecuteFault Value
  | .root =>
    if name = "Environment" then .ok .environment
    else if name = "Env" then .ok .allVariables
    else .ok .missing
  | .environment => if name = "Name" then .ok (.text context.environment) else .ok .missing
  | .allVariables => .ok (ofVariable context name)
  | .text _ => .error (.fieldOfString name)
  | .missing => .ok .missing

/-- The entry of a value under a key. -/
def index (context : Context) (key : String) : Value → Except ExecuteFault Value
  | .allVariables => .ok (ofVariable context key)
  | .missing => .ok .missing
  | other => .error (.indexOf other.type)

/-- The key that a value stands for; a missing value is the empty key. -/
def key : Value → Except ExecuteFault String
  | .text value => .ok value
  | .missing => .ok ""
  | other => .error (.indexBy other.type)

/-- All variables in order, as `map[NAME:value NAME:value]`. -/
def renderVariables (store : EnvironmentStore) : String :=
  "map[" ++ " ".intercalate (store.entries.map fun entry => entry.1 ++ ":" ++ entry.2) ++ "]"

/-- The text of a value; structures show their fields in braces. -/
def render (context : Context) : Value → String
  | .text value => value
  | .missing => ""
  | .allVariables => renderVariables context.store
  | .environment => "\x7b" ++ context.environment ++ "\x7d"
  | .root =>
    "\x7b\x7b" ++ context.environment ++ "\x7d " ++ renderVariables context.store ++ "\x7d"

end Value

/-- The value of an operand. -/
def Operand.evaluate (context : Context) : Operand → Except ExecuteFault Value
  | .text value => .ok (.text value)
  | .field path => path.foldlM (fun value name => value.field context name) .root

/-- The value of a token. A name has none, since it would be a function. -/
def Token.evaluate (context : Context) : Token → Except ExecuteFault Value
  | .operand value => value.evaluate context
  | .name function => .error (.undefinedFunction function)

/-- The value of a command. -/
def Command.evaluate (context : Context) : Command → Except ExecuteFault Value
  | .operand token => token.evaluate context
  | .index target keys => do
    let start ← target.evaluate context
    keys.foldlM
      (fun value token => do value.index context (← (← token.evaluate context).key)) start

end Packfile.Template
