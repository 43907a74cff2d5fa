import Packfile.Text.Quoted

/-!
# Template errors

A template is refused either while it is read or while it is resolved. Both errors carry the whole
template, since a packfile holds many.
-/

namespace Packfile.Template

/-- Why a template cannot be read. -/
inductive ParseFault where
  | unclosedAction
  | unclosedComment
  | missingValue
  | missingIndexTarget
  | undefinedFunction (name : String)
  | argumentToValue (body : String)
  | badFieldReference (body : String)
  | badFieldName (name : String)
  | unterminatedString
  | unterminatedRawString
  | invalidEscape (c : Char)
  | unexpectedCharacter (c : Char)
  deriving DecidableEq, Repr

/-- The text of a fault. -/
def ParseFault.message : ParseFault → String
  | .unclosedAction => "unclosed action"
  | .unclosedComment => "unclosed comment"
  | .missingValue => "missing value for command"
  | .missingIndexTarget => "wrong number of args for index: want at least 1 got 0"
  | .undefinedFunction name => "function " ++ Text.quoted name ++ " not defined"
  | .argumentToValue body => "can't give argument to non-function " ++ body
  | .badFieldReference body => "bad field reference in " ++ Text.quoted body
  | .badFieldName name => "bad field name " ++ Text.quoted name
  | .unterminatedString => "unterminated quoted string"
  | .unterminatedRawString => "unterminated raw quoted string"
  | .invalidEscape c => "invalid escape sequence \\" ++ String.ofList [c]
  | .unexpectedCharacter c => "unexpected " ++ Text.quotedChar c ++ " in command"

/-- The kinds of value that an action can meet. -/
inductive ValueType where
  | struct
  | map
  | string
  | nil
  deriving DecidableEq, Repr

/-- The name of a kind in messages. -/
def ValueType.name : ValueType → String
  | .struct => "struct"
  | .map => "map[string]string"
  | .string => "string"
  | .nil => "nil"

/-- Why an action has no value. -/
inductive ExecuteFault where
  | fieldOfString (field : String)
  | indexOf (type : ValueType)
  | indexBy (type : ValueType)
  | undefinedFunction (name : String)
  deriving DecidableEq, Repr

/-- The text of a fault. -/
def ExecuteFault.message : ExecuteFault → String
  | .fieldOfString field => "can't evaluate field " ++ field ++ " in type string"
  | .indexOf type => "can't index item of type " ++ type.name
  | .indexBy type => "cannot index with key of type " ++ type.name
  | .undefinedFunction name => "function " ++ Text.quoted name ++ " not defined"

/-- A template that cannot be resolved. -/
inductive Error where
  | parse (template : String) (fault : ParseFault)
  | execute (template : String) (fault : ExecuteFault)
  deriving DecidableEq, Repr

/-- The text of an error. -/
def Error.message : Error → String
  | .parse template fault =>
    "Template parse error in " ++ Text.quoted template ++ ": " ++ fault.message
  | .execute template fault =>
    "Template execution error in " ++ Text.quoted template ++ ": " ++ fault.message

end Packfile.Template
