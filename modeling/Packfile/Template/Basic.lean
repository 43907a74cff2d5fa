import Packfile.Template.Action

/-!
# Templates

A template is text with actions in double braces. A marker, which is a minus sign with a blank on
its inner side, removes the blanks of the neighbouring text on its own side of the action. A
comment has no value but its markers count.

Reading a template turns it into texts and commands; resolving it puts the value of each command in
its place.
-/

namespace Packfile.Template

/-- The inside of an action without its markers. -/
structure Action where
  /-- Whether the text before the action loses its last blanks. -/
  trimsBefore : Bool
  /-- Whether the text after the action loses its first blanks. -/
  trimsAfter : Bool
  /-- What is between the markers, without the blanks around it. -/
  body : List Char
  deriving DecidableEq, Repr

namespace Action

/-- Takes a marker off the front. -/
def splitFront (inside : List Char) : Bool × List Char :=
  match inside with
  | '-' :: rest => if rest.head?.any Text.isBlank then (true, rest) else (false, inside)
  | _ => (false, inside)

/-- Takes a marker off the end. -/
def splitEnd (inside : List Char) : Bool × List Char :=
  if inside.getLast? = some '-' && inside.dropLast.getLast?.any Text.isBlank then
    (true, inside.dropLast)
  else (false, inside)

/-- The action with the given inside. -/
def ofInside (inside : List Char) : Action :=
  let (before, rest) := splitFront inside
  let (after, rest) := splitEnd rest
  ⟨before, after, Text.trim rest⟩

/-- The command of an action, `none` for a comment. -/
def command? (action : Action) : Except ParseFault (Option Command) :=
  match action.body with
  | '/' :: '*' :: comment =>
    if ['*', '/'].isSuffixOf comment then .ok none else .error .unclosedComment
  | body => some <$> Command.parse body

end Action

/-- A part of a template. -/
inductive Node where
  | text (text : List Char)
  | action (command : Command)
  deriving DecidableEq, Repr

/-- A text between actions, trimmed on the sides of markers. Braces that open an action cannot be
left in it. -/
def checkText (trimsStart trimsEnd : Bool) (text : List Char) : Except ParseFault (List Char) :=
  if Text.occursIn ['{', '{'] text then .error .unclosedAction
  else
    let text := if trimsStart then Text.trimStart text else text
    .ok (if trimsEnd then Text.trimEnd text else text)

/-- The nodes of texts and actions, where `trimsStart` tells whether the first text loses its first
blanks. -/
def nodes (tail : List Char) (trimsStart : Bool) :
    List (List Char × List Char) → Except ParseFault (List Node)
  | [] => do .ok [.text (← checkText trimsStart false tail)]
  | (text, inside) :: rest => do
    let action := Action.ofInside inside
    let text ← checkText trimsStart action.trimsBefore text
    match ← action.command? with
    | some command => (.text text :: .action command :: ·) <$> nodes tail action.trimsAfter rest
    | none => (.text text :: ·) <$> nodes tail action.trimsAfter rest

/-- The nodes of a template. -/
def parse (template : List Char) : Except ParseFault (List Node) :=
  let segments := Segments.ofText template
  nodes segments.tail false segments.actions

/-- The text that a node stands for. -/
def Node.render (context : Context) : Node → Except ExecuteFault (List Char)
  | .text literal => .ok literal
  | .action command => return ((← command.evaluate context).render context).toList

/-- The text that nodes stand for. -/
def render (context : Context) : List Node → Except ExecuteFault (List Char)
  | [] => .ok []
  | node :: rest => return (← node.render context) ++ (← render context rest)

/-- The text that a template stands for in a context. -/
def resolve (context : Context) (template : String) : Except Error String :=
  match parse template.toList with
  | .error fault => .error (.parse template fault)
  | .ok nodes =>
    match render context nodes with
    | .error fault => .error (.execute template fault)
    | .ok text => .ok (String.ofList text)

end Packfile.Template
