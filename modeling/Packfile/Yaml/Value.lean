import Packfile.Text.Quoted
import Packfile.Yaml.Plain

/-!
# Values

What a node stands for when nothing is known about it beforehand, and how such a value is shown in a
message.
-/

namespace Packfile.Yaml

/-- A value of any kind. -/
inductive Value where
  | null
  | bool (value : Bool)
  | number (value : Number)
  | text (value : String)
  | sequence (items : List Value)
  | mapping (entries : List (Value × Value))
  /-- A value with a tag, of which the text after the exclamation mark is kept. -/
  | tagged (tag : String) (value : Value)
  deriving Inhabited, Repr

namespace Value

/-- The name of a tag without an exclamation mark in front, unless it is nothing else. -/
def tagName (tag : String) : String :=
  match tag.toList with
  | '!' :: c :: rest => String.ofList (c :: rest)
  | _ => tag

mutual

/-- Whether two values are the same key. The order of the entries of a mapping does not matter. -/
def same : Value → Value → Bool
  | .null, .null => true
  | .bool a, .bool b => a = b
  | .number a, .number b => a.same b
  | .text a, .text b => a = b
  | .sequence a, .sequence b => sameItems a b
  | .mapping a, .mapping b => a.length = b.length && entriesIn a b
  | .tagged tag a, .tagged tag' b => tagName tag = tagName tag' && a.same b
  | _, _ => false

/-- Whether two lists have the same items in the same order. -/
def sameItems : List Value → List Value → Bool
  | [], [] => true
  | a :: as, b :: bs => a.same b && sameItems as bs
  | _, _ => false

/-- Whether every entry of the first mapping is in the second. -/
def entriesIn : List (Value × Value) → List (Value × Value) → Bool
  | [], _ => true
  | (key, value) :: rest, others =>
    (others.any fun other => key.same other.1 && value.same other.2) && entriesIn rest others

end

/-! ## Values in messages -/

/-- A truth value in a message. -/
def boolText (value : Bool) : String :=
  if value then "true" else "false"

mutual

/-- A value in a message. -/
def describe : Value → String
  | .null => "Null"
  | .bool value => "Bool(" ++ boolText value ++ ")"
  | .number value => "Number(" ++ value.render ++ ")"
  | .text value => "String(" ++ Text.quoted value ++ ")"
  | .sequence items => "Sequence [" ++ ", ".intercalate (describeItems items) ++ "]"
  | .mapping entries =>
    "Mapping \x7b" ++ ", ".intercalate (describeEntries entries) ++ "\x7d"
  | .tagged tag value =>
    "TaggedValue \x7b tag: !" ++ tagName tag ++ ", value: " ++ value.describe ++ " \x7d"

/-- The items of a sequence in a message. -/
def describeItems : List Value → List String
  | [] => []
  | item :: rest => item.describe :: describeItems rest

/-- The entries of a mapping in a message. -/
def describeEntries : List (Value × Value) → List String
  | [] => []
  | (key, value) :: rest =>
    (describeKey key ++ ": " ++ value.describe) :: describeEntries rest

/-- A key in a message, which is shown without its kind if it is a scalar. -/
def describeKey : Value → String
  | .bool value => boolText value
  | .number value => value.render
  | .text value => Text.quoted value
  | .null => "Null"
  | .sequence items => "Sequence [" ++ ", ".intercalate (describeItems items) ++ "]"
  | .mapping entries =>
    "Mapping \x7b" ++ ", ".intercalate (describeEntries entries) ++ "\x7d"
  | .tagged tag value =>
    "TaggedValue \x7b tag: !" ++ tagName tag ++ ", value: " ++ value.describe ++ " \x7d"

end

/-- The text of a scalar value, if it is one. -/
def scalarText? : Value → Option String
  | .null => some ""
  | .bool value => some (boolText value)
  | .number value => some value.render
  | .text value => some value
  | .sequence _ | .mapping _ | .tagged .. => none

end Value

end Packfile.Yaml
