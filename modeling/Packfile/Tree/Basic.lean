/-!
# Trees of data

The common form of everything that is written as YAML or JSON, and of values that are read back:
records with fields in order, lists, and scalars. A number is kept as its numeral.
-/

namespace Packfile

/-- A tree of data. -/
inductive Tree where
  | null
  | bool (value : Bool)
  | number (numeral : String)
  | text (value : String)
  | list (items : List Tree)
  | record (fields : List (String × Tree))
  deriving Inhabited, Repr

namespace Tree

/-- A list of texts. -/
def texts (values : List String) : Tree :=
  .list (values.map .text)

/-- Texts by name, in order. -/
def textFields (fields : List (String × String)) : Tree :=
  .record (fields.map fun field => (field.1, .text field.2))

/-- A text, or null. -/
def optionalText : Option String → Tree
  | some value => .text value
  | none => .null

/-- The fields that are present. -/
def recordOf (fields : List (Option (String × Tree))) : Tree :=
  .record (fields.filterMap id)

/-- A field that is always written. -/
def field (name : String) (value : Tree) : Option (String × Tree) :=
  some (name, value)

/-- A field that is written only when it has a value. -/
def fieldIfSome (name : String) (value : Option String) : Option (String × Tree) :=
  value.map fun text => (name, .text text)

/-- The text of a text. -/
def asText : Tree → Option String
  | .text value => some value
  | _ => none

/-- The text of a text, or nothing for null. -/
def asOptionalText : Tree → Option (Option String)
  | .null => some none
  | .text value => some (some value)
  | _ => none

/-- The items of a list. -/
def asList : Tree → Option (List Tree)
  | .list items => some items
  | _ => none

/-- The texts of a list of texts. -/
def asTexts (tree : Tree) : Option (List String) := do
  (← tree.asList).mapM asText

/-- The two texts of a list of two. -/
def asTextPair (tree : Tree) : Option (String × String) := do
  match ← tree.asList with
  | [first, second] => some (← first.asText, ← second.asText)
  | _ => none

/-- The values of the named fields of a structure, `none` for one that is missing. A structure may
also be given as the list of all its fields in order. -/
def structureFields (names : List String) : Tree → Option (List (Option Tree))
  | .record fields =>
    some (names.map fun name => (fields.find? fun field => field.1 = name).map Prod.snd)
  | .list items => if items.length = names.length then some (items.map some) else none
  | _ => none

end Tree

end Packfile
