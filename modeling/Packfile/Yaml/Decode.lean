import Packfile.OrderedMap
import Packfile.Yaml.Node.OfTokens
import Packfile.Yaml.Value

/-!
# Reading nodes

A reader takes a node for something: a text, a list, a record, a value of any kind. Readers go
through a document in order and stop at the first thing that does not fit. Aliases are followed, but
only so many times, and sequences and mappings may be nested only so deep; so reading a document that
refers to itself ends.
-/

namespace Packfile.Yaml

/-- Why a document cannot be read. -/
inductive DecodeError where
  /-- The text is not well formed, or something in it is not of the kind that it should be. -/
  | malformed
  | missingField (name : String)
  /-- The value of a variable is no scalar. -/
  | notScalar (key : String) (value : Value)
  deriving Repr

/-- The text of an error. -/
def DecodeError.message : DecodeError → String
  | .malformed => "malformed document"
  | .missingField name => "missing field \x60" ++ name ++ "\x60"
  | .notScalar key value => "var " ++ key ++ " must be a scalar, got " ++ value.describe

/-- What readers need to know of a document. -/
structure Aliases where
  /-- The anchored nodes with their slots, the last one in front. -/
  anchored : List (Nat × Node)
  /-- How many aliases may be followed. -/
  limit : Nat

/-- A reader; its state is the number of aliases followed. -/
abbrev Decoder := ReaderT Aliases (StateT Nat (Except DecodeError))

/-- How deep sequences and mappings may be nested. -/
def maxDepth : Nat := 128

/-- How many aliases may be followed for every step of a walk over the document. -/
def aliasesPerStep : Nat := 100

namespace Decoder

variable {α σ : Type}

/-- Nothing fits. -/
def malformed : Decoder α :=
  throw .malformed

/-- The node itself, or the node that an alias stands for. -/
def follow (node : Node) : Decoder Node :=
  match node with
  | .alias slot => do
    let aliases ← read
    let followed ← get
    if aliases.limit ≤ followed then malformed
    else
      set (followed + 1)
      match aliases.anchored.find? fun entry => entry.1 = slot with
      | some entry => pure entry.2
      | none => malformed
  | node => pure node

/-- A text: that of any scalar. -/
def text (node : Node) : Decoder String := do
  match ← follow node with
  | .scalar _ _ value => pure value
  | _ => malformed

/-- Anything, which only has to be well formed. -/
def ignore (node : Node) : Decoder Unit :=
  if node.isWhole then pure () else malformed

/-- One level of nesting further down. -/
def descend (depth : Nat) (inner : Nat → Decoder α) : Decoder α :=
  match depth with
  | 0 => malformed
  | depth + 1 => inner depth

/-- The items of a list. Nothing written counts as the empty list. -/
def list (item : Nat → Node → Decoder α) (depth : Nat) (node : Node) : Decoder (List α) := do
  match ← follow node with
  | .sequence _ items => descend depth fun depth => items.mapM (item depth)
  | .scalar _ true "" => pure []
  | _ => malformed

/-- Goes through the entries of a mapping. Nothing written counts as the empty mapping. -/
def entries (step : Nat → σ → Node × Node → Decoder σ) (start : σ) (depth : Nat) (node : Node) :
    Decoder σ := do
  match ← follow node with
  | .mapping _ entries => descend depth fun depth => entries.foldlM (step depth) start
  | .scalar _ true "" => pure start
  | _ => malformed

/-- The fields of a record, each taken up into what has been read so far. -/
def record (field : Nat → σ → String → Node → Decoder σ) (start : σ) (depth : Nat) (node : Node) :
    Decoder σ :=
  entries (fun depth soFar entry => do field depth soFar (← text entry.1) entry.2) start depth node

/-- Values by name. Of two values for a name the later one counts. -/
def map (value : Nat → Node → Decoder α) (depth : Nat) (node : Node) : Decoder (OrderedMap α) :=
  entries (fun depth soFar entry => do
    let key ← text entry.1
    return soFar.insert key (← value depth entry.2)) ∅ depth node

/-- The tag that asks for nothing. -/
def nullTag : String := "tag:yaml.org,2002:null"

/-- What is read, or nothing. A plain scalar that is empty or a word for nothing stands for nothing,
and so does such a word under the tag for it. -/
def optional (value : Nat → Node → Decoder α) (depth : Nat) (node : Node) :
    Decoder (Option α) := do
  let node ← follow node
  match node with
  | .scalar { tag := none, .. } true content =>
    if content = "" || Plain.isNull content then pure none else some <$> value depth node
  | .scalar { tag := some tag, .. } true content =>
    if tag ≠ nullTag then some <$> value depth node
    else if Plain.isNull content then pure none
    else malformed
  | node => some <$> value depth node

/-! ## Values of any kind -/

/-- What a scalar under one of the standard tags stands for. -/
def standardValue (tag : String) (content : String) : Decoder Value :=
  if tag = "tag:yaml.org,2002:bool" then
    match Plain.bool? content with
    | some value => pure (.bool value)
    | none => malformed
  else if tag = "tag:yaml.org,2002:int" then
    match (Plain.integer? content.toList).bind Plain.ofInteger? with
    | some (.number value) => pure (.number value)
    | _ => malformed
  else if tag = "tag:yaml.org,2002:float" then
    match Plain.float? content.toList with
    | some value => pure (.number (.float value))
    | none => malformed
  else if tag = nullTag then
    if Plain.isNull content then pure .null else malformed
  else pure (.text content)

/-- What a scalar without a tag stands for. -/
def untaggedValue (plain : Bool) (content : String) : Decoder Value :=
  if plain then
    match Plain.ofText content with
    | .null => pure .null
    | .bool value => pure (.bool value)
    | .number value => pure (.number value)
    | .wideInteger => malformed
    | .text => pure (.text content)
  else pure (.text content)

/-- The name of a tag that the document brings with it: what follows the exclamation mark. -/
def ownTag? (tag : Option String) : Option String :=
  tag.bind fun tag =>
    match tag.toList with
    | '!' :: rest => some (String.ofList rest)
    | _ => none

/-- A value under the tag that stands before it, if it is one of the document's own. -/
def withTag (tag : Option String) (value : Decoder Value) : Decoder Value :=
  match ownTag? tag with
  | none => value
  | some name => if name = "" then malformed else .tagged name <$> value

/-- What a scalar stands for. -/
def scalarValue (properties : Properties) (plain : Bool) (content : String) : Decoder Value :=
  match properties.tag with
  | none => untaggedValue plain content
  | some tag =>
    match ownTag? (some tag) with
    | some _ => withTag (some tag) (untaggedValue plain content)
    | none => standardValue tag content

/-- Adds an entry to a mapping, in which no key may occur twice. -/
def addEntry (value : Node → Decoder Value) (soFar : List (Value × Value)) (entry : Node × Node) :
    Decoder (List (Value × Value)) := do
  let key ← value entry.1
  if soFar.any fun other => key.same other.1 then malformed
  else return soFar ++ [(key, ← value entry.2)]

/-- A value of any kind. -/
def value (depth : Nat) (node : Node) : Decoder Value := do
  match ← follow node with
  | .scalar properties plain content => scalarValue properties plain content
  | .sequence properties items =>
    match depth with
    | 0 => malformed
    | depth + 1 => withTag properties.tag do return .sequence (← items.mapM (value depth))
  | .mapping properties entries =>
    match depth with
    | 0 => malformed
    | depth + 1 =>
      withTag properties.tag do return .mapping (← entries.foldlM (addEntry (value depth)) [])
  | .alias _ | .broken => malformed

end Decoder

/-- Reads a document, which has to be the only one of its stream. -/
def Document.decode {α : Type} (reader : Nat → Node → Decoder α) (document : Document) :
    Except DecodeError α :=
  let root := document.root.getD .empty
  let aliases : Aliases :=
    { anchored := root.anchors.reverse, limit := root.walkLength * aliasesPerStep }
  match (reader maxDepth root).run aliases 0 with
  | .error e => .error e
  | .ok (result, _) => if document.complete then .ok result else .error .malformed

end Packfile.Yaml
