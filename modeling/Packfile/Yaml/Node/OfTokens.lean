import Packfile.Yaml.Node.Basic
import Packfile.Yaml.Token.Scan

/-!
# From tokens to nodes

Every part of a document is read from the tokens that are left. Reading goes on until something
does not fit, or until the tokens are over before the stream ends. What has been read up to there is
still a tree, with a broken node at the place where reading stopped.
-/

namespace Packfile.Yaml

/-- What is left to be read of a stream, and the names that are known. -/
structure Reading where
  tokens : List Token
  /-- What the handles of tags stand for. -/
  handles : List (String × String) := []
  /-- The names of anchors with their slots. -/
  anchors : List (String × Nat) := []

/-- What has been read, and what is left if reading can go on. -/
abbrev Read (α : Type) := α × Option Reading

namespace Reading

/-- What the handles of tags stand for if no directive says otherwise. -/
def standardHandles : List (String × String) :=
  [("!", "!"), ("!!", "tag:yaml.org,2002:")]

/-- Goes past the next token. -/
def skip (r : Reading) : Reading :=
  { r with tokens := r.tokens.drop 1 }

/-- The full text of a tag; nothing if its handle is unknown. -/
def expandTag (r : Reading) (written : WrittenTag) : Option String :=
  if written.handle = "" then some written.suffix
  else
    (r.handles.find? fun entry => entry.1 = written.handle).map fun entry =>
      entry.2 ++ written.suffix

/-- Gives a name to the node that follows. The slot is the number of names before it, so a name
that is used again may share its new slot with the next new name. -/
def assignSlot (r : Reading) (name : String) : Nat × Reading :=
  let slot := r.anchors.length
  (slot, { r with anchors := (name, slot) :: r.anchors.filter fun entry => entry.1 ≠ name })

/-- The slot of the node with a name. -/
def slotOf (r : Reading) (name : String) : Option Nat :=
  (r.anchors.find? fun entry => entry.1 = name).map Prod.snd

/-- The anchor and the tag before a node, in either order, each at most once. -/
def nodeWords (r : Reading) : Option String × Option WrittenTag × Reading :=
  match r.tokens with
  | .anchor name :: .tag tag :: rest => (some name, some tag, { r with tokens := rest })
  | .anchor name :: rest => (some name, none, { r with tokens := rest })
  | .tag tag :: .anchor name :: rest => (some name, some tag, { r with tokens := rest })
  | .tag tag :: rest => (none, some tag, { r with tokens := rest })
  | _ => (none, none, r)

/-- The anchor and the tag before a node, with their meaning. -/
def properties (r : Reading) : Option (Properties × Reading) :=
  let (name, written, r) := r.nodeWords
  let tag := written.map r.expandTag
  if tag = some none then none
  else
    match name.map r.assignSlot with
    | some (slot, r) => some ({ tag := tag.join, slot := some slot }, r)
    | none => some ({ tag := tag.join }, r)

/-- A scalar with what stands before it. The tag `!` says nothing about a scalar and is dropped. -/
def scalarNode (properties : Properties) (plain : Bool) (text : String) : Node :=
  if properties.tag = some "!" then .scalar { properties with tag := none } plain text
  else .scalar properties plain text

/-- Reading stops here. -/
def stop : Read (List Node) := ([.broken], none)

/-- Reading stops in a mapping, at a key. -/
def stopAtKey : Read (List (Node × Node)) := ([(.broken, .broken)], none)

mutual

/-- A node. Only inside a block may the node be a block, and only as part of a mapping may it be a
sequence that is not indented. -/
def node (inBlock inMapping : Bool) : (fuel : Nat) → Reading → Read Node
  | 0, _ => (.broken, none)
  | fuel + 1, r =>
    match r.tokens with
    | [] => (.broken, none)
    | .alias name :: _ =>
      match r.slotOf name with
      | some slot => (.alias slot, some r.skip)
      | none => (.broken, none)
    | _ =>
      match r.properties with
      | none => (.broken, none)
      | some (properties, r) =>
        match r.tokens with
        | [] => (.broken, none)
        | .scalar plain text :: _ => (scalarNode properties plain text, some r.skip)
        | .blockEntry :: _ =>
          if inMapping then
            let (items, left) := unindentedItems fuel r
            (.sequence properties items, left)
          else emptyNode properties r
        | .flowSequenceStart :: _ =>
          let (items, left) := flowItems true fuel r.skip
          (.sequence properties items, left)
        | .flowMappingStart :: _ =>
          let (entries, left) := flowEntries true fuel r.skip
          (.mapping properties entries, left)
        | .blockSequenceStart :: _ =>
          if inBlock then
            let (items, left) := blockItems fuel r.skip
            (.sequence properties items, left)
          else emptyNode properties r
        | .blockMappingStart :: _ =>
          if inBlock then
            let (entries, left) := blockEntries fuel r.skip
            (.mapping properties entries, left)
          else emptyNode properties r
        | _ => emptyNode properties r

/-- A node of which only the anchor or the tag is written. -/
def emptyNode (properties : Properties) (r : Reading) : Read Node :=
  if properties = {} then (.broken, none) else (.scalar properties true "", some r)

/-- The item after a dash, or an empty one if a token that ends it follows. -/
def itemNode (ends : Token → Bool) : (fuel : Nat) → Reading → Read Node
  | 0, _ => (.broken, none)
  | fuel + 1, r =>
    match r.tokens with
    | [] => (.broken, none)
    | token :: _ => if ends token then (.empty, some r) else node true false fuel r

/-- The items of an indented sequence. -/
def blockItems : (fuel : Nat) → Reading → Read (List Node)
  | 0, _ => stop
  | fuel + 1, r =>
    match r.tokens with
    | .blockEntry :: _ =>
      match itemNode (fun token => token = .blockEntry || token = .blockEnd) fuel r.skip with
      | (item, none) => ([item], none)
      | (item, some r) =>
        let (items, left) := blockItems fuel r
        (item :: items, left)
    | .blockEnd :: _ => ([], some r.skip)
    | _ => stop

/-- The items of a sequence that is not indented. -/
def unindentedItems : (fuel : Nat) → Reading → Read (List Node)
  | 0, _ => stop
  | fuel + 1, r =>
    match r.tokens with
    | [] => stop
    | .blockEntry :: _ =>
      let ends (token : Token) : Bool :=
        token = .blockEntry || token = .key || token = .value || token = .blockEnd
      match itemNode ends fuel r.skip with
      | (item, none) => ([item], none)
      | (item, some r) =>
        let (items, left) := unindentedItems fuel r
        (item :: items, left)
    | _ => ([], some r)

/-- The node after a sign in an indented mapping, or an empty one if there is none. -/
def blockField : (fuel : Nat) → Reading → Read Node
  | 0, _ => (.broken, none)
  | fuel + 1, r =>
    match r.tokens with
    | [] => (.broken, none)
    | .key :: _ | .value :: _ | .blockEnd :: _ => (.empty, some r)
    | _ => node true true fuel r

/-- The value of an indented mapping, with the colon before it, or an empty one. -/
def blockValue : (fuel : Nat) → Reading → Read Node
  | 0, _ => (.broken, none)
  | fuel + 1, r =>
    match r.tokens with
    | [] => (.broken, none)
    | .value :: _ => blockField fuel r.skip
    | _ => (.empty, some r)

/-- The entries of an indented mapping. -/
def blockEntries : (fuel : Nat) → Reading → Read (List (Node × Node))
  | 0, _ => stopAtKey
  | fuel + 1, r =>
    match r.tokens with
    | .key :: _ =>
      match blockField fuel r.skip with
      | (key, none) => ([(key, .broken)], none)
      | (key, some r) =>
        match blockValue fuel r with
        | (value, none) => ([(key, value)], none)
        | (value, some r) =>
          let (entries, left) := blockEntries fuel r
          ((key, value) :: entries, left)
    | .blockEnd :: _ => ([], some r.skip)
    | _ => stopAtKey

/-- The node after a sign inside brackets, or an empty one if a token that ends it follows. -/
def flowField (ends : Token → Bool) : (fuel : Nat) → Reading → Read Node
  | 0, _ => (.broken, none)
  | fuel + 1, r =>
    match r.tokens with
    | [] => (.broken, none)
    | token :: _ => if ends token then (.empty, some r) else node false false fuel r

/-- The value inside brackets, with the colon before it, or an empty one. -/
def flowValue (ends : Token → Bool) : (fuel : Nat) → Reading → Read Node
  | 0, _ => (.broken, none)
  | fuel + 1, r =>
    match r.tokens with
    | [] => (.broken, none)
    | .value :: _ => flowField ends fuel r.skip
    | _ => (.empty, some r)

/-- A mapping of a single entry that is an item of a sequence in brackets, after the sign for its
key. An empty key takes the token after it away. -/
def pairNode : (fuel : Nat) → Reading → Read Node
  | 0, _ => (.mapping {} [(.broken, .broken)], none)
  | fuel + 1, r =>
    let ends (token : Token) : Bool := token = .flowEntry || token = .flowSequenceEnd
    let key : Read Node :=
      match r.tokens with
      | [] => (.broken, none)
      | token :: _ =>
        if token = .value || ends token then (.empty, some r.skip) else node false false fuel r
    match key with
    | (key, none) => (.mapping {} [(key, .broken)], none)
    | (key, some r) =>
      let (value, left) := flowValue ends fuel r
      (.mapping {} [(key, value)], left)

/-- The items of a sequence in brackets. -/
def flowItems (first : Bool) : (fuel : Nat) → Reading → Read (List Node)
  | 0, _ => stop
  | fuel + 1, r =>
    match r.tokens with
    | .flowSequenceEnd :: _ => ([], some r.skip)
    | token :: _ =>
      if !first && token ≠ .flowEntry then stop
      else
        let r := if first then r else r.skip
        match r.tokens with
        | [] => stop
        | .flowSequenceEnd :: _ => ([], some r.skip)
        | token :: _ =>
          let item := if token = .key then pairNode fuel r.skip else node false false fuel r
          match item with
          | (item, none) => ([item], none)
          | (item, some r) =>
            let (items, left) := flowItems false fuel r
            (item :: items, left)
    | [] => stop

/-- The entries of a mapping in braces. -/
def flowEntries (first : Bool) : (fuel : Nat) → Reading → Read (List (Node × Node))
  | 0, _ => stopAtKey
  | fuel + 1, r =>
    match r.tokens with
    | .flowMappingEnd :: _ => ([], some r.skip)
    | token :: _ =>
      if !first && token ≠ .flowEntry then stopAtKey
      else
        let r := if first then r else r.skip
        match r.tokens with
        | [] => stopAtKey
        | .flowMappingEnd :: _ => ([], some r.skip)
        | token :: _ =>
          let ends (token : Token) : Bool := token = .flowEntry || token = .flowMappingEnd
          let entry : Read (Node × Node) :=
            if token = .key then
              match flowField (fun token => token = .value || ends token) fuel r.skip with
              | (key, none) => ((key, .broken), none)
              | (key, some r) =>
                let (value, left) := flowValue ends fuel r
                ((key, value), left)
            else
              match node false false fuel r with
              | (key, none) => ((key, .broken), none)
              | (key, some r) =>
                if r.tokens.isEmpty then ((key, .broken), none) else ((key, .empty), some r)
          match entry with
          | (entry, none) => ([entry], none)
          | (entry, some r) =>
            let (entries, left) := flowEntries false fuel r
            (entry :: entries, left)
    | [] => stopAtKey

end

/-! ## Documents -/

/-- The highest minor version that is understood. -/
def maxMinorVersion : Nat := 2

/-- The directives before a document: what handles stand for, and the tokens after them. A version
may be given once and has to be one that is understood, and a handle may be defined once. -/
def directives (versioned : Bool) (handles : List (String × String)) :
    List Token → Option (List (String × String) × List Token)
  | .versionDirective major minor :: rest =>
    if versioned || major ≠ 1 || minor = 0 || maxMinorVersion < minor then none
    else directives true handles rest
  | .tagDirective handle start :: rest =>
    if handles.any fun entry => entry.1 = handle then none
    else directives versioned (handles ++ [(handle, start)]) rest
  | rest => some (handles ++ standardHandles, rest)

/-- The content of a document. -/
def content (r : Reading) : Read Node :=
  node true false (4 * r.tokens.length + 4) r

/-- The content of a document that starts with a marker; it may be empty. -/
def markedContent (r : Reading) : Read Node :=
  match r.tokens with
  | .versionDirective .. :: _ | .tagDirective .. :: _ | .documentStart :: _ | .documentEnd :: _
  | .streamEnd :: _ => (.empty, some r)
  | _ => content r

/-- The first document of a stream. -/
def firstDocument (r : Reading) : Read Node :=
  match directives false [] r.tokens with
  | none => (.broken, none)
  | some (handles, .documentStart :: rest) => markedContent { r with tokens := rest, handles }
  | some (handles, tokens) =>
    if tokens.length = r.tokens.length then content { r with handles } else (.broken, none)

end Reading

/-- What a stream holds. -/
structure Document where
  /-- The first document; `none` if there is none. -/
  root : Option Node
  /-- Whether the stream is well formed and ends with the first document. -/
  complete : Bool

/-- Whether nothing but the end of a stream follows a document. -/
def Reading.isOver (r : Reading) : Bool :=
  match r.tokens.dropWhile fun token => token = .documentEnd with
  | .streamEnd :: _ => true
  | _ => false

/-- What the tokens of a stream hold. -/
def Document.ofTokens (tokens : List Token) : Document :=
  match tokens with
  | .streamEnd :: _ => { root := none, complete := true }
  | _ =>
    let (root, left) := Reading.firstDocument { tokens }
    { root := some root, complete := left.any Reading.isOver }

/-- What a text holds. -/
def Document.ofText (text : String) : Document :=
  .ofTokens (Token.scan text)

end Packfile.Yaml
