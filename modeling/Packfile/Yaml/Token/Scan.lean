import Packfile.Yaml.Token.Properties

/-!
# From text to tokens

Whether a node is the key of a mapping shows only when the colon after it is reached. So the start
of every node that might be a key is remembered as a candidate, and tokens are held back as long as
one of them may still turn out to stand behind a key token. A candidate lapses at the end of its
line and after 1024 characters.

A stream may be malformed at some point. Then the tokens before that point count as far as they
were not held back, since readers of a stream see what comes before a fault.
-/

namespace Packfile.Yaml

/-- The start of a node that may turn out to be a key. -/
structure KeyCandidate where
  /-- The number of tokens before the node. -/
  position : Nat
  line : Nat
  column : Nat
  /-- Whether the node can be nothing but a key, being indented like the keys before it. -/
  required : Bool

/-- The furthest that the colon may be from the start of its key. -/
def maxKeyLength : Nat := 1024

/-- Whether the candidate has lapsed when the text is read up to a place. -/
def KeyCandidate.isStale (candidate : KeyCandidate) (here : Cursor) : Bool :=
  candidate.line < here.line || candidate.column + maxKeyLength < here.column

/-- How far the text has been cut into tokens. -/
structure Scanner where
  here : Cursor
  /-- The tokens that are held back. -/
  held : List Token := []
  /-- The number of tokens that have been released. -/
  released : Nat := 0
  /-- The candidate of every open bracket, the innermost first, and of the block around them. -/
  candidates : List (Option KeyCandidate) := [none]
  /-- The columns of the open blocks, the innermost first. -/
  blocks : List Nat := []
  /-- Whether a node that starts here may be a key. -/
  keyAllowed : Bool := true
  /-- Whether the end has been reached. -/
  ended : Bool := false

namespace Scanner

/-- Whether the place is inside brackets. -/
def inFlow (s : Scanner) : Bool :=
  1 < s.candidates.length

/-- The column up to which lines end the innermost block. -/
def minimumIndent (s : Scanner) : Nat :=
  s.blocks.head?.elim 0 (· + 1)

/-- Adds a token. -/
def push (s : Scanner) (token : Token) : Scanner :=
  { s with held := s.held ++ [token] }

/-- Adds a token in front of the one at the position. -/
def insert (s : Scanner) (position : Nat) (token : Token) : Scanner :=
  let index := position - s.released
  { s with held := s.held.take index ++ token :: s.held.drop index }

/-- The position of the next token. -/
def position (s : Scanner) : Nat :=
  s.released + s.held.length

/-! ## Candidates -/

/-- Gives up the candidate here; nothing if it had to be a key. -/
def dropCandidate (s : Scanner) : Option Scanner :=
  match s.candidates with
  | some candidate :: outer =>
    if candidate.required then none else some { s with candidates := none :: outer }
  | _ => some s

/-- Makes a candidate of the node that starts here. -/
def saveCandidate (s : Scanner) : Option Scanner :=
  if s.keyAllowed then do
    let s ← s.dropCandidate
    let candidate : KeyCandidate :=
      { position := s.position
        line := s.here.line
        column := s.here.column
        required := !s.inFlow && s.blocks.head? = some s.here.column }
    return { s with candidates := some candidate :: s.candidates.drop 1 }
  else some s

/-- Gives up the candidates that have lapsed; nothing if one of them had to be a key. -/
def dropStale (s : Scanner) : Option Scanner := do
  let candidates ← s.candidates.mapM fun
    | some candidate =>
      if candidate.isStale s.here then (if candidate.required then none else some none)
      else some (some candidate)
    | none => some none
  return { s with candidates }

/-- The tokens that need not be held back any longer. -/
def release (s : Scanner) : List Token × Scanner :=
  let count := (s.candidates.filterMap id).foldl
    (fun count candidate => min count (candidate.position - s.released)) s.held.length
  (s.held.take count, { s with held := s.held.drop count, released := s.released + count })

/-! ## Blocks -/

/-- Opens a block at a column that is deeper than the blocks so far, with its token at the
position. -/
def openBlock (s : Scanner) (column position : Nat) (token : Token) : Scanner :=
  if !s.inFlow && s.minimumIndent ≤ column then
    { s.insert position token with blocks := column :: s.blocks }
  else s

/-- Closes the blocks that begin further right than a column. -/
def closeBlocks (s : Scanner) (column : Nat) : Scanner :=
  if s.inFlow then s
  else
    let closed := s.blocks.takeWhile (column < ·)
    { s with
      held := s.held ++ closed.map fun _ => .blockEnd
      blocks := s.blocks.drop closed.length }

/-- Closes all blocks. -/
def closeAllBlocks (s : Scanner) : Scanner :=
  if s.inFlow then s
  else { s with held := s.held ++ s.blocks.map (fun _ => .blockEnd), blocks := [] }

/-! ## Tokens -/

/-- Goes on to the next token, past space, comments and line ends. At the start of a line in a
block a tab is no space. -/
def skipToToken : (fuel : Nat) → Scanner → Scanner
  | 0, s => s
  | fuel + 1, s =>
    let here := (s.here.skipWhile fun c =>
      c = ' ' || ((s.inFlow || !s.keyAllowed) && c = '\t')).skipComment
    match here.peek? with
    | some c =>
      if isBreak c then
        skipToToken fuel { s with here := here.nextLine, keyAllowed := s.keyAllowed || !s.inFlow }
      else { s with here }
    | none => { s with here }

/-- A token of a number of characters that is no part of a key. -/
def indicator (s : Scanner) (length : Nat) (token : Token) (keyAllowed : Bool) :
    Option Scanner := do
  let s ← s.dropCandidate
  return { s.push token with here := s.here.skip length, keyAllowed }

/-- The end of the stream. -/
def streamEnd (s : Scanner) : Option Scanner := do
  let here := if s.here.column = 0 then s.here else { s.here with line := s.here.line + 1, column := 0 }
  let s ← { s.closeAllBlocks with here }.dropCandidate
  return { s.push .streamEnd with keyAllowed := false, ended := true }

/-- A directive. -/
def directive (s : Scanner) : Option Scanner := do
  let s ← s.closeAllBlocks.dropCandidate
  let (token, here) ← readDirective (s.here.skip 1)
  return { s.push token with here, keyAllowed := false }

/-- A line that separates documents. -/
def documentMarker (s : Scanner) (token : Token) : Option Scanner :=
  s.closeAllBlocks.indicator 3 token false

/-- An opening bracket. -/
def openBracket (s : Scanner) (token : Token) : Option Scanner := do
  let s ← s.saveCandidate
  return { s.push token with
    here := s.here.skip 1, candidates := none :: s.candidates, keyAllowed := true }

/-- A closing bracket. -/
def closeBracket (s : Scanner) (token : Token) : Option Scanner := do
  let s ← s.dropCandidate
  return { s.push token with
    here := s.here.skip 1
    candidates := if s.inFlow then s.candidates.drop 1 else s.candidates
    keyAllowed := false }

/-- The dash before an item of a block. -/
def blockEntry (s : Scanner) : Option Scanner :=
  if s.inFlow || s.keyAllowed then
    (s.openBlock s.here.column s.position .blockSequenceStart).indicator 1 .blockEntry true
  else none

/-- The question mark before a key. -/
def explicitKey (s : Scanner) : Option Scanner :=
  if s.inFlow || s.keyAllowed then
    (s.openBlock s.here.column s.position .blockMappingStart).indicator 1 .key (!s.inFlow)
  else none

/-- The colon before a value, which turns a candidate into a key. -/
def value (s : Scanner) : Option Scanner :=
  let colon (s : Scanner) (keyAllowed : Bool) : Scanner :=
    { s.push .value with here := s.here.skip 1, keyAllowed }
  match s.candidates with
  | some candidate :: outer =>
    let s := s.insert candidate.position .key
    let s := s.openBlock candidate.column candidate.position .blockMappingStart
    some (colon { s with candidates := none :: outer } false)
  | _ =>
    if s.inFlow then some (colon s false)
    else if s.keyAllowed then
      some (colon (s.openBlock s.here.column s.position .blockMappingStart) true)
    else none

/-- A token that a node may start with. -/
def nodeStart (s : Scanner) (read : Cursor → Option (Token × Cursor)) : Option Scanner := do
  let s ← s.saveCandidate
  let (token, here) ← read s.here
  return { s.push token with here, keyAllowed := false }

/-- An anchor or an alias. -/
def name (s : Scanner) (token : String → Token) : Option Scanner :=
  s.nodeStart fun here => do
    let (name, here) ← readName (here.skip 1)
    return (token name, here)

/-- The token of a scalar that is quoted or a block. -/
def markedScalar (text : ScalarText) : Token × Cursor :=
  (.scalar false (String.ofList text.1), text.2)

/-- A block scalar. -/
def blockScalar (s : Scanner) (folding : Bool) : Option Scanner := do
  let s ← s.dropCandidate
  let text ← readBlock folding s.minimumIndent (s.here.skip 1)
  let (token, here) := markedScalar text
  return { s.push token with here, keyAllowed := true }

/-- A quoted scalar. -/
def quotedScalar (s : Scanner) (double : Bool) : Option Scanner :=
  s.nodeStart fun here => do
    let start := here.skip 1
    let text ←
      if double then readDoubleQuoted start.rest start.line start.column .empty .outside []
      else readSingleQuoted start.rest start.line start.column .empty []
    return markedScalar text

/-- A plain scalar. If its last line has ended, a key may follow. -/
def plainScalar (s : Scanner) : Option Scanner := do
  let s ← s.saveCandidate
  let ((text, here), lineEnded) ←
    readPlain s.inFlow s.minimumIndent s.here.rest s.here.line s.here.column .empty []
  return { s.push (.scalar true (String.ofList text)) with here, keyAllowed := lineEnded }

/-- Whether a plain scalar may start here. -/
def startsPlain (s : Scanner) (c : Char) (rest : List Char) : Bool :=
  !(isGap c || "-?:,[]\x7b\x7d#&*!|>'\"%@\x60".toList.contains c)
    || (c = '-' && !rest.head?.any isSpace)
    || (!s.inFlow && (c = '?' || c = ':') && !startsWithGap rest)

/-- The token that starts with the character here. -/
def dispatch (s : Scanner) (c : Char) (rest : List Char) : Option Scanner :=
  if s.here.column = 0 && c = '%' then s.directive
  else if s.here.column = 0 && isDocumentMarker "---" (c :: rest) then
    s.documentMarker .documentStart
  else if s.here.column = 0 && isDocumentMarker "..." (c :: rest) then
    s.documentMarker .documentEnd
  else if c = '[' then s.openBracket .flowSequenceStart
  else if c = '\x7b' then s.openBracket .flowMappingStart
  else if c = ']' then s.closeBracket .flowSequenceEnd
  else if c = '\x7d' then s.closeBracket .flowMappingEnd
  else if c = ',' then s.indicator 1 .flowEntry true
  else if c = '-' && startsWithGap rest then s.blockEntry
  else if c = '?' && (s.inFlow || startsWithGap rest) then s.explicitKey
  else if c = ':' && (s.inFlow || startsWithGap rest) then s.value
  else if c = '*' then s.name .alias
  else if c = '&' then s.name .anchor
  else if c = '!' then
    s.nodeStart fun here => (readTag s.inFlow here).map fun (tag, here) => (.tag tag, here)
  else if c = '|' && !s.inFlow then s.blockScalar false
  else if c = '>' && !s.inFlow then s.blockScalar true
  else if c = '\'' then s.quotedScalar false
  else if c = '"' then s.quotedScalar true
  else if s.startsPlain c rest then s.plainScalar
  else none

/-- Reads the next token. -/
def next (s : Scanner) : Option Scanner := do
  let s ← (skipToToken (s.here.rest.length + 1) s).dropStale
  let s := s.closeBlocks s.here.column
  match s.here.rest with
  | [] => s.streamEnd
  | c :: rest => s.dispatch c rest

/-- The tokens from here on, up to the end or to the place where the text is malformed. -/
def run : (fuel : Nat) → Scanner → List Token
  | 0, _ => []
  | fuel + 1, s =>
    match s.next.bind dropStale with
    | none => []
    | some s =>
      let (tokens, s) := s.release
      if s.ended then tokens ++ s.held else tokens ++ run fuel s

end Scanner

/-- The tokens of a text. They end with the end of the stream unless the text is malformed. -/
def Token.scan (text : String) : List Token :=
  let characters := normalizeBreaks text.toList
  if text.toList.all isAllowed then
    let start : Cursor :=
      match characters with
      | c :: rest => if c = byteOrderMark then { rest, column := 1 } else { rest := characters }
      | [] => { rest := [] }
    Scanner.run (characters.length + 2) { here := start }
  else []

end Packfile.Yaml
