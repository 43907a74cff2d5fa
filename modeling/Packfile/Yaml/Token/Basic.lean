/-!
# Tokens of YAML

The text of a stream is cut into tokens. Indentation has become tokens that open and close blocks,
so what follows needs no columns any more.
-/

namespace Packfile.Yaml

/-- A tag as it is written: a handle that stands for the start of it, and the rest. A tag that is
written out has no handle. -/
structure WrittenTag where
  handle : String
  suffix : String
  deriving DecidableEq, Repr

/-- A token. -/
inductive Token where
  | versionDirective (major minor : Nat)
  | tagDirective (handle start : String)
  | documentStart
  | documentEnd
  | streamEnd
  | blockSequenceStart
  | blockMappingStart
  | blockEnd
  | flowSequenceStart
  | flowSequenceEnd
  | flowMappingStart
  | flowMappingEnd
  | blockEntry
  | flowEntry
  | key
  | value
  | alias (name : String)
  | anchor (name : String)
  | tag (written : WrittenTag)
  /-- A scalar, and whether it is plain. -/
  | scalar (plain : Bool) (text : String)
  deriving DecidableEq, Repr

end Packfile.Yaml
