/-!
# Nodes

A document is a tree of scalars, sequences and mappings. A node may be anchored, and an alias stands
for the node that is anchored in its slot. Where a text stops making sense the tree has a broken
node, and nothing follows it in the sequences and mappings around it.
-/

namespace Packfile.Yaml

/-- What stands before a node. -/
structure Properties where
  /-- The full text of the tag, if there is one. -/
  tag : Option String := none
  /-- The slot that aliases of the node refer to. -/
  slot : Option Nat := none
  deriving DecidableEq, Repr

/-- A node of a document. -/
inductive Node where
  /-- A scalar; only a plain one may stand for something other than its text. -/
  | scalar (properties : Properties) (plain : Bool) (text : String)
  | sequence (properties : Properties) (items : List Node)
  | mapping (properties : Properties) (entries : List (Node × Node))
  | alias (slot : Nat)
  | broken
  deriving Inhabited, Repr

namespace Node

/-- The node that is meant where nothing is written. -/
def empty : Node := .scalar {} true ""

/-- Whether there is no broken node in the tree. -/
def isWhole : Node → Bool
  | .scalar .. | .alias _ => true
  | .sequence _ items => wholeItems items
  | .mapping _ entries => wholeEntries entries
  | .broken => false
where
  wholeItems : List Node → Bool
    | [] => true
    | item :: rest => item.isWhole && wholeItems rest
  wholeEntries : List (Node × Node) → Bool
    | [] => true
    | (key, value) :: rest => key.isWhole && value.isWhole && wholeEntries rest

/-- The number of steps of a walk over the tree: one for each scalar and alias, and for every
sequence and mapping one at its start and one at its end, if it is reached. -/
def walkLength : Node → Nat
  | .scalar .. | .alias _ => 1
  | .sequence properties items =>
    1 + lengthOfItems items + (isWhole (.sequence properties items)).toNat
  | .mapping properties entries =>
    1 + lengthOfEntries entries + (isWhole (.mapping properties entries)).toNat
  | .broken => 0
where
  lengthOfItems : List Node → Nat
    | [] => 0
    | item :: rest => item.walkLength + lengthOfItems rest
  lengthOfEntries : List (Node × Node) → Nat
    | [] => 0
    | (key, value) :: rest => key.walkLength + value.walkLength + lengthOfEntries rest

/-- The slot of a node together with the node, if it has one. -/
def anchored (properties : Properties) (node : Node) : List (Nat × Node) :=
  properties.slot.toList.map fun slot => (slot, node)

/-- The anchored nodes of the tree with their slots, in the order of the text. -/
def anchors : Node → List (Nat × Node)
  | .scalar properties plain text => anchored properties (.scalar properties plain text)
  | .sequence properties items =>
    anchored properties (.sequence properties items) ++ anchorsOfItems items
  | .mapping properties entries =>
    anchored properties (.mapping properties entries) ++ anchorsOfEntries entries
  | .alias _ | .broken => []
where
  anchorsOfItems : List Node → List (Nat × Node)
    | [] => []
    | item :: rest => item.anchors ++ anchorsOfItems rest
  anchorsOfEntries : List (Node × Node) → List (Nat × Node)
    | [] => []
    | (key, value) :: rest => key.anchors ++ value.anchors ++ anchorsOfEntries rest

end Node

end Packfile.Yaml
