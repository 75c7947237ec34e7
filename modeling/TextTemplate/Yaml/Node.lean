/-! # Nodes

The content of a document is a tree of scalars, sequences and mappings.  A node may
be anchored so that aliases can stand for it.  Anchors are numbered: the number of an
anchor is the number of names in use when it is met, so a name that is used again can
take the number that another anchor gets later.  An alias stands for the last node
with its number, wherever in the document that is (`Node.targets`). -/
namespace TextTemplate.Yaml

/-- What a tag says about a node. -/
inductive Tag where
  | null
  | truth
  | whole
  | float
  /-- A private name. -/
  | variant (name : String)
  /-- A private name whose octets are no text. -/
  | nameless
  /-- Any other tag; a scalar under it is text. -/
  | other
deriving DecidableEq, Repr

/-- The anchor and the tag of a node. -/
structure Properties where
  anchor : Option Nat
  tag : Option Tag
deriving DecidableEq, Repr

/-- No anchor and no tag. -/
def Properties.none : Properties := ⟨.none, .none⟩

/-- A node of a document. -/
inductive Node where
  | scalar (properties : Properties) (plain : Bool) (text : String)
  | sequence (properties : Properties) (items : List Node)
  | mapping (properties : Properties) (entries : List (Node × Node))
  | alias (anchor : Nat)
deriving Repr

namespace Node

/-- The node that stands where nothing is written. -/
def nothing : Node := .scalar .none true ""

mutual

/-- The number of scalars, aliases, and starts and ends of collections. -/
def size : Node → Nat
  | .scalar _ _ _ => 1
  | .alias _ => 1
  | .sequence _ items => sizeOfItems items + 2
  | .mapping _ entries => sizeOfEntries entries + 2

/-- The size of the items of a sequence. -/
def sizeOfItems : List Node → Nat
  | [] => 0
  | n :: ns => size n + sizeOfItems ns

/-- The size of the entries of a mapping. -/
def sizeOfEntries : List (Node × Node) → Nat
  | [] => 0
  | (k, v) :: es => size k + size v + sizeOfEntries es

end

/-- The entry of an anchored node in the list of anchors. -/
def entryOf (p : Properties) (n : Node) : List (Nat × Node) :=
  p.anchor.toList.map (·, n)

mutual

/-- The anchored nodes in the order in which they start. -/
def anchored : Node → List (Nat × Node)
  | .alias _ => []
  | .scalar p plain text => entryOf p (.scalar p plain text)
  | .sequence p items => entryOf p (.sequence p items) ++ anchoredItems items
  | .mapping p entries => entryOf p (.mapping p entries) ++ anchoredEntries entries

/-- The anchored nodes of the items of a sequence. -/
def anchoredItems : List Node → List (Nat × Node)
  | [] => []
  | n :: ns => anchored n ++ anchoredItems ns

/-- The anchored nodes of the entries of a mapping. -/
def anchoredEntries : List (Node × Node) → List (Nat × Node)
  | [] => []
  | (k, v) :: es => anchored k ++ anchored v ++ anchoredEntries es

end

/-- What an alias with a number stands for: the last node that starts with the
number comes first. -/
def targets (root : Node) : List (Nat × Node) := root.anchored.reverse

end Node
end TextTemplate.Yaml
