import MaskedInput.Yaml.Token.Basic

/-!
# YAML trees

The content of a YAML text is a tree of scalars, sequences and mappings.  A node may carry a tag
and an anchor, and an alias stands for the node with a certain anchor.  What an alias refers to is
left open here: first it is a name, later the place of that name's anchor.

* `Node` — the trees; `Node.empty` — the node where nothing is written.
* `Node.size` — a measure of the text that a tree takes up.
-/

namespace MaskedInput.Yaml

/-- What may be written in front of a node. -/
structure Properties where
  anchor : Option (List Char) := none
  tag : Option Octets := none
  deriving DecidableEq, Repr, Inhabited

/-- A tree whose aliases are of type `ref`. -/
inductive Node (ref : Type) where
  | alias (target : ref)
  | scalar (properties : Properties) (style : Style) (text : List Char)
  | sequence (properties : Properties) (items : List (Node ref))
  | mapping (properties : Properties) (entries : List (Node ref × Node ref))
  deriving Repr, Inhabited

namespace Node

variable {ref : Type}

/-- The node where nothing is written but perhaps an anchor or a tag. -/
def empty (properties : Properties := {}) : Node ref := .scalar properties .plain []

/-- Whether nothing is written for the node. -/
def isEmpty : Node ref → Bool
  | .scalar _ .plain [] => true
  | _ => false

mutual

/-- The number of scalars and aliases, and of the starts and ends of sequences and mappings. -/
def size : Node ref → Nat
  | .alias _ => 1
  | .scalar _ _ _ => 1
  | .sequence _ items => 2 + sizeOfItems items
  | .mapping _ entries => 2 + sizeOfEntries entries

def sizeOfItems : List (Node ref) → Nat
  | [] => 0
  | item :: items => item.size + sizeOfItems items

def sizeOfEntries : List (Node ref × Node ref) → Nat
  | [] => 0
  | (key, value) :: entries => key.size + value.size + sizeOfEntries entries

end

end Node

end MaskedInput.Yaml
