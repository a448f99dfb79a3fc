import MaskedInput.Yaml.Node.Parser
import MaskedInput.Yaml.Token.Lexer

/-!
# Documents

In a document every alias has found its node.  Anchors are numbered in the order of the text, and
an alias means the number that its name had last in front of it.  A number is the count of the
names used before.  So an anchor that reuses a name may share its number with a later one, and a
number stands for the last node that has it.

* `Document` — a tree with numbered aliases, and the nodes of the numbers.
* **`Document.ofText?`** — the only document of a text, or nothing if the text is no YAML.
* `Document.follow?` — the node that an alias stands for.
-/

namespace MaskedInput.Yaml

/-- The numbers of the anchor names so far. -/
abbrev Anchors := List (List Char × Nat)

namespace Anchors

/-- Gives a number to an anchor; a name that is used again changes its number. -/
def number (anchors : Anchors) (name : List Char) : Anchors × Nat :=
  let n := anchors.length
  if (anchors.lookup name).isSome then
    (anchors.map fun (other, m) => if other = name then (other, n) else (other, m), n)
  else ((name, n) :: anchors, n)

/-- Gives a number to the anchor of a node, if it has one. -/
def register (anchors : Anchors) (properties : Properties) : Anchors × Option Nat :=
  match properties.anchor with
  | none => (anchors, none)
  | some name =>
    let (anchors, n) := anchors.number name
    (anchors, some n)

end Anchors

/-- The nodes of the anchors, in the order of the text. -/
abbrev Targets := List (Nat × Node Nat)

/-- What becomes of a part of a tree: its aliases numbered, the names as they are behind it, and
the nodes of its anchors. -/
structure Resolved (α : Type) where
  value : α
  anchors : Anchors
  targets : Targets

/-- A node with its own anchor in front of those inside. -/
def Resolved.ofNode (node : Node Nat) (number : Option Nat) (anchors : Anchors)
    (inside : Targets) : Resolved (Node Nat) where
  value := node
  anchors := anchors
  targets := number.toList.map (·, node) ++ inside

mutual

/-- Numbers the aliases of a node.  An alias whose name has no anchor in front of it is an error. -/
def Node.resolve? (anchors : Anchors) : Node (List Char) → Option (Resolved (Node Nat))
  | .alias name => do return ⟨.alias (← anchors.lookup name), anchors, []⟩
  | .scalar properties style text =>
    let (anchors, number) := anchors.register properties
    some (.ofNode (.scalar properties style text) number anchors [])
  | .sequence properties items => do
    let (anchors, number) := anchors.register properties
    let items ← resolveItems? anchors items
    return .ofNode (.sequence properties items.value) number items.anchors items.targets
  | .mapping properties entries => do
    let (anchors, number) := anchors.register properties
    let entries ← resolveEntries? anchors entries
    return .ofNode (.mapping properties entries.value) number entries.anchors entries.targets

def Node.resolveItems? (anchors : Anchors) : List (Node (List Char)) →
    Option (Resolved (List (Node Nat)))
  | [] => some ⟨[], anchors, []⟩
  | item :: items => do
    let item ← item.resolve? anchors
    let items ← resolveItems? item.anchors items
    return ⟨item.value :: items.value, items.anchors, item.targets ++ items.targets⟩

def Node.resolveEntries? (anchors : Anchors) : List (Node (List Char) × Node (List Char)) →
    Option (Resolved (List (Node Nat × Node Nat)))
  | [] => some ⟨[], anchors, []⟩
  | (key, value) :: entries => do
    let key ← key.resolve? anchors
    let value ← value.resolve? key.anchors
    let entries ← resolveEntries? value.anchors entries
    return ⟨(key.value, value.value) :: entries.value, entries.anchors,
      key.targets ++ value.targets ++ entries.targets⟩

end

/-- A tree with numbered aliases, and the nodes of the numbers. -/
structure Document where
  root : Node Nat
  targets : Targets
  deriving Inhabited

namespace Document

def ofTree? (tree : Node (List Char)) : Option Document := do
  let resolved ← tree.resolve? []
  return ⟨resolved.value, resolved.targets⟩

/-- **The only document of a text.** -/
def ofText? (text : List Char) : Option Document := do
  ofTree? (← Parser.document? (← Token.ofText? text))

/-- The node of a number: the last one that has it. -/
def follow? (d : Document) (number : Nat) : Option (Node Nat) := d.targets.reverse.lookup number

/-- How many aliases may be followed while a document is read: a hundred for each of its parts. -/
def aliasLimit (d : Document) : Nat := 100 * d.root.size

end Document

end MaskedInput.Yaml
