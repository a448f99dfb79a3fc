import MaskedInput.Notation
import MaskedInput.Pattern.Error

/-!
# The grammar of patterns

A pattern is a row of items: plain characters, escaped characters, and groups of escaped characters
and symbols.  This module says what an item looks like and which slots it stands for, without
reading a pattern.

* `Atom`, `Item` — the parts of a group, and of a pattern.
* `Item.text`, **`textOf`** — how items are written.
* `Item.slots?`, **`meaning?`** — the slots they stand for, if they are well formed.
-/

namespace MaskedInput.Pattern

/-- The characters that are not themselves in a pattern: the escape sign and the brackets. -/
def isSpecial (c : Char) : Bool := ['\\', '[', ']', '\x7b', '\x7d'].contains c

inductive Atom where
  | escaped (char : Char)
  | symbol (char : Char)
  deriving DecidableEq, Repr

inductive Item where
  | plain (char : Char)
  | escaped (char : Char)
  | group (bracket : Bracket) (atoms : List Atom)
  deriving DecidableEq, Repr

/-! ## How items are written -/

def Atom.text : Atom → List Char
  | escaped c => ['\\', c]
  | symbol c => [c]

def Item.text : Item → List Char
  | plain c => [c]
  | escaped c => ['\\', c]
  | group bracket atoms => bracket.opening :: atoms.flatMap Atom.text ++ [bracket.closing]

/-- **The pattern that items make up.** -/
def textOf (items : List Item) : List Char := items.flatMap Item.text

/-! ## What they stand for -/

/-- The slot of an atom.  A special character is no symbol, whatever the notations say. -/
def Atom.slot? (notations : List Notation) (bracket : Bracket) : Atom → Option Slot
  | escaped c => some (.literal c)
  | symbol c =>
    if isSpecial c then none else Notation.resolve? notations (bracket = .curly) c

def Item.slots? (notations : List Notation) : Item → Option (List Slot)
  | plain c => if isSpecial c then none else some [.literal c]
  | escaped c => some [.literal c]
  | group bracket atoms => atoms.mapM (Atom.slot? notations bracket)

/-- **The slots that items stand for.** -/
def meaning? (notations : List Notation) (items : List Item) : Option (List Slot) :=
  List.flatten <$> items.mapM (Item.slots? notations)

end MaskedInput.Pattern
