import MaskedInput.Slot

/-!
# The symbols of a pattern

Inside a group every symbol stands for a value slot.  There are six symbols to begin with, two for
each class; users add their own, and a symbol of theirs hides a built-in one of the same name.

| symbol | class        | in a square group | in a curly group |
|--------|--------------|-------------------|------------------|
| `0`    | digit        | mandatory         | optional         |
| `9`    | digit        | optional          | optional         |
| `A`    | letter       | mandatory         | optional         |
| `a`    | letter       | optional          | optional         |
| `_`    | alphanumeric | mandatory         | optional         |
| `-`    | alphanumeric | optional          | optional         |

* `Notation` — a symbol defined by the user.
* `Notation.resolve?` — the slot that a symbol stands for.
-/

namespace MaskedInput

/-- A symbol of the user's own, for slots that take exactly the given characters. -/
structure Notation where
  symbol : Char
  characters : List Char
  optional : Bool := false
  deriving DecidableEq, Repr, Inhabited

namespace Notation

/-- The class of a built-in symbol, and whether its slots are optional in a square group. -/
def builtIn? : Char → Option (CharClass × Bool)
  | '0' => some (.digit, false)
  | '9' => some (.digit, true)
  | 'A' => some (.letter, false)
  | 'a' => some (.letter, true)
  | '_' => some (.alphanumeric, false)
  | '-' => some (.alphanumeric, true)
  | _ => none

/-- The class of a user's symbol. -/
def charClass (n : Notation) : CharClass := .custom n.symbol n.characters

/-- The class of a symbol, and whether its slots are optional in a square group.  The first
notation with this symbol decides; the built-in table is asked last. -/
def lookup? (notations : List Notation) (symbol : Char) : Option (CharClass × Bool) :=
  match notations.find? (·.symbol == symbol) with
  | some n => some (n.charClass, n.optional)
  | none => builtIn? symbol

/-- **The slot that a symbol stands for.**  All slots of a curly group are optional. -/
def resolve? (notations : List Notation) (curly : Bool) (symbol : Char) : Option Slot :=
  (lookup? notations symbol).map fun (kind, optional) => .value kind (curly || optional)

end Notation

end MaskedInput
