import MaskedInput.Notation
import MaskedInput.Pattern.Error

/-!
# Patterns and the slots they stand for

A pattern is read from left to right.  Outside of groups a character is a literal slot; inside a
group it is a symbol and stands for a value slot of its own.  Groups do not nest.  A backslash
makes a literal of the next character, whatever that is and wherever it stands.

* `Role` — what a character does in a pattern, before it is known where it stands.
* `Pattern.slotsFrom` — the slots of the rest of a pattern, given the group that is open there.
* **`Pattern.slots`** — the slots of a pattern, or the first error.
-/

namespace MaskedInput.Pattern

/-- What a character does in a pattern. -/
inductive Role where
  | escape
  | opens (bracket : Bracket)
  | closes (bracket : Bracket)
  | ordinary
  deriving DecidableEq, Repr

def Role.of (c : Char) : Role :=
  if c = '\\' then escape
  else if c = Bracket.square.opening then opens .square
  else if c = Bracket.curly.opening then opens .curly
  else if c = Bracket.square.closing then closes .square
  else if c = Bracket.curly.closing then closes .curly
  else ordinary

/-- A group that is still open: its bracket and where it was opened. -/
structure OpenGroup where
  bracket : Bracket
  position : Nat
  deriving DecidableEq, Repr

/-- The slots of the rest of a pattern that starts at offset `i`, with `group` open there. -/
def slotsFrom (notations : List Notation) :
    Option OpenGroup → Nat → List Char → Except PatternError (List Slot)
  | none, _, [] => .ok []
  | some g, _, [] => .error ⟨.unclosedBracket g.bracket, g.position⟩
  | group, i, c :: rest =>
    match Role.of c, group with
    | .escape, _ =>
      match rest with
      | [] => .error ⟨.unterminatedEscape, i⟩
      | escaped :: rest => (Slot.literal escaped :: ·) <$> slotsFrom notations group (i + 2) rest
    | .opens b, none => slotsFrom notations (some ⟨b, i⟩) (i + 1) rest
    | .opens b, some _ => .error ⟨.nestedBracket b, i⟩
    | .closes b, none => .error ⟨.unmatchedBracket b, i⟩
    | .closes b, some g =>
      if g.bracket = b then slotsFrom notations none (i + 1) rest
      else .error ⟨.mismatchedBracket g.bracket, i⟩
    | .ordinary, none => (Slot.literal c :: ·) <$> slotsFrom notations none (i + 1) rest
    | .ordinary, some g =>
      match Notation.resolve? notations (g.bracket = .curly) c with
      | none => .error ⟨.unknownSymbol c, i⟩
      | some slot => (slot :: ·) <$> slotsFrom notations (some g) (i + 1) rest

/-- **The slots of a pattern.**  The notations are asked before the built-in symbols. -/
def slots (notations : List Notation) (pattern : List Char) : Except PatternError (List Slot) :=
  slotsFrom notations none 0 pattern

end MaskedInput.Pattern
