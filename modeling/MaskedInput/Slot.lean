import MaskedInput.Text.Alphabetic

/-!
# The slots of a mask

A mask is a row of slots.  A literal slot shows its own character and takes none; a value slot
waits for one character of its class, and may be left empty when it is optional.

* `CharClass` — the classes: digits, letters, either of them, or a set chosen by the user.
* `Slot` — a literal or a value slot, with the questions the other modules ask of it.
-/

namespace MaskedInput

/-- The class of characters that a value slot takes. -/
inductive CharClass where
  | digit
  | letter
  | alphanumeric
  | custom (symbol : Char) (characters : List Char)
  deriving DecidableEq, Repr, Inhabited

namespace CharClass

/-- Whether a character belongs to the class. -/
def accepts : CharClass → Char → Bool
  | digit, c => c.isDigit
  | letter, c => Text.isAlphabetic c
  | alphanumeric, c => c.isDigit || Text.isAlphabetic c
  | custom _ characters, c => characters.contains c

/-- The symbol that stands for the class in a placeholder. -/
def symbol : CharClass → Char
  | digit => '0'
  | letter => 'A'
  | alphanumeric => '_'
  | custom symbol _ => symbol

end CharClass

inductive Slot where
  | literal (char : Char)
  /-- Takes one character of its class; an optional slot may stay empty. -/
  | value (kind : CharClass) (optional : Bool)
  deriving DecidableEq, Repr, Inhabited

namespace Slot

def isLiteral : Slot → Bool
  | literal _ => true
  | value _ _ => false

/-- Whether the slot has to be filled before the mask is complete. -/
def isMandatory : Slot → Bool
  | value _ false => true
  | _ => false

/-- Whether a character can fill the slot; none fills a literal. -/
def accepts : Slot → Char → Bool
  | literal _, _ => false
  | value kind _, c => kind.accepts c

/-- What a placeholder shows for the slot. -/
def symbol : Slot → Char
  | literal c => c
  | value kind _ => kind.symbol

theorem not_accepts_of_isLiteral {s : Slot} (h : s.isLiteral = true) (c : Char) :
    s.accepts c = false := by
  cases s with
  | literal _ => rfl
  | value _ _ => simp [isLiteral] at h

theorem not_isLiteral_of_isMandatory {s : Slot} (h : s.isMandatory = true) :
    s.isLiteral = false := by
  cases s with
  | literal _ => simp [isMandatory] at h
  | value _ _ => rfl

end Slot

end MaskedInput
