import MaskedInput.Pattern.Compile

/-!
# Masks

A mask is the row of slots that a pattern stands for, with two options: whether the literals
behind the last typed character are shown, and from which end the slots are filled.

* `Mask.compile` — the mask of a pattern, under a list of notations.
* `Mask.placeholder` — the text that shows the shape of the mask.
* The four lengths — the least and the most of value characters, and of text.
* `Mask.reversed` — the mask read from its other end.
-/

namespace MaskedInput

/-- A compiled pattern with its options. -/
structure Mask where
  pattern : List Char
  slots : List Slot
  /-- Whether the literals behind the last typed character are shown. -/
  autocomplete : Bool := true
  /-- Whether the slots are filled from the end of the mask. -/
  rightToLeft : Bool := false
  deriving DecidableEq, Repr, Inhabited

namespace Mask

/-- The mask of a pattern, filled from the left and with its trailing literals shown. -/
def compile (notations : List Notation) (pattern : List Char) : Except PatternError Mask :=
  (fun slots => { pattern, slots }) <$> Pattern.slots notations pattern

/-- Whether a pattern compiles with the built-in symbols alone. -/
def isValid (pattern : List Char) : Bool := (compile [] pattern).isOk

/-- Whether anything can be typed into the mask. -/
def hasValueSlots (m : Mask) : Bool := m.slots.any (!·.isLiteral)

/-- Whether some slot of the mask takes the character. -/
def acceptsAnywhere (m : Mask) (c : Char) : Bool := m.slots.any (·.accepts c)

/-- Literals as they are, value slots as the symbols of their classes. -/
def placeholder (m : Mask) : List Char := m.slots.map Slot.symbol

/-- How many characters a complete value has at least. -/
def minValueLength (m : Mask) : Nat := m.slots.countP Slot.isMandatory

/-- How many characters a value has at most. -/
def maxValueLength (m : Mask) : Nat := m.slots.countP (!·.isLiteral)

/-- The length of the text with all literals and no optional character. -/
def minTextLength (m : Mask) : Nat := m.slots.countP fun s => s.isLiteral || s.isMandatory

/-- The length of the text with every slot filled. -/
def maxTextLength (m : Mask) : Nat := m.slots.length

/-- The slots in reverse order, to be filled from the left. -/
def reversed (m : Mask) : Mask := { m with slots := m.slots.reverse, rightToLeft := false }

end Mask

end MaskedInput
