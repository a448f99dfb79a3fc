/-!
# Layouts

A layout is the text that a mask shows for some input, cell by cell.  Each cell remembers the slot
it belongs to, and a value cell also where in the input its character was found.  Everything the
editor asks is read off the cells.

* `Layout.text`, `Layout.value` — what is shown, and the typed characters among it.
* `Layout.valuesBefore`, `Layout.slotAt`, `Layout.valueBeforeLiterals?` — positions in the text
  turned into positions in the value and in the mask.
* **`Layout.caret`** — the way back: a boundary of the input turned into a position in the text.
* `Layout.reversed` — the layout read from its other end.
-/

namespace MaskedInput

/-- One character of a formatted text. -/
structure Cell where
  char : Char
  slot : Nat
  /-- Where the input holds the character, if it was typed; literals have no source. -/
  source : Option Nat
  deriving DecidableEq, Repr, Inhabited

/-- Whether the cell shows a typed character. -/
def Cell.isValue (c : Cell) : Bool := c.source.isSome

/-- The side of a run of literals on which the caret comes to rest. -/
inductive Gravity where
  /-- In front of the next typed character, behind the literals. -/
  | forward
  /-- Behind the last typed character, in front of the literals. -/
  | backward
  deriving DecidableEq, Repr, Inhabited

/-- What a field displays, and the value behind it. -/
structure Display where
  text : List Char
  value : List Char
  /-- A position in `text`, counted in characters. -/
  caret : Nat
  complete : Bool
  deriving DecidableEq, Repr, Inhabited

/-- The text that a mask shows for an input, and whether its mandatory slots are all filled. -/
structure Layout where
  cells : List Cell
  complete : Bool
  deriving DecidableEq, Repr, Inhabited

namespace Layout

/-! ## What is shown -/

def text (l : Layout) : List Char := l.cells.map (·.char)

/-- The cells that show typed characters. -/
def valueCells (l : Layout) : List Cell := l.cells.filter Cell.isValue

/-- The typed characters that are shown. -/
def value (l : Layout) : List Char := l.valueCells.map (·.char)

/-! ## From the text to the value and the mask -/

/-- How many typed characters stand in front of a position of the text. -/
def valuesBefore (l : Layout) (position : Nat) : Nat :=
  (l.cells.take position).countP Cell.isValue

/-- The slot of the cell at a position of the text. -/
def cellSlot? (l : Layout) (position : Nat) : Option Nat := l.cells[position]?.map (·.slot)

/-- The slot behind the last cell. -/
def resume (cells : List Cell) : Nat := (cells.getLast?.map (·.slot + 1)).getD 0

/-- The slot at a position of the text; at its end, the slot behind the last cell. -/
def slotAt (l : Layout) (position : Nat) : Nat := (l.cellSlot? position).getD (resume l.cells)

/-- The position of the last value cell. -/
def lastValue? : List Cell → Option Nat
  | [] => none
  | c :: rest =>
    match lastValue? rest with
    | some position => some (position + 1)
    | none => if c.isValue then some 0 else none

/-- For the position of a literal, that of the typed character in front of its run. -/
def valueBeforeLiterals? (l : Layout) (position : Nat) : Option Nat :=
  match l.cells[position]? with
  | none => none
  | some c => if c.isValue then none else lastValue? (l.cells.take position)

/-! ## From the input to the text -/

/-- The position of the first typed character that the input holds at `intent` or later; the end
of the text when there is none. -/
def caretForward (l : Layout) (intent : Nat) : Nat :=
  l.cells.findIdx fun c => c.source.any (intent ≤ ·)

/-- The position behind the last typed character in front of `caretForward`.  Where none is in
front of it, the caret rests at the first typed character, and at the start of a text that shows
none. -/
def caretBackward (l : Layout) (intent : Nat) : Nat :=
  match lastValue? (l.cells.take (l.caretForward intent)) with
  | some position => position + 1
  | none => if l.cells.any Cell.isValue then l.caretForward intent else 0

/-- **The caret.**  A boundary of the input, given as the number of characters in front of it, is
turned into a position of the text. -/
def caret (l : Layout) (intent : Nat) : Gravity → Nat
  | .forward => l.caretForward intent
  | .backward => l.caretBackward intent

/-- What is displayed when the caret belongs at a boundary of the input. -/
def display (l : Layout) (intent : Nat) (gravity : Gravity) : Display where
  text := l.text
  value := l.value
  caret := l.caret intent gravity
  complete := l.complete

/-! ## The other end -/

/-- The layout read from its other end, for a mask of `slotCount` slots and an input of
`inputLength` characters. -/
def reversed (l : Layout) (slotCount inputLength : Nat) : Layout where
  cells := l.cells.reverse.map fun c =>
    { c with slot := slotCount - 1 - c.slot, source := c.source.map (inputLength - 1 - ·) }
  complete := l.complete

end Layout

end MaskedInput
