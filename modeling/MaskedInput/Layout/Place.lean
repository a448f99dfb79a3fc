import MaskedInput.Mask
import MaskedInput.Layout.Basic

/-!
# Laying an input out over a mask

The slots are visited in order, with the input beside them.  A mandatory slot drops characters
until one fits; an optional slot takes the next character or stays empty.  A literal is shown only
if some character is placed behind it, so the part that is laid out ends with a placed character.
Behind it, the tail policy decides whether the literals up to the next value slot are shown.

A mask that is filled from the right is laid out backwards: its slots and the input in reverse
order, and the layout turned round again.

* `place` — the cells up to the last placed character.
* `Tail` — when the literals behind it are shown.
* **`Mask.layout`** — the layout of an input.
-/

namespace MaskedInput

/-- When the literals behind the last placed character are shown. -/
inductive Tail where
  | hidden
  | afterValue
  /-- Always, so that an empty field shows the literals it starts with. -/
  | eager
  deriving DecidableEq, Repr, Inhabited

/-- Whether the tail is shown behind the placed cells. -/
def Tail.shownAfter : Tail → List Cell → Bool
  | hidden, _ => false
  | afterValue, placed => !placed.isEmpty
  | eager, _ => true

namespace Layout

/-- What a value slot finds in front of it: a mandatory slot has dropped what does not fit. -/
def offered (kind : CharClass) (optional : Bool) (input : List (Char × Nat)) :
    List (Char × Nat) :=
  if optional then input else input.dropWhile (!kind.accepts ·.1)

/-- **The cells up to the last placed character**, for slots that start at index `slot` and an
input whose characters carry their positions. -/
def place : List Slot → (slot : Nat) → (input : List (Char × Nat)) → List Cell
  | [], _, _ => []
  | .literal c :: slots, slot, input =>
    match place slots (slot + 1) input with
    | [] => []
    | cells => ⟨c, slot, none⟩ :: cells
  | .value kind optional :: slots, slot, input =>
    match offered kind optional input with
    | [] => []
    | (c, i) :: rest =>
      if kind.accepts c then ⟨c, slot, some i⟩ :: place slots (slot + 1) rest
      else place slots (slot + 1) ((c, i) :: rest)

/-- The cells of the literals that the slots start with. -/
def literalRun : List Slot → (slot : Nat) → List Cell
  | .literal c :: slots, slot => ⟨c, slot, none⟩ :: literalRun slots (slot + 1)
  | _, _ => []

/-- The layout of an input over slots that are filled from the left.  Without a value slot it is
the text of the literals, and complete. -/
def forward (slots : List Slot) (tail : Tail) (input : List Char) : Layout :=
  if slots.all Slot.isLiteral then ⟨literalRun slots 0, true⟩
  else
    let placed := place slots 0 input.zipIdx
    let rest := slots.drop (resume placed)
    let run := if tail.shownAfter placed then literalRun rest (resume placed) else []
    ⟨placed ++ run, rest.all (!·.isMandatory)⟩

end Layout

namespace Mask

/-- The tail policy that is in force: a mask without autocompletion shows no tail. -/
def tailPolicy (m : Mask) (tail : Tail) : Tail := if m.autocomplete then tail else .hidden

/-- **The layout of an input.** -/
def layout (m : Mask) (tail : Tail) (input : List Char) : Layout :=
  if m.rightToLeft then
    (Layout.forward m.reversed.slots (m.tailPolicy tail) input.reverse).reversed
      m.slots.length input.length
  else Layout.forward m.slots (m.tailPolicy tail) input

/-- What a field shows for a value, with the caret at a boundary of the value. -/
def display (m : Mask) (value : List Char) (intent : Nat) (gravity : Gravity := .forward) :
    Display :=
  (m.layout .afterValue value).display intent gravity

end Mask

end MaskedInput
