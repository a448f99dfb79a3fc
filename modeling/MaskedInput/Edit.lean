import MaskedInput.Alignment
import MaskedInput.Layout.Place

/-!
# Edits

A widget reports an edit in terms of the text it shows: the characters from `start` to `stop` are
replaced.  The value is what a field really holds, so the range is turned into a range of the
value, the usable part of the replacement is put in its place, and the new value is laid out again.
The formatted text itself is never edited.

* `Edit`, `EditOptions` — a replacement of a range, and how it is to be understood.
* `RangeError` — the range does not lie within the text; nothing is clamped.
* **`Mask.edit`** — the outcome of an edit of a value.
* `Mask.format`, `Mask.unmask` — a raw text pasted into an empty field.
* `MaskError` — a fault of the pattern or of the range, for callers that treat both alike.
-/

namespace MaskedInput

/-- The replacement of a range of the shown text; a deletion replaces by nothing. -/
structure Edit where
  start : Nat
  stop : Nat
  replacement : List Char
  deriving DecidableEq, Repr, Inhabited

/-- A range that is reversed or reaches past the text it was meant for. -/
structure RangeError where
  start : Nat
  stop : Nat
  length : Nat
  deriving DecidableEq, Repr, Inhabited

def RangeError.message (e : RangeError) : List Char :=
  "edit range ".toList ++ Nat.toDigits 10 e.start ++ "..".toList ++ Nat.toDigits 10 e.stop ++
    " outside formatted text of length ".toList ++ Nat.toDigits 10 e.length

namespace Edit

/-- Whether the edit only takes characters away. -/
def isDeletion (e : Edit) : Bool := e.replacement.isEmpty

/-- Whether the edit takes away a single character. -/
def isSingleDeletion (e : Edit) : Bool := e.isDeletion && e.stop == e.start + 1

/-- A deletion leaves the caret behind what it kept; an insertion moves on to the next slot. -/
def gravity (e : Edit) : Gravity := if e.isDeletion then .backward else .forward

/-- The edit, if its range lies within a text of the given length. -/
def checked (e : Edit) (length : Nat) : Except RangeError Edit :=
  if e.start ≤ e.stop ∧ e.stop ≤ length then .ok e else .error ⟨e.start, e.stop, length⟩

/-- The edit as it is carried out on a layout.  With autoskip, deleting a literal deletes the typed
character in front of its run as well. -/
def widened (e : Edit) (autoskip : Bool) (old : Layout) : Edit :=
  if autoskip && e.isSingleDeletion then
    { e with start := (old.valueBeforeLiterals? e.start).getD e.start }
  else e

end Edit

/-- How an edit is to be understood. -/
structure EditOptions where
  /-- Whether deleting a literal deletes the typed character in front of its run. -/
  autoskip : Bool := false
  /-- The tail policy under which the old text was shown. -/
  oldTail : Tail := .afterValue
  tail : Tail := .afterValue
  deriving DecidableEq, Repr, Inhabited

/-- The tail policy after an edit: a deletion never brings literals back. -/
def EditOptions.tailAfter (o : EditOptions) (e : Edit) : Tail :=
  if e.isDeletion then .hidden else o.tail

namespace Mask

/-- The slot from which the replacement is read, counted in reading direction. -/
def startSlot (m : Mask) (old : Layout) (e : Edit) : Nat :=
  if m.rightToLeft then
    match old.cellSlot? e.stop with
    | some slot => m.slots.length - slot
    | none => 0
  else old.slotAt e.start

/-- The characters of the replacement that go into the value. -/
def keptOf (m : Mask) (old : Layout) (e : Edit) : List Char :=
  Alignment.kept (m.align (m.startSlot old e) e.replacement (absorbsLiterals e.replacement))

/-- The value after an edit of the shown text. -/
def spliced (m : Mask) (old : Layout) (e : Edit) : List Char :=
  old.value.take (old.valuesBefore e.start) ++ m.keptOf old e ++
    old.value.drop (old.valuesBefore e.stop)

/-- **The outcome of an edit** of the text that is shown for `oldValue`. -/
def edit (m : Mask) (oldValue : List Char) (e : Edit) (o : EditOptions := {}) :
    Except RangeError Display := do
  let old := m.layout o.oldTail oldValue
  let e ← e.checked old.cells.length
  let e := e.widened o.autoskip old
  let intent := old.valuesBefore e.start + (m.keptOf old e).length
  return (m.layout (o.tailAfter e) (m.spliced old e)).display intent e.gravity

/-- **A raw text pasted into an empty field.** -/
def format (m : Mask) (raw : List Char) : Display :=
  let kept := Alignment.kept (m.align 0 raw (absorbsLiterals raw))
  m.display kept kept.length

/-- The value behind a raw text. -/
def unmask (m : Mask) (raw : List Char) : List Char := (m.format raw).value

end Mask

/-- A fault of the pattern or of the range of an edit. -/
inductive MaskError where
  | pattern (error : PatternError)
  | range (error : RangeError)
  deriving DecidableEq, Repr, Inhabited

namespace MaskError

/-- The wording of the fault alone. -/
def cause : MaskError → List Char
  | pattern e => e.message
  | range e => e.message

def message : MaskError → List Char
  | pattern e => "mask syntax error: ".toList ++ e.message
  | range e => "range out of bounds: ".toList ++ e.message

end MaskError

/-- The outcome of an edit under a pattern that is compiled on the spot. -/
def editUnderPattern (pattern oldValue : List Char) (e : Edit) : Except MaskError Display := do
  let m ← (Mask.compile [] pattern).mapError .pattern
  (m.edit oldValue e).mapError .range

end MaskedInput
