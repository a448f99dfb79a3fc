import MaskedInput.Field

/-!
# Editing sessions

A session is one field while it is being edited.  It holds the value that was typed so far; the
text is always laid out anew from the value.  Every operation returns an update: what is displayed
now, and whether the value has just become complete or ceased to be.

With several masks, every edit first looks at the whole text it would lead to and asks which mask
fits that text best.  If it is the active one, the edit is carried out as usual.  Otherwise the old
layout means nothing under the new mask, and the text is read afresh.

* `Session.start` — the empty field.
* **`Session.edit`** — an edit of the shown text.
* `Session.setText`, `Session.clear` — all of the text replaced.
* `Session.focus`, `Session.blur` — the field gains or loses the focus.
-/

namespace MaskedInput

inductive Transition where
  | completed
  | uncompleted
  deriving DecidableEq, Repr, Inhabited

/-- The change between two states of completeness. -/
def Transition.between : (before after : Bool) → Option Transition
  | false, true => some .completed
  | true, false => some .uncompleted
  | _, _ => none

/-- The answer to an operation: what is displayed, and a change of completeness. -/
structure Update where
  display : Display
  transition : Option Transition
  deriving DecidableEq, Repr, Inhabited

/-- A field while it is being edited. -/
structure Session where
  field : Field
  focused : Bool := false
  /-- The index of the mask under which the value is laid out. -/
  active : Nat := 0
  /-- The tail policy under which the text was laid out. -/
  tail : Tail := .afterValue
  current : Display
  deriving DecidableEq, Repr, Inhabited

namespace Session

def start (f : Field) : Session where
  field := f
  current := f.primary.display [] 0

/-- The mask under which the value is laid out. -/
def mask (s : Session) : Mask := s.field.mask s.active

/-- The layout of the value under the active mask. -/
def layout (s : Session) : Layout := s.mask.layout s.tail s.current.value

/-- How the next edit is to be understood.  A field with the focus shows its literals eagerly, if
it is meant to. -/
def editOptions (s : Session) : EditOptions where
  autoskip := s.field.autoskip
  oldTail := s.tail
  tail := if s.focused && s.field.autocompleteOnFocus then .eager else .afterValue

/-! ## Updates -/

def commit (s : Session) (display : Display) : Session × Update :=
  ({ s with current := display },
    ⟨display, Transition.between s.current.complete display.complete⟩)

/-- The answer when nothing has changed. -/
def unchanged (s : Session) : Session × Update := (s, ⟨s.current, none⟩)

/-- Lays the value out again under another tail policy. -/
def relayout (s : Session) (tail : Tail) : Session × Update :=
  let value := s.current.value
  { s with tail }.commit ((s.mask.layout tail value).display value.length .forward)

/-! ## Edits -/

/-- What is displayed after an edit that changes the mask to `m`.  The text around the replaced
range is read afresh, and the caret belongs behind the replacement: `head` is the text up to there,
`rest` the text behind it. -/
def reread (s : Session) (m : Mask) (e : Edit) (head rest : List Char) : Display :=
  let absorb := absorbsLiterals (head ++ rest)
  let kept (text : List Char) := Alignment.kept (m.align 0 text absorb)
  let value := kept (head ++ rest)
  let intent :=
    if m.rightToLeft then value.length - (kept rest).length else (kept head).length
  (m.layout (s.editOptions.tailAfter e) value).display intent e.gravity

/-- The mask and the display after an edit of a field with several masks. -/
def editAmong (s : Session) (e : Edit) : Except RangeError (Nat × Display) := do
  let e ← e.checked s.current.text.length
  let range := e.widened s.field.autoskip s.layout
  let head := s.current.text.take range.start ++ e.replacement
  let rest := s.current.text.drop range.stop
  let chosen := s.field.pick (head ++ rest)
  if chosen = s.active then
    return (s.active, ← s.mask.edit s.current.value e s.editOptions)
  else return (chosen, s.reread (s.field.mask chosen) e head rest)

/-- The mask and the display after an edit. -/
def edited (s : Session) (e : Edit) : Except RangeError (Nat × Display) :=
  if s.field.others.isEmpty then
    (s.active, ·) <$> s.mask.edit s.current.value e s.editOptions
  else s.editAmong e

/-- **An edit of the shown text.**  It fails if its range does not lie within the text. -/
def edit (s : Session) (e : Edit) : Except RangeError (Session × Update) := do
  let (active, display) ← s.edited e
  return { s with active, tail := s.editOptions.tailAfter e }.commit display

def setText (s : Session) (text : List Char) : Session × Update :=
  match s.edit ⟨0, s.current.text.length, text⟩ with
  | .ok result => result
  | .error _ => s.unchanged

def clear (s : Session) : Session × Update := s.setText []

/-! ## Keys -/

/-- Typing or pasting a text at the caret. -/
def insertion (s : Session) (text : List Char) : Edit := ⟨s.current.caret, s.current.caret, text⟩

/-- Deleting the character in front of the caret. -/
def backspace (s : Session) : Edit := ⟨s.current.caret - 1, s.current.caret, []⟩

/-- Deleting the character behind the caret. -/
def deletion (s : Session) : Edit := ⟨s.current.caret, s.current.caret + 1, []⟩

/-! ## Focus -/

def focus (s : Session) : Session × Update :=
  let s := { s with focused := true }
  if s.field.autocompleteOnFocus && s.current.value.isEmpty then s.relayout .eager
  else s.unchanged

/-- The field loses the focus.  If it is empty, it drops the literals it showed. -/
def blur (s : Session) : Session × Update :=
  let s := { s with focused := false }
  if s.current.value.isEmpty && !s.current.text.isEmpty then s.relayout .afterValue
  else s.unchanged

end Session

end MaskedInput
