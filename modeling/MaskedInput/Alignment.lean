import MaskedInput.Mask

/-!
# Reading raw text against a mask

Text that was pasted may hold the literals of the mask along with the value.  An alignment goes
through the text with a place in the mask beside it and decides for each character what becomes of
it.  A character that equals the literal at that place is formatting and is absorbed; other
characters pass the literals by on their way to a value slot.

A single typed character is always meant as input, so it is aligned without literals: it is kept
if any slot of the mask takes it.

* `Fate` — what becomes of a character; `Step` — a character with its fate.
* `alignFrom` — the steps of a text, with literals absorbed; `alignTyped` — without.
* **`Mask.align`** — the steps of a text in the reading direction of the mask.
* `kept`, `score` — the characters that go into the value, and how well the text fits.
-/

namespace MaskedInput

/-- What becomes of a character of raw text. -/
inductive Fate where
  /-- It equals the literal at its place, and is formatting. -/
  | absorbed
  | placed
  /-- No slot at its place takes it, but some slot of the mask does, so it is kept. -/
  | spare
  | refused
  deriving DecidableEq, Repr, Inhabited

namespace Fate

/-- Whether the character goes into the value. -/
def keeps : Fate → Bool
  | placed | spare => true
  | absorbed | refused => false

/-- Whether a slot of the mask uses the character up. -/
def consumes : Fate → Bool
  | absorbed | placed => true
  | spare | refused => false

end Fate

/-- A character of raw text, its fate, and the number of literals it passed by. -/
structure Step where
  char : Char
  fate : Fate
  skipped : Nat
  deriving DecidableEq, Repr, Inhabited

/-- What the step adds to the score: one for a character that is used up, minus one for any
other and for every literal passed by. -/
def Step.score (s : Step) : Int := (if s.fate.consumes then 1 else -1) - s.skipped

namespace Alignment

/-- The characters of the text that go into the value. -/
def kept (steps : List Step) : List Char := (steps.filter (·.fate.keeps)).map (·.char)

def score (steps : List Step) : Int := steps.foldr (·.score + ·) 0

/-- The fate of a character that no slot takes at its place. -/
def unplaced (anywhere : Char → Bool) (c : Char) : Fate := if anywhere c then .spare else .refused

/-- The step of one character with the given slots ahead, and the slots ahead of the next one.
`anywhere` tells whether some slot of the whole mask takes a character. -/
def alignChar (anywhere : Char → Bool) (c : Char) : List Slot → Step × List Slot
  | [] => (⟨c, unplaced anywhere c, 0⟩, [])
  | .literal l :: slots =>
    if l = c then (⟨c, .absorbed, 0⟩, slots)
    else
      let (step, ahead) := alignChar anywhere c slots
      ({ step with skipped := step.skipped + 1 }, ahead)
  | .value kind optional :: slots =>
    if kind.accepts c then (⟨c, .placed, 0⟩, slots)
    else if optional then alignChar anywhere c slots
    else (⟨c, unplaced anywhere c, 0⟩, .value kind optional :: slots)

/-- The steps of a text with the given slots ahead, literals absorbed. -/
def alignFrom (anywhere : Char → Bool) : (ahead : List Slot) → (text : List Char) → List Step
  | _, [] => []
  | ahead, c :: text =>
    let (step, ahead) := alignChar anywhere c ahead
    step :: alignFrom anywhere ahead text

/-- The steps of a text in which every character is meant as input. -/
def alignTyped (anywhere : Char → Bool) (text : List Char) : List Step :=
  text.map fun c => ⟨c, if anywhere c then .placed else .refused, 0⟩

/-- The steps of a text from slot `start` on. -/
def forward (m : Mask) (start : Nat) (text : List Char) (absorb : Bool) : List Step :=
  if absorb then alignFrom m.acceptsAnywhere (m.slots.drop start) text
  else alignTyped m.acceptsAnywhere text

end Alignment

/-- Whether a text is read as formatted: one with more than one character is. -/
def absorbsLiterals (text : List Char) : Bool := 1 < text.length

namespace Mask

/-- **The steps of a text in the reading direction of the mask.**  A mask filled from the right is
read backwards, and `start` counts its slots from the right. -/
def align (m : Mask) (start : Nat) (text : List Char) (absorb : Bool) : List Step :=
  if m.rightToLeft then (Alignment.forward m.reversed start text.reverse absorb).reverse
  else Alignment.forward m start text absorb

end Mask

end MaskedInput
