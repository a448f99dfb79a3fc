import MaskedInput.Affinity

/-!
# Fields

A field is an input element of a form: its primary mask, the other masks it may switch to, and the
options of its editing sessions.

* `Definition` — a field as it is written down, with patterns in place of masks.
* **`Definition.compile`** — the field, or the first error among its patterns.
* `Field.best` — the mask that fits a text best.
-/

namespace MaskedInput

/-- A field with its patterns compiled. -/
structure Field where
  primary : Mask
  others : List Mask := []
  strategy : Strategy := .wholeString
  /-- Whether deleting a literal deletes the typed character in front of its run. -/
  autoskip : Bool := false
  /-- Whether the empty field shows its first literals while it has the focus. -/
  autocompleteOnFocus : Bool := false
  deriving DecidableEq, Repr, Inhabited

namespace Field

/-- The masks in the order of their indices. -/
def masks (f : Field) : List Mask := f.primary :: f.others

/-- The mask of an index: 0 is the primary one. -/
def mask (f : Field) (i : Nat) : Mask := f.masks.getD i f.primary

/-- The index of the mask that fits a text best. -/
def pick (f : Field) (text : List Char) : Nat :=
  MaskedInput.pick f.primary f.others f.strategy text

/-- The mask that fits a text best. -/
def best (f : Field) (text : List Char) : Mask := f.mask (f.pick text)

end Field

/-- A field as it is written down. -/
structure Definition where
  mask : List Char
  affineFormats : List (List Char) := []
  strategy : Strategy := .wholeString
  autocomplete : Bool := true
  notations : List Notation := []
  rightToLeft : Bool := false
  autoskip : Bool := false
  autocompleteOnFocus : Bool := false
  deriving DecidableEq, Repr, Inhabited

namespace Definition

/-- A pattern of the definition, compiled with its notations and options. -/
def compilePattern (d : Definition) (pattern : List Char) : Except PatternError Mask :=
  (fun m : Mask => { m with autocomplete := d.autocomplete, rightToLeft := d.rightToLeft }) <$>
    Mask.compile d.notations pattern

/-- The patterns of the definition, the primary one first. -/
def patterns (d : Definition) : List (List Char) := d.mask :: d.affineFormats

/-- **The field of a definition.**  The first pattern with an error decides the error. -/
def compile (d : Definition) : Except PatternError Field := do
  let primary ← d.compilePattern d.mask
  let others ← d.affineFormats.mapM d.compilePattern
  return {
    primary, others
    strategy := d.strategy
    autoskip := d.autoskip
    autocompleteOnFocus := d.autocompleteOnFocus }

end Definition

end MaskedInput
