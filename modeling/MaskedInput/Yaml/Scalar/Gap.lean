import MaskedInput.Yaml.Cursor

/-!
# Folding

A plain or quoted scalar may run over several lines.  The blanks between two of its words then
shrink: those around a line break are dropped, a single line break becomes a space, and of several
the first one is dropped.  The separators of lines and paragraphs stay as they are.

* `Gap` — the blanks since the last word.
* **`Gap.text`** — what they amount to.
-/

namespace MaskedInput.Yaml

/-- The blanks since the last word of a scalar. -/
inductive Gap where
  | within (blanks : List Char)
  /-- Line breaks, with the blanks around them dropped.  There is no first one if it was escaped. -/
  | across (first : Option Char) (others : List Char)
  deriving DecidableEq, Repr

namespace Gap

def none : Gap := within []

/-- Whether the gap holds a line break. -/
def isAcross : Gap → Bool
  | within _ => false
  | across _ _ => true

/-- The gap with a further blank or line break. -/
def add : Gap → Char → Gap
  | within blanks, c => if isBreak c then across (some c) [] else within (blanks ++ [c])
  | across first others, c => across first (if isBreak c then others ++ [c] else others)

/-- **What the gap amounts to** in the value of the scalar. -/
def text : Gap → List Char
  | within blanks => blanks
  | across (some '\n') [] => [' ']
  | across (some '\n') others => others
  | across first others => first.toList ++ others

end Gap

end MaskedInput.Yaml
