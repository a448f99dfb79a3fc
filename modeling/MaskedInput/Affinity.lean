import MaskedInput.Edit

/-!
# Choosing among several masks

A field may offer several masks, say for numbers of ten and of eleven digits.  Each of them is
scored against the text, and the first one with the highest score is chosen.

* `Strategy` — how a mask is scored; `Mask.affinity` — its score for a text.
* **`pick`** — the index of the chosen mask: the first of those that no other mask beats.
-/

namespace MaskedInput

/-- How a mask is scored against a text. -/
inductive Strategy where
  | wholeString
  /-- By how far the text agrees with its formatted form. -/
  | commonStart
  deriving DecidableEq, Repr, Inhabited

/-- The number of characters on which two texts agree, from their start on. -/
def commonLength : List Char → List Char → Nat
  | a :: as, b :: bs => if a = b then commonLength as bs + 1 else 0
  | _, _ => 0

/-- The score of a mask for a text. -/
def Mask.affinity (m : Mask) (strategy : Strategy) (text : List Char) : Int :=
  match strategy with
  | .wholeString => Alignment.score (m.align 0 text true)
  | .commonStart => commonLength (m.format text).text text

/-- The index of the best among the scores behind index `i`, if one beats `best`, the score at
index `chosen`. -/
def pickFrom (chosen : Nat) (best : Int) : (i : Nat) → List Int → Nat
  | _, [] => chosen
  | i, score :: scores =>
    if best < score then pickFrom i score (i + 1) scores else pickFrom chosen best (i + 1) scores

/-- **The chosen mask**: 0 is the primary mask, `i + 1` the `i`-th of the others. -/
def pick (primary : Mask) (others : List Mask) (strategy : Strategy) (text : List Char) : Nat :=
  pickFrom 0 (primary.affinity strategy text) 1 (others.map (·.affinity strategy text))

end MaskedInput
