import MaskedInput.Proofs.Affinity.Fit
import MaskedInput.Proofs.Bounds.Walk

/-!
# Reading raw text, by positions

An alignment goes through a text with an index into the slots beside it and keeps count of the score.
The score is a signed word, so a sum can leave its range in either direction.  It never does: each
character changes the score by one, and each slot is passed by once at most, so the score stays between
the two sums of the characters and the slots.

* `Reading` — the characters kept so far and the score; `Mask.align?` — a text read in the reading
  direction of the mask, with every index and every sum checked.
* `Mask.readChar?_eq` — one character meets no fault and leaves room for the rest of the text.
* **`Mask.align?_eq`** — no text meets a fault, and the reading is that of its steps.
-/

namespace MaskedInput

open Checked

/-- What has been made of a text so far. -/
structure Reading where
  kept : List Char := []
  score : ℤ := 0

namespace Reading

def keep (r : Reading) (c : Char) : Reading := { r with kept := r.kept ++ [c] }

/-- Changes the score. -/
def count? (r : Reading) (change : ℤ) : Option Reading := do
  let score ← addScore? r.score change
  return { r with score }

/-- The reading after some steps of an alignment. -/
def after (r : Reading) (steps : List Step) : Reading where
  kept := r.kept ++ Alignment.kept steps
  score := r.score + Alignment.score steps

lemma after_cons (r : Reading) (step : Step) (steps : List Step) :
    r.after (step :: steps) = (r.after [step]).after steps := by
  have kept := Alignment.kept_append [step] steps
  have score : Alignment.score (step :: steps)
      = Alignment.score [step] + Alignment.score steps := by
    show step.score + Alignment.score steps = step.score + 0 + Alignment.score steps
    omega
  rw [List.singleton_append] at kept
  rw [after, after, after, kept, score, List.append_assoc, Int.add_assoc]

lemma count?_eq {r : Reading} {change : ℤ} (room : (r.score + change).natAbs < 2 ^ 63) :
    r.count? change = some { r with score := r.score + change } := by
  rw [count?, addScore?_eq room]
  rfl

end Reading

namespace Mask

/-- A character that no slot takes at its place is kept if another slot of the mask takes it. -/
def spared (m : Mask) (c : Char) (r : Reading) : Reading :=
  if m.acceptsAnywhere c then r.keep c else r

/-- One character, read from a slot on; with the slot ahead of the next character. -/
def readChar? (m : Mask) (c : Char) (slot : ℕ) (r : Reading) : Option (ℕ × Reading) :=
  match _here : m.slots[slot]? with
  | some (.literal l) =>
    if l = c then do
      let r ← r.count? 1
      let ⟨next, _⟩ ← succ? slot
      return (next, r)
    else do
      let r ← r.count? (-1)
      let ⟨next, _⟩ ← succ? slot
      readChar? m c next r
  | some (.value kind optional) =>
    if kind.accepts c then do
      let r ← (r.keep c).count? 1
      let ⟨next, _⟩ ← succ? slot
      return (next, r)
    else if optional then do
      let ⟨next, _⟩ ← succ? slot
      readChar? m c next r
    else do
      let r ← (m.spared c r).count? (-1)
      return (slot, r)
  | none => do
    let r ← (m.spared c r).count? (-1)
    return (slot, r)
termination_by m.slots.length - slot
decreasing_by
  all_goals
    obtain ⟨within, -⟩ := List.getElem?_eq_some_iff.mp _here
    omega

/-- A text read from a slot on, with literals absorbed. -/
def readText? (m : Mask) : (text : List Char) → (slot : ℕ) → Reading → Option Reading
  | [], _, r => some r
  | c :: text, slot, r => do
    let (slot, r) ← m.readChar? c slot r
    m.readText? text slot r

/-- One character that is meant as input. -/
def readTypedChar? (m : Mask) (c : Char) (r : Reading) : Option Reading :=
  if m.acceptsAnywhere c then (r.keep c).count? 1 else r.count? (-1)

/-- A text in which every character is meant as input. -/
def readTyped? (m : Mask) : (text : List Char) → Reading → Option Reading
  | [], r => some r
  | c :: text, r => do
    let r ← m.readTypedChar? c r
    m.readTyped? text r

/-- A text read from the left. -/
def readForward? (m : Mask) (start : ℕ) (text : List Char) (absorb : Bool) : Option Reading :=
  if absorb then m.readText? text start {} else m.readTyped? text {}

/-- **A text read in the reading direction of the mask.** -/
def align? (m : Mask) (start : ℕ) (text : List Char) (absorb : Bool) : Option Reading :=
  if m.rightToLeft then do
    let r ← m.reversed.readForward? start text.reverse absorb
    return { r with kept := r.kept.reverse }
  else m.readForward? start text absorb

open MaskedInput.Alignment

variable {m : Mask}

/-! ## One character -/

section OneCharacter

variable {c : Char} {slot : ℕ} {r : Reading}

/-- A character that no slot takes at its place counts against the mask. -/
lemma spared_count? (room : r.score.natAbs + 1 < 2 ^ 63) :
    (m.spared c r).count? (-1) = some (r.after [⟨c, unplaced m.acceptsAnywhere c, 0⟩]) := by
  rw [spared, unplaced]
  split_ifs
  · have kept : ((r.keep c).score + -1).natAbs < 2 ^ 63 := by
      show (r.score + -1).natAbs < 2 ^ 63
      omega
    rw [Reading.count?_eq kept]
    rfl
  · rw [Reading.count?_eq (by omega), Reading.after]
    simp [kept, Fate.keeps, score, Step.score, Fate.consumes]

lemma score_after_unplaced :
    (r.after [⟨c, unplaced m.acceptsAnywhere c, 0⟩]).score = r.score + -1 := by
  rw [unplaced]
  split_ifs <;> rfl

lemma readChar?_end (ended : m.slots[slot]? = none) (room : r.score.natAbs + 1 < 2 ^ 63) :
    m.readChar? c slot r = some (slot, r.after [⟨c, unplaced m.acceptsAnywhere c, 0⟩]) := by
  rw [readChar?]
  split
  next here => exact absurd (here.symm.trans ended) (by simp)
  next here => exact absurd (here.symm.trans ended) (by simp)
  next =>
    rw [spared_count? room]
    rfl

variable (room : r.score.natAbs + 1 + (m.slots.length - slot) < 2 ^ 63)
  (fits : m.slots.length < 2 ^ 63)

include room fits

lemma readChar?_literal {l : Char} (here : m.slots[slot]? = some (.literal l)) :
    m.readChar? c slot r = if l = c then some (slot + 1, { r with score := r.score + 1 })
      else m.readChar? c (slot + 1) { r with score := r.score + -1 } := by
  obtain ⟨within, -⟩ := List.getElem?_eq_some_iff.mp here
  rw [readChar?, succ?_eq (by omega), Reading.count?_eq (by omega), Reading.count?_eq (by omega)]
  split
  next here' =>
    obtain rfl : l = _ := by simpa using here.symm.trans here'
    rfl
  next here' => exact absurd (here'.symm.trans here) (by simp)
  next here' => exact absurd (here'.symm.trans here) (by simp)

lemma readChar?_value {kind : CharClass} {optional : Bool}
    (here : m.slots[slot]? = some (.value kind optional)) :
    m.readChar? c slot r = if kind.accepts c then
        some (slot + 1, { kept := r.kept ++ [c], score := r.score + 1 })
      else if optional then m.readChar? c (slot + 1) r
      else some (slot, r.after [⟨c, unplaced m.acceptsAnywhere c, 0⟩]) := by
  obtain ⟨within, -⟩ := List.getElem?_eq_some_iff.mp here
  have kept : (r.keep c).count? 1 = some { kept := r.kept ++ [c], score := r.score + 1 } := by
    apply Reading.count?_eq
    show (r.score + 1).natAbs < 2 ^ 63
    omega
  rw [readChar?, succ?_eq (by omega), spared_count? (by omega), kept]
  split
  next here' => exact absurd (here'.symm.trans here) (by simp)
  next here' =>
    obtain ⟨rfl, rfl⟩ := Slot.value.inj (Option.some.inj (here.symm.trans here'))
    rfl
  next here' => exact absurd (here'.symm.trans here) (by simp)

/-- **One character meets no fault.**  What it adds to the score it takes from the room that the
characters and the slots ahead give. -/
lemma readChar?_eq {ahead : List Slot} (slotsAhead : m.slots.drop slot = ahead) :
    ∃ next, m.readChar? c slot r
        = some (next, r.after [(alignChar m.acceptsAnywhere c ahead).1])
      ∧ m.slots.drop next = (alignChar m.acceptsAnywhere c ahead).2
      ∧ (r.after [(alignChar m.acceptsAnywhere c ahead).1]).score.natAbs + (m.slots.length - next)
        ≤ r.score.natAbs + 1 + (m.slots.length - slot) := by
  fun_induction alignChar m.acceptsAnywhere c ahead generalizing slot r with
  | case1 =>
      have ended := List.getElem?_eq_none (List.drop_eq_nil_iff.mp slotsAhead)
      refine ⟨slot, readChar?_end ended (by omega), slotsAhead, ?_⟩
      rw [score_after_unplaced]
      omega
  | case2 slots =>
      obtain ⟨here, behind⟩ := getElem?_of_drop_eq_cons slotsAhead
      obtain ⟨within, -⟩ := List.getElem?_eq_some_iff.mp here
      refine ⟨slot + 1, ?_, behind, ?_⟩
      · rw [readChar?_literal room fits here, if_pos rfl]
        simp [Reading.after, kept, Fate.keeps, score, Step.score, Fate.consumes]
      · have used : (r.after [⟨c, .absorbed, 0⟩]).score = r.score + 1 := rfl
        rw [used]
        omega
  | case3 l slots hne step rest eq ih =>
      obtain ⟨here, behind⟩ := getElem?_of_drop_eq_cons slotsAhead
      obtain ⟨within, -⟩ := List.getElem?_eq_some_iff.mp here
      obtain ⟨next, read, ahead, left⟩ := ih (r := { r with score := r.score + -1 })
        (by dsimp only; omega) behind
      rw [eq] at read ahead left
      dsimp only at read ahead left
      -- The loop counts a literal when it passes it, the alignment with the step that follows.
      have moved : r.after [{ step with skipped := step.skipped + 1 }]
          = Reading.after { r with score := r.score + -1 } [step] := by
        have score : score [{ step with skipped := step.skipped + 1 }] = -1 + score [step] := by
          simp only [score, List.foldr_cons, List.foldr_nil, Step.score]
          omega
        have kept : kept [{ step with skipped := step.skipped + 1 }] = kept [step] := by
          cases keeps : step.fate.keeps <;> simp [Alignment.kept, keeps]
        rw [Reading.after, Reading.after, kept, score, Int.add_assoc]
      refine ⟨next, ?_, ahead, ?_⟩
      · rw [readChar?_literal room fits here, if_neg hne, read, moved]
      · show (r.after [{ step with skipped := step.skipped + 1 }]).score.natAbs
            + (m.slots.length - next) ≤ r.score.natAbs + 1 + (m.slots.length - slot)
        rw [moved]
        omega
  | case4 kind optional slots takes =>
      obtain ⟨here, behind⟩ := getElem?_of_drop_eq_cons slotsAhead
      obtain ⟨within, -⟩ := List.getElem?_eq_some_iff.mp here
      refine ⟨slot + 1, ?_, behind, ?_⟩
      · rw [readChar?_value room fits here, if_pos takes]
        rfl
      · have used : (r.after [⟨c, .placed, 0⟩]).score = r.score + 1 := rfl
        rw [used]
        omega
  | case5 kind slots misfits ih =>
      obtain ⟨here, behind⟩ := getElem?_of_drop_eq_cons slotsAhead
      obtain ⟨next, read, ahead, left⟩ := ih (r := r) (by omega) behind
      refine ⟨next, ?_, ahead, by omega⟩
      rw [readChar?_value room fits here, if_neg misfits, if_pos rfl, read]
  | case6 kind optional slots misfits mandatory =>
      obtain ⟨here, -⟩ := getElem?_of_drop_eq_cons slotsAhead
      refine ⟨slot, ?_, slotsAhead, ?_⟩
      · rw [readChar?_value room fits here, if_neg misfits, if_neg mandatory]
      · rw [score_after_unplaced]
        omega

end OneCharacter

/-! ## The whole text -/

lemma readText?_eq (fits : m.slots.length < 2 ^ 63) {text : List Char} {slot : ℕ} {r : Reading}
    {ahead : List Slot} (slotsAhead : m.slots.drop slot = ahead)
    (room : r.score.natAbs + text.length + (m.slots.length - slot) < 2 ^ 63) :
    m.readText? text slot r = some (r.after (alignFrom m.acceptsAnywhere ahead text)) := by
  induction text generalizing slot r ahead with
  | nil => simp [readText?, alignFrom, Reading.after, kept, score]
  | cons c text ih =>
      rw [List.length_cons] at room
      have first : r.score.natAbs + 1 + (m.slots.length - slot) < 2 ^ 63 := by omega
      obtain ⟨next, read, behind, left⟩ := readChar?_eq (c := c) first fits slotsAhead
      have steps : alignFrom m.acceptsAnywhere ahead (c :: text)
          = (alignChar m.acceptsAnywhere c ahead).1
            :: alignFrom m.acceptsAnywhere (alignChar m.acceptsAnywhere c ahead).2 text := rfl
      rw [readText?, read, Option.bind_eq_bind, Option.bind_some, steps, r.after_cons _ (alignFrom ..)]
      refine ih behind ?_
      omega

lemma readTypedChar?_eq {c : Char} {r : Reading} (room : r.score.natAbs + 1 < 2 ^ 63) :
    m.readTypedChar? c r
        = some (r.after [⟨c, if m.acceptsAnywhere c then .placed else .refused, 0⟩])
      ∧ (r.after [⟨c, if m.acceptsAnywhere c then .placed else .refused, 0⟩]).score.natAbs
        ≤ r.score.natAbs + 1 := by
  rw [readTypedChar?]
  split_ifs
  · have score : (r.after [⟨c, .placed, 0⟩]).score = r.score + 1 := rfl
    have count : (r.keep c).count? 1 = some (r.after [⟨c, .placed, 0⟩]) := by
      apply Reading.count?_eq
      show (r.score + 1).natAbs < 2 ^ 63
      omega
    exact ⟨count, by omega⟩
  · have score : (r.after [⟨c, .refused, 0⟩]).score = r.score + -1 := rfl
    have count : r.count? (-1) = some (r.after [⟨c, .refused, 0⟩]) := by
      rw [Reading.count?_eq (by omega), Reading.after]
      simp [kept, Fate.keeps, Alignment.score, Step.score, Fate.consumes]
    exact ⟨count, by omega⟩

lemma readTyped?_eq {text : List Char} {r : Reading}
    (room : r.score.natAbs + text.length < 2 ^ 63) :
    m.readTyped? text r = some (r.after (alignTyped m.acceptsAnywhere text)) := by
  induction text generalizing r with
  | nil => simp [readTyped?, alignTyped, Reading.after, kept, score]
  | cons c text ih =>
      rw [List.length_cons] at room
      obtain ⟨first, left⟩ := readTypedChar?_eq (m := m) (c := c) (r := r) (by omega)
      have steps : alignTyped m.acceptsAnywhere (c :: text)
          = ⟨c, if m.acceptsAnywhere c then .placed else .refused, 0⟩
            :: alignTyped m.acceptsAnywhere text := rfl
      rw [readTyped?, first, Option.bind_eq_bind, Option.bind_some, steps,
        r.after_cons _ (alignTyped ..)]
      refine ih ?_
      omega

lemma readForward?_eq {text : List Char} (room : m.slots.length + text.length < 2 ^ 63)
    (start : ℕ) (absorb : Bool) :
    m.readForward? start text absorb
      = some ⟨kept (forward m start text absorb), score (forward m start text absorb)⟩ := by
  have whole (steps : List Step) : Reading.after {} steps = ⟨kept steps, score steps⟩ := by
    simp [Reading.after]
  rw [readForward?, forward]
  split_ifs
  · rw [readText?_eq (by omega) rfl (by simp; omega), whole]
  · rw [readTyped?_eq (by simp; omega), whole]

/-- **No text meets a fault**, and the reading is that of its steps. -/
theorem align?_eq {text : List Char} (room : m.slots.length + text.length < 2 ^ 63) (start : ℕ)
    (absorb : Bool) :
    m.align? start text absorb
      = some ⟨kept (m.align start text absorb), score (m.align start text absorb)⟩ := by
  rw [align?, align]
  split_ifs
  · have turned : m.reversed.slots.length = m.slots.length := List.length_reverse
    have score_reverse (steps : List Step) : score steps.reverse = score steps := by
      rw [score_eq, wasted_reverse, skipped_reverse, List.length_reverse, ← score_eq]
    rw [readForward?_eq (by rwa [turned, List.length_reverse]), kept_reverse, score_reverse]
    rfl
  · exact readForward?_eq room start absorb

end Mask

end MaskedInput
