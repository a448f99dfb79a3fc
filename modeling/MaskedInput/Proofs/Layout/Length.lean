import Mathlib.Order.Monotone.Basic
import MaskedInput.Proofs.Layout.Relayout

/-!
# The text of a value that is laid out again

A text may be the same though the characters stand in other slots, so a tight layout is more than
what is needed for the value to lead back to the text.  What is needed can be read off the lengths:
laying the value out again can only lose typed characters and literals, so a text of the same length
has lost nothing.

* `Layout.literalsShown_le` — the second layout shows no more literals than the first.
* **`Mask.length_layout_value_le`** — the second text is never longer.
* **`Mask.text_layout_value_iff`** — the value leads back to the text exactly when the text is also
  that of a tight layout.
-/

namespace MaskedInput

namespace Layout

variable (slots : List Slot) (tail : Tail) (input : List Char)

/-! ## How many literals are shown -/

/-- The number of literals that are shown if the last character is placed in front of slot `r` and
the tail is shown. -/
def literalReach (slots : List Slot) (r : ℕ) : ℕ :=
  (slots.take r).countP Slot.isLiteral + (literalRun (slots.drop r) r).length

/-- Behind a literal the tail starts later, and in front of a value slot it ends. -/
lemma literalReach_le_succ (r : ℕ) : literalReach slots r ≤ literalReach slots (r + 1) := by
  rw [literalReach, literalReach]
  cases h : slots[r]? with
  | none =>
      have hr : slots.length ≤ r := List.getElem?_eq_none_iff.mp h
      simp [List.take_of_length_le hr, List.take_of_length_le (Nat.le_succ_of_le hr),
        List.drop_of_length_le hr, literalRun]
  | some s =>
      obtain ⟨hr, hs⟩ := List.getElem?_eq_some_iff.mp h
      rw [List.take_succ_eq_append_getElem hr, List.drop_eq_getElem_cons hr, hs, List.countP_append]
      cases s with
      | literal l =>
          simp [literalRun, Slot.isLiteral]
          omega
      | value kind optional => simp [literalRun, Slot.isLiteral]

lemma literalReach_mono : Monotone (literalReach slots) :=
  monotone_nat_of_le_succ (literalReach_le_succ slots)

/-- The number of literals that are shown with the placed characters. -/
def literalsShown (slots : List Slot) (tail : Tail) (cells : List Cell) : ℕ :=
  if tail.shownAfter cells then literalReach slots (resume cells)
  else (slots.take (resume cells)).countP Slot.isLiteral

lemma literalsShown_le {input : List (Char × ℕ)} {cells : List Cell}
    (walk : Placement slots 0 input cells) :
    literalsShown slots tail (place slots 0 (taken cells)) ≤ literalsShown slots tail cells := by
  have nearer : resume (place slots 0 (taken cells)) ≤ resume cells :=
    walk.resume_place_le (List.Sublist.refl _)
  have fewer := (List.take_sublist_take_left (l := slots) nearer).countP_le (p := Slot.isLiteral)
  rw [literalsShown, literalsShown]
  by_cases shown : tail.shownAfter cells = true
  · rw [if_pos shown]
    split_ifs
    · exact literalReach_mono slots nearer
    · exact fewer.trans (Nat.le_add_right _ _)
  · have hidden : ¬ tail.shownAfter (place slots 0 (taken cells)) = true := by
      intro shownAgain
      refine shown (shownAfter_mono tail ?_ shownAgain)
      intro empty
      rw [empty, taken_nil, place_nil_input]
    rw [if_neg shown, if_neg hidden]
    exact fewer

/-! ## The value laid out again, from the left -/

lemma length_forward (h : slots.all Slot.isLiteral = false) :
    (forward slots tail input).cells.length
      = (forward slots tail input).value.length
        + literalsShown slots tail (place slots 0 input.zipIdx) := by
  have placed := (placement_place slots 0 input.zipIdx).length_eq
  rw [Nat.sub_zero] at placed
  rw [value_eq_seats, List.length_map, seats_forward, forward, if_neg (by simp [h])]
  simp only [List.length_append, placed, literalsShown, literalReach]
  split_ifs
  · omega
  · simp

lemma value_forward_value_sublist :
    (forward slots tail (forward slots tail input).value).value.Sublist
      (forward slots tail input).value := by
  rw [value_eq_seats, seats_forward, seats_eq_of_face (face_place_value slots tail input),
    value_eq_seats, seats_forward, ← map_fst_taken, ← map_fst_taken]
  exact (placement_place slots 0 _).taken_sublist.map Prod.fst

/-- The text gets shorter by no less than the value does. -/
lemma length_forward_value (input : List Char) :
    (forward slots tail (forward slots tail input).value).cells.length
        + (forward slots tail input).value.length
      ≤ (forward slots tail input).cells.length
        + (forward slots tail (forward slots tail input).value).value.length := by
  by_cases literals : slots.all Slot.isLiteral = true
  · simp only [forward, if_pos literals]
    exact le_refl _
  · have literals : slots.all Slot.isLiteral = false := by simpa using literals
    have faces := face_place_value slots tail input
    have fewer := literalsShown_le slots tail (placement_place slots 0 input.zipIdx)
    have again : literalsShown slots tail (place slots 0 (forward slots tail input).value.zipIdx)
        = literalsShown slots tail (place slots 0 (taken (place slots 0 input.zipIdx))) := by
      rw [literalsShown, literalsShown, resume_eq_of_face faces, shownAfter_eq_of_face tail faces]
    rw [length_forward _ _ _ literals, length_forward slots tail input literals, again]
    omega

end Layout

namespace Mask

variable (m : Mask) (tail : Tail) (input : List Char)

/-! ## The value laid out again, in either direction -/

lemma value_layout_value_sublist :
    (m.layout tail (m.layout tail input).value).value.Sublist (m.layout tail input).value := by
  rw [value_layout, readLayout_value, value_layout m tail input]
  apply m.inReading_sublist
  exact Layout.value_forward_value_sublist ..

lemma length_layout_value :
    (m.layout tail (m.layout tail input).value).cells.length + (m.layout tail input).value.length
      ≤ (m.layout tail input).cells.length
        + (m.layout tail (m.layout tail input).value).value.length := by
  have value := congrArg List.length (m.value_layout tail input)
  have valueAgain := congrArg List.length (m.value_layout tail (m.layout tail input).value)
  rw [length_inReading] at value valueAgain
  rw [length_layout, length_layout, value, valueAgain, readLayout_value]
  exact Layout.length_forward_value ..

/-- **The text of the value is never longer** than the text it was read from. -/
theorem length_layout_value_le :
    (m.layout tail (m.layout tail input).value).cells.length
      ≤ (m.layout tail input).cells.length := by
  have fewer := (m.value_layout_value_sublist tail input).length_le
  have longer := m.length_layout_value tail input
  omega

/-- A text of the same length has lost no typed character. -/
lemma value_layout_value_of_length_eq
    (h : (m.layout tail (m.layout tail input).value).cells.length
      = (m.layout tail input).cells.length) :
    (m.layout tail (m.layout tail input).value).value = (m.layout tail input).value := by
  have longer := m.length_layout_value tail input
  apply (m.value_layout_value_sublist tail input).eq_of_length_le
  omega

/-! ## When the text is the same -/

/-- **What is displayed is the text of a tight layout**, with its value and completeness. -/
def TightlyShown (text value : List Char) (complete : Bool) : Prop :=
  ∃ input, m.Tight (m.layout tail input) ∧ (m.layout tail input).text = text
    ∧ (m.layout tail input).value = value ∧ (m.layout tail input).complete = complete

/-- **When the value leads back to the text.**  The value of a layout gives the same text and the
same completeness again exactly when a tight layout has this value, text and completeness. -/
theorem text_layout_value_iff :
    ((m.layout tail (m.layout tail input).value).text = (m.layout tail input).text
        ∧ (m.layout tail (m.layout tail input).value).complete = (m.layout tail input).complete)
      ↔ m.TightlyShown tail (m.layout tail input).text (m.layout tail input).value
          (m.layout tail input).complete := by
  constructor
  · rintro ⟨text, complete⟩
    have lengths : (m.layout tail (m.layout tail input).value).cells.length
        = (m.layout tail input).cells.length := by
      simpa [Layout.text] using congrArg List.length text
    have value := m.value_layout_value_of_length_eq tail input lengths
    exact ⟨_, m.tight_of_value_eq tail _ value, text, value, complete⟩
  · rintro ⟨other, tight, text, value, complete⟩
    have alike := (m.layout_value_alike_iff tail other).mpr tight
    rw [← text, ← value, ← complete]
    exact ⟨alike.text_eq, alike.complete⟩

end Mask

end MaskedInput
