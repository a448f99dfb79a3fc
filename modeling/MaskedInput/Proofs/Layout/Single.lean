import MaskedInput.Proofs.Alignment
import MaskedInput.Proofs.Layout.Continuation

/-!
# A single character

A text of one character is a keystroke: it is meant as input, even if it equals a literal.  Over a mask
without optional slots it goes to the value slot that is read first, or nowhere.

* `Mask.firstTakes` — the value slot that is read first takes a character.
* `Mask.NoOptional.value_layout_singleton`, `Mask.NoOptional.layout_singleton_alike` — a single
  character goes to this slot or nowhere.
* **`Mask.NoOptional.value_layout_kept_singleton`** — so it is the value of the layout, or there is none.
-/

namespace MaskedInput

namespace Mask

variable {m : Mask} {c : Char}

/-- The value slot that is read first takes the character. -/
def firstTakes (m : Mask) (c : Char) : Bool :=
  ((m.inReading m.slots).find? (!·.isLiteral)).any (·.accepts c)

lemma acceptsAnywhere_of_firstTakes (h : m.firstTakes c = true) : m.acceptsAnywhere c = true := by
  obtain ⟨s, found, fits⟩ := (Option.any_eq_true ..).mp h
  exact List.any_eq_true.mpr ⟨s, m.mem_inReading.mp (List.mem_of_find?_eq_some found), fits⟩

/-- A single character goes to the first value slot, if that one is mandatory, or nowhere. -/
lemma taken_place_singleton {slots : List Slot} (k i : ℕ)
    (mandatory : ∀ s ∈ slots, s.isLiteral = false → s.isMandatory = true) :
    Layout.taken (Layout.place slots k [(c, i)])
      = if (slots.find? (!·.isLiteral)).any (·.accepts c) then [(c, i)] else [] := by
  induction slots generalizing k with
  | nil => rfl
  | cons s slots ih =>
      cases s with
      | literal l =>
          rw [Layout.taken_place_literal, List.find?_cons_of_neg (by simp [Slot.isLiteral])]
          exact ih (k + 1) (List.forall_mem_of_forall_mem_cons mandatory)
      | value kind optional =>
          obtain rfl := Slot.optional_eq_false mandatory
          rw [List.find?_cons_of_pos (by simp [Slot.isLiteral]), Option.any_some, Slot.accepts]
          by_cases fits : kind.accepts c = true
          · rw [Layout.place_value_of_accepts _ _ _ _ _ i fits, Layout.taken_value,
              Layout.place_nil_input, if_pos fits, Layout.taken_nil]
          · have misfits : kind.accepts c = false := by simpa using fits
            rw [Layout.place_mandatory_of_refuses _ _ _ _ i misfits, Layout.place_nil_input, if_neg fits,
              Layout.taken_nil]

namespace NoOptional

lemma taken_readPlace_singleton (h : m.NoOptional) (c : Char) :
    Layout.taken (Layout.place (m.inReading m.slots) 0 (m.inReading [c]).zipIdx)
      = if m.firstTakes c then [(c, 0)] else [] := by
  rw [inReading_singleton]
  exact taken_place_singleton 0 0 h.mandatory_inReading

/-- The first value slot takes the character, and it becomes the value. -/
lemma value_layout_singleton (h : m.NoOptional) (tail : Tail) (takes : m.firstTakes c = true) :
    (m.layout tail [c]).value = [c] := by
  rw [value_layout, Layout.value_eq_seats, seats_readLayout, ← Layout.map_fst_taken,
    h.taken_readPlace_singleton, if_pos takes]
  exact m.inReading_singleton c

/-- If it refuses the character, nothing is placed, even if another slot takes it. -/
lemma layout_singleton_alike (h : m.NoOptional) (tail : Tail) (refuses : ¬ m.firstTakes c = true) :
    (m.layout tail ([c].filter m.acceptsAnywhere)).Alike (m.layout tail []) := by
  by_cases fits : m.acceptsAnywhere c = true
  · have nothing := h.taken_readPlace_singleton c
    rw [if_neg refuses] at nothing
    rw [List.filter_cons_of_pos fits, List.filter_nil]
    apply layout_alike
    apply Layout.forward_alike
    rw [(Layout.placement_place ..).eq_nil_of_taken nothing, inReading_nil, List.zipIdx_nil,
      Layout.place_nil_input]
  · rw [List.filter_cons_of_neg fits]
    exact Layout.Alike.refl _

/-- **A single character** becomes the value if the first value slot takes it, and is lost otherwise. -/
lemma value_layout_kept_singleton (h : m.NoOptional) (tail : Tail) (start : ℕ) (c : Char) :
    (m.layout tail (Alignment.kept (m.align start [c] false))).value
      = if m.firstTakes c then [c] else [] := by
  rw [kept_align_typed]
  split_ifs with takes
  · rw [List.filter_cons_of_pos (acceptsAnywhere_of_firstTakes takes), List.filter_nil,
      h.value_layout_singleton tail takes]
  · rw [(h.layout_singleton_alike tail takes).value_eq, value_layout_nil]

end NoOptional

end Mask

end MaskedInput
