import Mathlib.Data.List.DropRight
import MaskedInput.Proofs.Edit

/-!
# Edits of a bounded buffer

If all value slots of a mask take the same characters, it does not matter which slot a character goes
to, and the mask is a buffer with room for as many characters as it has value slots.  An edit of the
shown text is then an edit of this buffer: whatever literals the range runs over, some of the characters
are replaced by others, and what there is no room for is cut off at the end that is read last.

* `Placement.taken_eq_take` — slots that take every character are filled one after another.
* `Mask.Uniform.value_layout` — the value of a layout is the input, as far as there is room.
* **`Mask.Uniform.edit_value`** — what becomes of the value in an edit.
-/

namespace MaskedInput

namespace Layout

variable {slots : List Slot} {k : ℕ} {input : List (Char × ℕ)} {cells : List Cell}

/-- If the value slots take every character, the first characters are placed, one in each. -/
lemma Placement.taken_eq_take (h : Placement slots k input cells)
    (takes : ∀ s ∈ slots, s.isLiteral = false → ∀ p ∈ input, s.accepts p.1 = true) :
    taken cells = input.take (slots.countP (!·.isLiteral)) := by
  induction h with
  | endOfMask => rfl
  | endOfInput => rw [List.take_nil, taken_nil]
  | hides l _ ih =>
      rw [List.countP_cons_of_neg (by simp [Slot.isLiteral])]
      exact ih (List.forall_mem_of_forall_mem_cons takes)
  | shows l _ ih =>
      rw [List.countP_cons_of_neg (by simp [Slot.isLiteral]), taken_literal]
      exact ih (List.forall_mem_of_forall_mem_cons takes)
  | takes optional i fits _ ih =>
      have others := ih fun s hs value p hp =>
        takes s (List.mem_cons_of_mem _ hs) value p (List.mem_cons_of_mem _ hp)
      rw [List.countP_cons_of_pos (by simp [Slot.isLiteral]), List.take_succ_cons, taken_value, others]
  | skips misfits =>
      have fits := takes _ List.mem_cons_self rfl _ List.mem_cons_self
      rw [Slot.accepts, misfits] at fits
      exact absurd fits Bool.false_ne_true
  | drops i misfits =>
      have fits := takes _ List.mem_cons_self rfl _ List.mem_cons_self
      rw [Slot.accepts, misfits] at fits
      exact absurd fits Bool.false_ne_true

end Layout

namespace Mask

variable {m : Mask} {tail : Tail} {input v : List Char} {e : Edit}

/-- The characters for which the mask has room: those that are read first. -/
def cut (m : Mask) (xs : List Char) : List Char :=
  if m.rightToLeft then xs.rtake m.maxValueLength else xs.take m.maxValueLength

lemma cut_eq_inReading (m : Mask) (xs : List Char) :
    m.cut xs = m.inReading ((m.inReading xs).take m.maxValueLength) := by
  simp only [cut, inReading]
  split_ifs
  · exact List.rtake_eq_reverse_take_reverse ..
  · rfl

lemma cut_of_length_le (fits : input.length ≤ m.maxValueLength) : m.cut input = input := by
  rw [cut_eq_inReading, List.take_of_length_le (by simpa using fits), inReading_inReading]

lemma length_cut_le (m : Mask) (xs : List Char) : (m.cut xs).length ≤ m.maxValueLength := by
  rw [cut_eq_inReading, length_inReading]
  exact List.length_take_le _ _

/-- **A buffer.**  Of characters that the mask takes, the value keeps as many as there is room for. -/
lemma Uniform.value_layout (h : m.Uniform) (accepted : ∀ c ∈ input, m.acceptsAnywhere c = true) :
    (m.layout tail input).value = m.cut input := by
  have walk := Layout.placement_place (m.inReading m.slots) 0 (m.inReading input).zipIdx
  have takes : ∀ s ∈ m.inReading m.slots, s.isLiteral = false →
      ∀ p ∈ (m.inReading input).zipIdx, s.accepts p.1 = true := by
    intro s hs value p hp
    have mem : p.1 ∈ input := by simpa using List.mem_map_of_mem (f := Prod.fst) hp
    exact h.accepts (accepted p.1 mem) (m.mem_inReading.mp hs) value
  rw [Mask.value_layout, Layout.value_eq_seats, seats_readLayout, ← Layout.map_fst_taken,
    walk.taken_eq_take takes, List.map_take, List.zipIdx_map_fst, countP_inReading, cut_eq_inReading]
  rfl

/-- **An edit of a bounded buffer.**  Let all value slots of the mask take the same characters, and let
the value consist of such characters, no more than there is room for.  An edit within its text puts
characters of the replacement in the place of those that are shown in the range, and what there is no
room for is cut off.  Only characters that the mask takes are put there, and all of them are, unless
some may be literals: where several characters are pasted and some slot takes a literal of the mask. -/
theorem Uniform.edit_value (h : m.Uniform) (accepted : ∀ c ∈ v, m.acceptsAnywhere c = true)
    (fits : v.length ≤ m.maxValueLength) (within : e.Within (m.layout .afterValue v).cells.length) :
    ∃ r kept, m.edit v e = .ok r
      ∧ r.value = m.cut (v.take ((m.layout .afterValue v).valuesBefore e.start) ++ kept
          ++ v.drop ((m.layout .afterValue v).valuesBefore e.stop))
      ∧ kept.Sublist (e.replacement.filter m.acceptsAnywhere)
      ∧ (e.replacement.length ≤ 1 ∨ m.LiteralsApart →
          kept = e.replacement.filter m.acceptsAnywhere) := by
  have old : (m.layout .afterValue v).value = v := by
    rw [h.value_layout accepted, cut_of_length_le fits]
  rw [edit_eq, if_pos within]
  refine ⟨_, m.keptOf (m.layout .afterValue v) e, rfl, ?_, kept_align_sublist .., ?_⟩
  · show (m.edited v e {}).value = _
    rw [edited, h.value_layout fun _ => m.acceptsAnywhere_of_mem_editedInput v e {}, editedInput,
      spliced, old]
    rfl
  · rintro (single | apart)
    · have typed : absorbsLiterals e.replacement = false := by
        rw [absorbsLiterals, decide_eq_false_iff_not]
        omega
      rw [keptOf, typed, kept_align_typed]
    · exact apart.kept_align ..

/-- The range runs over two literals.  There is room for three digits, so the first one is pushed out,
and the mask is filled from the right. -/
theorem exists_edit_value : ∃ (m : Mask) (e : Edit), m.Uniform ∧ m.LiteralsApart
    ∧ m.rightToLeft = true ∧ (∀ c ∈ "123".toList, m.acceptsAnywhere c = true)
    ∧ "123".toList.length ≤ m.maxValueLength
    ∧ (m.layout .afterValue "123".toList).text = "1-2)3".toList
    ∧ e.Within (m.layout .afterValue "123".toList).cells.length
    ∧ ∃ r, m.edit "123".toList e = .ok r ∧ r.value = "983".toList := by
  let digit : Slot := .value .digit false
  let optionalDigit : Slot := .value .digit true
  let m : Mask := ⟨[], [optionalDigit, .literal '-', digit, .literal ')', optionalDigit], true, true⟩
  let e : Edit := ⟨1, 4, "x98".toList⟩
  have uniform : m.Uniform := by simp [Uniform, m, digit, optionalDigit, Slot.isLiteral, Slot.accepts]
  have apart : m.LiteralsApart := by
    intro l hl
    have : l = '-' ∨ l = ')' := by simpa [m, digit, optionalDigit] using hl
    rcases this with rfl | rfl <;> decide
  have accepted : ∀ c ∈ "123".toList, m.acceptsAnywhere c = true :=
    List.all_eq_true.mp (by decide)
  have fits : "123".toList.length ≤ m.maxValueLength := by decide
  have within : e.Within (m.layout .afterValue "123".toList).cells.length := by decide
  obtain ⟨r, kept, ok, value, -, all⟩ := uniform.edit_value accepted fits within
  obtain rfl := all (Or.inr apart)
  exact ⟨m, e, uniform, apart, rfl, accepted, fits, by decide, within, r, ok,
    value.trans (by decide)⟩

end Mask

end MaskedInput
