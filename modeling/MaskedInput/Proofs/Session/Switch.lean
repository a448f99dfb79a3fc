import MaskedInput.Proofs.Layout.Caret
import MaskedInput.Proofs.Session.Coherence

/-!
# The caret after a change of the mask

When an edit changes the mask, the old layout is of no use, and the text after the edit is read afresh.
The caret belongs behind its head, that is behind the replacement.  How much of the value the head makes
up is found out by reading one part of the text once more by itself: the head if the mask is read from the
left, and what is behind it if the mask is read from the right.  What becomes of a character does not
depend on what is read after it, so this part is read as it was in the whole text.

* `Alignment.keptAt` — where the text holds the characters that are kept.
* `Layout.stemming` — how many of the shown characters stem from the beginning of the text.
* `Session.stepsOf` — how a part of the text after an edit is read; `Session.reread_eq` — the caret of the
  new display belongs behind what is kept of the head.
* **`Session.caret_of_switch`** — the caret stands behind the characters that stem from the head.
-/

namespace MaskedInput

namespace Alignment

/-! ## Where the kept characters come from -/

/-- Where the text holds the characters that are kept. -/
def keptAt (steps : List Step) : List ℕ := (steps.zipIdx.filter (·.1.fate.keeps)).map (·.2)

lemma kept_eq_zipIdx (steps : List Step) :
    kept steps = (steps.zipIdx.filter (·.1.fate.keeps)).map (·.1.char) := by
  conv_lhs => rw [kept, ← List.zipIdx_map_fst 0 steps, List.filter_map, List.map_map]
  rfl

lemma length_keptAt (steps : List Step) : (keptAt steps).length = (kept steps).length := by
  rw [kept_eq_zipIdx, keptAt, List.length_map, List.length_map]

/-- The text holds them there. -/
lemma map_keptAt (steps : List Step) :
    (keptAt steps).map ((steps.map (·.char))[·]?) = (kept steps).map some := by
  rw [kept_eq_zipIdx, keptAt, List.map_map, List.map_map]
  apply List.map_congr_left
  rintro ⟨step, i⟩ mem
  have here := List.mem_zipIdx_iff_getElem?.mp (List.mem_of_mem_filter mem)
  simp only [Function.comp_apply, List.getElem?_map]
  rw [here, Option.map_some]

/-- The characters that are kept first come from the front of the text. -/
lemma any_keptAt_append (front back : List Step) (i : ℕ) :
    (keptAt (front ++ back))[i]?.any (· < front.length) = decide (i < (kept front).length) := by
  -- The positions of the second part start where the first part ends.
  have split : keptAt (front ++ back) = keptAt front
      ++ ((back.zipIdx front.length).filter (·.1.fate.keeps)).map (·.2) := by
    rw [keptAt, List.zipIdx_append, List.filter_append, List.map_append, Nat.zero_add, ← keptAt]
  rw [split, ← length_keptAt]
  by_cases first : i < (keptAt front).length
  · have within : (keptAt front)[i] < front.length := by
      obtain ⟨⟨step, j⟩, mem, eq⟩ := List.mem_map.mp (List.getElem_mem first)
      have := (List.mem_zipIdx (List.mem_of_mem_filter mem)).2.1
      omega
    rw [List.getElem?_append_left first, List.getElem?_eq_getElem first]
    simp [first, within]
  · rw [List.getElem?_append_right (not_lt.mp first), decide_eq_false first, Option.any_eq_false]
    intro j hj
    obtain ⟨⟨step, j⟩, mem, rfl⟩ := List.mem_map.mp (List.mem_of_getElem? hj)
    have := (List.mem_zipIdx (List.mem_of_mem_filter mem)).1
    simpa using this

end Alignment

/-- How many of the shown characters stem from the first `n` characters of a text, of which the
characters at `origins` were kept and laid out. -/
def Layout.stemming (l : Layout) (origins : List ℕ) (n : ℕ) : ℕ :=
  l.valueCells.countP fun c => c.source.any fun i => origins[i]?.any (· < n)

/-- They are the shown characters in front of the boundary behind what is kept of the front. -/
lemma Layout.stemming_eq (l : Layout) (front back : List Step) :
    l.stemming (Alignment.keptAt (front ++ back)) front.length
      = l.placedBefore (Alignment.kept front).length := by
  simp only [stemming, placedBefore, Alignment.any_keptAt_append]

namespace Session

open MaskedInput.Alignment

variable {s : Session} {e : Edit}

/-! ## The text after the edit -/

/-- How a part of the text after an edit is read under a mask. -/
def stepsOf (s : Session) (e : Edit) (m : Mask) (part : List Char) : List Step :=
  m.align 0 part (absorbsLiterals (s.headOf e ++ s.restOf e))

/-- The steps of the head, and those of what is behind it. -/
lemma exists_front_back (s : Session) (e : Edit) (m : Mask) :
    ∃ front back, s.stepsOf e m (s.headOf e ++ s.restOf e) = front ++ back
      ∧ front.map (·.char) = s.headOf e ∧ back.map (·.char) = s.restOf e :=
  List.map_eq_append_iff.mp (m.map_char_align ..)

section Parts

variable {m : Mask} {front back : List Step}
  (steps : s.stepsOf e m (s.headOf e ++ s.restOf e) = front ++ back)
  (length : front.length = (s.headOf e).length)

include steps length

/-- From the left, the head is read as it would be by itself. -/
lemma stepsOf_headOf (left : m.rightToLeft = false) : s.stepsOf e m (s.headOf e) = front :=
  calc s.stepsOf e m (s.headOf e)
    _ = (s.stepsOf e m (s.headOf e ++ s.restOf e)).take (s.headOf e).length := by
        rw [stepsOf, stepsOf, Mask.take_align left, List.take_left]
    _ = front := by rw [steps, ← length, List.take_left]

/-- From the right, what is behind the head is read as it would be by itself. -/
lemma stepsOf_restOf (right : m.rightToLeft = true) : s.stepsOf e m (s.restOf e) = back :=
  calc s.stepsOf e m (s.restOf e)
    _ = (s.stepsOf e m (s.headOf e ++ s.restOf e)).drop (s.headOf e).length := by
        rw [stepsOf, stepsOf, Mask.drop_align right, List.drop_left]
    _ = back := by rw [steps, ← length, List.drop_left]

/-- Whichever part of the text is read once more, the caret belongs behind what is kept of the head. -/
lemma reread_eq :
    s.reread m e (s.headOf e) (s.restOf e)
      = (m.layout (s.editOptions.tailAfter e) (kept (front ++ back))).display (kept front).length
          e.gravity := by
  have intent : (if m.rightToLeft
      then (kept (front ++ back)).length - (kept (s.stepsOf e m (s.restOf e))).length
      else (kept (s.stepsOf e m (s.headOf e))).length) = (kept front).length := by
    split_ifs with reading
    · rw [stepsOf_restOf steps length reading, kept_append, List.length_append,
        Nat.add_sub_cancel_right]
    · rw [stepsOf_headOf steps length (by simpa using reading)]
  rw [← intent, ← steps]
  rfl

end Parts

/-- After a change of the mask, what is displayed is the text that was read afresh. -/
lemma current_of_switched {r : Session × Update} (ok : s.edit e = .ok r)
    (switched : r.1.active ≠ s.active) :
    r.1.current = s.reread r.1.mask e (s.headOf e) (s.restOf e)
      ∧ r.1.tail = s.editOptions.tailAfter e := by
  obtain ⟨i, d, edited, rfl⟩ := edit_eq_ok ok
  rcases edited_cases edited with ⟨-, -, same, -⟩ | ⟨-, -, -, -, rfl⟩
  · exact absurd same switched
  · exact ⟨rfl, rfl⟩

/-- **The caret after a change of the mask.**  The text after the edit is read in two parts, its head up
to the end of the replacement and what is behind it, and the value is what is kept of the one followed by
what is kept of the other.  The part that is read first, which is the head from the left and the other one
from the right, is read as it would be by itself, so no more is taken away from the value than it holds.
In front of the caret stand as many typed characters as stem from the head. -/
theorem caret_of_switch {r : Session × Update} (ok : s.edit e = .ok r)
    (switched : r.1.active ≠ s.active) :
    ∃ (front back : List Step) (l : Layout),
      s.stepsOf e r.1.mask (s.headOf e ++ s.restOf e) = front ++ back
        ∧ front.map (·.char) = s.headOf e ∧ back.map (·.char) = s.restOf e
        ∧ kept (front ++ back) = kept front ++ kept back
        ∧ (r.1.mask.rightToLeft = false → s.stepsOf e r.1.mask (s.headOf e) = front)
        ∧ (r.1.mask.rightToLeft = true → s.stepsOf e r.1.mask (s.restOf e) = back
          ∧ (kept back).length ≤ (kept (front ++ back)).length)
        ∧ (keptAt (front ++ back)).map ((s.headOf e ++ s.restOf e)[·]?)
          = (kept (front ++ back)).map some
        ∧ l = r.1.mask.layout r.1.tail (kept (front ++ back))
        ∧ r.1.current = l.display (kept front).length e.gravity
        ∧ l.valuesBefore r.1.current.caret
          = l.stemming (keptAt (front ++ back)) (s.headOf e).length := by
  obtain ⟨current, tail⟩ := current_of_switched ok switched
  obtain ⟨front, back, steps, head, rest⟩ := s.exists_front_back e r.1.mask
  have length : front.length = (s.headOf e).length := by rw [← head, List.length_map]
  rw [reread_eq steps length, ← tail] at current
  refine ⟨front, back, _, steps, head, rest, kept_append front back, ?_, ?_, ?_, rfl, current, ?_⟩
  · exact stepsOf_headOf steps length
  · intro right
    refine ⟨stepsOf_restOf steps length right, ?_⟩
    rw [kept_append, List.length_append]
    exact Nat.le_add_left ..
  · rw [← map_keptAt, List.map_append, head, rest]
  · rw [← length, Layout.stemming_eq, current]
    exact (Mask.layout_ordered ..).caretFits.valuesBefore_eq _ e.gravity

/-- Filled from the right, and pasted into with a character that no slot takes: the third digit is one too
many for the primary mask.  The digits 1 and 3 stem from the head. -/
theorem exists_caret_of_switch : ∃ (f : Field) (s : Session) (e : Edit) (r : Session × Update),
    Reachable f s ∧ s.edit e = .ok r ∧ s.active = 0 ∧ r.1.active = 1 ∧ r.1.mask.rightToLeft = true
      ∧ s.headOf e = "1x3".toList ∧ s.restOf e = "2".toList
      ∧ keptAt (s.stepsOf e r.1.mask (s.headOf e ++ s.restOf e)) = [0, 2, 3]
      ∧ r.1.current.text = "1-32".toList ∧ r.1.current.caret = 3
      ∧ (r.1.mask.layout r.1.tail "132".toList).valuesBefore r.1.current.caret
        = (r.1.mask.layout r.1.tail "132".toList).stemming [0, 2, 3] 3
      ∧ (r.1.mask.layout r.1.tail "132".toList).stemming [0, 2, 3] 3 = 2 := by
  let digit : Slot := .value .digit false
  let f : Field :=
    { primary := ⟨[], [digit, digit], true, true⟩
      others := [⟨[], [digit, .literal '-', digit, digit], true, true⟩] }
  let s : Session := ((start f).step (.setText "12".toList)).1
  let e : Edit := ⟨1, 1, "x3".toList⟩
  let d : Display := ⟨"1-32".toList, "132".toList, 3, true⟩
  let r : Session × Update := ({ s with active := 1, current := d }, ⟨d, none⟩)
  have reachable : Reachable f s := .step .start _
  have ok : s.edit e = .ok r := by decide +kernel
  have head : s.headOf e = "1x3".toList := by decide +kernel
  have rest : s.restOf e = "2".toList := by decide +kernel
  have switched : r.1.active ≠ s.active := by decide +kernel
  obtain ⟨front, back, l, steps, -, -, -, -, -, -, shown, -, carets⟩ := caret_of_switch ok switched
  have value : kept (s.stepsOf e r.1.mask (s.headOf e ++ s.restOf e)) = "132".toList := by
    decide +kernel
  have origins : keptAt (s.stepsOf e r.1.mask (s.headOf e ++ s.restOf e)) = [0, 2, 3] := by
    decide +kernel
  have length : (s.headOf e).length = 3 := by decide +kernel
  rw [shown, ← steps, value, origins, length] at carets
  exact ⟨f, s, e, r, reachable, ok, by decide +kernel, by decide +kernel, by decide +kernel, head, rest,
    origins, by decide +kernel, by decide +kernel, carets, by decide +kernel⟩

end Session

end MaskedInput
