import MaskedInput.Proofs.Layout.Caret
import MaskedInput.Proofs.Layout.Continuation
import MaskedInput.Proofs.Session.Coherence

/-!
# Typing a text

Someone who types a text makes one edit for each character, at the caret that the last one left
behind.  In between, the session keeps no more than the value.  Over a mask that is filled from the
left and has no optional slot, this comes to the same as laying the whole text out at once.

* `Mask.editedInput_of_atEnd` — an insertion at the end puts its characters behind the value.
* `Session.typeText` — a text typed at the caret, character by character.
* `Session.typed` — the session that shows a text as it is laid out at once.
* **`Session.edit_typed`** — one more character leads from one such session to the next.
* **`Session.typeText_start`** — typing a text leads to the session that shows it.
-/

namespace MaskedInput

/-! ## Inserting at the end -/

namespace Mask

variable {m : Mask} {oldValue : List Char} {e : Edit} {o : EditOptions}

lemma editedInput_of_atEnd (start : e.start = (m.layout o.oldTail oldValue).cells.length)
    (stop : e.stop = e.start) :
    m.editedInput oldValue e o
      = (m.layout o.oldTail oldValue).value ++ m.keptOf (m.layout o.oldTail oldValue) e := by
  rw [editedInput, Edit.widened_of_stop_eq _ _ _ stop, spliced, stop, start,
    Layout.valuesBefore_length, Layout.length_valueCells, List.take_length, List.drop_length,
    List.append_nil]

lemma editedIntent_of_atEnd (start : e.start = (m.layout o.oldTail oldValue).cells.length)
    (stop : e.stop = e.start) :
    m.editedIntent oldValue e o = (m.editedInput oldValue e o).length := by
  rw [editedInput_of_atEnd start stop, editedIntent, Edit.widened_of_stop_eq _ _ _ stop, start,
    Layout.valuesBefore_length, Layout.length_valueCells, List.length_append]

/-- **One more character** at the end of what is shown for a value is laid out behind the text that
the value came from. -/
theorem NoOptional.edit_atEnd (h : m.NoOptional) (left : m.rightToLeft = false) (autoskip : Bool)
    (text : List Char) (c : Char) {n : ℕ} (atEnd : n = (m.layout .afterValue text).cells.length) :
    m.edit (m.layout .afterValue text).value ⟨n, n, [c]⟩ { autoskip }
      = .ok (m.display (text ++ [c]) (text ++ [c]).length) := by
  have again := h.layout_value_append_alike .afterValue text [] left
  rw [List.append_nil, List.append_nil] at again
  have start : n = (m.layout .afterValue (m.layout .afterValue text).value).cells.length :=
    atEnd.trans again.length_eq.symm
  have input : m.editedInput (m.layout .afterValue text).value ⟨n, n, [c]⟩ { autoskip }
      = (m.layout .afterValue text).value ++ [c].filter m.acceptsAnywhere := by
    rw [editedInput_of_atEnd start rfl, again.value_eq]
    exact congrArg _ (m.kept_align_typed _ [c])
  have typed := display_eq_of_alike (h.layout_value_filter_alike .afterValue text left c)
  rw [edit_eq, if_pos ⟨le_refl n, start.le⟩, editedIntent_of_atEnd start rfl, ← typed, ← input]
  rfl

end Mask

/-! ## One character after another -/

namespace Session

/-- A text typed at the caret, character by character; it fails with the first edit that does. -/
def typeText (s : Session) : List Char → Except RangeError Session
  | [] => .ok s
  | c :: text => do
    let (s, _) ← s.edit (s.insertion [c])
    s.typeText text

/-- The session of a field that shows a text as its primary mask lays it out at once. -/
def typed (f : Field) (text : List Char) : Session :=
  { start f with current := f.primary.display text text.length }

section OneMask

variable {f : Field} (alone : f.others = []) (left : f.primary.rightToLeft = false)
  (h : f.primary.NoOptional)

include alone left h

/-- One more character leads from one such session to the next. -/
lemma edit_typed (text : List Char) (c : Char) :
    ∃ update, (typed f text).edit ((typed f text).insertion [c])
      = .ok (typed f (text ++ [c]), update) := by
  have caret := f.primary.caretForward_length .afterValue text
  have edited : (typed f text).edited ((typed f text).insertion [c])
      = .ok (0, f.primary.display (text ++ [c]) (text ++ [c]).length) := by
    rw [edited, if_pos (by simp [typed, start, alone])]
    exact congrArg ((0, ·) <$> ·) (h.edit_atEnd left f.autoskip text c caret)
  rw [edit, edited]
  exact ⟨_, rfl⟩

lemma typeText_typed (before text : List Char) :
    (typed f before).typeText text = .ok (typed f (before ++ text)) := by
  induction text generalizing before with
  | nil =>
      rw [List.append_nil]
      rfl
  | cons c text ih =>
      obtain ⟨update, ok⟩ := edit_typed alone left h before c
      rw [typeText, ok, List.append_cons before c text]
      exact ih _

end OneMask

/-- **Typing a text.**  In a field of one mask that is filled from the left and has no optional slot,
a text that is typed at the caret, character by character, ends in the session that shows it as it is
laid out at once, with the caret behind all of it.  No edit on the way fails. -/
theorem typeText_start {f : Field} (alone : f.others = []) (left : f.primary.rightToLeft = false)
    (h : f.primary.NoOptional) (text : List Char) :
    (start f).typeText text
      = .ok { start f with current := f.primary.display text text.length } :=
  typeText_typed alone left h [] text

/-- A literal is a digit as well, and the second letter is taken by no slot that is left. -/
theorem exists_typeText_start : ∃ f : Field, f.others = [] ∧ f.primary.rightToLeft = false
    ∧ f.primary.NoOptional
    ∧ (start f).typeText "a1x2".toList
        = .ok { start f with current := f.primary.display "a1x2".toList 4 }
    ∧ f.primary.display "a1x2".toList 4 = ⟨"a1112)".toList, "a12".toList, 6, true⟩ := by
  let digit : Slot := .value .digit false
  let m : Mask :=
    ⟨[], [.value .letter false, .literal '1', digit, .literal '1', digit, .literal ')'], true, false⟩
  have noOptional : m.NoOptional := by
    simp [Mask.NoOptional, m, digit, Slot.isMandatory, Slot.isLiteral]
  exact ⟨{ primary := m }, rfl, rfl, noOptional, typeText_start rfl rfl noOptional _, by decide⟩

end Session

end MaskedInput
