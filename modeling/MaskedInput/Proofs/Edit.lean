import MaskedInput.Edit
import MaskedInput.Proofs.Alignment
import MaskedInput.Proofs.Layout.Caret
import MaskedInput.Proofs.Layout.Length

/-!
# What an edit leads to

An edit lays out a new value, spliced together from the old one and the replacement.  The caller
keeps only the value that is shown in the end, so it matters whether this value leads back to the
same text.

* `Mask.edited` — the layout that an edit leads to.
* `Mask.edit_eq` — an edit displays this layout if its range lies within the old text, and is an
  error otherwise.
* **`Mask.relayout_of_edit_iff`** — when the value of the outcome leads back to its text, and when
  also to the same slots.
-/

namespace MaskedInput

namespace Edit

variable (e : Edit) (autoskip : Bool) (old : Layout)

/-- Autoskip moves the start of the range and nothing else. -/
lemma widened_eq : ∃ start, e.widened autoskip old = { e with start } := by
  rw [widened]
  split_ifs
  · exact ⟨_, rfl⟩
  · exact ⟨e.start, rfl⟩

@[simp] lemma widened_replacement : (e.widened autoskip old).replacement = e.replacement := by
  obtain ⟨start, h⟩ := e.widened_eq autoskip old
  rw [h]

@[simp] lemma widened_stop : (e.widened autoskip old).stop = e.stop := by
  obtain ⟨start, h⟩ := e.widened_eq autoskip old
  rw [h]

@[simp] lemma isDeletion_widened : (e.widened autoskip old).isDeletion = e.isDeletion := by
  rw [isDeletion, widened_replacement, ← isDeletion]

@[simp] lemma gravity_widened : (e.widened autoskip old).gravity = e.gravity := by
  rw [gravity, isDeletion_widened, ← gravity]

@[simp] lemma tailAfter_widened (o : EditOptions) :
    o.tailAfter (e.widened autoskip old) = o.tailAfter e := by
  rw [EditOptions.tailAfter, isDeletion_widened, ← EditOptions.tailAfter]

/-- It never moves it behind. -/
lemma widened_start_le : (e.widened autoskip old).start ≤ e.start := by
  rw [widened]
  split_ifs
  · show (old.valueBeforeLiterals? e.start).getD e.start ≤ e.start
    cases before : old.valueBeforeLiterals? e.start with
    | none => exact le_refl _
    | some p => exact (Layout.lt_of_valueBeforeLiterals? before).le
  · exact le_refl _

/-- At the start of the text there is nothing in front of a literal, so autoskip does not matter. -/
lemma widened_of_start_eq_zero (start : e.start = 0) : e.widened autoskip old = e := by
  have nothing : old.valueBeforeLiterals? 0 = none := by
    rw [Layout.valueBeforeLiterals?]
    split
    · rfl
    · split_ifs <;> rfl
  rw [widened, start, nothing, Option.getD_none, ← start]
  exact ite_self e

/-- Nor does it when nothing is deleted. -/
lemma widened_of_stop_eq (stop : e.stop = e.start) : e.widened autoskip old = e := by
  simp [widened, isSingleDeletion, stop]

/-- The edit lies within a text of the given length. -/
def Within (length : ℕ) : Prop := e.start ≤ e.stop ∧ e.stop ≤ length

instance (length : ℕ) : Decidable (e.Within length) :=
  inferInstanceAs (Decidable (e.start ≤ e.stop ∧ e.stop ≤ length))

lemma checked_eq (length : ℕ) :
    e.checked length = if e.Within length then .ok e else .error ⟨e.start, e.stop, length⟩ := rfl

end Edit

namespace Mask

variable (m : Mask) (oldValue : List Char) (e : Edit) (o : EditOptions)

/-- The value that an edit splices together. -/
def editedInput : List Char :=
  m.spliced (m.layout o.oldTail oldValue) (e.widened o.autoskip (m.layout o.oldTail oldValue))

/-- The boundary of the new value that lies behind the replacement. -/
def editedIntent : ℕ :=
  let old := m.layout o.oldTail oldValue
  old.valuesBefore (e.widened o.autoskip old).start
    + (m.keptOf old (e.widened o.autoskip old)).length

/-- **The layout that an edit leads to.** -/
def edited : Layout := m.layout (o.tailAfter e) (m.editedInput oldValue e o)

/-- The outcome of an edit: its layout, or the error with the length of the old text. -/
theorem edit_eq :
    m.edit oldValue e o = if e.Within (m.layout o.oldTail oldValue).cells.length
      then .ok ((m.edited oldValue e o).display (m.editedIntent oldValue e o) e.gravity)
      else .error ⟨e.start, e.stop, (m.layout o.oldTail oldValue).cells.length⟩ := by
  rw [edit]
  simp only [Edit.checked_eq]
  split_ifs with h
  · simp only [bind, Except.bind, pure, Except.pure, Edit.tailAfter_widened, Edit.gravity_widened]
    rfl
  · rfl

lemma acceptsAnywhere_of_mem_editedInput {c : Char} (hc : c ∈ m.editedInput oldValue e o) :
    m.acceptsAnywhere c = true := by
  rw [editedInput, spliced] at hc
  rcases List.mem_append.mp hc with hc | hc
  · rcases List.mem_append.mp hc with hc | hc
    · exact acceptsAnywhere_of_mem_value o.oldTail (List.mem_of_mem_take hc)
    · exact acceptsAnywhere_of_mem_kept hc
  · exact acceptsAnywhere_of_mem_value o.oldTail (List.mem_of_mem_drop hc)

/-- The boundary behind the replacement lies within the new value. -/
lemma editedIntent_le : m.editedIntent oldValue e o ≤ (m.editedInput oldValue e o).length := by
  have le := (m.layout o.oldTail oldValue).valuesBefore_le_length
    (e.widened o.autoskip (m.layout o.oldTail oldValue)).start
  rw [editedIntent, editedInput, spliced, List.length_append, List.length_append,
    List.length_take_of_le le]
  exact Nat.le_add_right _ _

lemma tight_edited (h : m.Regular) : m.Tight (m.edited oldValue e o) :=
  h.tight_layout _ fun _ => m.acceptsAnywhere_of_mem_editedInput oldValue e o

/-! ## Laying the outcome out again -/

/-- The mask under which the outcome of an edit is laid out again: a deletion hides the tail, as
does a mask without autocompletion. -/
def after : Mask := if e.isDeletion then { m with autocomplete := false } else m

lemma layout_autocomplete_false (tail : Tail) (input : List Char) :
    ({ m with autocomplete := false } : Mask).layout tail input = m.layout .hidden input := by
  simp [layout, tailPolicy, reversed]

lemma layout_after (input : List Char) :
    (m.after e).layout .afterValue input = m.layout (({} : EditOptions).tailAfter e) input := by
  rw [after, EditOptions.tailAfter]
  split_ifs
  · exact m.layout_autocomplete_false .afterValue input
  · rfl

/-- **When the outcome of an edit can be derived from its value.**  A successful edit displays the
layout `m.edited oldValue e`.  Laying its value out again gives the same text and completeness exactly
when a tight layout has this value, text and completeness, and the same characters in the same slots
exactly when the layout itself is tight: no typed character passes by a slot that takes it.  Over a
regular mask this is so for every edit. -/
theorem relayout_of_edit_iff {m : Mask} {oldValue : List Char} {e : Edit} {r : Display}
    (h : m.edit oldValue e = .ok r) :
    (∀ intent gravity,
        ((m.after e).display r.value intent gravity).text = r.text
            ∧ ((m.after e).display r.value intent gravity).complete = r.complete
          ↔ m.TightlyShown (({} : EditOptions).tailAfter e) r.text r.value r.complete)
      ∧ (((m.after e).layout .afterValue r.value).Alike (m.edited oldValue e {})
          ↔ m.Tight (m.edited oldValue e {}))
      ∧ (m.Tight (m.edited oldValue e {}) →
          m.TightlyShown (({} : EditOptions).tailAfter e) r.text r.value r.complete)
      ∧ (m.Regular → m.Tight (m.edited oldValue e {})) := by
  rw [edit_eq] at h
  split_ifs at h
  obtain rfl := Except.ok.inj h
  refine ⟨?_, ?_, ?_, m.tight_edited oldValue e {}⟩
  · intro intent gravity
    rw [display, layout_after]
    exact m.text_layout_value_iff _ _
  · rw [layout_after]
    exact m.layout_value_alike_iff _ _
  · exact fun tight => ⟨_, tight, rfl, rfl, rfl⟩

theorem exists_edit_relaid : ∃ (m : Mask) (e : Edit) (r : Display), m.Regular
    ∧ m.edit "12".toList e = .ok r ∧ r.text = "34-52".toList
    ∧ ((m.after e).display r.value 0).text = r.text
    ∧ ((m.after e).display r.value 0).complete = r.complete := by
  let digit : Slot := .value .digit false
  let m : Mask := ⟨[], [digit, digit, .literal '-', digit, digit], true, false⟩
  have regular : m.Regular :=
    Or.inl (by simp [NoOptional, m, digit, Slot.isMandatory, Slot.isLiteral])
  have edited : m.edit ['1', '2'] ⟨0, 1, ['3', '4', '5']⟩
      = .ok ⟨['3', '4', '-', '5', '2'], ['3', '4', '5', '2'], 4, true⟩ := by decide
  have relaid := relayout_of_edit_iff edited
  have shown := relaid.2.2.1 (relaid.2.2.2 regular)
  exact ⟨m, _, _, regular, edited, rfl, (relaid.1 0 .forward).mpr shown⟩

/-- The letter passes by the optional slot and is dropped at the next one, which takes the digit.
Without the letter, the digit goes to the optional slot. -/
theorem exists_edit_not_relaid : ∃ (m : Mask) (r : Display),
    compile [] "{0}[0]-[A]".toList = .ok m ∧ m.edit [] ⟨0, 0, "x1".toList⟩ = .ok r
      ∧ r.text = "1-".toList
      ∧ ((m.after ⟨0, 0, "x1".toList⟩).display r.value 0).text = "1".toList :=
  ⟨_, _, rfl, rfl, rfl, rfl⟩

end Mask

end MaskedInput
