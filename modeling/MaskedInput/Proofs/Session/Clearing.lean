import MaskedInput.Proofs.Layout.Completeness
import MaskedInput.Proofs.Session.Range

/-!
# The field cleared

A field that was cleared is not quite the field it was at the start: a deletion hides the tail, and the
new field has shown nothing yet.  No one can see the difference, now or later.  An empty value shows no
tail under either policy, and the next edit sets the policy anew.

* `Session.ActsLike` — two sessions that differ in the tail policy only, and lay out their value alike.
* **`Session.ActsLike.step`**, `Session.ActsLike.run` — they give the same answers from then on, and they
  go on to act alike.
* `Session.clear_actsLike_start` — the cleared field acts like the new one.
* **`Session.run_clear_eq`** — after it was cleared, the field answers as it did at the start.
-/

namespace MaskedInput

namespace Mask

/-- The tail policy of the old text matters only to how the old text is laid out. -/
lemma edit_congr_oldTail (m : Mask) (v : List Char) (e : Edit) (o : EditOptions) {tail : Tail}
    (same : m.layout tail v = m.layout o.oldTail v) :
    m.edit v e { o with oldTail := tail } = m.edit v e o := by
  rw [edit, edit]
  simp only [same]
  rfl

/-- An empty value is shown the same with its tail hidden. -/
lemma layout_hidden_nil (m : Mask) (values : m.hasValueSlots = true) :
    m.layout .hidden [] = m.layout .afterValue [] := by
  have hidden := m.cells_layout_eq_nil [] values (by simp) (m.value_layout_nil .hidden)
  have shown := m.cells_layout_eq_nil [] values (by simp) (m.value_layout_nil .afterValue)
  have complete := m.complete_layout_tail .hidden [] .afterValue
  cases h : m.layout .hidden []
  cases h' : m.layout .afterValue []
  simp_all

end Mask

namespace Session

variable {f : Field} {s t : Session}

/-! ## Sessions that act alike -/

/-- **Two sessions act alike**: they differ in the tail policy only, and lay out their value alike. -/
def ActsLike (s t : Session) : Prop :=
  ∃ tail, s = { t with tail } ∧ t.mask.layout tail t.current.value = t.layout

/-- Two results agree: the answer is the same, and the sessions act alike. -/
def Agree {α : Type} (r r' : Session × α) : Prop := r.2 = r'.2 ∧ r.1.ActsLike r'.1

lemma ActsLike.refl (s : Session) : s.ActsLike s := ⟨s.tail, rfl, rfl⟩

lemma agree_of_eq {α : Type} {r r' : Session × α} (h : r = r') : Agree r r' := by
  rw [h]
  exact ⟨rfl, ActsLike.refl _⟩

lemma Agree.answered {r r' : Session × Update} (h : Agree r r') : Agree (answered r) (answered r') :=
  ⟨congrArg Except.ok h.1, h.2⟩

namespace ActsLike

lemma current_eq (h : s.ActsLike t) : s.current = t.current := by
  obtain ⟨_, rfl, -⟩ := h
  rfl

lemma unchanged (h : s.ActsLike t) : Agree s.unchanged t.unchanged :=
  ⟨by rw [Session.unchanged, Session.unchanged, h.current_eq], h⟩

lemma with_focused (h : s.ActsLike t) (focused : Bool) :
    ActsLike { s with focused } { t with focused } := by
  obtain ⟨tail, rfl, same⟩ := h
  exact ⟨tail, rfl, same⟩

/-- Laying the value out again sets the policy anew. -/
lemma relayout (h : s.ActsLike t) (tail : Tail) : Agree (s.relayout tail) (t.relayout tail) := by
  obtain ⟨_, rfl, -⟩ := h
  exact agree_of_eq rfl

/-- So does an edit, and up to there it asks for nothing but the old layout. -/
lemma edit_eq (h : s.ActsLike t) (e : Edit) : s.edit e = t.edit e := by
  obtain ⟨tail, rfl, same⟩ := h
  have layout : Session.layout { t with tail } = t.layout := same
  have masked (e : Edit) : (Session.mask { t with tail }).edit t.current.value e
      (editOptions { t with tail }) = t.mask.edit t.current.value e t.editOptions :=
    t.mask.edit_congr_oldTail t.current.value e t.editOptions same
  have edited : Session.edited { t with tail } e = t.edited e := by
    simp only [Session.edited, editAmong, masked, layout]
    rfl
  rw [edit, edit, edited]
  rfl

lemma setText (h : s.ActsLike t) (text : List Char) : Agree (s.setText text) (t.setText text) := by
  rw [Session.setText, Session.setText, h.edit_eq, h.current_eq]
  cases t.edit ⟨0, t.current.text.length, text⟩ with
  | ok r => exact agree_of_eq rfl
  | error error => exact h.unchanged

lemma focus (h : s.ActsLike t) : Agree s.focus t.focus := by
  have focused := h.with_focused true
  obtain ⟨tail, rfl, -⟩ := h
  rw [Session.focus, Session.focus]
  by_cases shown : (t.field.autocompleteOnFocus && t.current.value.isEmpty) = true
  · rw [if_pos shown, if_pos shown]
    exact focused.relayout .eager
  · rw [if_neg shown, if_neg shown]
    exact focused.unchanged

lemma blur (h : s.ActsLike t) : Agree s.blur t.blur := by
  have focused := h.with_focused false
  obtain ⟨tail, rfl, -⟩ := h
  rw [Session.blur, Session.blur]
  by_cases shown : (t.current.value.isEmpty && !t.current.text.isEmpty) = true
  · rw [if_pos shown, if_pos shown]
    exact focused.relayout .afterValue
  · rw [if_neg shown, if_neg shown]
    exact focused.unchanged

/-- **One operation**: both sessions give the same answer, and they go on to act alike. -/
theorem step (h : s.ActsLike t) (operation : Operation) :
    Agree (s.step operation) (t.step operation) := by
  cases operation with
  | edit e =>
      rw [Session.step, Session.step, h.edit_eq e]
      cases t.edit e with
      | ok r => exact agree_of_eq rfl
      | error error => exact ⟨rfl, h⟩
  | setText text => exact (h.setText text).answered
  | clear => exact (h.setText []).answered
  | focus => exact h.focus.answered
  | blur => exact h.blur.answered

/-- **A run of operations**: all answers are the same. -/
theorem run (h : s.ActsLike t) (operations : List Operation) :
    Agree (s.run operations) (t.run operations) := by
  induction operations generalizing s t with
  | nil => exact ⟨rfl, h⟩
  | cons operation operations ih =>
      obtain ⟨answer, alike⟩ := h.step operation
      obtain ⟨answers, alike⟩ := ih alike
      exact ⟨congrArg₂ List.cons answer answers, alike⟩

end ActsLike

/-! ## The cleared field -/

/-- Where the whole text can be replaced, the cleared field acts like the new one. -/
lemma clear_actsLike_start (h : Reachable f s) (same : s.SameLength)
    (values : f.primary.hasValueSlots = true) (unfocused : s.focused = false) :
    s.clear.1.ActsLike (start f) := by
  obtain ⟨intent, emptied⟩ := edit_all_nil h.displaysLayout h.activeChosen
    (same.followsText.edit_all_eq_ok [])
  have hidden := f.primary.layout_hidden_nil values
  have empty := f.primary.cells_layout_eq_nil [] values (by simp) (f.primary.value_layout_nil .afterValue)
  refine ⟨.hidden, ?_, ?_⟩
  · rw [clear, emptied, h.field_eq, unfocused, hidden, Layout.display_of_cells_eq_nil empty, start,
      Mask.display, Layout.display_of_cells_eq_nil empty]
  · show f.primary.layout .hidden (f.primary.layout .afterValue []).value
      = f.primary.layout .afterValue (f.primary.layout .afterValue []).value
    rw [Mask.value_layout_nil, hidden]

/-- **Clearing erases all history.**  Let no mask of the field have an optional value slot, or else let all
its value slots take the same characters, and let something be typeable into the primary mask.  Cleared
without the focus, the field answers every further run of operations as the new field does, and what it
shows in the end is the same. -/
theorem run_clear_eq (h : Reachable f s) (regular : ∀ m ∈ f.masks, m.Regular)
    (values : f.primary.hasValueSlots = true) (unfocused : s.focused = false)
    (operations : List Operation) :
    (s.clear.1.run operations).2 = ((start f).run operations).2
      ∧ (s.clear.1.run operations).1.current = ((start f).run operations).1.current
      ∧ (s.clear.1.run operations).1.active = ((start f).run operations).1.active
      ∧ (s.clear.1.run operations).1.focused = ((start f).run operations).1.focused := by
  have same := (h.displaysLayout.coherent (h.mask_regular regular)).sameLength
  obtain ⟨answers, tail, shown, -⟩ := (clear_actsLike_start h same values unfocused).run operations
  refine ⟨answers, ?_, ?_, ?_⟩
  · rw [shown]
  · rw [shown]
  · rw [shown]

/-- The letter has switched the mask.  The cleared field hides its tail and is not the new one. -/
theorem exists_run_clear_eq : ∃ (f : Field) (s : Session) (operations : List Operation),
    Reachable f s ∧ (∀ m ∈ f.masks, m.Regular) ∧ f.primary.hasValueSlots = true ∧ s.focused = false
      ∧ s.active = 1 ∧ s.current.text = "a-".toList ∧ s.clear.1 ≠ start f
      ∧ (s.clear.1.run operations).2 = ((start f).run operations).2
      ∧ (s.clear.1.run operations).1.current = ((start f).run operations).1.current
      ∧ ((start f).run operations).1.current = ⟨"(5)".toList, "5".toList, 3, false⟩ := by
  let digit : Slot := .value .digit false
  let letter : Slot := .value .letter false
  let f : Field :=
    { primary := ⟨[], [.literal '(', digit, .literal ')', digit], true, false⟩
      others := [⟨[], [letter, .literal '-', letter], true, false⟩]
      autoskip := true
      autocompleteOnFocus := true }
  have reachable : Reachable f ((start f).step (.setText ['a'])).1 := .step .start _
  have regular : ∀ m ∈ f.masks, m.Regular := by
    intro m hm
    rcases List.mem_cons.mp hm with rfl | hm
    · exact Or.inl (by simp [Mask.NoOptional, f, digit, Slot.isMandatory, Slot.isLiteral])
    · obtain rfl := List.mem_singleton.mp hm
      exact Or.inl (by simp [Mask.NoOptional, letter, Slot.isMandatory, Slot.isLiteral])
  have same := run_clear_eq reachable regular rfl (by decide +kernel)
    [.focus, .edit ⟨1, 1, ['5']⟩, .edit ⟨0, 9, []⟩, .blur]
  exact ⟨f, _, _, reachable, regular, rfl, by decide +kernel, by decide +kernel, by decide +kernel,
    by decide +kernel, same.1, same.2.1, by decide +kernel⟩

end Session

end MaskedInput
