import MaskedInput.Proofs.Affinity
import MaskedInput.Proofs.Edit.Whole
import MaskedInput.Proofs.Session.Coherence

/-!
# Which ranges an edit may have

An edit replaces a range of the shown text.  The range is checked against the layout of the value,
though, and that one may be shorter than the shown text: a character that had passed by an optional
slot goes to it when the value is laid out again.

* `Session.FollowsText` — an edit fails exactly when its range does not lie within the shown text,
  and the error gives the length of that text.
* `Session.DisplaysLayout.layout_length_le` — the layout of the value is never longer than the
  shown text, so no edit outside of it succeeds.
* **`Session.followsText_iff_of_reachable`** — the range check follows the shown text exactly in
  the states where both have the same length; over regular masks these are all states.
-/

namespace MaskedInput

namespace Session

variable {f : Field} {s : Session}

/-- The active mask is one that was chosen for some text. -/
def ActiveChosen (s : Session) : Prop := ∃ text, s.field.pick text = s.active

lemma ActiveChosen.edit (h : s.ActiveChosen) {e : Edit} {r : Session × Update}
    (ok : s.edit e = .ok r) : r.1.ActiveChosen := by
  obtain ⟨i, d, edited, rfl⟩ := edit_eq_ok ok
  show ∃ text, s.field.pick text = i
  rcases edited_cases edited with ⟨-, -, rfl, -⟩ | ⟨-, -, rfl, -, -⟩
  · exact h
  · exact ⟨_, rfl⟩

lemma Reachable.activeChosen (h : Reachable f s) : s.ActiveChosen := by
  induction h with
  | start => exact ⟨[], f.pick_nil⟩
  | step _ operation ih =>
      exact step_induction (fun _ _ _ h ok => h.edit ok) (fun _ _ h => h) (fun _ _ h _ => h) ih
        operation

/-! ## The range check -/

/-- **The range check follows the shown text**: an edit fails exactly when its range does not lie
within the shown text, and the error gives the length of that text. -/
def FollowsText (s : Session) : Prop :=
  ∀ e : Edit,
    (e.Within s.current.text.length → ∃ r, s.edit e = .ok r)
      ∧ (¬ e.Within s.current.text.length →
        s.edit e = .error ⟨e.start, e.stop, s.current.text.length⟩)

/-- The layout of the value is as long as the shown text. -/
def SameLength (s : Session) : Prop := s.layout.cells.length = s.current.text.length

lemma DisplaysLayout.layout_length_le (h : s.DisplaysLayout) :
    s.layout.cells.length ≤ s.current.text.length := by
  obtain ⟨input, -, text, value, -⟩ := h.exists_input
  rw [layout, value, text, Layout.text, List.length_map]
  exact s.mask.length_layout_value_le s.tail input

lemma edit_ok_of_edited {e : Edit} {pair : ℕ × Display} (h : s.edited e = .ok pair) :
    ∃ r, s.edit e = .ok r := by
  rw [edit, h]
  exact ⟨_, rfl⟩

/-- What is displayed is as long as the layout that it is. -/
lemma Coherent.sameLength (h : s.Coherent) : s.SameLength := by
  rw [SameLength, h.text]
  exact (List.length_map _).symm

/-- Without a value, this is so in every state. -/
lemma DisplaysLayout.sameLength_of_value_eq_nil (h : s.DisplaysLayout)
    (untyped : s.current.value = []) : s.SameLength :=
  (h.coherent_of_value_eq_nil untyped).sameLength

lemma SameLength.followsText (h : s.SameLength) : s.FollowsText := by
  intro e
  by_cases alone : s.field.others = []
  · have edited := edited_alone s e alone
    rw [h] at edited
    constructor
    · intro within
      rw [if_pos within] at edited
      exact edit_ok_of_edited edited
    · intro without
      rw [if_neg without] at edited
      exact edit_eq_error edited
  · have edited := edited_among s e alone
    rw [h] at edited
    constructor
    · intro within
      rw [if_pos within, if_pos within] at edited
      by_cases same : s.chosen e = s.active
      · rw [if_pos same] at edited
        exact edit_ok_of_edited edited
      · rw [if_neg same] at edited
        exact edit_ok_of_edited edited
    · intro without
      rw [if_neg without] at edited
      exact edit_eq_error edited

/-- No edit outside of the shown text succeeds. -/
lemma DisplaysLayout.within_of_edit (h : s.DisplaysLayout) {e : Edit} {r : Session × Update}
    (ok : s.edit e = .ok r) : e.Within s.current.text.length := by
  obtain ⟨i, d, edited, -⟩ := edit_eq_ok ok
  rcases edited_cases edited with ⟨within, -, -, -⟩ | ⟨-, within, -, -, -⟩
  · exact ⟨within.1, within.2.trans h.layout_length_le⟩
  · exact within

/-! ## All of the text replaced -/

lemma chosen_all (s : Session) (text : List Char) :
    s.chosen ⟨0, s.current.text.length, text⟩ = s.field.pick text := by
  rw [chosen, headOf, restOf, Edit.widened_of_start_eq_zero _ _ _ rfl]
  simp

/-- Where the layout of the value is too short, the text cannot be replaced by one that fits the
active mask best. -/
lemma edit_all_eq_error (h : s.DisplaysLayout) (shorter : ¬ s.SameLength) {text : List Char}
    (picked : s.field.pick text = s.active) :
    s.edit ⟨0, s.current.text.length, text⟩
      = .error ⟨0, s.current.text.length, s.layout.cells.length⟩ := by
  apply edit_eq_error
  have within : Edit.Within ⟨0, s.current.text.length, text⟩ s.current.text.length :=
    ⟨Nat.zero_le _, le_refl _⟩
  have without : ¬ Edit.Within ⟨0, s.current.text.length, text⟩ s.layout.cells.length := by
    rintro ⟨-, le⟩
    exact shorter (le_antisymm h.layout_length_le le)
  by_cases alone : s.field.others = []
  · rw [edited_alone s _ alone, if_neg without]
  · rw [edited_among s _ alone, if_pos within, chosen_all, if_pos picked, if_neg without]

lemma FollowsText.edit_all_eq_ok (h : s.FollowsText) (text : List Char) :
    s.edit ⟨0, s.current.text.length, text⟩ = .ok (s.setText text) := by
  obtain ⟨r, ok⟩ := (h ⟨0, s.current.text.length, text⟩).1 ⟨Nat.zero_le _, le_refl _⟩
  rw [setText, ok]

/-! ## The field emptied -/

/-- A field whose mask changes when it is emptied has several masks. -/
lemma ActiveChosen.others_ne_nil (h : s.ActiveChosen) (changed : s.active ≠ 0) :
    s.field.others ≠ [] := by
  intro alone
  obtain ⟨text, picked⟩ := h
  rw [Field.pick, pick, alone] at picked
  exact changed picked.symm

lemma reread_nil (s : Session) (m : Mask) (e : Edit) :
    ∃ intent, s.reread m e [] []
      = (m.layout (s.editOptions.tailAfter e) []).display intent e.gravity := by
  simp only [reread, List.append_nil, Mask.align_nil]
  exact ⟨_, rfl⟩

lemma edited_all_nil {i : ℕ} {d : Display} (h : s.DisplaysLayout) (chosen : s.ActiveChosen)
    (edited : s.edited ⟨0, s.current.text.length, []⟩ = .ok (i, d)) :
    i = 0 ∧ ∃ intent, d = (s.field.primary.layout .hidden []).display intent .backward := by
  rcases edited_cases edited with ⟨within, kept, rfl, rfl⟩ | ⟨-, -, rfl, -, rfl⟩
  · have primary : s.active = 0 := by
      by_contra changed
      rcases kept with alone | kept
      · exact chosen.others_ne_nil changed alone
      · rw [chosen_all, s.field.pick_nil] at kept
        exact changed kept.symm
    have whole : s.layout.cells.length = s.current.text.length :=
      le_antisymm h.layout_length_le within.2
    have shown : s.field.primary = s.mask := by
      rw [mask, primary]
      rfl
    have input := s.mask.editedInput_all s.current.value [] s.editOptions
    rw [Mask.keptOf, Mask.align_nil] at input
    refine ⟨primary, _, congrArg (Layout.display · _ _) ?_⟩
    rw [shown, ← whole]
    exact congrArg (s.mask.layout .hidden) input
  · rw [chosen_all, s.field.pick_nil, headOf, restOf, Edit.widened_of_start_eq_zero _ _ _ rfl,
      List.drop_length, List.append_nil]
    exact ⟨rfl, s.reread_nil (s.field.mask 0) _⟩

/-- **The emptied field**: all of the text replaced by nothing leads to the primary mask, and nothing of
the value is left. -/
lemma edit_all_nil {r : Session × Update} (h : s.DisplaysLayout) (chosen : s.ActiveChosen)
    (ok : s.edit ⟨0, s.current.text.length, []⟩ = .ok r) :
    ∃ intent, r.1 = { s with
      active := 0
      tail := .hidden
      current := (s.field.primary.layout .hidden []).display intent .backward } := by
  obtain ⟨i, d, edited, rfl⟩ := edit_eq_ok ok
  obtain ⟨rfl, intent, rfl⟩ := edited_all_nil h chosen edited
  exact ⟨intent, rfl⟩

/-- **When the field can be emptied**: if the layout of the value is as long as the shown text, or
the mask changes to the primary one. -/
lemma clear_value_iff (h : s.DisplaysLayout) (chosen : s.ActiveChosen) :
    s.clear.1.current.value = [] ↔ s.SameLength ∨ s.active ≠ 0 := by
  rw [clear]
  constructor
  · intro cleared
    by_contra neither
    obtain ⟨shorter, primary⟩ := not_or.mp neither
    have picked : s.field.pick [] = s.active := by
      rw [s.field.pick_nil, not_not.mp primary]
    rw [setText, edit_all_eq_error h shorter picked] at cleared
    exact shorter (h.sameLength_of_value_eq_nil cleared)
  · intro settled
    obtain ⟨r, ok⟩ : ∃ r, s.edit ⟨0, s.current.text.length, []⟩ = .ok r := by
      rcases settled with same | changed
      · exact ⟨_, same.followsText.edit_all_eq_ok []⟩
      · have other : s.chosen ⟨0, s.current.text.length, []⟩ ≠ s.active := by
          rw [chosen_all, s.field.pick_nil]
          exact changed.symm
        apply edit_ok_of_edited
        rw [edited_among s _ (chosen.others_ne_nil changed), if_pos ⟨Nat.zero_le _, le_refl _⟩,
          if_neg other]
    obtain ⟨intent, emptied⟩ := edit_all_nil h chosen ok
    rw [setText, ok, emptied]
    exact s.field.primary.value_layout_nil .hidden

/-! ## In every state -/

/-- **Where the range check follows the shown text.**  It does so exactly in the states where the
layout of the value is as long as the shown text.  In the others some text cannot be set, and under
the primary mask the field cannot be emptied.  Over regular masks there are no such states. -/
theorem followsText_iff_of_reachable (h : Reachable f s) :
    (s.FollowsText ↔ s.SameLength)
      ∧ ((∀ text, s.edit ⟨0, s.current.text.length, text⟩ = .ok (s.setText text)) ↔ s.SameLength)
      ∧ (s.clear.1.current.value = [] ↔ s.SameLength ∨ s.active ≠ 0)
      ∧ (∀ e r, s.edit e = .ok r → e.Within s.current.text.length)
      ∧ ((∀ m ∈ f.masks, m.Regular) → s.SameLength) := by
  have displays := h.displaysLayout
  have sameLength_of_sets
      (sets : ∀ text, s.edit ⟨0, s.current.text.length, text⟩ = .ok (s.setText text)) :
      s.SameLength := by
    by_contra shorter
    obtain ⟨text, picked⟩ := h.activeChosen
    have failed := edit_all_eq_error displays shorter picked
    rw [sets text] at failed
    exact absurd failed (by simp)
  refine ⟨⟨?_, SameLength.followsText⟩, ⟨sameLength_of_sets, ?_⟩, ?_, ?_, ?_⟩
  · exact fun follows => sameLength_of_sets follows.edit_all_eq_ok
  · exact fun same => same.followsText.edit_all_eq_ok
  · exact clear_value_iff displays h.activeChosen
  · exact fun e r ok => displays.within_of_edit ok
  · intro regular
    exact (displays.coherent (h.mask_regular regular)).sameLength

theorem exists_reachable_followsText : ∃ (f : Field) (s : Session),
    Reachable f s ∧ s.current.text = "1-".toList ∧ s.FollowsText
      ∧ s.clear.1.current.value = [] := by
  let digit : Slot := .value .digit false
  let f : Field := { primary := ⟨[], [digit, .literal '-', digit], true, false⟩ }
  have reachable : Reachable f ((start f).step (.setText ['1'])).1 := .step .start _
  have follows := followsText_iff_of_reachable reachable
  have same : ((start f).step (.setText ['1'])).1.SameLength := by
    rw [SameLength]
    decide +kernel
  exact ⟨f, _, reachable, by decide +kernel, follows.1.mpr same, follows.2.2.1.mpr (Or.inl same)⟩

/-- The letter had passed by the optional slot, so the value alone is laid out without the literal,
and the field cannot be emptied. -/
theorem exists_clear_keeps_value : ∃ (m : Mask) (s : Session),
    Mask.compile [] "{0}[0]-[A]".toList = .ok m ∧ Reachable { primary := m } s
      ∧ s.current.text = "1-".toList ∧ s.edit ⟨0, 2, []⟩ = .error ⟨0, 2, 1⟩
      ∧ s.clear.1.current.value = "1".toList := by
  let m : Mask := ⟨"{0}[0]-[A]".toList,
    [.value .digit true, .value .digit false, .literal '-', .value .letter false], true, false⟩
  have reachable : Reachable { primary := m }
      ((start { primary := m }).step (.setText "x1".toList)).1 := .step .start _
  exact ⟨m, _, by decide +kernel, reachable, by decide +kernel, by decide +kernel,
    by decide +kernel⟩

end Session

end MaskedInput
