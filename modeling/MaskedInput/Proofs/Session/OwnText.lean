import MaskedInput.Proofs.Layout.Completeness
import MaskedInput.Proofs.Layout.Single
import MaskedInput.Proofs.Session.Backspacing
import MaskedInput.Proofs.Session.Range
import MaskedInput.Proofs.Session.Transitions

/-!
# A field set to its own text

A field that is set to the text it shows reads its literals as formatting and finds the value again,
whatever the tail behind it.  A single character is never read as formatting, though.  If it is typed,
this does no harm.  If it is a literal that the empty field shows while it has the focus, it is taken as
input, and it becomes the value if the first value slot takes it.

* **`Mask.NoOptional.layout_kept_text_alike`** — what is kept of a shown text is laid out as its value.
* `Session.ShowsEntry` — all that is shown is a literal that would be taken as input.
* **`Session.setText_text`** — in all other states, setting a field to its text changes nothing.
-/

namespace MaskedInput

namespace Mask

variable {m : Mask} {input : List Char}

/-! ## What is kept of a shown text -/

/-- Over a mask without optional slots none is passed by. -/
lemma NoOptional.entersAlike (h : m.NoOptional) (tail : Tail) (input text : List Char) :
    m.EntersAlike (m.layout tail input) text := by
  intro s hs
  obtain ⟨kind, rfl⟩ := optional_of_mem_passed tail input s hs
  exact absurd (h _ (List.mem_of_mem_take hs) rfl) (by simp [Slot.isMandatory])

/-- **A shown text read again.**  What is kept of it is laid out like its value, unless the text is a
literal that is taken as input. -/
theorem NoOptional.layout_kept_text_alike (h : m.NoOptional) (tail tail' : Tail)
    (accepted : ∀ c ∈ input, m.acceptsAnywhere c = true)
    (formatted : (m.layout tail input).value = [] → ∀ c, (m.layout tail input).text = [c] →
      ¬ m.firstTakes c = true) :
    (m.layout tail' (Alignment.kept (m.align 0 (m.layout tail input).text
        (absorbsLiterals (m.layout tail input).text)))).Alike
      (m.layout tail' (m.layout tail input).value) := by
  have shown := (m.layout tail input).value_sublist_text
  cases absorbs : absorbsLiterals (m.layout tail input).text with
  | true =>
      rw [kept_text_absorbing h.legible (Regular.tight_layout tail (Or.inl h) accepted)]
      exact Layout.Alike.refl _
  | false =>
      have short : (m.layout tail input).text.length ≤ 1 := by simpa [absorbsLiterals] using absorbs
      rw [kept_align_typed]
      by_cases typed : (m.layout tail input).value = []
      · rcases Nat.le_one_iff_eq_zero_or_eq_one.mp short with none | one
        · rw [typed, List.length_eq_zero_iff.mp none]
          exact Layout.Alike.refl _
        · obtain ⟨c, text⟩ := List.length_eq_one_iff.mp one
          rw [typed, text]
          exact h.layout_singleton_alike tail' (formatted typed c text)
      · have some := List.length_pos_iff.mpr typed
        have all := shown.eq_of_length_le (by omega)
        rw [← all, List.filter_eq_self.mpr fun c hc => acceptsAnywhere_of_mem_value tail hc]
        exact Layout.Alike.refl _

end Mask

/-! ## Setting the text -/

namespace Session

variable {f : Field} {s : Session}

/-- All that is shown is a literal that would be taken as input: the first value slot takes it. -/
def ShowsEntry (s : Session) : Prop :=
  s.current.value = [] ∧ ∃ c, s.current.text = [c] ∧ s.mask.firstTakes c = true

/-- With one mask, setting the text lays out what is kept of the new one. -/
lemma SameLength.setText_eq (same : s.SameLength) (alone : s.field.others = []) (text : List Char) :
    ∃ tail intent gravity, s.setText text = Session.commit { s with tail }
      ((s.mask.layout tail (Alignment.kept (s.mask.align (s.mask.entry s.layout) text
        (absorbsLiterals text)))).display intent gravity) := by
  obtain ⟨i, d, edited, set⟩ := edit_eq_ok (same.followsText.edit_all_eq_ok text)
  rcases edited_cases edited with ⟨-, -, rfl, rfl⟩ | ⟨among, -⟩
  · have input := s.mask.editedInput_all s.current.value text s.editOptions
    rw [Mask.keptOf, Mask.startSlot_all] at input
    rw [Mask.edited, ← same] at set
    exact ⟨_, _, _, set.trans (congrArg (fun kept => Session.commit _
      (Layout.display (s.mask.layout _ kept) _ _)) input)⟩
  · exact absurd alone among

/-- **A field set to its own text.**  Let the field have one mask, without optional slots.  In every
state, the text that is shown can be set again, and then the value is what it was, and just as complete.
Only when nothing is typed and a single literal is shown, which the first value slot takes, this literal
becomes the value. -/
theorem setText_text (alone : f.others = []) (noOptional : f.primary.NoOptional) (h : Reachable f s) :
    s.edit ⟨0, s.current.text.length, s.current.text⟩ = .ok (s.setText s.current.text)
      ∧ (¬ s.ShowsEntry →
        (s.setText s.current.text).1.current.value = s.current.value
          ∧ (s.setText s.current.text).2.transition = none)
      ∧ (s.ShowsEntry → (s.setText s.current.text).1.current.value = s.current.text) := by
  have coherent := h.coherent_of_alone alone (Or.inl noOptional)
  rw [← h.mask_eq_primary alone] at noOptional
  obtain ⟨tail, intent, gravity, set⟩ :=
    coherent.sameLength.setText_eq (h.others_eq_nil alone) s.current.text
  rw [layout, (noOptional.entersAlike s.tail s.current.value s.current.text).kept_align] at set
  refine ⟨coherent.sameLength.followsText.edit_all_eq_ok _, ?_, ?_⟩
  · intro formatted
    have alike := noOptional.layout_kept_text_alike s.tail tail coherent.accepted
    rw [← coherent.text, ← coherent.value] at alike
    have alike := alike fun empty c text takes => formatted ⟨empty, c, text, takes⟩
    have complete := alike.complete.trans (coherent.complete_layout tail)
    rw [set]
    refine ⟨alike.value_eq.trans (coherent.value_layout tail), ?_⟩
    show Transition.between s.current.complete (s.mask.layout tail _).complete = none
    rw [complete, Transition.between_self]
  · rintro ⟨-, c, text, takes⟩
    rw [set, text]
    show (s.mask.layout tail (Alignment.kept (s.mask.align 0 [c] false))).value = [c]
    rw [Mask.kept_align_typed, List.filter_cons_of_pos (Mask.acceptsAnywhere_of_firstTakes takes)]
    exact noOptional.value_layout_singleton tail takes

/-- Two literals that the slot takes as well are formatting.  One of them alone, in front of a slot that
is filled from the right, would be taken as input. -/
theorem exists_setText_text : ∃ (f g : Field) (s t : Session), f.others = [] ∧ g.others = []
    ∧ f.primary.NoOptional ∧ g.primary.NoOptional ∧ Reachable f s ∧ Reachable g t
    ∧ s.current.text = "12".toList ∧ f.primary.acceptsAnywhere '1' = true
    ∧ ¬ s.ShowsEntry ∧ (s.setText "12".toList).1.current.value = []
    ∧ (s.setText "12".toList).2.transition = none
    ∧ t.current.text = "7".toList ∧ t.ShowsEntry
    ∧ (t.setText "7".toList).1.current.value = "7".toList := by
  let digit : Slot := .value .digit false
  let f : Field :=
    { primary := ⟨[], [.literal '1', .literal '2', digit, .literal '3'], true, false⟩
      autocompleteOnFocus := true }
  let g : Field :=
    { primary := ⟨[], [.value .letter false, digit, .literal '7'], true, true⟩
      autocompleteOnFocus := true }
  have noOptional : f.primary.NoOptional ∧ g.primary.NoOptional := by
    simp [Mask.NoOptional, f, g, digit, Slot.isMandatory, Slot.isLiteral]
  let s : Session := ((start f).step .focus).1
  let t : Session := ((start g).step .focus).1
  have reachable : Reachable f s ∧ Reachable g t := ⟨.step .start _, .step .start _⟩
  have text : s.current.text = "12".toList ∧ t.current.text = "7".toList := by decide +kernel
  have value : s.current.value = [] ∧ t.current.value = [] := by decide +kernel
  have formatted : ¬ s.ShowsEntry := by
    rintro ⟨-, c, single, -⟩
    simp [text.1] at single
  have entry : t.ShowsEntry := ⟨value.2, '7', text.2, by decide +kernel⟩
  have kept := (setText_text rfl noOptional.1 reachable.1).2.1 formatted
  have taken := (setText_text rfl noOptional.2 reachable.2).2.2 entry
  rw [text.1, value.1] at kept
  rw [text.2] at taken
  exact ⟨f, g, s, t, rfl, rfl, noOptional.1, noOptional.2, reachable.1, reachable.2, text.1,
    by decide +kernel, formatted, kept.1, kept.2, text.2, entry, taken⟩

/-- A literal that is all there is to see is taken as input: it becomes the value and completes it. -/
theorem exists_setText_text_ne : ∃ (m : Mask) (s : Session), Mask.compile [] "1[0]".toList = .ok m
    ∧ m.NoOptional ∧ Reachable { primary := m, autocompleteOnFocus := true } s
    ∧ s.current.text = "1".toList ∧ s.current.value = []
    ∧ (s.setText s.current.text).1.current.value = "1".toList
    ∧ (s.setText s.current.text).2.transition = some .completed := by
  let m : Mask := ⟨"1[0]".toList, [.literal '1', .value .digit false], true, false⟩
  let f : Field := { primary := m, autocompleteOnFocus := true }
  have noOptional : m.NoOptional := by simp [Mask.NoOptional, m, Slot.isMandatory, Slot.isLiteral]
  have reachable : Reachable f ((start f).step .focus).1 := .step .start _
  exact ⟨m, _, by decide +kernel, noOptional, reachable, by decide +kernel, by decide +kernel,
    by decide +kernel, by decide +kernel⟩

end Session

end MaskedInput
