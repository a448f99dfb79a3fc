import MaskedInput.Proofs.Session.Transitions

/-!
# A field in which nothing is typed

The literals of a mask are decoration.  Around a value they belong to its text, but a field in which
nothing is typed is to look empty.  Only while it has the focus may it show the literals that it starts
with, if it is meant to.  They can come into the text by the focus or by an insertion of which nothing is
kept, and they are gone with the next edit or the loss of the focus, whichever comes first.

What was laid out eagerly stays marked as such, by the tail policy, even where the policy had no literal
to show.  So the tail policy alone does not tell whether there is decoration, and the invariant speaks of
the text.

* `Session.eager` — the field has the focus and shows its first literals then.
* `Session.Undecorated` — nothing is shown where nothing is typed, unless the field is eager.
* `Session.Undecorated.step` — every operation keeps this.
* **`Session.current_of_untyped`** — so it is in every state, and losing the focus always takes the
  decoration away.
-/

namespace MaskedInput

namespace Session

variable {f : Field} {s : Session}

/-- The field has the focus, and shows its first literals then. -/
def eager (s : Session) : Bool := s.focused && s.field.autocompleteOnFocus

/-- **Nothing is shown where nothing is typed**, unless the field is eager. -/
def Undecorated (s : Session) : Prop :=
  s.current.value = [] → s.mask.hasValueSlots = true → s.eager = false → s.current.text = []

/-- What is laid out under another policy than the eager one shows no decoration. -/
lemma DisplaysLayout.undecorated (h : s.DisplaysLayout) (lazy : s.eager = false → s.tail ≠ .eager) :
    s.Undecorated :=
  fun untyped values quiet => h.text_eq_nil values (lazy quiet) untyped

lemma tailAfter_ne_eager (e : Edit) (quiet : s.eager = false) :
    s.editOptions.tailAfter e ≠ .eager := by
  have lazy : s.editOptions.tail = .afterValue := if_neg (Bool.eq_false_iff.mp quiet)
  rw [EditOptions.tailAfter, lazy]
  split_ifs <;> simp

/-! ## One operation -/

lemma undecorated_start (f : Field) : (start f).Undecorated :=
  (displaysLayout_start f).undecorated fun _ => by simp [start]

/-- An edit sets the policy anew. -/
lemma undecorated_edit {e : Edit} {r : Session × Update} (ok : s.edit e = .ok r) :
    r.1.Undecorated := by
  apply (displaysLayout_edit ok).undecorated
  obtain ⟨i, d, -, rfl⟩ := edit_eq_ok ok
  exact tailAfter_ne_eager e

/-- The focus brings the literals only where it makes the field eager. -/
lemma Undecorated.focus (h : s.Undecorated) : s.focus.1.Undecorated := by
  intro untyped values quiet
  rw [Session.focus] at untyped values quiet ⊢
  split_ifs at untyped values quiet ⊢ with shows
  · rw [Bool.and_eq_true] at shows
    exact absurd shows.1 (by simpa [eager, relayout, commit] using quiet)
  · have never : s.field.autocompleteOnFocus = false := by
      simpa [eager, Session.unchanged] using quiet
    exact h untyped values (by simp [eager, never])

/-- **The loss of the focus** takes the literals away, wherever they came from. -/
lemma DisplaysLayout.undecorated_blur (h : s.DisplaysLayout) : s.blur.1.Undecorated := by
  rw [blur]
  split_ifs with shows
  · have displays : DisplaysLayout { s with focused := false } := h
    exact (displays.relayout .afterValue).undecorated fun _ => by simp [Session.relayout, commit]
  · intro untyped _ _
    show s.current.text = []
    have untyped : s.current.value = [] := untyped
    simpa [untyped] using shows

/-- **One operation** leaves no decoration behind. -/
theorem Undecorated.step (h : s.Undecorated) (displays : s.DisplaysLayout) (operation : Operation) :
    (s.step operation).1.Undecorated := by
  have setText (text : List Char) : (s.setText text).1.Undecorated := by
    rcases s.setText_cases text with ⟨r, ok, eq⟩ | ⟨-, eq⟩
    · rw [eq]
      exact undecorated_edit ok
    · rw [eq]
      exact h
  cases operation with
  | edit e =>
      rw [Session.step]
      cases result : s.edit e with
      | ok r => exact undecorated_edit result
      | error error => exact h
  | setText text => exact setText text
  | clear => exact setText []
  | focus => exact h.focus
  | blur => exact displays.undecorated_blur

/-! ## In every state -/

theorem Reachable.undecorated (h : Reachable f s) : s.Undecorated := by
  induction h with
  | start => exact undecorated_start f
  | step reachable operation ih => exact ih.step reachable.displaysLayout operation

/-- **Decoration is never left behind.**  In every state in which nothing is typed, though something can
be typed into the active mask, the text is empty and the caret at its start, unless the field has the
focus and shows its first literals then.  When such a field loses the focus, then in any case. -/
theorem current_of_untyped (h : Reachable f s) (untyped : s.current.value = [])
    (values : s.mask.hasValueSlots = true) :
    (¬ (s.focused = true ∧ f.autocompleteOnFocus = true) →
      s.current = ⟨[], [], 0, s.current.complete⟩)
      ∧ s.blur.1.mask = s.mask ∧ s.blur.1.current = ⟨[], [], 0, s.current.complete⟩ := by
  have mask : s.blur.1.mask = s.mask := by
    rw [blur]
    split_ifs <;> rfl
  have unfocused : s.blur.1.focused = false := by
    rw [blur]
    split_ifs <;> rfl
  have after : Reachable f s.blur.1 := h.step .blur
  have neutral := h.displaysLayout.neutral_blur
  refine ⟨?_, mask, ?_⟩
  · intro quiet
    have quiet : s.eager = false := by
      rw [eager, h.field_eq]
      simpa using quiet
    exact h.displaysLayout.current_of_text_eq_nil (h.undecorated untyped values quiet)
  · have bare : s.blur.1.current.text = [] := by
      apply after.undecorated (neutral.value.trans untyped) (mask ▸ values)
      rw [eager, unfocused, Bool.false_and]
    rw [← neutral.complete]
    exact after.displaysLayout.current_of_text_eq_nil bare

/-- The literals have been pasted, and the mask they belong to keeps nothing of them.  They are gone with
the focus.  Where the primary mask had none to show, its layout is still marked as an eager one. -/
theorem exists_current_of_untyped : ∃ (f : Field) (s t : Session),
    (Reachable f s ∧ s.current.value = [] ∧ s.mask.hasValueSlots = true ∧ s.active = 1
        ∧ s.current.text = "((".toList ∧ s.blur.1.current = ⟨[], [], 0, false⟩)
      ∧ Reachable f t ∧ t.current.value = [] ∧ t.mask.hasValueSlots = true ∧ t.tail = .eager
        ∧ ¬ (t.focused = true ∧ f.autocompleteOnFocus = true) ∧ t.current = ⟨[], [], 0, true⟩ := by
  let f : Field :=
    { primary := ⟨[], [.value .letter true], true, false⟩
      others := [⟨[], [.literal '(', .literal '(', .value .digit false], true, false⟩]
      autocompleteOnFocus := true }
  let focused : Session := ((start f).step .focus).1
  let s : Session := (focused.step (.edit ⟨0, 0, "((".toList⟩)).1
  let t : Session := (focused.step .blur).1
  have reachable : Reachable f focused := .step .start _
  have pasted : Reachable f s := .step reachable _
  have blurred : Reachable f t := .step reachable _
  have untyped : s.current.value = [] ∧ t.current.value = [] := by decide +kernel
  have values : s.mask.hasValueSlots = true ∧ t.mask.hasValueSlots = true := by decide +kernel
  have complete : s.current.complete = false ∧ t.current.complete = true := by decide +kernel
  have quiet : ¬ (t.focused = true ∧ f.autocompleteOnFocus = true) := by decide +kernel
  have bare := (current_of_untyped pasted untyped.1 values.1).2.2
  have empty := (current_of_untyped blurred untyped.2 values.2).1 quiet
  rw [complete.1] at bare
  rw [complete.2] at empty
  exact ⟨f, s, t, ⟨pasted, untyped.1, values.1, by decide +kernel, by decide +kernel, bare⟩,
    blurred, untyped.2, values.2, by decide +kernel, quiet, empty⟩

end Session

end MaskedInput
