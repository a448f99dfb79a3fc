import MaskedInput.Proofs.Session.Active

/-!
# Several masks of which one is used

A field with several masks takes another way to an edit than a field with one.  It checks the range
against the shown text, puts the text after the edit together and asks for the mask that fits it
best; only then does it edit the value, and checks the range once more.  As long as the primary mask
is chosen, nothing of this can be seen from outside if the layout of the value is as long as the
shown text, and over a regular mask it always is.

* `Field.alone`, `Session.alone` — the field with its primary mask alone, and a session of it.
* `Session.edit_alone` — an edit that chooses the primary mask is an edit of the field with one mask.
* **`Session.step_alone`** — so is every other operation.
* **`Session.run_alone`** — over a regular primary mask, whole runs agree, errors included.
-/

namespace MaskedInput

/-- **The field with its primary mask alone**, and with the same options. -/
def Field.alone (f : Field) : Field where
  primary := f.primary
  autoskip := f.autoskip
  autocompleteOnFocus := f.autocompleteOnFocus

namespace Session

variable {f : Field} {s : Session} {e : Edit}

/-- The session in which the field has its primary mask alone. -/
def alone (s : Session) : Session := { s with field := s.field.alone }

/-- A result whose session has its primary mask alone. -/
def aloneIn {α : Type} (r : Session × α) : Session × α := (r.1.alone, r.2)

/-- The first mask is the primary one in both. -/
lemma mask_alone (primary : s.active = 0) : s.alone.mask = s.mask := by
  rw [mask, mask, show s.alone.active = 0 from primary, primary]
  rfl

lemma layout_alone (primary : s.active = 0) : s.alone.layout = s.layout := by
  rw [layout, mask_alone primary]
  rfl

/-- Where the whole shown text can be edited, an edit within it is successful, and chooses a mask. -/
lemma SameLength.chosen_eq (same : s.SameLength) (stays : ∀ i ∈ s.choice? (.edit e), i = 0)
    (within : e.Within s.current.text.length) : s.chosen e = 0 := by
  obtain ⟨r, ok⟩ := (same.followsText e).1 within
  exact stays _ (by simp [choice?, editOf, ok, Except.isOk, Except.toBool])

/-! ## One operation -/

/-- The two ways to an edit lead to the same display, or to the same error. -/
lemma edited_alone_eq (same : s.SameLength) (primary : s.active = 0)
    (stays : ∀ i ∈ s.choice? (.edit e), i = 0) : s.alone.edited e = s.edited e := by
  have way : s.alone.edited e = if e.Within s.layout.cells.length
      then .ok (s.active, (s.mask.edited s.current.value e s.editOptions).display
        (s.mask.editedIntent s.current.value e s.editOptions) e.gravity)
      else .error ⟨e.start, e.stop, s.layout.cells.length⟩ := by
    rw [edited_alone s.alone e rfl, layout_alone primary, mask_alone primary]
    rfl
  rw [way]
  by_cases one : s.field.others = []
  · rw [edited_alone s e one]
  · rw [edited_among s e one, same]
    by_cases within : e.Within s.current.text.length
    · have kept : s.chosen e = s.active := by rw [same.chosen_eq stays within, primary]
      simp only [if_pos within, if_pos kept]
    · simp only [if_neg within]

lemma edit_alone (same : s.SameLength) (primary : s.active = 0)
    (stays : ∀ i ∈ s.choice? (.edit e), i = 0) : s.alone.edit e = aloneIn <$> s.edit e := by
  rw [edit, edit, edited_alone_eq same primary stays]
  cases s.edited e <;> rfl

lemma setText_alone (same : s.SameLength) (primary : s.active = 0) {text : List Char}
    (stays : ∀ i ∈ s.choice? (.setText text), i = 0) :
    s.alone.setText text = aloneIn (s.setText text) := by
  have edited : s.alone.edit ⟨0, s.current.text.length, text⟩
      = aloneIn <$> s.edit ⟨0, s.current.text.length, text⟩ := edit_alone same primary stays
  rw [setText, setText, show s.alone.current = s.current from rfl, edited]
  cases s.edit ⟨0, s.current.text.length, text⟩ <;> rfl

lemma relayout_alone (primary : s.active = 0) (tail : Tail) :
    s.alone.relayout tail = aloneIn (s.relayout tail) := by
  rw [relayout, relayout, mask_alone primary]
  rfl

lemma focus_alone (primary : s.active = 0) : s.alone.focus = aloneIn s.focus := by
  have shown := relayout_alone (s := { s with focused := true }) primary .eager
  rw [focus, focus, apply_ite aloneIn, ← shown]
  rfl

lemma blur_alone (primary : s.active = 0) : s.alone.blur = aloneIn s.blur := by
  have shown := relayout_alone (s := { s with focused := false }) primary .afterValue
  rw [blur, blur, apply_ite aloneIn, ← shown]
  rfl

/-- **One operation** that does not change the mask is one of the field with one mask. -/
theorem step_alone (same : s.SameLength) (primary : s.active = 0) {operation : Operation}
    (stays : ∀ i ∈ s.choice? operation, i = 0) :
    s.alone.step operation = aloneIn (s.step operation) := by
  cases operation with
  | edit e =>
      rw [step, step, edit_alone same primary stays]
      cases s.edit e <;> rfl
  | setText text => exact congrArg answered (setText_alone same primary stays)
  | clear => exact congrArg answered (setText_alone same primary stays)
  | focus => exact congrArg answered (focus_alone primary)
  | blur => exact congrArg answered (blur_alone primary)

/-! ## A whole run -/

lemma choices_take_subset (s : Session) (operations : List Operation) (n : ℕ) :
    s.choices (operations.take n) ⊆ s.choices operations := by
  induction operations generalizing s n with
  | nil =>
      rw [List.take_nil]
      exact List.Subset.refl _
  | cons operation operations ih =>
      cases n with
      | zero => exact List.nil_subset _
      | succ n =>
          rw [List.take_succ_cons, choices, choices]
          exact List.append_subset.mpr ⟨List.subset_append_left _ _,
            List.Subset.trans (ih _ n) (List.subset_append_right _ _)⟩

/-- From a state with the primary mask active, the runs keep in step.  Each operation keeps the mask, so
the next state is again one over a regular mask. -/
lemma Reachable.run_alone_eq (h : Reachable f s) (regular : f.primary.Regular) (primary : s.active = 0)
    {operations : List Operation} (stays : ∀ i ∈ s.choices operations, i = 0) :
    s.alone.run operations = aloneIn (s.run operations) ∧ (s.run operations).1.active = 0 := by
  induction operations generalizing s with
  | nil => exact ⟨rfl, primary⟩
  | cons operation operations ih =>
      rw [choices, List.forall_mem_append] at stays
      have here : ∀ i ∈ s.choice? operation, i = 0 := by simpa using stays.1
      have mask : s.mask = f.primary := by
        rw [Session.mask, primary, h.field_eq]
        rfl
      have same : s.SameLength := (h.displaysLayout.coherent (mask ▸ regular)).sameLength
      have active : (s.step operation).1.active = 0 := by
        rw [active_step h.activeChosen operation]
        cases choice : s.choice? operation with
        | none => exact primary
        | some i => exact here i choice
      obtain ⟨rest, ends⟩ := ih (h.step operation) active stays.2
      refine ⟨?_, ends⟩
      rw [run, run, step_alone same primary here]
      simp only [aloneIn, rest]

/-- **A field that only uses its primary mask** is a field with one mask.  Let no value slot of the primary
mask be optional, or else let all its value slots take the same characters, and let every edit of a run
choose the primary mask.  The field with the primary mask alone gives the same answers, updates and errors
with their numbers, and after any number of operations it is in the same state.  The other masks may be
of any kind. -/
theorem run_alone (regular : f.primary.Regular) {operations : List Operation}
    (stays : ∀ i ∈ (start f).choices operations, i = 0) (n : ℕ) :
    ((start f.alone).run (operations.take n)).2 = ((start f).run (operations.take n)).2
      ∧ ((start f.alone).run (operations.take n)).1 = ((start f).run (operations.take n)).1.alone
      ∧ ((start f).run (operations.take n)).1.mask = f.primary
      ∧ ((start f.alone).run (operations.take n)).1.mask = f.primary := by
  have stays : ∀ i ∈ (start f).choices (operations.take n), i = 0 :=
    fun i hi => stays i ((start f).choices_take_subset operations n hi)
  have reached : Reachable f ((start f).run (operations.take n)).1 := reachable_iff.mpr ⟨_, rfl⟩
  obtain ⟨same, active⟩ := Reachable.start.run_alone_eq regular rfl stays
  have run : (start f.alone).run (operations.take n)
      = aloneIn ((start f).run (operations.take n)) := same
  have mask : ((start f).run (operations.take n)).1.mask = f.primary := by
    rw [Session.mask, active, reached.field_eq]
    rfl
  rw [run]
  exact ⟨rfl, rfl, mask, (mask_alone active).trans mask⟩

/-- Both masks could take the text.  The backspace starts on the literal, and the edit behind it does not
lie within the text. -/
theorem exists_run_alone : ∃ (f : Field) (operations : List Operation), f.others ≠ []
    ∧ f.primary.Regular ∧ (∀ i ∈ (start f).choices operations, i = 0)
    ∧ (start f).choices operations ≠ []
    ∧ ((start f.alone).run operations).2 = ((start f).run operations).2
    ∧ ((start f).run operations).2.getLast? = some (.error ⟨0, 3, 1⟩)
    ∧ ((start f.alone).run operations).1 = ((start f).run operations).1.alone
    ∧ ((start f).run operations).1.current = ⟨"1".toList, "1".toList, 1, false⟩ := by
  let digit : Slot := .value .digit false
  let f : Field :=
    { primary := ⟨[], [digit, digit, .literal '-', digit], true, false⟩
      others := [⟨[], [digit, .literal '/', .value .alphanumeric true], true, false⟩]
      autoskip := true
      autocompleteOnFocus := true }
  let operations : List Operation :=
    [.focus, .setText "12".toList, .edit ⟨2, 3, []⟩, .edit ⟨0, 3, []⟩]
  have regular : f.primary.Regular :=
    Or.inl (by simp [Mask.NoOptional, f, digit, Slot.isMandatory, Slot.isLiteral])
  have stays : ∀ i ∈ (start f).choices operations, i = 0 := by decide +kernel
  obtain ⟨answers, state, -⟩ := run_alone regular stays operations.length
  rw [List.take_length] at answers state
  exact ⟨f, operations, by simp [f], regular, stays, by decide +kernel, answers, by decide +kernel, state,
    by decide +kernel⟩

end Session

end MaskedInput
