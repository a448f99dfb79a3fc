import MaskedInput.Proofs.Edit
import MaskedInput.Proofs.Layout.Completeness
import MaskedInput.Session.Run

/-!
# A session shows its value

A session holds its value, the active mask and the tail policy, and displays a text that was laid
out at some earlier time.  The next operation lays the value out again, so the two layouts had
better agree.

* `Session.edited_alone`, `Session.edited_among` — what an edit does, with one mask and with
  several; `Session.edited_cases` — what a successful one has done.
* `Session.DisplaysLayout` — what is displayed was laid out under the active mask and the tail
  policy; every operation keeps this (`Session.DisplaysLayout.step`).
* `Session.Coherent` — what is displayed is the layout of the value that the session holds.
* **`Session.coherent_of_reachable`** — over regular masks all states are coherent.
-/

namespace MaskedInput

namespace Field

lemma mask_mem (f : Field) (i : ℕ) : f.mask i ∈ f.masks := by
  rw [mask, List.getD_eq_getElem?_getD]
  cases h : f.masks[i]? with
  | none => exact List.mem_cons_self
  | some m => exact List.mem_of_getElem? h

end Field

namespace Session

variable (s : Session) (e : Edit)

/-! ## What an edit does -/

/-- The shown text up to the end of the replacement, with the range as autoskip widens it. -/
def headOf : List Char :=
  s.current.text.take (e.widened s.field.autoskip s.layout).start ++ e.replacement

/-- The shown text behind the range. -/
def restOf : List Char := s.current.text.drop e.stop

/-- The index of the mask that fits the text after the edit. -/
def chosen : ℕ := s.field.pick (s.headOf e ++ s.restOf e)

lemma edit_mask_eq :
    s.mask.edit s.current.value e s.editOptions = if e.Within s.layout.cells.length
      then .ok ((s.mask.edited s.current.value e s.editOptions).display
        (s.mask.editedIntent s.current.value e s.editOptions) e.gravity)
      else .error ⟨e.start, e.stop, s.layout.cells.length⟩ :=
  s.mask.edit_eq s.current.value e s.editOptions

/-- With one mask, the range has to lie within the layout of the value. -/
theorem edited_alone (alone : s.field.others = []) :
    s.edited e = if e.Within s.layout.cells.length
      then .ok (s.active, (s.mask.edited s.current.value e s.editOptions).display
        (s.mask.editedIntent s.current.value e s.editOptions) e.gravity)
      else .error ⟨e.start, e.stop, s.layout.cells.length⟩ := by
  rw [edited, if_pos (by simp [alone]), edit_mask_eq]
  split_ifs <;> rfl

/-- With several masks, the range has to lie within the shown text, and unless the mask changes,
also within the layout of the value. -/
theorem edited_among (among : s.field.others ≠ []) :
    s.edited e = if e.Within s.current.text.length
      then if s.chosen e = s.active
        then if e.Within s.layout.cells.length
          then .ok (s.active, (s.mask.edited s.current.value e s.editOptions).display
            (s.mask.editedIntent s.current.value e s.editOptions) e.gravity)
          else .error ⟨e.start, e.stop, s.layout.cells.length⟩
        else .ok (s.chosen e,
          s.reread (s.field.mask (s.chosen e)) e (s.headOf e) (s.restOf e))
      else .error ⟨e.start, e.stop, s.current.text.length⟩ := by
  rw [edited, if_neg (by simpa using among), editAmong]
  simp only [Edit.checked_eq]
  by_cases within : e.Within s.current.text.length
  · simp only [if_pos within, bind, Except.bind, edit_mask_eq, Edit.widened_stop]
    rw [← headOf, ← restOf, ← chosen]
    by_cases same : s.chosen e = s.active
    · rw [if_pos same, if_pos same]
      split_ifs <;> rfl
    · rw [if_neg same, if_neg same]
      rfl
  · simp only [if_neg within]
    rfl

variable {s e}

/-- **What a successful edit has done.**  It kept the mask and carried the edit out on the layout of the
value, or it changed to the chosen mask and read the shown text again. -/
theorem edited_cases {i : ℕ} {d : Display} (h : s.edited e = .ok (i, d)) :
    (e.Within s.layout.cells.length ∧ (s.field.others = [] ∨ s.chosen e = s.active) ∧ i = s.active
        ∧ d = (s.mask.edited s.current.value e s.editOptions).display
          (s.mask.editedIntent s.current.value e s.editOptions) e.gravity)
      ∨ (s.field.others ≠ [] ∧ e.Within s.current.text.length ∧ i = s.chosen e ∧ i ≠ s.active
        ∧ d = s.reread (s.field.mask i) e (s.headOf e) (s.restOf e)) := by
  by_cases alone : s.field.others = []
  · rw [edited_alone s e alone] at h
    split_ifs at h with within
    obtain ⟨rfl, rfl⟩ := Prod.mk.inj (Except.ok.inj h)
    exact Or.inl ⟨within, Or.inl alone, rfl, rfl⟩
  · rw [edited_among s e alone] at h
    split_ifs at h with shown same within
    · obtain ⟨rfl, rfl⟩ := Prod.mk.inj (Except.ok.inj h)
      exact Or.inl ⟨within, Or.inr same, rfl, rfl⟩
    · obtain ⟨rfl, rfl⟩ := Prod.mk.inj (Except.ok.inj h)
      exact Or.inr ⟨alone, shown, rfl, same, rfl⟩

lemma edit_eq_ok {r : Session × Update} (h : s.edit e = .ok r) :
    ∃ i d, s.edited e = .ok (i, d)
      ∧ r = Session.commit { s with active := i, tail := s.editOptions.tailAfter e } d := by
  rw [edit] at h
  cases result : s.edited e with
  | error error => simp [result, bind, Except.bind] at h
  | ok pair =>
      obtain ⟨i, d⟩ := pair
      rw [result] at h
      exact ⟨i, d, rfl, (Except.ok.inj h).symm⟩

lemma edit_eq_error {error : RangeError} (h : s.edited e = .error error) :
    s.edit e = .error error := by
  rw [edit, h]
  rfl

lemma setText_cases (s : Session) (text : List Char) :
    (∃ r, s.edit ⟨0, s.current.text.length, text⟩ = .ok r ∧ s.setText text = r)
      ∨ (∃ error, s.edit ⟨0, s.current.text.length, text⟩ = .error error)
        ∧ s.setText text = s.unchanged := by
  rw [setText]
  cases s.edit ⟨0, s.current.text.length, text⟩ with
  | ok r => exact Or.inl ⟨r, rfl, rfl⟩
  | error error => exact Or.inr ⟨⟨error, rfl⟩, rfl⟩

/-! ## What every operation keeps

An operation is a successful edit, or it is nothing but a change of the focus, after which an empty
value may be laid out again.
-/

/-- A property that is kept by successful edits, by the focus and by laying out an empty value again
is kept by every operation. -/
theorem step_induction {P : Session → Prop}
    (edit : ∀ s e r, P s → Session.edit s e = .ok r → P r.1)
    (focused : ∀ s focused, P s → P { s with focused })
    (relayout : ∀ s tail, P s → s.current.value = [] → P (s.relayout tail).1)
    (h : P s) (operation : Operation) : P (s.step operation).1 := by
  have setText (text : List Char) : P (s.setText text).1 := by
    rcases s.setText_cases text with ⟨r, ok, eq⟩ | ⟨-, eq⟩
    · rw [eq]
      exact edit s _ r h ok
    · rw [eq]
      exact h
  cases operation with
  | edit e =>
      rw [step]
      cases result : s.edit e with
      | ok r => exact edit s e r h result
      | error error => exact h
  | setText text => exact setText text
  | clear => exact setText []
  | focus =>
      show P s.focus.1
      rw [focus]
      split_ifs with empty
      · exact relayout _ _ (focused s true h) (by simp_all)
      · exact focused s true h
  | blur =>
      show P s.blur.1
      rw [blur]
      split_ifs with empty
      · exact relayout _ _ (focused s false h) (by simp_all)
      · exact focused s false h

lemma field_step (s : Session) (operation : Operation) : (s.step operation).1.field = s.field := by
  refine step_induction (P := fun t => t.field = s.field) ?_ ?_ ?_ rfl operation
  · intro t e r h ok
    obtain ⟨i, d, -, rfl⟩ := edit_eq_ok ok
    exact h
  · exact fun t _ h => h
  · exact fun t _ h _ => h

variable {f : Field}

lemma Reachable.field_eq (h : Reachable f s) : s.field = f := by
  induction h with
  | start => rfl
  | step _ operation ih => rw [field_step, ih]

/-! ## What is displayed -/

/-- What is displayed was laid out under the active mask and the tail policy, from characters that
the mask takes. -/
def DisplaysLayout (s : Session) : Prop :=
  ∃ input intent gravity, (∀ c ∈ input, s.mask.acceptsAnywhere c = true)
    ∧ s.current = (s.mask.layout s.tail input).display intent gravity

/-- An edit displays a layout, under the active mask or the chosen one. -/
lemma edited_display {i : ℕ} {d : Display} (h : s.edited e = .ok (i, d)) :
    ∃ input intent gravity, (∀ c ∈ input, (s.field.mask i).acceptsAnywhere c = true)
      ∧ d = ((s.field.mask i).layout (s.editOptions.tailAfter e) input).display intent gravity := by
  rcases edited_cases h with ⟨-, -, rfl, rfl⟩ | ⟨-, -, -, -, rfl⟩
  · exact ⟨_, _, _, fun _ => s.mask.acceptsAnywhere_of_mem_editedInput _ e _, rfl⟩
  · exact ⟨_, _, _, fun _ => Mask.acceptsAnywhere_of_mem_kept, rfl⟩

lemma DisplaysLayout.exists_input (h : s.DisplaysLayout) :
    ∃ input, (∀ c ∈ input, s.mask.acceptsAnywhere c = true)
      ∧ s.current.text = (s.mask.layout s.tail input).text
      ∧ s.current.value = (s.mask.layout s.tail input).value
      ∧ s.current.complete = (s.mask.layout s.tail input).complete := by
  obtain ⟨input, intent, gravity, accepted, current⟩ := h
  rw [current]
  exact ⟨input, accepted, rfl, rfl, rfl⟩

lemma displaysLayout_start (f : Field) : (start f).DisplaysLayout :=
  ⟨[], 0, .forward, by simp, rfl⟩

lemma displaysLayout_edit {r : Session × Update} (ok : s.edit e = .ok r) : r.1.DisplaysLayout := by
  obtain ⟨i, d, edited, rfl⟩ := edit_eq_ok ok
  have displayed := edited_display edited
  exact displayed

/-- The value may be laid out again under another tail policy: it is taken as it is. -/
lemma DisplaysLayout.relayout (h : s.DisplaysLayout) (tail : Tail) :
    (s.relayout tail).1.DisplaysLayout := by
  obtain ⟨input, intent, gravity, accepted, current⟩ := h
  refine ⟨s.current.value, _, _, fun c hc => ?_, rfl⟩
  rw [current] at hc
  exact Mask.acceptsAnywhere_of_mem_value s.tail hc

/-- **Every operation displays a layout.** -/
theorem DisplaysLayout.step (h : s.DisplaysLayout) (operation : Operation) :
    (s.step operation).1.DisplaysLayout :=
  step_induction (fun _ _ _ _ ok => displaysLayout_edit ok) (fun _ _ h => h)
    (fun _ tail h _ => h.relayout tail) h operation

theorem Reachable.displaysLayout (h : Reachable f s) : s.DisplaysLayout := by
  induction h with
  | start => exact displaysLayout_start f
  | step _ operation ih => exact ih.step operation

/-- What shows no text shows no value, and has its caret at the start. -/
lemma DisplaysLayout.current_of_text_eq_nil (h : s.DisplaysLayout) (bare : s.current.text = []) :
    s.current = ⟨[], [], 0, s.current.complete⟩ := by
  obtain ⟨input, intent, gravity, -, current⟩ := h
  rw [current] at bare ⊢
  exact Layout.display_of_cells_eq_nil (List.map_eq_nil_iff.mp bare) intent gravity

/-- Without a value there is no text, unless the tail is shown eagerly. -/
lemma DisplaysLayout.text_eq_nil (h : s.DisplaysLayout) (values : s.mask.hasValueSlots = true)
    (lazy : s.tail ≠ .eager) (untyped : s.current.value = []) : s.current.text = [] := by
  obtain ⟨input, intent, gravity, -, current⟩ := h
  rw [current] at untyped ⊢
  exact List.map_eq_nil_iff.mpr (s.mask.cells_layout_eq_nil input values lazy untyped)

/-! ## The value leads back to the text -/

/-- **What is displayed is the layout of the value**, under the active mask and the tail policy. -/
structure Coherent (s : Session) : Prop where
  text : s.current.text = (s.mask.layout s.tail s.current.value).text
  value : s.current.value = (s.mask.layout s.tail s.current.value).value
  complete : s.current.complete = (s.mask.layout s.tail s.current.value).complete

/-- The mask takes what the value consists of. -/
lemma Coherent.accepted (h : s.Coherent) : ∀ c ∈ s.current.value, s.mask.acceptsAnywhere c = true := by
  intro c hc
  rw [h.value] at hc
  exact Mask.acceptsAnywhere_of_mem_value s.tail hc

/-- Under any tail policy, the value is laid out to itself. -/
lemma Coherent.value_layout (h : s.Coherent) (tail : Tail) :
    (s.mask.layout tail s.current.value).value = s.current.value := by
  rw [s.mask.value_layout_tail tail _ s.tail, ← h.value]

/-- It is then as complete as it is shown to be. -/
lemma Coherent.complete_layout (h : s.Coherent) (tail : Tail) :
    (s.mask.layout tail s.current.value).complete = s.current.complete := by
  rw [s.mask.complete_layout_tail tail _ s.tail, ← h.complete]

/-- If no placed character has passed by a free slot that takes it, the value is laid out as the input
was. -/
lemma DisplaysLayout.coherent_of_tight (h : s.DisplaysLayout)
    (tight : ∀ input, (∀ c ∈ input, s.mask.acceptsAnywhere c = true) →
      s.current.value = (s.mask.layout s.tail input).value → s.mask.Tight (s.mask.layout s.tail input)) :
    s.Coherent := by
  obtain ⟨input, accepted, text, value, complete⟩ := h.exists_input
  have alike := (s.mask.layout_value_alike_iff s.tail input).mpr (tight input accepted value)
  constructor
  case text => rw [value, alike.text_eq, text]
  case value => rw [value, alike.value_eq]
  case complete => rw [value, alike.complete, complete]

/-- A regular mask lays the value out as it laid out the input. -/
lemma DisplaysLayout.coherent (h : s.DisplaysLayout) (regular : s.mask.Regular) : s.Coherent :=
  h.coherent_of_tight fun _ accepted _ => regular.tight_layout s.tail accepted

/-- So does every mask while nothing is typed: what it dropped has left no trace. -/
lemma DisplaysLayout.coherent_of_value_eq_nil (h : s.DisplaysLayout) (untyped : s.current.value = []) :
    s.Coherent :=
  h.coherent_of_tight fun input _ value =>
    s.mask.tight_of_value_eq_nil s.tail input (value.symm.trans untyped)

lemma Reachable.mask_regular (h : Reachable f s) (regular : ∀ m ∈ f.masks, m.Regular) :
    s.mask.Regular := by
  apply regular
  rw [← h.field_eq]
  exact s.field.mask_mem s.active

/-- **Coherence.**  If no mask of the field has an optional value slot, or else all its value slots
take the same characters, then in every state what is displayed is the layout of the value. -/
theorem coherent_of_reachable (h : Reachable f s) (regular : ∀ m ∈ f.masks, m.Regular) :
    s.Coherent :=
  h.displaysLayout.coherent (h.mask_regular regular)

theorem exists_regular_coherent : ∃ (f : Field) (s : Session),
    (∀ m ∈ f.masks, m.Regular) ∧ Reachable f s ∧ s.active = 1 ∧ s.current.text = "a-".toList
      ∧ s.Coherent := by
  let digit : Slot := .value .digit true
  let letter : Slot := .value .letter false
  let f : Field :=
    { primary := ⟨[], [digit, digit], true, false⟩
      others := [⟨[], [letter, .literal '-', letter], true, false⟩] }
  have reachable : Reachable f
      ((((start f).step .focus).1.step (.setText "12".toList)).1.step
        (.edit ⟨0, 2, "a".toList⟩)).1 :=
    .step (.step (.step .start _) _) _
  have regular : ∀ m ∈ f.masks, m.Regular := by
    intro m hm
    rcases List.mem_cons.mp hm with rfl | hm
    · exact Or.inr (by simp [Mask.Uniform, f, digit])
    · obtain rfl := List.mem_singleton.mp hm
      exact Or.inl (by simp [Mask.NoOptional, letter, Slot.isMandatory, Slot.isLiteral])
  exact ⟨f, _, regular, reachable, by decide +kernel, by decide +kernel,
    coherent_of_reachable reachable regular⟩

end Session

end MaskedInput
