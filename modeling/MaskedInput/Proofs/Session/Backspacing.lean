import MaskedInput.Proofs.Session.Range

/-!
# Backspacing through a field

A backspace over a literal takes nothing away, and it moves the caret over the whole run of literals.
So with the caret at the end of the text, one backspace may be lost, and no more: from then on the caret
stands right behind the last typed character, no tail is shown, and every backspace takes a character.

* `Session.backspaces` — the key pressed a number of times.
* `Session.BehindValue` — the caret has the whole value in front of it.
* `Session.Settled` — a deletion has put it right behind the last typed character.
* **`Session.BehindValue.backspace`** — one backspace settles the caret.
* `Session.Settled.backspace` — each further one takes a character.
* **`Session.backspaces_drain`** — with one press more than there are characters, the field is empty.
-/

namespace MaskedInput

/-- In a field of one mask, this one is active. -/
lemma Session.mask_of_alone {s : Session} (alone : s.field.others = []) : s.mask = s.field.primary := by
  rw [mask, Field.mask, Field.masks, alone]
  cases s.active <;> rfl

namespace Session.Reachable

variable {f : Field} {s : Session}

lemma others_eq_nil (h : Reachable f s) (alone : f.others = []) : s.field.others = [] := by
  rw [h.field_eq]
  exact alone

lemma mask_eq_primary (h : Reachable f s) (alone : f.others = []) : s.mask = f.primary := by
  rw [mask_of_alone (h.others_eq_nil alone), h.field_eq]

lemma coherent_of_alone (h : Reachable f s) (alone : f.others = []) (regular : f.primary.Regular) :
    s.Coherent := by
  rw [← h.mask_eq_primary alone] at regular
  exact h.displaysLayout.coherent regular

end Session.Reachable

/-! ## Deleting at the end of the value -/

namespace Mask

variable {m : Mask} {oldValue : List Char} {e : Edit} {o : EditOptions}

/-- A deletion with the whole value in front of its end keeps what is in front of its start. -/
lemma editedInput_of_behind (deletion : e.replacement = [])
    (behind : (m.layout o.oldTail oldValue).valuesBefore e.stop
      = (m.layout o.oldTail oldValue).value.length) :
    m.editedInput oldValue e o = (m.layout o.oldTail oldValue).value.take
      ((m.layout o.oldTail oldValue).valuesBefore
        (e.widened o.autoskip (m.layout o.oldTail oldValue)).start) := by
  rw [editedInput, spliced, Edit.widened_stop, behind, List.drop_length, List.append_nil, keptOf,
    Edit.widened_replacement, deletion, align_nil]
  exact List.append_nil _

lemma editedIntent_of_behind (deletion : e.replacement = [])
    (behind : (m.layout o.oldTail oldValue).valuesBefore e.stop
      = (m.layout o.oldTail oldValue).value.length) :
    m.editedIntent oldValue e o = (m.editedInput oldValue e o).length := by
  rw [editedInput_of_behind deletion behind,
    List.length_take_of_le (Layout.valuesBefore_le_length _ _), editedIntent, keptOf,
    Edit.widened_replacement, deletion, align_nil]
  rfl

end Mask

namespace Session

variable {f : Field} {s : Session}

/-- The backspace key pressed a number of times; it fails with the first edit that does. -/
def backspaces (s : Session) : ℕ → Except RangeError Session
  | 0 => .ok s
  | n + 1 => do
    let (s, _) ← s.edit s.backspace
    s.backspaces n

/-- The caret has the whole value in front of it. -/
structure BehindValue (s : Session) : Prop where
  within : s.current.caret ≤ s.layout.cells.length
  all : s.layout.valuesBefore s.current.caret = s.layout.value.length

/-- **The caret has settled**: a deletion has hidden the tail and put the caret right behind the last
typed character. -/
def Settled (s : Session) : Prop :=
  ∃ input, (∀ c ∈ input, s.mask.acceptsAnywhere c = true) ∧ s.tail = .hidden
    ∧ s.current = (s.mask.layout .hidden input).display input.length .backward

/-- **One backspace** with the whole value in front of the caret settles it, and nothing is left of the
value but what was in front of the deleted character. -/
theorem BehindValue.backspace (alone : s.field.others = []) (h : s.BehindValue) :
    ∃ r, s.edit s.backspace = .ok r ∧ r.1.field = s.field ∧ r.1.Settled
      ∧ r.1.current.value.length ≤ s.layout.valuesBefore (s.current.caret - 1) := by
  have within : s.backspace.Within s.layout.cells.length := ⟨Nat.sub_le _ _, h.within⟩
  have intent : s.mask.editedIntent s.current.value s.backspace s.editOptions
      = (s.mask.editedInput s.current.value s.backspace s.editOptions).length :=
    Mask.editedIntent_of_behind rfl h.all
  have edited := edited_alone s s.backspace alone
  rw [if_pos within, intent] at edited
  have input : s.mask.editedInput s.current.value s.backspace s.editOptions = s.layout.value.take
      (s.layout.valuesBefore (s.backspace.widened s.field.autoskip s.layout).start) :=
    Mask.editedInput_of_behind rfl h.all
  have kept : (s.mask.edited s.current.value s.backspace s.editOptions).value.length
      ≤ s.layout.valuesBefore (s.current.caret - 1) :=
    calc (s.mask.edited s.current.value s.backspace s.editOptions).value.length
        ≤ (s.mask.editedInput s.current.value s.backspace s.editOptions).length :=
          (s.mask.value_layout_sublist _ _).length_le
      _ ≤ s.layout.valuesBefore (s.backspace.widened s.field.autoskip s.layout).start := by
          rw [input]
          exact List.length_take_le _ _
      _ ≤ s.layout.valuesBefore (s.current.caret - 1) :=
          s.layout.valuesBefore_mono (s.backspace.widened_start_le s.field.autoskip s.layout)
  rw [edit, edited]
  refine ⟨_, rfl, rfl, ⟨_, ?_, rfl, rfl⟩, kept⟩
  exact fun c => s.mask.acceptsAnywhere_of_mem_editedInput s.current.value s.backspace s.editOptions

/-! ## A settled caret -/

namespace Settled

/-- Over a regular mask, what a settled session displays is the layout of its value. -/
lemma exists_alike (h : s.Settled) (regular : s.mask.Regular) : ∃ input,
    s.layout.Alike (s.mask.layout .hidden input)
      ∧ s.current = (s.mask.layout .hidden input).display input.length .backward := by
  obtain ⟨input, accepted, hidden, current⟩ := h
  have alike := (s.mask.layout_value_alike_iff .hidden input).mpr (regular.tight_layout _ accepted)
  refine ⟨input, ?_, current⟩
  rw [layout, hidden, current]
  exact alike

/-- The settled caret has the whole value in front of it. -/
lemma behindValue (h : s.Settled) (regular : s.mask.Regular) : s.BehindValue := by
  obtain ⟨input, alike, current⟩ := h.exists_alike regular
  have fits := (s.mask.layout_ordered .hidden input).caretFits
  constructor
  case within =>
    rw [alike.length_eq, current, ← List.length_map Cell.char]
    exact fits.le_length input.length .backward
  case all =>
    rw [alike.valuesBefore_eq, alike.value_eq, current, ← s.mask.placedBefore_length]
    exact fits.valuesBefore_eq input.length .backward

/-- If there is a value, its last character stands right in front of the settled caret. -/
lemma valuesBefore_lt (h : s.Settled) (regular : s.mask.Regular) (typed : s.current.value ≠ []) :
    s.layout.valuesBefore (s.current.caret - 1) < s.layout.value.length := by
  obtain ⟨input, alike, current⟩ := h.exists_alike regular
  have some : (s.mask.layout .hidden input).placedBefore input.length ≠ 0 := by
    rw [current] at typed
    rw [s.mask.placedBefore_length]
    exact fun none => typed (List.length_eq_zero_iff.mp none)
  obtain ⟨p, behind, value⟩ :=
    (s.mask.layout_ordered .hidden input).caretFits.backward_rests input.length some
  have caret : s.current.caret = p + 1 := by
    rw [current]
    exact behind
  have all := (h.behindValue regular).all
  have step := (alike.symm.isValueAt value).valuesBefore_succ
  rw [caret] at all ⊢
  rw [Nat.add_sub_cancel]
  omega

lemma displaysLayout (h : s.Settled) : s.DisplaysLayout := by
  obtain ⟨input, accepted, hidden, current⟩ := h
  refine ⟨input, input.length, .backward, accepted, ?_⟩
  rw [hidden, current]

/-- Without a value, a settled session shows nothing at all. -/
lemma shows_nothing (h : s.Settled) (values : s.mask.hasValueSlots = true)
    (empty : s.current.value = []) : s.current.text = [] ∧ s.current.caret = 0 := by
  have lazy : s.tail ≠ .eager := by
    obtain ⟨-, -, hidden, -⟩ := h
    simp [hidden]
  have bare := h.displaysLayout.text_eq_nil values lazy empty
  rw [h.displaysLayout.current_of_text_eq_nil bare]
  exact ⟨rfl, rfl⟩

/-- **Each further backspace** keeps the caret settled and takes a character, if there is one. -/
theorem backspace (h : s.Settled) (alone : s.field.others = []) (regular : s.mask.Regular) :
    ∃ r, s.edit s.backspace = .ok r ∧ r.1.field = s.field ∧ r.1.Settled
      ∧ r.1.current.value.length ≤ s.current.value.length - 1 := by
  obtain ⟨r, ok, field, settled, le⟩ := (h.behindValue regular).backspace alone
  refine ⟨r, ok, field, settled, le.trans ?_⟩
  obtain ⟨input, alike, current⟩ := h.exists_alike regular
  have same : s.layout.value.length = s.current.value.length := by
    rw [alike.value_eq, current]
    rfl
  by_cases typed : s.current.value = []
  · have := s.layout.valuesBefore_le_length (s.current.caret - 1)
    rw [typed, List.length_nil] at same ⊢
    omega
  · have := h.valuesBefore_lt regular typed
    omega

/-- Pressed as often as there are characters, and as often as one likes from there on, the key empties
the field. -/
lemma backspaces {n : ℕ} (h : s.Settled) (alone : s.field.others = [])
    (values : s.field.primary.hasValueSlots = true) (regular : s.field.primary.Regular)
    (enough : s.current.value.length ≤ n) :
    ∃ t, s.backspaces n = .ok t ∧ t.current.value = [] ∧ t.current.text = []
      ∧ t.current.caret = 0 := by
  induction n generalizing s with
  | zero =>
      have empty := List.length_eq_zero_iff.mp (Nat.le_zero.mp enough)
      rw [← mask_of_alone alone] at values
      exact ⟨s, rfl, empty, h.shows_nothing values empty⟩
  | succ n ih =>
      have masked : s.mask.Regular := (mask_of_alone alone).symm ▸ regular
      obtain ⟨r, ok, field, settled, le⟩ := h.backspace alone masked
      rw [← field] at alone values regular
      obtain ⟨t, drained, empty⟩ := ih settled alone values regular (by omega)
      refine ⟨t, ?_, empty⟩
      rw [Session.backspaces, ok]
      exact drained

end Settled

/-! ## From the end of the text -/

/-- At the end of the text, the caret has the whole value in front of it. -/
lemma SameLength.behindValue (h : s.SameLength) (atEnd : s.current.caret = s.current.text.length) :
    s.BehindValue := by
  rw [SameLength] at h
  constructor
  case within => exact (atEnd.trans h.symm).le
  case all => rw [atEnd, ← h, Layout.valuesBefore_length, Layout.length_valueCells]

/-- **Backspace drains a field.**  Let the field have one mask, with a value slot, in which no value slot
is optional or all of them take the same characters.  From the end of the text, one backspace more than
there are characters empties the field, and each of them succeeds. -/
theorem backspaces_drain (alone : f.others = []) (values : f.primary.hasValueSlots = true)
    (regular : f.primary.Regular) (h : Reachable f s)
    (atEnd : s.current.caret = s.current.text.length) :
    ∃ t, s.backspaces (s.current.value.length + 1) = .ok t ∧ t.current.value = []
      ∧ t.current.text = [] ∧ t.current.caret = 0 := by
  rw [← h.field_eq] at alone values regular
  have masked : s.mask.Regular := (mask_of_alone alone).symm ▸ regular
  have coherent := h.displaysLayout.coherent masked
  obtain ⟨r, ok, field, settled, le⟩ := (coherent.sameLength.behindValue atEnd).backspace alone
  rw [← field] at alone values regular
  have enough : r.1.current.value.length ≤ s.current.value.length := by
    rw [coherent.value]
    exact le.trans (s.layout.valuesBefore_le_length _)
  obtain ⟨t, drained, empty⟩ := settled.backspaces alone values regular enough
  refine ⟨t, ?_, empty⟩
  rw [backspaces, ok]
  exact drained

/-- The first backspace takes one of the literals, and so nothing: as many backspaces as there are
characters would not be enough. -/
theorem exists_backspaces_drain : ∃ (f : Field) (s t : Session), f.others = []
    ∧ f.primary.hasValueSlots = true ∧ f.primary.Regular ∧ Reachable f s
    ∧ s.current = ⟨"12 kg".toList, "12".toList, 5, true⟩
    ∧ (s.backspaces 2).map (·.current.text) = .ok "1".toList
    ∧ s.backspaces (s.current.value.length + 1) = .ok t
    ∧ t.current.value = [] ∧ t.current.text = [] ∧ t.current.caret = 0 := by
  let digit : Slot := .value .digit false
  let f : Field :=
    { primary := ⟨[], [digit, digit, .literal ' ', .literal 'k', .literal 'g'], true, false⟩ }
  have regular : f.primary.Regular :=
    Or.inl (by simp [Mask.NoOptional, f, digit, Slot.isMandatory, Slot.isLiteral])
  have reachable : Reachable f ((start f).step (.setText "12".toList)).1 := .step .start _
  obtain ⟨t, drained⟩ := backspaces_drain rfl rfl regular reachable (by decide +kernel)
  exact ⟨f, _, t, rfl, rfl, regular, reachable, by decide +kernel, by decide +kernel, drained⟩

end Session

end MaskedInput
