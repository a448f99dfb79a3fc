import Mathlib.Data.List.Perm.Subperm
import MaskedInput.Proofs.Layout.Follows
import MaskedInput.Proofs.Session.Coherence

/-!
# Where the value comes from

An edit puts its replacement between two parts of the value, and what has no place is dropped.  With
several masks there is another way: where the mask changes, the shown text is read again, with its
literals.  If the new mask takes one of them, the value gets a character that no one has typed.

* `ComesFrom` — a value is made of an older one and of a text between two parts of it.
* `Mask.edited_comesFrom` — so it is as long as the mask stays.
* `Session.reread_comesFrom` — and where the mask changes, if the new one refuses the old literals.
* **`Session.edit_value_comesFrom`** — where the value of an edit comes from.
* `Session.step_value_subperm`, **`Session.run_value_subperm`** — where no mask takes a literal, no
  character of the value was invented, through all of a run.
-/

namespace MaskedInput

/-- **A value comes from an older one and a text**: it is part of the text between a front part and a
back part of the older value. -/
def ComesFrom (new old text : List Char) : Prop :=
  ∃ i j, i ≤ j ∧ j ≤ old.length ∧ new.Sublist (old.take i ++ text ++ old.drop j)

namespace ComesFrom

variable {new old part text : List Char}

/-- What comes from a part of a value comes from the value. -/
lemma of_part (within : part.Sublist old) {i j : ℕ} (le : i ≤ j)
    (sub : new.Sublist (part.take i ++ text ++ part.drop j)) : ComesFrom new old text := by
  rw [← List.take_append_drop i part, List.append_sublist_iff] at within
  obtain ⟨front, back, rfl, inFront, inBack⟩ := within
  refine ⟨front.length, front.length, le_refl _, by simp, sub.trans ?_⟩
  rw [List.take_left, List.drop_left]
  have behind : (part.drop j).Sublist (part.drop i) := List.drop_sublist_drop_left _ le
  exact (inFront.append_right text).append (behind.trans inBack)

/-- Every character is one of the older value or of the text, and none of them counts twice. -/
lemma subperm (h : ComesFrom new old text) : new.Subperm (old ++ text) := by
  obtain ⟨i, j, le, -, sub⟩ := h
  have kept : (old.take i ++ old.drop j).Sublist old := by
    conv_rhs => rw [← List.take_append_drop i old]
    exact (List.Sublist.refl _).append (List.drop_sublist_drop_left _ le)
  have swap : (old.take i ++ text ++ old.drop j).Perm (old.take i ++ old.drop j ++ text) := by
    rw [List.append_assoc, List.append_assoc]
    exact List.perm_append_comm.append_left _
  exact (sub.subperm.trans swap.subperm).trans (kept.append_right text).subperm

end ComesFrom

namespace Layout

/-! ## The literals left out -/

/-- The value in front of a position of the text, and the value behind it. -/
lemma value_split (l : Layout) (p : ℕ) :
    l.value.take (l.valuesBefore p) = ((l.cells.take p).filter Cell.isValue).map (·.char)
      ∧ l.value.drop (l.valuesBefore p) = ((l.cells.drop p).filter Cell.isValue).map (·.char) := by
  have split : l.value = ((l.cells.take p).filter Cell.isValue).map (·.char)
      ++ ((l.cells.drop p).filter Cell.isValue).map (·.char) := by
    rw [← List.map_append, ← List.filter_append, List.take_append_drop]
    rfl
  have length : l.valuesBefore p = (((l.cells.take p).filter Cell.isValue).map (·.char)).length := by
    rw [valuesBefore, List.countP_eq_length_filter, List.length_map]
  rw [split, length]
  exact ⟨List.take_left, List.drop_left⟩

variable {accepts : Char → Bool}

/-- Where no literal is accepted, only typed characters are. -/
lemma filter_chars_sublist {cells : List Cell}
    (refused : ∀ c ∈ cells, c.isValue = false → accepts c.char = false) :
    ((cells.map (·.char)).filter accepts).Sublist ((cells.filter Cell.isValue).map (·.char)) := by
  rw [List.filter_map]
  apply List.Sublist.map
  have typed : cells.filter (accepts ∘ (·.char))
      = (cells.filter Cell.isValue).filter (accepts ∘ (·.char)) := by
    rw [List.filter_filter]
    apply List.filter_congr
    intro c hc
    cases value : c.isValue with
    | false => simp [refused c hc value]
    | true => simp
  rw [typed]
  exact List.filter_sublist

lemma filter_text_sublist {l : Layout}
    (refused : ∀ c ∈ l.cells, c.isValue = false → accepts c.char = false) (p : ℕ) :
    ((l.text.take p).filter accepts).Sublist (l.value.take (l.valuesBefore p))
      ∧ ((l.text.drop p).filter accepts).Sublist (l.value.drop (l.valuesBefore p)) := by
  rw [(l.value_split p).1, (l.value_split p).2, text, ← List.map_take, ← List.map_drop]
  exact ⟨filter_chars_sublist fun c hc => refused c (List.mem_of_mem_take hc),
    filter_chars_sublist fun c hc => refused c (List.mem_of_mem_drop hc)⟩

end Layout

/-! ## One edit -/

/-- **While the mask stays**, the value comes from the old one and the replacement. -/
theorem Mask.edited_comesFrom (m : Mask) (v : List Char) {e : Edit} (le : e.start ≤ e.stop)
    (o : EditOptions) : ComesFrom (m.edited v e o).value v e.replacement := by
  have before := (e.widened_start_le o.autoskip (m.layout o.oldTail v)).trans le
  refine ComesFrom.of_part (m.value_layout_sublist o.oldTail v)
    ((m.layout o.oldTail v).valuesBefore_mono before) ?_
  have placed : (m.edited v e o).value.Sublist (m.editedInput v e o) := m.value_layout_sublist _ _
  have kept := (m.kept_align_sublist
    (m.startSlot (m.layout o.oldTail v) (e.widened o.autoskip (m.layout o.oldTail v)))
    e.replacement (absorbsLiterals e.replacement)).trans List.filter_sublist
  rw [editedInput, spliced, keptOf, Edit.widened_replacement, Edit.widened_stop] at placed
  exact placed.trans ((kept.append_left _).append_right _)

namespace Session

variable {f : Field} {s : Session} {e : Edit}

lemma reread_value_sublist (s : Session) (m : Mask) (e : Edit) (head rest : List Char) :
    (s.reread m e head rest).value.Sublist ((head ++ rest).filter m.acceptsAnywhere) :=
  (m.value_layout_sublist _ _).trans (m.kept_align_sublist _ _ _)

/-- **Where the mask changes**, the same holds if the new one takes no literal of the old one. -/
theorem reread_comesFrom (h : s.DisplaysLayout) (le : e.start ≤ e.stop) {m : Mask}
    (refused : ∀ l, .literal l ∈ s.mask.slots → m.acceptsAnywhere l = false) :
    ComesFrom (s.reread m e (s.headOf e) (s.restOf e)).value s.current.value e.replacement := by
  obtain ⟨input, -, text, value, -⟩ := h.exists_input
  have shown := Layout.filter_text_sublist (l := s.mask.layout s.tail input)
    fun c hc literal => refused c.char (s.mask.literal_mem_of_mem_cells _ _ hc literal)
  have before := (e.widened_start_le s.field.autoskip s.layout).trans le
  refine ComesFrom.of_part (List.Sublist.refl _)
    ((s.mask.layout s.tail input).valuesBefore_mono before) ?_
  refine (s.reread_value_sublist m e _ _).trans ?_
  rw [headOf, restOf, List.filter_append, List.filter_append, text, value]
  exact ((shown _).1.append List.filter_sublist).append (shown _).2

variable {r : Session × Update}

/-- With one mask there is nothing to change to. -/
lemma active_of_alone (alone : s.field.others = []) (ok : s.edit e = .ok r) :
    r.1.active = s.active := by
  obtain ⟨i, d, edited, rfl⟩ := edit_eq_ok ok
  rcases edited_cases edited with ⟨-, -, kept, -⟩ | ⟨among, -⟩
  · exact kept
  · exact absurd alone among

lemma edit_comesFrom (h : s.DisplaysLayout) (ok : s.edit e = .ok r)
    (entered : r.1.active = s.active
      ∨ ∀ l, .literal l ∈ s.mask.slots → r.1.mask.acceptsAnywhere l = false) :
    ComesFrom r.1.current.value s.current.value e.replacement := by
  obtain ⟨i, d, edited, rfl⟩ := edit_eq_ok ok
  rcases edited_cases edited with ⟨within, -, -, rfl⟩ | ⟨-, within, -, changed, rfl⟩
  · exact s.mask.edited_comesFrom _ within.1 _
  · exact reread_comesFrom h within.1 (entered.resolve_left changed)

lemma edit_value_sublist (ok : s.edit e = .ok r) (changed : r.1.active ≠ s.active) :
    r.1.current.value.Sublist ((s.headOf e ++ s.restOf e).filter r.1.mask.acceptsAnywhere) := by
  obtain ⟨i, d, edited, rfl⟩ := edit_eq_ok ok
  rcases edited_cases edited with ⟨-, -, kept, -⟩ | ⟨-, -, -, -, rfl⟩
  · exact absurd kept changed
  · exact s.reread_value_sublist _ _ _ _

/-- **Where the value of an edit comes from.**  In every state, the value after an edit comes from the
value before it and the replacement, unless the mask changes to one that takes a literal of the old one.
With one mask it never changes.  Where it does, the value is part of what the new mask takes of the shown
text and the replacement. -/
theorem edit_value_comesFrom (h : Reachable f s) (ok : s.edit e = .ok r) :
    (r.1.active = s.active
        ∨ (∀ l, .literal l ∈ s.mask.slots → r.1.mask.acceptsAnywhere l = false) →
      ComesFrom r.1.current.value s.current.value e.replacement)
      ∧ (f.others = [] → r.1.active = s.active)
      ∧ (r.1.active ≠ s.active →
        r.1.current.value.Sublist ((s.headOf e ++ s.restOf e).filter r.1.mask.acceptsAnywhere)) := by
  refine ⟨edit_comesFrom h.displaysLayout ok, ?_, edit_value_sublist ok⟩
  intro alone
  exact active_of_alone (h.field_eq ▸ alone) ok

/-- The new digit changes the mask.  The literal between the others is no digit, so it is not taken for
typed. -/
theorem exists_edit_value_comesFrom : ∃ (f : Field) (s : Session) (e : Edit) (r : Session × Update),
    Reachable f s ∧ s.edit e = .ok r ∧ r.1.active ≠ s.active ∧ s.current.text = "1-2".toList
      ∧ r.1.current.text = "1-23".toList
      ∧ ComesFrom r.1.current.value s.current.value e.replacement := by
  let digit : Slot := .value .digit false
  let f : Field :=
    { primary := ⟨[], [digit, .literal '-', digit], true, false⟩
      others := [⟨[], [digit, .literal '-', digit, digit], true, false⟩] }
  let s : Session := ((start f).step (.setText "12".toList)).1
  let d : Display := ⟨"1-23".toList, "123".toList, 4, true⟩
  let r : Session × Update := ({ s with active := 1, current := d }, ⟨d, none⟩)
  have reachable : Reachable f s := .step .start _
  have ok : s.edit ⟨3, 3, ['3']⟩ = .ok r := by decide +kernel
  have refused : ∀ l, .literal l ∈ s.mask.slots → r.1.mask.acceptsAnywhere l = false := by
    intro l hl
    have primary : s.mask = f.primary := by decide +kernel
    rw [primary] at hl
    obtain rfl : l = '-' := by simpa [f, digit] using hl
    decide +kernel
  exact ⟨f, s, _, r, reachable, ok, by decide +kernel, by decide +kernel, rfl,
    (edit_value_comesFrom reachable ok).1 (Or.inr refused)⟩

/-- The shown `1` is a literal of the primary mask and a digit for the other one, so the fourth character
makes it part of the value. -/
theorem exists_edit_invents : ∃ (f : Field) (s : Session) (r : Session × Update),
    Mask.compile [] "1[00]".toList = .ok f.primary ∧ Mask.compile [] "[0000]".toList = .ok (f.mask 1)
      ∧ Reachable f s ∧ s.current = ⟨"123".toList, "23".toList, 3, true⟩
      ∧ s.edit ⟨3, 3, "4".toList⟩ = .ok r ∧ r.1.current.value = "1234".toList
      ∧ ¬ ComesFrom r.1.current.value s.current.value "4".toList := by
  let digit : Slot := .value .digit false
  let f : Field :=
    { primary := ⟨"1[00]".toList, [.literal '1', digit, digit], true, false⟩
      others := [⟨"[0000]".toList, [digit, digit, digit, digit], true, false⟩] }
  let s : Session := ((start f).step (.setText "123".toList)).1
  let d : Display := ⟨"1234".toList, "1234".toList, 4, true⟩
  let r : Session × Update := ({ s with active := 1, current := d }, ⟨d, none⟩)
  have shown : s.current = ⟨"123".toList, "23".toList, 3, true⟩ := by decide +kernel
  refine ⟨f, s, r, by decide +kernel, by decide +kernel, .step .start _, shown, by decide +kernel, rfl, ?_⟩
  rw [shown]
  intro origin
  have typed : '1' ∈ "23".toList ++ "4".toList := origin.subperm.subset List.mem_cons_self
  exact absurd typed (by decide)

end Session

/-! ## A run of operations -/

/-- The text that an operation enters. -/
def Operation.entered : Operation → List Char
  | edit e => e.replacement
  | setText text => text
  | clear | focus | blur => []

/-- No mask of the field takes a literal, be it its own or that of another one. -/
def Field.LiteralsApart (f : Field) : Prop :=
  ∀ m ∈ f.masks, ∀ m' ∈ f.masks, ∀ l, .literal l ∈ m.slots → m'.acceptsAnywhere l = false

namespace Session

variable {f : Field} {s : Session}

/-- The field has one mask, or no mask takes a literal. -/
def KeepsLiteralsOut (s : Session) : Prop := s.field.others = [] ∨ s.field.LiteralsApart

lemma edit_value_subperm (h : s.DisplaysLayout) (apart : s.KeepsLiteralsOut) {e : Edit}
    {r : Session × Update} (ok : s.edit e = .ok r) :
    r.1.current.value.Subperm (s.current.value ++ e.replacement) := by
  have field : r.1.field = s.field := by
    obtain ⟨i, d, -, rfl⟩ := edit_eq_ok ok
    rfl
  refine (edit_comesFrom h ok ?_).subperm
  rcases apart with alone | apart
  · exact Or.inl (active_of_alone alone ok)
  · refine Or.inr (apart s.mask (s.field.mask_mem s.active) r.1.mask ?_)
    rw [mask, field]
    exact s.field.mask_mem r.1.active

lemma relayout_value_subperm (s : Session) (tail : Tail) :
    (s.relayout tail).1.current.value.Subperm s.current.value :=
  (s.mask.value_layout_sublist tail s.current.value).subperm

/-- **One operation** adds nothing to the value but what it enters. -/
theorem step_value_subperm (h : s.DisplaysLayout) (apart : s.KeepsLiteralsOut)
    (operation : Operation) :
    (s.step operation).1.current.value.Subperm (s.current.value ++ operation.entered) := by
  have setText (text : List Char) :
      (s.setText text).1.current.value.Subperm (s.current.value ++ text) := by
    rcases s.setText_cases text with ⟨r, ok, eq⟩ | ⟨-, eq⟩
    · rw [eq]
      exact edit_value_subperm h apart ok
    · rw [eq]
      exact (List.sublist_append_left ..).subperm
  cases operation with
  | edit e =>
      rw [step]
      cases result : s.edit e with
      | ok r => exact edit_value_subperm h apart result
      | error error => exact (List.sublist_append_left ..).subperm
  | setText text => exact setText text
  | clear => exact setText []
  | focus =>
      show s.focus.1.current.value.Subperm (s.current.value ++ [])
      rw [List.append_nil, focus]
      split_ifs
      · exact relayout_value_subperm { s with focused := true } _
      · exact List.Subperm.refl _
  | blur =>
      show s.blur.1.current.value.Subperm (s.current.value ++ [])
      rw [List.append_nil, blur]
      split_ifs
      · exact relayout_value_subperm { s with focused := false } _
      · exact List.Subperm.refl _

/-- **Nothing is invented.**  In a field with one mask, and in one of several masks none of which takes a
literal, every character of the value was entered in the course of the run, and none of them counts
twice. -/
theorem run_value_subperm (apart : f.others = [] ∨ f.LiteralsApart) (operations : List Operation) :
    ((start f).run operations).1.current.value.Subperm (operations.flatMap Operation.entered) := by
  have run (s : Session) (h : s.DisplaysLayout) (apart : s.KeepsLiteralsOut) :
      (s.run operations).1.current.value.Subperm
        (s.current.value ++ operations.flatMap Operation.entered) := by
    induction operations generalizing s with
    | nil => exact (List.sublist_append_left ..).subperm
    | cons operation operations ih =>
        have kept : (s.step operation).1.KeepsLiteralsOut := by
          rw [KeepsLiteralsOut, field_step]
          exact apart
        rw [List.flatMap_cons, ← List.append_assoc]
        exact (ih _ (h.step operation) kept).trans
          ((List.subperm_append_right _).mpr (step_value_subperm h apart operation))
  have empty : (start f).current.value = [] := f.primary.value_layout_nil .afterValue
  have entered := run (start f) (displaysLayout_start f) apart
  rwa [empty] at entered

end Session

end MaskedInput
