import Mathlib.Data.List.Perm.Subperm
import MaskedInput.Proofs.Edit.Buffer
import MaskedInput.Proofs.Session.Backspacing
import MaskedInput.Proofs.Session.Typing

/-!
# A keystroke taken back

A typed character goes into the value at the caret, and the caret may jump over a run of literals behind
it.  With autoskip, a backspace on a literal goes back to the typed character in front of the run, so it
takes the character that was typed last.  Where all value slots take the same characters, nothing of the
value is lost on the way: both keys edit the value at the caret, and one undoes the other.

* `Session.front` — how many typed characters stand in front of the caret.
* `Mask.placedBefore_of_value_eq` — where all of the input is shown, the caret of a boundary has as many
  typed characters in front of it as the boundary.
* `Layout.valuesBefore_widened` — with autoskip, a backspace starts in front of one typed character.
* `Session.edit_of_room` — an edit whose characters all find room.
* `Session.Reachable.edit_insertion`, `Session.Reachable.edit_backspace` — a key puts its character in
  front of the caret, and a backspace takes the one that is there.
* **`Session.backspace_insertion`** — so a backspace undoes a keystroke.
* **`Session.backspaces_typeText`** — and as many backspaces undo a typed text.
-/

namespace MaskedInput

/-! ## Where all of the input is shown -/

namespace Mask

variable {m : Mask} {tail : Tail} {input : List Char}

/-- Where nothing of the input is dropped, each of its positions is the source of one character. -/
lemma sources_perm_range (all : (m.layout tail input).value = input) :
    ((m.layout tail input).cells.filterMap Cell.source).Perm (List.range input.length) := by
  have distinct : ((m.layout tail input).cells.filterMap Cell.source).Nodup :=
    (m.layout_ordered tail input).imp fun hlt => hlt.ne
  have within : (m.layout tail input).cells.filterMap Cell.source ⊆ List.range input.length := by
    intro i hi
    obtain ⟨c, hc, source⟩ := List.mem_filterMap.mp hi
    have found := m.getElem?_source tail input c hc i source
    exact List.mem_range.mpr (List.getElem?_eq_some_iff.mp found).1
  have length : ((m.layout tail input).cells.filterMap Cell.source).length = input.length := by
    rw [← Layout.sources_taken, List.length_map, Layout.length_taken,
      ← List.length_map (f := Prod.fst), ← Layout.value_eq_seats, all]
  exact (List.subperm_of_subset distinct within).perm_of_length_le (by simp [length])

/-- Each boundary of such an input has all the characters in front of it among the typed ones. -/
lemma placedBefore_of_value_eq (all : (m.layout tail input).value = input) {n : ℕ}
    (le : n ≤ input.length) : (m.layout tail input).placedBefore n = n :=
  calc (m.layout tail input).placedBefore n
      = ((m.layout tail input).cells.filterMap Cell.source).countP (· < n) := by
        rw [Layout.placedBefore_eq, List.countP_filterMap]
        refine List.countP_congr fun c _ => ?_
        cases c.source <;> simp
    _ = (List.range input.length).countP (· < n) := (sources_perm_range all).countP_eq _
    _ = n := by
        rw [← Nat.add_sub_of_le le, List.range_add, List.countP_append, List.countP_map]
        simp [List.countP_eq_length.mpr]

end Mask

/-! ## Where a backspace starts -/

/-- **With autoskip, a backspace starts in front of one typed character**: the character in front of the
caret, or the one in front of the run of literals that the caret has jumped over. -/
lemma Layout.valuesBefore_widened (l : Layout) {p n : ℕ} (front : l.valuesBefore p = n + 1)
    (within : p ≤ l.cells.length) :
    l.valuesBefore ((⟨p - 1, p, []⟩ : Edit).widened true l).start = n := by
  cases p with
  | zero => exact absurd front (Nat.succ_ne_zero n).symm
  | succ p =>
      have here : l.cells[p]? = some l.cells[p] := List.getElem?_eq_getElem within
      have start : ((⟨p + 1 - 1, p + 1, []⟩ : Edit).widened true l).start
          = (l.valueBeforeLiterals? p).getD p := by
        simp [Edit.widened, Edit.isSingleDeletion, Edit.isDeletion]
      rw [start, valueBeforeLiterals?, here]
      by_cases value : l.cells[p].isValue = true
      · have step := IsValueAt.valuesBefore_succ ⟨_, here, value⟩
        simp only [if_pos value, Option.getD_none]
        omega
      · have same := valuesBefore_succ_of_literal here value
        simp only [if_neg value]
        cases last : lastValue? (l.cells.take p) with
        | none =>
            have none := lastValue?_eq_none_iff.mp last
            rw [← valuesBefore] at none
            omega
        | some q =>
            obtain ⟨-, value, behind⟩ := lastValue?_take last
            have step := value.valuesBefore_succ
            rw [Option.getD_some]
            omega

/-! ## Edits at the caret -/

namespace Session

variable {f : Field} {s : Session}

/-- How many typed characters stand in front of the caret. -/
def front (s : Session) : ℕ := s.layout.valuesBefore s.current.caret

lemma front_le (h : s.Coherent) : s.front ≤ s.current.value.length := by
  rw [h.value]
  exact s.layout.valuesBefore_le_length _

lemma length_inserted (h : s.Coherent) {c : Char} :
    (s.current.value.take s.front ++ [c] ++ s.current.value.drop s.front).length
      = s.current.value.length + 1 := by
  have le := front_le h
  simp only [List.length_append, List.length_take_of_le le, List.length_drop, List.length_singleton]
  omega

/-- There is room for the value. -/
lemma Coherent.length_le (h : s.Coherent) (uniform : s.mask.Uniform) :
    s.current.value.length ≤ s.mask.maxValueLength := by
  rw [h.value, uniform.value_layout h.accepted]
  exact s.mask.length_cut_le _

lemma DisplaysLayout.caret_le (h : s.DisplaysLayout) (coherent : s.Coherent) :
    s.current.caret ≤ s.layout.cells.length := by
  obtain ⟨input, intent, gravity, -, current⟩ := h
  have text : s.current.text.length = s.layout.cells.length := by
    rw [coherent.text]
    exact List.length_map _
  rw [← text, current]
  exact (s.mask.layout_ordered s.tail input).caretFits.le_length intent gravity

/-- **An edit whose characters all find room** succeeds, the value is what it has spliced together, and
the caret has in front of it what the edit has put there. -/
lemma edit_of_room (alone : s.field.others = []) (uniform : s.mask.Uniform) {e : Edit}
    (within : e.Within s.layout.cells.length)
    (room : (s.mask.editedInput s.current.value e s.editOptions).length ≤ s.mask.maxValueLength) :
    ∃ r, s.edit e = .ok r
      ∧ r.1.current.value = s.mask.editedInput s.current.value e s.editOptions
      ∧ r.1.front = s.mask.editedIntent s.current.value e s.editOptions := by
  have edited := edited_alone s e alone
  rw [if_pos within] at edited
  have all : (s.mask.edited s.current.value e s.editOptions).value
      = s.mask.editedInput s.current.value e s.editOptions :=
    (uniform.value_layout fun _ => s.mask.acceptsAnywhere_of_mem_editedInput _ e _).trans
      (Mask.cut_of_length_le room)
  have fits := (s.mask.layout_ordered (s.editOptions.tailAfter e)
    (s.mask.editedInput s.current.value e s.editOptions)).caretFits.valuesBefore_eq
      (s.mask.editedIntent s.current.value e s.editOptions) e.gravity
  rw [Mask.placedBefore_of_value_eq all (Mask.editedIntent_le ..)] at fits
  rw [edit, edited]
  refine ⟨_, rfl, all, Eq.trans ?_ fits⟩
  exact congrArg (fun v => (s.mask.layout (s.editOptions.tailAfter e) v).valuesBefore _) all

lemma Reachable.edit (h : Reachable f s) {e : Edit} {r : Session × Update} (ok : s.edit e = .ok r) :
    Reachable f r.1 := by
  have next := h.step (.edit e)
  rwa [Session.step, ok] at next

namespace Reachable

section OneMask

variable (h : Reachable f s) (alone : f.others = []) (uniform : f.primary.Uniform)

include h alone uniform

lemma coherent_of_uniform : s.Coherent := h.coherent_of_alone alone (Or.inr uniform)

/-- An edit whose characters all find room, in a state that the field can come to. -/
lemma edit_of_room {e : Edit} (within : e.start ≤ e.stop ∧ e.stop ≤ s.current.caret)
    (room : (s.mask.editedInput s.current.value e s.editOptions).length
      ≤ f.primary.maxValueLength) :
    ∃ r, s.edit e = .ok r ∧ Reachable f r.1
      ∧ r.1.current.value = s.mask.editedInput s.current.value e s.editOptions
      ∧ r.1.front = s.mask.editedIntent s.current.value e s.editOptions := by
  have caret := h.displaysLayout.caret_le (h.coherent_of_uniform alone uniform)
  rw [← h.mask_eq_primary alone] at uniform room
  obtain ⟨r, ok, edited⟩ := Session.edit_of_room (h.others_eq_nil alone) uniform
    ⟨within.1, within.2.trans caret⟩ room
  exact ⟨r, ok, h.edit ok, edited⟩

/-- **A key** puts its character in front of the caret, if there is room and some slot takes it. -/
lemma edit_insertion (room : s.current.value.length < f.primary.maxValueLength) {c : Char}
    (accepted : f.primary.acceptsAnywhere c = true) :
    ∃ r, s.edit (s.insertion [c]) = .ok r ∧ Reachable f r.1
      ∧ r.1.current.value = s.current.value.take s.front ++ [c] ++ s.current.value.drop s.front
      ∧ r.1.front = s.front + 1 := by
  have coherent := h.coherent_of_uniform alone uniform
  rw [← h.mask_eq_primary alone] at accepted
  have kept : s.mask.keptOf s.layout (s.insertion [c]) = [c] :=
    (s.mask.kept_align_typed _ [c]).trans (List.filter_cons_of_pos accepted)
  have spliced : s.mask.editedInput s.current.value (s.insertion [c]) s.editOptions
      = s.current.value.take s.front ++ [c] ++ s.current.value.drop s.front := by
    rw [Mask.editedInput, Edit.widened_of_stop_eq _ _ _ rfl]
    show s.layout.value.take s.front ++ s.mask.keptOf s.layout (s.insertion [c])
      ++ s.layout.value.drop s.front = _
    rw [kept, layout, ← coherent.value]
  have intent : s.mask.editedIntent s.current.value (s.insertion [c]) s.editOptions = s.front + 1 := by
    rw [Mask.editedIntent, Edit.widened_of_stop_eq _ _ _ rfl]
    show s.front + (s.mask.keptOf s.layout (s.insertion [c])).length = _
    rw [kept]
    rfl
  rw [← spliced, ← intent]
  refine h.edit_of_room alone uniform ⟨le_refl _, le_refl _⟩ ?_
  rw [spliced, length_inserted coherent]
  exact room

/-- **A backspace with autoskip** takes the typed character in front of the caret. -/
lemma edit_backspace (autoskip : f.autoskip = true) {n : ℕ} (front : s.front = n + 1) :
    ∃ r, s.edit s.backspace = .ok r ∧ Reachable f r.1
      ∧ r.1.current.value = s.current.value.take n ++ s.current.value.drop (n + 1)
      ∧ r.1.front = n := by
  have coherent := h.coherent_of_uniform alone uniform
  have start : s.layout.valuesBefore (s.backspace.widened s.field.autoskip s.layout).start = n := by
    rw [h.field_eq, autoskip]
    exact s.layout.valuesBefore_widened front (h.displaysLayout.caret_le coherent)
  have kept : s.mask.keptOf s.layout (s.backspace.widened s.field.autoskip s.layout) = [] := by
    rw [Mask.keptOf, Edit.widened_replacement, backspace, Mask.align_nil]
    rfl
  have spliced : s.mask.editedInput s.current.value s.backspace s.editOptions
      = s.current.value.take n ++ s.current.value.drop (n + 1) := by
    show s.layout.value.take (s.layout.valuesBefore (s.backspace.widened s.field.autoskip s.layout).start)
      ++ s.mask.keptOf s.layout (s.backspace.widened s.field.autoskip s.layout)
      ++ s.layout.value.drop (s.layout.valuesBefore
          (s.backspace.widened s.field.autoskip s.layout).stop) = _
    rw [start, kept, List.append_nil, Edit.widened_stop]
    show s.layout.value.take n ++ s.layout.value.drop s.front = _
    rw [front, layout, ← coherent.value]
  have intent : s.mask.editedIntent s.current.value s.backspace s.editOptions = n := by
    show s.layout.valuesBefore (s.backspace.widened s.field.autoskip s.layout).start
      + (s.mask.keptOf s.layout (s.backspace.widened s.field.autoskip s.layout)).length = n
    rw [start, kept]
    rfl
  rw [← spliced, ← intent]
  refine h.edit_of_room alone uniform ⟨Nat.sub_le _ _, le_refl _⟩ ?_
  rw [spliced, ← List.eraseIdx_eq_take_drop_succ]
  rw [← h.mask_eq_primary alone] at uniform ⊢
  exact (List.length_eraseIdx_le _ n).trans (coherent.length_le uniform)

/-- **A backspace right after a key** leaves the value and the characters in front of the caret. -/
lemma edit_backspace_of_typed (autoskip : f.autoskip = true) {v : List Char} {n : ℕ} {c : Char}
    (le : n ≤ v.length) (value : s.current.value = v.take n ++ [c] ++ v.drop n)
    (front : s.front = n + 1) :
    ∃ r, s.edit s.backspace = .ok r ∧ Reachable f r.1 ∧ r.1.current.value = v ∧ r.1.front = n := by
  obtain ⟨r, ok, reached, value', front'⟩ := h.edit_backspace alone uniform autoskip front
  refine ⟨r, ok, reached, ?_, front'⟩
  have length := List.length_take_of_le le
  calc r.1.current.value
      = s.current.value.take n ++ s.current.value.drop (n + 1) := value'
    _ = v.take n ++ v.drop n := by
        rw [value, List.drop_left' (by simp [length]), List.append_assoc, List.take_left' length]
    _ = v := List.take_append_drop _ _

end OneMask

end Reachable

/-! ## Keystrokes taken back -/

/-- **A backspace undoes a keystroke.**  Let a field with autoskip have one mask, all of whose value slots
take the same characters, and let there be room in it.  A character that the mask takes, typed at the
caret and taken back by a backspace, leaves the value that was there before, and as many typed characters
in front of the caret. -/
theorem backspace_insertion (alone : f.others = []) (autoskip : f.autoskip = true)
    (uniform : f.primary.Uniform) (h : Reachable f s)
    (room : s.current.value.length < f.primary.maxValueLength) {c : Char}
    (accepted : f.primary.acceptsAnywhere c = true) :
    ∃ r r', s.edit (s.insertion [c]) = .ok r
      ∧ r.1.current.value = s.current.value.take s.front ++ [c] ++ s.current.value.drop s.front
      ∧ r.1.edit r.1.backspace = .ok r'
      ∧ r'.1.current.value = s.current.value ∧ r'.1.front = s.front
      ∧ s.Coherent ∧ r'.1.Coherent := by
  have before := h.coherent_of_uniform alone uniform
  obtain ⟨r, typed, h', value, front⟩ := h.edit_insertion alone uniform room accepted
  obtain ⟨r', deleted, h'', value', front'⟩ :=
    h'.edit_backspace_of_typed alone uniform autoskip (front_le before) value front
  have after := h''.coherent_of_uniform alone uniform
  exact ⟨r, r', typed, value, deleted, value', front', before, after⟩

/-- The typed digit fills the place in front of the literals, so that the caret jumps over them, and the
backspace starts on a literal. -/
theorem exists_backspace_insertion : ∃ (f : Field) (s : Session) (r r' : Session × Update),
    f.others = [] ∧ f.autoskip = true ∧ f.primary.Uniform ∧ Reachable f s
    ∧ s.current = ⟨"13)-4".toList, "134".toList, 1, false⟩
    ∧ s.current.value.length < f.primary.maxValueLength ∧ f.primary.acceptsAnywhere '2' = true
    ∧ (s.edit (s.insertion ['2'])).map (·.1.current) = .ok ⟨"12)-34".toList, "1234".toList, 4, true⟩
    ∧ s.edit (s.insertion ['2']) = .ok r ∧ r.1.edit r.1.backspace = .ok r'
    ∧ r'.1.current.value = "134".toList ∧ r'.1.front = 1 := by
  let digit : Slot := .value .digit false
  let f : Field :=
    { primary := ⟨[], [digit, digit, .literal ')', .literal '-', digit, digit], true, false⟩
      autoskip := true }
  let s : Session := (((start f).step (.setText "134".toList)).1.step (.edit ⟨0, 1, ['1']⟩)).1
  have uniform : f.primary.Uniform := by simp [Mask.Uniform, f, digit, Slot.isLiteral]
  have reachable : Reachable f s := .step (.step .start _) _
  have value : s.current.value = "134".toList := by decide +kernel
  have front : s.front = 1 := by decide +kernel
  have room : s.current.value.length < f.primary.maxValueLength := by decide +kernel
  obtain ⟨r, r', typed, -, deleted, value', front', -⟩ :=
    backspace_insertion rfl rfl uniform reachable room (c := '2') (by decide +kernel)
  exact ⟨f, s, r, r', rfl, rfl, uniform, reachable, by decide +kernel, room, by decide +kernel,
    by decide +kernel, typed, deleted, value'.trans value, front'.trans front⟩

/-- One more backspace behind some of them. -/
lemma backspaces_succ {t : Session} {r : Session × Update} {n : ℕ} (before : s.backspaces n = .ok t)
    (ok : t.edit t.backspace = .ok r) : s.backspaces (n + 1) = .ok r.1 := by
  induction n generalizing s with
  | zero =>
      obtain rfl : s = t := Except.ok.inj before
      rw [backspaces, ok]
      rfl
  | succ n ih =>
      rw [backspaces] at before
      cases first : s.edit s.backspace with
      | error error =>
          rw [first] at before
          exact absurd before (by simp [bind, Except.bind])
      | ok q =>
          rw [first] at before
          rw [backspaces, first]
          exact ih before

/-- **Backspaces undo a typed text**, one for each character.  The induction is on the text: the last
backspace takes back the first character. -/
theorem backspaces_typeText (alone : f.others = []) (autoskip : f.autoskip = true)
    (uniform : f.primary.Uniform) (h : Reachable f s) {text : List Char}
    (room : s.current.value.length + text.length ≤ f.primary.maxValueLength)
    (accepted : ∀ c ∈ text, f.primary.acceptsAnywhere c = true) :
    ∃ t t', s.typeText text = .ok t ∧ t.backspaces text.length = .ok t' ∧ Reachable f t'
      ∧ t'.current.value = s.current.value ∧ t'.front = s.front := by
  induction text generalizing s with
  | nil => exact ⟨s, s, rfl, rfl, h, rfl, rfl⟩
  | cons c text ih =>
      have coherent := h.coherent_of_uniform alone uniform
      rw [List.length_cons] at room
      obtain ⟨r, typed, h', value, front⟩ :=
        h.edit_insertion alone uniform (by omega) (accepted c List.mem_cons_self)
      have longer : r.1.current.value.length = s.current.value.length + 1 := by
        rw [value, length_inserted coherent]
      obtain ⟨t, t', rest, taken, h'', value', front'⟩ :=
        ih h' (by omega) (List.forall_mem_of_forall_mem_cons accepted)
      obtain ⟨u, deleted, reached, restored, back⟩ := h''.edit_backspace_of_typed alone uniform autoskip
        (front_le coherent) (value'.trans value) (front'.trans front)
      refine ⟨t, u.1, ?_, backspaces_succ taken deleted, reached, restored, back⟩
      rw [typeText, typed]
      exact rest

end Session

end MaskedInput
