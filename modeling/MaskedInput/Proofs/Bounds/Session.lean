import MaskedInput.Proofs.Bounds.Edit
import MaskedInput.Proofs.Session.Coherence

/-!
# Sessions without faults

A session with several masks checks the range of an edit against the shown text, cuts the shown text at
both ends and only then asks whether the mask changes.  If it does not, the range is checked once more,
against the layout of the value, which may be shorter than the shown text.  Between the two checks
autoskip has moved the start by the layout of the value, not by the text that is cut.  Nothing goes out
of range for all that: autoskip only ever moves the start to the front, and each cut stands behind a
check of its own.

* `Session.edit?` and the other operations — as they are run, with every cut and every sum checked.
* `Session.Fits` — there is room in memory for a state and a text; `Reachable.fits` — there is, if the
  masks leave room for it.
* `Session.step?_eq`, `Session.run?_eq` — no operation meets a fault, and neither does a run of them.
* **`operations_noFault`** — under every mask and in every state, no index, slice or difference is out of
  range, and no sum leaves its word.
-/

namespace MaskedInput

open Checked

/-- The text that comes with an operation. -/
def Operation.text : Operation → List Char
  | .edit e => e.replacement
  | .setText text => text
  | .clear | .focus | .blur => []

namespace Session

/-! ## The operations -/

/-- The empty field. -/
def start? (f : Field) : Option Session := do
  let current ← f.primary.display? .afterValue [] 0 .forward
  return { field := f, current }

variable (s : Session)

/-- What is displayed after an edit that changes the mask to `m`. -/
def reread? (m : Mask) (e : Edit) (head rest : List Char) : Option Display := do
  let absorb := absorbsLiterals (head ++ rest)
  let read ← m.align? 0 (head ++ rest) absorb
  let part ← m.align? 0 (if m.rightToLeft then rest else head) absorb
  -- The difference is meant to stop at zero.
  let intent := if m.rightToLeft then read.kept.length - part.kept.length else part.kept.length
  m.display? (s.editOptions.tailAfter e) read.kept intent e.gravity

/-- The mask and the display after an edit of a field with several masks. -/
def editAmong? (e : Edit) : Option (Except RangeError (ℕ × Display)) := do
  let length := s.current.text.length
  if e.stop < e.start ∨ length < e.stop then return .error ⟨e.start, e.stop, length⟩
  else
    let start ← Walk.widenedStart? (s.mask.walk? s.tail s.current.value) s.field.autoskip e
    let front ← slice? s.current.text 0 start
    let rest ← slice? s.current.text e.stop length
    let head := front ++ e.replacement
    let chosen ← s.field.pick? (head ++ rest)
    if chosen = s.active then
      -- This checks the range once more, against the layout of the value.
      let result ← s.mask.edit? s.current.value e s.editOptions
      return (s.active, ·) <$> result
    else
      let display ← s.reread? (s.field.mask chosen) e head rest
      return .ok (chosen, display)

/-- The mask and the display after an edit. -/
def edited? (e : Edit) : Option (Except RangeError (ℕ × Display)) :=
  if s.field.others.isEmpty then do
    let result ← s.mask.edit? s.current.value e s.editOptions
    return (s.active, ·) <$> result
  else s.editAmong? e

/-- **An edit of the shown text.** -/
def edit? (e : Edit) : Option (Except RangeError (Session × Update)) := do
  let result ← s.edited? e
  return (fun r => { s with active := r.1, tail := s.editOptions.tailAfter e }.commit r.2) <$> result

def setText? (text : List Char) : Option (Session × Update) := do
  match ← s.edit? ⟨0, s.current.text.length, text⟩ with
  | .ok result => return result
  | .error _ => return s.unchanged

/-- Lays the value out again under another tail policy. -/
def relayout? (tail : Tail) : Option (Session × Update) := do
  let value := s.current.value
  let display ← s.mask.display? tail value value.length .forward
  return { s with tail }.commit display

def focus? : Option (Session × Update) :=
  let s := { s with focused := true }
  if s.field.autocompleteOnFocus && s.current.value.isEmpty then s.relayout? .eager
  else some s.unchanged

def blur? : Option (Session × Update) :=
  let s := { s with focused := false }
  if s.current.value.isEmpty && !s.current.text.isEmpty then s.relayout? .afterValue
  else some s.unchanged

/-- **One operation.** -/
def step? : Operation → Option (Session × Answer)
  | .edit e => do
    match ← s.edit? e with
    | .ok result => return answered result
    | .error error => return (s, .error error)
  | .setText text => answered <$> s.setText? text
  | .clear => answered <$> s.setText? []
  | .focus => answered <$> s.focus?
  | .blur => answered <$> s.blur?

/-- The operations of a list, one after another. -/
def run? (s : Session) : List Operation → Option (Session × List Answer)
  | [] => some (s, [])
  | operation :: operations => do
    let (s, answer) ← s.step? operation
    let (s, answers) ← s.run? operations
    return (s, answer :: answers)

/-! ## Room in memory -/

/-- There is room for a state and a text that comes with an operation: what is in memory together holds
fewer than `2 ^ 63` slots and characters. -/
structure Fits (s : Session) (text : List Char) : Prop where
  masks : ∀ m ∈ s.field.masks, m.slots.length + s.current.text.length + text.length < 2 ^ 63
  value : s.mask.slots.length + s.current.value.length + text.length < 2 ^ 63
  candidates : s.field.others.length < 2 ^ 63

end Session

/-- **There is room for the field and a text**: what is in memory together, two of its masks and the text,
holds fewer than `2 ^ 63` slots and characters. -/
structure Field.Room (f : Field) (text : List Char) : Prop where
  masks : ∀ m ∈ f.masks, ∀ n ∈ f.masks, m.slots.length + n.slots.length + text.length < 2 ^ 63
  candidates : f.others.length < 2 ^ 63

namespace Session

variable {s : Session} {f : Field} {e : Edit} {text : List Char}

lemma DisplaysLayout.length_text_le (h : s.DisplaysLayout) :
    s.current.text.length ≤ s.mask.slots.length := by
  obtain ⟨input, -, text, -, -⟩ := h.exists_input
  rw [text, Layout.text, List.length_map]
  exact s.mask.length_layout_le s.tail input

lemma DisplaysLayout.length_value_le (h : s.DisplaysLayout) :
    s.current.value.length ≤ s.current.text.length := by
  obtain ⟨input, -, text, value, -⟩ := h.exists_input
  rw [text, value]
  exact (s.mask.layout s.tail input).value_sublist_text.length_le

/-- In every state, the shown text and the value are no longer than the active mask. -/
lemma Reachable.fits (h : Reachable f s) (room : f.Room text) : s.Fits text := by
  have shown := h.displaysLayout.length_text_le
  have typed := h.displaysLayout.length_value_le
  have active : s.mask ∈ f.masks := h.field_eq ▸ s.field.mask_mem s.active
  constructor
  case masks =>
    intro m hm
    have := room.masks m (h.field_eq ▸ hm) s.mask active
    omega
  case value =>
    have := room.masks s.mask active s.mask active
    omega
  case candidates => exact h.field_eq ▸ room.candidates

/-! ## No operation meets a fault -/

/-- The ends at which the shown text is cut: they keep their order, and both lie within the text. -/
lemma range_le (within : e.Within s.current.text.length) :
    (e.widened s.field.autoskip s.layout).start ≤ e.stop ∧ e.stop ≤ s.current.text.length :=
  ⟨(e.widened_start_le _ _).trans within.1, within.2⟩

/-- Nothing of the shown text is there twice in the text after an edit. -/
lemma length_headOf_restOf_le (ordered : e.start ≤ e.stop) :
    (s.headOf e ++ s.restOf e).length ≤ s.current.text.length + e.replacement.length := by
  have start := e.widened_start_le s.field.autoskip s.layout
  simp only [headOf, restOf, List.length_append, List.length_take, List.length_drop]
  omega

section Fits

variable (fits : s.Fits e.replacement)

include fits

lemma reread?_eq {m : Mask} (hm : m ∈ s.field.masks) {head rest : List Char}
    (short : (head ++ rest).length ≤ s.current.text.length + e.replacement.length) :
    s.reread? m e head rest = some (s.reread m e head rest) := by
  have room := fits.masks m hm
  have raw : m.slots.length + (head ++ rest).length < 2 ^ 63 := by omega
  have kept := m.length_kept_le 0 (head ++ rest) (absorbsLiterals (head ++ rest))
  have part : m.slots.length + (if m.rightToLeft then rest else head).length < 2 ^ 63 := by
    rw [List.length_append] at raw
    split_ifs <;> omega
  rw [reread?, Mask.align?_eq raw, Mask.align?_eq part]
  simp only [Option.bind_eq_bind, Option.bind_some]
  rw [Mask.display?_eq (by omega), reread]
  split_ifs <;> rfl

lemma edit?_mask_eq :
    s.mask.edit? s.current.value e s.editOptions
      = some (s.mask.edit s.current.value e s.editOptions) :=
  Mask.edit?_eq fits.value s.editOptions

lemma pick?_eq (ordered : e.start ≤ e.stop) :
    s.field.pick? (s.headOf e ++ s.restOf e) = some (s.chosen e) := by
  have short := length_headOf_restOf_le (s := s) ordered
  refine Field.pick?_eq (fun m hm => ?_) fits.candidates
  have := fits.masks m hm
  omega

/-- **An edit among several masks meets no fault.** -/
lemma editAmong?_eq : s.editAmong? e = some (s.editAmong e) := by
  rw [editAmong?, editAmong, Edit.checked_eq]
  by_cases within : e.Within s.current.text.length
  · have ordered := within.1
    have inText := within.2
    have walk : s.mask.walk? s.tail s.current.value = some s.layout.indexed :=
      Mask.walk?_eq (by have := fits.value; omega)
    have shown : s.current.text.length < 2 ^ 63 := by
      have := fits.masks s.mask (s.field.mask_mem s.active)
      omega
    obtain ⟨inOrder, start⟩ := range_le (s := s) within
    have short := length_headOf_restOf_le (s := s) ordered
    rw [if_neg (by omega), if_pos within, walk, Walk.widenedStart?_eq (by omega)]
    simp only [Option.bind_eq_bind, Option.bind_some]
    rw [slice?_front (inOrder.trans start), slice?_back inText]
    simp only [Option.bind_some, bind, Except.bind, Edit.widened_stop]
    rw [← headOf, ← restOf, ← chosen, pick?_eq fits ordered, Option.bind_some]
    by_cases same : s.chosen e = s.active
    · rw [if_pos same, if_pos same, edit?_mask_eq fits]
      cases s.mask.edit s.current.value e s.editOptions <;> rfl
    · rw [if_neg same, if_neg same, reread?_eq fits (s.field.mask_mem _) short]
      rfl
  · rw [if_pos (by rw [Edit.Within] at within; omega), if_neg within]
    rfl

lemma edited?_eq : s.edited? e = some (s.edited e) := by
  rw [edited?, edited]
  split_ifs
  · rw [edit?_mask_eq fits]
    rfl
  · exact editAmong?_eq fits

/-- **An edit of the shown text meets no fault**, whatever its range. -/
theorem edit?_eq : s.edit? e = some (s.edit e) := by
  rw [edit?, edited?_eq fits, edit]
  cases s.edited e <;> rfl

end Fits

lemma setText?_eq (text : List Char) (fits : s.Fits text) : s.setText? text = some (s.setText text) := by
  rw [setText?, edit?_eq (e := ⟨0, s.current.text.length, text⟩) fits, setText, Option.bind_eq_bind,
    Option.bind_some]
  split <;> simp_all

/-- Laying the value out again needs room for the value alone. -/
lemma relayout?_eq (fits : s.Fits text) (tail : Tail) :
    s.relayout? tail = some (s.relayout tail) := by
  have := fits.value
  rw [relayout?, Mask.display?_eq (by omega)]
  rfl

/-- The focus does not change what has to fit. -/
lemma Fits.focused (fits : s.Fits text) (focused : Bool) : Fits { s with focused } text :=
  ⟨fits.masks, fits.value, fits.candidates⟩

/-- **No operation meets a fault.** -/
theorem step?_eq {operation : Operation} (fits : s.Fits operation.text) :
    s.step? operation = some (s.step operation) := by
  cases operation with
  | edit e =>
      rw [step?, edit?_eq fits, step, Option.bind_eq_bind, Option.bind_some]
      cases s.edit e <;> rfl
  | setText text =>
      rw [step?, setText?_eq text fits]
      rfl
  | clear =>
      rw [step?, setText?_eq [] fits]
      rfl
  | focus =>
      rw [step?, focus?, step, focus]
      simp only [relayout?_eq (fits.focused true)]
      split_ifs <;> rfl
  | blur =>
      rw [step?, blur?, step, blur]
      simp only [relayout?_eq (fits.focused false)]
      split_ifs <;> rfl

/-! ## Runs -/

lemma start?_eq (fits : f.primary.slots.length < 2 ^ 63) : start? f = some (start f) := by
  rw [start?, Mask.display?_eq (by simpa using fits)]
  rfl

/-- **No run of operations meets a fault.** -/
theorem run?_eq (h : Reachable f s) {operations : List Operation}
    (room : ∀ operation ∈ operations, f.Room operation.text) :
    s.run? operations = some (s.run operations) := by
  induction operations generalizing s with
  | nil => rfl
  | cons operation operations ih =>
      obtain ⟨first, others⟩ := List.forall_mem_cons.mp room
      rw [run?, step?_eq (h.fits first), Option.bind_eq_bind, Option.bind_some]
      dsimp only
      rw [ih (h.step operation) others]
      rfl

/-- **A session meets no fault** in an operation for which there is room. -/
structure NoFault (s : Session) : Prop where
  step : ∀ operation : Operation, s.field.Room operation.text →
    s.step? operation = some (s.step operation)
  /-- The ends at which the shown text is cut keep their order and lie within it. -/
  range : ∀ e : Edit, e.Within s.current.text.length →
    (e.widened s.field.autoskip s.layout).start ≤ e.stop ∧ e.stop ≤ s.current.text.length

lemma Reachable.noFault (h : Reachable f s) : s.NoFault where
  step _ room := step?_eq (h.fits (h.field_eq ▸ room))
  range _ within := range_le within

end Session

/-- **Nothing is ever out of range.**  Laying out, formatting and editing, under every mask, every run of a
session from its empty field, and every operation in every state that it can come to, meet no fault: no
index and no slice past the end, no difference below zero and no sum beyond its word.  Their results are
those of the definitions without checks.  The only condition is that the masks and texts that are in
memory together have room there. -/
theorem operations_noFault :
    (∀ m : Mask, m.NoFault)
      ∧ (∀ (f : Field) (operations : List Operation), f.Room [] →
          (∀ operation ∈ operations, f.Room operation.text) →
          (Session.start? f >>= (·.run? operations)) = some ((Session.start f).run operations))
      ∧ ∀ (f : Field) (s : Session), Session.Reachable f s → s.NoFault := by
  refine ⟨Mask.noFault, fun f operations room rooms => ?_, fun f s h => h.noFault⟩
  have primary := room.masks f.primary List.mem_cons_self f.primary List.mem_cons_self
  rw [Session.start?_eq (by omega), Option.bind_eq_bind, Option.bind_some]
  exact Session.run?_eq .start rooms

/-- Filled from the right, a deleted literal takes the digit in front of it along.  The session shows a
text that is longer than the layout of its value; the first check lets the deletion of the last character
pass, and the second one does not. -/
theorem exists_operations_noFault : ∃ (m n : Mask) (f : Field) (s : Session),
    m.rightToLeft = true
      ∧ m.edit? "1234".toList ⟨1, 2, []⟩ { autoskip := true }
        = some (.ok ⟨"234".toList, "234".toList, 0, false⟩)
      ∧ Mask.compile [] "{0}[0]-[A]".toList = .ok n ∧ f.masks = [n, m] ∧ f.autoskip = true
      ∧ Session.Reachable f s ∧ s.current.text = "1-".toList ∧ s.layout.text = "1".toList
      ∧ s.step? (.edit ⟨1, 2, []⟩) = some (s, .error ⟨1, 2, 1⟩)
      ∧ ∃ answer, (Session.start? f >>= (·.run? [.setText "x1".toList, .edit ⟨1, 2, []⟩]))
        = some (s, [answer, .error ⟨1, 2, 1⟩]) := by
  let digit : Slot := .value .digit false
  let m : Mask := ⟨[], [digit, digit, digit, .literal ' ', digit, digit, digit], true, true⟩
  let n : Mask := ⟨"{0}[0]-[A]".toList,
    [.value .digit true, digit, .literal '-', .value .letter false], true, false⟩
  let f : Field := { primary := n, others := [m], autoskip := true }
  let s : Session := ((Session.start f).step (.setText "x1".toList)).1
  have reachable : Session.Reachable f s := .step .start _
  have room (text : List Char) (short : text.length ≤ 2) : f.Room text := by
    constructor
    case masks =>
      have few : ∀ m ∈ f.masks, m.slots.length ≤ 7 := by decide
      intro m hm n hn
      have := few m hm
      have := few n hn
      omega
    case candidates => decide
  have rooms : ∀ operation ∈ [Operation.setText "x1".toList, .edit ⟨1, 2, []⟩],
      f.Room operation.text := by
    intro operation hmem
    rcases List.mem_pair.mp hmem with rfl | rfl
    · exact room _ (by decide)
    · exact room _ (by decide)
  obtain ⟨masks, runs, sessions⟩ := operations_noFault
  have edited := (masks m).edit "1234".toList ⟨1, 2, []⟩ (by decide) { autoskip := true }
  have ran := runs f _ (room [] (by decide)) rooms
  have stepped := (sessions f s reachable).step (.edit ⟨1, 2, []⟩)
    (reachable.field_eq ▸ room [] (by decide))
  exact ⟨m, n, f, s, rfl, edited.trans (by decide +kernel), by decide +kernel, rfl, rfl, reachable,
    by decide +kernel, by decide +kernel, stepped.trans (by decide +kernel),
    ((Session.start f).step (.setText "x1".toList)).2, ran.trans (by decide +kernel)⟩

end MaskedInput
