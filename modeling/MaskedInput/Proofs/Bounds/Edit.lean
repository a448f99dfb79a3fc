import MaskedInput.Proofs.Bounds.Alignment
import MaskedInput.Proofs.Bounds.Reading
import MaskedInput.Proofs.Edit

/-!
# Edits, by positions

An edit checks its range against the old text once.  Everything after that is unchecked: the start
moves in front of a run of literals, both ends become positions in the value, and the value is cut at
them.  Here every cut and every sum is checked, and none of them turns out to be a fault.

* `Mask.display?` — an input laid out and displayed.
* `Mask.edit?`, `Mask.format?` — an edit of the text that is shown for a value, and a raw text pasted
  into an empty field.
* `Mask.boundaries_le` — the ends of an edit as positions in the value: they keep their order, and
  both lie within the value.
* `Mask.edit?_eq`, `Mask.format?_eq` — neither meets a fault, and both lead to what `edit` and `format`
  lead to.
* **`Mask.noFault`** — this and the bounds behind it, for every mask.
* `Field.pick?_eq` — nor does the choice among several masks.
-/

namespace MaskedInput

open Checked

/-! ## What is displayed -/

namespace Mask

/-- What is displayed for an input, with the caret at a boundary of the input. -/
def display? (m : Mask) (tail : Tail) (input : List Char) (intent : ℕ) (gravity : Gravity) :
    Option Display := do
  let w ← m.walk? tail input
  w.display? intent gravity

section Length

variable (m : Mask) (tail : Tail) (input : List Char)

/-- Each cell of a layout has a slot of its own. -/
lemma length_layout_le : (m.layout tail input).cells.length ≤ m.slots.length := by
  obtain ⟨e, le, covers⟩ :=
    Layout.covers_forward (m.inReading m.slots) (m.tailPolicy tail) (m.inReading input)
  have count := List.length_eq_countP_add_countP Slot.isLiteral (l := (m.inReading m.slots).take e)
  have typed := covers.length_seats_le
  have take := List.length_take_le' e (m.inReading m.slots)
  rw [length_inReading] at take
  simp only [Bool.not_eq_true, Bool.decide_eq_false] at count
  rw [length_layout, readLayout, covers.length_eq]
  omega

lemma slot_lt_of_mem_layout : ∀ c ∈ (m.layout tail input).cells, c.slot < m.slots.length := by
  have within := Layout.cell_within_forward (m.inReading m.slots) (m.tailPolicy tail)
    (m.inReading input)
  rw [length_inReading] at within
  rw [layout_eq_readLayout, readLayout]
  split_ifs
  · intro c hc
    obtain ⟨d, hd, rfl⟩ := List.mem_map.mp hc
    have := (within d (List.mem_reverse.mp hd)).1
    show m.slots.length - 1 - d.slot < m.slots.length
    omega
  · exact fun c hc => (within c hc).1

end Length

variable {m : Mask}

/-- **What is displayed is found without a fault.** -/
theorem display?_eq {input : List Char} (room : m.slots.length + input.length < 2 ^ 63)
    (tail : Tail) (intent : ℕ) (gravity : Gravity) :
    m.display? tail input intent gravity = some ((m.layout tail input).display intent gravity) := by
  have le := m.length_layout_le tail input
  rw [display?, walk?_eq room]
  exact Walk.display?_indexed _ (by omega) intent gravity

end Mask

/-! ## Edits -/

/-- The start of an edit as autoskip moves it; the walk over the old value is asked for only if the
edit deletes a single character. -/
def Walk.widenedStart? (old : Option Walk) (autoskip : Bool) (e : Edit) : Option ℕ :=
  if autoskip && e.isDeletion then do
    let behind ← add? e.start 1
    if e.stop = behind then
      let old ← old
      let before ← old.valueBeforeLiterals? e.start
      return before.getD e.start
    else return e.start
  else some e.start

lemma Walk.widenedStart?_eq {l : Layout} {e : Edit} (room : e.start + 1 < 2 ^ 64) (autoskip : Bool) :
    widenedStart? (some l.indexed) autoskip e = some (e.widened autoskip l).start := by
  rw [widenedStart?, Edit.widened, Edit.isSingleDeletion, add?_eq room]
  cases autoskip with
  | false => rfl
  | true =>
      cases deletion : e.isDeletion with
      | false => rfl
      | true =>
          by_cases single : e.stop = e.start + 1
          · simp [single, valueBeforeLiterals?_indexed]
          · simp [single]

namespace Mask

/-- The slot from which the replacement is read, counted in reading direction. -/
def startSlot? (m : Mask) (old : Walk) (start stop : ℕ) : Option ℕ :=
  if m.rightToLeft then
    match old.cells[stop]? with
    | some c => sub? m.slots.length c.slot
    | none => some 0
  else old.slotAt? start

/-- **An edit of the text that is shown for a value.** -/
def edit? (m : Mask) (oldValue : List Char) (e : Edit) (o : EditOptions) :
    Option (Except RangeError Display) := do
  let old ← m.walk? o.oldTail oldValue
  if e.stop < e.start ∨ old.cells.length < e.stop then
    return .error ⟨e.start, e.stop, old.cells.length⟩
  else
    let start ← Walk.widenedStart? (some old) o.autoskip e
    let value ← old.value?
    let slot ← m.startSlot? old start e.stop
    let aligned ← m.align? slot e.replacement (absorbsLiterals e.replacement)
    -- Room is made for the new value before it is put together.
    let _ ← add? value.length aligned.kept.length
    let front ← slice? value 0 (old.valuesBefore start)
    let rest ← slice? value (old.valuesBefore e.stop) value.length
    let intent ← add? (old.valuesBefore start) aligned.kept.length
    let display ← m.display? (o.tailAfter e) (front ++ aligned.kept ++ rest) intent e.gravity
    return .ok display

/-- **A raw text pasted into an empty field.** -/
def format? (m : Mask) (raw : List Char) : Option Display := do
  let aligned ← m.align? 0 raw (absorbsLiterals raw)
  m.display? .afterValue aligned.kept aligned.kept.length .forward

variable {m : Mask}

lemma length_kept_le (m : Mask) (start : ℕ) (text : List Char) (absorb : Bool) :
    (Alignment.kept (m.align start text absorb)).length ≤ text.length :=
  ((m.kept_align_sublist start text absorb).trans List.filter_sublist).length_le

/-- **The ends of an edit as positions in the value**: they keep their order, and both lie within the
value. -/
lemma boundaries_le {e : Edit} (old : Layout) (autoskip : Bool) (ordered : e.start ≤ e.stop) :
    old.valuesBefore (e.widened autoskip old).start ≤ old.valuesBefore e.stop
      ∧ old.valuesBefore e.stop ≤ old.value.length :=
  ⟨old.valuesBefore_mono ((e.widened_start_le autoskip old).trans ordered),
    old.valuesBefore_le_length e.stop⟩

lemma startSlot?_eq (room : m.slots.length < 2 ^ 63) (tail : Tail) (input : List Char) (e : Edit) :
    m.startSlot? (m.layout tail input).indexed e.start e.stop
      = some (m.startSlot (m.layout tail input) e) := by
  have within := m.slot_lt_of_mem_layout tail input
  rw [startSlot?, startSlot]
  split_ifs
  · rw [Layout.indexed, Layout.cellSlot?]
    cases here : (m.layout tail input).cells[e.stop]? with
    | none => rfl
    | some c => exact sub?_eq (within c (List.mem_of_getElem? here)).le
  · exact Walk.slotAt?_indexed _ within room e.start

/-- **An edit meets no fault**, whatever its range. -/
theorem edit?_eq {oldValue : List Char} {e : Edit}
    (room : m.slots.length + oldValue.length + e.replacement.length < 2 ^ 63) (o : EditOptions) :
    m.edit? oldValue e o = some (m.edit oldValue e o) := by
  let old := m.layout o.oldTail oldValue
  have walk : m.walk? o.oldTail oldValue = some old.indexed := walk?_eq (by omega)
  have length : old.indexed.cells.length = old.cells.length := rfl
  have short : old.cells.length ≤ m.slots.length := m.length_layout_le o.oldTail oldValue
  rw [edit?, walk, edit_eq]
  simp only [Option.bind_eq_bind, Option.bind_some, length]
  by_cases within : e.Within old.cells.length
  · obtain ⟨ordered, inText⟩ := within
    have slot : m.startSlot? old.indexed (e.widened o.autoskip old).start e.stop
        = some (m.startSlot old (e.widened o.autoskip old)) := by
      rw [← e.widened_stop o.autoskip old]
      exact startSlot?_eq (by omega) o.oldTail oldValue _
    have aligned : m.slots.length + e.replacement.length < 2 ^ 63 := by omega
    have typed : old.value.length ≤ oldValue.length :=
      (m.value_layout_sublist o.oldTail oldValue).length_le
    have kept := m.length_kept_le (m.startSlot old (e.widened o.autoskip old)) e.replacement
      (absorbsLiterals e.replacement)
    obtain ⟨inOrder, inValue⟩ := boundaries_le old o.autoskip ordered
    rw [if_neg (by omega), if_pos ⟨ordered, inText⟩, Walk.widenedStart?_eq (by omega)]
    simp only [Option.bind_some, Walk.value?_indexed, slot, Walk.valuesBefore_indexed,
      align?_eq aligned]
    rw [add?_eq (by omega), slice?_front (inOrder.trans inValue), slice?_back inValue,
      add?_eq (by omega)]
    simp only [Option.bind_some]
    rw [display?_eq (by simp only [List.length_append, List.length_take, List.length_drop]; omega)]
    simp only [edited, editedIntent, editedInput, spliced, keptOf, Edit.widened_replacement,
      Edit.widened_stop]
    rfl
  · rw [if_pos (by rw [Edit.Within] at within; omega), if_neg within]
    rfl

/-- **A raw text is formatted without a fault.** -/
theorem format?_eq {raw : List Char} (room : m.slots.length + raw.length < 2 ^ 63) :
    m.format? raw = some (m.format raw) := by
  have le := m.length_kept_le 0 raw (absorbsLiterals raw)
  rw [format?, align?_eq room, Option.bind_eq_bind, Option.bind_some]
  exact display?_eq (Nat.lt_of_le_of_lt (Nat.add_le_add_left le _) room) ..

/-- **A mask meets no fault** on texts for which there is room beside it: what is in memory together
holds fewer than `2 ^ 63` slots and characters. -/
structure NoFault (m : Mask) : Prop where
  display : ∀ value : List Char, m.slots.length + value.length < 2 ^ 63 → ∀ intent gravity,
    m.display? .afterValue value intent gravity = some (m.display value intent gravity)
  format : ∀ raw : List Char, m.slots.length + raw.length < 2 ^ 63 →
    m.format? raw = some (m.format raw)
  edit : ∀ (oldValue : List Char) (e : Edit),
    m.slots.length + oldValue.length + e.replacement.length < 2 ^ 63 → ∀ o,
      m.edit? oldValue e o = some (m.edit oldValue e o)
  /-- The ends of an edit keep their order in the value and lie within it. -/
  boundaries : ∀ (oldValue : List Char) (e : Edit) (o : EditOptions),
    let old := m.layout o.oldTail oldValue
    e.Within old.cells.length →
      old.valuesBefore (e.widened o.autoskip old).start ≤ old.valuesBefore e.stop
        ∧ old.valuesBefore e.stop ≤ old.value.length
  /-- What is counted from the other end lies within the mask and the input. -/
  mirrored : ∀ (tail : Tail) (input : List Char),
    ∀ c ∈ (Layout.forward m.reversed.slots tail input).cells,
      c.slot < m.slots.length ∧ ∀ i, c.source = some i → i < input.length

theorem noFault (m : Mask) : m.NoFault where
  display value room := display?_eq room .afterValue
  format raw room := format?_eq room
  edit oldValue e room := edit?_eq room
  boundaries oldValue e o within := boundaries_le _ o.autoskip within.1
  mirrored tail input := by
    have turned : m.reversed.slots.length = m.slots.length := List.length_reverse
    rw [← turned]
    exact Layout.cell_within_forward m.reversed.slots tail input

end Mask

/-! ## The choice among several masks -/

/-- The score of a mask for a text. -/
def Mask.affinity? (m : Mask) (strategy : Strategy) (text : List Char) : Option ℤ :=
  match strategy with
  | .wholeString => do
    let read ← m.align? 0 text true
    return read.score
  | .commonStart => do
    let formatted ← m.format? text
    return commonLength formatted.text text

lemma Mask.affinity?_eq {m : Mask} {text : List Char} (room : m.slots.length + text.length < 2 ^ 63)
    (strategy : Strategy) : m.affinity? strategy text = some (m.affinity strategy text) := by
  cases strategy with
  | wholeString =>
      rw [affinity?, align?_eq room]
      rfl
  | commonStart =>
      rw [affinity?, format?_eq room]
      rfl

namespace Field

/-- The index of the mask that fits a text best. -/
def pick? (f : Field) (text : List Char) : Option ℕ := do
  let primary ← f.primary.affinity? f.strategy text
  let scores ← f.others.mapM (·.affinity? f.strategy text)
  -- The number of candidates is reported with the choice.
  let _ ← add? f.others.length 1
  return pickFrom 0 primary 1 scores

/-- **A mask is chosen without a fault.** -/
theorem pick?_eq {f : Field} {text : List Char}
    (room : ∀ m ∈ f.masks, m.slots.length + text.length < 2 ^ 63)
    (few : f.others.length < 2 ^ 63) : f.pick? text = some (f.pick text) := by
  obtain ⟨primary, others⟩ := List.forall_mem_cons.mp room
  have scores : ∀ m ∈ f.others, m.affinity? f.strategy text = some (m.affinity f.strategy text) :=
    fun m hm => Mask.affinity?_eq (others m hm) f.strategy
  rw [pick?, Mask.affinity?_eq primary, mapM_eq_some scores, add?_eq (by omega)]
  rfl

end Field

end MaskedInput
