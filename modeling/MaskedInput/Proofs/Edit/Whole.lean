import MaskedInput.Proofs.Edit
import MaskedInput.Proofs.Format
import MaskedInput.Proofs.Layout.Caret

/-!
# All of the text replaced

An edit of the whole text leaves nothing of the old value, so the replacement might as well have been
pasted into an empty field.  It is read from the slot of the first shown character, though, and not
from the first slot.  In between stand optional slots that the old value has passed by.

* `Mask.editedInput_all` — the new value is what is kept of the replacement.
* `Mask.formatFrom` — a raw text read from some slot on; `Mask.entry` — where an edit of the whole
  text starts to read.
* `Mask.EntersAlike` — no slot that was passed by takes the first character of the new text.
* `Mask.Regular.entersAlike` — over regular masks no slot is passed by.
* **`Mask.edit_all`** — what becomes of the text, and when the old value is forgotten.
-/

namespace MaskedInput

/-! ## Optional slots passed by -/

namespace Alignment

/-- Optional slots that refuse the first character of a text are passed by. -/
lemma alignFrom_append_of_refuses (anywhere : Char → Bool) {passed : List Slot} {text : List Char}
    (optional : ∀ s ∈ passed, ∃ kind, s = .value kind true)
    (refused : ∀ s ∈ passed, ∀ c ∈ text.head?, s.accepts c = false) (slots : List Slot) :
    alignFrom anywhere (passed ++ slots) text = alignFrom anywhere slots text := by
  cases text with
  | nil => rfl
  | cons c text =>
      induction passed with
      | nil => rfl
      | cons s passed ih =>
          obtain ⟨kind, rfl⟩ := optional s List.mem_cons_self
          have misfits : kind.accepts c = false := refused _ List.mem_cons_self c rfl
          rw [List.cons_append, alignFrom_optional_of_refuses _ _ _ misfits]
          exact ih (List.forall_mem_of_forall_mem_cons optional)
            (List.forall_mem_of_forall_mem_cons refused)

end Alignment

namespace Layout

/-- Cells that cover some slots leave out only optional ones in front of the first cell. -/
lemma Covers.optional_of_passed {slots : List Slot} {k : ℕ} {c : Cell} {cells : List Cell}
    (h : Covers slots k (c :: cells)) :
    ∀ s ∈ slots.take (c.slot - k), ∃ kind, s = .value kind true := by
  generalize whole : c :: cells = all at h
  induction h with
  | nothing => exact absurd whole (List.cons_ne_nil _ _)
  | literal l _ _ =>
      obtain ⟨rfl, -⟩ := List.cons.inj whole
      simp
  | filled optional i _ _ _ =>
      obtain ⟨rfl, -⟩ := List.cons.inj whole
      simp
  | @empty kind slots k all behind ih =>
      have := (behind.slot_within c (whole ▸ List.mem_cons_self)).1
      have shift : c.slot - k = c.slot - (k + 1) + 1 := by omega
      intro s hs
      rw [shift, List.take_succ_cons] at hs
      rcases List.mem_cons.mp hs with rfl | hs
      · exact ⟨kind, rfl⟩
      · exact ih whole s hs

end Layout

namespace Mask

/-! ## What is left -/

section Left

variable (m : Mask) (oldValue text : List Char) (o : EditOptions)

/-- **Nothing of the old value is left** when all of its text is replaced. -/
lemma editedInput_all :
    m.editedInput oldValue ⟨0, (m.layout o.oldTail oldValue).cells.length, text⟩ o
      = m.keptOf (m.layout o.oldTail oldValue)
          ⟨0, (m.layout o.oldTail oldValue).cells.length, text⟩ := by
  rw [editedInput, Edit.widened_of_start_eq_zero _ _ _ rfl, spliced, Layout.valuesBefore_length,
    Layout.length_valueCells, List.drop_length, List.append_nil]
  rfl

lemma editedIntent_all :
    m.editedIntent oldValue ⟨0, (m.layout o.oldTail oldValue).cells.length, text⟩ o
      = (m.keptOf (m.layout o.oldTail oldValue)
          ⟨0, (m.layout o.oldTail oldValue).cells.length, text⟩).length := by
  rw [editedIntent, Edit.widened_of_start_eq_zero _ _ _ rfl]
  exact Nat.zero_add _

end Left

variable {m : Mask} {v text : List Char}

/-! ## Where the new text is read -/

/-- A raw text, read from a slot on and laid out. -/
def formatFrom (m : Mask) (start : ℕ) (raw : List Char) : Display :=
  let kept := Alignment.kept (m.align start raw (absorbsLiterals raw))
  m.display kept kept.length

/-- The slot from which a replacement of the whole text is read: that of the first shown character,
if the mask is filled from the left. -/
def entry (m : Mask) (old : Layout) : ℕ :=
  if m.rightToLeft then 0 else (old.cells.head?.map (·.slot)).getD 0

lemma startSlot_all (m : Mask) (old : Layout) (text : List Char) :
    m.startSlot old ⟨0, old.cells.length, text⟩ = m.entry old := by
  rw [startSlot, entry]
  split_ifs
  · simp [Layout.cellSlot?]
  · cases cells : old.cells with
    | nil => simp [Layout.slotAt, Layout.cellSlot?, cells]
    | cons c rest => simp [Layout.slotAt, Layout.cellSlot?, cells]

/-- The slots that the old text has passed by refuse the first character of the new one. -/
def EntersAlike (m : Mask) (old : Layout) (text : List Char) : Prop :=
  ∀ s ∈ m.slots.take (m.entry old), ∀ c ∈ text.head?, s.accepts c = false

lemma optional_of_mem_passed (tail : Tail) (input : List Char) :
    ∀ s ∈ m.slots.take (m.entry (m.layout tail input)), ∃ kind, s = .value kind true := by
  rw [entry]
  split_ifs with right
  · simp
  · obtain ⟨e, -, covers⟩ := Layout.covers_forward m.slots (m.tailPolicy tail) input
    rw [← layout_eq_forward tail input (by simpa using right)] at covers
    intro s hs
    cases cells : (m.layout tail input).cells with
    | nil => simp [cells] at hs
    | cons c rest =>
        rw [cells] at covers hs
        have within := (covers.slot_within c List.mem_cons_self).2
        rw [List.length_take] at within
        refine covers.optional_of_passed s ?_
        rw [Nat.sub_zero, List.take_take, min_eq_left (by omega)]
        simpa using hs

/-- Where the first character is refused on the way, nothing is different for the text. -/
lemma EntersAlike.kept_align {tail : Tail} {input : List Char}
    (h : m.EntersAlike (m.layout tail input) text) (absorb : Bool) :
    Alignment.kept (m.align (m.entry (m.layout tail input)) text absorb)
      = Alignment.kept (m.align 0 text absorb) := by
  cases absorb with
  | false => rw [kept_align_typed, kept_align_typed]
  | true =>
      by_cases right : m.rightToLeft = true
      · rw [entry, if_pos right]
      · have reading {α : Type} (xs : List α) : m.inReading xs = xs := by simp [inReading, right]
        have passed := Alignment.alignFrom_append_of_refuses m.acceptsAnywhere
          (m.optional_of_mem_passed tail input) h (m.slots.drop (m.entry (m.layout tail input)))
        rw [List.take_append_drop] at passed
        rw [kept_align_absorbing, kept_align_absorbing, reading m.slots, reading text,
          List.drop_zero, passed]

/-! ## When no slot is passed by -/

lemma entry_le_slot (tail : Tail) (input : List Char) :
    ∀ c ∈ (m.layout tail input).cells, m.entry (m.layout tail input) ≤ c.slot := by
  intro c hc
  rw [entry]
  split_ifs with right
  · exact Nat.zero_le _
  · obtain ⟨e, -, covers⟩ := Layout.covers_forward m.slots (m.tailPolicy tail) input
    rw [← layout_eq_forward tail input (by simpa using right)] at covers
    have ascending := covers.ascending
    cases cells : (m.layout tail input).cells with
    | nil => simp [cells] at hc
    | cons d rest =>
        rw [cells] at hc ascending
        rcases List.mem_cons.mp hc with rfl | hc
        · exact le_refl _
        · exact ((List.pairwise_cons.mp ascending).1 c hc).le

/-- Where all value slots take the same characters, none in front of a typed character stays empty. -/
lemma Uniform.exists_cell_of_lt (h : m.Uniform) (left : m.rightToLeft = false) {tail : Tail}
    {input : List Char} (accepted : ∀ c ∈ input, m.acceptsAnywhere c = true) {i : ℕ} {s : Slot}
    (hs : m.slots[i]? = some s) (value : s.isLiteral = false) :
    ∀ c ∈ (m.layout tail input).valueCells, i < c.slot → ∃ d ∈ (m.layout tail input).cells, d.slot = i := by
  have walk := Layout.placement_place m.slots 0 input.zipIdx
  have takes : ∀ p ∈ input.zipIdx, s.accepts p.1 = true := by
    intro p hp
    have mem : p.1 ∈ input := by simpa using List.mem_map_of_mem (f := Prod.fst) hp
    exact h.accepts (accepted p.1 mem) (List.mem_of_getElem? hs) value
  have seats : Layout.seats (m.layout tail input).cells
      = Layout.seats (Layout.place m.slots 0 input.zipIdx) := by
    rw [layout_eq_forward tail input left, Layout.seats_forward]
  intro c hc hlt
  have seat : (c.char, c.slot) ∈ Layout.seats (m.layout tail input).cells :=
    List.mem_map_of_mem (f := fun c : Cell => (c.char, c.slot)) hc
  rw [seats] at seat
  obtain ⟨p, hp, hi⟩ := walk.fills hs (Or.inr ⟨value, takes⟩) _ seat (by simpa using hlt)
  rw [← seats] at hp
  obtain ⟨d, hd, rfl⟩ := List.mem_map.mp hp
  exact ⟨d, (List.mem_filter.mp hd).1, hi.trans (Nat.zero_add i)⟩

/-- Over a regular mask no slot is passed by: where all value slots take the same characters, the slot
would have taken the first character of the value. -/
lemma Regular.entersAlike (h : m.Regular) (placed : (m.layout .afterValue v).value = v)
    (text : List Char) : m.EntersAlike (m.layout .afterValue v) text := by
  intro s hs
  exfalso
  obtain ⟨kind, rfl⟩ := optional_of_mem_passed .afterValue v s hs
  have mem := List.mem_of_mem_take hs
  rcases h with noOptional | uniform
  · exact absurd (noOptional _ mem rfl) (by simp [Slot.isMandatory])
  · have accepted : ∀ c ∈ v, m.acceptsAnywhere c = true := by
      rw [← placed]
      exact fun c hc => acceptsAnywhere_of_mem_value .afterValue hc
    have left : m.rightToLeft = false := by
      by_contra right
      rw [entry, if_pos (by simpa using right)] at hs
      exact absurd hs (by simp)
    obtain ⟨i, hi⟩ := List.getElem?_of_mem hs
    rw [List.getElem?_take] at hi
    split_ifs at hi with passed
    have typed : (m.layout .afterValue v).valueCells ≠ [] := by
      intro untyped
      have values : m.hasValueSlots = true := List.any_eq_true.mpr ⟨_, mem, rfl⟩
      have nothing := m.cells_layout_eq_nil v values (by simp)
        (show (m.layout .afterValue v).value = [] by rw [Layout.value, untyped, List.map_nil])
      simp [entry, nothing] at passed
    obtain ⟨c, hc⟩ := List.exists_mem_of_ne_nil _ typed
    have front := entry_le_slot .afterValue v c (List.mem_filter.mp hc).1
    obtain ⟨d, hd, rfl⟩ := uniform.exists_cell_of_lt left accepted hi rfl c hc (by omega)
    have := entry_le_slot .afterValue v d hd
    omega

/-! ## The old value forgotten -/

lemma formatFrom_eq_format {start : ℕ}
    (h : Alignment.kept (m.align start text (absorbsLiterals text))
      = Alignment.kept (m.align 0 text (absorbsLiterals text))) :
    m.formatFrom start text = m.format text := by
  simp only [formatFrom, format, h]

/-- **All of the text replaced.**  The new text is read from the slot of the first character that was
shown, and nothing else of the old value matters.  The outcome is that of formatting the new text, so
that the old value is forgotten, if the mask is filled from the right, if a single character is put in,
if no slot takes a literal of the mask, if the mask is regular, and whenever the slots that the old
value has passed by refuse the first character of the new text. -/
theorem edit_all (placed : (m.display v v.length).value = v) (some : text ≠ []) :
    m.edit v ⟨0, (m.layout .afterValue v).cells.length, text⟩
        = .ok (m.formatFrom (m.entry (m.layout .afterValue v)) text)
      ∧ (m.rightToLeft = true ∨ text.length = 1 ∨ m.LiteralsApart ∨ m.Regular
          ∨ m.EntersAlike (m.layout .afterValue v) text →
        m.edit v ⟨0, (m.layout .afterValue v).cells.length, text⟩ = .ok (m.format text)) := by
  have read : m.edit v ⟨0, (m.layout .afterValue v).cells.length, text⟩
      = .ok (m.formatFrom (m.entry (m.layout .afterValue v)) text) := by
    have insertion : Edit.isDeletion ⟨0, (m.layout .afterValue v).cells.length, text⟩ = false := by
      simpa [Edit.isDeletion] using some
    have input := m.editedInput_all v text {}
    have intent := m.editedIntent_all v text {}
    rw [keptOf, startSlot_all] at input intent
    rw [edit_eq, if_pos ⟨Nat.zero_le _, le_refl _⟩, edited, input, intent, EditOptions.tailAfter,
      Edit.gravity, insertion]
    rfl
  refine ⟨read, fun alike => ?_⟩
  rw [read, formatFrom_eq_format]
  rcases alike with right | single | apart | regular | alike
  · rw [entry, if_pos right]
  · have typed : absorbsLiterals text = false := by simp [absorbsLiterals, single]
    rw [typed, kept_align_typed, kept_align_typed]
  · rw [apart.kept_align, apart.kept_align]
  · exact (regular.entersAlike placed text).kept_align _
  · exact alike.kept_align _

/-- The old value has passed by the optional letter, and the new text starts with a literal that the digit
slot takes as well. -/
theorem exists_edit_all : ∃ m : Mask, (m.display "5".toList 1).value = "5".toList
    ∧ (m.layout .afterValue "5".toList).text = "15".toList
    ∧ m.entry (m.layout .afterValue "5".toList) = 1
    ∧ m.EntersAlike (m.layout .afterValue "5".toList) "16".toList
    ∧ m.edit "5".toList ⟨0, 2, "16".toList⟩ = .ok (m.format "16".toList)
    ∧ (m.format "16".toList).value = "6".toList := by
  let m : Mask := ⟨[], [.value .letter true, .literal '1', .value .digit false], true, false⟩
  have placed : (m.display "5".toList 1).value = "5".toList := by decide
  have alike : m.EntersAlike (m.layout .afterValue "5".toList) "16".toList := by
    intro s hs c hc
    obtain rfl : s = .value .letter true := List.mem_singleton.mp hs
    obtain rfl : '1' = c := Option.mem_some.mp hc
    decide
  have replaced := edit_all placed (List.cons_ne_nil '1' ['6'])
  exact ⟨m, placed, by decide, by decide, alike,
    replaced.2 (Or.inr (Or.inr (Or.inr (Or.inr alike)))), by decide⟩

/-- The optional letter has been passed by, so the text is read from the literal on.  The letter is taken
for a spare one, and the literal digit behind it for a typed one. -/
theorem exists_edit_all_ne_format : ∃ m : Mask, compile [] "{A}1[0]".toList = .ok m
    ∧ (m.display "5".toList 1).value = "5".toList
    ∧ (m.layout .afterValue "5".toList).cells.length = 2
    ∧ m.edit "5".toList ⟨0, 2, "a15".toList⟩ = .ok ⟨"a11".toList, "a1".toList, 3, true⟩
    ∧ m.format "a15".toList = ⟨"a15".toList, "a5".toList, 3, true⟩ :=
  ⟨_, rfl, by decide +kernel, by decide +kernel, by decide +kernel, by decide +kernel⟩

end Mask

end MaskedInput
