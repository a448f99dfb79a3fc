import MaskedInput.Proofs.Layout.Continuation
import MaskedInput.Proofs.Layout.Filling
import MaskedInput.Proofs.Layout.Tail

/-!
# A value that fills every slot

From the left, the literals in front of a character are shown with it and those behind the last one as the
tail; from the right, it is the other way round, over reversed slots and a reversed value.  If a value fills
every slot, nothing of this can be seen.  Its cells cover all slots and leave none out, and there is only
one way to do that.

* `Slot.fillIn`, `Mask.filledIn` — the placeholder with characters in the places of its symbols.
* `Layout.Covers.unique`, `Layout.Covers.text_eq` — cells that fill every slot are determined by their
  typed characters, and so is their text.
* `Layout.Covers.reverse` — cells that cover some slots do so from the other end as well.
* `Layout.FillsAll` — the layout fills every slot; `Layout.FillsAll.eq`, `Layout.FillsAll.reversed` —
  there is one such layout of an input, and turned round it is one of the input read backwards.
* **`Mask.display_of_filledBy`** — a value that fills every slot reads the same in both directions.
-/

namespace MaskedInput

/-! ## The placeholder filled in -/

/-- What the slots show when the symbols of the value slots are replaced by characters, one after another.
A slot for which there is no character keeps its symbol. -/
def Slot.fillIn : List Slot → List Char → List Char
  | [], _ => []
  | .literal l :: slots, chars => l :: fillIn slots chars
  | .value kind _ :: slots, chars => chars.headD kind.symbol :: fillIn slots chars.tail

/-- **The placeholder filled in**: the symbol of the first value slot is replaced by the first character,
and so on. -/
def Mask.filledIn (m : Mask) (chars : List Char) : List Char := Slot.fillIn m.slots chars

/-- With no character to put in, it stays as it is. -/
lemma Mask.filledIn_nil (m : Mask) : m.filledIn [] = m.placeholder := by
  rw [filledIn, placeholder]
  induction m.slots with
  | nil => rfl
  | cons s slots ih =>
      cases s with
      | literal l => rw [Slot.fillIn, ih, List.map_cons, Slot.symbol]
      | value kind optional => rw [Slot.fillIn, List.headD_nil, List.tail_nil, ih, List.map_cons, Slot.symbol]

namespace Layout

variable {slots : List Slot} {k : ℕ} {cells : List Cell}

/-! ## The other end -/

lemma cells_reversed_cons (c : Cell) (cells : List Cell) (complete : Bool) (n count : ℕ) :
    ((⟨c :: cells, complete⟩ : Layout).reversed n count).cells
      = ((⟨cells, complete⟩ : Layout).reversed n count).cells
        ++ [⟨c.char, n - 1 - c.slot, c.source.map (count - 1 - ·)⟩] := by
  simp [reversed]

lemma taken_reversed (l : Layout) (n count : ℕ) :
    taken (l.reversed n count).cells = (taken l.cells).reverse.map fun p => (p.1, count - 1 - p.2) := by
  simp only [taken, reversed, List.filterMap_map, List.filterMap_reverse, List.map_reverse,
    List.map_filterMap, Function.comp_def, Option.map_map]

/-- Positions counted from the other end. -/
lemma map_reverse_zipIdx {α : Type} (xs : List α) :
    xs.zipIdx.reverse.map (fun p => (p.1, xs.length - 1 - p.2)) = xs.reverse.zipIdx := by
  apply List.ext_getElem
  · simp
  · intro i hi _
    simp only [List.length_map, List.length_reverse, List.length_zipIdx] at hi
    simp
    omega

/-! ## Cells that fill every slot -/

namespace Covers

/-- **There is one way to fill every slot** with the same characters. -/
lemma unique (h : Covers slots k cells) {others : List Cell} (h' : Covers slots k others)
    (same : taken cells = taken others) (full : (taken cells).length = slots.countP (!·.isLiteral)) :
    cells = others := by
  induction h generalizing others with
  | nothing => cases h' with | nothing => rfl
  | literal l _ ih =>
      rw [List.countP_cons_of_neg (by simp [Slot.isLiteral])] at full
      cases h' with
      | literal _ h' => rw [ih h' same full]
  | filled optional i _ covers ih =>
      rw [List.countP_cons_of_pos (by simp [Slot.isLiteral])] at full
      cases h' with
      | filled _ j _ h' =>
          obtain ⟨first, behind⟩ := List.cons.inj same
          obtain ⟨rfl, rfl⟩ := Prod.mk.inj first
          rw [ih h' behind (Nat.succ.inj full)]
      | empty _ h' =>
          have fewer := h'.length_seats_le
          rw [← length_taken, ← same] at fewer
          omega
  | empty kind covers _ =>
      rw [List.countP_cons_of_pos (by simp [Slot.isLiteral])] at full
      have fewer := covers.length_seats_le
      rw [← length_taken] at fewer
      omega

lemma text_eq (h : Covers slots k cells) (full : (taken cells).length = slots.countP (!·.isLiteral)) :
    cells.map (·.char) = Slot.fillIn slots ((taken cells).map Prod.fst) := by
  induction h with
  | nothing => rfl
  | literal l _ ih =>
      rw [List.countP_cons_of_neg (by simp [Slot.isLiteral])] at full
      rw [List.map_cons, ih full, taken_literal, Slot.fillIn]
  | filled optional i _ _ ih =>
      rw [List.countP_cons_of_pos (by simp [Slot.isLiteral])] at full
      rw [List.map_cons, ih (Nat.succ.inj full), taken_value, List.map_cons, Slot.fillIn, List.headD_cons,
        List.tail_cons]
  | empty kind covers _ =>
      rw [List.countP_cons_of_pos (by simp [Slot.isLiteral])] at full
      have fewer := covers.length_seats_le
      rw [← length_taken] at fewer
      omega

/-- **Seen from the other end**, cells cover the slots in reverse order. -/
lemma reverse {j n : ℕ} (h : Covers slots k cells) (count : ℕ) (complete : Bool)
    (ends : j + slots.length + k = n) :
    Covers slots.reverse j ((⟨cells, complete⟩ : Layout).reversed n count).cells := by
  induction h with
  | nothing => exact Covers.nothing _
  | @literal l slots k cells _ ih =>
      rw [List.length_cons] at ends
      have behind : n - 1 - k = j + slots.reverse.length := by
        rw [List.length_reverse]
        omega
      rw [List.reverse_cons, cells_reversed_cons, behind]
      exact (ih (by omega)).append (.literal l (.nothing _))
  | @filled kind optional slots k c i cells fits _ ih =>
      rw [List.length_cons] at ends
      have behind : n - 1 - k = j + slots.reverse.length := by
        rw [List.length_reverse]
        omega
      rw [List.reverse_cons, cells_reversed_cons, behind]
      exact (ih (by omega)).append (.filled optional _ fits (.nothing _))
  | @empty kind slots k cells _ ih =>
      rw [List.length_cons] at ends
      rw [List.reverse_cons, ← List.append_nil (reversed _ n count).cells]
      exact (ih (by omega)).append (.empty kind (.nothing _))

end Covers

/-! ## The layout from the left -/

/-- Characters that fill the value slots are all placed. -/
lemma taken_place_of_filledBy (k : ℕ) {input : List (Char × ℕ)}
    (filled : Slot.FilledBy (Slot.valueSlots slots) (input.map Prod.fst)) :
    taken (place slots k input) = input := by
  induction slots generalizing k input with
  | nil => exact (List.map_eq_nil_iff.mp (List.forall₂_nil_left_iff.mp filled)).symm
  | cons s slots ih =>
      cases s with
      | literal l =>
          rw [taken_place_literal]
          exact ih (k + 1) filled
      | value kind optional =>
          cases input with
          | nil => cases filled
          | cons p rest =>
              obtain ⟨c, i⟩ := p
              cases filled with
              | cons fits others =>
                  rw [place_value_of_accepts _ optional _ _ _ i fits, taken_value, ih (k + 1) others]

lemma covers_literalRun_of_all (literals : slots.all Slot.isLiteral = true) (k : ℕ) :
    Covers slots k (literalRun slots k) := by
  induction slots generalizing k with
  | nil => exact Covers.nothing k
  | cons s slots ih =>
      rw [List.all_cons, Bool.and_eq_true] at literals
      cases s with
      | literal l => exact Covers.literal l (ih literals.2 (k + 1))
      | value kind optional => exact absurd literals.1 (by simp [Slot.isLiteral])

/-- If all value slots are used up, only literals are behind the placed cells. -/
lemma all_isLiteral_drop_reach {input : List Char}
    (full : (taken (place slots 0 input.zipIdx)).length = slots.countP (!·.isLiteral)) :
    (slots.drop (reach slots input)).all Slot.isLiteral = true := by
  have front := (covers_place slots input).length_seats_le
  have split := congrArg (List.countP (!·.isLiteral)) (List.take_append_drop (reach slots input) slots)
  rw [← length_taken, full] at front
  rw [List.countP_append] at split
  have none : (slots.drop (reach slots input)).countP (!·.isLiteral) = 0 := by omega
  simpa [List.countP_eq_zero] using none

/-- **The layout fills every slot** with the characters of the input, one after another. -/
structure FillsAll (l : Layout) (slots : List Slot) (input : List Char) : Prop where
  covers : Covers slots 0 l.cells
  typed : taken l.cells = input.zipIdx
  length : input.length = slots.countP (!·.isLiteral)
  complete : l.complete = true

namespace FillsAll

variable {l l' : Layout} {input : List Char}

lemma full (h : l.FillsAll slots input) : (taken l.cells).length = slots.countP (!·.isLiteral) := by
  rw [h.typed, List.length_zipIdx, h.length]

lemma eq (h : l.FillsAll slots input) (h' : l'.FillsAll slots input) : l = l' := by
  obtain ⟨cells, complete⟩ := l
  obtain ⟨cells', complete'⟩ := l'
  rw [show complete = complete' from h.complete.trans h'.complete.symm,
    show cells = cells' from h.covers.unique h'.covers (h.typed.trans h'.typed.symm) h.full]

lemma map_typed (h : l.FillsAll slots input) : (taken l.cells).map Prod.fst = input := by
  rw [h.typed, List.zipIdx_map_fst]

lemma text (h : l.FillsAll slots input) : l.text = Slot.fillIn slots input := by
  rw [Layout.text, h.covers.text_eq h.full, h.map_typed]

lemma value (h : l.FillsAll slots input) : l.value = input := by
  rw [value_eq_seats, ← map_fst_taken, h.map_typed]

/-- So does the layout that is turned round, from the other end. -/
lemma reversed (h : l.FillsAll slots input) :
    (l.reversed slots.length input.length).FillsAll slots.reverse input.reverse where
  covers := h.covers.reverse _ _ (by omega)
  typed := by rw [taken_reversed, h.typed, map_reverse_zipIdx]
  length := by rw [List.length_reverse, h.length, List.countP_reverse]
  complete := h.complete

end FillsAll

/-- **Characters that fill the value slots fill every slot** of the layout that shows its tail. -/
lemma fillsAll_forward {input : List Char} (values : slots.all Slot.isLiteral = false)
    (filled : Slot.FilledBy (Slot.valueSlots slots) input) :
    (forward slots .afterValue input).FillsAll slots input := by
  have length : input.length = slots.countP (!·.isLiteral) := by
    rw [← Slot.length_valueSlots, filled.length_eq]
  have all : taken (place slots 0 input.zipIdx) = input.zipIdx :=
    taken_place_of_filledBy 0 (by rwa [List.zipIdx_map_fst])
  have literals : (slots.drop (reach slots input)).all Slot.isLiteral = true :=
    all_isLiteral_drop_reach (by rw [all, List.length_zipIdx, length])
  have shown : Tail.afterValue.shownAfter (place slots 0 input.zipIdx) = true := by
    rw [Tail.shownAfter, Bool.not_eq_true', List.isEmpty_eq_false_iff]
    intro nothing
    rw [nothing, taken_nil] at all
    have none : input.length = 0 := by simpa using (congrArg List.length all).symm
    rw [length, List.countP_eq_zero] at none
    have typeless : slots.all Slot.isLiteral = true := by simpa using none
    exact absurd values (by simp [typeless])
  constructor
  case covers =>
    have whole := (covers_place slots input).append (covers_literalRun_of_all literals _)
    rw [List.take_append_drop, List.length_take_of_le (reach_le slots input), Nat.zero_add] at whole
    rwa [cells_forward_of_value _ _ _ values, if_pos shown]
  case typed =>
    apply (taken_forward_sublist slots .afterValue input).eq_of_length
    rw [length_taken, seats_forward, ← length_taken, all]
  case length => exact length
  case complete =>
    rw [complete_forward, List.all_eq_true]
    intro s hs
    have literal := List.all_eq_true.mp literals s hs
    cases s with
    | literal l => rfl
    | value kind optional => exact absurd literal (by simp [Slot.isLiteral])

end Layout

namespace Mask

variable {v : List Char}

/-! ## Masks in either direction -/

lemma fillsAll_layout (m : Mask) (values : m.hasValueSlots = true) (shows : m.autocomplete = true)
    (filled : Slot.FilledBy (Slot.valueSlots m.slots) v) :
    (m.layout .afterValue v).FillsAll m.slots v := by
  have typeable : (m.inReading m.slots).all Slot.isLiteral = false := by
    rw [all_isLiteral_inReading, values, Bool.not_true]
  have filled := m.filledBy_inReading filled
  rw [← valueSlots_inReading] at filled
  have read := Layout.fillsAll_forward typeable filled
  rw [layout_eq_readLayout, readLayout, tailPolicy, if_pos shows]
  split_ifs with reading
  · have turned := read.reversed
    rw [length_inReading, length_inReading] at turned
    simp only [inReading, reading, if_true, List.reverse_reverse] at turned ⊢
    exact turned
  · simp only [inReading, reading] at read ⊢
    exact read

/-- **A value that fills every slot reads the same in both directions.**  Let the mask have a value slot,
optional or not, and show its trailing literals, and let the characters of a value fill its value slots.
Then the mask shows the same for it, whether it is filled from the left or from the right, wherever the
caret is meant to be: the text is the placeholder with the characters in the places of the symbols, no
character is lost, and the value is complete. -/
theorem display_of_filledBy (m : Mask) (values : m.hasValueSlots = true) (shows : m.autocomplete = true)
    (filled : Slot.FilledBy (Slot.valueSlots m.slots) v) (intent : ℕ) (gravity : Gravity) :
    ({ m with rightToLeft := true } : Mask).display v intent gravity
        = ({ m with rightToLeft := false } : Mask).display v intent gravity
      ∧ (m.display v intent gravity).text = m.filledIn v
      ∧ (m.display v intent gravity).value = v
      ∧ (m.display v intent gravity).complete = true := by
  have left := fillsAll_layout { m with rightToLeft := false } values shows filled
  have right := fillsAll_layout { m with rightToLeft := true } values shows filled
  have either := m.fillsAll_layout values shows filled
  refine ⟨?_, either.text, either.value, either.complete⟩
  rw [display, display, right.eq left]

/-- Literals at both ends and between the slots, and an optional slot that would also take the character
behind its own.  The caret is in front of the literal between the characters or behind it. -/
theorem exists_display_of_filledBy : ∃ m : Mask, m.hasValueSlots = true ∧ m.autocomplete = true
    ∧ ¬ m.NoOptional ∧ Slot.FilledBy (Slot.valueSlots m.slots) "a7".toList
    ∧ (∀ intent gravity, ({ m with rightToLeft := true } : Mask).display "a7".toList intent gravity
        = ({ m with rightToLeft := false } : Mask).display "a7".toList intent gravity)
    ∧ m.placeholder = "(_)0!".toList
    ∧ m.display "a7".toList 1 .backward = ⟨"(a)7!".toList, "a7".toList, 2, true⟩
    ∧ m.display "a7".toList 1 .forward = ⟨"(a)7!".toList, "a7".toList, 3, true⟩ := by
  let m : Mask := ⟨[], [.literal '(', .value .alphanumeric true, .literal ')', .value .digit false,
    .literal '!'], true, false⟩
  have optional : ¬ m.NoOptional := by simp [NoOptional, m, Slot.isMandatory, Slot.isLiteral]
  have filled : Slot.FilledBy (Slot.valueSlots m.slots) "a7".toList :=
    .cons (by decide) (.cons (by decide) .nil)
  have shown := m.display_of_filledBy (by decide) rfl filled
  exact ⟨m, by decide, rfl, optional, filled, fun intent gravity => (shown intent gravity).1,
    by decide, by decide +kernel, by decide +kernel⟩

end Mask

end MaskedInput
