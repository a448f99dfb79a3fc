import MaskedInput.Proofs.Layout.Completeness

/-!
# The tail of a layout

The tail policy is asked once, behind the last placed character, and all it decides is whether the
literals that follow are shown.  What was placed does not change, nor does what is complete, because no
mandatory slot is among these literals.  A field may therefore be shown under one policy and edited under
another.

* `Layout.forward_congr_tail` — layouts differ only where the policies say different things of the placed
  cells.
* `Layout.text_forward` — the text with its tail is the text without it, and then the tail.
* `Mask.reached`, `Mask.literalsBehind` — the slot behind the last typed character, and the literals from
  there to the next value slot.
* `Mask.text_hidden_affix` — without the tail, the text is the beginning of what it is with it, or its end
  if the mask is filled from the right.
* **`Mask.layout_differsInTail`** — the three policies differ in the tail and in nothing else.
-/

namespace MaskedInput

namespace Layout

variable (slots : List Slot) (tail tail' : Tail) (input : List Char)

/-! ## Layouts from the left -/

/-- The policy matters only by what it says of the placed cells. -/
lemma forward_congr_tail
    (same : tail.shownAfter (place slots 0 input.zipIdx) = tail'.shownAfter (place slots 0 input.zipIdx)) :
    forward slots tail input = forward slots tail' input := by
  simp only [forward, same]

/-- Without a value slot, the policy does not matter. -/
lemma forward_of_all_isLiteral (literals : slots.all Slot.isLiteral = true) :
    forward slots tail input = forward slots tail' input := by
  rw [forward, forward, if_pos literals, if_pos literals]

/-- Over some value slot, the cells are the placed ones and behind them the tail, if it is shown. -/
lemma cells_forward_of_value (values : slots.all Slot.isLiteral = false) :
    (forward slots tail input).cells = place slots 0 input.zipIdx
      ++ if tail.shownAfter (place slots 0 input.zipIdx)
        then literalRun (slots.drop (reach slots input)) (reach slots input) else [] := by
  rw [forward, if_neg (by simp [values])]
  rfl

lemma cells_forward_hidden (values : slots.all Slot.isLiteral = false) :
    (forward slots .hidden input).cells = place slots 0 input.zipIdx := by
  rw [cells_forward_of_value _ _ _ values, if_neg (by simp [Tail.shownAfter]), List.append_nil]

/-- **The tail stands behind everything else.** -/
lemma cells_hidden_prefix :
    (forward slots .hidden input).cells <+: (forward slots tail input).cells := by
  cases values : slots.all Slot.isLiteral with
  | true =>
      have same := forward_of_all_isLiteral slots .hidden tail input values
      exact ⟨[], by rw [List.append_nil, same]⟩
  | false =>
      rw [cells_forward_hidden _ _ values, cells_forward_of_value _ _ _ values]
      exact List.prefix_append ..

lemma map_char_literalRun (k : ℕ) :
    (literalRun slots k).map (·.char) = (slots.takeWhile Slot.isLiteral).map Slot.symbol := by
  fun_induction literalRun slots k with
  | case1 l slots k ih =>
      rw [List.map_cons, ih, List.takeWhile_cons_of_pos rfl, List.map_cons, Slot.symbol]
  | case2 slots k other =>
      cases slots with
      | nil => rfl
      | cons s slots =>
          cases s with
          | literal l => exact absurd rfl (other l slots)
          | value kind optional => rfl

/-- The text is that without the tail, and behind it the tail, if it is shown. -/
lemma text_forward (values : slots.all Slot.isLiteral = false) :
    (forward slots tail input).text = (forward slots .hidden input).text
      ++ if tail.shownAfter (place slots 0 input.zipIdx)
        then ((slots.drop (reach slots input)).takeWhile Slot.isLiteral).map Slot.symbol else [] := by
  rw [text, text, cells_forward_hidden _ _ values, cells_forward_of_value _ _ _ values,
    ← map_char_literalRun _ (reach slots input), List.map_append]
  split_ifs <;> rfl

lemma isValue_of_mem_literalRun (k : ℕ) : ∀ c ∈ literalRun slots k, c.isValue = false := by
  fun_induction literalRun slots k with
  | case1 l slots k ih => exact List.forall_mem_cons.mpr ⟨rfl, ih⟩
  | case2 => simp

/-- The typed characters are the placed ones, under every policy. -/
lemma valueCells_forward :
    (forward slots tail input).valueCells = (place slots 0 input.zipIdx).filter Cell.isValue := by
  have untyped (cells : List Cell) (literals : ∀ c ∈ cells, c.isValue = false) :
      cells.filter Cell.isValue = [] :=
    List.filter_eq_nil_iff.mpr fun c hc => by simp [literals c hc]
  rw [valueCells, forward]
  split_ifs with literals
  · rw [place_of_all_isLiteral slots 0 _ literals]
    exact untyped _ (isValue_of_mem_literalRun slots 0)
  · rw [List.filter_append]
    split_ifs
    · rw [untyped _ (isValue_of_mem_literalRun _ _), List.append_nil]
    · rw [List.filter_nil, List.append_nil]

lemma valueCells_reversed (l : Layout) (n k : ℕ) :
    (l.reversed n k).valueCells = l.valueCells.reverse.map fun c =>
      { c with slot := n - 1 - c.slot, source := c.source.map (k - 1 - ·) } := by
  simp only [valueCells, reversed, List.filter_map, List.filter_reverse]
  congr 2
  apply List.filter_congr
  simp [Cell.isValue]

/-- The placed cells end behind the slot of the last placed character. -/
lemma Placement.resume_eq_seats {slots : List Slot} {k : ℕ} {input : List (Char × ℕ)}
    {cells : List Cell} (h : Placement slots k input cells) :
    resume cells = ((seats cells).getLast?.map (·.2 + 1)).getD 0 := by
  have typed := h.isValue_of_getLast?
  rcases List.eq_nil_or_concat cells with rfl | ⟨front, c, rfl⟩
  · rfl
  · rw [List.concat_eq_append, List.getLast?_concat] at typed
    have last : seats [c] = [(c.char, c.slot)] := by simp [seats, typed c rfl]
    rw [List.concat_eq_append, seats_append, last, List.getLast?_concat, resume, List.getLast?_concat]
    rfl

end Layout

/-! ## Masks in either direction -/

namespace Mask

variable (m : Mask) (tail tail' : Tail) (input : List Char)

lemma tailPolicy_hidden : m.tailPolicy .hidden = .hidden := by
  rw [tailPolicy, ite_self]

lemma all_isLiteral_inReading : (m.inReading m.slots).all Slot.isLiteral = !m.hasValueSlots := by
  rw [hasValueSlots, List.not_any_eq_all_not, inReading]
  split_ifs <;> simp

/-- The cells that the walk places, in reading direction. -/
def placedCells : List Cell := Layout.place (m.inReading m.slots) 0 (m.inReading input).zipIdx

lemma placedCells_eq_nil_iff : m.placedCells input = [] ↔ (m.layout tail input).value = [] := by
  have walk := Layout.placement_place (m.inReading m.slots) 0 (m.inReading input).zipIdx
  have length := m.length_value_layout tail input
  rw [← Layout.length_taken, ← placedCells] at length
  rw [← List.length_eq_zero_iff (l := (m.layout tail input).value), length, List.length_eq_zero_iff]
  exact ⟨fun nothing => by rw [nothing, Layout.taken_nil], walk.eq_nil_of_taken⟩

/-- The layouts are the same where the policies say the same of the placed cells. -/
lemma layout_congr_tail (same : (m.tailPolicy tail).shownAfter (m.placedCells input)
      = (m.tailPolicy tail').shownAfter (m.placedCells input)) :
    m.layout tail input = m.layout tail' input := by
  rw [layout_eq_readLayout, layout_eq_readLayout, readLayout, readLayout,
    Layout.forward_congr_tail _ _ _ _ same]

lemma layout_of_not_hasValueSlots (literals : m.hasValueSlots = false) :
    m.layout tail input = m.layout tail' input := by
  have all : (m.inReading m.slots).all Slot.isLiteral = true := by
    rw [all_isLiteral_inReading, literals, Bool.not_false]
  rw [layout_eq_readLayout, layout_eq_readLayout, readLayout, readLayout,
    Layout.forward_of_all_isLiteral _ _ _ _ all]

lemma text_readLayout_hidden_prefix :
    (m.readLayout .hidden input).text <+: (m.readLayout tail input).text := by
  rw [readLayout, tailPolicy_hidden]
  exact (Layout.cells_hidden_prefix ..).map _

/-- Without the tail, the text is the beginning of what it is with it; filled from the right, its end. -/
lemma text_hidden_affix :
    if m.rightToLeft then (m.layout .hidden input).text <:+ (m.layout tail input).text
      else (m.layout .hidden input).text <+: (m.layout tail input).text := by
  have beginning := m.text_readLayout_hidden_prefix tail input
  rw [text_layout, text_layout, inReading, inReading]
  split_ifs
  · exact List.reverse_suffix.mpr beginning
  · exact beginning

lemma valueCells_layout_tail :
    (m.layout tail input).valueCells = (m.layout tail' input).valueCells := by
  have placed : (m.readLayout tail input).valueCells = (m.readLayout tail' input).valueCells := by
    rw [readLayout, readLayout, Layout.valueCells_forward, Layout.valueCells_forward]
  rw [layout_eq_readLayout, layout_eq_readLayout]
  split_ifs
  · rw [Layout.valueCells_reversed, Layout.valueCells_reversed, placed]
  · exact placed

/-! ## Where the tail stands -/

/-- The slot behind the last typed character, counted in reading direction; the first slot if nothing is
typed. -/
def reached (l : Layout) : ℕ := ((m.readSeats l).getLast?.map (·.2 + 1)).getD 0

/-- **The literals behind the last typed character**, in reading direction: up to the next value slot, or
to the end of the mask. -/
def literalsBehind (l : Layout) : List Char :=
  (((m.inReading m.slots).drop (m.reached l)).takeWhile Slot.isLiteral).map Slot.symbol

lemma reached_layout :
    m.reached (m.layout tail input) = Layout.reach (m.inReading m.slots) (m.inReading input) := by
  rw [reached, readSeats_layout, seats_readLayout, Layout.reach]
  exact (Layout.placement_place ..).resume_eq_seats.symm

lemma inReading_text_layout (values : m.hasValueSlots = true) :
    m.inReading (m.layout tail input).text = m.inReading (m.layout .hidden input).text
      ++ if (m.tailPolicy tail).shownAfter (m.placedCells input)
        then m.literalsBehind (m.layout .hidden input) else [] := by
  have typeable : (m.inReading m.slots).all Slot.isLiteral = false := by
    rw [all_isLiteral_inReading, values, Bool.not_true]
  rw [text_layout, text_layout, inReading_inReading, inReading_inReading, literalsBehind, reached_layout,
    readLayout, readLayout, tailPolicy_hidden]
  exact Layout.text_forward _ _ _ typeable

/-! ## The three policies -/

/-- **The tail policies differ in the tail** of the input's layouts and in nothing else. -/
structure DiffersInTail (m : Mask) (input : List Char) : Prop where
  /-- The same characters are placed, from the same positions of the input, in the same slots. -/
  placed : ∀ tail tail', (m.layout tail input).valueCells = (m.layout tail' input).valueCells
  value : ∀ tail tail', (m.layout tail input).value = (m.layout tail' input).value
  complete : ∀ tail tail', (m.layout tail input).complete = (m.layout tail' input).complete
  /-- A policy that shows more shows it behind all the rest. -/
  nested : if m.rightToLeft
    then (m.layout .hidden input).text <:+ (m.layout .afterValue input).text
      ∧ (m.layout .afterValue input).text <:+ (m.layout .eager input).text
    else (m.layout .hidden input).text <+: (m.layout .afterValue input).text
      ∧ (m.layout .afterValue input).text <+: (m.layout .eager input).text
  typed : (m.layout .hidden input).value ≠ [] → m.layout .afterValue input = m.layout .eager input
  untyped : (m.layout .hidden input).value = [] → m.layout .afterValue input = m.layout .hidden input
  /-- What is shown behind the text without a tail is all of the tail or nothing. -/
  behind : ∀ tail, ∃ run,
    m.inReading (m.layout tail input).text = m.inReading (m.layout .hidden input).text ++ run
      ∧ (run = [] ∨ run = m.literalsBehind (m.layout .hidden input))
  /-- If the mask can show a tail and is to do so always, it does. -/
  shown : m.autocomplete = true → m.hasValueSlots = true →
    m.inReading (m.layout .eager input).text
      = m.inReading (m.layout .hidden input).text ++ m.literalsBehind (m.layout .hidden input)
  /-- If it cannot, the policy does not matter. -/
  alike : m.autocomplete = false ∨ m.hasValueSlots = false →
    ∀ tail tail', m.layout tail input = m.layout tail' input

variable {m input} in
lemma layout_afterValue_of_typed (typed : (m.layout .hidden input).value ≠ []) :
    m.layout .afterValue input = m.layout .eager input := by
  apply layout_congr_tail
  have some := mt (m.placedCells_eq_nil_iff .hidden input).mp typed
  rw [tailPolicy, tailPolicy]
  split_ifs
  · simp [Tail.shownAfter, some]
  · rfl

variable {m input} in
lemma layout_afterValue_of_untyped (untyped : (m.layout .hidden input).value = []) :
    m.layout .afterValue input = m.layout .hidden input := by
  apply layout_congr_tail
  rw [(m.placedCells_eq_nil_iff .hidden input).mpr untyped, tailPolicy_hidden, tailPolicy]
  split_ifs <;> rfl

/-- The text of a policy that shows more begins with that of one that shows less, or ends with it. -/
lemma text_nested :
    if m.rightToLeft
    then (m.layout .hidden input).text <:+ (m.layout .afterValue input).text
      ∧ (m.layout .afterValue input).text <:+ (m.layout .eager input).text
    else (m.layout .hidden input).text <+: (m.layout .afterValue input).text
      ∧ (m.layout .afterValue input).text <+: (m.layout .eager input).text := by
  have affix := m.text_hidden_affix .eager input
  by_cases typed : (m.layout .hidden input).value = []
  · rw [layout_afterValue_of_untyped typed]
    split_ifs at affix ⊢
    · exact ⟨List.suffix_rfl, affix⟩
    · exact ⟨List.prefix_rfl, affix⟩
  · rw [layout_afterValue_of_typed typed]
    split_ifs at affix ⊢
    · exact ⟨affix, List.suffix_rfl⟩
    · exact ⟨affix, List.prefix_rfl⟩

/-- A policy adds the whole run of literals behind the last typed character, or nothing. -/
lemma exists_run_behind :
    ∃ run, m.inReading (m.layout tail input).text = m.inReading (m.layout .hidden input).text ++ run
      ∧ (run = [] ∨ run = m.literalsBehind (m.layout .hidden input)) := by
  cases values : m.hasValueSlots with
  | false =>
      rw [m.layout_of_not_hasValueSlots tail .hidden input values]
      exact ⟨[], (List.append_nil _).symm, Or.inl rfl⟩
  | true =>
      refine ⟨_, m.inReading_text_layout tail input values, ?_⟩
      split_ifs
      · exact Or.inr rfl
      · exact Or.inl rfl

/-- **The policies differ in the tail alone.**  Under each of them the same characters are placed in the
same slots, and the layout is as complete.  The text without a tail is the beginning of the one whose tail
is shown behind a typed character, and this one of the text whose tail is always shown; it is their end if
the mask is filled from the right.  What is added is the run of literals behind the last typed character,
in whole. -/
theorem layout_differsInTail : m.DiffersInTail input := by
  constructor
  case placed => exact fun tail tail' => m.valueCells_layout_tail tail tail' input
  case value => exact fun tail tail' => m.value_layout_tail tail input tail'
  case complete => exact fun tail tail' => m.complete_layout_tail tail input tail'
  case nested => exact m.text_nested input
  case typed => exact layout_afterValue_of_typed
  case untyped => exact layout_afterValue_of_untyped
  case behind => exact fun tail => m.exists_run_behind tail input
  case shown =>
    intro shows values
    rw [inReading_text_layout _ _ _ values, tailPolicy, if_pos shows]
    rfl
  case alike =>
    rintro (never | literals) tail tail'
    · apply layout_congr_tail
      simp [tailPolicy, never]
    · exact m.layout_of_not_hasValueSlots tail tail' input literals

/-- Filled from the right, with literals at both ends of the only character. -/
example : let m : Mask := ⟨[], [.literal '(', .value .digit false, .literal ')'], true, true⟩
    (m.layout .hidden "7".toList).text = "7)".toList ∧ (m.layout .eager "7".toList).text = "(7)".toList
      ∧ (m.layout .afterValue []).text = [] ∧ (m.layout .eager []).text = ")".toList := by
  decide +kernel

end Mask

end MaskedInput
