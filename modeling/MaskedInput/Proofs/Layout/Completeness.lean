import MaskedInput.Proofs.Layout.Follows

/-!
# When a layout is complete

The walk never counts the slots it has filled.  It calls the layout complete if no mandatory slot is
left behind the last placed character, and this is enough because none is left in front of it.

* `Layout.Fills` — a slot has received a character.
* `Covers.fills_mandatory`, `Covers.countP_mandatory_le`, `Covers.length_seats_le` — cells that
  cover some slots fill the mandatory ones, and no slot twice.
* **`Mask.layout_complete_iff`** — a layout is complete exactly when every mandatory slot is filled,
  with what this says about the length of the value.
-/

namespace MaskedInput

namespace Layout

/-- The slot has received a character. -/
def Fills (l : Layout) (slot : ℕ) : Prop := ∃ c ∈ l.cells, c.isValue = true ∧ c.slot = slot

lemma fills_iff_seats {l : Layout} {slot : ℕ} :
    l.Fills slot ↔ ∃ p ∈ seats l.cells, p.2 = slot := by
  simp [Fills, seats, and_assoc]

/-! ## Slots that are covered -/

namespace Covers

variable {slots : List Slot} {k : ℕ} {cells : List Cell}

lemma fills_mandatory (h : Covers slots k cells) {i : ℕ} {s : Slot} (hs : slots[i]? = some s)
    (mandatory : s.isMandatory = true) : ∃ p ∈ seats cells, p.2 = k + i := by
  induction h generalizing i with
  | nothing => simp at hs
  | literal l _ ih =>
      cases i with
      | zero =>
          obtain rfl : .literal l = s := by simpa using hs
          exact absurd mandatory (by simp [Slot.isMandatory])
      | succ i =>
          obtain ⟨p, hp, hi⟩ := ih hs
          exact ⟨p, hp, by omega⟩
  | @filled kind optional slots k c j cells _ _ ih =>
      cases i with
      | zero => exact ⟨(c, k), List.mem_cons_self, rfl⟩
      | succ i =>
          obtain ⟨p, hp, hi⟩ := ih hs
          exact ⟨p, List.mem_cons_of_mem _ hp, by omega⟩
  | empty kind _ ih =>
      cases i with
      | zero =>
          obtain rfl : .value kind true = s := by simpa using hs
          exact absurd mandatory (by simp [Slot.isMandatory])
      | succ i =>
          obtain ⟨p, hp, hi⟩ := ih hs
          exact ⟨p, hp, by omega⟩

/-- Every mandatory slot counts for a character of its own. -/
lemma countP_mandatory_le (h : Covers slots k cells) :
    slots.countP Slot.isMandatory ≤ (seats cells).length := by
  induction h with
  | nothing => simp
  | literal l _ ih =>
      rw [List.countP_cons_of_neg (by simp [Slot.isMandatory])]
      exact ih
  | filled optional i _ _ ih =>
      rw [List.countP_cons, seats_value, List.length_cons]
      split_ifs <;> omega
  | empty kind _ ih =>
      rw [List.countP_cons_of_neg (by simp [Slot.isMandatory])]
      exact ih

/-- Every character counts for a value slot of its own. -/
lemma length_seats_le (h : Covers slots k cells) :
    (seats cells).length ≤ slots.countP (!·.isLiteral) := by
  induction h with
  | nothing => simp
  | literal l _ ih =>
      rw [List.countP_cons_of_neg (by simp [Slot.isLiteral])]
      exact ih
  | filled optional i _ _ ih =>
      rw [List.countP_cons_of_pos (by simp [Slot.isLiteral]), seats_value, List.length_cons]
      omega
  | empty kind _ ih =>
      rw [List.countP_cons_of_pos (by simp [Slot.isLiteral])]
      omega

end Covers

/-! ## Layouts from the left -/

section Forward

variable (slots : List Slot) (tail : Tail) (input : List Char)

/-- A layout is complete if no mandatory slot is left behind the last placed character. -/
lemma complete_forward :
    (forward slots tail input).complete
      = (slots.drop (reach slots input)).all (!·.isMandatory) := by
  by_cases literals : slots.all Slot.isLiteral = true
  · rw [forward, if_pos literals, eq_comm, List.all_eq_true]
    intro s hs
    have literal := List.all_eq_true.mp literals s (List.mem_of_mem_drop hs)
    by_contra mandatory
    rw [Slot.not_isLiteral_of_isMandatory (by simpa using mandatory)] at literal
    exact absurd literal (by simp)
  · rw [forward, if_neg literals]
    rfl

lemma complete_forward_iff_countP :
    (forward slots tail input).complete = true
      ↔ (slots.drop (reach slots input)).countP Slot.isMandatory = 0 := by
  rw [complete_forward, List.countP_eq_zero]
  simp

/-- The mandatory slots stand in front of the tail or behind it. -/
lemma countP_mandatory_eq :
    slots.countP Slot.isMandatory
      = (slots.take (reach slots input)).countP Slot.isMandatory
        + (slots.drop (reach slots input)).countP Slot.isMandatory := by
  rw [← List.countP_append, List.take_append_drop]

/-- **Complete layouts from the left.** -/
theorem complete_forward_iff :
    (forward slots tail input).complete = true
      ↔ ∀ i s, slots[i]? = some s → s.isMandatory = true → (forward slots tail input).Fills i := by
  have placed := covers_place slots input
  simp only [fills_iff_seats, seats_forward]
  constructor
  · intro complete i s hs mandatory
    have front : i < reach slots input := by
      by_contra behind
      have mem : s ∈ slots.drop (reach slots input) := by
        apply List.mem_of_getElem? (i := i - reach slots input)
        rw [List.getElem?_drop, Nat.add_sub_cancel' (by omega), hs]
      rw [complete_forward, List.all_eq_true] at complete
      exact absurd (complete s mem) (by simp [mandatory])
    rw [← List.getElem?_take_of_lt front] at hs
    obtain ⟨p, hp, hi⟩ := placed.fills_mandatory hs mandatory
    exact ⟨p, hp, by omega⟩
  · intro filled
    rw [complete_forward, List.all_eq_true]
    intro s hs
    by_contra mandatory
    obtain ⟨i, hi⟩ := List.getElem?_of_mem hs
    rw [List.getElem?_drop] at hi
    obtain ⟨p, hp, eq⟩ := filled _ s hi (by simpa using mandatory)
    obtain ⟨c, hc, rfl⟩ := List.mem_map.mp hp
    have below := (placed.slot_within c (List.mem_filter.mp hc).1).2
    rw [List.length_take] at below
    omega

end Forward

end Layout

namespace Mask

variable (m : Mask) (tail : Tail) (input : List Char)

lemma getElem?_inReading_rank {i : ℕ} (h : i < m.slots.length) :
    (m.inReading m.slots)[m.rank i]? = m.slots[i]? := by
  simp only [inReading, rank]
  split_ifs
  · rw [List.getElem?_reverse (by omega)]
    congr 1
    omega
  · rfl

lemma complete_layout : (m.layout tail input).complete = (m.readLayout tail input).complete := by
  rw [layout_eq_readLayout]
  split_ifs <;> rfl

/-- The tail shows literals only, so it does not matter to completeness. -/
lemma complete_layout_tail (tail' : Tail) :
    (m.layout tail input).complete = (m.layout tail' input).complete := by
  rw [complete_layout, complete_layout, readLayout, readLayout, Layout.complete_forward,
    Layout.complete_forward]

lemma fills_layout_iff {i : ℕ} (h : i < m.slots.length) :
    (m.layout tail input).Fills i ↔ (m.readLayout tail input).Fills (m.rank i) := by
  rw [Layout.fills_iff_seats, Layout.fills_iff_seats, seats_layout]
  constructor
  · rintro ⟨p, hp, rfl⟩
    obtain ⟨q, hq, rfl⟩ := List.mem_map.mp hp
    rw [mem_inReading] at hq
    exact ⟨q, hq, (m.rank_rank (m.lt_of_mem_seats_readLayout tail input hq)).symm⟩
  · rintro ⟨q, hq, eq⟩
    refine ⟨(q.1, m.rank q.2), List.mem_map.mpr ⟨q, (m.mem_inReading).mpr hq, rfl⟩, ?_⟩
    rw [eq]
    exact m.rank_rank h

lemma rank_lt {i : ℕ} (h : i < m.slots.length) : m.rank i < m.slots.length := by
  rw [rank]
  split_ifs
  · omega
  · exact h

lemma complete_iff_fills :
    (m.layout tail input).complete = true
      ↔ ∀ i s, m.slots[i]? = some s → s.isMandatory = true → (m.layout tail input).Fills i := by
  rw [complete_layout, readLayout, Layout.complete_forward_iff, ← readLayout]
  constructor
  · intro filled i s hs mandatory
    obtain ⟨hi, -⟩ := List.getElem?_eq_some_iff.mp hs
    rw [fills_layout_iff _ _ _ hi]
    exact filled _ s (by rw [getElem?_inReading_rank _ hi, hs]) mandatory
  · intro filled i s hs mandatory
    obtain ⟨hi, -⟩ := List.getElem?_eq_some_iff.mp hs
    rw [length_inReading] at hi
    have filled_rank := filled (m.rank i) s
    rw [fills_layout_iff _ _ _ (m.rank_lt hi), ← m.getElem?_inReading_rank (m.rank_lt hi),
      m.rank_rank hi] at filled_rank
    exact filled_rank hs mandatory

/-! ## The length of the value -/

lemma length_value_layout :
    (m.layout tail input).value.length
      = (Layout.seats (Layout.place (m.inReading m.slots) 0 (m.inReading input).zipIdx)).length := by
  rw [value_layout, length_inReading, Layout.value_eq_seats, List.length_map, seats_readLayout]

/-- Without optional slots, the value slots are the mandatory ones. -/
lemma NoOptional.countP_value {m : Mask} (h : m.NoOptional) {slots : List Slot}
    (within : ∀ s ∈ slots, s ∈ m.slots) :
    slots.countP (!·.isLiteral) = slots.countP Slot.isMandatory := by
  apply List.countP_congr
  intro s hs
  constructor
  · intro value
    exact h s (within s hs) (by simpa using value)
  · intro mandatory
    simp [Slot.not_isLiteral_of_isMandatory mandatory]

/-- **When a layout is complete**: exactly when every mandatory slot has received a character.  Then
the value has at least as many characters as there are mandatory slots; it never has more than there
are value slots; and over a mask without optional slots, its length alone decides. -/
theorem layout_complete_iff :
    ((m.layout tail input).complete = true
        ↔ ∀ i s, m.slots[i]? = some s → s.isMandatory = true → (m.layout tail input).Fills i)
      ∧ ((m.layout tail input).complete = true →
          m.minValueLength ≤ (m.layout tail input).value.length)
      ∧ (m.layout tail input).value.length ≤ m.maxValueLength
      ∧ (m.NoOptional →
          ((m.layout tail input).complete = true
            ↔ (m.layout tail input).value.length = m.minValueLength)) := by
  have placed := Layout.covers_place (m.inReading m.slots) (m.inReading input)
  have atLeast := placed.countP_mandatory_le
  have atMost := placed.length_seats_le
  have behind := Layout.complete_forward_iff_countP (m.inReading m.slots) (m.tailPolicy tail)
    (m.inReading input)
  have total : m.minValueLength = _ := (m.countP_inReading Slot.isMandatory m.slots).symm.trans
    (Layout.countP_mandatory_eq (m.inReading m.slots) (m.inReading input))
  refine ⟨m.complete_iff_fills tail input, ?_, ?_, ?_⟩
  · intro complete
    rw [complete_layout, readLayout, behind] at complete
    rw [length_value_layout]
    omega
  · have fewer := (List.take_sublist (Layout.reach (m.inReading m.slots) (m.inReading input))
      (m.inReading m.slots)).countP_le (p := (!·.isLiteral))
    rw [countP_inReading] at fewer
    rw [length_value_layout]
    exact atMost.trans fewer
  · intro noOptional
    have within : ∀ s ∈ (m.inReading m.slots).take (Layout.reach (m.inReading m.slots)
        (m.inReading input)), s ∈ m.slots := by
      intro s hs
      exact m.mem_inReading.mp (List.mem_of_mem_take hs)
    rw [noOptional.countP_value within] at atMost
    rw [complete_layout, readLayout, behind, length_value_layout]
    omega

/-- The letter is dropped, and the digits fill the slots from the right. -/
theorem exists_complete_of_length : ∃ m : Mask, m.NoOptional ∧ m.rightToLeft = true
    ∧ (m.layout .hidden "1x23".toList).text = "1-23".toList
    ∧ (m.layout .hidden "1x23".toList).value.length = m.minValueLength
    ∧ (m.layout .hidden "1x23".toList).complete = true := by
  let digit : Slot := .value .digit false
  let m : Mask := ⟨[], [digit, .literal '-', digit, digit], true, true⟩
  have noOptional : m.NoOptional := by
    simp [NoOptional, m, digit, Slot.isMandatory, Slot.isLiteral]
  have length : (m.layout .hidden "1x23".toList).value.length = m.minValueLength := by decide
  have complete := ((m.layout_complete_iff .hidden "1x23".toList).2.2.2 noOptional).mpr length
  exact ⟨m, noOptional, rfl, by decide, length, complete⟩

end Mask

end MaskedInput
