import Mathlib.Data.List.DropRight
import Mathlib.Data.List.Forall2
import Mathlib.Order.Bounds.Defs
import MaskedInput.Proofs.Layout.Completeness

/-!
# How many slots an input can fill

The walk takes the first character that fits and never looks back.  Over mandatory slots nothing is lost
by that: whichever characters are chosen from the input, in its order, they do not fill more of the first
slots.  A slot has no use for a character that it drops, and taking the first one that fits leaves at
least as much of the input to the slots behind as any other choice does.

* `Slot.FilledBy` — characters that fill some slots, one each; `Slot.FilledFrom` — some characters of an
  input do.
* `Slot.FilledFrom.behind`, `Slot.FilledFrom.of_refuses` — what a choice is worth when a slot takes the
  next character or drops it.
* `Layout.Placement.filledBy`, `Layout.Placement.length_le` — the placed characters fill the first value
  slots, and no choice fills more.
* `Mask.NoOptional.complete_iff_length` — a layout is complete when the value has a character for each slot.
* **`Mask.NoOptional.isGreatest_length_value`** — so the value is as long as it can be, and the layout is
  complete exactly when the input can fill all value slots.
-/

namespace MaskedInput

namespace Slot

/-! ## Slots and characters -/

/-- The slots that characters can be typed into. -/
def valueSlots (slots : List Slot) : List Slot := slots.filter (!·.isLiteral)

/-- **The characters fill the slots**: there are as many, and each slot takes the one at its place. -/
def FilledBy (slots : List Slot) (chars : List Char) : Prop :=
  List.Forall₂ (fun s c => s.accepts c = true) slots chars

/-- Some characters of the input fill the slots, in the order in which the input holds them. -/
def FilledFrom (slots : List Slot) (input : List Char) : Prop :=
  ∃ chars, chars.Sublist input ∧ FilledBy slots chars

@[simp] lemma valueSlots_literal (l : Char) (slots : List Slot) :
    valueSlots (.literal l :: slots) = valueSlots slots := rfl

@[simp] lemma valueSlots_value (kind : CharClass) (optional : Bool) (slots : List Slot) :
    valueSlots (.value kind optional :: slots) = .value kind optional :: valueSlots slots := rfl

lemma length_valueSlots (slots : List Slot) :
    (valueSlots slots).length = slots.countP (!·.isLiteral) :=
  List.countP_eq_length_filter.symm

variable {s : Slot} {slots : List Slot} {c : Char} {input : List Char}

lemma FilledFrom.eq_nil (h : FilledFrom slots []) : slots = [] := by
  obtain ⟨chars, sub, filled⟩ := h
  rw [List.sublist_nil.mp sub] at filled
  exact List.forall₂_nil_right_iff.mp filled

/-- **The exchange.**  Whichever character a choice has for the first slot, the choice for the slots
behind it is found behind the first character of the input. -/
lemma FilledFrom.behind (h : FilledFrom (s :: slots) (c :: input)) : FilledFrom slots input := by
  obtain ⟨_, sub, filled⟩ := h
  cases filled with
  | cons _ others =>
      cases sub with
      | cons _ sub => exact ⟨_, (List.sublist_cons_self _ _).trans sub, others⟩
      | cons_cons _ sub => exact ⟨_, sub, others⟩

/-- A character that the first slot refuses is of no use to it. -/
lemma FilledFrom.of_refuses (h : FilledFrom (s :: slots) (c :: input)) (misfits : s.accepts c = false) :
    FilledFrom (s :: slots) input := by
  obtain ⟨_, sub, filled⟩ := h
  cases filled with
  | cons fits others =>
      cases sub with
      | cons _ sub => exact ⟨_, sub, List.Forall₂.cons fits others⟩
      | cons_cons _ _ => exact absurd fits (by simp [misfits])

end Slot

/-! ## The walk -/

namespace Layout.Placement

open Slot

variable {slots : List Slot} {k : ℕ} {input : List (Char × ℕ)} {cells : List Cell}

/-- Over mandatory slots, the placed characters fill the first value slots. -/
lemma filledBy (h : Placement slots k input cells)
    (mandatory : ∀ s ∈ slots, s.isLiteral = false → s.isMandatory = true) :
    FilledBy ((valueSlots slots).take (taken cells).length) ((taken cells).map Prod.fst) := by
  induction h with
  | endOfMask => exact List.Forall₂.nil
  | endOfInput => exact List.Forall₂.nil
  | hides => exact List.Forall₂.nil
  | shows l _ ih =>
      rw [valueSlots_literal, taken_literal]
      exact ih (List.forall_mem_of_forall_mem_cons mandatory)
  | takes optional i fits _ ih =>
      rw [valueSlots_value, taken_value, List.length_cons, List.take_succ_cons, List.map_cons]
      exact List.Forall₂.cons fits (ih (List.forall_mem_of_forall_mem_cons mandatory))
  | skips =>
      exact absurd (Slot.optional_eq_false mandatory) (by simp)
  | drops _ _ _ ih => exact ih mandatory

/-- **No choice fills more** of the first value slots than the walk does, if they are mandatory. -/
theorem length_le (h : Placement slots k input cells)
    (mandatory : ∀ s ∈ slots, s.isLiteral = false → s.isMandatory = true) {first : List Slot}
    (front : first <+: valueSlots slots) (filled : FilledFrom first (input.map Prod.fst)) :
    first.length ≤ (taken cells).length := by
  induction h generalizing first with
  | endOfMask => exact front.length_le
  | endOfInput => rw [filled.eq_nil, List.length_nil, taken_nil, List.length_nil]
  | hides l _ ih => exact ih (List.forall_mem_of_forall_mem_cons mandatory) front filled
  | shows l _ ih => exact ih (List.forall_mem_of_forall_mem_cons mandatory) front filled
  | takes optional i fits _ ih =>
      cases first with
      | nil => exact Nat.zero_le _
      | cons s first =>
          obtain ⟨rfl, behind⟩ := List.cons_prefix_cons.mp front
          exact Nat.succ_le_succ (ih (List.forall_mem_of_forall_mem_cons mandatory) behind filled.behind)
  | skips =>
      exact absurd (Slot.optional_eq_false mandatory) (by simp)
  | drops i misfits _ ih =>
      cases first with
      | nil => exact Nat.zero_le _
      | cons s first =>
          obtain ⟨rfl, -⟩ := List.cons_prefix_cons.mp front
          exact ih mandatory front (filled.of_refuses misfits)

end Layout.Placement

/-! ## Masks in either direction -/

namespace Mask

open Slot

variable {m : Mask}

/-- A value has no more characters than the mask has value slots. -/
lemma length_value_layout_le (m : Mask) (tail : Tail) (input : List Char) :
    (m.layout tail input).value.length ≤ m.maxValueLength := by
  have placed := (Layout.covers_place (m.inReading m.slots) (m.inReading input)).length_seats_le
  rw [length_value_layout, maxValueLength, ← countP_inReading]
  exact placed.trans ((List.take_sublist ..).countP_le)

/-- The `n` value slots that are filled first. -/
def firstSlots (m : Mask) (n : ℕ) : List Slot :=
  if m.rightToLeft then (valueSlots m.slots).rtake n else (valueSlots m.slots).take n

lemma valueSlots_inReading (m : Mask) (slots : List Slot) :
    valueSlots (m.inReading slots) = m.inReading (valueSlots slots) := by
  simp only [inReading]
  split_ifs
  · exact List.filter_reverse
  · rfl

lemma firstSlots_eq_inReading (m : Mask) (n : ℕ) :
    m.firstSlots n = m.inReading ((valueSlots (m.inReading m.slots)).take n) := by
  rw [valueSlots_inReading, firstSlots, inReading, inReading]
  split_ifs
  · exact List.rtake_eq_reverse_take_reverse ..
  · rfl

lemma firstSlots_maxValueLength (m : Mask) : m.firstSlots m.maxValueLength = valueSlots m.slots := by
  have all : (valueSlots m.slots).length = m.maxValueLength := length_valueSlots m.slots
  rw [firstSlots, ← all]
  split_ifs
  · rw [List.rtake_eq_reverse_take_reverse, ← List.length_reverse, List.take_length,
      List.reverse_reverse]
  · exact List.take_length

lemma filledBy_inReading {slots : List Slot} {chars : List Char} (h : FilledBy slots chars) :
    FilledBy (m.inReading slots) (m.inReading chars) := by
  simp only [inReading]
  split_ifs
  · exact List.rel_reverse h
  · exact h

lemma filledFrom_inReading {slots : List Slot} {input : List Char} (h : FilledFrom slots input) :
    FilledFrom (m.inReading slots) (m.inReading input) := by
  obtain ⟨chars, sub, filled⟩ := h
  exact ⟨m.inReading chars, m.inReading_sublist sub, m.filledBy_inReading filled⟩

namespace NoOptional

/-- Without optional slots, a layout is complete when all value slots have received a character. -/
lemma complete_iff_length (h : m.NoOptional) (tail : Tail) (input : List Char) :
    (m.layout tail input).complete = true
      ↔ (m.layout tail input).value.length = m.maxValueLength := by
  have placed := Layout.covers_place (m.inReading m.slots) (m.inReading input)
  have atLeast := placed.countP_mandatory_le
  have atMost := placed.length_seats_le
  have total := m.countP_inReading Slot.isMandatory m.slots
  have within : ∀ s ∈ m.inReading m.slots, s ∈ m.slots := fun s => m.mem_inReading.mp
  rw [h.countP_value fun s hs => within s (List.mem_of_mem_take hs)] at atMost
  rw [Layout.countP_mandatory_eq (m.inReading m.slots) (m.inReading input)] at total
  rw [complete_layout, readLayout, Layout.complete_forward_iff_countP, length_value_layout,
    maxValueLength, h.countP_value fun _ hs => hs]
  omega

/-- The characters of the value fill as many of the first slots. -/
lemma filledFrom_length_value (h : m.NoOptional) (tail : Tail) (input : List Char) :
    FilledFrom (m.firstSlots (m.layout tail input).value.length) input := by
  have walk := Layout.placement_place (m.inReading m.slots) 0 (m.inReading input).zipIdx
  have chosen := walk.taken_sublist.map Prod.fst
  rw [List.zipIdx_map_fst] at chosen
  have reading := m.filledFrom_inReading ⟨_, chosen, walk.filledBy h.mandatory_inReading⟩
  rwa [inReading_inReading, ← firstSlots_eq_inReading, Layout.length_taken,
    ← length_value_layout m tail] at reading

/-- If characters of the input fill some first slots, the value has at least as many. -/
lemma le_length_value_of_filledFrom (h : m.NoOptional) (tail : Tail) {input : List Char} {n : ℕ}
    (room : n ≤ m.maxValueLength) (filled : FilledFrom (m.firstSlots n) input) :
    n ≤ (m.layout tail input).value.length := by
  have walk := Layout.placement_place (m.inReading m.slots) 0 (m.inReading input).zipIdx
  have slots : (valueSlots (m.inReading m.slots)).length = m.maxValueLength := by
    rw [length_valueSlots, countP_inReading, maxValueLength]
  have filled := m.filledFrom_inReading filled
  rw [firstSlots_eq_inReading, inReading_inReading] at filled
  have fewer := walk.length_le h.mandatory_inReading (List.take_prefix n _) (by rwa [List.zipIdx_map_fst])
  rwa [List.length_take, slots, min_eq_left room, Layout.length_taken, ← length_value_layout m tail]
    at fewer

/-- **The walk misses no filling.**  Over a mask without optional slots, the length of the value is the
greatest number of value slots, counted in the direction in which they are filled, that characters of the
input can fill in order.  So the layout is complete exactly when they can fill all of them. -/
theorem isGreatest_length_value (h : m.NoOptional) (tail : Tail) (input : List Char) :
    IsGreatest {n | n ≤ m.maxValueLength ∧ FilledFrom (m.firstSlots n) input}
        (m.layout tail input).value.length
      ∧ ((m.layout tail input).complete = true ↔ FilledFrom (valueSlots m.slots) input) := by
  have room := m.length_value_layout_le tail input
  have attained := h.filledFrom_length_value tail input
  constructor
  · exact ⟨⟨room, attained⟩, fun n filled => h.le_length_value_of_filledFrom tail filled.1 filled.2⟩
  · rw [h.complete_iff_length, ← firstSlots_maxValueLength]
    constructor
    · intro all
      rwa [all] at attained
    · intro filled
      exact le_antisymm room (h.le_length_value_of_filledFrom tail (le_refl _) filled)

/-- Filled from the right, all slots find their characters, whose classes overlap.  From the left, the digit
that is dropped in front of the letter is missed by no choice: the letter stands behind all digits. -/
theorem exists_isGreatest_length_value : ∃ m n : Mask, m.NoOptional ∧ m.rightToLeft = true
    ∧ n.NoOptional ∧ (m.layout .hidden "a1b2c".toList).value = "ab2".toList
    ∧ FilledFrom (valueSlots m.slots) "a1b2c".toList
    ∧ (n.layout .hidden "1-2b".toList).value = "1b".toList
    ∧ IsGreatest {k | k ≤ n.maxValueLength ∧ FilledFrom (n.firstSlots k) "1-2b".toList} 2
    ∧ ¬ FilledFrom (valueSlots n.slots) "1-2b".toList := by
  let digit : Slot := .value .digit false
  let letter : Slot := .value .letter false
  let both : Slot := .value .alphanumeric false
  let m : Mask := ⟨[], [letter, .literal '-', both, digit], true, true⟩
  let n : Mask := ⟨[], [both, letter, digit], true, false⟩
  have noOptional : m.NoOptional ∧ n.NoOptional := by
    simp [NoOptional, m, n, digit, letter, both, Slot.isMandatory, Slot.isLiteral]
  have value : (m.layout .hidden "a1b2c".toList).value = "ab2".toList
      ∧ (n.layout .hidden "1-2b".toList).value = "1b".toList := by decide +kernel
  have complete : (m.layout .hidden "a1b2c".toList).complete = true
      ∧ ¬ (n.layout .hidden "1-2b".toList).complete = true := by decide +kernel
  have filled := noOptional.1.isGreatest_length_value .hidden "a1b2c".toList
  have short := noOptional.2.isGreatest_length_value .hidden "1-2b".toList
  have greatest := short.1
  rw [value.2] at greatest
  exact ⟨m, n, noOptional.1, rfl, noOptional.2, value.1, filled.2.mp complete.1, value.2, greatest,
    fun all => complete.2 (short.2.mpr all)⟩

end NoOptional

end Mask

end MaskedInput
