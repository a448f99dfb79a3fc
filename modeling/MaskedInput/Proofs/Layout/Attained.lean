import MaskedInput.Proofs.Layout.Filling

/-!
# Complete values of every length

The walk fills an optional slot whenever it can, so it is not clear that a value can be complete
without them.  It takes a character that no slot takes: such a character passes all optional slots
by, and the next mandatory slot drops it.  With one of them in front of every mandatory slot, an
input can fill as many of the optional slots as it likes, counted from the first one.

* `Slot.Separates` — a character for every class of value slots, and one that none of them takes.
* `Slot.keys` — an input for the mandatory slots and the first `n` optional ones.
* `Slot.Separates.place_keys` — these are the slots that the walk fills.
* `Mask.minValueLength_le_of_complete` — no complete value is shorter than the mandatory slots are.
* **`Mask.complete_length_iff`** — there are complete values of all lengths from the number of
  mandatory slots to the number of value slots, and of no others.
-/

namespace MaskedInput

namespace Slot

/-! ## Keys -/

/-- How many of the slots are optional. -/
def optionalCount (slots : List Slot) : ℕ := slots.countP fun s => !s.isLiteral && !s.isMandatory

lemma countP_value_eq (slots : List Slot) :
    slots.countP (!·.isLiteral) = slots.countP isMandatory + optionalCount slots := by
  induction slots with
  | nil => rfl
  | cons s slots ih =>
      rw [optionalCount, List.countP_cons, List.countP_cons, List.countP_cons, ih, optionalCount]
      obtain l | ⟨kind, mandatory | optional⟩ := s <;> simp [isLiteral, isMandatory] <;> omega

/-- **The value slots take their samples, and none takes the separator.** -/
def Separates (sample : CharClass → Char) (separator : Char) (slots : List Slot) : Prop :=
  ∀ kind optional, .value kind optional ∈ slots →
    kind.accepts (sample kind) = true ∧ kind.accepts separator = false

/-- **The keys** for the mandatory slots and the first `n` optional ones.  The separator in front of
a mandatory slot leads past the optional slots that are to stay empty. -/
def keys (sample : CharClass → Char) (separator : Char) : List Slot → (n : ℕ) → List Char
  | [], _ => []
  | .literal _ :: slots, n => keys sample separator slots n
  | .value kind false :: slots, n => separator :: sample kind :: keys sample separator slots n
  | .value _ true :: slots, 0 => keys sample separator slots 0
  | .value kind true :: slots, n + 1 => sample kind :: keys sample separator slots n

variable {sample : CharClass → Char} {separator : Char} {slots : List Slot} {k n : ℕ}
  {input : List (Char × ℕ)}

lemma Separates.of_cons {s : Slot} (h : Separates sample separator (s :: slots)) :
    Separates sample separator slots :=
  fun kind optional mem => h kind optional (List.mem_cons_of_mem _ mem)

/-- Where no optional slot is to be filled, the first key is a separator. -/
lemma head_keys_zero : ∀ c ∈ (keys sample separator slots 0).head?, c = separator := by
  induction slots with
  | nil => simp [keys]
  | cons s slots ih =>
      obtain l | ⟨kind, mandatory | optional⟩ := s
      · exact ih
      · simp [keys]
      · exact ih

end Slot

namespace Layout

open Slot

variable {sample : CharClass → Char} {separator : Char} {slots : List Slot} {k n : ℕ}
  {input : List (Char × ℕ)}

lemma seats_place_literal (l : Char) (slots : List Slot) (k : ℕ) (input : List (Char × ℕ)) :
    seats (place (.literal l :: slots) k input) = seats (place slots (k + 1) input) := by
  cases behind : place slots (k + 1) input with
  | nil => rw [place_literal_of_eq_nil _ _ _ behind]
  | cons d cells => rw [place_literal_of_eq_cons _ _ _ behind, seats_literal]

/-- An optional slot that refuses the next character, if there is one, stays empty. -/
lemma place_optional_of_head {kind : CharClass} (misfits : ∀ p ∈ input.head?, kind.accepts p.1 = false) :
    place (.value kind true :: slots) k input = place slots (k + 1) input := by
  cases input with
  | nil => rw [place_value_nil, place_nil_input]
  | cons p rest => exact place_optional_of_refuses _ _ _ _ _ (misfits p rfl)

/-! ## The walk over the keys -/

/-- Every mandatory slot, counted from index `k`, has received a character. -/
def SeatsMandatory (slots : List Slot) (k : ℕ) (seated : List (Char × ℕ)) : Prop :=
  ∀ i s, slots[i]? = some s → s.isMandatory = true → ∃ p ∈ seated, p.2 = k + i

namespace SeatsMandatory

variable {s : Slot} {seated : List (Char × ℕ)}

lemma cons_passed (h : SeatsMandatory slots (k + 1) seated) (passed : s.isMandatory = false) :
    SeatsMandatory (s :: slots) k seated := by
  rintro (_ | i) t ht mandatory
  · obtain rfl : s = t := by simpa using ht
    exact absurd mandatory (by simp [passed])
  · obtain ⟨p, hp, place⟩ := h i t ht mandatory
    exact ⟨p, hp, by omega⟩

lemma cons_seated (h : SeatsMandatory slots (k + 1) seated) (c : Char) :
    SeatsMandatory (s :: slots) k ((c, k) :: seated) := by
  rintro (_ | i) t ht mandatory
  · exact ⟨(c, k), List.mem_cons_self, rfl⟩
  · obtain ⟨p, hp, place⟩ := h i t ht mandatory
    exact ⟨p, List.mem_cons_of_mem _ hp, by omega⟩

end SeatsMandatory

end Layout

namespace Slot.Separates

open Layout

variable {sample : CharClass → Char} {separator : Char} {slots : List Slot} {k n : ℕ}
  {input : List (Char × ℕ)}

/-- **The keys fill the slots that they are meant for**: as many as there are, and every mandatory one
among them. -/
theorem place_keys (h : Separates sample separator slots)
    (keyed : input.map Prod.fst = keys sample separator slots n) (room : n ≤ optionalCount slots) :
    (seats (place slots k input)).length = slots.countP isMandatory + n
      ∧ SeatsMandatory slots k (seats (place slots k input)) := by
  induction slots generalizing k n input with
  | nil =>
      obtain rfl : n = 0 := Nat.le_zero.mp room
      exact ⟨rfl, by simp [SeatsMandatory]⟩
  | cons s slots ih =>
      obtain l | ⟨kind, _ | _⟩ := s
      · obtain ⟨length, filled⟩ := ih (k := k + 1) h.of_cons keyed room
        rw [seats_place_literal]
        exact ⟨length, filled.cons_passed rfl⟩
      · -- The separator is dropped, and the slot takes its sample.
        obtain ⟨fits, misfits⟩ := h kind false List.mem_cons_self
        obtain ⟨⟨_, i⟩, _, rfl, rfl, behind⟩ := List.map_eq_cons_iff.mp keyed
        obtain ⟨⟨_, j⟩, rest, rfl, rfl, others⟩ := List.map_eq_cons_iff.mp behind
        obtain ⟨length, filled⟩ := ih (k := k + 1) h.of_cons others room
        rw [place_mandatory_of_refuses _ _ _ _ i misfits, place_value_of_accepts _ _ _ _ _ j fits,
          seats_value, List.length_cons, length, List.countP_cons_of_pos rfl]
        exact ⟨by omega, filled.cons_seated _⟩
      · obtain ⟨fits, misfits⟩ := h kind true List.mem_cons_self
        cases n with
        | zero =>
            -- The next key is a separator, so the slot stays empty.
            obtain ⟨length, filled⟩ := ih (k := k + 1) h.of_cons keyed (Nat.zero_le _)
            have head : ∀ p ∈ input.head?, kind.accepts p.1 = false := by
              intro p hp
              have first : p.1 ∈ (input.map Prod.fst).head? := by
                rw [List.head?_map]
                exact Option.mem_map_of_mem _ hp
              rw [keyed] at first
              rwa [head_keys_zero _ first]
            rw [place_optional_of_head head]
            exact ⟨length, filled.cons_passed rfl⟩
        | succ n =>
            obtain ⟨⟨_, i⟩, rest, rfl, rfl, behind⟩ := List.map_eq_cons_iff.mp keyed
            have room : n ≤ optionalCount slots := by
              rw [optionalCount, List.countP_cons_of_pos rfl] at room
              exact Nat.le_of_succ_le_succ room
            obtain ⟨length, filled⟩ := ih (k := k + 1) h.of_cons behind room
            rw [place_value_of_accepts _ _ _ _ _ i fits, seats_value, List.length_cons, length]
            rw [List.countP_cons_of_neg (by simp [isMandatory])]
            exact ⟨by omega, filled.cons_seated _⟩

end Slot.Separates

namespace Mask

open Slot

variable {m : Mask} {sample : CharClass → Char} {separator : Char} {tail : Tail}

/-! ## The lengths of complete values -/

/-- Every mandatory slot counts for a character of a complete value. -/
lemma minValueLength_le_of_complete {input : List Char} (complete : (m.layout tail input).complete = true) :
    m.minValueLength ≤ (m.layout tail input).value.length := by
  have placed := Layout.covers_place (m.inReading m.slots) (m.inReading input)
  have front := placed.countP_mandatory_le
  have total := m.countP_inReading isMandatory m.slots
  rw [complete_layout, readLayout, Layout.complete_forward_iff_countP] at complete
  rw [Layout.countP_mandatory_eq (m.inReading m.slots) (m.inReading input), complete] at total
  rw [length_value_layout, minValueLength, ← total]
  exact front

/-- **Complete values of every length.**  If every value slot takes some character, and there is one that
none of them takes, then a layout can be complete with any number of typed characters from the number of
mandatory slots to the number of value slots, and with no other. -/
theorem complete_length_iff (h : Separates sample separator m.slots) (tail : Tail) (n : ℕ) :
    (∃ input, (m.layout tail input).complete = true ∧ (m.layout tail input).value.length = n)
      ↔ m.minValueLength ≤ n ∧ n ≤ m.maxValueLength := by
  constructor
  · rintro ⟨input, complete, rfl⟩
    exact ⟨minValueLength_le_of_complete complete, m.length_value_layout_le tail input⟩
  · rintro ⟨atLeast, atMost⟩
    obtain ⟨extra, rfl⟩ := Nat.exists_eq_add_of_le atLeast
    have separates : Separates sample separator (m.inReading m.slots) :=
      fun kind optional mem => h kind optional (m.mem_inReading.mp mem)
    have room : extra ≤ optionalCount (m.inReading m.slots) := by
      rw [optionalCount, countP_inReading, ← optionalCount]
      rw [maxValueLength, countP_value_eq, minValueLength] at atMost
      omega
    obtain ⟨length, filled⟩ := separates.place_keys (k := 0)
      (List.zipIdx_map_fst 0 (keys sample separator (m.inReading m.slots) extra)) room
    refine ⟨m.inReading (keys sample separator (m.inReading m.slots) extra), ?_, ?_⟩
    · rw [complete_layout, readLayout, inReading_inReading, Layout.complete_forward_iff]
      intro i s hs mandatory
      rw [Layout.fills_iff_seats, Layout.seats_forward]
      simpa using filled i s hs mandatory
    · rw [length_value_layout, inReading_inReading, length, countP_inReading, minValueLength]

end Mask

end MaskedInput
