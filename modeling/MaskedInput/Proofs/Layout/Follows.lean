import MaskedInput.Proofs.Layout.Caret

/-!
# Layouts follow their slots

A layout goes through its slots in their order and leaves out optional slots at most; behind the
last placed character it shows the literals that follow, if it shows them at all.  This holds in the
direction in which the mask is read, from whichever end.

* `Layout.Follows` — what a layout owes to its slots and to its input.
* `covers_forward` — the cells of a layout from the left cover some slots, its tail included.
* **`Mask.layout_follows`** — every layout follows the slots of its mask, in reading direction.
-/

namespace MaskedInput

namespace Layout

/-! ## What a layout owes to its slots and to its input -/

/-- **The layout follows its slots**, which are filled from the left with characters of the
input. -/
structure Follows (l : Layout) (slots : List Slot) (input : List Char) : Prop where
  /-- Up to some slot, the cells show the slots one after another. -/
  covers : ∃ e ≤ slots.length, Covers (slots.take e) 0 l.cells
  /-- The placed characters are the value. -/
  typed : (taken l.cells).map Prod.fst = l.value
  /-- They are found in the input, each at the position it remembers. -/
  found : (taken l.cells).Sublist input.zipIdx
  /-- These positions ascend. -/
  ascending : ((taken l.cells).map Prod.snd).Pairwise (· < ·)
  /-- Behind the last placed character, nothing is shown but the literals that follow its slot; if
  nothing is placed, nothing but the literals that the mask starts with. -/
  tail : ∃ placed run, l.cells = placed ++ run ∧ (∀ c ∈ placed.getLast?, c.isValue = true)
    ∧ (run = [] ∨ run = literalRun (slots.drop (resume placed)) (resume placed))

section Forward

variable (slots : List Slot) (tail : Tail) (input : List Char)

/-- The slot behind the last placed character, where the tail starts. -/
def reach : ℕ := resume (place slots 0 input.zipIdx)

lemma reach_le : reach slots input ≤ slots.length := by
  have within := (placement_place slots 0 input.zipIdx).resume_le
  rwa [Nat.zero_add] at within

lemma covers_place : Covers (slots.take (reach slots input)) 0 (place slots 0 input.zipIdx) := by
  have placed := (placement_place slots 0 input.zipIdx).covers
  rwa [Nat.sub_zero] at placed

/-- The cells are the placed ones and the literals behind them, unless these are hidden. -/
lemma cells_forward :
    ∃ run, (forward slots tail input).cells = place slots 0 input.zipIdx ++ run
      ∧ (run = [] ∨ run = literalRun (slots.drop (reach slots input)) (reach slots input)) := by
  by_cases literals : slots.all Slot.isLiteral = true
  · rw [forward, if_pos literals, reach, place_of_all_isLiteral slots 0 _ literals]
    exact ⟨_, rfl, Or.inr rfl⟩
  · rw [forward, if_neg literals]
    refine ⟨_, rfl, ?_⟩
    split_ifs
    · exact Or.inr rfl
    · exact Or.inl rfl

/-- Where nothing is placed, nothing is shown, unless the tail is shown eagerly or the mask takes
nothing at all. -/
lemma cells_forward_eq_nil (values : ¬ slots.all Slot.isLiteral = true)
    (lazy : tail.shownAfter [] = false) (untyped : (forward slots tail input).value = []) :
    (forward slots tail input).cells = [] := by
  rw [value_eq_seats, seats_forward, ← map_fst_taken, List.map_eq_nil_iff] at untyped
  have nothing := (placement_place slots 0 input.zipIdx).eq_nil_of_taken untyped
  simp [forward, values, nothing, lazy]

lemma covers_forward :
    ∃ e ≤ slots.length, Covers (slots.take e) 0 (forward slots tail input).cells := by
  have placed := covers_place slots input
  have within := reach_le slots input
  obtain ⟨run, cells, whole⟩ := cells_forward slots tail input
  rw [cells]
  rcases whole with rfl | rfl
  · rw [List.append_nil]
    exact ⟨_, within, placed⟩
  · generalize reach slots input = r at *
    have shorter := length_literalRun_le (slots.drop r) r
    rw [List.length_drop] at shorter
    refine ⟨r + (literalRun (slots.drop r) r).length, by omega, ?_⟩
    rw [List.take_add]
    apply placed.append
    rw [List.length_take_of_le within, Nat.zero_add]
    exact covers_literalRun ..

lemma follows_forward : (forward slots tail input).Follows slots input := by
  constructor
  case covers => exact covers_forward slots tail input
  case typed => rw [map_fst_taken, value_eq_seats]
  case found => exact taken_forward_sublist slots tail input
  case ascending =>
    rw [sources_taken]
    exact List.pairwise_lt_range.sublist (sources_forward slots tail input)
  case tail =>
    obtain ⟨run, cells, whole⟩ := cells_forward slots tail input
    exact ⟨_, run, cells, (placement_place ..).isValue_of_getLast?, whole⟩

end Forward

/-! ## The other end -/

lemma text_reversed (l : Layout) (n k : ℕ) : (l.reversed n k).text = l.text.reverse := by
  simp [text, reversed]

/-- A layout that is turned round twice is as it was. -/
lemma reversed_reversed {l : Layout} {n k : ℕ} (slots : ∀ c ∈ l.cells, c.slot < n)
    (sources : ∀ i ∈ l.cells.filterMap Cell.source, i < k) :
    (l.reversed n k).reversed n k = l := by
  obtain ⟨cells, complete⟩ := l
  simp only [reversed, List.map_reverse, List.reverse_reverse, List.map_map, mk.injEq, and_true]
  conv_rhs => rw [← List.map_id cells]
  apply List.map_congr_left
  rintro ⟨char, slot, source⟩ hc
  have hslot : slot < n := slots _ hc
  cases source with
  | none =>
      simp only [Function.comp_apply, Option.map_none, id_eq, Cell.mk.injEq, true_and, and_true]
      omega
  | some i =>
      have hi : i < k := sources i (List.mem_filterMap.mpr ⟨_, hc, rfl⟩)
      simp only [Function.comp_apply, Option.map_some, id_eq, Cell.mk.injEq, Option.some.injEq,
        true_and]
      omega

end Layout

namespace Mask

variable (m : Mask) (tail : Tail) (input : List Char)

/-- A layout of an input of `n` characters, in reading direction. -/
def turned (n : ℕ) (l : Layout) : Layout :=
  if m.rightToLeft then l.reversed m.slots.length n else l

lemma turned_layout : m.turned input.length (m.layout tail input) = m.readLayout tail input := by
  rw [turned, layout_eq_readLayout]
  split_ifs
  · apply Layout.reversed_reversed
    · obtain ⟨e, within, covers⟩ :=
        Layout.covers_forward (m.inReading m.slots) (m.tailPolicy tail) (m.inReading input)
      intro c hc
      have below := (covers.slot_within c hc).2
      rw [List.length_take_of_le within] at below
      rw [length_inReading] at within
      omega
    · intro i hi
      have sub := Layout.sources_forward (m.inReading m.slots) (m.tailPolicy tail)
        (m.inReading input)
      simpa using sub.subset hi
  · rfl

lemma text_layout : (m.layout tail input).text = m.inReading (m.readLayout tail input).text := by
  rw [layout_eq_readLayout, inReading]
  split_ifs
  · exact Layout.text_reversed ..
  · rfl

lemma tailPolicy_shownAfter_nil {tail : Tail} (lazy : tail ≠ .eager) :
    (m.tailPolicy tail).shownAfter [] = false := by
  rw [tailPolicy]
  cases tail with
  | hidden => split_ifs <;> rfl
  | afterValue => split_ifs <;> rfl
  | eager => exact absurd rfl lazy

/-- A mask with a value slot shows nothing for an empty value, unless it shows its tail eagerly. -/
lemma cells_layout_eq_nil (values : m.hasValueSlots = true) {tail : Tail} (lazy : tail ≠ .eager)
    (untyped : (m.layout tail input).value = []) : (m.layout tail input).cells = [] := by
  have typeable : ¬ (m.inReading m.slots).all Slot.isLiteral = true := by
    obtain ⟨s, hs, value⟩ := List.any_eq_true.mp values
    intro literals
    have literal := List.all_eq_true.mp literals s (m.mem_inReading.mpr hs)
    exact absurd literal (by simpa using value)
  have untyped : (m.readLayout tail input).value = [] := by
    rw [← m.inReading_inReading (m.readLayout tail input).value, ← value_layout, untyped]
    simp [inReading]
  have nothing := Layout.cells_forward_eq_nil _ _ _ typeable (m.tailPolicy_shownAfter_nil lazy) untyped
  rw [← List.length_eq_zero_iff, length_layout, readLayout, nothing, List.length_nil]

/-- A literal that is shown is one of the mask. -/
lemma literal_mem_of_mem_cells {c : Cell} (hc : c ∈ (m.layout tail input).cells)
    (literal : c.isValue = false) : .literal c.char ∈ m.slots := by
  obtain ⟨e, -, covers⟩ := Layout.covers_forward (m.inReading m.slots) (m.tailPolicy tail)
    (m.inReading input)
  have read (d : Cell) (hd : d ∈ (m.readLayout tail input).cells) (literal : d.isValue = false) :
      .literal d.char ∈ m.slots :=
    m.mem_inReading.mp (List.mem_of_mem_take (covers.literal_mem d hd literal))
  rw [layout_eq_readLayout] at hc
  split_ifs at hc
  · obtain ⟨d, hd, rfl⟩ := List.mem_map.mp hc
    rw [Cell.isValue, Option.isSome_map] at literal
    exact read d (List.mem_reverse.mp hd) literal
  · exact read c hc literal

/-- **Layouts follow their slots.**  Read in the direction of the mask, a layout shows its slots one
after another up to some slot; its characters come from the input in order, and its tail is the run
of literals behind the last of them.  In the other direction the text and the value are the same
backwards. -/
theorem layout_follows :
    (m.turned input.length (m.layout tail input)).Follows (m.inReading m.slots) (m.inReading input)
      ∧ (m.turned input.length (m.layout tail input)).text = m.inReading (m.layout tail input).text
      ∧ (m.turned input.length (m.layout tail input)).value
          = m.inReading (m.layout tail input).value := by
  rw [turned_layout]
  refine ⟨Layout.follows_forward .., ?_, ?_⟩
  · rw [text_layout, inReading_inReading]
  · rw [value_layout, inReading_inReading]

end Mask

end MaskedInput
