import MaskedInput.Proofs.Layout.Tight

/-!
# Laying out the value of a layout again

A field keeps the value that a layout shows and forgets the input it came from.  When the value is
laid out again, its text may be another one.  This file lifts the facts about the walk to masks of
either direction and says when the slots are the same.

* `Layout.Alike` — two layouts show the same characters in the same slots.
* `Mask.Tight` — no typed character passes by a slot that takes it.
* **`Mask.layout_value_alike_iff`** — the value is laid out alike exactly when its layout was tight.
* `Mask.Regular` — no value slot is optional, or all of them take the same characters.  Layouts of
  such masks are tight (`Mask.Regular.tight_layout`).
-/

namespace MaskedInput

namespace Layout

/-- **Two layouts show the same**: the same characters in the same slots, and they are equally
complete. -/
structure Alike (l l' : Layout) : Prop where
  faces : l.cells.map Cell.face = l'.cells.map Cell.face
  complete : l.complete = l'.complete

lemma value_eq_seats (l : Layout) : l.value = (seats l.cells).map Prod.fst := by
  simp [value, valueCells, seats]

namespace Alike

variable {l l' : Layout}

lemma refl (l : Layout) : l.Alike l := ⟨rfl, rfl⟩

lemma symm (h : l.Alike l') : l'.Alike l := ⟨h.faces.symm, h.complete.symm⟩

lemma trans {l'' : Layout} (h : l.Alike l') (h' : l'.Alike l'') : l.Alike l'' :=
  ⟨h.faces.trans h'.faces, h.complete.trans h'.complete⟩

lemma seats_eq (h : l.Alike l') : seats l.cells = seats l'.cells := seats_eq_of_face h.faces

lemma text_eq (h : l.Alike l') : l.text = l'.text := by
  have text_face (l : Layout) : l.text = (l.cells.map Cell.face).map Prod.fst := by
    rw [text, List.map_map]
    rfl
  rw [text_face, text_face, h.faces]

lemma value_eq (h : l.Alike l') : l.value = l'.value := by
  rw [value_eq_seats, value_eq_seats, h.seats_eq]

lemma length_eq (h : l.Alike l') : l.cells.length = l'.cells.length := by
  simpa using congrArg List.length h.faces

end Alike

/-! ## Layouts from the left -/

variable (slots : List Slot) (tail : Tail) (input : List Char)

lemma seats_literalRun (k : ℕ) : seats (literalRun slots k) = [] := by
  fun_induction literalRun slots k with
  | case1 k c slots ih => exact ih
  | case2 => rfl

lemma place_of_all_isLiteral (k : ℕ) (input : List (Char × ℕ))
    (h : slots.all Slot.isLiteral = true) : place slots k input = [] := by
  induction slots generalizing k with
  | nil => rfl
  | cons s slots ih =>
      rw [List.all_cons, Bool.and_eq_true] at h
      cases s with
      | literal l => exact place_literal_of_eq_nil slots k l (ih (k + 1) h.2)
      | value kind optional => exact absurd h.1 (by simp [Slot.isLiteral])

/-- The typed characters of a layout are those that the walk places. -/
lemma seats_forward :
    seats (forward slots tail input).cells = seats (place slots 0 input.zipIdx) := by
  by_cases h : slots.all Slot.isLiteral = true
  · rw [forward, if_pos h, place_of_all_isLiteral slots 0 _ h, seats_literalRun]
    rfl
  · rw [forward, if_neg h]
    simp only [seats_append]
    split_ifs
    · rw [seats_literalRun, List.append_nil]
    · rw [seats_nil, List.append_nil]

lemma shownAfter_eq_of_face {cells others : List Cell}
    (h : cells.map Cell.face = others.map Cell.face) :
    tail.shownAfter cells = tail.shownAfter others := by
  have : cells.isEmpty = others.isEmpty := by
    simpa using congrArg List.isEmpty h
  cases tail <;> simp [Tail.shownAfter, this]

lemma shownAfter_mono {cells others : List Cell} (h : others = [] → cells = [])
    (shown : tail.shownAfter cells = true) : tail.shownAfter others = true := by
  cases tail with
  | hidden => exact absurd shown (by simp [Tail.shownAfter])
  | afterValue =>
      simp only [Tail.shownAfter, Bool.not_eq_true', List.isEmpty_eq_false_iff] at shown ⊢
      exact fun empty => shown (h empty)
  | eager => rfl

/-- The layout is a function of what the walk shows. -/
lemma forward_alike {a b : List Char}
    (h : (place slots 0 a.zipIdx).map Cell.face = (place slots 0 b.zipIdx).map Cell.face) :
    (forward slots tail a).Alike (forward slots tail b) := by
  by_cases literals : slots.all Slot.isLiteral = true
  · simp only [forward, if_pos literals]
    exact ⟨rfl, rfl⟩
  · simp only [forward, if_neg literals, resume_eq_of_face h, shownAfter_eq_of_face tail h]
    exact ⟨by simp only [List.map_append, h], rfl⟩

/-- The value is laid out again like the characters that the walk places. -/
lemma face_place_value :
    (place slots 0 (forward slots tail input).value.zipIdx).map Cell.face
      = (place slots 0 (taken (place slots 0 input.zipIdx))).map Cell.face := by
  apply face_place_congr
  rw [map_fst_taken, ← seats_forward slots tail input, ← value_eq_seats]
  simp

/-- If the characters come back to their slots, they did not pass by others. -/
lemma tight_of_seats_forward_value
    (h : seats (forward slots tail (forward slots tail input).value).cells
      = seats (forward slots tail input).cells) :
    TightFrom slots 0 (seats (forward slots tail input).cells) := by
  have again := placement_place slots 0 (taken (place slots 0 input.zipIdx))
  have seats_again : seats (place slots 0 (taken (place slots 0 input.zipIdx)))
      = seats (place slots 0 input.zipIdx) := by
    rw [← seats_eq_of_face (face_place_value slots tail input), ← seats_forward, h, seats_forward]
  have all := again.taken_sublist.eq_of_length (by rw [length_taken, length_taken, seats_again])
  rw [seats_forward, ← seats_again]
  exact again.tight_of_taken_eq all

lemma forward_value_alike (tight : TightFrom slots 0 (seats (forward slots tail input).cells)) :
    (forward slots tail (forward slots tail input).value).Alike (forward slots tail input) := by
  apply forward_alike
  rw [seats_forward] at tight
  rw [face_place_value, (placement_place slots 0 input.zipIdx).place_taken tight]

/-! ## The other end -/

lemma faces_reversed (l : Layout) (n k : ℕ) :
    (l.reversed n k).cells.map Cell.face
      = (l.cells.map Cell.face).reverse.map fun f => (f.1, n - 1 - f.2.1, f.2.2) := by
  simp [reversed, Cell.face, Cell.isValue]

lemma seats_reversed (l : Layout) (n k : ℕ) :
    seats (l.reversed n k).cells = (seats l.cells).reverse.map fun p => (p.1, n - 1 - p.2) := by
  simp only [seats, reversed, List.filter_map, List.filter_reverse, List.map_reverse, List.map_map]
  congr 2
  apply List.filter_congr
  simp [Cell.isValue]

lemma Alike.reversed {l l' : Layout} (h : l.Alike l') (n k k' : ℕ) :
    (l.reversed n k).Alike (l'.reversed n k') where
  faces := by rw [faces_reversed, faces_reversed, h.faces]
  complete := h.complete

end Layout

/-! ## Layouts in either direction -/

namespace Mask

variable (m : Mask) (tail : Tail) (input : List Char)

/-- A list along the mask, in reading direction. -/
def inReading {α : Type} (xs : List α) : List α := if m.rightToLeft then xs.reverse else xs

/-- The number of a slot, counted in reading direction. -/
def rank (slot : ℕ) : ℕ := if m.rightToLeft then m.slots.length - 1 - slot else slot

/-- The typed characters of a layout in reading direction, with the numbers of their slots. -/
def readSeats (l : Layout) : List (Char × ℕ) :=
  (m.inReading (Layout.seats l.cells)).map fun p => (p.1, m.rank p.2)

/-- **No typed character passes by a slot that takes it.**  Read in the direction of the mask,
between a slot and a character behind it that the slot would take, some character stands at that
slot or behind it. -/
def Tight (l : Layout) : Prop := Layout.TightFrom (m.inReading m.slots) 0 (m.readSeats l)

/-- The layout before it is turned round: the slots are filled from the left. -/
def readLayout : Layout :=
  Layout.forward (m.inReading m.slots) (m.tailPolicy tail) (m.inReading input)

@[simp] lemma inReading_inReading {α : Type} (xs : List α) :
    m.inReading (m.inReading xs) = xs := by
  simp only [inReading]
  split_ifs <;> simp

@[simp] lemma inReading_nil {α : Type} : m.inReading ([] : List α) = [] := by
  simp [inReading]

@[simp] lemma inReading_singleton {α : Type} (x : α) : m.inReading [x] = [x] := by
  simp [inReading]

@[simp] lemma length_inReading {α : Type} (xs : List α) :
    (m.inReading xs).length = xs.length := by
  simp only [inReading]
  split_ifs <;> simp

@[simp] lemma mem_inReading {α : Type} {xs : List α} {x : α} : x ∈ m.inReading xs ↔ x ∈ xs := by
  simp only [inReading]
  split_ifs <;> simp

lemma inReading_sublist {α : Type} {xs ys : List α} (h : xs.Sublist ys) :
    (m.inReading xs).Sublist (m.inReading ys) := by
  simp only [inReading]
  split_ifs
  · exact h.reverse
  · exact h

lemma countP_inReading {α : Type} (p : α → Bool) (xs : List α) :
    (m.inReading xs).countP p = xs.countP p := by
  simp only [inReading]
  split_ifs <;> simp

lemma map_inReading {α β : Type} (f : α → β) (xs : List α) :
    (m.inReading xs).map f = m.inReading (xs.map f) := by
  simp only [inReading]
  split_ifs <;> simp

lemma layout_eq_readLayout :
    m.layout tail input = if m.rightToLeft
      then (m.readLayout tail input).reversed m.slots.length input.length
      else m.readLayout tail input := by
  simp only [layout, readLayout, inReading, reversed]
  split_ifs <;> rfl

lemma layout_eq_forward {m : Mask} (left : m.rightToLeft = false) :
    m.layout tail input = Layout.forward m.slots (m.tailPolicy tail) input := by
  simp [layout, left]

lemma seats_layout :
    Layout.seats (m.layout tail input).cells
      = (m.inReading (Layout.seats (m.readLayout tail input).cells)).map
          fun p => (p.1, m.rank p.2) := by
  rw [layout_eq_readLayout]
  simp only [inReading, rank]
  split_ifs
  · rw [Layout.seats_reversed]
  · simp

/-- The value of a layout is read in the direction in which the slots were filled. -/
lemma value_layout : (m.layout tail input).value = m.inReading (m.readLayout tail input).value := by
  rw [Layout.value_eq_seats, Layout.value_eq_seats, seats_layout, List.map_map, ← map_inReading]
  rfl

lemma length_layout :
    (m.layout tail input).cells.length = (m.readLayout tail input).cells.length := by
  rw [layout_eq_readLayout]
  split_ifs
  · simp [Layout.reversed]
  · rfl

lemma seats_readLayout :
    Layout.seats (m.readLayout tail input).cells
      = Layout.seats (Layout.place (m.inReading m.slots) 0 (m.inReading input).zipIdx) :=
  Layout.seats_forward ..

/-- The tail shows literals only, so it does not matter to the value. -/
lemma value_layout_tail (tail' : Tail) : (m.layout tail input).value = (m.layout tail' input).value := by
  rw [value_layout, value_layout, Layout.value_eq_seats, Layout.value_eq_seats, seats_readLayout,
    seats_readLayout]

lemma lt_of_mem_seats_readLayout {p : Char × ℕ}
    (hp : p ∈ Layout.seats (m.readLayout tail input).cells) : p.2 < m.slots.length := by
  rw [seats_readLayout] at hp
  obtain ⟨i, s, hs, hi, -⟩ := (Layout.placement_place ..).accepts_of_mem_seats p hp
  obtain ⟨hlt, -⟩ := List.getElem?_eq_some_iff.mp hs
  rw [length_inReading] at hlt
  omega

lemma rank_rank {slot : ℕ} (h : slot < m.slots.length) : m.rank (m.rank slot) = slot := by
  simp only [rank]
  split_ifs
  · omega
  · rfl

lemma readSeats_layout :
    m.readSeats (m.layout tail input) = Layout.seats (m.readLayout tail input).cells := by
  rw [readSeats, seats_layout, ← map_inReading, inReading_inReading, List.map_map]
  calc (Layout.seats (m.readLayout tail input).cells).map
        ((fun p => (p.1, m.rank p.2)) ∘ fun p => (p.1, m.rank p.2))
      = (Layout.seats (m.readLayout tail input).cells).map id := by
        apply List.map_congr_left
        intro p hp
        simp [m.rank_rank (m.lt_of_mem_seats_readLayout tail input hp)]
    _ = _ := List.map_id _

lemma readLayout_value :
    m.readLayout tail (m.layout tail input).value
      = Layout.forward (m.inReading m.slots) (m.tailPolicy tail)
          (m.readLayout tail input).value := by
  rw [readLayout, value_layout, inReading_inReading]

variable {m tail} in
lemma layout_alike {a b : List Char} (h : (m.readLayout tail a).Alike (m.readLayout tail b)) :
    (m.layout tail a).Alike (m.layout tail b) := by
  rw [layout_eq_readLayout, layout_eq_readLayout]
  split_ifs
  · exact h.reversed ..
  · exact h

/-- **When the value is laid out alike.**  The value of a layout gives the same characters in the
same slots again exactly when no typed character passes by a slot that takes it. -/
theorem layout_value_alike_iff :
    (m.layout tail (m.layout tail input).value).Alike (m.layout tail input)
      ↔ m.Tight (m.layout tail input) := by
  constructor
  · intro h
    have seats_again : m.readSeats (m.layout tail (m.layout tail input).value)
        = m.readSeats (m.layout tail input) := by
      rw [readSeats, readSeats, h.seats_eq]
    rw [readSeats_layout, readSeats_layout, readLayout_value] at seats_again
    rw [Tight, readSeats_layout]
    exact Layout.tight_of_seats_forward_value _ _ _ seats_again
  · intro tight
    rw [Tight, readSeats_layout] at tight
    apply layout_alike
    rw [readLayout_value]
    exact Layout.forward_value_alike _ _ _ tight

/-! ## Masks whose layouts are tight -/

/-- No value slot is optional. -/
def NoOptional : Prop := ∀ s ∈ m.slots, s.isLiteral = false → s.isMandatory = true

/-- All value slots take the same characters. -/
def Uniform : Prop :=
  ∀ s ∈ m.slots, ∀ t ∈ m.slots, s.isLiteral = false → t.isLiteral = false →
    ∀ c, s.accepts c = t.accepts c

/-- **No value slot is optional, or all of them take the same characters.** -/
def Regular : Prop := m.NoOptional ∨ m.Uniform

variable {m input}

lemma NoOptional.mandatory_inReading (h : m.NoOptional) :
    ∀ s ∈ m.inReading m.slots, s.isLiteral = false → s.isMandatory = true :=
  fun s hs => h s (m.mem_inReading.mp hs)

/-- Where all value slots take the same characters, each takes what one of them takes. -/
lemma Uniform.accepts (h : m.Uniform) {c : Char} (fits : m.acceptsAnywhere c = true) {s : Slot}
    (hs : s ∈ m.slots) (value : s.isLiteral = false) : s.accepts c = true := by
  obtain ⟨t, ht, fits⟩ := List.any_eq_true.mp fits
  have : t.isLiteral = false := by
    by_contra literal
    simp [Slot.not_accepts_of_isLiteral (by simpa using literal)] at fits
  rw [h s hs t ht value this]
  exact fits

lemma acceptsAnywhere_of_mem_value {c : Char} (hc : c ∈ (m.layout tail input).value) :
    m.acceptsAnywhere c = true := by
  rw [value_layout, mem_inReading, Layout.value_eq_seats, seats_readLayout] at hc
  obtain ⟨p, hp, rfl⟩ := List.mem_map.mp hc
  obtain ⟨i, s, hs, -, fits⟩ := (Layout.placement_place ..).accepts_of_mem_seats p hp
  have mem : s ∈ m.slots := by simpa using List.mem_of_getElem? hs
  exact List.any_eq_true.mpr ⟨s, mem, fits⟩

/-- **Regular masks.**  Of a regular mask, every layout of characters that some slot takes is
tight. -/
theorem Regular.tight_layout (h : m.Regular)
    (accepted : ∀ c ∈ input, m.acceptsAnywhere c = true) : m.Tight (m.layout tail input) := by
  rw [Tight, readSeats_layout, seats_readLayout]
  apply (Layout.placement_place ..).tight_of_forall
  intro s hs value
  rw [mem_inReading] at hs
  rcases h with noOptional | uniform
  · exact Or.inl (noOptional s hs value)
  · refine Or.inr fun p hp => ?_
    have mem : p.1 ∈ input := by
      have := List.mem_map_of_mem (f := Prod.fst) hp
      simpa using this
    exact uniform.accepts (accepted p.1 mem) hs value

variable (m input)

/-! ## What is kept in any case -/

@[simp] lemma value_layout_nil : (m.layout tail []).value = [] := by
  rw [value_layout, Layout.value_eq_seats, seats_readLayout]
  simp [inReading]

/-- The value is part of the input, in its order. -/
lemma value_layout_sublist : (m.layout tail input).value.Sublist input := by
  have placed := (Layout.placement_place (m.inReading m.slots) 0
    (m.inReading input).zipIdx).taken_sublist.map Prod.fst
  rw [Layout.map_fst_taken, List.zipIdx_map_fst, ← m.seats_readLayout tail,
    ← Layout.value_eq_seats] at placed
  have turned := m.inReading_sublist placed
  rwa [inReading_inReading, ← value_layout] at turned

/-- Where nothing of the input is dropped, the walk places all of it. -/
lemma taken_place_of_value_eq (h : (m.layout tail input).value = input) :
    Layout.taken (Layout.place (m.inReading m.slots) 0 (m.inReading input).zipIdx)
      = (m.inReading input).zipIdx := by
  have walk := Layout.placement_place (m.inReading m.slots) 0 (m.inReading input).zipIdx
  apply walk.taken_sublist.eq_of_length
  have length := congrArg List.length h
  rw [value_layout, length_inReading, Layout.value_eq_seats, List.length_map, seats_readLayout]
    at length
  rw [Layout.length_taken, length, List.length_zipIdx, length_inReading]

/-- Where nothing of the input is dropped, no typed character passes by a slot that takes it. -/
lemma tight_of_value_eq (h : (m.layout tail input).value = input) :
    m.Tight (m.layout tail input) := by
  rw [Tight, readSeats_layout, seats_readLayout]
  exact (Layout.placement_place ..).tight_of_taken_eq (m.taken_place_of_value_eq tail input h)

lemma tight_of_value_eq_nil (h : (m.layout tail input).value = []) :
    m.Tight (m.layout tail input) := by
  rw [Layout.value_eq_seats, List.map_eq_nil_iff] at h
  intro p hp
  rw [readSeats, h] at hp
  simp [inReading] at hp

end Mask

end MaskedInput
