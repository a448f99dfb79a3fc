import Mathlib.Data.List.Basic
import MaskedInput.Proofs.Bounds.Checked
import MaskedInput.Proofs.Layout.Completeness
import MaskedInput.Proofs.Layout.Tail

/-!
# The walk over a mask, by positions

`Layout.place` follows the slots and the input as lists.  A program walks with one index into the
slots and another into the input, holds the literals it has passed until it places a character, and
notes the positions of the cells that show typed characters.  Here the walk is written that way, with
every index, slice, sum and difference checked.

* `Walk` — cells with the positions of the value cells among them; `Layout.indexed` — those of a
  layout.
* `Walk.State.run` — the loop over the slots; `Walk.State.run_eq` — it ends without a fault and has
  placed what `place` places.
* `Walk.forward?`, `Walk.reversed?` — the walk from the left, and a walk turned round.
* **`Mask.walk?_eq`** — the walk meets no fault, and it ends with the layout.
-/

namespace MaskedInput

open Checked

/-- What a walk leaves behind. -/
structure Walk where
  cells : List Cell
  /-- The positions of the cells that show typed characters. -/
  values : List ℕ
  complete : Bool

namespace Layout

/-- A layout with the positions of its value cells. -/
def indexed (l : Layout) : Walk where
  cells := l.cells
  values := l.cells.findIdxs Cell.isValue
  complete := l.complete

/-- Every cell of a layout from the left lies within the slots, and its source within the input. -/
lemma cell_within_forward (slots : List Slot) (tail : Tail) (input : List Char) :
    ∀ c ∈ (forward slots tail input).cells,
      c.slot < slots.length ∧ ∀ i, c.source = some i → i < input.length := by
  obtain ⟨e, le, covers⟩ := covers_forward slots tail input
  intro c hc
  constructor
  · have within := (covers.slot_within c hc).2
    rw [List.length_take] at within
    omega
  · intro i hi
    have given := getElem?_source_forward slots tail input c hc i hi
    exact (List.getElem?_eq_some_iff.mp given).1

end Layout

namespace Walk

/-- A walk that is under way. -/
structure State where
  cells : List Cell := []
  values : List ℕ := []
  /-- The literals behind the last placed character, not shown yet. -/
  pending : List Cell := []
  slot : ℕ := 0
  next : ℕ := 0
  /-- The slot behind the last placed character. -/
  resume : ℕ := 0

namespace State

/-- **The loop of the walk.**  The slots end it, or the input does at a value slot. -/
def run (slots : List Slot) (input : List Char) (w : State) : Option State :=
  if _within : w.slot < slots.length then do
    match ← slots[w.slot]? with
    | .literal l =>
      let ⟨slot, _⟩ ← succ? w.slot
      run slots input { w with pending := w.pending ++ [⟨l, w.slot, none⟩], slot }
    | .value kind optional =>
      match _given : input[w.next]? with
      | none => return w
      | some c =>
        if kind.accepts c then
          let ⟨next, _⟩ ← succ? w.next
          let ⟨slot, _⟩ ← succ? w.slot
          let cells := w.cells ++ w.pending
          run slots input {
            cells := cells ++ [⟨c, w.slot, some w.next⟩]
            values := w.values ++ [cells.length]
            slot, next, resume := slot }
        else if optional then
          let ⟨slot, _⟩ ← succ? w.slot
          run slots input { w with slot }
        else
          let ⟨next, _⟩ ← succ? w.next
          run slots input { w with next }
  else return w
termination_by (slots.length - w.slot) + (input.length - w.next)
decreasing_by
  all_goals first
    | omega
    | obtain ⟨ahead, -⟩ := List.getElem?_eq_some_iff.mp _given
      omega

variable {slots : List Slot} {input : List Char} {w : State}

/-! ### One step -/

lemma run_of_le (ended : slots.length ≤ w.slot) : run slots input w = some w := by
  rw [run, dif_neg (by omega)]
  rfl

section Steps

variable (room : slots.length + input.length < 2 ^ 63)

include room

lemma run_literal {l : Char} (here : slots[w.slot]? = some (.literal l)) :
    run slots input w
      = run slots input { w with
          pending := w.pending ++ [⟨l, w.slot, none⟩], slot := w.slot + 1 } := by
  obtain ⟨within, -⟩ := List.getElem?_eq_some_iff.mp here
  rw [run, dif_pos within, here, succ?_eq (by omega)]
  rfl

variable {kind : CharClass} {optional : Bool}

omit room in
lemma run_endOfInput (here : slots[w.slot]? = some (.value kind optional))
    (ended : input[w.next]? = none) : run slots input w = some w := by
  obtain ⟨within, -⟩ := List.getElem?_eq_some_iff.mp here
  rw [run, dif_pos within, here]
  simp only [Option.bind_eq_bind, Option.bind_some]
  split
  · rfl
  · simp_all

/-- A value slot takes the next character, or stays empty, or drops it. -/
lemma run_value {c : Char} (here : slots[w.slot]? = some (.value kind optional))
    (given : input[w.next]? = some c) :
    run slots input w = if kind.accepts c then
        run slots input {
          cells := w.cells ++ w.pending ++ [⟨c, w.slot, some w.next⟩]
          values := w.values ++ [(w.cells ++ w.pending).length]
          slot := w.slot + 1, next := w.next + 1, resume := w.slot + 1 }
      else if optional then run slots input { w with slot := w.slot + 1 }
      else run slots input { w with next := w.next + 1 } := by
  obtain ⟨within, -⟩ := List.getElem?_eq_some_iff.mp here
  obtain ⟨ahead, -⟩ := List.getElem?_eq_some_iff.mp given
  rw [run, dif_pos within, here, succ?_eq (a := w.slot) (by omega), succ?_eq (by omega)]
  simp only [Option.bind_eq_bind, Option.bind_some]
  split
  next none => exact absurd (given.symm.trans none) (Option.some_ne_none c)
  next d given' =>
    obtain rfl : c = d := Option.some.inj (given.symm.trans given')
    rfl

end Steps

/-! ### The whole loop -/

/-- What the loop adds to the state `w` when it places the cells `placed`: the literals held back are
shown in front of them. -/
structure Adds (w w' : State) (placed : List Cell) : Prop where
  cells : w'.cells = w.cells ++ if placed = [] then [] else w.pending ++ placed
  values : w'.values
    = w.values ++ placed.findIdxs Cell.isValue (w.cells.length + w.pending.length)
  resume : w'.resume = if placed = [] then w.resume else Layout.resume placed
  /-- Every placed character has been read. -/
  read : w.values.length ≤ w.next → w'.values.length ≤ w'.next

lemma getElem?_of_zipIdx_drop_eq_cons {α : Type} {xs : List α} {n i : ℕ} {x : α}
    {rest : List (α × ℕ)} (h : (xs.drop n).zipIdx n = (x, i) :: rest) :
    xs[n]? = some x ∧ i = n ∧ (xs.drop (n + 1)).zipIdx (n + 1) = rest := by
  cases front : xs.drop n with
  | nil => simp [front] at h
  | cons y ys =>
      obtain ⟨here, behind⟩ := getElem?_of_drop_eq_cons front
      rw [front, List.zipIdx_cons, List.cons.injEq, Prod.mk.injEq] at h
      obtain ⟨⟨rfl, rfl⟩, rfl⟩ := h
      rw [here, behind]
      exact ⟨rfl, rfl, rfl⟩

open Layout in
/-- **The loop meets no fault**, and it places what the walk over the remaining slots and the
remaining input places.  The induction is on that walk: one turn of the loop is one of its steps. -/
theorem run_eq (room : slots.length + input.length < 2 ^ 63) {rest : List Slot} {k : ℕ}
    {ahead : List (Char × ℕ)} {placed : List Cell} (h : Placement rest k ahead placed)
    (slotsAhead : slots.drop w.slot = rest) (slot : w.slot = k)
    (inputAhead : (input.drop w.next).zipIdx w.next = ahead) :
    ∃ w', run slots input w = some w' ∧ w.Adds w' placed := by
  induction h generalizing w with
  | endOfMask k ahead =>
      refine ⟨w, run_of_le (List.drop_eq_nil_iff.mp slotsAhead), ?_⟩
      exact ⟨by simp, by simp, by simp, id⟩
  | endOfInput kind optional rest k =>
      obtain ⟨here, -⟩ := getElem?_of_drop_eq_cons slotsAhead
      have ended : input[w.next]? = none := by
        rw [List.zipIdx_eq_nil_iff, List.drop_eq_nil_iff] at inputAhead
        exact List.getElem?_eq_none inputAhead
      refine ⟨w, run_endOfInput here ended, ?_⟩
      exact ⟨by simp, by simp, by simp, id⟩
  | hides l h ih =>
      -- Nothing is placed behind this literal: it is held back and never shown.
      obtain ⟨here, behind⟩ := getElem?_of_drop_eq_cons slotsAhead
      obtain ⟨w', ran, adds⟩ := ih (w := { w with
        pending := w.pending ++ [⟨l, w.slot, none⟩], slot := w.slot + 1 }) behind
        (congrArg (· + 1) slot) inputAhead
      refine ⟨w', (run_literal room here).trans ran, ?_⟩
      exact ⟨adds.cells, adds.values, adds.resume, adds.read⟩
  | shows l h ih =>
      -- The loop holds the literal back until the next character is placed; `placed` has it already.
      obtain ⟨here, behind⟩ := getElem?_of_drop_eq_cons slotsAhead
      obtain ⟨w', ran, adds⟩ := ih (w := { w with
        pending := w.pending ++ [⟨l, w.slot, none⟩], slot := w.slot + 1 }) behind
        (congrArg (· + 1) slot) inputAhead
      subst slot
      refine ⟨w', (run_literal room here).trans ran, ?_, ?_, ?_, adds.read⟩
      · simpa using adds.cells
      · simpa [Cell.isValue, Nat.add_assoc] using adds.values
      · simpa using adds.resume
  | @takes kind optional rest k c i ahead placed fits h ih =>
      obtain ⟨here, behind⟩ := getElem?_of_drop_eq_cons slotsAhead
      obtain ⟨given, rfl, later⟩ := getElem?_of_zipIdx_drop_eq_cons inputAhead
      have ran := run_value room here given
      rw [if_pos fits] at ran
      obtain ⟨w', ran', adds⟩ := ih (w := {
          cells := w.cells ++ w.pending ++ [⟨c, w.slot, some w.next⟩]
          values := w.values ++ [(w.cells ++ w.pending).length]
          slot := w.slot + 1, next := w.next + 1, resume := w.slot + 1 }) behind
        (congrArg (· + 1) slot) later
      subst slot
      refine ⟨w', ran.trans ran', ?_, ?_, ?_, ?_⟩
      · rw [adds.cells]
        cases placed <;> simp
      · rw [adds.values]
        simp [Cell.isValue, Nat.add_assoc]
      · rw [adds.resume]
        cases placed <;> simp
      · exact fun le => adds.read (by simpa using le)
  | skips misfits h ih =>
      obtain ⟨here, behind⟩ := getElem?_of_drop_eq_cons slotsAhead
      obtain ⟨given, rfl, -⟩ := getElem?_of_zipIdx_drop_eq_cons inputAhead
      have ran := run_value room here given
      rw [if_neg (by simp [misfits]), if_pos rfl] at ran
      obtain ⟨w', ran', adds⟩ := ih (w := { w with slot := w.slot + 1 }) behind
        (congrArg (· + 1) slot) inputAhead
      exact ⟨w', ran.trans ran', adds.cells, adds.values, adds.resume, adds.read⟩
  | drops i misfits h ih =>
      obtain ⟨here, -⟩ := getElem?_of_drop_eq_cons slotsAhead
      obtain ⟨given, rfl, later⟩ := getElem?_of_zipIdx_drop_eq_cons inputAhead
      have ran := run_value room here given
      rw [if_neg (by simp [misfits]), if_neg (by simp)] at ran
      obtain ⟨w', ran', adds⟩ := ih (w := { w with next := w.next + 1 }) slotsAhead slot later
      exact ⟨w', ran.trans ran', adds.cells, adds.values, adds.resume,
        fun le => adds.read (Nat.le_succ_of_le le)⟩

end State

/-! ## The walk from the left -/

/-- The literals at slot `slot` and behind it, shown behind the given cells; with the slot at which
they end. -/
def showRun? (slots : List Slot) (slot : ℕ) (cells : List Cell) : Option (List Cell × ℕ) :=
  match _here : slots[slot]? with
  | some (.literal l) => do
    let ⟨next, _⟩ ← succ? slot
    showRun? slots next (cells ++ [⟨l, slot, none⟩])
  | _ => return (cells, slot)
termination_by slots.length - slot
decreasing_by
  obtain ⟨within, -⟩ := List.getElem?_eq_some_iff.mp _here
  omega

/-- Whether the tail is shown behind the value cells at the given positions. -/
def showsTail : Tail → (values : List ℕ) → Bool
  | .hidden, _ => false
  | .afterValue, values => !values.isEmpty
  | .eager, _ => true

/-- The cells behind a finished loop, with the tail if it is shown, and the slot behind them. -/
def State.showTail? (slots : List Slot) (tail : Tail) (w : State) : Option (List Cell × ℕ) :=
  if showsTail tail w.values then showRun? slots w.resume w.cells else some (w.cells, w.resume)

/-- **The walk over slots that are filled from the left.** -/
def forward? (slots : List Slot) (tail : Tail) (input : List Char) : Option Walk :=
  if slots.all Slot.isLiteral then some ⟨Layout.literalRun slots 0, [], true⟩
  else do
    let w ← State.run slots input {}
    let (cells, slot) ← w.showTail? slots tail
    let rest ← slice? slots slot slots.length
    -- How many characters were dropped is reported, though it does not change the layout.
    let _ ← sub? w.next w.values.length
    return ⟨cells, w.values, rest.all (!·.isMandatory)⟩

section Forward

variable {slots : List Slot} {tail : Tail} {input : List Char}

open Layout

lemma showRun?_eq (room : slots.length < 2 ^ 63) {rest : List Slot} {slot : ℕ}
    (slotsAhead : slots.drop slot = rest) (cells : List Cell) :
    showRun? slots slot cells
      = some (cells ++ literalRun rest slot, slot + (literalRun rest slot).length) := by
  induction rest generalizing slot cells with
  | nil =>
      have ended := List.getElem?_eq_none (List.drop_eq_nil_iff.mp slotsAhead)
      rw [showRun?]
      split
      next l here => exact absurd (here.symm.trans ended) (by simp)
      next => simp [literalRun]
  | cons s rest ih =>
      obtain ⟨here, behind⟩ := getElem?_of_drop_eq_cons slotsAhead
      obtain ⟨within, -⟩ := List.getElem?_eq_some_iff.mp here
      cases s with
      | literal l =>
          rw [showRun?, succ?_eq (by omega)]
          split
          next l' here' =>
            obtain rfl : l = l' := by simpa [here'] using here.symm
            simp only [Option.bind_eq_bind, Option.bind_some, ih behind, literalRun,
              List.length_cons, List.append_assoc, List.singleton_append]
            rw [Nat.add_assoc, Nat.add_comm 1]
          next other => exact absurd here (other l)
      | value kind optional =>
          rw [showRun?]
          split
          next l' here' => exact absurd (here'.symm.trans here) (by simp)
          next => simp [literalRun]

/-- The cells of the tail. -/
def tailRun (slots : List Slot) (tail : Tail) (input : List Char) : List Cell :=
  if tail.shownAfter (place slots 0 input.zipIdx)
  then literalRun (slots.drop (reach slots input)) (reach slots input) else []

lemma isValue_of_mem_tailRun : ∀ c ∈ tailRun slots tail input, c.isValue = false := by
  rw [tailRun]
  split_ifs
  · exact isValue_of_mem_literalRun _ _
  · simp

lemma reach_add_length_tailRun_le :
    reach slots input + (tailRun slots tail input).length ≤ slots.length := by
  have reached := reach_le slots input
  have within := length_literalRun_le (slots.drop (reach slots input)) (reach slots input)
  rw [List.length_drop] at within
  rw [tailRun]
  split_ifs
  · omega
  · simpa using reached

lemma all_drop_literalRun (rest : List Slot) (k : ℕ) :
    (rest.drop (literalRun rest k).length).all (!·.isMandatory) = rest.all (!·.isMandatory) := by
  fun_induction literalRun rest k with
  | case1 l rest k ih => simpa [Slot.isMandatory] using ih
  | case2 => rfl

/-- The tail leaves no mandatory slot behind. -/
lemma all_drop_tailRun :
    (slots.drop (reach slots input + (tailRun slots tail input).length)).all (!·.isMandatory)
      = (slots.drop (reach slots input)).all (!·.isMandatory) := by
  rw [← List.drop_drop, tailRun]
  split_ifs
  · exact all_drop_literalRun _ _
  · rfl

/-- Something is placed exactly when a value cell is. -/
lemma showsTail_placed {ahead : List (Char × ℕ)} {placed : List Cell}
    (h : Placement slots 0 ahead placed) :
    showsTail tail (placed.findIdxs Cell.isValue) = tail.shownAfter placed := by
  cases tail with
  | hidden => rfl
  | eager => rfl
  | afterValue =>
      cases placed with
      | nil => rfl
      | cons d cells =>
          have last := h.isValue_of_getLast? _ (List.getLast?_eq_some_getLast (List.cons_ne_nil d cells))
          have some : (d :: cells).findIdxs Cell.isValue ≠ [] := by
            intro none
            have := List.findIdxs_eq_nil_iff.mp none _ (List.getLast_mem (List.cons_ne_nil d cells))
            simp_all
          rw [showsTail, List.isEmpty_eq_false_iff.mpr some]
          rfl

lemma showTail?_eq {w : State} (room : slots.length < 2 ^ 63)
    (adds : State.Adds {} w (place slots 0 input.zipIdx)) :
    w.showTail? slots tail = some (w.cells ++ tailRun slots tail input,
      reach slots input + (tailRun slots tail input).length) := by
  have values : w.values = (place slots 0 input.zipIdx).findIdxs Cell.isValue := by
    simpa using adds.values
  have resumed : w.resume = reach slots input := by
    rw [adds.resume, reach]
    split_ifs with none <;> simp [none]
  rw [State.showTail?, values, showsTail_placed (placement_place slots 0 input.zipIdx), resumed,
    tailRun]
  split_ifs
  · exact showRun?_eq room rfl w.cells
  · simp

/-- **The walk from the left meets no fault**, and it ends with the layout. -/
theorem forward?_eq (room : slots.length + input.length < 2 ^ 63) :
    forward? slots tail input = some (forward slots tail input).indexed := by
  by_cases literals : slots.all Slot.isLiteral = true
  · rw [forward?, forward, if_pos literals, if_pos literals, indexed,
      List.findIdxs_eq_nil_iff.mpr (isValue_of_mem_literalRun slots 0)]
  · obtain ⟨w, ran, adds⟩ :=
      State.run_eq (w := {}) room (placement_place slots 0 input.zipIdx) rfl rfl (by simp)
    have placed : w.cells = place slots 0 input.zipIdx := by
      rw [adds.cells]
      split_ifs with none <;> simp [none]
    have values : w.values = (place slots 0 input.zipIdx).findIdxs Cell.isValue := by
      simpa using adds.values
    have cells : (forward slots tail input).cells = w.cells ++ tailRun slots tail input := by
      rw [cells_forward_of_value _ _ _ (by simpa using literals), placed, tailRun]
    rw [forward?, if_neg literals, ran, indexed, cells, complete_forward, List.findIdxs_append,
      List.findIdxs_eq_nil_iff.mpr isValue_of_mem_tailRun, List.append_nil, placed, ← values]
    simp only [Option.bind_eq_bind, Option.bind_some, showTail?_eq (by omega) adds,
      slice?_back reach_add_length_tailRun_le, sub?_eq (adds.read (le_refl _)), all_drop_tailRun,
      placed]
    rfl

end Forward

/-! ## The walk turned round -/

/-- **A walk read from its other end**, for a mask of `slotCount` slots and an input of `inputLength`
characters. -/
def reversed? (w : Walk) (slotCount inputLength : ℕ) : Option Walk := do
  let cells ← w.cells.reverse.mapM fun c => do
    let slot ← mirror? slotCount c.slot
    let source ← c.source.mapM (mirror? inputLength)
    return { c with slot, source }
  let values ← w.values.reverse.mapM (sub? (w.cells.length - 1))
  return ⟨cells, values, w.complete⟩

/-- Positions in a reversed list are counted from its other end. -/
lemma findIdxs_reverse {α : Type} (p : α → Bool) (xs : List α) :
    xs.reverse.findIdxs p = (xs.findIdxs p).reverse.map (xs.length - 1 - ·) := by
  induction xs with
  | nil => rfl
  | cons x xs ih =>
      have shift : (xs.findIdxs p 1).reverse.map (xs.length - ·)
          = (xs.findIdxs p).reverse.map (xs.length - 1 - ·) := by
        rw [List.findIdxs_start, ← List.map_reverse, List.map_map]
        refine List.map_congr_left fun i _ => ?_
        simp only [Function.comp_apply]
        omega
      rw [List.reverse_cons, List.findIdxs_append, ih, ← shift]
      cases fits : p x <;> simp [fits]

open Layout in
/-- **Turning a layout round meets no fault** if its cells lie within the mask and the input. -/
lemma reversed?_eq {l : Layout} {n k : ℕ} (slots : ∀ c ∈ l.cells, c.slot < n)
    (sources : ∀ c ∈ l.cells, ∀ i, c.source = some i → i < k) :
    l.indexed.reversed? n k = some (l.reversed n k).indexed := by
  have cells : ∀ c ∈ l.cells.reverse, (do
      let slot ← mirror? n c.slot
      let source ← c.source.mapM (mirror? k)
      return { c with slot, source : Cell })
      = some { c with slot := n - 1 - c.slot, source := c.source.map (k - 1 - ·) } := by
    intro c hc
    have within := List.mem_reverse.mp hc
    rw [mirror?_eq (slots c within)]
    cases source : c.source with
    | none => rfl
    | some i => simp [mirror?_eq (sources c within i source)]
  have values : ∀ i ∈ (l.cells.findIdxs Cell.isValue).reverse,
      sub? (l.cells.length - 1) i = some (l.cells.length - 1 - i) := by
    intro i hi
    have := List.lt_add_of_mem_findIdxs i (List.mem_reverse.mp hi)
    exact sub?_eq (by omega)
  have marks : Cell.isValue ∘ (fun c : Cell => { c with
      slot := n - 1 - c.slot, source := c.source.map (k - 1 - ·) }) = Cell.isValue := by
    funext c
    simp [Cell.isValue]
  rw [reversed?, indexed, mapM_eq_some cells, mapM_eq_some values, ← findIdxs_reverse, indexed,
    Layout.reversed, List.findIdxs_map, marks]
  rfl

end Walk

namespace Mask

/-- The walk of an input over a mask. -/
def walk? (m : Mask) (tail : Tail) (input : List Char) : Option Walk :=
  if m.rightToLeft then do
    let w ← Walk.forward? m.reversed.slots (m.tailPolicy tail) input.reverse
    w.reversed? m.slots.length input.length
  else Walk.forward? m.slots (m.tailPolicy tail) input

variable {m : Mask} {tail : Tail} {input : List Char}

/-- **The walk over a mask meets no fault**, and it ends with the layout. -/
theorem walk?_eq (room : m.slots.length + input.length < 2 ^ 63) :
    m.walk? tail input = some (m.layout tail input).indexed := by
  rw [walk?, layout]
  split_ifs
  · have turned : m.reversed.slots.length = m.slots.length := List.length_reverse
    have within := Layout.cell_within_forward m.reversed.slots (m.tailPolicy tail) input.reverse
    simp only [turned, List.length_reverse] at within
    rw [Walk.forward?_eq (by rwa [turned, List.length_reverse])]
    exact Walk.reversed?_eq (fun c hc => (within c hc).1) fun c hc => (within c hc).2
  · exact Walk.forward?_eq room

end Mask

end MaskedInput
