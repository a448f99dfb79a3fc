import MaskedInput.Proofs.Bounds.Walk

/-!
# Positions read off a walk

A layout answers questions about positions by counting cells.  A walk answers them from the positions
of its value cells, which index the cells, and each index and each sum can be a fault.

* `Walk.value?`, `Walk.slotAt?`, `Walk.valueBeforeLiterals?`, `Walk.valuesBefore` — positions in the
  text turned into positions in the value and in the mask.
* `Walk.caret?` — a boundary of the input turned into a position of the text, which has to lie within
  the text; `Walk.display?` — what is displayed.
* **`Walk.display?_indexed`** — on the walk of a layout there is no fault, and the answers are those
  of the layout.
-/

namespace MaskedInput

open Checked

namespace Walk

/-- The cells that show typed characters. -/
def valueCells? (w : Walk) : Option (List Cell) := w.values.mapM (w.cells[·]?)

/-- The typed characters that are shown. -/
def value? (w : Walk) : Option (List Char) := do
  let shown ← w.valueCells?
  return shown.map (·.char)

/-- How many typed characters stand in front of a position of the text. -/
def valuesBefore (w : Walk) (position : ℕ) : ℕ := (w.values.takeWhile (· < position)).length

/-- The slot at a position of the text; at its end, the slot behind the last cell. -/
def slotAt? (w : Walk) (position : ℕ) : Option ℕ :=
  match w.cells[position]? with
  | some c => some c.slot
  | none =>
    match w.cells.getLast? with
    | some c => add? c.slot 1
    | none => some 0

/-- For the position of a literal, that of the typed character in front of its run. -/
def valueBeforeLiterals? (w : Walk) (position : ℕ) : Option (Option ℕ) :=
  match w.cells[position]? with
  | none => some none
  | some c =>
    if c.isValue then some none
    else do
      let front ← slice? w.cells 0 position
      return Layout.lastValue? front

/-- **The position of a boundary of the input.** -/
def caret? (w : Walk) (intent : ℕ) (gravity : Gravity) : Option ℕ := do
  let shown ← w.valueCells?
  let placed := (shown.takeWhile fun c => c.source.any (· < intent)).length
  match gravity with
  | .forward => return w.values[placed]?.getD w.cells.length
  | .backward =>
    if placed = 0 then return w.values.head?.getD 0
    else
      let last ← sub? placed 1
      let position ← w.values[last]?
      add? position 1

/-- What is displayed when the caret belongs at a boundary of the input.  A caret behind the end of
the text is a fault. -/
def display? (w : Walk) (intent : ℕ) (gravity : Gravity) : Option Display := do
  let caret ← w.caret? intent gravity
  let value ← w.value?
  if caret ≤ w.cells.length then return ⟨w.cells.map (·.char), value, caret, w.complete⟩ else none

/-! ## The positions of some entries of a list -/

section Positions

variable {α : Type} (p : α → Bool) (xs : List α)

/-- The positions in a list are those in its front and, behind them, those in its rest. -/
lemma findIdxs_take_drop (n : ℕ) :
    xs.findIdxs p = (xs.take n).findIdxs p ++ (xs.drop n).findIdxs p n := by
  rcases Nat.le_total n xs.length with le | ge
  · conv_lhs => rw [← List.take_append_drop n xs]
    rw [List.findIdxs_append, List.length_take_of_le le, Nat.zero_add]
  · rw [List.take_of_length_le ge, List.drop_of_length_le ge, List.findIdxs_nil, List.append_nil]

/-- A position is in front of `n` exactly when it is in the front of length `n`. -/
lemma takeWhile_findIdxs (n : ℕ) :
    (xs.findIdxs p).takeWhile (· < n) = (xs.take n).findIdxs p := by
  have front : ∀ i ∈ (xs.take n).findIdxs p, decide (i < n) = true := by
    intro i hi
    have := List.lt_add_of_mem_findIdxs i hi
    rw [List.length_take] at this
    simp only [decide_eq_true_eq]
    omega
  have behind : ((xs.drop n).findIdxs p n).takeWhile (· < n) = [] := by
    cases later : (xs.drop n).findIdxs p n with
    | nil => rfl
    | cons i is =>
        have le : n ≤ i := List.ge_of_mem_findIdxs i (later ▸ List.mem_cons_self)
        exact List.takeWhile_cons_of_neg (by simpa using le)
  rw [findIdxs_take_drop p xs n, List.takeWhile_append_of_pos front, behind, List.append_nil]

/-- The entries at the positions are the entries themselves. -/
lemma mapM_getElem?_findIdxs :
    (xs.findIdxs p).mapM (xs[·]?) = some (xs.filter p) := by
  have within (front : List α) :
      (xs.findIdxs p front.length).mapM ((front ++ xs)[·]?) = some (xs.filter p) := by
    induction xs generalizing front with
    | nil => rfl
    | cons x xs ih =>
        have later := ih (front ++ [x])
        rw [List.length_append, List.append_assoc] at later
        rw [List.findIdxs_cons, List.filter_cons]
        split_ifs
        · rw [List.mapM_cons]
          simp_all
        · exact later
  exact within []

end Positions

/-- The last typed character is the one at the last position. -/
lemma getLast?_findIdxs (cells : List Cell) (k : ℕ) :
    (cells.findIdxs Cell.isValue k).getLast? = (Layout.lastValue? cells).map (k + ·) := by
  induction cells generalizing k with
  | nil => rfl
  | cons c cells ih =>
      rw [Layout.lastValue?, List.findIdxs_cons]
      cases last : Layout.lastValue? cells with
      | none =>
          have none : cells.findIdxs Cell.isValue (k + 1) = [] := by
            simpa [last] using ih (k + 1)
          rw [none]
          split_ifs <;> rfl
      | some i =>
          have later : (cells.findIdxs Cell.isValue (k + 1)).getLast? = some (k + 1 + i) := by
            simpa [last] using ih (k + 1)
          have sum : k + 1 + i = k + (i + 1) := by omega
          split_ifs
          · rw [List.getLast?_cons, later]
            simpa using sum
          · rw [later, sum]
            rfl

/-! ## The walk of a layout -/

section Indexed

variable (l : Layout)

lemma valueCells?_indexed : l.indexed.valueCells? = some l.valueCells :=
  mapM_getElem?_findIdxs Cell.isValue l.cells

lemma value?_indexed : l.indexed.value? = some l.value := by
  rw [value?, valueCells?_indexed]
  rfl

lemma valuesBefore_indexed (position : ℕ) :
    l.indexed.valuesBefore position = l.valuesBefore position := by
  rw [valuesBefore, Layout.indexed, takeWhile_findIdxs, List.length_findIdxs, Layout.valuesBefore]

lemma slotAt?_indexed {n : ℕ} (slots : ∀ c ∈ l.cells, c.slot < n) (room : n < 2 ^ 63)
    (position : ℕ) : l.indexed.slotAt? position = some (l.slotAt position) := by
  rw [slotAt?, Layout.indexed, Layout.slotAt, Layout.cellSlot?, Layout.resume]
  cases l.cells[position]? with
  | some c => rfl
  | none =>
      cases last : l.cells.getLast? with
      | none => rfl
      | some c =>
          have := slots c (List.mem_of_getLast? last)
          exact add?_eq (by omega)

lemma valueBeforeLiterals?_indexed (position : ℕ) :
    l.indexed.valueBeforeLiterals? position = some (l.valueBeforeLiterals? position) := by
  rw [valueBeforeLiterals?, Layout.indexed, Layout.valueBeforeLiterals?]
  cases here : l.cells[position]? with
  | none => rfl
  | some c =>
      obtain ⟨within, -⟩ := List.getElem?_eq_some_iff.mp here
      simp only [slice?_front within.le]
      split_ifs <;> rfl

/-- Up to the forward caret, the walk has counted the value cells. -/
lemma length_takeWhile_sources (cells : List Cell) (intent : ℕ) :
    ((cells.filter Cell.isValue).takeWhile fun c => c.source.any (· < intent)).length
      = (cells.take (cells.findIdx fun c => c.source.any (intent ≤ ·))).countP Cell.isValue := by
  induction cells with
  | nil => rfl
  | cons c cells ih =>
      cases source : c.source with
      | none => simp [List.findIdx_cons, source, Cell.isValue, ih]
      | some i =>
          by_cases front : i < intent
          · have : ¬ intent ≤ i := by omega
            simp [List.findIdx_cons, source, Cell.isValue, ih, front, this]
          · have : intent ≤ i := by omega
            simp [List.findIdx_cons, source, Cell.isValue, front, this]

/-- The positions of the value cells, those in front of the forward caret first. -/
lemma values_split (intent : ℕ) :
    l.indexed.values = (l.cells.take (l.caretForward intent)).findIdxs Cell.isValue
      ++ (l.cells.drop (l.caretForward intent)).findIdxs Cell.isValue (l.caretForward intent) :=
  findIdxs_take_drop Cell.isValue l.cells (l.caretForward intent)

/-- The first value cell behind the forward caret is the one it stands at. -/
lemma head?_values_behind (intent : ℕ) :
    (((l.cells.drop (l.caretForward intent)).findIdxs Cell.isValue (l.caretForward intent)).head?).getD
      l.cells.length = l.caretForward intent := by
  rcases l.caretForward_rests intent with atEnd | ⟨c, here, value⟩
  · rw [atEnd, List.drop_length]
    rfl
  · obtain ⟨within, rfl⟩ := List.getElem?_eq_some_iff.mp here
    rw [List.drop_eq_getElem_cons within, List.findIdxs_cons, if_pos value]
    rfl

lemma caretForward_indexed (intent : ℕ) :
    l.indexed.values[((l.cells.take (l.caretForward intent)).findIdxs Cell.isValue).length]?.getD
      l.cells.length = l.caretForward intent := by
  rw [values_split l intent, List.getElem?_append_right (le_refl _), Nat.sub_self,
    ← List.head?_eq_getElem?]
  exact head?_values_behind l intent

/-- Where no typed character is in front of the forward caret, the backward caret stands at the first
one. -/
lemma caretBackward_of_nil {intent : ℕ}
    (nothing : (l.cells.take (l.caretForward intent)).findIdxs Cell.isValue = []) :
    l.indexed.values.head?.getD 0 = l.caretBackward intent := by
  have last : Layout.lastValue? (l.cells.take (l.caretForward intent)) = none := by
    simpa [nothing] using (getLast?_findIdxs (l.cells.take (l.caretForward intent)) 0).symm
  have values := values_split l intent
  rw [nothing, List.nil_append] at values
  have behind := head?_values_behind l intent
  rw [← values] at behind
  rw [Layout.caretBackward, last]
  cases typed : l.indexed.values with
  | nil =>
      have untyped := List.findIdxs_eq_nil_iff.mp typed
      simp only [List.head?_nil, Option.getD_none]
      rw [if_neg (by simpa using untyped)]
  | cons i is =>
      rw [typed] at behind
      have some : ¬ ∀ c ∈ l.cells, c.isValue = false := by
        intro untyped
        exact absurd ((List.findIdxs_eq_nil_iff.mpr untyped).symm.trans typed) (by simp)
      simp only [List.head?_cons, Option.getD_some] at behind ⊢
      rw [if_pos (by simpa using some), behind]

/-- Otherwise it stands behind the last one in front of the forward caret. -/
lemma caretBackward_of_cons {intent i : ℕ}
    (last : ((l.cells.take (l.caretForward intent)).findIdxs Cell.isValue).getLast? = some i) :
    i < l.cells.length ∧ l.caretBackward intent = i + 1 := by
  have front := List.lt_add_of_mem_findIdxs i (List.mem_of_getLast? last)
  rw [List.length_take] at front
  rw [getLast?_findIdxs, Option.map_eq_some_iff] at last
  obtain ⟨j, last, rfl⟩ := last
  rw [Layout.caretBackward, last]
  exact ⟨by omega, by simp⟩

/-- **The caret of a walk is that of its layout**, and there is no fault on the way to it. -/
theorem caret?_indexed (room : l.cells.length < 2 ^ 63) (intent : ℕ) (gravity : Gravity) :
    l.indexed.caret? intent gravity = some (l.caret intent gravity) := by
  have placed : (l.valueCells.takeWhile fun c => c.source.any (· < intent)).length
      = ((l.cells.take (l.caretForward intent)).findIdxs Cell.isValue).length := by
    rw [List.length_findIdxs]
    exact length_takeWhile_sources l.cells intent
  simp only [caret?, valueCells?_indexed, Option.bind_eq_bind, Option.bind_some, placed]
  cases gravity with
  | forward => exact congrArg some (caretForward_indexed l intent)
  | backward =>
      cases last : ((l.cells.take (l.caretForward intent)).findIdxs Cell.isValue).getLast? with
      | none =>
          have nothing := List.getLast?_eq_none_iff.mp last
          rw [nothing]
          exact congrArg some (caretBackward_of_nil l nothing)
      | some i =>
          obtain ⟨within, caret⟩ := caretBackward_of_cons l last
          have some : 1 ≤ ((l.cells.take (l.caretForward intent)).findIdxs Cell.isValue).length :=
            List.length_pos_of_mem (List.mem_of_getLast? last)
          rw [List.getLast?_eq_getElem?] at last
          dsimp only
          rw [if_neg (by omega), sub?_eq some, Option.bind_some, values_split l intent,
            List.getElem?_append_left (by omega), last, Option.bind_some, add?_eq (by omega)]
          exact congrArg Option.some caret.symm

/-- **What a walk displays is what its layout displays.**  The caret lies within the text. -/
theorem display?_indexed (room : l.cells.length < 2 ^ 63) (intent : ℕ) (gravity : Gravity) :
    l.indexed.display? intent gravity = some (l.display intent gravity) := by
  have within : l.caret intent gravity ≤ l.cells.length := by
    cases gravity with
    | forward => exact l.caretForward_le intent
    | backward => exact (l.caretBackward_le_caretForward intent).trans (l.caretForward_le intent)
  simp only [display?, caret?_indexed l room, value?_indexed, Option.bind_eq_bind, Option.bind_some]
  rw [Layout.indexed, if_pos within]
  rfl

end Indexed

end Walk

end MaskedInput
