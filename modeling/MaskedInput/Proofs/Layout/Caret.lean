import Mathlib.Order.Monotone.Basic
import MaskedInput.Proofs.Layout.Relayout

/-!
# The caret

A boundary of the input becomes a position of the text.  Three counts meet here: positions in the
input, typed characters, and cells of the text.  What ties them together is that the typed
characters stand in the order in which the input holds them.

* `Layout.Ordered` — this order; `Mask.layout_ordered` says that every layout has it, also one that
  was turned round.
* `Mask.getElem?_source` — a typed character is the one that the input holds at its source.
* `Layout.CaretFits` — what a caret is for: it stands in the text, behind as many typed characters
  as the boundary has in front of it, and it comes to rest beside a typed character.
* **`Mask.layout_caretFits`** — the carets of every layout do this, for boundaries of any size.
-/

namespace MaskedInput

namespace Layout

/-! ## The order of the typed characters -/

/-- The typed characters stand in the order in which the input holds them. -/
def Ordered (l : Layout) : Prop := (l.cells.filterMap Cell.source).Pairwise (· < ·)

lemma sources_taken (cells : List Cell) :
    (taken cells).map Prod.snd = cells.filterMap Cell.source := by
  induction cells with
  | nil => rfl
  | cons cell cells ih =>
      obtain ⟨c, k, source⟩ := cell
      cases source with
      | none => exact ih
      | some i => simp [ih]

lemma taken_literalRun (slots : List Slot) (k : ℕ) : taken (literalRun slots k) = [] := by
  fun_induction literalRun slots k with
  | case1 k c slots ih => exact ih
  | case2 => rfl

lemma taken_forward_sublist (slots : List Slot) (tail : Tail) (input : List Char) :
    (taken (forward slots tail input).cells).Sublist input.zipIdx := by
  rw [forward]
  split_ifs with literals
  · simp only [taken_literalRun]
    exact List.nil_sublist _
  · have placed := (placement_place slots 0 input.zipIdx).taken_sublist
    rw [taken, List.filterMap_append, ← taken, ← taken]
    split_ifs
    · rw [taken_literalRun, List.append_nil]
      exact placed
    · rw [taken_nil, List.append_nil]
      exact placed

lemma sources_forward (slots : List Slot) (tail : Tail) (input : List Char) :
    ((forward slots tail input).cells.filterMap Cell.source).Sublist (List.range input.length) := by
  have sub := (taken_forward_sublist slots tail input).map Prod.snd
  rw [sources_taken, List.zipIdx_map_snd, ← List.range_eq_range'] at sub
  exact sub

lemma getElem?_source_forward (slots : List Slot) (tail : Tail) (input : List Char) :
    ∀ c ∈ (forward slots tail input).cells, ∀ i, c.source = some i → input[i]? = some c.char := by
  intro c hc i hi
  have mem : (c.char, i) ∈ taken (forward slots tail input).cells :=
    List.mem_filterMap.mpr ⟨c, hc, by rw [hi]; rfl⟩
  exact List.mem_zipIdx_iff_getElem?.mp ((taken_forward_sublist slots tail input).subset mem)

/-- Read from the other end, the order is the same if the positions are counted from there. -/
lemma Ordered.reversed {l : Layout} (h : l.Ordered) (n : ℕ) {k : ℕ}
    (below : ∀ i ∈ l.cells.filterMap Cell.source, i < k) : (l.reversed n k).Ordered := by
  have sources : (l.reversed n k).cells.filterMap Cell.source
      = ((l.cells.filterMap Cell.source).map (k - 1 - ·)).reverse := by
    rw [Layout.reversed, List.filterMap_map, List.filterMap_reverse, List.map_filterMap]
    rfl
  rw [Ordered, sources, List.pairwise_reverse, List.pairwise_map]
  refine h.imp_of_mem ?_
  intro i j hi hj hlt
  have := below i hi
  have := below j hj
  omega

end Layout

/-- **Typed characters keep their order.** -/
theorem Mask.layout_ordered (m : Mask) (tail : Tail) (input : List Char) :
    (m.layout tail input).Ordered := by
  have sub := Layout.sources_forward (m.inReading m.slots) (m.tailPolicy tail) (m.inReading input)
  have ordered : (m.readLayout tail input).Ordered := List.pairwise_lt_range.sublist sub
  rw [m.layout_eq_readLayout]
  split_ifs
  · refine ordered.reversed _ fun i hi => ?_
    simpa using sub.subset hi
  · exact ordered

/-- **A typed character is the one that the input holds at its source.** -/
theorem Mask.getElem?_source (m : Mask) (tail : Tail) (input : List Char) :
    ∀ c ∈ (m.layout tail input).cells, ∀ i, c.source = some i → input[i]? = some c.char := by
  have source := Layout.getElem?_source_forward (m.inReading m.slots) (m.tailPolicy tail)
    (m.inReading input)
  intro c hc i hi
  rw [m.layout_eq_readLayout] at hc
  split_ifs at hc with reading
  · obtain ⟨d, hd, rfl⟩ := List.mem_map.mp hc
    obtain ⟨j, hj, rfl⟩ := Option.map_eq_some_iff.mp hi
    have found := source d (List.mem_reverse.mp hd) j hj
    rw [inReading, if_pos reading] at found
    obtain ⟨below, -⟩ := List.getElem?_eq_some_iff.mp found
    rw [List.length_reverse] at below
    rw [List.getElem?_reverse below] at found
    exact found
  · have found := source c hc i hi
    rw [inReading, if_neg reading] at found
    exact found

namespace Layout

/-! ## The last typed character of some cells -/

lemma lastValue?_eq_none_iff {cells : List Cell} :
    lastValue? cells = none ↔ cells.countP Cell.isValue = 0 := by
  induction cells with
  | nil => simp [lastValue?]
  | cons c cells ih =>
      rw [lastValue?, List.countP_cons]
      cases h : lastValue? cells with
      | none => simp [ih.mp h]
      | some p =>
          have : cells.countP Cell.isValue ≠ 0 := fun zero => by simp [ih.mpr zero] at h
          simp only [reduceCtorEq, false_iff]
          omega

/-- The last typed character is one, and none stands behind it. -/
lemma lastValue?_eq_some {cells : List Cell} {p : ℕ} (h : lastValue? cells = some p) :
    (∃ c, cells[p]? = some c ∧ c.isValue = true)
      ∧ (cells.take (p + 1)).countP Cell.isValue = cells.countP Cell.isValue := by
  induction cells generalizing p with
  | nil => exact absurd h (by simp [lastValue?])
  | cons c cells ih =>
      rw [lastValue?] at h
      cases last : lastValue? cells with
      | none =>
          rw [last] at h
          split_ifs at h with value
          obtain rfl : 0 = p := by simpa using h
          refine ⟨⟨c, rfl, value⟩, ?_⟩
          simp [List.countP_cons, lastValue?_eq_none_iff.mp last]
      | some q =>
          rw [last] at h
          obtain rfl : q + 1 = p := by simpa using h
          obtain ⟨at_q, none_behind⟩ := ih last
          exact ⟨at_q, by rw [List.take_succ_cons, List.countP_cons, List.countP_cons, none_behind]⟩

lemma lt_length_of_lastValue? {cells : List Cell} {p : ℕ} (h : lastValue? cells = some p) :
    p < cells.length := by
  obtain ⟨c, hc, -⟩ := (lastValue?_eq_some h).1
  exact (List.getElem?_eq_some_iff.mp hc).1

/-- The typed character in front of a run of literals stands in front of all of them. -/
lemma lt_of_valueBeforeLiterals? {l : Layout} {position p : ℕ}
    (h : l.valueBeforeLiterals? position = some p) : p < position := by
  rw [valueBeforeLiterals?] at h
  split at h
  · exact absurd h (by simp)
  · split_ifs at h
    have front := lt_length_of_lastValue? h
    rw [List.length_take] at front
    omega

/-! ## Typed characters in front of a boundary -/

/-- How many typed characters the input holds in front of a boundary. -/
def placedBefore (l : Layout) (intent : ℕ) : ℕ :=
  l.valueCells.countP fun c => c.source.any (· < intent)

/-- A typed character stands at the position of the text. -/
def IsValueAt (l : Layout) (position : ℕ) : Prop :=
  ∃ c, l.cells[position]? = some c ∧ c.isValue = true

lemma placedBefore_eq (l : Layout) (intent : ℕ) :
    l.placedBefore intent = l.cells.countP fun c => c.source.any (· < intent) := by
  rw [placedBefore, valueCells, List.countP_filter]
  apply List.countP_congr
  intro c _
  cases h : c.source <;> simp [Cell.isValue, h]

/-- In front of the forward caret stand the typed characters that come from in front of the
boundary: by their order, the others all stand behind it. -/
lemma countP_take_findIdx {cells : List Cell}
    (ordered : (cells.filterMap Cell.source).Pairwise (· < ·)) (intent : ℕ) :
    (cells.take (cells.findIdx fun c => c.source.any (intent ≤ ·))).countP Cell.isValue
      = cells.countP fun c => c.source.any (· < intent) := by
  induction cells with
  | nil => rfl
  | cons c cells ih =>
      cases source : c.source with
      | none =>
          rw [List.filterMap_cons_none source] at ordered
          simp [List.findIdx_cons, source, Cell.isValue, ih ordered]
      | some i =>
          rw [List.filterMap_cons_some source, List.pairwise_cons] at ordered
          by_cases front : i < intent
          · have : ¬ intent ≤ i := by omega
            simp [List.findIdx_cons, source, Cell.isValue, ih ordered.2, front, this]
          · have behind : cells.countP (fun c => c.source.any (· < intent)) = 0 := by
              rw [List.countP_eq_zero]
              intro d hd before
              obtain ⟨j, hj, hlt⟩ := (Option.any_eq_true ..).mp before
              have := ordered.1 j (List.mem_filterMap.mpr ⟨d, hd, hj⟩)
              simp only [decide_eq_true_eq] at hlt
              omega
            have : intent ≤ i := by omega
            simp [List.findIdx_cons, source, behind, front, this]

variable {l : Layout}

/-! ## The two carets -/

lemma valuesBefore_caretForward (h : l.Ordered) (intent : ℕ) :
    l.valuesBefore (l.caretForward intent) = l.placedBefore intent := by
  rw [placedBefore_eq]
  exact countP_take_findIdx h intent

lemma caretForward_le (l : Layout) (intent : ℕ) : l.caretForward intent ≤ l.cells.length :=
  List.findIdx_le_length

lemma caretForward_rests (l : Layout) (intent : ℕ) :
    l.caretForward intent = l.cells.length ∨ l.IsValueAt (l.caretForward intent) := by
  rcases Nat.lt_or_eq_of_le (l.caretForward_le intent) with hlt | heq
  · have found := List.findIdx_getElem (w := hlt)
    obtain ⟨i, hi, -⟩ := (Option.any_eq_true ..).mp found
    refine Or.inr ⟨_, List.getElem?_eq_getElem hlt, ?_⟩
    exact Option.isSome_of_mem hi
  · exact Or.inl heq

lemma caretForward_mono (l : Layout) : Monotone l.caretForward := by
  intro intent intent' hle
  apply List.findIdx_le_findIdx
  intro c _ h
  obtain ⟨i, hi, hlt⟩ := (Option.any_eq_true ..).mp h
  simp only [decide_eq_true_eq] at hlt
  simp only [hi, Option.any_some, decide_eq_true_eq]
  omega

/-- Where the backward caret rests: behind the last typed character in front of the forward caret,
beside it if there is none, and at the start if nothing is typed at all. -/
lemma caretBackward_cases (l : Layout) (intent : ℕ) :
    (∃ p, lastValue? (l.cells.take (l.caretForward intent)) = some p
        ∧ l.caretBackward intent = p + 1)
      ∨ l.valuesBefore (l.caretForward intent) = 0
        ∧ (l.valueCells ≠ [] ∧ l.caretBackward intent = l.caretForward intent
          ∨ l.valueCells = [] ∧ l.caretBackward intent = 0) := by
  rw [caretBackward]
  cases last : lastValue? (l.cells.take (l.caretForward intent)) with
  | some p => exact Or.inl ⟨p, rfl, rfl⟩
  | none =>
      refine Or.inr ⟨lastValue?_eq_none_iff.mp last, ?_⟩
      by_cases typed : l.valueCells = []
      · refine Or.inr ⟨typed, if_neg ?_⟩
        simpa [valueCells, List.filter_eq_nil_iff] using typed
      · refine Or.inl ⟨typed, if_pos ?_⟩
        simpa [valueCells, List.filter_eq_nil_iff] using typed

lemma valuesBefore_mono (l : Layout) : Monotone l.valuesBefore := by
  intro p q hle
  exact (List.take_sublist_take_left hle).countP_le

lemma valuesBefore_length (l : Layout) : l.valuesBefore l.cells.length = l.valueCells.length := by
  rw [valuesBefore, List.take_length, List.countP_eq_length_filter, valueCells]

lemma length_valueCells (l : Layout) : l.valueCells.length = l.value.length :=
  (List.length_map _).symm

lemma valuesBefore_le_length (l : Layout) (p : ℕ) : l.valuesBefore p ≤ l.value.length := by
  rw [← length_valueCells, valueCells, ← List.countP_eq_length_filter]
  exact (List.take_sublist _ _).countP_le

lemma IsValueAt.valuesBefore_succ {p : ℕ} (h : l.IsValueAt p) :
    l.valuesBefore (p + 1) = l.valuesBefore p + 1 := by
  obtain ⟨c, hc, value⟩ := h
  obtain ⟨hlt, rfl⟩ := List.getElem?_eq_some_iff.mp hc
  rw [valuesBefore, List.take_succ_eq_append_getElem hlt, List.countP_append, valuesBefore]
  simp [value]

/-- A literal does not count. -/
lemma valuesBefore_succ_of_literal {p : ℕ} {c : Cell} (hc : l.cells[p]? = some c)
    (literal : ¬ c.isValue = true) : l.valuesBefore (p + 1) = l.valuesBefore p := by
  obtain ⟨hlt, rfl⟩ := List.getElem?_eq_some_iff.mp hc
  rw [valuesBefore, List.take_succ_eq_append_getElem hlt, List.countP_append, valuesBefore]
  simp [literal]

/-- Seen from a position of the text, the last typed character in front of it. -/
lemma lastValue?_take {position p : ℕ} (last : lastValue? (l.cells.take position) = some p) :
    p < position ∧ l.IsValueAt p ∧ l.valuesBefore (p + 1) = l.valuesBefore position := by
  have hlt := lt_length_of_lastValue? last
  rw [List.length_take] at hlt
  have front : p < position := by omega
  obtain ⟨⟨c, hc, value⟩, none_behind⟩ := lastValue?_eq_some last
  rw [List.getElem?_take_of_lt front] at hc
  rw [List.take_take, min_eq_left (by omega)] at none_behind
  exact ⟨front, ⟨c, hc, value⟩, none_behind⟩

lemma caretBackward_le_caretForward (l : Layout) (intent : ℕ) :
    l.caretBackward intent ≤ l.caretForward intent := by
  rcases l.caretBackward_cases intent with ⟨p, last, heq⟩ | ⟨-, ⟨-, heq⟩ | ⟨-, heq⟩⟩
  · obtain ⟨front, -⟩ := lastValue?_take last
    omega
  · omega
  · omega

/-- Between the two carets there are literals only. -/
lemma valuesBefore_caretBackward (l : Layout) (intent : ℕ) :
    l.valuesBefore (l.caretBackward intent) = l.valuesBefore (l.caretForward intent) := by
  rcases l.caretBackward_cases intent with ⟨p, last, heq⟩ | ⟨zero, ⟨-, heq⟩ | ⟨-, heq⟩⟩
  · rw [heq]
    exact (lastValue?_take last).2.2
  · rw [heq]
  · rw [heq, zero]
    rfl

lemma caretBackward_mono (l : Layout) : Monotone l.caretBackward := by
  intro intent intent' hle
  have forward := l.caretForward_mono hle
  have counts := l.valuesBefore_mono forward
  rcases l.caretBackward_cases intent with ⟨p, last, heq⟩ | ⟨zero, ⟨typed, heq⟩ | ⟨-, heq⟩⟩
  · obtain ⟨-, value, behind⟩ := lastValue?_take last
    have := value.valuesBefore_succ
    rcases l.caretBackward_cases intent' with ⟨p', last', heq'⟩ | ⟨zero', -⟩
    · obtain ⟨-, -, behind'⟩ := lastValue?_take last'
      by_contra hlt
      have := l.valuesBefore_mono (show p' + 1 ≤ p by omega)
      omega
    · omega
  · rcases l.caretBackward_cases intent' with ⟨p', last', heq'⟩ | ⟨-, ⟨-, heq'⟩ | ⟨untyped, -⟩⟩
    · obtain ⟨-, value', behind'⟩ := lastValue?_take last'
      have := value'.valuesBefore_succ
      by_contra hlt
      have := l.valuesBefore_mono (show p' + 1 ≤ l.caretForward intent by omega)
      omega
    · omega
    · exact absurd untyped typed
  · omega

/-- A layout without cells is displayed in one way only. -/
lemma display_of_cells_eq_nil {l : Layout} (h : l.cells = []) (intent : ℕ)
    (gravity : Gravity) : l.display intent gravity = ⟨[], [], 0, l.complete⟩ := by
  have forward : l.caretForward intent = 0 := by rw [caretForward, h, List.findIdx_nil]
  have caret : l.caret intent gravity = 0 := by
    cases gravity with
    | forward => exact forward
    | backward => exact Nat.le_zero.mp (forward ▸ l.caretBackward_le_caretForward intent)
  rw [display, caret, text, value, valueCells, h]
  rfl

/-! ## Layouts that show the same -/

lemma Alike.valuesBefore_eq {l' : Layout} (h : l.Alike l') (p : ℕ) :
    l.valuesBefore p = l'.valuesBefore p := by
  have valuesBefore_face (l : Layout) :
      l.valuesBefore p = ((l.cells.map Cell.face).take p).countP (·.2.2) := by
    rw [← List.map_take, List.countP_map]
    rfl
  rw [valuesBefore_face, valuesBefore_face, h.faces]

lemma Alike.isValueAt {l' : Layout} (h : l.Alike l') {p : ℕ} (here : l.IsValueAt p) :
    l'.IsValueAt p := by
  obtain ⟨c, hc, value⟩ := here
  have face : (l'.cells.map Cell.face)[p]? = some c.face := by
    rw [← h.faces, List.getElem?_map, hc, Option.map_some]
  rw [List.getElem?_map] at face
  obtain ⟨d, hd, same⟩ := Option.map_eq_some_iff.mp face
  exact ⟨d, hd, (congrArg (·.2.2) same).trans value⟩

/-! ## What a caret is for -/

/-- **The carets of a layout fit.** -/
structure CaretFits (l : Layout) : Prop where
  /-- They stand in the text. -/
  le_length : ∀ intent gravity, l.caret intent gravity ≤ l.text.length
  /-- They stand behind the typed characters that come from in front of the boundary. -/
  valuesBefore_eq : ∀ intent gravity,
    l.valuesBefore (l.caret intent gravity) = l.placedBefore intent
  /-- A later boundary has no earlier caret. -/
  monotone : ∀ gravity, Monotone fun intent => l.caret intent gravity
  backward_le_forward : ∀ intent, l.caret intent .backward ≤ l.caret intent .forward
  /-- The forward caret rests in front of a typed character or at the end. -/
  forward_rests : ∀ intent,
    l.caret intent .forward = l.text.length ∨ l.IsValueAt (l.caret intent .forward)
  /-- The backward caret rests behind a typed character. -/
  backward_rests : ∀ intent, l.placedBefore intent ≠ 0 →
    ∃ p, l.caret intent .backward = p + 1 ∧ l.IsValueAt p
  /-- With no character to stand behind, it rests in front of the first one. -/
  backward_first : ∀ intent, l.placedBefore intent = 0 → l.valueCells ≠ [] →
    l.IsValueAt (l.caret intent .backward) ∧ l.valuesBefore (l.caret intent .backward) = 0
  /-- With no character at all, it rests at the start. -/
  backward_start : ∀ intent, l.valueCells = [] → l.caret intent .backward = 0

theorem Ordered.caretFits (h : l.Ordered) : l.CaretFits := by
  have length_text : l.text.length = l.cells.length := List.length_map _
  have counts (intent : ℕ) : l.valuesBefore (l.caretBackward intent) = l.placedBefore intent := by
    rw [valuesBefore_caretBackward, valuesBefore_caretForward h]
  constructor
  case le_length =>
    intro intent gravity
    rw [length_text]
    cases gravity with
    | forward => exact l.caretForward_le intent
    | backward => exact (l.caretBackward_le_caretForward intent).trans (l.caretForward_le intent)
  case valuesBefore_eq =>
    intro intent gravity
    cases gravity with
    | forward => exact valuesBefore_caretForward h intent
    | backward => exact counts intent
  case monotone =>
    intro gravity
    cases gravity with
    | forward => exact l.caretForward_mono
    | backward => exact l.caretBackward_mono
  case backward_le_forward => exact l.caretBackward_le_caretForward
  case forward_rests =>
    intro intent
    rw [length_text]
    exact l.caretForward_rests intent
  case backward_rests =>
    intro intent some
    rcases l.caretBackward_cases intent with ⟨p, last, heq⟩ | ⟨zero, -⟩
    · exact ⟨p, heq, (lastValue?_take last).2.1⟩
    · rw [valuesBefore_caretForward h] at zero
      exact absurd zero some
  case backward_first =>
    intro intent none typed
    refine ⟨?_, (counts intent).trans none⟩
    rcases l.caretBackward_cases intent with ⟨p, last, -⟩ | ⟨-, ⟨-, heq⟩ | ⟨untyped, -⟩⟩
    · obtain ⟨-, value, behind⟩ := lastValue?_take last
      rw [valuesBefore_caretForward h, none, value.valuesBefore_succ] at behind
      omega
    · show l.IsValueAt (l.caretBackward intent)
      rw [heq]
      refine (l.caretForward_rests intent).resolve_left fun atEnd => typed ?_
      rw [← valuesBefore_caretForward h, atEnd, valuesBefore_length] at none
      exact List.length_eq_zero_iff.mp none
    · exact absurd untyped typed
  case backward_start =>
    intro intent untyped
    have none : l.placedBefore intent = 0 := by
      rw [placedBefore, untyped]
      rfl
    rcases l.caretBackward_cases intent with ⟨p, last, -⟩ | ⟨-, ⟨typed, -⟩ | ⟨-, heq⟩⟩
    · obtain ⟨-, value, behind⟩ := lastValue?_take last
      rw [valuesBefore_caretForward h, none, value.valuesBefore_succ] at behind
      omega
    · exact absurd untyped typed
    · exact heq

end Layout

namespace Mask

/-- Behind all of the input, the caret stands at the end of the text. -/
lemma caretForward_length (m : Mask) (tail : Tail) (input : List Char) :
    (m.layout tail input).caretForward input.length = (m.layout tail input).cells.length := by
  rw [Layout.caretForward, List.findIdx_eq_length]
  intro c hc
  cases source : c.source with
  | none => rfl
  | some i =>
      have below := (List.getElem?_eq_some_iff.mp (m.getElem?_source tail input c hc i source)).1
      simpa using below

/-- All typed characters come from in front of the end of the input. -/
lemma placedBefore_length (m : Mask) (tail : Tail) (input : List Char) :
    (m.layout tail input).placedBefore input.length = (m.layout tail input).value.length := by
  rw [← Layout.valuesBefore_caretForward (m.layout_ordered tail input), caretForward_length,
    Layout.valuesBefore_length, Layout.length_valueCells]

/-- Layouts that show the same are displayed alike, with the caret at the end. -/
lemma display_eq_of_alike {m : Mask} {a b : List Char}
    (h : (m.layout .afterValue a).Alike (m.layout .afterValue b)) :
    m.display a a.length = m.display b b.length := by
  simp only [display, Layout.display, Layout.caret, caretForward_length, h.text_eq, h.value_eq,
    h.complete, h.length_eq]

end Mask

/-- **Carets.**  In every layout, of any mask in either direction, the carets of all boundaries fit,
those far behind the input included. -/
theorem Mask.layout_caretFits (m : Mask) (tail : Tail) (input : List Char) :
    (m.layout tail input).CaretFits :=
  (m.layout_ordered tail input).caretFits

end MaskedInput
