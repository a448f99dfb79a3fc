import MaskedInput.Proofs.Edit
import MaskedInput.Proofs.Layout.Continuation
import MaskedInput.Proofs.Layout.Follows

/-!
# Edits are local

After an edit the whole value is laid out again, and maybe under another tail policy.  Still the text
in front of the edit stays as it was: the walk comes by it before it meets anything new.  A mask that
is filled from the right comes by the text behind the edit first, so there it is this part that stays.

* `Layout.marks` — the text with its typed characters marked.  Read from the other end, it is the same
  backwards.
* `Layout.KeepsFront`, `Layout.KeepsBack` — what is kept in front of a typed character, and behind it.
* `Mask.firstMarks_prefix` — the characters that are read first are laid out first, whatever follows.
* **`Mask.edit_local`** — every edit of a value that is placed completely is local.
-/

namespace MaskedInput

/-! ## A part of a list, found by counting -/

section Counting

variable {α : Type} {p : α → Bool} {part whole : List α} {n : ℕ} {a : α}

/-- A first part with as many marked entries as stand up to a marked one reaches as far as that. -/
lemma take_prefix_of_countP (first : part <+: whole) (here : whole[n]? = some a) (marked : p a = true)
    (few : (whole.take (n + 1)).countP p ≤ part.countP p) : whole.take (n + 1) <+: part := by
  obtain ⟨behind, rfl⟩ := first
  rcases Nat.lt_or_ge n part.length with inside | outside
  · rw [List.take_append_of_le_length inside]
    exact List.take_prefix _ _
  · rw [List.getElem?_append_right outside] at here
    have one : 0 < (behind.take (n - part.length + 1)).countP p := by
      rw [List.countP_pos_iff]
      refine ⟨a, ?_, marked⟩
      exact List.mem_of_getElem? (by rw [List.getElem?_take_of_lt (Nat.lt_succ_self _), here])
    have split : n + 1 = part.length + (n - part.length + 1) := by omega
    rw [split, List.take_length_add_append, List.countP_append] at few
    omega

/-- So does a last part with as many marked entries as stand from a marked one on. -/
lemma drop_suffix_of_countP (last : part <:+ whole) (here : whole[n]? = some a) (marked : p a = true)
    (few : (whole.drop n).countP p ≤ part.countP p) : whole.drop n <:+ part := by
  obtain ⟨front, rfl⟩ := last
  rcases Nat.lt_or_ge n front.length with outside | inside
  · rw [List.getElem?_append_left outside] at here
    have one : 0 < (front.drop n).countP p := by
      rw [List.countP_pos_iff]
      refine ⟨a, ?_, marked⟩
      exact List.mem_of_getElem? (i := 0) (by rw [List.getElem?_drop, Nat.add_zero, here])
    rw [List.drop_append_of_le_length outside.le, List.countP_append] at few
    omega
  · rw [List.drop_append, List.drop_of_length_le inside, List.nil_append]
    exact List.drop_suffix _ _

end Counting

/-! ## What is kept -/

/-- The character of a cell, marked if it was typed. -/
def Cell.mark (c : Cell) : Char × Bool := (c.char, c.isValue)

namespace Layout

/-- The text with its typed characters marked. -/
def marks (l : Layout) : List (Char × Bool) := l.cells.map Cell.mark

/-- **The front is kept**: the text up to and including its `n`-th typed character, and the first `n`
characters of the value. -/
structure KeepsFront (old : Layout) (n : ℕ) (new : Display) : Prop where
  text : ∀ p, old.IsValueAt p → old.valuesBefore (p + 1) = n → old.text.take (p + 1) <+: new.text
  value : old.value.take n <+: new.value

/-- **The back is kept**: the text from the typed character on that has `n` others in front of it, and
the value behind its first `n` characters. -/
structure KeepsBack (old : Layout) (n : ℕ) (new : Display) : Prop where
  text : ∀ p, old.IsValueAt p → old.valuesBefore p = n → old.text.drop p <:+ new.text
  value : old.value.drop n <:+ new.value

variable {l l' : Layout} {n : ℕ}

lemma text_eq_marks (l : Layout) : l.text = l.marks.map Prod.fst := by
  rw [text, marks, List.map_map]
  rfl

lemma value_eq_marks (l : Layout) : l.value = (l.marks.filter (·.2)).map Prod.fst := by
  rw [value, valueCells, marks, List.filter_map, List.map_map]
  rfl

lemma marks_reversed (l : Layout) (n k : ℕ) : (l.reversed n k).marks = l.marks.reverse := by
  simp [marks, reversed, Cell.mark, Cell.isValue]

lemma countP_mark (cells : List Cell) :
    (cells.map Cell.mark).countP (·.2) = cells.countP Cell.isValue := by
  rw [List.countP_map]
  rfl

lemma countP_marks (l : Layout) : l.marks.countP (·.2) = l.value.length := by
  rw [value_eq_marks, List.length_map, List.countP_eq_length_filter]

lemma valuesBefore_eq_marks (l : Layout) (p : ℕ) :
    l.valuesBefore p = (l.marks.take p).countP (·.2) := by
  rw [marks, ← List.map_take, countP_mark, valuesBefore]

lemma IsValueAt.mark {p : ℕ} (h : l.IsValueAt p) : ∃ f, l.marks[p]? = some f ∧ f.2 = true := by
  obtain ⟨c, hc, value⟩ := h
  exact ⟨c.mark, by rw [marks, List.getElem?_map, hc, Option.map_some], value⟩

/-- Two layouts that start alike, up to the `n`-th typed character or further. -/
lemma keepsFront_of_prefix {first : List (Char × Bool)} (old : first <+: l.marks)
    (new : first <+: l'.marks) (typed : first.countP (·.2) = n) (intent : ℕ) (gravity : Gravity) :
    l.KeepsFront n (l'.display intent gravity) := by
  constructor
  case text =>
    intro p here count
    obtain ⟨f, hf, marked⟩ := here.mark
    have few : (l.marks.take (p + 1)).countP (·.2) ≤ first.countP (·.2) := by
      rw [← valuesBefore_eq_marks, count, typed]
    have kept := ((take_prefix_of_countP old hf marked few).trans new).map Prod.fst
    rwa [List.map_take, ← text_eq_marks, ← text_eq_marks] at kept
  case value =>
    have start := (old.filter (·.2)).map Prod.fst
    rw [← value_eq_marks, List.prefix_iff_eq_take, List.length_map, ← List.countP_eq_length_filter,
      typed] at start
    rw [← start, display, value_eq_marks]
    exact (new.filter _).map _

/-- Two layouts that end alike, from the character on that has `n` in front of it or further. -/
lemma keepsBack_of_suffix {last : List (Char × Bool)} (old : last <:+ l.marks)
    (new : last <:+ l'.marks) (typed : n + last.countP (·.2) = l.value.length) (intent : ℕ)
    (gravity : Gravity) : l.KeepsBack n (l'.display intent gravity) := by
  constructor
  case text =>
    intro p here count
    obtain ⟨f, hf, marked⟩ := here.mark
    have few : (l.marks.drop p).countP (·.2) ≤ last.countP (·.2) := by
      have all := congrArg (List.countP (·.2)) (List.take_append_drop p l.marks)
      rw [List.countP_append, ← valuesBefore_eq_marks, count, countP_marks] at all
      omega
    have kept := ((drop_suffix_of_countP old hf marked few).trans new).map Prod.fst
    rwa [List.map_drop, ← text_eq_marks, ← text_eq_marks] at kept
  case value =>
    have rest := (old.filter (·.2)).map Prod.fst
    rw [← value_eq_marks, List.suffix_iff_eq_drop, List.length_map, ← List.countP_eq_length_filter,
      ← typed, Nat.add_sub_cancel] at rest
    rw [← rest, display, value_eq_marks]
    exact (new.filter _).map _

/-- The first characters of an input are laid out first. -/
lemma prefix_forward (slots : List Slot) (tail : Tail) (front back : List Char) :
    place slots 0 front.zipIdx <+: (forward slots tail (front ++ back)).cells := by
  obtain ⟨run, cells, -⟩ := cells_forward slots tail (front ++ back)
  rw [cells, List.zipIdx_append]
  exact ((placement_place ..).prefix_place_append _).trans (List.prefix_append ..)

end Layout

/-! ## The part of a layout that is read first -/

namespace Mask

variable {m : Mask} {tail : Tail} {input front back v : List Char}

/-- What is shown for the characters that are read first, in reading direction. -/
def firstMarks (m : Mask) (front : List Char) : List (Char × Bool) :=
  (Layout.place (m.inReading m.slots) 0 front.zipIdx).map Cell.mark

lemma marks_layout (m : Mask) (tail : Tail) (input : List Char) :
    (m.layout tail input).marks = m.inReading (m.readLayout tail input).marks := by
  rw [layout_eq_readLayout, inReading]
  split_ifs
  · exact Layout.marks_reversed ..
  · rfl

/-- **The characters that are read first are laid out first**, whatever follows and whether the tail
is shown or not. -/
lemma firstMarks_prefix (tail : Tail) (starts : m.inReading input = front ++ back) :
    m.firstMarks front <+: m.inReading (m.layout tail input).marks := by
  rw [marks_layout, inReading_inReading, readLayout, starts]
  exact (Layout.prefix_forward ..).map _

/-- Of a value that is placed completely, the first characters are placed completely. -/
lemma countP_firstMarks (placed : (m.layout tail v).value = v)
    (starts : m.inReading v = front ++ back) :
    (m.firstMarks front).countP (·.2) = front.length := by
  have all := m.taken_place_of_value_eq tail v placed
  rw [starts, List.zipIdx_append] at all
  have first := (Layout.placement_place ..).taken_place_of_append all
  have length := congrArg List.length first
  rwa [Layout.length_taken, Layout.seats, List.length_map, ← List.countP_eq_length_filter,
    ← Layout.countP_mark, List.length_zipIdx] at length

lemma keepsFront_layout (left : m.rightToLeft = false) (placed : (m.layout tail v).value = v) {n : ℕ}
    (hn : n ≤ v.length) (tail' : Tail) (more : List Char) (intent : ℕ) (gravity : Gravity) :
    (m.layout tail v).KeepsFront n
      ((m.layout tail' (v.take n ++ more)).display intent gravity) := by
  have reading {α : Type} (xs : List α) : m.inReading xs = xs := by simp [inReading, left]
  have starts : m.inReading v = v.take n ++ v.drop n := by rw [reading, List.take_append_drop]
  have old := firstMarks_prefix tail starts
  have new := firstMarks_prefix tail' (reading (v.take n ++ more))
  rw [reading] at old new
  have typed := countP_firstMarks placed starts
  rw [List.length_take_of_le hn] at typed
  exact Layout.keepsFront_of_prefix old new typed intent gravity

lemma keepsBack_layout (right : m.rightToLeft = true) (placed : (m.layout tail v).value = v) {n : ℕ}
    (hn : n ≤ v.length) (tail' : Tail) (more : List Char) (intent : ℕ) (gravity : Gravity) :
    (m.layout tail v).KeepsBack n
      ((m.layout tail' (more ++ v.drop n)).display intent gravity) := by
  have reading {α : Type} (xs : List α) : m.inReading xs = xs.reverse := by simp [inReading, right]
  have starts : m.inReading v = (v.drop n).reverse ++ (v.take n).reverse := by
    rw [reading, ← List.reverse_append, List.take_append_drop]
  have again : m.inReading (more ++ v.drop n) = (v.drop n).reverse ++ more.reverse := by
    rw [reading, List.reverse_append]
  have old := firstMarks_prefix tail starts
  have new := firstMarks_prefix tail' again
  rw [reading, ← List.reverse_suffix, List.reverse_reverse] at old new
  have typed := countP_firstMarks placed starts
  rw [List.length_reverse, List.length_drop] at typed
  refine Layout.keepsBack_of_suffix old new ?_ intent gravity
  rw [List.countP_reverse, typed, placed]
  omega

/-! ## Edits -/

/-- **Edits are local.**  An edit of a value that is placed completely succeeds within its text.  If
the mask is filled from the left, it keeps the text up to the last typed character in front of the
range, and the value so far; if the mask is filled from the right, it keeps the text from the first
typed character behind the range on, and the value from there. -/
theorem edit_local (placed : (m.display v v.length).value = v) {e : Edit}
    (within : e.Within (m.layout .afterValue v).cells.length) :
    ∃ r, m.edit v e = .ok r
      ∧ (m.rightToLeft = false →
          (m.layout .afterValue v).KeepsFront ((m.layout .afterValue v).valuesBefore e.start) r)
      ∧ (m.rightToLeft = true →
          (m.layout .afterValue v).KeepsBack ((m.layout .afterValue v).valuesBefore e.stop) r) := by
  have placed : (m.layout .afterValue v).value = v := placed
  have bounded (p : ℕ) : (m.layout .afterValue v).valuesBefore p ≤ v.length := by
    have := (m.layout .afterValue v).valuesBefore_le_length p
    rwa [placed] at this
  rw [edit_eq, if_pos within]
  refine ⟨_, rfl, fun left => ?_, fun right => ?_⟩
  · rw [edited, editedInput, spliced, List.append_assoc, placed]
    exact keepsFront_layout left placed (bounded _) ..
  · rw [edited, editedInput, spliced, placed]
    exact keepsBack_layout right placed (bounded _) ..

/-- The first mask leaves its optional slot empty, and a new letter does not go there; the second one
is filled from the right and pushes characters out at its left end. -/
theorem exists_edit_local : ∃ m n : Mask, m.rightToLeft = false ∧ n.rightToLeft = true
    ∧ (m.display "12".toList 2).value = "12".toList
    ∧ (⟨2, 3, "x45".toList⟩ : Edit).Within (m.layout .afterValue "12".toList).cells.length
    ∧ (∃ r, m.edit "12".toList ⟨2, 3, "x45".toList⟩ = .ok r ∧ r.text = "1-45".toList
      ∧ (m.layout .afterValue "12".toList).KeepsFront 1 r)
    ∧ (n.display "123".toList 3).value = "123".toList
    ∧ (⟨0, 1, "98".toList⟩ : Edit).Within (n.layout .afterValue "123".toList).cells.length
    ∧ ∃ r, n.edit "123".toList ⟨0, 1, "98".toList⟩ = .ok r ∧ r.text = "82.3".toList
      ∧ (n.layout .afterValue "123".toList).KeepsBack 1 r := by
  let digit : Slot := .value .digit false
  let m : Mask := ⟨[], [.value .letter true, digit, .literal '-', digit, digit], true, false⟩
  let n : Mask := ⟨[], [digit, digit, .literal '.', digit], true, true⟩
  have placed : (m.display "12".toList 2).value = "12".toList := by decide
  have placed' : (n.display "123".toList 3).value = "123".toList := by decide
  have within : (⟨2, 3, "x45".toList⟩ : Edit).Within
      (m.layout .afterValue "12".toList).cells.length := by decide
  have within' : (⟨0, 1, "98".toList⟩ : Edit).Within
      (n.layout .afterValue "123".toList).cells.length := by decide
  obtain ⟨r, ok, front, -⟩ := edit_local placed within
  obtain ⟨r', ok', -, back⟩ := edit_local placed' within'
  have shown : m.edit "12".toList ⟨2, 3, "x45".toList⟩
      = .ok ⟨"1-45".toList, "145".toList, 4, true⟩ := by decide
  have shown' : n.edit "123".toList ⟨0, 1, "98".toList⟩
      = .ok ⟨"82.3".toList, "823".toList, 1, true⟩ := by decide
  obtain rfl := Except.ok.inj (ok.symm.trans shown)
  obtain rfl := Except.ok.inj (ok'.symm.trans shown')
  exact ⟨m, n, rfl, rfl, placed, within, ⟨_, ok, rfl, front rfl⟩, placed', within',
    _, ok', rfl, back rfl⟩

end Mask

end MaskedInput
