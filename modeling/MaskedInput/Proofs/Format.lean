import MaskedInput.Proofs.Alignment
import MaskedInput.Proofs.Layout.Follows
import MaskedInput.Edit

/-!
# Formatted text read again

A text that a mask has laid out may come back to it as raw text, say by way of the clipboard.  Read
against the slots, a shown literal meets its own slot and is absorbed, and a typed character meets
the slot it was placed in, unless an optional slot on the way takes it.

* `Layout.Legible` — no optional slot takes one of the literals.
* **`Covers.alignFrom_text`** — the alignment finds what the layout has shown, character by
  character.
* `Mask.kept_text` — what is kept of the text of a tight layout is its value.
* **`Mask.format_text`** — formatted text is formatted as it was.
* `Mask.exists_kept_align_singleton` — read in front of its own slot, a literal is not kept.
* **`Mask.kept_align_iff`** — pasted text is read like typed text exactly when no slot takes a literal.
-/

namespace MaskedInput

/-- What becomes of a shown character when its text is read again. -/
def Cell.reread (c : Cell) : Step := ⟨c.char, if c.isValue then .placed else .absorbed, 0⟩

/-! ## Reading along the slots -/

namespace Alignment

section Steps

variable (anywhere : Char → Bool) (slots : List Slot) (text : List Char) {kind : CharClass}
  {c : Char}

lemma alignFrom_literal (l : Char) :
    alignFrom anywhere (.literal l :: slots) (l :: text)
      = ⟨l, .absorbed, 0⟩ :: alignFrom anywhere slots text := by
  simp [alignFrom, alignChar]

lemma alignFrom_value_of_accepts (optional : Bool) (fits : kind.accepts c = true) :
    alignFrom anywhere (.value kind optional :: slots) (c :: text)
      = ⟨c, .placed, 0⟩ :: alignFrom anywhere slots text := by
  simp [alignFrom, alignChar, fits]

lemma alignFrom_optional_of_refuses (misfits : kind.accepts c = false) :
    alignFrom anywhere (.value kind true :: slots) (c :: text)
      = alignFrom anywhere slots (c :: text) := by
  simp [alignFrom, alignChar, misfits]

end Steps

end Alignment

namespace Layout

open MaskedInput.Alignment

variable {slots some : List Slot} {k : ℕ} {cells : List Cell}

/-- No optional slot takes one of the literals. -/
def Legible (slots : List Slot) : Prop :=
  ∀ kind l, .value kind true ∈ slots → .literal l ∈ slots → kind.accepts l = false

lemma Legible.mono (h : Legible slots) (within : ∀ s ∈ some, s ∈ slots) : Legible some :=
  fun kind l hk hl => h kind l (within _ hk) (within _ hl)

namespace Covers

/-- An optional slot that is left empty refuses the character behind it, be it a literal or a typed
one. -/
lemma refuses_next {kind : CharClass} {d : Cell} (h : Covers slots (k + 1) (d :: cells))
    (legible : Legible (.value kind true :: slots)) {behind : List Slot}
    (tight : TightFrom (.value kind true :: (slots ++ behind)) k (seats (d :: cells))) :
    kind.accepts d.char = false := by
  cases value : d.isValue with
  | false =>
      have mem := h.literal_mem d List.mem_cons_self value
      exact legible kind d.char List.mem_cons_self (List.mem_cons_of_mem _ mem)
  | true =>
      have seated : seats (d :: cells) = (d.char, d.slot) :: seats cells := by simp [seats, value]
      have ascending := h.seats_ascending
      have behind := (h.slot_within d List.mem_cons_self).1
      rw [seated] at tight ascending
      exact tight.refuses_first behind ascending

/-- **A shown text is read as it was laid out.**  Behind the slots that it covers, others may
follow. -/
theorem alignFrom_text (h : Covers slots k cells) (anywhere : Char → Bool) (legible : Legible slots)
    {behind : List Slot} (tight : TightFrom (slots ++ behind) k (seats cells)) :
    alignFrom anywhere (slots ++ behind) (cells.map (·.char)) = cells.map Cell.reread := by
  induction h with
  | nothing => rfl
  | literal l _ ih =>
      have rest := ih (legible.mono fun _ => List.mem_cons_of_mem _) ((tightFrom_cons ..).mp tight).2
      rw [List.map_cons, List.cons_append, alignFrom_literal, rest]
      rfl
  | filled optional i fits _ ih =>
      rw [seats_value, List.cons_append, tightFrom_cons_seat] at tight
      have rest := ih (legible.mono fun _ => List.mem_cons_of_mem _) tight
      rw [List.map_cons, List.cons_append, alignFrom_value_of_accepts _ _ _ optional fits, rest]
      rfl
  | @empty kind slots k cells covers ih =>
      have rest := ih (legible.mono fun _ => List.mem_cons_of_mem _) ((tightFrom_cons ..).mp tight).2
      cases cells with
      | nil => rfl
      | cons d cells =>
          have misfits := covers.refuses_next legible tight
          rw [List.map_cons, List.cons_append, alignFrom_optional_of_refuses _ _ _ misfits]
          exact rest

end Covers

lemma value_sublist_text (l : Layout) : l.value.Sublist l.text := List.filter_sublist.map _

/-- Of a text that is read as it was laid out, the typed characters are kept. -/
lemma kept_reread (l : Layout) : kept (l.cells.map Cell.reread) = l.value := by
  rw [kept, value, valueCells, List.filter_map, List.map_map]
  congr 1
  apply List.filter_congr
  intro c _
  simp only [Function.comp_apply, Cell.reread]
  cases c.isValue <;> rfl

end Layout

/-! ## Reading in the direction of the mask -/

namespace Mask

variable {m : Mask} {tail : Tail} {input : List Char}

/-- The steps in reading direction are those of the text and the slots in reading direction. -/
lemma align_absorbing (m : Mask) (start : ℕ) (text : List Char) :
    m.align start text true
      = m.inReading (Alignment.alignFrom m.acceptsAnywhere
          ((m.inReading m.slots).drop start) (m.inReading text)) := by
  have anywhere : m.reversed.acceptsAnywhere = m.acceptsAnywhere :=
    funext m.acceptsAnywhere_reversed
  simp only [align, Alignment.forward, inReading, anywhere]
  split_ifs <;> rfl

lemma kept_inReading (m : Mask) (steps : List Step) :
    Alignment.kept (m.inReading steps) = m.inReading (Alignment.kept steps) := by
  simp only [inReading]
  split_ifs
  · exact Alignment.kept_reverse steps
  · rfl

lemma kept_align_absorbing (m : Mask) (start : ℕ) (text : List Char) :
    Alignment.kept (m.align start text true)
      = m.inReading (Alignment.kept (Alignment.alignFrom m.acceptsAnywhere
          ((m.inReading m.slots).drop start) (m.inReading text))) := by
  rw [align_absorbing, kept_inReading]

/-- The text of a tight layout is read as it was laid out, if its literals are absorbed. -/
lemma align_text_absorbing (legible : Layout.Legible m.slots) (tight : m.Tight (m.layout tail input)) :
    m.align 0 (m.layout tail input).text true
      = m.inReading ((m.readLayout tail input).cells.map Cell.reread) := by
  rw [Tight, readSeats_layout] at tight
  obtain ⟨e, -, covers⟩ := Layout.covers_forward (m.inReading m.slots) (m.tailPolicy tail)
    (m.inReading input)
  rw [← readLayout] at covers
  have legible : Layout.Legible ((m.inReading m.slots).take e) :=
    legible.mono fun s hs => m.mem_inReading.mp (List.mem_of_mem_take hs)
  rw [← List.take_append_drop e (m.inReading m.slots)] at tight
  have steps := covers.alignFrom_text m.acceptsAnywhere legible tight
  rw [List.take_append_drop] at steps
  rw [align_absorbing, text_layout, inReading_inReading, List.drop_zero, Layout.text, steps]

/-- What is kept of the text of a tight layout, if its literals are absorbed. -/
lemma kept_text_absorbing (legible : Layout.Legible m.slots) (tight : m.Tight (m.layout tail input)) :
    Alignment.kept (m.align 0 (m.layout tail input).text true) = (m.layout tail input).value := by
  rw [align_text_absorbing legible tight, kept_inReading, Layout.kept_reread, value_layout]

/-- A text without typed characters is shown by masks that take none. -/
lemma acceptsAnywhere_of_untyped (untyped : (m.layout .afterValue input).value = [])
    (shown : (m.layout .afterValue input).text ≠ []) (c : Char) : m.acceptsAnywhere c = false := by
  by_contra accepts
  have accepts : m.acceptsAnywhere c = true := by simpa using accepts
  obtain ⟨s, hs, fits⟩ := List.any_eq_true.mp accepts
  have values : m.hasValueSlots = true := by
    refine List.any_eq_true.mpr ⟨s, hs, ?_⟩
    by_contra literal
    rw [Slot.not_accepts_of_isLiteral (by simpa using literal)] at fits
    exact absurd fits Bool.false_ne_true
  have nothing := m.cells_layout_eq_nil input values (by simp) untyped
  rw [Layout.text, nothing] at shown
  exact shown rfl

/-- **What is kept of the text of a tight layout is its value.**  A text of one character is taken
as input, and it is one that was typed. -/
theorem kept_text (legible : Layout.Legible m.slots) (tight : m.Tight (m.layout .afterValue input)) :
    Alignment.kept (m.align 0 (m.layout .afterValue input).text
        (absorbsLiterals (m.layout .afterValue input).text))
      = (m.layout .afterValue input).value := by
  cases absorbs : absorbsLiterals (m.layout .afterValue input).text with
  | true => exact kept_text_absorbing legible tight
  | false =>
      rw [kept_align_typed]
      by_cases untyped : (m.layout .afterValue input).value = []
      · rw [untyped, List.filter_eq_nil_iff]
        intro c hc
        rw [acceptsAnywhere_of_untyped untyped (List.ne_nil_of_mem hc)]
        exact Bool.false_ne_true
      · have shown := (m.layout .afterValue input).value_sublist_text
        have typed := List.length_pos_iff.mpr untyped
        simp only [absorbsLiterals, decide_eq_false_iff_not] at absorbs
        rw [← shown.eq_of_length_le (by omega), List.filter_eq_self]
        exact fun c hc => acceptsAnywhere_of_mem_value .afterValue hc

/-! ## Formatting again -/

/-- Formatted text that holds a tight layout is formatted as it was. -/
lemma format_text_of_tight (legible : Layout.Legible m.slots)
    (tight : m.Tight (m.layout .afterValue input)) :
    m.format (m.display input input.length).text = m.display input input.length := by
  have kept := kept_text legible tight
  have alike := (m.layout_value_alike_iff .afterValue input).mpr tight
  calc m.format (m.layout .afterValue input).text
      = m.display (m.layout .afterValue input).value
          (m.layout .afterValue input).value.length := by simp only [format, kept]
    _ = m.display input input.length := display_eq_of_alike alike

lemma NoOptional.legible (h : m.NoOptional) : Layout.Legible m.slots := by
  intro kind l optional _
  exact absurd (h _ optional rfl) (by simp [Slot.isMandatory])

/-- **Formatted text read again.**  Over a mask without optional slots, formatting what was formatted
changes nothing, whatever the raw text was.  Over a mask whose value slots take none of its literals,
the same holds of every value that is placed completely. -/
theorem format_text (m : Mask) :
    (m.NoOptional → ∀ raw, m.format (m.format raw).text = m.format raw)
      ∧ ((∀ l, .literal l ∈ m.slots → m.acceptsAnywhere l = false) →
          ∀ v, (m.display v v.length).value = v →
            m.format (m.display v v.length).text = m.display v v.length) := by
  constructor
  · intro noOptional raw
    apply format_text_of_tight noOptional.legible
    apply Regular.tight_layout .afterValue (Or.inl noOptional)
    exact fun c hc => acceptsAnywhere_of_mem_kept hc
  · intro apart v complete
    have legible : Layout.Legible m.slots := by
      intro kind l optional literal
      have refused := List.any_eq_false.mp (apart l literal) _ optional
      simpa [Slot.accepts] using refused
    exact format_text_of_tight legible (m.tight_of_value_eq .afterValue v complete)

/-- The literals of the first mask are digits, which its slots take as well; the second mask leaves
an optional slot empty. -/
theorem exists_format_text : ∃ m n : Mask, m.NoOptional ∧ m.rightToLeft = true
    ∧ (m.format "x7y".toList).text = "172".toList
    ∧ m.format (m.format "x7y".toList).text = m.format "x7y".toList
    ∧ (∀ l, .literal l ∈ n.slots → n.acceptsAnywhere l = false)
    ∧ (n.display "7b".toList 2).text = "7-b)".toList
    ∧ n.format (n.display "7b".toList 2).text = n.display "7b".toList 2 := by
  let digit : Slot := .value .digit false
  let letter : Slot := .value .letter false
  let m : Mask := ⟨[], [.literal '1', digit, .literal '2'], true, true⟩
  let n : Mask := ⟨[], [.value .letter true, digit, .literal '-', letter, .literal ')'], true, false⟩
  have noOptional : m.NoOptional := by
    simp [NoOptional, m, digit, Slot.isMandatory, Slot.isLiteral]
  have apart : ∀ l, .literal l ∈ n.slots → n.acceptsAnywhere l = false := by
    intro l hl
    have : l = '-' ∨ l = ')' := by simpa [n, digit, letter] using hl
    rcases this with rfl | rfl <;> decide
  exact ⟨m, n, noOptional, rfl, by decide, m.format_text.1 noOptional _, apart, by decide,
    n.format_text.2 apart "7b".toList (by decide)⟩

/-! ## Pasted and typed text -/

/-- **A literal in front of its own slot** is absorbed. -/
lemma exists_kept_align_singleton (m : Mask) {l : Char} (hl : .literal l ∈ m.slots) :
    ∃ start, Alignment.kept (m.align start [l] true) = [] := by
  obtain ⟨start, found⟩ := List.getElem?_of_mem (m.mem_inReading.mpr hl)
  obtain ⟨within, here⟩ := List.getElem?_eq_some_iff.mp found
  refine ⟨start, ?_⟩
  rw [kept_align_absorbing, List.drop_eq_getElem_cons within, here]
  have single : m.inReading [l] = [l] := by simp [inReading]
  rw [single, Alignment.alignFrom_literal]
  simp [Alignment.alignFrom, Alignment.kept, Fate.keeps, inReading]

/-- **Pasted text is read like typed text** exactly when no slot of the mask takes one of its literals.
From whichever slot it is read, it then keeps the characters that the mask takes, in their order; so
formatting a raw text is laying these characters out, and they are the value as far as they are shown. -/
theorem kept_align_iff (m : Mask) :
    (m.LiteralsApart ↔ ∀ start text,
        Alignment.kept (m.align start text true) = Alignment.kept (m.align start text false))
      ∧ (m.LiteralsApart → ∀ start text absorb,
        Alignment.kept (m.align start text absorb) = text.filter m.acceptsAnywhere)
      ∧ (m.LiteralsApart → ∀ raw,
        m.format raw = m.display (raw.filter m.acceptsAnywhere) (raw.filter m.acceptsAnywhere).length
          ∧ m.unmask raw = (m.display (raw.filter m.acceptsAnywhere)
              (raw.filter m.acceptsAnywhere).length).value) := by
  refine ⟨⟨?_, ?_⟩, fun apart => apart.kept_align, ?_⟩
  · intro apart start text
    rw [apart.kept_align, apart.kept_align]
  · intro same l hl
    obtain ⟨start, absorbed⟩ := m.exists_kept_align_singleton hl
    rw [same, kept_align_typed] at absorbed
    simpa using absorbed
  · intro apart raw
    have formatted : m.format raw = m.display (raw.filter m.acceptsAnywhere)
        (raw.filter m.acceptsAnywhere).length := by
      simp only [format, apart.kept_align]
    exact ⟨formatted, congrArg Display.value formatted⟩

/-- Filled from the right, with an optional slot at the end that is reached last: the first digit of the
raw text finds no room. -/
theorem exists_kept_align_iff : ∃ m : Mask, m.LiteralsApart ∧ m.rightToLeft = true ∧ ¬ m.NoOptional
    ∧ Alignment.kept (m.align 1 "a1 2-34".toList true)
        = Alignment.kept (m.align 1 "a1 2-34".toList false)
    ∧ Alignment.kept (m.align 1 "a1 2-34".toList true) = "1234".toList
    ∧ m.format "a1 2-34".toList = m.display "1234".toList 4
    ∧ (m.display "1234".toList 4).text = "23 4".toList
    ∧ m.unmask "a1 2-34".toList = "234".toList := by
  let digit : Slot := .value .digit false
  let m : Mask := ⟨[], [.value .digit true, digit, .literal ' ', digit], true, true⟩
  have apart : m.LiteralsApart := by
    intro l hl
    obtain rfl : l = ' ' := by simpa [m, digit] using hl
    decide
  have optional : ¬ m.NoOptional := by simp [NoOptional, m, Slot.isMandatory, Slot.isLiteral]
  have digits : "a1 2-34".toList.filter m.acceptsAnywhere = "1234".toList := by decide +kernel
  obtain ⟨same, kept, formatted⟩ := m.kept_align_iff
  have kept := kept apart 1 "a1 2-34".toList true
  obtain ⟨formatted, unmasked⟩ := formatted apart "a1 2-34".toList
  rw [digits] at kept formatted unmasked
  exact ⟨m, apart, rfl, optional, same.mp apart 1 _, kept, formatted, by decide +kernel,
    unmasked.trans (by decide +kernel)⟩

end Mask

end MaskedInput
