import MaskedInput.Proofs.Edit
import MaskedInput.Proofs.Layout.Tail

/-!
# Formatted text without its tail

The literals behind the last typed character are the tail of a text.  A mask that does not autocomplete
keeps the same characters of a raw text and shows them without the tail.

* **`Mask.format_autocomplete_false`** — a raw text formatted without the tail.
-/

namespace MaskedInput

namespace Mask

variable (m : Mask)

/-- **A raw text formatted without the tail.**  The value and its completeness are the same, and the text
is only cut short at the end that the mask reads last. -/
theorem format_autocomplete_false (raw : List Char) :
    (({ m with autocomplete := false } : Mask).format raw).value = (m.format raw).value
      ∧ (({ m with autocomplete := false } : Mask).format raw).complete = (m.format raw).complete
      ∧ if m.rightToLeft
        then (({ m with autocomplete := false } : Mask).format raw).text <:+ (m.format raw).text
        else (({ m with autocomplete := false } : Mask).format raw).text <+: (m.format raw).text := by
  have shown : ({ m with autocomplete := false } : Mask).format raw
      = (m.layout .hidden (Alignment.kept (m.align 0 raw (absorbsLiterals raw)))).display
          (Alignment.kept (m.align 0 raw (absorbsLiterals raw))).length .forward := by
    rw [← layout_autocomplete_false m .afterValue]
    rfl
  rw [shown]
  exact ⟨m.value_layout_tail .., m.complete_layout_tail .., m.text_hidden_affix .afterValue _⟩

end Mask

end MaskedInput
