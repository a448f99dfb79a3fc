import Mathlib.Data.List.Basic
import Mathlib.Tactic.Lemma
import MaskedInput.Alignment

/-!
# What an alignment keeps

An alignment decides the fate of every character of a raw text.  Whichever way it is carried out,
a character goes into the value only if some slot of the mask takes it.

* `Alignment.alignChar_char`, `Alignment.alignChar_ahead` — the step of one character.
* **`Mask.kept_align_typed`** — of a text that is meant as input, all that the mask takes is kept.
* **`Mask.acceptsAnywhere_of_mem_kept`**, `Mask.kept_align_sublist` — in any case, nothing else is.
* `Mask.take_align`, `Mask.drop_align` — what becomes of a character depends on what was read before it.
* **`Mask.LiteralsApart.kept_align`** — where no slot takes a literal, both readings keep the same.
-/

namespace MaskedInput

namespace Alignment

variable (anywhere : Char → Bool)

lemma mem_kept {steps : List Step} {c : Char} :
    c ∈ kept steps ↔ ∃ step ∈ steps, step.fate.keeps = true ∧ step.char = c := by
  simp [kept, and_assoc]

lemma anywhere_of_unplaced_keeps {c : Char} (h : (unplaced anywhere c).keeps = true) :
    anywhere c = true := by
  rw [unplaced] at h
  split_ifs at h with fits
  · exact fits
  · exact absurd h (by simp [Fate.keeps])

lemma alignChar_char (c : Char) (ahead : List Slot) :
    (alignChar anywhere c ahead).1.char = c := by
  fun_induction alignChar anywhere c ahead with
  | case1 => rfl
  | case2 => rfl
  | case3 l slots hne step rest eq ih =>
      rw [eq] at ih
      exact ih
  | case4 => rfl
  | case5 _ _ _ ih => exact ih
  | case6 => rfl

lemma alignChar_ahead (c : Char) (ahead : List Slot) :
    ∀ s ∈ (alignChar anywhere c ahead).2, s ∈ ahead := by
  fun_induction alignChar anywhere c ahead with
  | case1 => exact fun _ h => h
  | case2 => exact fun _ h => List.mem_cons_of_mem _ h
  | case3 l slots hne step rest eq ih =>
      rw [eq] at ih
      exact fun s h => List.mem_cons_of_mem _ (ih s h)
  | case4 => exact fun _ h => List.mem_cons_of_mem _ h
  | case5 _ _ _ ih => exact fun s h => List.mem_cons_of_mem _ (ih s h)
  | case6 => exact fun _ h => h

lemma alignChar_keeps (c : Char) (ahead : List Slot)
    (within : ∀ s ∈ ahead, s.accepts c = true → anywhere c = true)
    (h : (alignChar anywhere c ahead).1.fate.keeps = true) : anywhere c = true := by
  fun_induction alignChar anywhere c ahead with
  | case1 => exact anywhere_of_unplaced_keeps anywhere h
  | case2 => exact absurd h (by simp [Fate.keeps])
  | case3 l slots hne step rest eq ih =>
      rw [eq] at ih
      exact ih (List.forall_mem_of_forall_mem_cons within) h
  | case4 kind optional slots fits => exact within _ List.mem_cons_self fits
  | case5 kind slots misfits ih => exact ih (List.forall_mem_of_forall_mem_cons within) h
  | case6 => exact anywhere_of_unplaced_keeps anywhere h

lemma anywhere_of_mem_kept_alignFrom {ahead : List Slot} {text : List Char}
    (within : ∀ s ∈ ahead, ∀ c, s.accepts c = true → anywhere c = true) {c : Char}
    (hc : c ∈ kept (alignFrom anywhere ahead text)) : anywhere c = true := by
  induction text generalizing ahead with
  | nil => exact absurd hc (by simp [alignFrom, kept])
  | cons d text ih =>
      obtain ⟨step, hstep, keeps, rfl⟩ := (mem_kept).mp hc
      rw [alignFrom] at hstep
      rcases List.mem_cons.mp hstep with rfl | hstep
      · rw [alignChar_char]
        exact alignChar_keeps anywhere d ahead (fun s hs => within s hs d) keeps
      · exact ih (fun s hs => within s (alignChar_ahead anywhere d ahead s hs))
          ((mem_kept).mpr ⟨step, hstep, keeps, rfl⟩)

/-- A character that the mask takes is kept, unless it is a literal. -/
lemma keeps_alignChar {c : Char} {ahead : List Slot} (fits : anywhere c = true)
    (apart : ∀ l, .literal l ∈ ahead → anywhere l = false) :
    (alignChar anywhere c ahead).1.fate.keeps = true := by
  fun_induction alignChar anywhere c ahead with
  | case1 => simp [unplaced, fits, Fate.keeps]
  | case2 =>
      rw [apart c List.mem_cons_self] at fits
      exact absurd fits Bool.false_ne_true
  | case3 l slots hne step rest eq ih =>
      rw [eq] at ih
      exact ih fun l hl => apart l (List.mem_cons_of_mem _ hl)
  | case4 => rfl
  | case5 _ _ _ ih => exact ih fun l hl => apart l (List.mem_cons_of_mem _ hl)
  | case6 => simp [unplaced, fits, Fate.keeps]

lemma kept_cons (step : Step) (steps : List Step) :
    kept (step :: steps) = if step.fate.keeps then step.char :: kept steps else kept steps := by
  rw [kept, List.filter_cons]
  split_ifs <;> rfl

lemma kept_alignFrom_of_apart {ahead : List Slot}
    (within : ∀ s ∈ ahead, ∀ c, s.accepts c = true → anywhere c = true)
    (apart : ∀ l, .literal l ∈ ahead → anywhere l = false) (text : List Char) :
    kept (alignFrom anywhere ahead text) = text.filter anywhere := by
  induction text generalizing ahead with
  | nil => rfl
  | cons c text ih =>
      have behind := alignChar_ahead anywhere c ahead
      have keeps : (alignChar anywhere c ahead).1.fate.keeps = anywhere c := by
        rw [Bool.eq_iff_iff]
        exact ⟨alignChar_keeps anywhere c ahead fun s hs => within s hs c,
          fun fits => keeps_alignChar anywhere fits apart⟩
      rw [alignFrom, kept_cons, keeps, alignChar_char, List.filter_cons,
        ih (fun s hs => within s (behind s hs)) fun l hl => apart l (behind _ hl)]

lemma map_char_alignFrom (ahead : List Slot) (text : List Char) :
    (alignFrom anywhere ahead text).map (·.char) = text := by
  induction text generalizing ahead with
  | nil => rfl
  | cons c text ih => rw [alignFrom, List.map_cons, alignChar_char, ih]

lemma anywhere_of_mem_kept_alignTyped {text : List Char} {c : Char}
    (hc : c ∈ kept (alignTyped anywhere text)) : anywhere c = true := by
  obtain ⟨step, hstep, keeps, rfl⟩ := mem_kept.mp hc
  obtain ⟨d, -, rfl⟩ := List.mem_map.mp hstep
  by_contra refused
  simp [Fate.keeps, refused] at keeps

lemma kept_reverse (steps : List Step) : kept steps.reverse = (kept steps).reverse := by
  simp [kept, List.filter_reverse]

lemma kept_append (front back : List Step) : kept (front ++ back) = kept front ++ kept back := by
  simp [kept]

lemma kept_alignTyped (text : List Char) : kept (alignTyped anywhere text) = text.filter anywhere := by
  rw [kept, alignTyped, List.filter_map, List.map_map]
  have keeps (c : Char) : (if anywhere c = true then Fate.placed else .refused).keeps = anywhere c := by
    cases anywhere c <;> rfl
  simp [Function.comp_def, keeps]

/-- What is kept of a text read from the left. -/
lemma acceptsAnywhere_of_mem_kept_forward {m : Mask} {start : Nat} {text : List Char}
    {absorb : Bool} {c : Char} (hc : c ∈ kept (forward m start text absorb)) :
    m.acceptsAnywhere c = true := by
  rw [forward] at hc
  split_ifs at hc
  · refine anywhere_of_mem_kept_alignFrom m.acceptsAnywhere ?_ hc
    intro s hs c fits
    exact List.any_eq_true.mpr ⟨s, List.mem_of_mem_drop hs, fits⟩
  · exact anywhere_of_mem_kept_alignTyped m.acceptsAnywhere hc

/-- The steps are those of the characters of the text. -/
lemma map_char_forward (m : Mask) (start : Nat) (text : List Char) (absorb : Bool) :
    (forward m start text absorb).map (·.char) = text := by
  rw [forward]
  split_ifs
  · exact map_char_alignFrom ..
  · simp [alignTyped, Function.comp_def]

/-! ### The text is read character by character -/

lemma take_alignFrom (ahead : List Slot) (text : List Char) (n : ℕ) :
    (alignFrom anywhere ahead text).take n = alignFrom anywhere ahead (text.take n) := by
  induction text generalizing ahead n with
  | nil => rw [List.take_nil, alignFrom, List.take_nil]
  | cons c text ih =>
      cases n with
      | zero => rfl
      | succ n => rw [alignFrom, List.take_succ_cons, ih, List.take_succ_cons, alignFrom]

/-- What becomes of a character does not depend on what is behind it. -/
lemma take_forward (m : Mask) (start : ℕ) (text : List Char) (absorb : Bool) (n : ℕ) :
    (forward m start text absorb).take n = forward m start (text.take n) absorb := by
  simp only [forward]
  split_ifs
  · exact take_alignFrom ..
  · exact List.map_take.symm

end Alignment

namespace Mask

lemma acceptsAnywhere_reversed (m : Mask) (c : Char) :
    m.reversed.acceptsAnywhere c = m.acceptsAnywhere c := by
  simp [acceptsAnywhere, reversed]

@[simp] lemma align_nil (m : Mask) (start : Nat) (absorb : Bool) : m.align start [] absorb = [] := by
  rw [align, Alignment.forward, Alignment.forward]
  cases absorb <;> simp [Alignment.alignTyped, Alignment.alignFrom]

/-- **A text that is meant as input** keeps the characters that the mask takes. -/
theorem kept_align_typed (m : Mask) (start : Nat) (text : List Char) :
    Alignment.kept (m.align start text false) = text.filter m.acceptsAnywhere := by
  have anywhere : m.reversed.acceptsAnywhere = m.acceptsAnywhere :=
    funext m.acceptsAnywhere_reversed
  simp only [align, Alignment.forward, anywhere, Bool.false_eq_true, if_false]
  split_ifs
  · rw [Alignment.kept_reverse, Alignment.kept_alignTyped, List.filter_reverse,
      List.reverse_reverse]
  · exact Alignment.kept_alignTyped ..

/-- **Only characters that the mask takes are kept.** -/
theorem acceptsAnywhere_of_mem_kept {m : Mask} {start : Nat} {text : List Char} {absorb : Bool}
    {c : Char} (hc : c ∈ Alignment.kept (m.align start text absorb)) :
    m.acceptsAnywhere c = true := by
  rw [align] at hc
  split_ifs at hc
  · rw [← acceptsAnywhere_reversed]
    obtain ⟨step, hstep, keeps, rfl⟩ := Alignment.mem_kept.mp hc
    exact Alignment.acceptsAnywhere_of_mem_kept_forward
      (Alignment.mem_kept.mpr ⟨step, List.mem_reverse.mp hstep, keeps, rfl⟩)
  · exact Alignment.acceptsAnywhere_of_mem_kept_forward hc

/-- Every character of the text has a step, in either direction. -/
lemma map_char_align (m : Mask) (start : Nat) (text : List Char) (absorb : Bool) :
    (m.align start text absorb).map (·.char) = text := by
  rw [align]
  split_ifs
  · rw [List.map_reverse, Alignment.map_char_forward, List.reverse_reverse]
  · exact Alignment.map_char_forward ..

lemma length_align (m : Mask) (start : Nat) (text : List Char) (absorb : Bool) :
    (m.align start text absorb).length = text.length := by
  rw [← List.length_map (·.char), map_char_align]

/-- Read from the left, the steps of the beginning of a text are those of the beginning alone. -/
lemma take_align {m : Mask} (left : m.rightToLeft = false) (start : ℕ) (text : List Char)
    (absorb : Bool) (n : ℕ) :
    (m.align start text absorb).take n = m.align start (text.take n) absorb := by
  simp only [align, left, Bool.false_eq_true, if_false]
  exact Alignment.take_forward ..

/-- Read from the right, the steps of the end of a text are those of the end alone. -/
lemma drop_align {m : Mask} (right : m.rightToLeft = true) (start : ℕ) (text : List Char)
    (absorb : Bool) (n : ℕ) :
    (m.align start text absorb).drop n = m.align start (text.drop n) absorb := by
  have length : (Alignment.forward m.reversed start text.reverse absorb).length = text.length := by
    rw [← List.length_map (·.char), Alignment.map_char_forward, List.length_reverse]
  simp only [align, right, if_true]
  rw [List.drop_reverse, length, Alignment.take_forward, List.reverse_drop]

/-- **Nothing is added or moved**: what is kept are characters of the text that the mask takes, in
their order. -/
theorem kept_align_sublist (m : Mask) (start : Nat) (text : List Char) (absorb : Bool) :
    (Alignment.kept (m.align start text absorb)).Sublist (text.filter m.acceptsAnywhere) := by
  have part : (Alignment.kept (m.align start text absorb)).Sublist text := by
    conv_rhs => rw [← m.map_char_align start text absorb]
    exact List.filter_sublist.map _
  rw [← List.filter_eq_self.mpr fun c hc => acceptsAnywhere_of_mem_kept hc]
  exact part.filter _

/-- No slot of the mask takes one of its literals. -/
def LiteralsApart (m : Mask) : Prop := ∀ l, .literal l ∈ m.slots → m.acceptsAnywhere l = false

/-- **Where no slot takes a literal**, all that the mask takes is kept, however the text is read. -/
theorem LiteralsApart.kept_align {m : Mask} (h : m.LiteralsApart) (start : Nat) (text : List Char)
    (absorb : Bool) :
    Alignment.kept (m.align start text absorb) = text.filter m.acceptsAnywhere := by
  have kept {slots : List Slot} (same : ∀ s, s ∈ slots ↔ s ∈ m.slots) (text : List Char) :
      Alignment.kept (Alignment.alignFrom m.acceptsAnywhere (slots.drop start) text)
        = text.filter m.acceptsAnywhere := by
    apply Alignment.kept_alignFrom_of_apart
    · intro s hs c fits
      exact List.any_eq_true.mpr ⟨s, (same s).mp (List.mem_of_mem_drop hs), fits⟩
    · exact fun l hl => h l ((same _).mp (List.mem_of_mem_drop hl))
  cases absorb with
  | false => exact kept_align_typed ..
  | true =>
      have anywhere : m.reversed.acceptsAnywhere = m.acceptsAnywhere :=
        funext m.acceptsAnywhere_reversed
      simp only [align, Alignment.forward, anywhere, if_true]
      split_ifs
      · rw [Alignment.kept_reverse, kept (by simp [reversed]), List.filter_reverse,
          List.reverse_reverse]
      · exact kept (fun _ => Iff.rfl) text

end Mask

end MaskedInput
