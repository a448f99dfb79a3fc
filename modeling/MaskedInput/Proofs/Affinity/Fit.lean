import MaskedInput.Proofs.Affinity
import MaskedInput.Proofs.Format

/-!
# How well a mask can fit

A character that a slot uses up counts one for the mask, and every other character one against it.  So
does every literal that is passed by, and since the alignment never turns back, no literal is passed by
twice.  A text that the mask has laid out itself fits it best: every character is used up, and nothing is
passed by.

* `Alignment.wasted`, `Alignment.skipped` — the characters that are not used up, and the literals passed
  by; `Alignment.score_eq` — the score made up of these.
* `Alignment.skipped_alignFrom_le` — no literal is passed by twice.
* `Mask.score_text` — a text that was laid out has the best score there is; `Mask.pick_of_affinity_eq` — its
  mask is chosen before all others.
* **`Mask.affinity_bounds`** — the scores of all texts, and of the mask's own.
-/

namespace MaskedInput

namespace Alignment

/-! ## What counts against a mask -/

/-- How many characters of the text no slot uses up. -/
def wasted (steps : List Step) : ℕ := steps.countP (!·.fate.consumes)

/-- How many literals of the mask are passed by. -/
def skipped (steps : List Step) : ℕ := steps.foldr (·.skipped + ·) 0

lemma skipped_cons (step : Step) (steps : List Step) :
    skipped (step :: steps) = step.skipped + skipped steps :=
  rfl

/-- **The score**: one for each character, less two for each that is wasted and one for each literal that
is passed by. -/
lemma score_eq (steps : List Step) :
    score steps = steps.length - 2 * wasted steps - skipped steps := by
  induction steps with
  | nil => rfl
  | cons step steps ih =>
      have first : score (step :: steps) = step.score + score steps := rfl
      have used : wasted (step :: steps) = wasted steps + if !step.fate.consumes then 1 else 0 :=
        List.countP_cons ..
      rw [first, ih, used, skipped_cons, List.length_cons, Step.score]
      cases step.fate.consumes with
      | true =>
          simp only [Bool.not_true, Bool.false_eq_true, if_true, if_false]
          omega
      | false =>
          simp only [Bool.not_false, Bool.false_eq_true, if_true, if_false]
          omega

lemma wasted_le (steps : List Step) : wasted steps ≤ steps.length := List.countP_le_length

lemma wasted_reverse (steps : List Step) : wasted steps.reverse = wasted steps := by
  rw [wasted, List.countP_reverse, ← wasted]

lemma skipped_reverse (steps : List Step) : skipped steps.reverse = skipped steps := by
  have commute : ∀ a ∈ steps.reverse, ∀ b ∈ steps.reverse, ∀ n : ℕ,
      b.skipped + (a.skipped + n) = a.skipped + (b.skipped + n) :=
    fun _ _ _ _ _ => Nat.add_left_comm ..
  exact (List.reverse_perm steps).foldr_eq' commute 0

section Literals

variable (anywhere : Char → Bool)

/-- The literals that one character passes by are no longer ahead of the next one. -/
lemma skipped_alignChar_le (c : Char) (ahead : List Slot) :
    (alignChar anywhere c ahead).1.skipped + (alignChar anywhere c ahead).2.countP Slot.isLiteral
      ≤ ahead.countP Slot.isLiteral := by
  fun_induction alignChar anywhere c ahead with
  | case1 => exact le_refl _
  | case2 slots =>
      rw [List.countP_cons_of_pos rfl]
      exact Nat.le_trans (Nat.zero_add _).le (Nat.le_succ _)
  | case3 l slots hne step rest eq ih =>
      rw [eq] at ih
      rw [List.countP_cons_of_pos rfl]
      dsimp only at ih ⊢
      omega
  | case4 kind optional slots fits =>
      rw [List.countP_cons_of_neg (by simp [Slot.isLiteral])]
      exact (Nat.zero_add _).le
  | case5 kind slots misfits ih =>
      rw [List.countP_cons_of_neg (by simp [Slot.isLiteral])]
      exact ih
  | case6 => exact (Nat.zero_add _).le

/-- **No literal is passed by twice.** -/
lemma skipped_alignFrom_le (ahead : List Slot) (text : List Char) :
    skipped (alignFrom anywhere ahead text) ≤ ahead.countP Slot.isLiteral := by
  induction text generalizing ahead with
  | nil => exact Nat.zero_le _
  | cons c text ih =>
      have first := skipped_alignChar_le anywhere c ahead
      have others := ih (alignChar anywhere c ahead).2
      rw [alignFrom, skipped_cons]
      omega

end Literals

/-- Of a text that is read as it was laid out, every character is used up and no literal is passed by. -/
lemma score_reread (cells : List Cell) : score (cells.map Cell.reread) = cells.length := by
  induction cells with
  | nil => rfl
  | cons c cells ih =>
      have one : c.reread.score = 1 := by
        cases value : c.isValue <;> simp [Cell.reread, Step.score, Fate.consumes, value]
      have first : score ((c :: cells).map Cell.reread)
          = c.reread.score + score (cells.map Cell.reread) := rfl
      rw [first, one, ih, List.length_cons]
      omega

end Alignment

/-! ## The beginning that two texts share -/

lemma commonLength_le (a b : List Char) : commonLength a b ≤ b.length := by
  fun_induction commonLength a b with
  | case1 a as bs ih => exact Nat.succ_le_succ ih
  | case2 => exact Nat.zero_le _
  | case3 => exact Nat.zero_le _

lemma commonLength_self (text : List Char) : commonLength text text = text.length := by
  induction text with
  | nil => rfl
  | cons c text ih => rw [commonLength, if_pos rfl, ih, List.length_cons]

/-! ## The score of a mask -/

namespace Mask

variable {m : Mask} {tail : Tail} {input : List Char}

lemma wasted_inReading (m : Mask) (steps : List Step) :
    Alignment.wasted (m.inReading steps) = Alignment.wasted steps := by
  simp only [inReading]
  split_ifs
  · exact Alignment.wasted_reverse steps
  · rfl

lemma skipped_inReading (m : Mask) (steps : List Step) :
    Alignment.skipped (m.inReading steps) = Alignment.skipped steps := by
  simp only [inReading]
  split_ifs
  · exact Alignment.skipped_reverse steps
  · rfl

lemma skipped_align_le (m : Mask) (text : List Char) :
    Alignment.skipped (m.align 0 text true) ≤ m.slots.countP Slot.isLiteral := by
  rw [align_absorbing, skipped_inReading, List.drop_zero, ← m.countP_inReading]
  exact Alignment.skipped_alignFrom_le _ _ _

lemma score_inReading (m : Mask) (steps : List Step) :
    Alignment.score (m.inReading steps) = Alignment.score steps := by
  rw [Alignment.score_eq, wasted_inReading, skipped_inReading, length_inReading, ← Alignment.score_eq]

/-- **The text of a tight layout** is used up to its last character. -/
lemma score_text (legible : Layout.Legible m.slots) (tight : m.Tight (m.layout tail input)) :
    Alignment.score (m.align 0 (m.layout tail input).text true)
      = (m.layout tail input).text.length := by
  rw [align_text_absorbing legible tight, score_inReading, Alignment.score_reread, text_layout,
    length_inReading, Layout.text, List.length_map]

lemma affinity_wholeString (m : Mask) (text : List Char) :
    m.affinity .wholeString text = text.length - 2 * Alignment.wasted (m.align 0 text true)
      - Alignment.skipped (m.align 0 text true) := by
  rw [affinity, Alignment.score_eq, length_align]

/-- No score is higher than the length of the text. -/
lemma affinity_le (m : Mask) (strategy : Strategy) (text : List Char) :
    m.affinity strategy text ≤ text.length := by
  cases strategy with
  | wholeString =>
      rw [affinity_wholeString]
      omega
  | commonStart => exact Int.ofNat_le.mpr (commonLength_le _ text)

/-- **The text that a mask has formatted** fits it as well as a text of its length can. -/
lemma affinity_text (strategy : Strategy) (legible : Layout.Legible m.slots)
    (tight : m.Tight (m.layout .afterValue input)) :
    m.affinity strategy (m.display input input.length).text
      = (m.display input input.length).text.length := by
  cases strategy with
  | wholeString => exact score_text legible tight
  | commonStart => rw [affinity, format_text_of_tight legible tight, commonLength_self]

/-- A mask that fits a text as well as any can is the first choice, whatever the other masks are. -/
lemma pick_of_affinity_eq {strategy : Strategy} {text : List Char}
    (best : m.affinity strategy text = text.length) (others : List Mask) :
    pick m others strategy text = 0 := by
  let f : Field := { primary := m, others, strategy }
  have primary : FirstBest (f.scores text) 0 text.length := by
    constructor
    case here => exact congrArg some best
    case highest =>
      intro score hs
      obtain ⟨other, -, rfl⟩ := List.mem_map.mp hs
      exact other.affinity_le strategy text
    case front => simp
  exact (f.pick_firstBest text).unique primary

/-- **How well a mask fits.**  The score of a whole text is its length, less two for each character that
is wasted and one for each literal that is passed by; neither are there more of these than characters and
literals.  The score of a common start lies between nothing and the length.  A mask without optional
slots has the highest of these scores for every text that it has formatted itself, whichever way it is
scored, so it is chosen for that text before all other masks. -/
theorem affinity_bounds (m : Mask) :
    (∀ text, m.affinity .wholeString text = text.length - 2 * Alignment.wasted (m.align 0 text true)
            - Alignment.skipped (m.align 0 text true)
        ∧ Alignment.wasted (m.align 0 text true) ≤ text.length
        ∧ Alignment.skipped (m.align 0 text true) ≤ m.slots.countP Slot.isLiteral)
      ∧ (∀ text, -(text.length + m.slots.countP Slot.isLiteral : ℤ) ≤ m.affinity .wholeString text
          ∧ m.affinity .wholeString text ≤ text.length)
      ∧ (∀ text, 0 ≤ m.affinity .commonStart text ∧ m.affinity .commonStart text ≤ text.length)
      ∧ (m.NoOptional → ∀ raw strategy,
          m.affinity strategy (m.format raw).text = (m.format raw).text.length
            ∧ ∀ others, pick m others strategy (m.format raw).text = 0) := by
  have wasted (text : List Char) : Alignment.wasted (m.align 0 text true) ≤ text.length := by
    rw [← m.length_align 0 text true]
    exact Alignment.wasted_le _
  refine ⟨?_, ?_, ?_, ?_⟩
  · exact fun text => ⟨m.affinity_wholeString text, wasted text, m.skipped_align_le text⟩
  · intro text
    have wasted := wasted text
    have skipped := m.skipped_align_le text
    refine ⟨?_, m.affinity_le .wholeString text⟩
    rw [affinity_wholeString]
    omega
  · exact fun text => ⟨Int.natCast_nonneg _, m.affinity_le .commonStart text⟩
  · intro noOptional raw strategy
    have accepted : ∀ c ∈ Alignment.kept (m.align 0 raw (absorbsLiterals raw)),
        m.acceptsAnywhere c = true := fun c hc => acceptsAnywhere_of_mem_kept hc
    have fits : m.affinity strategy (m.format raw).text = (m.format raw).text.length :=
      affinity_text strategy noOptional.legible
        (Regular.tight_layout .afterValue (Or.inl noOptional) accepted)
    exact ⟨fits, pick_of_affinity_eq fits⟩

/-- Filled from the right, with digits as literals, and with other masks that fit as well or are longer.
Of the raw text a character is wasted, and every literal is passed by. -/
theorem exists_affinity_bounds : ∃ (m : Mask) (others : List Mask), m.NoOptional
    ∧ m.rightToLeft = true ∧ m ∈ others
    ∧ m.affinity .wholeString "x79".toList = 3 - 2 * 1 - 3
    ∧ (m.format "x79".toList).text = "17392".toList
    ∧ m.affinity .wholeString "17392".toList = 5 ∧ m.affinity .commonStart "17392".toList = 5
    ∧ pick m others .wholeString "17392".toList = 0 ∧ pick m others .commonStart "17392".toList = 0 := by
  let digit : Slot := .value .digit false
  let m : Mask := ⟨[], [.literal '1', digit, .literal '3', digit, .literal '2'], true, true⟩
  let n : Mask := ⟨[], [digit, digit, digit, digit, digit, .literal '!'], true, false⟩
  have noOptional : m.NoOptional := by
    simp [NoOptional, m, digit, Slot.isMandatory, Slot.isLiteral]
  have text : (m.format "x79".toList).text = "17392".toList := by decide
  have fits := m.affinity_bounds.2.2.2 noOptional "x79".toList
  rw [text] at fits
  exact ⟨m, [n, m], noOptional, rfl, by simp, by decide, text, (fits _).1, (fits _).1, (fits _).2 _,
    (fits _).2 _⟩

end Mask

end MaskedInput
