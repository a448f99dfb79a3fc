import MaskedInput.Proofs.Affinity.Fit
import MaskedInput.Proofs.Layout.Single

/-!
# What the score of a text counts

The score of a whole text reads its literals as formatting, and counts each character that a value slot
takes at its place.  Formatting reads the text in the same way, and then lays out all that was kept, in
another walk over the slots.  Over mandatory slots the two walks stay side by side: a spare character is
kept, but the slot that refused it drops it again.  Only a single character is read differently, since it
is formatted as a keystroke.

* `Alignment.accepted`, `Mask.accepted` — the characters that value slots take at their place;
  `Alignment.score_eq_accepted` — what they are worth.
* `Alignment.taken_place_alignChar`, `Alignment.taken_place_kept` — the walk over what was kept places the
  accepted characters.
* `Mask.NoOptional.value_layout_kept` — so they are the value, if literals are absorbed.
* `Mask.takesForLiteral` — the score takes a keystroke for a literal.
* **`Mask.NoOptional.accepted_eq_value_iff`** — in no other case does the score count other characters than
  the value holds.
-/

namespace MaskedInput

namespace Alignment

/-! ## The accepted characters -/

/-- **The accepted characters** of a text: those that a value slot takes at their place. -/
def accepted (steps : List Step) : List Char := (steps.filter (·.fate = .placed)).map (·.char)

/-- How many characters of the text are read as literals. -/
def absorbed (steps : List Step) : ℕ := steps.countP (·.fate = .absorbed)

lemma accepted_cons (step : Step) (steps : List Step) :
    accepted (step :: steps)
      = if step.fate = .placed then step.char :: accepted steps else accepted steps := by
  rw [accepted, List.filter_cons]
  simp only [decide_eq_true_eq]
  split_ifs <;> rfl

lemma accepted_reverse (steps : List Step) : accepted steps.reverse = (accepted steps).reverse := by
  simp [accepted, List.filter_reverse]

/-- A character is accepted, read as a literal, or wasted. -/
lemma length_eq_accepted (steps : List Step) :
    steps.length = (accepted steps).length + absorbed steps + wasted steps := by
  induction steps with
  | nil => rfl
  | cons step steps ih =>
      have literal : absorbed (step :: steps)
          = absorbed steps + if step.fate = .absorbed then 1 else 0 := by
        simp [absorbed, List.countP_cons]
      have unused : wasted (step :: steps) = wasted steps + if !step.fate.consumes then 1 else 0 :=
        List.countP_cons ..
      rw [accepted_cons, literal, unused, List.length_cons, ih]
      cases step.fate <;> simp [Fate.consumes] <;> omega

/-- **What the score counts**: one for each accepted character and each that is read as a literal, minus
one for each that is wasted and each literal that is passed by. -/
lemma score_eq_accepted (steps : List Step) :
    score steps = (accepted steps).length + absorbed steps - wasted steps - skipped steps := by
  have length := length_eq_accepted steps
  rw [score_eq]
  omega

section Walk

open Layout

variable (anywhere : Char → Bool)

lemma unplaced_ne_placed (c : Char) : unplaced anywhere c ≠ .placed := by
  rw [unplaced]
  split_ifs <;> exact Fate.noConfusion

/-- **One character in both walks.**  With what is kept of it in front, the walk over mandatory slots places
it if it is accepted, and goes on at the slots that the alignment leaves ahead. -/
lemma taken_place_alignChar (c : Char) {ahead : List Slot}
    (mandatory : ∀ s ∈ ahead, s.isLiteral = false → s.isMandatory = true) (k i : ℕ)
    (rest : List (Char × ℕ)) :
    ∃ k', taken (place ahead k
        (if (alignChar anywhere c ahead).1.fate.keeps then (c, i) :: rest else rest))
      = if (alignChar anywhere c ahead).1.fate = .placed
        then (c, i) :: taken (place (alignChar anywhere c ahead).2 k' rest)
        else taken (place (alignChar anywhere c ahead).2 k' rest) := by
  fun_induction alignChar anywhere c ahead generalizing k with
  | case1 =>
      refine ⟨k, ?_⟩
      rw [if_neg (unplaced_ne_placed anywhere c)]
      rfl
  | case2 slots =>
      rw [taken_place_literal]
      exact ⟨k + 1, rfl⟩
  | case3 l slots hne step behind eq ih =>
      rw [eq] at ih
      rw [taken_place_literal]
      exact ih (List.forall_mem_of_forall_mem_cons mandatory) (k + 1)
  | case4 kind optional slots fits =>
      refine ⟨k + 1, ?_⟩
      show taken (place _ k ((c, i) :: rest)) = (c, i) :: taken (place slots (k + 1) rest)
      rw [place_value_of_accepts _ _ _ _ _ i fits, taken_value]
  | case5 =>
      exact absurd (Slot.optional_eq_false mandatory) (by simp)
  | case6 kind optional slots refuses =>
      have misfits : kind.accepts c = false := by simpa using refuses
      obtain rfl := Slot.optional_eq_false mandatory
      refine ⟨k, ?_⟩
      dsimp only
      rw [if_neg (unplaced_ne_placed anywhere c)]
      -- If the character is kept, the slot that refused it drops it again.
      split_ifs
      · rw [place_mandatory_of_refuses _ _ _ _ i misfits]
      · rfl

/-- **The walk over what was kept** places the accepted characters, whatever positions they carry. -/
lemma taken_place_kept {ahead : List Slot}
    (mandatory : ∀ s ∈ ahead, s.isLiteral = false → s.isMandatory = true) (text : List Char) (k : ℕ)
    {input : List (Char × ℕ)} (same : input.map Prod.fst = kept (alignFrom anywhere ahead text)) :
    (taken (place ahead k input)).map Prod.fst = accepted (alignFrom anywhere ahead text) := by
  induction text generalizing ahead k input with
  | nil =>
      rw [List.map_eq_nil_iff.mp same, place_nil_input]
      rfl
  | cons c text ih =>
      have others : ∀ s ∈ (alignChar anywhere c ahead).2, s.isLiteral = false → s.isMandatory = true :=
        fun s hs => mandatory s (alignChar_ahead anywhere c ahead s hs)
      rw [alignFrom, kept_cons, alignChar_char] at same
      -- The input without what was kept of the first character.
      obtain ⟨i, rest, first, behind⟩ : ∃ i rest,
          input = (if (alignChar anywhere c ahead).1.fate.keeps then (c, i) :: rest else rest)
            ∧ rest.map Prod.fst = kept (alignFrom anywhere (alignChar anywhere c ahead).2 text) := by
        split_ifs at same ⊢ with keeps
        · obtain ⟨⟨_, i⟩, rest, rfl, rfl, behind⟩ := List.map_eq_cons_iff.mp same
          exact ⟨i, rest, rfl, behind⟩
        · exact ⟨0, input, rfl, same⟩
      obtain ⟨k', step⟩ := taken_place_alignChar anywhere c mandatory k i rest
      rw [alignFrom, accepted_cons, alignChar_char, ← ih others k' behind, first, step]
      split_ifs <;> rfl

/-- A single character is accepted if the first value slot takes it and no literal in front of this slot
equals it. -/
lemma placed_alignChar_iff (c : Char) {ahead : List Slot}
    (mandatory : ∀ s ∈ ahead, s.isLiteral = false → s.isMandatory = true) :
    (alignChar anywhere c ahead).1.fate = .placed
      ↔ (ahead.find? (!·.isLiteral)).any (·.accepts c) = true
        ∧ .literal c ∉ ahead.takeWhile Slot.isLiteral := by
  fun_induction alignChar anywhere c ahead with
  | case1 => simp [unplaced_ne_placed]
  | case2 slots =>
      rw [List.takeWhile_cons_of_pos rfl]
      simp
  | case3 l slots hne step behind eq ih =>
      rw [eq] at ih
      rw [List.find?_cons_of_neg (by simp [Slot.isLiteral]), List.takeWhile_cons_of_pos rfl,
        List.mem_cons, Slot.literal.injEq]
      simpa [Ne.symm hne] using ih (List.forall_mem_of_forall_mem_cons mandatory)
  | case4 kind optional slots fits => simp [Slot.isLiteral, Slot.accepts, fits]
  | case5 =>
      exact absurd (Slot.optional_eq_false mandatory) (by simp)
  | case6 kind optional slots refuses =>
      simp [Slot.isLiteral, Slot.accepts, refuses, unplaced_ne_placed]

end Walk

end Alignment

/-! ## Masks in either direction -/

namespace Mask

variable {m : Mask}

/-- **The characters that the score of a whole text counts** as taken by a value slot, in the order of the
text. -/
def accepted (m : Mask) (text : List Char) : List Char := Alignment.accepted (m.align 0 text true)

/-- **The score takes a keystroke for a literal**: the text is a single character which the first value slot
takes, but a literal in front of this slot equals it. -/
def takesForLiteral (m : Mask) : List Char → Bool
  | [c] => m.firstTakes c && ((m.inReading m.slots).takeWhile Slot.isLiteral).contains (.literal c)
  | _ => false

lemma accepted_eq_inReading (m : Mask) (text : List Char) :
    m.accepted text = m.inReading (Alignment.accepted
      (Alignment.alignFrom m.acceptsAnywhere (m.inReading m.slots) (m.inReading text))) := by
  rw [accepted, align_absorbing, List.drop_zero]
  simp only [inReading]
  split_ifs
  · exact Alignment.accepted_reverse _
  · rfl

lemma affinity_eq_accepted (m : Mask) (text : List Char) :
    m.affinity .wholeString text = (m.accepted text).length + Alignment.absorbed (m.align 0 text true)
      - Alignment.wasted (m.align 0 text true) - Alignment.skipped (m.align 0 text true) :=
  Alignment.score_eq_accepted _

namespace NoOptional

/-- **The accepted characters are the value** of the layout of all that was kept, if literals are
absorbed. -/
lemma value_layout_kept (h : m.NoOptional) (tail : Tail) (text : List Char) :
    (m.layout tail (Alignment.kept (m.align 0 text true))).value = m.accepted text := by
  have kept : ((m.inReading (Alignment.kept (m.align 0 text true))).zipIdx).map Prod.fst
      = Alignment.kept (Alignment.alignFrom m.acceptsAnywhere (m.inReading m.slots) (m.inReading text)) := by
    rw [List.zipIdx_map_fst, kept_align_absorbing, inReading_inReading, List.drop_zero]
  rw [value_layout, Layout.value_eq_seats, seats_readLayout, ← Layout.map_fst_taken,
    Alignment.taken_place_kept m.acceptsAnywhere h.mandatory_inReading _ 0 kept, accepted_eq_inReading]

/-- A single character is accepted if the first value slot takes it, unless the score takes it for a
literal. -/
lemma accepted_singleton (h : m.NoOptional) (c : Char) :
    m.accepted [c] = if m.firstTakes c && !m.takesForLiteral [c] then [c] else [] := by
  have placed : (Alignment.alignChar m.acceptsAnywhere c (m.inReading m.slots)).1.fate = .placed
      ↔ (m.firstTakes c && !m.takesForLiteral [c]) = true := by
    rw [Alignment.placed_alignChar_iff _ _ h.mandatory_inReading, ← firstTakes, takesForLiteral]
    cases m.firstTakes c <;> simp
  rw [accepted_eq_inReading, inReading_singleton, Alignment.alignFrom, Alignment.accepted_cons,
    Alignment.alignChar_char, if_congr placed rfl rfl]
  split_ifs
  · exact m.inReading_singleton c
  · exact m.inReading_nil

/-- **The score counts what the value holds.**  Over a mask without optional slots, filled from either end,
the characters that the score of a whole text counts as taken by a value slot are those of the value of the
formatted text, in their order.  The one exception is a keystroke that the score takes for a literal: it
counts no character then, and the keystroke is the value. -/
theorem accepted_eq_value_iff (h : m.NoOptional) (text : List Char) :
    (m.accepted text = (m.format text).value ↔ m.takesForLiteral text = false)
      ∧ (m.takesForLiteral text = true → m.accepted text = [] ∧ (m.format text).value = text)
      ∧ m.affinity .wholeString text
          = (m.accepted text).length + Alignment.absorbed (m.align 0 text true)
            - Alignment.wasted (m.align 0 text true) - Alignment.skipped (m.align 0 text true) := by
  have pasted : (m.format text).value = (m.layout .afterValue (Alignment.kept (m.align 0 text
      (absorbsLiterals text)))).value := rfl
  rw [pasted, ← and_assoc]
  refine ⟨?_, m.affinity_eq_accepted text⟩
  cases text with
  | nil => simp [takesForLiteral, accepted, Alignment.accepted, Alignment.kept]
  | cons c text =>
      cases text with
      | nil =>
          have keystroke : absorbsLiterals [c] = false := rfl
          have literal (reads : m.takesForLiteral [c] = true) : m.firstTakes c = true := by
            rw [takesForLiteral, Bool.and_eq_true] at reads
            exact reads.1
          rw [keystroke, h.value_layout_kept_singleton, h.accepted_singleton]
          cases reads : m.takesForLiteral [c] with
          | false => simp
          | true => simp [literal reads]
      | cons d text =>
          have several : absorbsLiterals (c :: d :: text) = true := by simp [absorbsLiterals]
          rw [several, h.value_layout_kept]
          exact ⟨iff_of_true rfl rfl, fun reads => absurd reads Bool.false_ne_true⟩

/-- Filled from the right, with digits as literals.  The last four characters of the text fit; of the others,
which are wasted, the digit is kept but finds no slot.  As keystrokes, both digits of the literals become the
value.  The score takes the one for a literal that stands in front of the slots in reading direction, but not
the other. -/
theorem exists_accepted_eq_value : ∃ m : Mask, m.NoOptional ∧ m.rightToLeft = true
    ∧ m.accepted "x4a1732".toList = "73".toList
    ∧ m.accepted "x4a1732".toList = (m.format "x4a1732".toList).value
    ∧ m.affinity .wholeString "x4a1732".toList = 2 + 2 - 3 - 0
    ∧ m.takesForLiteral "2".toList = true
    ∧ m.accepted "2".toList = [] ∧ (m.format "2".toList).value = "2".toList
    ∧ m.accepted "1".toList = (m.format "1".toList).value := by
  let digit : Slot := .value .digit false
  let m : Mask := ⟨[], [.literal '1', digit, digit, .literal '2'], true, true⟩
  have noOptional : m.NoOptional := by
    simp [NoOptional, m, digit, Slot.isMandatory, Slot.isLiteral]
  have literal : m.takesForLiteral "2".toList = true := by decide +kernel
  obtain ⟨same, -, score⟩ := noOptional.accepted_eq_value_iff "x4a1732".toList
  obtain ⟨-, keystroke, -⟩ := noOptional.accepted_eq_value_iff "2".toList
  obtain ⟨other, -, -⟩ := noOptional.accepted_eq_value_iff "1".toList
  exact ⟨m, noOptional, rfl, by decide +kernel, same.mpr (by decide +kernel),
    score.trans (by decide +kernel), literal, (keystroke literal).1, (keystroke literal).2,
    other.mpr (by decide +kernel)⟩

/-- The keystroke is the value, but the score counts it as the literal in front of the slot. -/
theorem exists_accepted_ne_value : ∃ m : Mask, Mask.compile [] "1[0]".toList = .ok m ∧ m.NoOptional
    ∧ m.accepted "1".toList = [] ∧ (m.format "1".toList).value = "1".toList
    ∧ m.accepted "1".toList ≠ (m.format "1".toList).value
    ∧ m.affinity .wholeString "1".toList = 1 := by
  let m : Mask := ⟨"1[0]".toList, [.literal '1', .value .digit false], true, false⟩
  have noOptional : m.NoOptional := by simp [NoOptional, m, Slot.isMandatory, Slot.isLiteral]
  exact ⟨m, by decide +kernel, noOptional, by decide +kernel, by decide +kernel, by decide +kernel,
    by decide +kernel⟩

end NoOptional

end Mask

end MaskedInput
