import Mathlib.Data.List.Basic
import MaskedInput.Pattern.Compile
import MaskedInput.Pattern.Grammar

/-!
# Reading a pattern step by step

A pattern is read from left to right, and all that is remembered at any point is the offset and the
group that is open there.  `Reads` describes how a part of a pattern is read, and `Refuses` where the
reading stops.  Together they say what becomes of any pattern at all.

* `Reads` — a part of a pattern is read, and leads from one offset and open group to others.
* `Refuses` — the reading cannot go on, and the error that is reported for it.
* `exists_reads` — every pattern is read up to its end, or up to the point where it is refused.
* **`slotsFrom_eq_ok_iff`**, **`slotsFrom_eq_error_iff`** — a pattern has the slots that are read up
  to its end, or the error of the point where the reading stops.
-/

namespace MaskedInput

lemma Bracket.other_ne (b : Bracket) : b ≠ b.other := by cases b <;> exact Bracket.noConfusion

lemma Bracket.eq_other_of_ne {a b : Bracket} (h : a ≠ b) : b = a.other := by
  cases a with
  | square =>
      cases b with
      | square => exact absurd rfl h
      | curly => rfl
  | curly =>
      cases b with
      | square => rfl
      | curly => exact absurd rfl h

namespace Pattern

/-! ## The roles of characters -/

lemma Role.of_escape : Role.of '\\' = .escape := by decide

lemma Role.of_opening (b : Bracket) : Role.of b.opening = .opens b := by cases b <;> rfl

lemma Role.of_closing (b : Bracket) : Role.of b.closing = .closes b := by cases b <;> rfl

lemma Role.eq_of_escape {c : Char} (h : Role.of c = .escape) : c = '\\' := by
  simp only [Role.of] at h
  split_ifs at h with escape
  exact escape

lemma Role.eq_of_opens {c : Char} {b : Bracket} (h : Role.of c = .opens b) : c = b.opening := by
  simp only [Role.of] at h
  split_ifs at h
  all_goals
    obtain rfl := Role.opens.inj h
    assumption

lemma Role.eq_of_closes {c : Char} {b : Bracket} (h : Role.of c = .closes b) : c = b.closing := by
  simp only [Role.of] at h
  split_ifs at h
  all_goals
    obtain rfl := Role.closes.inj h
    assumption

lemma isSpecial_iff {c : Char} :
    isSpecial c = true ↔ c = '\\' ∨ ∃ b : Bracket, c = b.opening ∨ c = b.closing := by
  constructor
  · intro special
    have cases : c = '\\' ∨ c = '[' ∨ c = ']' ∨ c = '\x7b' ∨ c = '\x7d' := by
      simpa [isSpecial] using special
    obtain rfl | rfl | rfl | rfl | rfl := cases
    · exact Or.inl rfl
    · exact Or.inr ⟨.square, Or.inl rfl⟩
    · exact Or.inr ⟨.square, Or.inr rfl⟩
    · exact Or.inr ⟨.curly, Or.inl rfl⟩
    · exact Or.inr ⟨.curly, Or.inr rfl⟩
  · rintro (rfl | ⟨b, rfl | rfl⟩)
    · rfl
    · cases b <;> rfl
    · cases b <;> rfl

lemma Role.of_eq_ordinary_iff {c : Char} : Role.of c = .ordinary ↔ isSpecial c = false := by
  rw [← Bool.not_eq_true, isSpecial_iff]
  constructor
  · rintro ordinary (rfl | ⟨b, rfl | rfl⟩)
    · exact Role.noConfusion ordinary
    · rw [of_opening] at ordinary
      exact Role.noConfusion ordinary
    · rw [of_closing] at ordinary
      exact Role.noConfusion ordinary
  · intro plain
    cases role : Role.of c with
    | escape => exact absurd (Or.inl (eq_of_escape role)) plain
    | opens b => exact absurd (Or.inr ⟨b, Or.inl (eq_of_opens role)⟩) plain
    | closes b => exact absurd (Or.inr ⟨b, Or.inr (eq_of_closes role)⟩) plain
    | ordinary => rfl

/-! ## Reading a part of a pattern -/

/-- **A part of a pattern is read.**  In front of it stand the open group and the offset of its start;
behind it, its slots, and the group and the offset that it leads to. -/
inductive Reads (notations : List Notation) :
    Option OpenGroup → ℕ → List Char → List Slot → Option OpenGroup → ℕ → Prop where
  | done (group : Option OpenGroup) (i : ℕ) : Reads notations group i [] [] group i
  | escape (c : Char) {group behind : Option OpenGroup} {i j : ℕ} {text : List Char}
      {slots : List Slot} (h : Reads notations group (i + 2) text slots behind j) :
      Reads notations group i ('\\' :: c :: text) (.literal c :: slots) behind j
  | opens (b : Bracket) {behind : Option OpenGroup} {i j : ℕ} {text : List Char}
      {slots : List Slot} (h : Reads notations (some ⟨b, i⟩) (i + 1) text slots behind j) :
      Reads notations none i (b.opening :: text) slots behind j
  | closes (g : OpenGroup) {behind : Option OpenGroup} {i j : ℕ} {text : List Char}
      {slots : List Slot} (h : Reads notations none (i + 1) text slots behind j) :
      Reads notations (some g) i (g.bracket.closing :: text) slots behind j
  | plain {c : Char} (ordinary : isSpecial c = false) {behind : Option OpenGroup} {i j : ℕ}
      {text : List Char} {slots : List Slot}
      (h : Reads notations none (i + 1) text slots behind j) :
      Reads notations none i (c :: text) (.literal c :: slots) behind j
  | symbol {c : Char} (ordinary : isSpecial c = false) {g : OpenGroup} {slot : Slot}
      (known : Notation.resolve? notations (g.bracket = .curly) c = some slot)
      {behind : Option OpenGroup} {i j : ℕ} {text : List Char} {slots : List Slot}
      (h : Reads notations (some g) (i + 1) text slots behind j) :
      Reads notations (some g) i (c :: text) (slot :: slots) behind j

/-- **The reading stops** at an offset, and the error says why. -/
inductive Refuses (notations : List Notation) :
    Option OpenGroup → ℕ → List Char → PatternError → Prop where
  | unterminated (group : Option OpenGroup) (i : ℕ) :
      Refuses notations group i ['\\'] ⟨.unterminatedEscape, i⟩
  | unclosed (g : OpenGroup) (i : ℕ) :
      Refuses notations (some g) i [] ⟨.unclosedBracket g.bracket, g.position⟩
  | nested (g : OpenGroup) (b : Bracket) (i : ℕ) (rest : List Char) :
      Refuses notations (some g) i (b.opening :: rest) ⟨.nestedBracket b, i⟩
  | unmatched (b : Bracket) (i : ℕ) (rest : List Char) :
      Refuses notations none i (b.closing :: rest) ⟨.unmatchedBracket b, i⟩
  | mismatched (g : OpenGroup) (i : ℕ) (rest : List Char) :
      Refuses notations (some g) i (g.bracket.other.closing :: rest)
        ⟨.mismatchedBracket g.bracket, i⟩
  | unknown {c : Char} (ordinary : isSpecial c = false) {g : OpenGroup}
      (unknown : Notation.resolve? notations (g.bracket = .curly) c = none) (i : ℕ)
      (rest : List Char) : Refuses notations (some g) i (c :: rest) ⟨.unknownSymbol c, i⟩

variable {notations : List Notation} {group behind further : Option OpenGroup} {i j k : ℕ}
  {pattern text rest : List Char} {slots more : List Slot} {e : PatternError}

namespace Reads

/-- What is read piece by piece is read as a whole. -/
lemma append (h : Reads notations group i text slots behind j)
    (h' : Reads notations behind j rest more further k) :
    Reads notations group i (text ++ rest) (slots ++ more) further k := by
  induction h with
  | done => exact h'
  | escape c _ ih => exact Reads.escape c (ih h')
  | opens b _ ih => exact Reads.opens b (ih h')
  | closes g _ ih => exact Reads.closes g (ih h')
  | plain ordinary _ ih => exact Reads.plain ordinary (ih h')
  | symbol ordinary known _ ih => exact Reads.symbol ordinary known (ih h')

lemma offset_eq (h : Reads notations group i text slots behind j) : j = i + text.length := by
  induction h with
  | done => rfl
  | _ =>
      simp only [List.length_cons]
      omega

/-- What is read in front does not bear on the rest but for the group and the offset it leads to. -/
lemma slotsFrom_append (h : Reads notations group i text slots behind j) (rest : List Char) :
    slotsFrom notations group i (text ++ rest)
      = (slots ++ ·) <$> slotsFrom notations behind j rest := by
  induction h with
  | done group i => exact (id_map _).symm
  | escape c _ ih =>
      rw [List.cons_append, List.cons_append, slotsFrom.eq_def]
      simp [Role.of_escape, ih]
  | opens b _ ih =>
      rw [List.cons_append, slotsFrom.eq_def]
      simp [Role.of_opening, ih]
  | closes g _ ih =>
      rw [List.cons_append, slotsFrom.eq_def]
      simp [Role.of_closing, ih]
  | plain ordinary _ ih =>
      rw [List.cons_append, slotsFrom.eq_def]
      simp [Role.of_eq_ordinary_iff.mpr ordinary, ih]
  | symbol ordinary known _ ih =>
      rw [List.cons_append, slotsFrom.eq_def]
      simp [Role.of_eq_ordinary_iff.mpr ordinary, known, ih]

end Reads

lemma Refuses.slotsFrom_eq (h : Refuses notations group i rest e) :
    slotsFrom notations group i rest = .error e := by
  cases h with
  | unterminated =>
      rw [slotsFrom.eq_def]
      simp [Role.of_escape]
  | unclosed => rfl
  | nested =>
      rw [slotsFrom.eq_def]
      simp [Role.of_opening]
  | unmatched =>
      rw [slotsFrom.eq_def]
      simp [Role.of_closing]
  | mismatched g =>
      rw [slotsFrom.eq_def]
      simp [Role.of_closing, Bracket.other_ne]
  | unknown ordinary unknown =>
      rw [slotsFrom.eq_def]
      simp [Role.of_eq_ordinary_iff.mpr ordinary, unknown]

/-- **Every pattern** is read up to some point, which is its end, or where the reading stops. -/
theorem exists_reads (notations : List Notation) (group : Option OpenGroup) (i : ℕ)
    (pattern : List Char) :
    ∃ text rest slots behind j, pattern = text ++ rest
      ∧ Reads notations group i text slots behind j
      ∧ (rest = [] ∧ behind = none ∨ ∃ e, Refuses notations behind j rest e) := by
  -- Where nothing can be read, the reading stops at once; else the rest is read in the state behind.
  have stops {group : Option OpenGroup} {i : ℕ} {rest : List Char} {e : PatternError}
      (h : Refuses notations group i rest e) :
      ∃ text rest' slots behind j, rest = text ++ rest'
        ∧ Reads notations group i text slots behind j
        ∧ (rest' = [] ∧ behind = none ∨ ∃ e, Refuses notations behind j rest' e) :=
    ⟨[], rest, [], group, i, rfl, Reads.done group i, Or.inr ⟨e, h⟩⟩
  induction group, i, pattern using slotsFrom.induct notations with
  | case1 i => exact ⟨[], [], [], none, i, rfl, Reads.done none i, Or.inl ⟨rfl, rfl⟩⟩
  | case2 g i => exact stops (Refuses.unclosed g i)
  | case3 group i c role =>
      obtain rfl := Role.eq_of_escape role
      exact stops (Refuses.unterminated group i)
  | case4 group i c role escaped _ ih =>
      obtain rfl := Role.eq_of_escape role
      obtain ⟨text, rest, slots, behind, j, rfl, reads, stop⟩ := ih
      exact ⟨_ :: _ :: text, rest, _, behind, j, rfl, Reads.escape escaped reads, stop⟩
  | case5 i c _ b role ih =>
      obtain rfl := Role.eq_of_opens role
      obtain ⟨text, rest, slots, behind, j, rfl, reads, stop⟩ := ih
      exact ⟨_ :: text, rest, _, behind, j, rfl, Reads.opens b reads, stop⟩
  | case6 i c rest b g role =>
      obtain rfl := Role.eq_of_opens role
      exact stops (Refuses.nested g b i rest)
  | case7 i c rest b role =>
      obtain rfl := Role.eq_of_closes role
      exact stops (Refuses.unmatched b i rest)
  | case8 i c _ g role ih =>
      obtain rfl := Role.eq_of_closes role
      obtain ⟨text, rest, slots, behind, j, rfl, reads, stop⟩ := ih
      exact ⟨_ :: text, rest, _, behind, j, rfl, Reads.closes g reads, stop⟩
  | case9 i c rest b g role differ =>
      obtain rfl := Role.eq_of_closes role
      obtain rfl := Bracket.eq_other_of_ne differ
      exact stops (Refuses.mismatched g i rest)
  | case10 i c _ role ih =>
      obtain ⟨text, rest, slots, behind, j, rfl, reads, stop⟩ := ih
      have ordinary := Role.of_eq_ordinary_iff.mp role
      exact ⟨_ :: text, rest, _, behind, j, rfl, Reads.plain ordinary reads, stop⟩
  | case11 i c rest g role unknown =>
      exact stops (Refuses.unknown (Role.of_eq_ordinary_iff.mp role) unknown i rest)
  | case12 i c _ g role slot known ih =>
      obtain ⟨text, rest, slots, behind, j, rfl, reads, stop⟩ := ih
      have ordinary := Role.of_eq_ordinary_iff.mp role
      exact ⟨_ :: text, rest, _, behind, j, rfl, Reads.symbol ordinary known reads, stop⟩

/-! ## What becomes of a pattern -/

/-- A pattern has the slots that are read up to its end, where no group is open. -/
theorem slotsFrom_eq_ok_iff :
    slotsFrom notations group i pattern = .ok slots
      ↔ ∃ j, Reads notations group i pattern slots none j := by
  constructor
  · intro compiles
    obtain ⟨text, rest, read, behind, j, rfl, reads, ⟨rfl, rfl⟩ | ⟨e, refused⟩⟩ :=
      exists_reads notations group i pattern
    · rw [reads.slotsFrom_append] at compiles
      obtain rfl : read = slots := by simpa [slotsFrom] using compiles
      rw [List.append_nil]
      exact ⟨j, reads⟩
    · rw [reads.slotsFrom_append, refused.slotsFrom_eq] at compiles
      simp at compiles
  · rintro ⟨j, reads⟩
    rw [← List.append_nil pattern, reads.slotsFrom_append]
    simp [slotsFrom]

/-- A pattern has the error of the point where the reading stops. -/
theorem slotsFrom_eq_error_iff :
    slotsFrom notations group i pattern = .error e
      ↔ ∃ text rest slots behind j, pattern = text ++ rest
        ∧ Reads notations group i text slots behind j ∧ Refuses notations behind j rest e := by
  constructor
  · intro fails
    obtain ⟨text, rest, read, behind, j, rfl, reads, ⟨rfl, rfl⟩ | ⟨e', refused⟩⟩ :=
      exists_reads notations group i pattern
    · rw [reads.slotsFrom_append] at fails
      simp [slotsFrom] at fails
    · rw [reads.slotsFrom_append, refused.slotsFrom_eq] at fails
      obtain rfl : e' = e := by simpa using fails
      exact ⟨text, rest, read, behind, j, rfl, reads, refused⟩
  · rintro ⟨text, rest, read, behind, j, rfl, reads, refused⟩
    rw [reads.slotsFrom_append, refused.slotsFrom_eq]
    rfl

end Pattern

end MaskedInput
