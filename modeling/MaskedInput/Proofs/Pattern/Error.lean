import MaskedInput.Proofs.Pattern.Reading

/-!
# What the error of a pattern says

A pattern is refused at the first character that no continuation can make up for.  Where the pattern
only ends too early, it is the group or the escape that is still open that is reported, and the
pattern can be completed.

* `PatternError.Cause.char` — the character that an error is about.
* `PatternError.Unrecoverable` — what stands behind an offset makes no difference any more.
* **`PatternError.Explains`** — what an error says of a pattern, cause by cause.
* `Reads.openedIn` — an open group has the offset of its opening bracket.
* `Reads.completed` — what has been read can be completed.
* **`explains_of_slots_eq_error`** — every refused pattern is as its error says.
-/

namespace MaskedInput

namespace PatternError

/-- **The character that an error is about.** -/
def Cause.char : Cause → Char
  | unterminatedEscape => '\\'
  | unclosedBracket b => b.opening
  | nestedBracket b => b.opening
  | unmatchedBracket b => b.closing
  | mismatchedBracket expected => expected.other.closing
  | unknownSymbol c => c

/-- What is in front of the offset can be completed, but the character there is wrong whatever
comes behind it. -/
def Unrecoverable (notations : List Notation) (pattern : List Char) (e : PatternError) : Prop :=
  (∀ pattern', pattern'.take (e.position + 1) = pattern.take (e.position + 1) →
      Pattern.slots notations pattern' = .error e)
    ∧ ∃ more slots, Pattern.slots notations (pattern.take e.position ++ more) = .ok slots

/-- **What an error says of a pattern.** -/
def Explains (notations : List Notation) (pattern : List Char) (e : PatternError) : Prop :=
  match e.cause with
  | .unterminatedEscape => e.position + 1 = pattern.length
      ∧ ∀ c, (∃ slots, Pattern.slots notations (pattern ++ [c]) = .ok slots)
        ∨ ∃ b i, Pattern.slots notations (pattern ++ [c]) = .error ⟨.unclosedBracket b, i⟩
  | .unclosedBracket b => ∃ slots, Pattern.slots notations (pattern ++ [b.closing]) = .ok slots
  | .nestedBracket _ => Unrecoverable notations pattern e
  | .unmatchedBracket _ => Unrecoverable notations pattern e
  | .mismatchedBracket _ => Unrecoverable notations pattern e
  | .unknownSymbol _ => Unrecoverable notations pattern e

end PatternError

namespace Pattern

variable {notations : List Notation} {group behind : Option OpenGroup} {i j : ℕ} {g : OpenGroup}
  {text : List Char} {slots : List Slot} {c : Char} {e : PatternError}

/-! ## What has been read -/

/-- A group is opened in a part of the pattern that starts at offset `i`. -/
def OpenGroup.OpenedIn (g : OpenGroup) (i : ℕ) (text : List Char) : Prop :=
  ∃ before inside, text = before ++ g.bracket.opening :: inside
    ∧ g.position = i + before.length

lemma OpenGroup.OpenedIn.append_left (front : List Char) (h : g.OpenedIn (i + front.length) text) :
    g.OpenedIn i (front ++ text) := by
  obtain ⟨before, inside, rfl, position⟩ := h
  refine ⟨front ++ before, inside, (List.append_assoc _ _ _).symm, ?_⟩
  rw [position, List.length_append, Nat.add_assoc]

lemma OpenGroup.OpenedIn.getElem?_position (h : g.OpenedIn 0 text) :
    text[g.position]? = some g.bracket.opening := by
  obtain ⟨before, inside, rfl, position⟩ := h
  rw [position, Nat.zero_add]
  simp

/-- A group that is open behind a part of the pattern was open before, or is opened in it. -/
lemma Reads.openedIn (h : Reads notations group i text slots behind j) (ends : behind = some g) :
    group = some g ∨ g.OpenedIn i text := by
  induction h with
  | done => exact Or.inl ends
  | escape c _ ih => exact (ih ends).imp_right (OpenGroup.OpenedIn.append_left ['\\', c])
  | @opens b _ i _ text _ _ ih =>
      obtain same | later := ih ends
      · obtain rfl : (⟨b, i⟩ : OpenGroup) = g := Option.some.inj same
        exact Or.inr ⟨[], text, rfl, rfl⟩
      · exact Or.inr (later.append_left [b.opening])
  | closes g _ ih =>
      obtain same | later := ih ends
      · cases same
      · exact Or.inr (later.append_left [g.bracket.closing])
  | @plain c _ _ _ _ _ _ _ ih =>
      obtain same | later := ih ends
      · cases same
      · exact Or.inr (later.append_left [c])
  | @symbol c _ _ _ _ _ _ _ _ _ _ ih =>
      exact (ih ends).imp_right (OpenGroup.OpenedIn.append_left [c])

/-- What closes the open group, if there is one. -/
def closingOf : Option OpenGroup → List Char
  | none => []
  | some g => [g.bracket.closing]

/-- What has been read can be completed. -/
lemma Reads.completed (h : Reads notations none 0 text slots behind j) :
    Pattern.slots notations (text ++ closingOf behind) = .ok slots := by
  rw [Pattern.slots, slotsFrom_eq_ok_iff]
  cases behind with
  | none =>
      rw [closingOf, List.append_nil]
      exact ⟨j, h⟩
  | some g =>
      have closed := h.append (Reads.closes g (Reads.done none (j + 1)))
      rw [List.append_nil] at closed
      exact ⟨j + 1, closed⟩

lemma Reads.slots_eq_error (h : Reads notations none 0 text slots behind j) {rest : List Char}
    (refused : Refuses notations behind j rest e) :
    Pattern.slots notations (text ++ rest) = .error e :=
  slotsFrom_eq_error_iff.mpr ⟨text, rest, slots, behind, j, rfl, h, refused⟩

/-! ## Where the reading stops -/

/-- The reading stops at a character that nothing behind it can make up for. -/
lemma Reads.unrecoverable (h : Reads notations none 0 text slots behind e.position)
    (refused : ∀ rest, Refuses notations behind e.position (c :: rest) e) (rest : List Char) :
    e.Unrecoverable notations (text ++ c :: rest) := by
  have place : e.position = text.length := by rw [h.offset_eq, Nat.zero_add]
  constructor
  · intro pattern' same
    have start : (text ++ c :: rest).take (e.position + 1) = text ++ [c] := by
      rw [place, List.take_length_add_append]
      rfl
    have split : pattern' = text ++ c :: pattern'.drop (e.position + 1) := by
      conv_lhs => rw [← List.take_append_drop (e.position + 1) pattern', same, start]
      rw [List.append_assoc, List.singleton_append]
    rw [split]
    exact h.slots_eq_error (refused _)
  · refine ⟨closingOf behind, slots, ?_⟩
    rw [place, List.take_left]
    exact h.completed

/-- An escape without a character can be completed, but the group may then still be open. -/
lemma Reads.escaped (h : Reads notations none 0 text slots behind j) (c : Char) :
    (∃ slots, Pattern.slots notations (text ++ ['\\', c]) = .ok slots)
      ∨ ∃ b i, Pattern.slots notations (text ++ ['\\', c]) = .error ⟨.unclosedBracket b, i⟩ := by
  have read := h.append (Reads.escape c (Reads.done behind (j + 2)))
  cases behind with
  | none => exact Or.inl ⟨_, slotsFrom_eq_ok_iff.mpr ⟨_, read⟩⟩
  | some g =>
      have unclosed := read.slots_eq_error (Refuses.unclosed g (j + 2))
      rw [List.append_nil] at unclosed
      exact Or.inr ⟨g.bracket, g.position, unclosed⟩

/-- **Every refused pattern** is as its error says: the character at the offset is the one that the
error is about, and whether the pattern can be completed depends on the cause. -/
theorem explains_of_slots_eq_error {notations : List Notation} {pattern : List Char}
    {e : PatternError} (h : Pattern.slots notations pattern = .error e) :
    e.position < pattern.length ∧ pattern[e.position]? = some e.cause.char
      ∧ e.Explains notations pattern := by
  suffices said : pattern[e.position]? = some e.cause.char ∧ e.Explains notations pattern from
    ⟨(List.getElem?_eq_some_iff.mp said.1).1, said⟩
  obtain ⟨text, rest, slots, behind, j, rfl, reads, refused⟩ := slotsFrom_eq_error_iff.mp h
  have place : j = text.length := by rw [reads.offset_eq, Nat.zero_add]
  have here (c : Char) (rest : List Char) : (text ++ c :: rest)[j]? = some c := by
    rw [place]
    simp
  cases refused with
  | unterminated =>
      refine ⟨here _ _, ?_, fun c => ?_⟩
      · rw [place, List.length_append, List.length_singleton]
      · rw [List.append_assoc]
        exact reads.escaped c
  | unclosed g =>
      obtain closed | opened := reads.openedIn rfl
      · cases closed
      · rw [List.append_nil]
        exact ⟨opened.getElem?_position, slots, reads.completed⟩
  | nested g b _ rest => exact ⟨here _ _, reads.unrecoverable (Refuses.nested g b j) rest⟩
  | unmatched b _ rest => exact ⟨here _ _, reads.unrecoverable (Refuses.unmatched b j) rest⟩
  | mismatched g _ rest => exact ⟨here _ _, reads.unrecoverable (Refuses.mismatched g j) rest⟩
  | unknown ordinary unknown _ rest =>
      exact ⟨here _ _, reads.unrecoverable (Refuses.unknown ordinary unknown j) rest⟩

/-- A symbol that does not exist, a group that is still open, and an escape at the very end. -/
theorem exists_slots_eq_error :
    (Pattern.slots [] "[0]-[0x]".toList = .error ⟨.unknownSymbol 'x', 6⟩
      ∧ PatternError.Unrecoverable [] "[0]-[0x]".toList ⟨.unknownSymbol 'x', 6⟩)
    ∧ (Pattern.slots [] "é[0\\]".toList = .error ⟨.unclosedBracket .square, 1⟩
      ∧ PatternError.Explains [] "é[0\\]".toList ⟨.unclosedBracket .square, 1⟩)
    ∧ (Pattern.slots [] "(\\".toList = .error ⟨.unterminatedEscape, 1⟩
      ∧ PatternError.Explains [] "(\\".toList ⟨.unterminatedEscape, 1⟩) := by
  have unknown : Pattern.slots [] "[0]-[0x]".toList = .error ⟨.unknownSymbol 'x', 6⟩ := by rfl
  have unclosed : Pattern.slots [] "é[0\\]".toList = .error ⟨.unclosedBracket .square, 1⟩ := by rfl
  have unterminated : Pattern.slots [] "(\\".toList = .error ⟨.unterminatedEscape, 1⟩ := by rfl
  exact ⟨⟨unknown, (explains_of_slots_eq_error unknown).2.2⟩,
    ⟨unclosed, (explains_of_slots_eq_error unclosed).2.2⟩,
    ⟨unterminated, (explains_of_slots_eq_error unterminated).2.2⟩⟩

end Pattern

end MaskedInput
