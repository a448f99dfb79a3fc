import MaskedInput.Proofs.Pattern.Reading

/-!
# Patterns one after the other

The offset is only counted: it never decides how a pattern is read, and shows in nothing but the
offsets of errors, and of the groups that such errors may be about.  And a pattern that compiles
leaves no group open.  So what stands behind it is read as if it stood alone, at later offsets.

* `OpenGroup.shift`, `PatternError.shift` — the same group or error, so many characters later.
* `Reads.shift`, `Refuses.shift` — a step of the reading can be taken at any later offset.
* **`slotsFrom_shift`** — a pattern that starts later has the same slots, or the same error later.
* `slots_append_eq` — what a pattern becomes behind one that compiles.
* **`slots_append`** — slots are put one after the other, and errors come later by as many
  characters as stand in front.
-/

namespace MaskedInput

/-- The same error, `k` characters later. -/
def PatternError.shift (k : ℕ) (e : PatternError) : PatternError :=
  { e with position := k + e.position }

namespace Pattern

/-- The same group, opened `k` characters later. -/
def OpenGroup.shift (k : ℕ) (g : OpenGroup) : OpenGroup := { g with position := k + g.position }

variable {notations : List Notation} {group behind : Option OpenGroup} {i j : ℕ}
  {text rest : List Char} {slots : List Slot} {e : PatternError}

/-! ## Reading at a later offset -/

/-- What is read at some offset is read in the same way at a later one. -/
lemma Reads.shift (h : Reads notations group i text slots behind j) (k : ℕ) :
    Reads notations (group.map (OpenGroup.shift k)) (k + i) text slots
      (behind.map (OpenGroup.shift k)) (k + j) := by
  induction h with
  | done => exact Reads.done _ _
  | escape c _ ih => exact Reads.escape c ih
  | opens b _ ih => exact Reads.opens b ih
  | closes g _ ih => exact Reads.closes (g.shift k) ih
  | plain ordinary _ ih => exact Reads.plain ordinary ih
  | @symbol _ ordinary g _ known _ _ _ _ _ _ ih =>
      exact Reads.symbol ordinary (g := g.shift k) known ih

/-- Where the reading stops at some offset, it stops for the same cause at a later one.  An unclosed
group is reported where it was opened, and that is later by as much. -/
lemma Refuses.shift (h : Refuses notations group i rest e) (k : ℕ) :
    Refuses notations (group.map (OpenGroup.shift k)) (k + i) rest (e.shift k) := by
  cases h with
  | unterminated => exact Refuses.unterminated _ _
  | unclosed g => exact Refuses.unclosed (g.shift k) _
  | nested g b _ rest => exact Refuses.nested (g.shift k) b _ rest
  | unmatched b _ rest => exact Refuses.unmatched b _ rest
  | mismatched g _ rest => exact Refuses.mismatched (g.shift k) _ rest
  | @unknown _ ordinary g unknown _ rest =>
      exact Refuses.unknown ordinary (g := g.shift k) unknown _ rest

/-- **The offset at which a pattern starts** makes no difference but to the offset of its error. -/
theorem slotsFrom_shift (notations : List Notation) (group : Option OpenGroup) (i : ℕ)
    (pattern : List Char) (k : ℕ) :
    slotsFrom notations (group.map (OpenGroup.shift k)) (k + i) pattern
      = (slotsFrom notations group i pattern).mapError (PatternError.shift k) := by
  obtain ⟨text, rest, slots, behind, j, rfl, reads, stop⟩ := exists_reads notations group i pattern
  rw [reads.slotsFrom_append, (reads.shift k).slotsFrom_append]
  rcases stop with ⟨rfl, rfl⟩ | ⟨e, refused⟩
  · rfl
  · rw [refused.slotsFrom_eq, (refused.shift k).slotsFrom_eq]
    rfl

/-! ## A pattern behind another -/

/-- What becomes of a pattern behind one that compiles. -/
lemma slots_append_eq {front : List Char} (compiles : Pattern.slots notations front = .ok slots)
    (pattern : List Char) :
    Pattern.slots notations (front ++ pattern)
      = (slots ++ ·)
        <$> (Pattern.slots notations pattern).mapError (PatternError.shift front.length) := by
  -- No group is open behind the front, and as many characters have been counted as it has.
  obtain ⟨j, reads⟩ := slotsFrom_eq_ok_iff.mp compiles
  obtain rfl : j = front.length := by rw [reads.offset_eq, Nat.zero_add]
  calc Pattern.slots notations (front ++ pattern)
      = (slots ++ ·) <$> slotsFrom notations none front.length pattern :=
        reads.slotsFrom_append pattern
    _ = (slots ++ ·)
          <$> (Pattern.slots notations pattern).mapError (PatternError.shift front.length) :=
        congrArg _ (slotsFrom_shift notations none 0 pattern front.length)

/-- **Behind a pattern that compiles, every pattern is read as if it stood alone.**  If it compiles
too, then the two together compile, and their slots stand one after the other.  If it does not, the
two together are refused for the same cause and at the same character, which is now later by the
number of characters in front. -/
theorem slots_append {notations : List Notation} {front : List Char} {slots : List Slot}
    (compiles : Pattern.slots notations front = .ok slots) (pattern : List Char) :
    (∀ more, Pattern.slots notations pattern = .ok more →
        Pattern.slots notations (front ++ pattern) = .ok (slots ++ more))
      ∧ ∀ cause position, Pattern.slots notations pattern = .error ⟨cause, position⟩ →
        Pattern.slots notations (front ++ pattern) = .error ⟨cause, front.length + position⟩ := by
  constructor
  · intro more compiles'
    rw [slots_append_eq compiles, compiles']
    rfl
  · intro cause position fails
    rw [slots_append_eq compiles, fails]
    rfl

/-- In front stand a character of two octets and a group with an escaped bracket in it.  Behind them
comes a pattern that compiles, or one for each cause for which a pattern can be refused. -/
theorem exists_slots_append :
    Pattern.slots [] "é[0\\]]".toList = .ok [.literal 'é', .value .digit false, .literal ']']
    ∧ Pattern.slots [] "\x7bA\x7d№".toList = .ok [.value .letter true, .literal '№']
    ∧ Pattern.slots [] ("é[0\\]]".toList ++ "\x7bA\x7d№".toList)
      = .ok ([.literal 'é', .value .digit false, .literal ']']
          ++ [.value .letter true, .literal '№'])
    ∧ ∀ r ∈ [("№\\".toList, PatternError.mk .unterminatedEscape 1),
          ("№№[0".toList, ⟨.unclosedBracket .square, 2⟩),
          ("[0\x7b0\x7d]".toList, ⟨.nestedBracket .curly, 2⟩),
          ("0\x7d".toList, ⟨.unmatchedBracket .curly, 1⟩),
          ("\x7b0]".toList, ⟨.mismatchedBracket .curly, 2⟩),
          ("№[H]".toList, ⟨.unknownSymbol 'H', 2⟩)],
        Pattern.slots [] r.1 = .error r.2
        ∧ Pattern.slots [] ("é[0\\]]".toList ++ r.1) = .error ⟨r.2.cause, 6 + r.2.position⟩ := by
  have compiles : Pattern.slots [] "é[0\\]]".toList
      = .ok [.literal 'é', .value .digit false, .literal ']'] := by rfl
  have compiles' : Pattern.slots [] "\x7bA\x7d№".toList
      = .ok [.value .letter true, .literal '№'] := by rfl
  refine ⟨compiles, compiles', (slots_append compiles _).1 _ compiles', fun r hr => ?_⟩
  have fails : Pattern.slots [] r.1 = .error r.2 := by
    revert r
    decide
  exact ⟨fails, (slots_append compiles _).2 _ _ fails⟩

end Pattern

end MaskedInput
