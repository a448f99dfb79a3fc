/-!
# Sets of characters given by ranges of code points

The character classes of a standard are tables of ranges.  A table is kept in ascending order, so
that a search may stop at the first range above the code point it looks for.

* `CodeRanges.covers` — the search.
* **`CodeRanges.covers_iff`** — on an ascending table the search finds exactly the code points
  that some range holds; stopping early loses none.
-/

namespace MaskedInput.Text

/-- Inclusive ranges of code points, the lowest first. -/
abbrev CodeRanges := List (Nat × Nat)

namespace CodeRanges

/-- Whether a range of the table holds `n`.  The search ends at the first range above `n`. -/
def covers : CodeRanges → Nat → Bool
  | [], _ => false
  | (low, high) :: rest, n => if n < low then false else n ≤ high || covers rest n

/-- Whether the ranges are non-empty, ascending and disjoint, none of them below `bound`. -/
def ascendingFrom (bound : Nat) : CodeRanges → Bool
  | [] => true
  | (low, high) :: rest => bound ≤ low && low ≤ high && ascendingFrom (high + 1) rest

/-- The ranges of an ascending table start at its bound or above. -/
theorem le_of_ascendingFrom {bound : Nat} {table : CodeRanges}
    (h : ascendingFrom bound table = true) {range : Nat × Nat} (hr : range ∈ table) :
    bound ≤ range.1 := by
  induction table generalizing bound with
  | nil => cases hr
  | cons head rest ih =>
    obtain ⟨low, high⟩ := head
    simp only [ascendingFrom, Bool.and_eq_true, decide_eq_true_eq] at h
    rcases List.mem_cons.mp hr with rfl | hr
    · exact h.1.1
    · have := ih h.2 hr
      omega

/-- **The search of an ascending table misses nothing.** -/
theorem covers_iff {bound : Nat} {table : CodeRanges} (h : ascendingFrom bound table = true)
    (n : Nat) : covers table n = true ↔ ∃ range ∈ table, range.1 ≤ n ∧ n ≤ range.2 := by
  induction table generalizing bound with
  | nil => simp [covers]
  | cons head rest ih =>
    obtain ⟨low, high⟩ := head
    simp only [ascendingFrom, Bool.and_eq_true, decide_eq_true_eq] at h
    by_cases hn : n < low
    · simp only [covers, hn, if_true, Bool.false_eq_true, false_iff, not_exists, not_and]
      intro range hr hle
      rcases List.mem_cons.mp hr with rfl | hr
      · simp only at hle; omega
      · have := le_of_ascendingFrom h.2 hr
        omega
    · simp only [covers, hn, if_false, Bool.or_eq_true, decide_eq_true_eq, ih h.2]
      constructor
      · rintro (hle | ⟨range, hr, hin⟩)
        · exact ⟨(low, high), List.mem_cons_self, by simp only; omega, hle⟩
        · exact ⟨range, List.mem_cons_of_mem _ hr, hin⟩
      · rintro ⟨range, hr, hin⟩
        rcases List.mem_cons.mp hr with rfl | hr
        · exact Or.inl hin.2
        · exact Or.inr ⟨range, hr, hin⟩

end CodeRanges

end MaskedInput.Text
