import Mathlib.Algebra.Group.Int.Defs
import Mathlib.Algebra.Group.Nat.Defs

/-!
# Checked arithmetic

The definitions of this library compute with numbers that have no bounds, with differences that
stop at zero and with slices that stop at the end of a list.  On a machine a position is a word of
64 bits, and an index past the end, a slice whose ends are out of order, a difference below zero or
a sum beyond the word is a fault.  The checked operations say so: a fault has no result.

* `add?`, `succ?`, `sub?` — sums and differences of positions and lengths.
* `mirror?` — a position counted from the other end.
* `addScore?` — sums of scores, which are signed words.
* `slice?` — the part of a list between two positions; a single index is checked by `xs[i]?`.
-/

namespace MaskedInput

namespace Checked

/-- The sum of two positions. -/
def add? (a b : ℕ) : Option ℕ := if a + b < 2 ^ 64 then some (a + b) else none

/-- The next position.  It comes with its value, by which a loop is seen to advance. -/
def succ? (i : ℕ) : Option { j : ℕ // j = i + 1 } :=
  if i + 1 < 2 ^ 64 then some ⟨i + 1, rfl⟩ else none

/-- The difference of two positions. -/
def sub? (a b : ℕ) : Option ℕ := if b ≤ a then some (a - b) else none

/-- The position `i` of a list of the given length, counted from the other end. -/
def mirror? (length i : ℕ) : Option ℕ := do sub? (← sub? length 1) i

/-- The sum of two scores. -/
def addScore? (a b : ℤ) : Option ℤ :=
  if -2 ^ 63 ≤ a + b ∧ a + b < 2 ^ 63 then some (a + b) else none

/-- The entries of a list from position `start` up to position `stop`. -/
def slice? {α : Type} (xs : List α) (start stop : ℕ) : Option (List α) :=
  if start ≤ stop ∧ stop ≤ xs.length then some ((xs.take stop).drop start) else none

section NoFault

variable {a b : ℕ}

lemma add?_eq (h : a + b < 2 ^ 64) : add? a b = some (a + b) := if_pos h

lemma succ?_eq (h : a + 1 < 2 ^ 64) : succ? a = some ⟨a + 1, rfl⟩ := if_pos h

lemma sub?_eq (h : b ≤ a) : sub? a b = some (a - b) := if_pos h

lemma mirror?_eq (h : a < b) : mirror? b a = some (b - 1 - a) := by
  rw [mirror?, sub?_eq (by omega), Option.bind_eq_bind, Option.bind_some, sub?_eq (by omega)]

lemma addScore?_eq {x y : ℤ} (h : (x + y).natAbs < 2 ^ 63) : addScore? x y = some (x + y) :=
  if_pos (by omega)

variable {α : Type} {xs : List α}

lemma slice?_front (h : a ≤ xs.length) : slice? xs 0 a = some (xs.take a) := by
  rw [slice?, if_pos ⟨Nat.zero_le a, h⟩, List.drop_zero]

lemma slice?_back (h : a ≤ xs.length) : slice? xs a xs.length = some (xs.drop a) := by
  rw [slice?, if_pos ⟨h, Nat.le_refl _⟩, List.take_length]

/-- An index into a list stands at the first entry of what remains from there on. -/
lemma getElem?_of_drop_eq_cons {rest : List α} {x : α} (h : xs.drop a = x :: rest) :
    xs[a]? = some x ∧ xs.drop (a + 1) = rest := by
  constructor
  · rw [← List.head?_drop, h, List.head?_cons]
  · rw [← List.drop_drop, h, List.drop_one, List.tail_cons]

/-- A list is mapped without a fault if each of its entries is. -/
lemma mapM_eq_some {β : Type} {f : α → Option β} {g : α → β} (h : ∀ x ∈ xs, f x = some (g x)) :
    xs.mapM f = some (xs.map g) := by
  induction xs with
  | nil => rfl
  | cons x xs ih =>
      obtain ⟨first, others⟩ := List.forall_mem_cons.mp h
      rw [List.mapM_cons, first, ih others]
      rfl

end NoFault

end Checked

end MaskedInput
