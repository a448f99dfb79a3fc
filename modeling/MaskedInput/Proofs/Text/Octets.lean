import Mathlib.Order.Nat
import Mathlib.Tactic.Lemma

/-!
# Texts in the order of their octets

Names are kept in the order of their characters, whereas a text that is stored or sent consists of the
octets of its UTF-8 form.  Both orders are the same: of two characters, the greater one has the greater
octets, whatever follows them.  If both have as many octets, these hold the digits of the code points in
base 64, the first ones first; otherwise the longer form has the greater first octet.

* `Text.octets` — the UTF-8 form of a text.
* `Text.utf8EncodeChar_append_lt` — one character.
* **`Text.octets_lt_octets`** — texts.
-/

namespace MaskedInput.Text

/-- The UTF-8 form of a text, octet by octet. -/
def octets (text : List Char) : List UInt8 := text.flatMap String.utf8EncodeChar

lemma cons_ofNat_lt_iff {m n : ℕ} (hm : m < 256) (hn : n < 256) (s t : List UInt8) :
    UInt8.ofNat m :: s < UInt8.ofNat n :: t ↔ m < n ∨ m = n ∧ s < t := by
  rw [List.cons_lt_cons_iff, UInt8.lt_iff_toNat_lt, ← UInt8.toNat_inj, UInt8.toNat_ofNat',
    UInt8.toNat_ofNat', Nat.mod_eq_of_lt hm, Nat.mod_eq_of_lt hn]

/-- Of two numbers, the greater one has the greater digits in base 64, the first ones first. -/
lemma digits_lt {m n : ℕ} (lt : m < n) :
    m / 262144 < n / 262144 ∨ m / 262144 = n / 262144 ∧
      (m / 4096 % 64 < n / 4096 % 64 ∨ m / 4096 % 64 = n / 4096 % 64 ∧
        (m / 64 % 64 < n / 64 % 64 ∨ m / 64 % 64 = n / 64 % 64 ∧ m % 64 < n % 64)) := by
  have digit (m n : ℕ) (lt : m < n) : m / 64 < n / 64 ∨ m / 64 = n / 64 ∧ m % 64 < n % 64 := by
    omega
  rcases digit m n lt with lt | last
  · rcases digit (m / 64) (n / 64) lt with lt | last
    · rcases digit (m / 64 / 64) (n / 64 / 64) lt with lt | last
      · simp only [Nat.div_div_eq_div_mul, Nat.reduceMul] at lt
        exact Or.inl lt
      · simp only [Nat.div_div_eq_div_mul, Nat.reduceMul] at last
        exact Or.inr ⟨last.1, Or.inl last.2⟩
    · omega
  · omega

lemma toNat_val_lt (c : Char) : c.val.toNat < 1114112 := by
  rcases c.valid with low | ⟨-, high⟩
  · exact Nat.lt_trans low (by decide)
  · exact high

/-- **The greater character has the greater octets**, whatever follows. -/
lemma utf8EncodeChar_append_lt {c d : Char} (h : c < d) (s t : List UInt8) :
    String.utf8EncodeChar c ++ s < String.utf8EncodeChar d ++ t := by
  have lt : c.val.toNat < d.val.toNat := h
  have bound := toNat_val_lt d
  simp only [String.utf8EncodeChar]
  generalize c.val.toNat = m at *
  generalize d.val.toNat = n at *
  by_cases long : 65535 < m
  · -- Both have four octets, and the first that differ belong to the first digits that do.
    have small : ¬ m ≤ 127 ∧ ¬ m ≤ 2047 ∧ ¬ m ≤ 65535 := by omega
    have small' : ¬ n ≤ 127 ∧ ¬ n ≤ 2047 ∧ ¬ n ≤ 65535 := by omega
    simp (disch := omega) only [small, small', if_false, List.cons_append, List.nil_append,
      cons_ofNat_lt_iff]
    rcases digits_lt lt with first | ⟨same, second | ⟨same', third | ⟨same'', last⟩⟩⟩
    all_goals omega
  · split_ifs
    all_goals simp (disch := omega) only [List.cons_append, List.nil_append, cons_ofNat_lt_iff]
    all_goals omega

/-- **The order of texts is the order of their octets.** -/
theorem octets_lt_octets {a b : List Char} (h : a < b) : octets a < octets b := by
  induction a generalizing b with
  | nil =>
      cases b with
      | nil => exact absurd h (List.lt_irrefl _)
      | cons d b =>
          rw [octets, octets, List.flatMap_cons, List.flatMap_nil]
          cases octet : String.utf8EncodeChar d with
          | nil => exact absurd octet (String.utf8EncodeChar_ne_nil)
          | cons => exact List.nil_lt_cons _ _
  | cons c a ih =>
      cases b with
      | nil => exact absurd h (List.not_lt_nil _)
      | cons d b =>
          rw [octets, octets, List.flatMap_cons, List.flatMap_cons]
          rcases List.cons_lt_cons_iff.mp h with lt | ⟨rfl, lt⟩
          · exact utf8EncodeChar_append_lt lt _ _
          · exact List.append_left_lt (ih lt)

end MaskedInput.Text
