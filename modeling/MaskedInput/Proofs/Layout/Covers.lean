import MaskedInput.Proofs.Layout.Placement

/-!
# Slots covered by cells

The walk holds its literals back until a character is placed behind them, and it may run on over
optional slots and come back.  None of this can be seen in the cells: they go through the slots in
their order and leave out optional slots at most.

* `Covers` — cells that show some slots one after another, optional ones perhaps empty.
* `Covers.ascending`, `Covers.length_eq` — such cells stand in the order of their slots, and they are
  the typed characters and all the literals.
* **`Placement.covers`** — the placed cells cover the slots up to the last placed character.
* `covers_literalRun`, `Covers.append` — a run of literals covers its slots, and so do the cells of
  both together.
-/

namespace MaskedInput

namespace Layout

/-! ## Slots shown one after another -/

/-- **The cells show the slots**, which start at index `k`, one after another.  A literal slot shows
its own character, and a value slot shows one that it takes.  Only an optional slot may show
nothing. -/
inductive Covers : List Slot → ℕ → List Cell → Prop where
  | nothing (k : ℕ) : Covers [] k []
  | literal (l : Char) {slots : List Slot} {k : ℕ} {cells : List Cell}
      (h : Covers slots (k + 1) cells) : Covers (.literal l :: slots) k (⟨l, k, none⟩ :: cells)
  | filled {kind : CharClass} (optional : Bool) {slots : List Slot} {k : ℕ} {c : Char} (i : ℕ)
      {cells : List Cell} (fits : kind.accepts c = true) (h : Covers slots (k + 1) cells) :
      Covers (.value kind optional :: slots) k (⟨c, k, some i⟩ :: cells)
  | empty (kind : CharClass) {slots : List Slot} {k : ℕ} {cells : List Cell}
      (h : Covers slots (k + 1) cells) : Covers (.value kind true :: slots) k cells

variable {slots more : List Slot} {k : ℕ} {cells run : List Cell} {input : List (Char × ℕ)}

namespace Covers

lemma append (h : Covers slots k cells) (behind : Covers more (k + slots.length) run) :
    Covers (slots ++ more) k (cells ++ run) := by
  induction h with
  | nothing k => exact behind
  | literal l _ ih =>
      rw [List.length_cons, ← Nat.add_assoc, Nat.add_right_comm] at behind
      exact Covers.literal l (ih behind)
  | filled optional i fits _ ih =>
      rw [List.length_cons, ← Nat.add_assoc, Nat.add_right_comm] at behind
      exact Covers.filled optional i fits (ih behind)
  | empty kind _ ih =>
      rw [List.length_cons, ← Nat.add_assoc, Nat.add_right_comm] at behind
      exact Covers.empty kind (ih behind)

lemma slot_within (h : Covers slots k cells) :
    ∀ c ∈ cells, k ≤ c.slot ∧ c.slot < k + slots.length := by
  induction h with
  | nothing => simp
  | literal l _ ih =>
      intro c hc
      rw [List.length_cons]
      rcases List.mem_cons.mp hc with rfl | hc
      · exact ⟨le_refl _, Nat.lt_add_of_pos_right (Nat.succ_pos _)⟩
      · have := ih c hc
        omega
  | filled _ i _ _ ih =>
      intro c hc
      rw [List.length_cons]
      rcases List.mem_cons.mp hc with rfl | hc
      · exact ⟨le_refl _, Nat.lt_add_of_pos_right (Nat.succ_pos _)⟩
      · have := ih c hc
        omega
  | empty _ _ ih =>
      intro c hc
      have := ih c hc
      rw [List.length_cons]
      omega

/-- The cells stand in the order of their slots. -/
lemma ascending (h : Covers slots k cells) : cells.Pairwise fun c d => c.slot < d.slot := by
  induction h with
  | nothing => exact List.Pairwise.nil
  | literal _ behind ih => exact ih.cons fun c hc => (behind.slot_within c hc).1
  | filled _ _ _ behind ih => exact ih.cons fun c hc => (behind.slot_within c hc).1
  | empty _ _ ih => exact ih

lemma seats_ascending (h : Covers slots k cells) : (seats cells).Pairwise fun p q => p.2 < q.2 :=
  List.pairwise_map.mpr (h.ascending.filter _)

/-- The cells are the typed characters and all the literals. -/
lemma length_eq (h : Covers slots k cells) :
    cells.length = (seats cells).length + slots.countP Slot.isLiteral := by
  induction h with
  | nothing => rfl
  | literal l _ ih =>
      rw [List.countP_cons_of_pos rfl, seats_literal, List.length_cons, ih, Nat.add_assoc]
  | filled _ i _ _ ih =>
      rw [List.countP_cons_of_neg (by simp [Slot.isLiteral]), seats_value, List.length_cons,
        List.length_cons, ih, Nat.add_right_comm]
  | empty _ _ ih =>
      rw [List.countP_cons_of_neg (by simp [Slot.isLiteral]), ih]

lemma literal_mem (h : Covers slots k cells) :
    ∀ c ∈ cells, c.isValue = false → .literal c.char ∈ slots := by
  induction h with
  | nothing => simp
  | literal l _ ih =>
      intro c hc literal
      rcases List.mem_cons.mp hc with rfl | hc
      · exact List.mem_cons_self
      · exact List.mem_cons_of_mem _ (ih c hc literal)
  | filled _ i _ _ ih =>
      intro c hc literal
      rcases List.mem_cons.mp hc with rfl | hc
      · exact absurd literal (by simp [Cell.isValue])
      · exact List.mem_cons_of_mem _ (ih c hc literal)
  | empty _ _ ih =>
      intro c hc literal
      exact List.mem_cons_of_mem _ (ih c hc literal)

end Covers

/-- A run of literals leaves none of them out. -/
lemma covers_literalRun (slots : List Slot) (k : ℕ) :
    Covers (slots.take (literalRun slots k).length) k (literalRun slots k) := by
  fun_induction literalRun slots k with
  | case1 l slots k ih => exact Covers.literal l ih
  | case2 _ k => exact Covers.nothing k

lemma length_literalRun_le (slots : List Slot) (k : ℕ) :
    (literalRun slots k).length ≤ slots.length := by
  fun_induction literalRun slots k with
  | case1 l slots k ih => exact Nat.succ_le_succ ih
  | case2 => exact Nat.zero_le _

namespace Placement

/-- Up to the last placed character, the walk leaves out no literal and no mandatory slot. -/
lemma covers (h : Placement slots k input cells) :
    Covers (slots.take (resume cells - k)) k cells := by
  induction h with
  | endOfMask k =>
      rw [List.take_nil]
      exact Covers.nothing k
  | endOfInput _ _ _ k =>
      rw [resume_nil, Nat.zero_sub]
      exact Covers.nothing k
  | @hides l slots k =>
      rw [resume_nil, Nat.zero_sub]
      exact Covers.nothing k
  | @shows l slots k input d cells walk ih =>
      have := walk.lt_resume (List.cons_ne_nil d cells)
      have shift : resume (d :: cells) - k = resume (d :: cells) - (k + 1) + 1 := by omega
      rw [resume_cons_cons, shift, List.take_succ_cons]
      exact Covers.literal l ih
  | @takes kind optional slots k c i rest cells fits walk ih =>
      have shift : max (k + 1) (resume cells) - k = resume cells - (k + 1) + 1 := by omega
      rw [walk.resume_cons, shift, List.take_succ_cons]
      exact Covers.filled optional i fits ih
  | @skips kind slots k c i rest cells misfits walk ih =>
      by_cases empty : cells = []
      · rw [empty, resume_nil, Nat.zero_sub]
        exact Covers.nothing k
      · have := walk.lt_resume empty
        have shift : resume cells - k = resume cells - (k + 1) + 1 := by omega
        rw [shift, List.take_succ_cons]
        exact Covers.empty kind ih
  | drops _ _ _ ih => exact ih

lemma seats_ascending (h : Placement slots k input cells) :
    (seats cells).Pairwise fun p q => p.2 < q.2 := h.covers.seats_ascending

/-- The cells are the placed characters and all literals in front of the last of them. -/
lemma length_eq (h : Placement slots k input cells) :
    cells.length
      = (seats cells).length + (slots.take (resume cells - k)).countP Slot.isLiteral :=
  h.covers.length_eq

lemma resume_le (h : Placement slots k input cells) : resume cells ≤ k + slots.length := by
  by_cases empty : cells = []
  · rw [empty]
    exact Nat.zero_le _
  · have last := (h.covers.slot_within _ (List.getLast_mem empty)).2
    rw [List.length_take] at last
    rw [resume, List.getLast?_eq_some_getLast empty, Option.map_some, Option.getD_some]
    omega

/-- The placed cells end with a typed character. -/
lemma isValue_of_getLast? (h : Placement slots k input cells) :
    ∀ c ∈ cells.getLast?, c.isValue = true := by
  induction h with
  | endOfMask => simp
  | endOfInput => simp
  | hides => simp
  | shows l _ ih =>
      rw [List.getLast?_cons_cons]
      exact ih
  | @takes kind optional slots k c i rest cells _ _ ih =>
      cases cells with
      | nil => simp [Cell.isValue]
      | cons d cells =>
          rw [List.getLast?_cons_cons]
          exact ih
  | skips _ _ ih => exact ih
  | drops _ _ _ ih => exact ih

end Placement

end Layout

end MaskedInput
