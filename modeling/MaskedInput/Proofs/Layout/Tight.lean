import MaskedInput.Proofs.Layout.Covers

/-!
# Placing the placed characters again

What a walk places may be placed again without what it dropped.  A character then ends up in
another slot if it had passed by an optional slot that takes it: the slot was refused by a dropped
character, which is no longer there.

* `TightFrom` — no placed character passes by a slot that takes it.
* **`Placement.place_taken`**, `Placement.tight_of_taken_eq` — the same cells come back exactly when
  the walk is tight.
* `Placement.tight_of_forall` — walks over slots that are mandatory, or take all of the input, are
  tight.
* **`Placement.resume_place_le`** — tight or not, the second walk never ends further behind.
-/

namespace MaskedInput

namespace Layout

variable {slots : List Slot} {k : ℕ} {input : List (Char × ℕ)} {cells : List Cell}

/-! ## Placing the placed characters again -/

/-- **No character passes by a slot that takes it.**  The slots start at index `k`; where a slot
would take a character that is placed behind it, some character stands in between, at that slot
or behind it. -/
def TightFrom (slots : List Slot) (k : ℕ) (placed : List (Char × ℕ)) : Prop :=
  ∀ p ∈ placed, ∀ i s, slots[i]? = some s → s.accepts p.1 = true → k + i < p.2 →
    ∃ q ∈ placed, k + i ≤ q.2 ∧ q.2 < p.2

/-- The first slot apart from the others. -/
lemma tightFrom_cons (s : Slot) (slots : List Slot) (k : ℕ) (placed : List (Char × ℕ)) :
    TightFrom (s :: slots) k placed
      ↔ (∀ p ∈ placed, s.accepts p.1 = true → k < p.2 → ∃ q ∈ placed, k ≤ q.2 ∧ q.2 < p.2)
        ∧ TightFrom slots (k + 1) placed := by
  constructor
  · intro tight
    refine ⟨fun p hp fits hlt => tight p hp 0 s rfl fits hlt, ?_⟩
    intro p hp i t ht fits hlt
    obtain ⟨q, hq, hle, hlt⟩ := tight p hp (i + 1) t ht fits (by omega)
    exact ⟨q, hq, by omega, hlt⟩
  · rintro ⟨first, others⟩ p hp i t ht fits hlt
    cases i with
    | zero =>
        obtain rfl : s = t := by simpa using ht
        exact first p hp fits hlt
    | succ i =>
        obtain ⟨q, hq, hle, hlt⟩ := others p hp i t ht fits (by omega)
        exact ⟨q, hq, by omega, hlt⟩

/-- A character at the first slot does not bear on those behind it. -/
lemma tightFrom_cons_seat (s : Slot) (slots : List Slot) (k : ℕ) (c : Char)
    (placed : List (Char × ℕ)) :
    TightFrom (s :: slots) k ((c, k) :: placed) ↔ TightFrom slots (k + 1) placed := by
  rw [tightFrom_cons]
  constructor
  · rintro ⟨-, others⟩ p hp i t ht fits hlt
    obtain ⟨q, hq, hle, hlt⟩ := others p (List.mem_cons_of_mem _ hp) i t ht fits hlt
    rcases List.mem_cons.mp hq with rfl | hq
    · exact absurd hle (by simp; omega)
    · exact ⟨q, hq, hle, hlt⟩
  · intro tight
    refine ⟨fun p _ _ hlt => ⟨(c, k), List.mem_cons_self, le_refl k, hlt⟩, ?_⟩
    intro p hp i t ht fits hlt
    rcases List.mem_cons.mp hp with rfl | hp
    · exact absurd hlt (by simp; omega)
    · obtain ⟨q, hq, hle, hlt⟩ := tight p hp i t ht fits hlt
      exact ⟨q, List.mem_cons_of_mem _ hq, hle, hlt⟩

/-- A slot that is passed by refuses the first character behind it. -/
lemma TightFrom.refuses_first {s : Slot} {c : Char} {n : ℕ} {placed : List (Char × ℕ)}
    (tight : TightFrom (s :: slots) k ((c, n) :: placed)) (behind : k < n)
    (ascending : ((c, n) :: placed).Pairwise fun p q => p.2 < q.2) : s.accepts c = false := by
  by_contra fits
  obtain ⟨q, hq, -, hlt⟩ := ((tightFrom_cons ..).mp tight).1 (c, n) List.mem_cons_self
    (by simpa using fits) behind
  rcases List.mem_cons.mp hq with rfl | hq
  · exact lt_irrefl _ hlt
  · exact lt_asymm hlt ((List.pairwise_cons.mp ascending).1 q hq)

lemma exists_seats_of_taken {c : Char} {i : ℕ} {rest : List (Char × ℕ)}
    (h : taken cells = (c, i) :: rest) : ∃ n others, seats cells = (c, n) :: others := by
  have chars := map_fst_taken cells
  rw [h] at chars
  cases hs : seats cells with
  | nil => simp [hs] at chars
  | cons p others =>
      obtain ⟨d, n⟩ := p
      have : c = d := by simpa [hs] using congrArg List.head? chars
      exact ⟨n, others, by rw [this]⟩

namespace Placement

/-- **Placing the placed characters again.**  If no character passes by a slot that takes it, the
placed characters alone give the same cells. -/
theorem place_taken (h : Placement slots k input cells) (tight : TightFrom slots k (seats cells)) :
    place slots k (taken cells) = cells := by
  induction h with
  | endOfMask => rfl
  | endOfInput => exact place_nil_input _ _
  | hides => exact place_nil_input _ _
  | shows l _ ih =>
      exact place_literal_of_eq_cons _ _ l (ih ((tightFrom_cons ..).mp tight).2)
  | @takes kind optional slots k c i rest cells fits _ ih =>
      rw [taken_value, place_value_of_accepts kind optional slots k (taken cells) i fits]
      rw [seats_value, tightFrom_cons_seat] at tight
      rw [ih tight]
  | @skips kind slots k c i rest cells misfits walk ih =>
      have others := ((tightFrom_cons ..).mp tight).2
      cases ht : taken cells with
      | nil => rw [walk.eq_nil_of_taken ht, place_nil_input]
      | cons p later =>
          obtain ⟨d, j⟩ := p
          obtain ⟨n, seated, hn⟩ := exists_seats_of_taken ht
          have ascending := walk.seats_ascending
          have behind := walk.le_seat (d, n) (by simp [hn])
          rw [hn] at tight ascending
          have refused : kind.accepts d = false := tight.refuses_first behind ascending
          rw [place_optional_of_refuses kind slots k later j refused, ← ht]
          exact ih others
  | drops _ _ _ ih => exact ih tight

lemma tight_of_taken_eq (h : Placement slots k input cells) (all : taken cells = input) :
    TightFrom slots k (seats cells) := by
  induction h with
  | endOfMask => simp [TightFrom]
  | endOfInput => simp [TightFrom]
  | hides => simp [TightFrom]
  | shows l _ ih =>
      refine (tightFrom_cons ..).mpr ⟨?_, ih all⟩
      intro p _ fits
      exact absurd fits (by simp [Slot.accepts])
  | takes _ _ _ _ ih =>
      rw [seats_value, tightFrom_cons_seat]
      exact ih (List.cons.inj all).2
  | @skips kind slots k c i rest cells misfits walk ih =>
      refine (tightFrom_cons ..).mpr ⟨?_, ih all⟩
      obtain ⟨n, seated, hn⟩ := exists_seats_of_taken all
      have ascending := walk.seats_ascending
      have behind := walk.le_seat
      rw [hn] at ascending behind ⊢
      intro p hp fits _
      rcases List.mem_cons.mp hp with rfl | hp
      · exact absurd fits (by simp [Slot.accepts, misfits])
      · have := behind (c, n) List.mem_cons_self
        exact ⟨(c, n), List.mem_cons_self, by omega, (List.pairwise_cons.mp ascending).1 p hp⟩
  | drops i _ walk _ =>
      have := walk.taken_sublist.length_le
      rw [all, List.length_cons] at this
      omega

/-- A walk is tight if every value slot is mandatory or takes all of the input. -/
lemma tight_of_forall (h : Placement slots k input cells)
    (takes : ∀ s ∈ slots, s.isLiteral = false →
      s.isMandatory = true ∨ ∀ p ∈ input, s.accepts p.1 = true) :
    TightFrom slots k (seats cells) := by
  intro p hp i s hs fits hlt
  have value : s.isLiteral = false := by
    by_contra literal
    simp [Slot.not_accepts_of_isLiteral (by simpa using literal)] at fits
  have filled : s.isMandatory = true ∨ s.isLiteral = false ∧ ∀ q ∈ input, s.accepts q.1 = true :=
    (takes s (List.mem_of_getElem? hs) value).imp_right (And.intro value)
  obtain ⟨q, hq, hi⟩ := h.fills hs filled p hp hlt
  exact ⟨q, hq, by omega, by omega⟩

end Placement

/-! ## Placing fewer characters again -/

/-- A walk over a value slot ends no further behind than the walks over the slots behind it. -/
lemma resume_place_value_le (kind : CharClass) (optional : Bool) {all : List (Char × ℕ)} {n : ℕ}
    (first : k + 1 ≤ n)
    (others : ∀ some, some.Sublist all → resume (place slots (k + 1) some) ≤ n)
    {some : List (Char × ℕ)} (sub : some.Sublist all) :
    resume (place (.value kind optional :: slots) k some) ≤ n := by
  induction some with
  | nil => simp
  | cons p rest ih =>
      obtain ⟨c, i⟩ := p
      have rest_sub : rest.Sublist all := (List.sublist_cons_self _ rest).trans sub
      by_cases fits : kind.accepts c = true
      · rw [place_value_of_accepts kind optional slots k rest i fits,
          (placement_place slots (k + 1) rest).resume_cons]
        exact max_le first (others rest rest_sub)
      · have misfits : kind.accepts c = false := by simpa using fits
        cases optional with
        | true =>
            rw [place_optional_of_refuses kind slots k rest i misfits]
            exact others _ sub
        | false =>
            rw [place_mandatory_of_refuses kind slots k rest i misfits]
            exact ih rest_sub

/-- **Fewer characters do not reach further.**  Placing some of the placed characters again never
ends behind the slot where all of them ended. -/
theorem Placement.resume_place_le (h : Placement slots k input cells) {some : List (Char × ℕ)}
    (sub : some.Sublist (taken cells)) : resume (place slots k some) ≤ resume cells := by
  induction h generalizing some with
  | endOfMask => exact Nat.zero_le _
  | endOfInput =>
      rw [List.sublist_nil.mp sub, place_nil_input]
  | hides =>
      rw [List.sublist_nil.mp sub, place_nil_input]
  | @shows l slots k input d cells _ ih =>
      rw [resume_cons_cons]
      cases again : place slots (k + 1) some with
      | nil =>
          rw [place_literal_of_eq_nil slots k l again]
          exact Nat.zero_le _
      | cons d' cells' =>
          rw [place_literal_of_eq_cons slots k l again, resume_cons_cons, ← again]
          exact ih sub
  | @takes kind optional slots k c i rest cells fits walk ih =>
      rw [walk.resume_cons]
      have others (later : List (Char × ℕ)) (sub : later.Sublist (taken cells)) :
          resume (place slots (k + 1) later) ≤ max (k + 1) (resume cells) :=
        (ih sub).trans (le_max_right _ _)
      rw [taken_value] at sub
      rcases List.sublist_cons_iff.mp sub with behind | ⟨later, rfl, behind⟩
      · exact resume_place_value_le kind optional (le_max_left _ _) others behind
      · rw [place_value_of_accepts kind optional slots k later i fits,
          (placement_place slots (k + 1) later).resume_cons]
        exact max_le (le_max_left _ _) (others later behind)
  | @skips kind slots k c i rest cells misfits walk ih =>
      by_cases empty : cells = []
      · subst empty
        rw [List.sublist_nil.mp sub, place_nil_input]
      · exact resume_place_value_le kind true (Nat.le_of_lt (walk.lt_resume empty)) (fun _ => ih) sub
  | drops _ _ _ ih => exact ih sub

end Layout

end MaskedInput
