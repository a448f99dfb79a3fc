import Mathlib.Data.List.Basic
import Mathlib.Order.Nat
import MaskedInput.Layout.Place

/-!
# The placement of an input, one character at a time

`place` settles each slot in one go: a mandatory slot drops all that does not fit before it takes
a character.  For proofs it is easier to watch one character or one slot at a time, so
`Placement` describes the same walk as a relation with a rule for every single step, and the facts
about `place` are proved by induction on its derivations.

* `Placement` — the walk step by step; `placement_place` says that `place` follows it.
* `taken` — the placed characters with their positions in the input.  They are a sublist of the
  input (`Placement.taken_sublist`).
* `seats` — the placed characters with their slots, which take them
  (`Placement.accepts_of_mem_seats`).
* **`Placement.fills`** — no slot in front of a placed character stays empty, unless it is
  optional and refuses some character of the input.
* `face_place_congr` — which character goes to which slot does not depend on the positions.
* `Placement.lt_resume`, `Placement.resume_cons` — where the cells end, seen from the first of them.
-/

namespace MaskedInput

/-- Where every value slot is mandatory, the first one is not optional. -/
lemma Slot.optional_eq_false {kind : CharClass} {optional : Bool} {slots : List Slot}
    (mandatory : ∀ s ∈ Slot.value kind optional :: slots, s.isLiteral = false → s.isMandatory = true) :
    optional = false := by
  have first := mandatory (.value kind optional) List.mem_cons_self rfl
  cases optional with
  | false => rfl
  | true => exact absurd first (by simp [isMandatory])

namespace Layout

/-! ## The walk -/

/-- **The walk of an input over slots that start at index `k`.**  The last argument is the cells
up to the last placed character. -/
inductive Placement : List Slot → ℕ → List (Char × ℕ) → List Cell → Prop where
  | endOfMask (k : ℕ) (input : List (Char × ℕ)) : Placement [] k input []
  | endOfInput (kind : CharClass) (optional : Bool) (slots : List Slot) (k : ℕ) :
      Placement (.value kind optional :: slots) k [] []
  /-- Nothing is placed behind a literal, so it is not shown. -/
  | hides (l : Char) {slots : List Slot} {k : ℕ} {input : List (Char × ℕ)}
      (h : Placement slots (k + 1) input []) : Placement (.literal l :: slots) k input []
  /-- A literal is shown in front of what is placed behind it. -/
  | shows (l : Char) {slots : List Slot} {k : ℕ} {input : List (Char × ℕ)} {d : Cell}
      {cells : List Cell} (h : Placement slots (k + 1) input (d :: cells)) :
      Placement (.literal l :: slots) k input (⟨l, k, none⟩ :: d :: cells)
  | takes {kind : CharClass} (optional : Bool) {slots : List Slot} {k : ℕ} {c : Char} (i : ℕ)
      {rest : List (Char × ℕ)} {cells : List Cell} (fits : kind.accepts c = true)
      (h : Placement slots (k + 1) rest cells) :
      Placement (.value kind optional :: slots) k ((c, i) :: rest) (⟨c, k, some i⟩ :: cells)
  /-- An optional slot that refuses the next character stays empty. -/
  | skips {kind : CharClass} {slots : List Slot} {k : ℕ} {c : Char} {i : ℕ}
      {rest : List (Char × ℕ)} {cells : List Cell} (misfits : kind.accepts c = false)
      (h : Placement slots (k + 1) ((c, i) :: rest) cells) :
      Placement (.value kind true :: slots) k ((c, i) :: rest) cells
  /-- A mandatory slot drops a character that it refuses. -/
  | drops {kind : CharClass} {slots : List Slot} {k : ℕ} {c : Char} (i : ℕ)
      {rest : List (Char × ℕ)} {cells : List Cell} (misfits : kind.accepts c = false)
      (h : Placement (.value kind false :: slots) k rest cells) :
      Placement (.value kind false :: slots) k ((c, i) :: rest) cells

section Steps

variable (kind : CharClass) (optional : Bool) (slots : List Slot) (k : ℕ)
  (rest : List (Char × ℕ)) {c : Char} (i : ℕ)

lemma place_value_nil : place (.value kind optional :: slots) k [] = [] := by
  cases optional <;> rfl

lemma place_value_of_accepts (fits : kind.accepts c = true) :
    place (.value kind optional :: slots) k ((c, i) :: rest)
      = ⟨c, k, some i⟩ :: place slots (k + 1) rest := by
  cases optional <;> simp [place, offered, fits]

lemma place_optional_of_refuses (misfits : kind.accepts c = false) :
    place (.value kind true :: slots) k ((c, i) :: rest)
      = place slots (k + 1) ((c, i) :: rest) := by
  simp [place, offered, misfits]

lemma place_mandatory_of_refuses (misfits : kind.accepts c = false) :
    place (.value kind false :: slots) k ((c, i) :: rest)
      = place (.value kind false :: slots) k rest := by
  simp [place, offered, misfits]

lemma place_literal_of_eq_nil (l : Char) {input : List (Char × ℕ)}
    (h : place slots (k + 1) input = []) : place (.literal l :: slots) k input = [] := by
  simp [place, h]

lemma place_literal_of_eq_cons (l : Char) {input : List (Char × ℕ)} {d : Cell}
    {cells : List Cell} (h : place slots (k + 1) input = d :: cells) :
    place (.literal l :: slots) k input = ⟨l, k, none⟩ :: d :: cells := by
  simp [place, h]

end Steps

@[simp] lemma place_nil_input (slots : List Slot) (k : ℕ) : place slots k [] = [] := by
  induction slots generalizing k with
  | nil => rfl
  | cons s slots ih =>
      cases s with
      | literal l => exact place_literal_of_eq_nil slots k l (ih (k + 1))
      | value kind optional => exact place_value_nil kind optional slots k

/-- `place` follows the walk.  The induction is on the slots, and inside it, for a mandatory
slot, on the characters it drops. -/
lemma placement_place (slots : List Slot) (k : ℕ) (input : List (Char × ℕ)) :
    Placement slots k input (place slots k input) := by
  induction slots generalizing k input with
  | nil => exact Placement.endOfMask k input
  | cons s slots ih =>
      cases s with
      | literal l =>
          have walk := ih (k + 1) input
          cases h : place slots (k + 1) input with
          | nil =>
              rw [h] at walk
              rw [place_literal_of_eq_nil slots k l h]
              exact Placement.hides l walk
          | cons d cells =>
              rw [h] at walk
              rw [place_literal_of_eq_cons slots k l h]
              exact Placement.shows l walk
      | value kind optional =>
          induction input with
          | nil =>
              rw [place_value_nil]
              exact Placement.endOfInput kind optional slots k
          | cons p rest dropping =>
              obtain ⟨c, i⟩ := p
              by_cases fits : kind.accepts c = true
              · rw [place_value_of_accepts kind optional slots k rest i fits]
                exact Placement.takes optional i fits (ih (k + 1) rest)
              · have misfits : kind.accepts c = false := by simpa using fits
                cases optional with
                | true =>
                    rw [place_optional_of_refuses kind slots k rest i misfits]
                    exact Placement.skips misfits (ih (k + 1) ((c, i) :: rest))
                | false =>
                    rw [place_mandatory_of_refuses kind slots k rest i misfits]
                    exact Placement.drops i misfits dropping

/-! ## What is placed -/

/-- The typed characters of some cells, with their positions in the input. -/
def taken (cells : List Cell) : List (Char × ℕ) :=
  cells.filterMap fun c => c.source.map (c.char, ·)

/-- The typed characters of some cells, with their slots. -/
def seats (cells : List Cell) : List (Char × ℕ) :=
  (cells.filter Cell.isValue).map fun c => (c.char, c.slot)

@[simp] lemma taken_nil : taken [] = [] := rfl

@[simp] lemma taken_literal (l : Char) (k : ℕ) (cells : List Cell) :
    taken (⟨l, k, none⟩ :: cells) = taken cells := rfl

@[simp] lemma taken_value (c : Char) (k i : ℕ) (cells : List Cell) :
    taken (⟨c, k, some i⟩ :: cells) = (c, i) :: taken cells := rfl

@[simp] lemma seats_nil : seats [] = [] := rfl

@[simp] lemma seats_literal (l : Char) (k : ℕ) (cells : List Cell) :
    seats (⟨l, k, none⟩ :: cells) = seats cells := rfl

@[simp] lemma seats_value (c : Char) (k i : ℕ) (cells : List Cell) :
    seats (⟨c, k, some i⟩ :: cells) = (c, k) :: seats cells := rfl

@[simp] lemma seats_append (front back : List Cell) :
    seats (front ++ back) = seats front ++ seats back := by
  simp [seats]

lemma map_fst_taken (cells : List Cell) : (taken cells).map Prod.fst = (seats cells).map Prod.fst := by
  induction cells with
  | nil => rfl
  | cons cell cells ih =>
      obtain ⟨c, k, source⟩ := cell
      cases source with
      | none => exact ih
      | some i => simp [ih]

lemma length_taken (cells : List Cell) : (taken cells).length = (seats cells).length := by
  simpa using congrArg List.length (map_fst_taken cells)

variable {slots : List Slot} {k : ℕ} {input : List (Char × ℕ)} {cells : List Cell}

namespace Placement

/-- The placed characters come from the input, in its order. -/
lemma taken_sublist (h : Placement slots k input cells) : (taken cells).Sublist input := by
  induction h with
  | endOfMask _ input => exact List.nil_sublist input
  | endOfInput => exact List.nil_sublist []
  | hides _ _ ih => exact ih
  | shows _ _ ih => exact ih
  | takes _ _ _ _ ih => exact ih.cons_cons _
  | skips _ _ ih => exact ih
  | drops _ _ _ ih => exact ih.cons _

/-- Something is shown only if something is placed: literals do not stand alone. -/
lemma eq_nil_of_taken (h : Placement slots k input cells) (none : taken cells = []) :
    cells = [] := by
  induction h with
  | endOfMask => rfl
  | endOfInput => rfl
  | hides => rfl
  | shows _ _ ih => exact absurd (ih none) (List.cons_ne_nil _ _)
  | takes => exact absurd none (List.cons_ne_nil _ _)
  | skips _ _ ih => exact ih none
  | drops _ _ _ ih => exact ih none

lemma le_slot (h : Placement slots k input cells) : ∀ c ∈ cells, k ≤ c.slot := by
  induction h with
  | endOfMask => simp
  | endOfInput => simp
  | hides => simp
  | @shows l slots k input d cells _ ih =>
      intro c hc
      rcases List.mem_cons.mp hc with rfl | hc
      · exact le_refl k
      · have := ih c hc
        omega
  | @takes kind optional slots k c i rest cells _ _ ih =>
      intro d hd
      rcases List.mem_cons.mp hd with rfl | hd
      · exact le_refl k
      · have := ih d hd
        omega
  | skips _ _ ih =>
      intro c hc
      have := ih c hc
      omega
  | drops _ _ _ ih => exact ih

lemma le_seat (h : Placement slots k input cells) : ∀ p ∈ seats cells, k ≤ p.2 := by
  intro p hp
  obtain ⟨c, hc, rfl⟩ := List.mem_map.mp hp
  exact h.le_slot c (List.mem_filter.mp hc).1

lemma accepts_of_mem_seats (h : Placement slots k input cells) :
    ∀ p ∈ seats cells, ∃ i s, slots[i]? = some s ∧ p.2 = k + i ∧ s.accepts p.1 = true := by
  induction h with
  | endOfMask => simp
  | endOfInput => simp
  | hides => simp
  | shows l _ ih =>
      intro p hp
      obtain ⟨i, s, hs, hi, fits⟩ := ih p hp
      exact ⟨i + 1, s, hs, by omega, fits⟩
  | @takes kind optional slots k c i rest cells fits _ ih =>
      intro p hp
      rcases List.mem_cons.mp hp with rfl | hp
      · exact ⟨0, .value kind optional, rfl, rfl, fits⟩
      · obtain ⟨j, s, hs, hj, fits⟩ := ih p hp
        exact ⟨j + 1, s, hs, by omega, fits⟩
  | skips _ _ ih =>
      intro p hp
      obtain ⟨i, s, hs, hi, fits⟩ := ih p hp
      exact ⟨i + 1, s, hs, by omega, fits⟩
  | drops _ _ _ ih => exact ih

/-- **Slots in front of a placed character.**  A value slot stays empty only if it is optional
and refuses some character of the input. -/
theorem fills (h : Placement slots k input cells) {s : Slot} {i : ℕ} (hs : slots[i]? = some s)
    (takes : s.isMandatory = true ∨ s.isLiteral = false ∧ ∀ p ∈ input, s.accepts p.1 = true) :
    ∀ q ∈ seats cells, k + i < q.2 → ∃ p ∈ seats cells, p.2 = k + i := by
  induction h generalizing i with
  | endOfMask => simp
  | endOfInput => simp
  | hides => simp
  | shows l _ ih =>
      intro q hq hlt
      cases i with
      | zero =>
          obtain rfl : .literal l = s := by simpa using hs
          rcases takes with mandatory | ⟨value, _⟩
          · exact absurd mandatory (by simp [Slot.isMandatory])
          · exact absurd value (by simp [Slot.isLiteral])
      | succ i =>
          obtain ⟨p, hp, hi⟩ := ih hs takes q hq (by omega)
          exact ⟨p, hp, by omega⟩
  | @takes kind optional slots k c j rest cells fits _ ih =>
      intro q hq hlt
      cases i with
      | zero => exact ⟨(c, k), List.mem_cons_self, rfl⟩
      | succ i =>
          rcases List.mem_cons.mp hq with rfl | hq
          · exact absurd hlt (by simp)
          · have later := takes.imp_right (And.imp_right List.forall_mem_of_forall_mem_cons)
            obtain ⟨p, hp, hi⟩ := ih hs later q hq (by omega)
            exact ⟨p, List.mem_cons_of_mem _ hp, by omega⟩
  | @skips kind slots k c j rest cells misfits _ ih =>
      intro q hq hlt
      cases i with
      | zero =>
          obtain rfl : .value kind true = s := by simpa using hs
          rcases takes with mandatory | ⟨_, all⟩
          · exact absurd mandatory (by simp [Slot.isMandatory])
          · have fits : kind.accepts c = true := all (c, j) List.mem_cons_self
            exact absurd fits (by simp [misfits])
      | succ i =>
          obtain ⟨p, hp, hi⟩ := ih hs takes q hq (by omega)
          exact ⟨p, hp, by omega⟩
  | drops _ _ _ ih =>
      exact ih hs (takes.imp_right (And.imp_right List.forall_mem_of_forall_mem_cons))

end Placement

end Layout

/-! ## Positions in the input do not matter

Which character goes to which slot depends on the characters of the input alone.
-/

/-- What is seen of a cell: its character, its slot, and whether the character was typed. -/
def Cell.face (c : Cell) : Char × ℕ × Bool := (c.char, c.slot, c.isValue)

namespace Layout

lemma seats_eq_of_face {cells others : List Cell} (h : cells.map Cell.face = others.map Cell.face) :
    seats cells = seats others := by
  have seats_face (cells : List Cell) :
      seats cells = ((cells.map Cell.face).filter (·.2.2)).map fun f => (f.1, f.2.1) := by
    rw [seats, List.filter_map, List.map_map]
    rfl
  rw [seats_face, seats_face, h]

lemma resume_eq_of_face {cells others : List Cell} (h : cells.map Cell.face = others.map Cell.face) :
    resume cells = resume others := by
  have resume_face (cells : List Cell) :
      resume cells = ((cells.map Cell.face).getLast?.map (·.2.1 + 1)).getD 0 := by
    rw [resume, List.getLast?_map, Option.map_map]
    rfl
  rw [resume_face, resume_face, h]

variable {slots : List Slot} {k : ℕ} {input : List (Char × ℕ)} {cells : List Cell}

/-- Inputs of the same characters are laid out alike. -/
lemma Placement.face_place (h : Placement slots k input cells) {input' : List (Char × ℕ)}
    (same : input'.map Prod.fst = input.map Prod.fst) :
    (place slots k input').map Cell.face = cells.map Cell.face := by
  induction h generalizing input' with
  | endOfMask => rfl
  | endOfInput =>
      rw [List.map_eq_nil_iff.mp same, place_nil_input]
  | hides l _ ih =>
      rw [place_literal_of_eq_nil _ _ l (List.map_eq_nil_iff.mp (ih same))]
  | shows l _ ih =>
      obtain ⟨d', cells', h', hd, hcells⟩ := List.map_eq_cons_iff.mp (ih same)
      rw [place_literal_of_eq_cons _ _ l h']
      simp only [List.map_cons, hd, hcells]
  | takes optional i fits _ ih =>
      obtain ⟨⟨c', i'⟩, rest', rfl, rfl, hrest⟩ := List.map_eq_cons_iff.mp same
      rw [place_value_of_accepts _ optional _ _ rest' i' fits]
      simp [Cell.face, Cell.isValue, ih hrest]
  | skips misfits _ ih =>
      obtain ⟨⟨c', i'⟩, rest', rfl, rfl, hrest⟩ := List.map_eq_cons_iff.mp same
      rw [place_optional_of_refuses _ _ _ rest' i' misfits]
      exact ih same
  | drops i misfits _ ih =>
      obtain ⟨⟨c', i'⟩, rest', rfl, rfl, hrest⟩ := List.map_eq_cons_iff.mp same
      rw [place_mandatory_of_refuses _ _ _ rest' i' misfits]
      exact ih hrest

lemma face_place_congr (slots : List Slot) (k : ℕ) {input input' : List (Char × ℕ)}
    (same : input.map Prod.fst = input'.map Prod.fst) :
    (place slots k input).map Cell.face = (place slots k input').map Cell.face :=
  (placement_place slots k input').face_place same

/-! ## Where the placed cells end -/

@[simp] lemma resume_nil : resume [] = 0 := rfl

@[simp] lemma resume_singleton (c : Cell) : resume [c] = c.slot + 1 := rfl

@[simp] lemma resume_cons_cons (c d : Cell) (cells : List Cell) :
    resume (c :: d :: cells) = resume (d :: cells) := by
  simp [resume, List.getLast?_cons_cons]

lemma Placement.lt_resume (h : Placement slots k input cells) (some : cells ≠ []) :
    k < resume cells := by
  have last := h.le_slot _ (List.getLast_mem some)
  rw [resume, List.getLast?_eq_some_getLast some]
  exact Nat.lt_succ_of_le last

lemma Placement.resume_cons (h : Placement slots (k + 1) input cells) (c : Char)
    (source : Option ℕ) :
    resume (⟨c, k, source⟩ :: cells) = max (k + 1) (resume cells) := by
  cases cells with
  | nil => rw [resume_singleton, resume_nil, Nat.max_zero]
  | cons d cells =>
      have := h.lt_resume (List.cons_ne_nil d cells)
      rw [resume_cons_cons]
      omega

end Layout

end MaskedInput
