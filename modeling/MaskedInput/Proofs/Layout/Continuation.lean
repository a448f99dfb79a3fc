import MaskedInput.Proofs.Layout.Relayout

/-!
# An input that goes on

Characters that are typed later are laid out behind those typed earlier, but the earlier input is
known only by its value: what it dropped is forgotten.  Over mandatory slots nothing is lost by
that.  A dropped character leaves the walk at the slot that refused it.

* **`Placement.prefix_place_append`** — what is placed stays placed, over optional slots as well.
* `Placement.taken_place_of_append` — of an input that is placed completely, every first part is.
* `Placement.place_append` — the placed characters take the place of the input they come from.
* `Placement.place_append_refused` — characters that no slot takes may as well be missing.
* **`NoOptional.layout_value_append_alike`**, `layout_append_refused_alike` — the same of layouts from
  the left.
-/

namespace MaskedInput

namespace Layout

variable {slots : List Slot} {k : ℕ} {input : List (Char × ℕ)} {cells : List Cell}

/-- Of characters that no slot takes, nothing is placed. -/
lemma place_refused (slots : List Slot) (k : ℕ) {more : List (Char × ℕ)}
    (refused : ∀ s ∈ slots, ∀ p ∈ more, s.accepts p.1 = false) : place slots k more = [] := by
  have walk := placement_place slots k more
  apply walk.eq_nil_of_taken
  rw [← List.map_eq_nil_iff (f := Prod.fst), map_fst_taken, List.map_eq_nil_iff,
    List.eq_nil_iff_forall_not_mem]
  intro p hp
  obtain ⟨i, s, hs, -, fits⟩ := walk.accepts_of_mem_seats p hp
  have placed : p.1 ∈ (taken (place slots k more)).map Prod.fst := by
    rw [map_fst_taken]
    exact List.mem_map_of_mem hp
  obtain ⟨q, hq, same⟩ := List.mem_map.mp placed
  have misfits := refused s (List.mem_of_getElem? hs) q (walk.taken_sublist.subset hq)
  rw [same, fits] at misfits
  exact absurd misfits (by simp)

lemma taken_place_literal (l : Char) (slots : List Slot) (k : ℕ) (input : List (Char × ℕ)) :
    taken (place (.literal l :: slots) k input) = taken (place slots (k + 1) input) := by
  cases h : place slots (k + 1) input with
  | nil => rw [place_literal_of_eq_nil slots k l h]
  | cons d cells => rw [place_literal_of_eq_cons slots k l h, taken_literal]

namespace Placement

/-- **What is placed stays placed.**  When the input goes on, so do the cells. -/
theorem prefix_place_append (h : Placement slots k input cells) (more : List (Char × ℕ)) :
    cells <+: place slots k (input ++ more) := by
  induction h with
  | endOfMask => exact List.nil_prefix
  | endOfInput => exact List.nil_prefix
  | hides => exact List.nil_prefix
  | shows l _ ih =>
      obtain ⟨behind, eq⟩ := ih
      exact ⟨behind, (place_literal_of_eq_cons _ _ l eq.symm).symm⟩
  | takes optional i fits _ ih =>
      rw [List.cons_append, place_value_of_accepts _ optional _ _ _ i fits]
      exact (List.prefix_cons_inj _).mpr ih
  | skips misfits _ ih =>
      rw [List.cons_append, place_optional_of_refuses _ _ _ _ _ misfits]
      exact ih
  | drops i misfits _ ih =>
      rw [List.cons_append, place_mandatory_of_refuses _ _ _ _ _ misfits]
      exact ih

/-- Of an input that is placed completely, every first part is placed completely. -/
lemma taken_place_of_append {front back : List (Char × ℕ)}
    (h : Placement slots k (front ++ back) cells) (all : taken cells = front ++ back) :
    taken (place slots k front) = front := by
  generalize whole : front ++ back = input at h all
  induction h generalizing front with
  | endOfMask =>
      obtain ⟨rfl, -⟩ := List.append_eq_nil_iff.mp (whole.trans all.symm)
      rfl
  | endOfInput =>
      obtain ⟨rfl, -⟩ := List.append_eq_nil_iff.mp whole
      rw [place_nil_input, taken_nil]
  | hides =>
      obtain ⟨rfl, -⟩ := List.append_eq_nil_iff.mp (whole.trans all.symm)
      rw [place_nil_input, taken_nil]
  | shows l _ ih =>
      rw [taken_place_literal]
      exact ih whole all
  | takes optional i fits _ ih =>
      cases front with
      | nil => rw [place_nil_input, taken_nil]
      | cons p front =>
          obtain ⟨rfl, rfl⟩ := List.cons.inj whole
          rw [place_value_of_accepts _ optional _ _ _ i fits, taken_value,
            ih rfl (List.cons.inj all).2]
  | skips misfits _ ih =>
      cases front with
      | nil => rw [place_nil_input, taken_nil]
      | cons p front =>
          obtain ⟨rfl, rfl⟩ := List.cons.inj whole
          rw [place_optional_of_refuses _ _ _ _ _ misfits]
          exact ih rfl all
  | drops i _ walk _ =>
      have fewer := walk.taken_sublist.length_le
      rw [all, List.length_cons] at fewer
      omega

/-- **What was dropped is forgotten.**  Over mandatory slots, whatever comes next is placed behind
the placed characters as it is behind the input. -/
theorem place_append (h : Placement slots k input cells)
    (mandatory : ∀ s ∈ slots, s.isLiteral = false → s.isMandatory = true)
    (more : List (Char × ℕ)) : place slots k (taken cells ++ more) = place slots k (input ++ more) := by
  induction h with
  | endOfMask => rfl
  | endOfInput => rfl
  | hides l _ ih =>
      have behind := ih (List.forall_mem_of_forall_mem_cons mandatory)
      simp only [place, behind]
  | shows l _ ih =>
      have behind := ih (List.forall_mem_of_forall_mem_cons mandatory)
      rw [taken_literal]
      simp only [place, behind]
  | takes optional i fits _ ih =>
      have behind := ih (List.forall_mem_of_forall_mem_cons mandatory)
      rw [taken_value, List.cons_append, List.cons_append, place_value_of_accepts _ _ _ _ _ _ fits,
        place_value_of_accepts _ _ _ _ _ _ fits, behind]
  | skips =>
      exact absurd (Slot.optional_eq_false mandatory) (by simp)
  | drops i misfits _ ih =>
      rw [List.cons_append, place_mandatory_of_refuses _ _ _ _ _ misfits]
      exact ih mandatory

/-- Characters that no slot takes may as well be missing behind the input. -/
lemma place_append_refused (h : Placement slots k input cells) {more : List (Char × ℕ)}
    (refused : ∀ s ∈ slots, ∀ p ∈ more, s.accepts p.1 = false) :
    place slots k (input ++ more) = cells := by
  induction h with
  | endOfMask => rfl
  | endOfInput => exact place_refused _ _ refused
  | hides l _ ih =>
      exact place_literal_of_eq_nil _ _ l (ih (List.forall_mem_of_forall_mem_cons refused))
  | shows l _ ih =>
      exact place_literal_of_eq_cons _ _ l (ih (List.forall_mem_of_forall_mem_cons refused))
  | takes optional i fits _ ih =>
      rw [List.cons_append, place_value_of_accepts _ _ _ _ _ _ fits,
        ih (List.forall_mem_of_forall_mem_cons refused)]
  | skips misfits _ ih =>
      rw [List.cons_append, place_optional_of_refuses _ _ _ _ _ misfits]
      exact ih (List.forall_mem_of_forall_mem_cons refused)
  | drops i misfits _ ih =>
      rw [List.cons_append, place_mandatory_of_refuses _ _ _ _ _ misfits]
      exact ih refused

end Placement

end Layout

/-! ## Layouts from the left -/

namespace Mask

variable {m : Mask} (tail : Tail) (input more : List Char)

/-- **The value stands for the input.**  Over a mask without optional slots, whatever comes next is
laid out behind the value as it is behind the input. -/
theorem NoOptional.layout_value_append_alike (h : m.NoOptional) (left : m.rightToLeft = false) :
    (m.layout tail ((m.layout tail input).value ++ more)).Alike (m.layout tail (input ++ more)) := by
  rw [layout_eq_forward _ _ left, layout_eq_forward _ _ left, layout_eq_forward _ _ left]
  apply Layout.forward_alike
  have walk := Layout.placement_place m.slots 0 input.zipIdx
  calc (Layout.place m.slots 0 (_ ++ more).zipIdx).map Cell.face
      = (Layout.place m.slots 0
          (Layout.taken (Layout.place m.slots 0 input.zipIdx) ++ more.zipIdx)).map Cell.face := by
        apply Layout.face_place_congr
        rw [List.map_append, Layout.map_fst_taken, Layout.value_eq_seats, Layout.seats_forward]
        simp
    _ = (Layout.place m.slots 0 (input.zipIdx ++ more.zipIdx)).map Cell.face := by
        rw [walk.place_append h]
    _ = (Layout.place m.slots 0 (input ++ more).zipIdx).map Cell.face := by
        apply Layout.face_place_congr
        simp

/-- Characters that the mask does not take may as well be missing behind the input. -/
lemma layout_append_refused_alike (left : m.rightToLeft = false)
    (refused : ∀ c ∈ more, m.acceptsAnywhere c = false) :
    (m.layout tail (input ++ more)).Alike (m.layout tail input) := by
  rw [layout_eq_forward _ _ left, layout_eq_forward _ _ left]
  apply Layout.forward_alike
  have walk := Layout.placement_place m.slots 0 input.zipIdx
  have missing : ∀ s ∈ m.slots, ∀ p ∈ more.zipIdx, s.accepts p.1 = false := by
    intro s hs p hp
    have mem : p.1 ∈ more := by simpa using List.mem_map_of_mem (f := Prod.fst) hp
    simpa using List.any_eq_false.mp (refused p.1 mem) s hs
  calc (Layout.place m.slots 0 (input ++ more).zipIdx).map Cell.face
      = (Layout.place m.slots 0 (input.zipIdx ++ more.zipIdx)).map Cell.face := by
        apply Layout.face_place_congr
        simp
    _ = (Layout.place m.slots 0 input.zipIdx).map Cell.face := by
        rw [walk.place_append_refused missing]

/-- What comes next may be sifted: of a single character, nothing is missed if the mask does not
take it. -/
lemma NoOptional.layout_value_filter_alike (h : m.NoOptional) (left : m.rightToLeft = false)
    (c : Char) :
    (m.layout tail ((m.layout tail input).value ++ [c].filter m.acceptsAnywhere)).Alike
      (m.layout tail (input ++ [c])) := by
  by_cases fits : m.acceptsAnywhere c = true
  · rw [List.filter_cons_of_pos fits, List.filter_nil]
    exact h.layout_value_append_alike tail input [c] left
  · rw [List.filter_cons_of_neg fits, List.filter_nil]
    have value := h.layout_value_append_alike tail input [] left
    rw [List.append_nil input] at value
    refine value.trans (layout_append_refused_alike tail input [c] left ?_).symm
    simpa using fits

end Mask

end MaskedInput
