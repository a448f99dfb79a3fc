import Mathlib.Data.Int.Order.Basic
import Mathlib.Order.Nat
import MaskedInput.Field
import MaskedInput.Proofs.Alignment

/-!
# The first of the best masks

The scores of the masks are gone through once, and the best one so far is given up only for a better
one.  So of several masks that fit a text equally well, the one that is written down first is chosen.

* `FirstBest` — the first of the highest scores; there is only one (`FirstBest.unique`).
* `FirstBest.append` — one more score.
* **`Field.pick_firstBest`** — the chosen mask is the first of the best.
-/

namespace MaskedInput

/-- **The first of the highest scores** stands at index `i`: no score is higher than `best`, and those
in front of it are lower. -/
structure FirstBest (scores : List ℤ) (i : ℕ) (best : ℤ) : Prop where
  here : scores[i]? = some best
  highest : ∀ score ∈ scores, score ≤ best
  front : ∀ score ∈ scores.take i, score < best

section Scores

variable {scores : List ℤ} {i j : ℕ} {best best' : ℤ}

namespace FirstBest

lemma lt_length (h : FirstBest scores i best) : i < scores.length :=
  (List.getElem?_eq_some_iff.mp h.here).1

lemma le_of_highest (h : FirstBest scores i best) (h' : FirstBest scores j best') : i ≤ j := by
  by_contra before
  have passed : best' ∈ scores.take i :=
    List.mem_of_getElem? (i := j) (by rw [List.getElem?_take_of_lt (by omega), h'.here])
  have := h.front best' passed
  have := h'.highest best (List.mem_of_getElem? h.here)
  omega

lemma unique (h : FirstBest scores i best) (h' : FirstBest scores j best') : i = j :=
  le_antisymm (h.le_of_highest h') (h'.le_of_highest h)

/-- One more score is chosen exactly if it is higher than all the others. -/
lemma append (h : FirstBest scores i best) (score : ℤ) :
    FirstBest (scores ++ [score]) (if best < score then scores.length else i) (max best score) := by
  have within := h.lt_length
  split_ifs with better
  · rw [max_eq_right better.le]
    constructor
    case here => simp
    case highest =>
      intro other hother
      rcases List.mem_append.mp hother with hother | hother
      · exact (h.highest other hother).trans better.le
      · exact (List.mem_singleton.mp hother).le
    case front =>
      intro other hother
      rw [List.take_left] at hother
      exact (h.highest other hother).trans_lt better
  · have worse : score ≤ best := not_lt.mp better
    rw [max_eq_left worse]
    constructor
    case here => rw [List.getElem?_append_left within, h.here]
    case highest =>
      intro other hother
      rcases List.mem_append.mp hother with hother | hother
      · exact h.highest other hother
      · exact (List.mem_singleton.mp hother).le.trans worse
    case front =>
      intro other hother
      rw [List.take_append_of_le_length within.le] at hother
      exact h.front other hother

end FirstBest

/-- Going through the rest of the scores keeps the first of the highest ones. -/
lemma pickFrom_firstBest {seen : List ℤ} (h : FirstBest seen i best) (scores : List ℤ) :
    ∃ highest, FirstBest (seen ++ scores) (pickFrom i best seen.length scores) highest := by
  induction scores generalizing seen i best with
  | nil =>
      rw [List.append_nil]
      exact ⟨best, h⟩
  | cons score scores ih =>
      have rest := ih (h.append score)
      rw [List.append_assoc, List.singleton_append, List.length_append, List.length_singleton] at rest
      rw [pickFrom]
      split_ifs at rest ⊢ with better
      · rwa [max_eq_right better.le] at rest
      · rwa [max_eq_left (not_lt.mp better)] at rest

end Scores

/-! ## The chosen mask -/

namespace Field

/-- The scores of the masks of a field, in their order. -/
def scores (f : Field) (text : List Char) : List ℤ := f.masks.map (Mask.affinity · f.strategy text)

/-- **The chosen mask is the first of the best**: it fits the text at least as well as every mask of the
field, and better than those that are written down in front of it. -/
theorem pick_firstBest (f : Field) (text : List Char) :
    FirstBest (f.scores text) (f.pick text) ((f.best text).affinity f.strategy text) := by
  have first : FirstBest [f.primary.affinity f.strategy text] 0 (f.primary.affinity f.strategy text) := by
    constructor
    case here => rfl
    case highest => simp
    case front => simp
  obtain ⟨highest, chosen⟩ : ∃ highest, FirstBest (f.scores text) (f.pick text) highest :=
    pickFrom_firstBest first _
  have here := chosen.here
  rw [scores, List.getElem?_map] at here
  obtain ⟨m, hm, rfl⟩ := Option.map_eq_some_iff.mp here
  have best : f.best text = m := by
    rw [Field.best, mask, List.getD_eq_getElem?_getD, hm, Option.getD_some]
  rw [best]
  exact chosen

/-- With one mask there is nothing to choose. -/
lemma pick_of_alone {f : Field} (alone : f.others = []) (text : List Char) : f.pick text = 0 := by
  rw [pick, alone]
  rfl

end Field

/-! ## The mask of an empty text -/

lemma Mask.affinity_nil (m : Mask) (strategy : Strategy) : m.affinity strategy [] = 0 := by
  cases strategy with
  | wholeString =>
      rw [affinity, align_nil]
      rfl
  | commonStart =>
      rw [affinity]
      cases (m.format []).text <;> rfl

/-- No mask fits an empty text better than the primary one. -/
lemma Field.pick_nil (f : Field) : f.pick [] = 0 := by
  have equal : ∀ score ∈ f.scores [], score = 0 := by
    intro score hs
    obtain ⟨m, -, rfl⟩ := List.mem_map.mp hs
    exact m.affinity_nil f.strategy
  have primary : FirstBest (f.scores []) 0 0 := by
    constructor
    case here => exact congrArg some (f.primary.affinity_nil f.strategy)
    case highest => exact fun score hs => (equal score hs).le
    case front => simp
  exact (f.pick_firstBest []).unique primary

end MaskedInput
