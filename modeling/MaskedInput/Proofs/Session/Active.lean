import MaskedInput.Proofs.Session.Range

/-!
# The active mask

Every edit looks at the text it would lead to and asks which mask fits that text best.  Whichever way it
is then carried out, with the value kept or with the text read afresh, it leaves that mask active.
Nothing else ever changes the mask.

* `Session.editOf` — the edit that an operation comes down to.
* `Session.choice?`, `Session.choices` — the masks that an operation and a run choose.
* `Session.active_step` — an operation leaves the mask active that it has chosen.
* **`Session.active_run`** — at the end of a run, the mask of the last choice is active.
* **`Session.active_firstBest`** — what every edit chooses, and that it is the first of the best.
-/

namespace MaskedInput

namespace Session

variable {f : Field} {s : Session} {e : Edit}

/-! ## The choices of a run -/

/-- The edit that an operation comes down to; a change of the focus edits nothing. -/
def editOf (s : Session) : Operation → Option Edit
  | .edit e => some e
  | .setText text => some ⟨0, s.current.text.length, text⟩
  | .clear => some ⟨0, s.current.text.length, []⟩
  | .focus | .blur => none

/-- The mask that an operation chooses, if it is a successful edit. -/
def choice? (s : Session) (operation : Operation) : Option ℕ :=
  (s.editOf operation).bind fun e => if (s.edit e).isOk then some (s.chosen e) else none

/-- The masks chosen in the course of a run, in order. -/
def choices (s : Session) : List Operation → List ℕ
  | [] => []
  | operation :: operations =>
    (s.choice? operation).toList ++ (s.step operation).1.choices operations

/-- **A successful edit** leaves the mask active that fits the text after it best. -/
lemma active_edit (h : s.ActiveChosen) {r : Session × Update} (ok : s.edit e = .ok r) :
    r.1.active = s.chosen e := by
  obtain ⟨i, d, edited, rfl⟩ := edit_eq_ok ok
  show i = s.chosen e
  rcases edited_cases edited with ⟨-, kept, rfl, -⟩ | ⟨-, -, chosen, -, -⟩
  · rcases kept with alone | kept
    · obtain ⟨text, picked⟩ := h
      rw [← picked, chosen, Field.pick_of_alone alone, Field.pick_of_alone alone]
    · exact kept.symm
  · exact chosen

lemma active_setText (h : s.ActiveChosen) (text : List Char) :
    (s.setText text).1.active = (s.choice? (.setText text)).getD s.active := by
  rcases s.setText_cases text with ⟨r, ok, eq⟩ | ⟨⟨error, failed⟩, eq⟩
  · rw [eq, active_edit h ok]
    simp [choice?, editOf, ok, Except.isOk, Except.toBool]
  · rw [eq]
    simp [choice?, editOf, failed, Except.isOk, Except.toBool, unchanged]

lemma active_focus (s : Session) : s.focus.1.active = s.active := by
  rw [focus]
  split_ifs <;> rfl

lemma active_blur (s : Session) : s.blur.1.active = s.active := by
  rw [blur]
  split_ifs <;> rfl

/-- **One operation** leaves the mask active that it has chosen; if it has chosen none, the mask stays. -/
theorem active_step (h : s.ActiveChosen) (operation : Operation) :
    (s.step operation).1.active = (s.choice? operation).getD s.active := by
  cases operation with
  | edit e =>
      rw [step]
      cases result : s.edit e with
      | ok r =>
          refine (active_edit h result).trans ?_
          simp [choice?, editOf, result, Except.isOk, Except.toBool]
      | error error => simp [choice?, editOf, result, Except.isOk, Except.toBool]
  | setText text => exact active_setText h text
  | clear => exact active_setText h []
  | focus => exact s.active_focus
  | blur => exact s.active_blur

/-- **A run of operations** leaves the mask active that was chosen last. -/
theorem active_run (h : Reachable f s) (operations : List Operation) :
    (s.run operations).1.active = (s.choices operations).getLastD s.active := by
  induction operations generalizing s with
  | nil => rfl
  | cons operation operations ih =>
      have step := active_step h.activeChosen operation
      have rest := ih (h.step operation)
      rw [step] at rest
      refine rest.trans ?_
      rw [choices]
      cases s.choice? operation with
      | none => rfl
      | some i => rw [Option.toList_some, List.singleton_append, List.getLastD_cons, Option.getD_some]

/-! ## What every edit chooses -/

/-- **The choice of the mask.**  Of the masks of a field, the first one that fits a text best is chosen:
none fits it better, and those in front of it fit it less well.  In every state, a successful edit leaves
the mask active that is chosen for the shown text with the range replaced, as autoskip widens it.  A
failing edit changes nothing, and a change of the focus does not touch the mask.  So at the end of every
run, the mask of the last successful edit is active, and the primary one if there was none. -/
theorem active_firstBest (f : Field) :
    (∀ text, FirstBest (f.scores text) (f.pick text) ((f.best text).affinity f.strategy text))
      ∧ (∀ s, Reachable f s →
        (∀ e r, s.edit e = .ok r → r.1.active = f.pick
            (s.current.text.take (e.widened f.autoskip s.layout).start ++ e.replacement
              ++ s.current.text.drop e.stop))
          ∧ (∀ e error, s.edit e = .error error → (s.step (.edit e)).1 = s)
          ∧ s.focus.1.active = s.active ∧ s.blur.1.active = s.active)
      ∧ ∀ operations, ((start f).run operations).1.active
          = ((start f).choices operations).getLastD 0 := by
  refine ⟨f.pick_firstBest, ?_, active_run .start⟩
  intro s h
  refine ⟨?_, ?_, s.active_focus, s.active_blur⟩
  · intro e r ok
    rw [active_edit h.activeChosen ok, chosen, headOf, restOf, h.field_eq]
  · intro e error failed
    rw [step, failed]

/-- With autoskip, the backspace over the literal takes the letter as well, so that the primary mask is
chosen for an empty text.  The literal alone would have left the letter, which only the other mask
takes. -/
theorem exists_active_firstBest : ∃ (f : Field) (s : Session) (r : Session × Update),
    Reachable f s ∧ s.current.text = "a-".toList ∧ s.active = 1 ∧ f.pick "a".toList = 1
      ∧ s.edit s.backspace = .ok r ∧ r.1.active = f.pick [] ∧ r.1.active = 0
      ∧ FirstBest (f.scores []) 0 ((f.best []).affinity f.strategy []) := by
  let digit : Slot := .value .digit false
  let f : Field :=
    { primary := ⟨[], [digit, digit], true, false⟩
      others := [⟨[], [.value .letter false, .literal '-', digit], true, false⟩]
      autoskip := true }
  let s : Session := ((start f).step (.setText ['a'])).1
  let d : Display := ⟨[], [], 0, false⟩
  let r : Session × Update := ({ s with active := 0, tail := .hidden, current := d }, ⟨d, none⟩)
  have reachable : Reachable f s := .step .start _
  have ok : s.edit s.backspace = .ok r := by decide +kernel
  have empty : s.current.text.take (s.backspace.widened f.autoskip s.layout).start
      ++ s.backspace.replacement ++ s.current.text.drop s.backspace.stop = [] := by decide +kernel
  have first : f.pick [] = 0 := by decide +kernel
  obtain ⟨best, session, -⟩ := active_firstBest f
  have active := (session s reachable).1 s.backspace r ok
  rw [empty] at active
  have here := best []
  rw [first] at here
  exact ⟨f, s, r, reachable, by decide +kernel, by decide +kernel, by decide +kernel, ok, active,
    active.trans first, here⟩

end Session

end MaskedInput
