import Mathlib.Data.List.Chain
import MaskedInput.Proofs.Session.Coherence

/-!
# Changes of completeness

An observer sees nothing of a field but the answers, and is to know from the changes they report whether
the value is complete.  An operation reports the change between the states around it, whatever it does
in between, so the reports of a run alternate and there is one for every flip.

Losing or gaining the focus is no change.  It may lay an empty value out again, under another tail
policy, but a tail consists of literals, and none of them has to be filled.

* `Transition.Leads` — transitions, one after another, that lead from one completeness to another.
* `Session.reported` — the transitions that a run reports.
* `Session.transition?_step`, `Session.leads_run` — what one operation and a run report.
* `Session.Neutral` — an answer that reports nothing, and the value is what it was.
* **`Session.reported_run`** — every flip is reported exactly once, and a change of the focus is none.
-/

namespace MaskedInput

namespace Transition

/-- The transition out of a completeness. -/
def leaving : Bool → Transition
  | false => .completed
  | true => .uncompleted

@[simp]
lemma between_self (complete : Bool) : between complete complete = none := by
  cases complete <;> rfl

@[simp]
lemma between_not (complete : Bool) : between complete (!complete) = some (leaving complete) := by
  cases complete <;> rfl

lemma leaving_ne_leaving_not (complete : Bool) : leaving complete ≠ leaving !complete := by
  cases complete <;> simp [leaving]

/-- **Transitions that lead from one completeness to another**: the first one leaves the completeness at
the start, they alternate, and each of them is a flip. -/
structure Leads (before : Bool) (transitions : List Transition) (after : Bool) : Prop where
  first : ∀ t ∈ transitions.head?, t = leaving before
  alternate : transitions.IsChain (· ≠ ·)
  after_eq : after = not^[transitions.length] before

namespace Leads

lemma nil (complete : Bool) : Leads complete [] complete :=
  ⟨by simp, List.IsChain.nil, rfl⟩

lemma cons {complete after : Bool} {transitions : List Transition}
    (h : Leads (!complete) transitions after) :
    Leads complete (leaving complete :: transitions) after := by
  refine ⟨by simp, h.alternate.cons ?_, h.after_eq⟩
  intro t ht
  rw [h.first t ht]
  exact leaving_ne_leaving_not complete

/-- The change between two states, if there is one, goes in front. -/
lemma step {before middle after : Bool} {transitions : List Transition}
    (h : Leads middle transitions after) :
    Leads before ((between before middle).toList ++ transitions) after := by
  by_cases same : before = middle
  · rw [same, between_self]
    exact h
  · obtain rfl : middle = !before := Bool.eq_not_of_ne (Ne.symm same)
    rw [between_not]
    exact h.cons

end Leads

end Transition

namespace Session

open Transition

variable {f : Field} {s : Session}

/-! ## What is reported -/

/-- The transition that an answer reports; an error reports none. -/
def transition? : Answer → Option Transition
  | .ok update => update.transition
  | .error _ => none

/-- The transitions that a run reports, in order. -/
def reported (answers : List Answer) : List Transition := answers.filterMap transition?

lemma reported_cons (answer : Answer) (answers : List Answer) :
    reported (answer :: answers) = (transition? answer).toList ++ reported answers := by
  rw [reported, List.filterMap_cons]
  cases transition? answer <;> rfl

/-- An answer reports the change of completeness that it comes with. -/
def ReportsChange (s : Session) (r : Session × Update) : Prop :=
  r.2.transition = between s.current.complete r.1.current.complete

lemma reportsChange_unchanged (s : Session) : s.ReportsChange s.unchanged :=
  (between_self _).symm

lemma reportsChange_edit {e : Edit} {r : Session × Update} (ok : s.edit e = .ok r) :
    s.ReportsChange r := by
  obtain ⟨i, d, -, rfl⟩ := edit_eq_ok ok
  rfl

lemma reportsChange_setText (s : Session) (text : List Char) : s.ReportsChange (s.setText text) := by
  rcases s.setText_cases text with ⟨r, ok, eq⟩ | ⟨-, eq⟩
  · rw [eq]
    exact reportsChange_edit ok
  · rw [eq]
    exact s.reportsChange_unchanged

lemma reportsChange_focus (s : Session) : s.ReportsChange s.focus := by
  rw [focus]
  split_ifs
  · rfl
  · exact reportsChange_unchanged { s with focused := true }

lemma reportsChange_blur (s : Session) : s.ReportsChange s.blur := by
  rw [blur]
  split_ifs
  · rfl
  · exact reportsChange_unchanged { s with focused := false }

/-- **One operation** reports the change between the states around it. -/
theorem transition?_step (s : Session) (operation : Operation) :
    transition? (s.step operation).2
      = between s.current.complete (s.step operation).1.current.complete := by
  cases operation with
  | edit e =>
      rw [step]
      cases result : s.edit e with
      | ok r => exact reportsChange_edit result
      | error error => exact (between_self _).symm
  | setText text => exact s.reportsChange_setText text
  | clear => exact s.reportsChange_setText []
  | focus => exact s.reportsChange_focus
  | blur => exact s.reportsChange_blur

/-- **A run of operations** reports what leads from its first state to its last. -/
theorem leads_run (s : Session) (operations : List Operation) :
    Leads s.current.complete (reported (s.run operations).2)
      (s.run operations).1.current.complete := by
  induction operations generalizing s with
  | nil => exact Leads.nil _
  | cons operation operations ih =>
      have rest := ih (s.step operation).1
      rw [run, reported_cons, transition?_step]
      exact rest.step

/-- The answers of a run are given as it goes along. -/
lemma run_take (s : Session) (operations : List Operation) (n : ℕ) :
    (s.run (operations.take n)).2 = (s.run operations).2.take n := by
  induction operations generalizing s n with
  | nil => simp [run]
  | cons operation operations ih =>
      cases n with
      | zero => rfl
      | succ n => exact congrArg (List.cons _) (ih (s.step operation).1 n)

/-! ## The focus -/

/-- **An answer that reports nothing**, with the value and its completeness as they were. -/
structure Neutral (s : Session) (r : Session × Update) : Prop where
  value : r.1.current.value = s.current.value
  complete : r.1.current.complete = s.current.complete
  transition : r.2.transition = none

/-- While the field gains or loses the focus, everything may stay as it is. -/
lemma neutral_unchanged (s : Session) (focused : Bool) : s.Neutral (unchanged { s with focused }) :=
  ⟨rfl, rfl, rfl⟩

/-- Or an empty value is laid out again, under any tail policy. -/
lemma DisplaysLayout.neutral_relayout (h : s.DisplaysLayout) (untyped : s.current.value = [])
    (focused : Bool) (tail : Tail) : s.Neutral (Session.relayout { s with focused } tail) := by
  have coherent := h.coherent_of_value_eq_nil untyped
  have complete := coherent.complete_layout tail
  refine ⟨coherent.value_layout tail, complete, ?_⟩
  show between s.current.complete (s.mask.layout tail s.current.value).complete = none
  rw [complete, between_self]

lemma DisplaysLayout.neutral_focus (h : s.DisplaysLayout) : s.Neutral s.focus := by
  rw [focus]
  split_ifs with shows
  · exact h.neutral_relayout (by simp_all) true .eager
  · exact s.neutral_unchanged true

lemma DisplaysLayout.neutral_blur (h : s.DisplaysLayout) : s.Neutral s.blur := by
  rw [blur]
  split_ifs with shows
  · exact h.neutral_relayout (by simp_all) false .afterValue
  · exact s.neutral_unchanged false

/-! ## Over a whole run -/

/-- **Every flip is reported exactly once.**  Over any run from the empty field, the reported transitions
alternate, and the first one leaves the completeness of the empty field.  After the first `n` operations,
the value is as complete as the empty one was, flipped once for each transition reported up to there.
Where the run ends, neither gaining nor losing the focus is reported or changes the value or its
completeness. -/
theorem reported_run (f : Field) (operations : List Operation) :
    (reported ((start f).run operations).2).IsChain (· ≠ ·)
      ∧ (∀ t ∈ (reported ((start f).run operations).2).head?,
        t = if (start f).current.complete then .uncompleted else .completed)
      ∧ (∀ n, ((start f).run (operations.take n)).1.current.complete
        = not^[(reported (((start f).run operations).2.take n)).length] (start f).current.complete)
      ∧ Neutral ((start f).run operations).1 ((start f).run operations).1.focus
      ∧ Neutral ((start f).run operations).1 ((start f).run operations).1.blur := by
  have leads := (start f).leads_run operations
  have displays : DisplaysLayout ((start f).run operations).1 :=
    (reachable_iff.mpr ⟨operations, rfl⟩ : Reachable f _).displaysLayout
  refine ⟨leads.alternate, ?_, ?_, displays.neutral_focus, displays.neutral_blur⟩
  · intro t ht
    rw [leads.first t ht]
    cases (start f).current.complete <;> rfl
  · intro n
    rw [← run_take]
    exact ((start f).leads_run (operations.take n)).after_eq

/-- Empty, the field is complete.  The letter switches to a mask that asks for a second one, an edit
outside of the text fails, and the digit switches back. -/
theorem exists_reported_run : ∃ (f : Field) (operations : List Operation),
    (start f).current.complete = true
      ∧ reported ((start f).run operations).2 = [.uncompleted, .completed]
      ∧ .uncompleted ∈ (reported ((start f).run operations).2).head?
      ∧ Transition.uncompleted
        = (if (start f).current.complete then Transition.uncompleted else .completed)
      ∧ ((start f).run (operations.take 3)).1.current.complete = false
      ∧ Neutral ((start f).run operations).1 ((start f).run operations).1.blur := by
  let letter : Slot := .value .letter false
  let f : Field :=
    { primary := ⟨[], [.literal '(', .value .digit true], true, false⟩
      others := [⟨[], [letter, .literal '-', letter], true, false⟩]
      autocompleteOnFocus := true }
  let operations : List Operation :=
    [.focus, .setText ['a'], .edit ⟨0, 9, []⟩, .edit ⟨0, 2, ['5']⟩, .clear]
  have first : .uncompleted ∈ (reported ((start f).run operations).2).head? := by decide +kernel
  obtain ⟨-, leaves, -, -, neutral⟩ := reported_run f operations
  exact ⟨f, operations, by decide +kernel, by decide +kernel, first, leaves _ first,
    by decide +kernel, neutral⟩

end Session

end MaskedInput
