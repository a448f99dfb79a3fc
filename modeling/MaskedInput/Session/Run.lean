import MaskedInput.Session.Basic

/-!
# Runs of operations

What can happen to a session is a list of operations, one after another; a failing edit leaves the
session as it was.

* `Operation` — what can be done with a session.
* `Session.step`, **`Session.run`** — one operation, and all of a list, with their answers.
* `Session.Reachable` — the states that the empty field can come to.
-/

namespace MaskedInput

/-- What can be done with a session. -/
inductive Operation where
  | edit (e : Edit)
  | setText (text : List Char)
  | clear
  | focus
  | blur
  deriving DecidableEq, Repr, Inhabited

abbrev Answer := Except RangeError Update

namespace Session

def answered (result : Session × Update) : Session × Answer := (result.1, .ok result.2)

/-- One operation.  A failing edit changes nothing. -/
def step (s : Session) : Operation → Session × Answer
  | .edit e =>
    match s.edit e with
    | .ok result => answered result
    | .error error => (s, .error error)
  | .setText text => answered (s.setText text)
  | .clear => answered s.clear
  | .focus => answered s.focus
  | .blur => answered s.blur

/-- **The operations of a list, one after another**, with their answers. -/
def run (s : Session) : List Operation → Session × List Answer
  | [] => (s, [])
  | operation :: operations =>
    let (s, answer) := s.step operation
    let (s, answers) := s.run operations
    (s, answer :: answers)

/-- The states that the empty field can come to. -/
inductive Reachable (f : Field) : Session → Prop where
  | start : Reachable f (start f)
  | step {s : Session} (h : Reachable f s) (operation : Operation) :
      Reachable f (s.step operation).1

/-- The states that the empty field can come to are those at the ends of runs. -/
theorem reachable_iff {f : Field} {s : Session} :
    Reachable f s ↔ ∃ operations, ((start f).run operations).1 = s := by
  have run_append (s : Session) (before after : List Operation) :
      (s.run (before ++ after)).1 = ((s.run before).1.run after).1 := by
    induction before generalizing s with
    | nil => rfl
    | cons operation before ih => exact ih _
  constructor
  · intro h
    induction h with
    | start => exact ⟨[], rfl⟩
    | step _ operation ih =>
      obtain ⟨operations, rfl⟩ := ih
      exact ⟨operations ++ [operation], run_append ..⟩
  · rintro ⟨operations, rfl⟩
    have reachable_run (s : Session) (h : Reachable f s) (operations : List Operation) :
        Reachable f (s.run operations).1 := by
      induction operations generalizing s with
      | nil => exact h
      | cons operation operations ih => exact ih _ (.step h operation)
    exact reachable_run _ .start _

end Session

end MaskedInput
