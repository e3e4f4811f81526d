import Mathlib.Data.List.Basic

/-! # Systems that take one step after the other

A system is a function that says what an action does to a state, if the action
is possible there.
-/

namespace Dragonflow

/-- Take the actions in turn. -/
def steps (step : σ → ι → Option σ) : List ι → σ → Option σ
  | [], state => some state
  | action :: actions, state => (step state action).bind (steps step actions)

variable {step : σ → ι → Option σ}

@[simp] theorem steps_nil (state : σ) : steps step [] state = some state := rfl

theorem steps_cons_eq_some {action : ι} {actions : List ι} {state after : σ} :
    steps step (action :: actions) state = some after ↔
      ∃ middle, step state action = some middle ∧
        steps step actions middle = some after := by
  simp only [steps, Option.bind_eq_some_iff]

theorem steps_append_eq (first second : List ι) (state : σ) :
    steps step (first ++ second) state =
      (steps step first state).bind (steps step second) := by
  induction first generalizing state with
  | nil => rfl
  | cons action actions induction =>
      simp only [List.cons_append, steps, Option.bind_assoc]
      congr 1
      funext middle
      exact induction middle

theorem steps_append {first second : List ι} {state middle after : σ}
    (before : steps step first state = some middle)
    (rest : steps step second middle = some after) :
    steps step (first ++ second) state = some after := by
  rw [steps_append_eq, before]
  exact rest

/-- What holds initially and is kept by every step holds in every state that is
reached. -/
theorem steps_invariant (invariant : σ → Prop)
    (kept : ∀ state action after, invariant state →
      step state action = some after → invariant after)
    {actions : List ι} {state after : σ} (initial : invariant state)
    (reached : steps step actions state = some after) : invariant after := by
  induction actions generalizing state with
  | nil =>
      cases reached
      exact initial
  | cons action actions induction =>
      rw [steps_cons_eq_some] at reached
      rcases reached with ⟨middle, stepped, walked⟩
      exact induction (kept state action middle initial stepped) walked

/-- Every action of a run meets the condition in the state in which it is taken. -/
def Throughout (step : σ → ι → Option σ) (condition : σ → ι → Prop) :
    List ι → σ → Prop
  | [], _ => True
  | action :: actions, state => condition state action ∧
      (step state action).elim True (Throughout step condition actions)

instance Throughout.decidable {condition : σ → ι → Prop}
    [∀ state action, Decidable (condition state action)] :
    ∀ (actions : List ι) (state : σ), Decidable (Throughout step condition actions state)
  | [], _ => isTrue trivial
  | action :: actions, state =>
      have : Decidable ((step state action).elim True
          (Throughout step condition actions)) :=
        match step state action with
        | none => isTrue trivial
        | some after => decidable actions after
      inferInstanceAs (Decidable (condition state action ∧ _))

/-- What holds initially and is kept by every step that meets the condition holds at
the end of every run of such steps. -/
theorem steps_throughout {condition : σ → ι → Prop} (invariant : σ → Prop)
    (kept : ∀ state action after, invariant state → condition state action →
      step state action = some after → invariant after)
    {actions : List ι} {state after : σ} (initial : invariant state)
    (meets : Throughout step condition actions state)
    (reached : steps step actions state = some after) : invariant after := by
  induction actions generalizing state with
  | nil =>
      cases reached
      exact initial
  | cons action actions induction =>
      rw [steps_cons_eq_some] at reached
      rcases reached with ⟨middle, stepped, walked⟩
      rcases meets with ⟨met, later⟩
      rw [stepped] at later
      exact induction (kept state action middle initial met stepped) later walked

/-- An invariant turns one condition on all the steps into another. -/
theorem Throughout.imp {condition property : σ → ι → Prop} (invariant : σ → Prop)
    (kept : ∀ state action after, invariant state → condition state action →
      step state action = some after → invariant after)
    (implies : ∀ state action, invariant state → condition state action →
      property state action)
    {actions : List ι} {state : σ} (initial : invariant state)
    (meets : Throughout step condition actions state) :
    Throughout step property actions state := by
  induction actions generalizing state with
  | nil => trivial
  | cons action actions induction =>
      rcases meets with ⟨met, later⟩
      refine ⟨implies state action initial met, ?_⟩
      cases stepped : step state action with
      | none => trivial
      | some middle =>
          rw [stepped] at later
          exact induction (kept state action middle initial met stepped) later

end Dragonflow
