import Dragonflow.Foundation.Steps

/-! # Sessions

Sessions are opened, used and closed by key. A session has a kind, and whoever
uses or closes it has to name that kind.
-/

namespace Dragonflow

inductive SessionEvent (κ : Type)
  | opened (kind : κ)
  | used (kind : κ)
  | closed (kind : κ)
  deriving DecidableEq, Repr

variable {ι κ : Type} [DecidableEq ι] [DecidableEq κ]

/-- What is open after an event. Nothing is in order but to open a session
where none is open, and to use or close one of the kind that is open. -/
def SessionEvent.follow : Option κ → SessionEvent κ → Option (Option κ)
  | none, .opened kind => some (some kind)
  | some current, .used kind => if kind = current then some (some current) else none
  | some current, .closed kind => if kind = current then some none else none
  | _, _ => none

namespace SessionEvent

variable {status next : Option κ} {kind : κ}

@[simp] theorem follow_opened :
    follow status (.opened kind) = some next ↔ status = none ∧ next = some kind := by
  cases status <;> simp [follow, eq_comm]

@[simp] theorem follow_used :
    follow status (.used kind) = some next ↔
      status = some kind ∧ next = some kind := by
  cases status with
  | none => simp [follow]
  | some current =>
      by_cases same : kind = current
      · simp [follow, same, eq_comm]
      · simp [follow, same, Ne.symm same]

@[simp] theorem follow_closed :
    follow status (.closed kind) = some next ↔ status = some kind ∧ next = none := by
  cases status with
  | none => simp [follow]
  | some current =>
      by_cases same : kind = current
      · simp [follow, same, eq_comm]
      · simp [follow, same, Ne.symm same]

end SessionEvent

/-- What is open for a key after a log, if all its events came in order. -/
def session (log : List (ι × SessionEvent κ)) (key : ι) : Option (Option κ) :=
  steps SessionEvent.follow
    (log.filterMap fun entry => if entry.1 = key then some entry.2 else none) none

@[simp] theorem session_nil (key : ι) :
    session ([] : List (ι × SessionEvent κ)) key = some none := rfl

theorem session_concat (log : List (ι × SessionEvent κ)) (key other : ι)
    (event : SessionEvent κ) :
    session (log ++ [(key, event)]) other =
      if other = key then (session log key).bind fun status => SessionEvent.follow status event
      else session log other := by
  unfold session
  rw [List.filterMap_append, steps_append_eq]
  by_cases same : key = other
  · subst same
    simp [steps]
  · simp [same, Ne.symm same, steps]

end Dragonflow
