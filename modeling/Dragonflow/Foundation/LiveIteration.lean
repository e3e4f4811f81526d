import Dragonflow.Foundation.Program

/-! # Walking a set that can change

A set that is walked while it is in use. The walk raises at its next step once the set
has another size than at the start, also when there is nothing left to walk.
-/

namespace Dragonflow

namespace Program

variable {σ ε ι : Type}

/-- The rest of a walk of a set that had `size` members. -/
def liveLoop (members : σ → List ι) (raised : ε) (body : ι → Program σ ε Unit) (size : Nat) :
    List ι → Program σ ε Unit
  | [] => do
      let state ← get
      if (members state).length = size then pure () else throw raised
  | item :: items => do
      let state ← get
      if (members state).length = size then do
        body item
        liveLoop members raised body size items
      else throw raised

def forLive (members : σ → List ι) (raised : ε) (body : ι → Program σ ε Unit) :
    Program σ ε Unit := do
  let state ← get
  liveLoop members raised body (members state).length (members state)

variable {members : σ → List ι} {raised : ε} {body : ι → Program σ ε Unit} {state after : σ}

theorem exec_liveLoop_nil {size : Nat} (same : (members state).length = size) :
    exec (liveLoop members raised body size []) state = (.ok (), state) := by
  rw [liveLoop, exec_bind_ok (exec_get state), if_pos same]
  rfl

theorem exec_liveLoop_cons {size : Nat} (same : (members state).length = size) (item : ι)
    (items : List ι) :
    exec (liveLoop members raised body size (item :: items)) state =
      exec (do body item; liveLoop members raised body size items) state := by
  rw [liveLoop, exec_bind_ok (exec_get state), if_pos same]

theorem exec_liveLoop_changed {size : Nat} (changed : (members state).length ≠ size)
    (items : List ι) :
    exec (liveLoop members raised body size items) state = (.error raised, state) := by
  rcases items with _ | ⟨item, items⟩
  · rw [liveLoop, exec_bind_ok (exec_get state), if_neg changed]
    rfl
  · rw [liveLoop, exec_bind_ok (exec_get state), if_neg changed]
    rfl

/-- A walk whose steps leave the state alone. -/
theorem exec_forLive_quiet
    (quiet : ∀ item ∈ members state, exec (body item) state = (.ok (), state)) :
    exec (forLive members raised body) state = (.ok (), state) := by
  rw [forLive, exec_bind_ok (exec_get state)]
  have walks : ∀ items : List ι, (∀ item ∈ items, item ∈ members state) →
      exec (liveLoop members raised body (members state).length items) state =
        (.ok (), state) := by
    intro items
    induction items with
    | nil => exact fun _ => exec_liveLoop_nil rfl
    | cons item items induction =>
        intro inside
        rw [exec_liveLoop_cons rfl,
          exec_bind_ok (quiet item (inside item List.mem_cons_self))]
        exact induction fun other member => inside other (List.mem_cons_of_mem item member)
  exact walks _ fun _ member => member

/-- A step that ends the walk: it changes the size of the set, or raises. -/
def Breaks (members : σ → List ι) (raised : ε) (body : ι → Program σ ε Unit) (state : σ)
    (item : ι) : Prop :=
  (∃ after, exec (body item) state = (.ok (), after) ∧
    (members after).length ≠ (members state).length) ∨
  ∃ after, exec (body item) state = (.error raised, after)

/-- A walk raises if one of its steps breaks it, and the others leave the state alone. -/
theorem exec_forLive_breaks
    (steps : ∀ item ∈ members state, exec (body item) state = (.ok (), state) ∨
      Breaks members raised body state item)
    (breaks : ∃ item ∈ members state, Breaks members raised body state item) :
    ∃ after, exec (forLive members raised body) state = (.error raised, after) := by
  rw [forLive, exec_bind_ok (exec_get state)]
  have walks : ∀ items : List ι, (∀ item ∈ items, item ∈ members state) →
      (∃ item ∈ items, Breaks members raised body state item) →
      ∃ after, exec (liveLoop members raised body (members state).length items) state =
        (.error raised, after) := by
    intro items
    induction items with
    | nil => rintro _ ⟨item, member, _⟩; exact absurd member List.not_mem_nil
    | cons item items induction =>
        rintro inside ⟨breaking, member, isBreak⟩
        rw [exec_liveLoop_cons rfl]
        have here : (exec (body item) state = (.ok (), state) ∧ breaking ∈ items) ∨
            Breaks members raised body state item := by
          rcases List.mem_cons.mp member with isHead | inTail
          · rw [← isHead]
            exact Or.inr isBreak
          · rcases steps item (inside item List.mem_cons_self) with quiet | breaks
            · exact Or.inl ⟨quiet, inTail⟩
            · exact Or.inr breaks
        rcases here with ⟨quiet, inTail⟩ | ⟨after, executed, changed⟩ | ⟨after, executed⟩
        · rw [exec_bind_ok quiet]
          exact induction (fun other later => inside other (List.mem_cons_of_mem item later))
            ⟨breaking, inTail, isBreak⟩
        · rw [exec_bind_ok executed]
          exact ⟨after, exec_liveLoop_changed changed items⟩
        · exact ⟨after, exec_bind_error executed⟩
  exact walks _ (fun _ member => member) breaks

end Program

end Dragonflow
