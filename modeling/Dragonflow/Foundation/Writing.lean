import Dragonflow.Foundation.Program
import Dragonflow.Foundation.Writes

/-! # Programs that write

A view shows a part of the state as a store of keys and values. What a program does
to it is said by a list of writes.
-/

namespace Dragonflow

namespace Program

variable {σ ε κ ν : Type} [DecidableEq κ]

/-- The program returns, and does to the view what the writes do. -/
def WritesTo (view : σ → κ → Option ν) (program : Program σ ε Unit)
    (writes : List (Write κ ν)) : Prop :=
  ∀ state, ∃ after, exec program state = (.ok (), after) ∧
    view after = Write.applyAll (view state) writes

variable {view : σ → κ → Option ν}

theorem writesTo_pure : WritesTo view (pure () : Program σ ε Unit) [] :=
  fun state => ⟨state, rfl, rfl⟩

theorem writesTo_modify {transform : σ → σ} {writes : List (Write κ ν)}
    (does : ∀ state, view (transform state) = Write.applyAll (view state) writes) :
    WritesTo view (modify transform : Program σ ε Unit) writes :=
  fun state => ⟨transform state, rfl, does state⟩

theorem WritesTo.bind {first second : Program σ ε Unit} {writes later : List (Write κ ν)}
    (firstWrites : WritesTo view first writes) (secondWrites : WritesTo view second later) :
    WritesTo view (do first; second) (writes ++ later) := by
  intro state
  rcases firstWrites state with ⟨middle, executed, isMiddle⟩
  rcases secondWrites middle with ⟨after, continued, isAfter⟩
  refine ⟨after, ?_, ?_⟩
  · rw [exec_bind_ok executed]
    exact continued
  · rw [isAfter, isMiddle, Write.applyAll_append]

/-- A first part that leaves the view alone. -/
theorem WritesTo.after_nothing {first second : Program σ ε Unit} {writes : List (Write κ ν)}
    (nothing : WritesTo view first []) (secondWrites : WritesTo view second writes) :
    WritesTo view (do first; second) writes :=
  nothing.bind secondWrites

theorem writesTo_ofExcept {α : Type} {result : Except ε α} {value : α}
    {next : α → Program σ ε Unit} {writes : List (Write κ ν)} (isValue : result = .ok value)
    (nextWrites : WritesTo view (next value) writes) :
    WritesTo view (do let found ← Program.ofExcept result; next found) writes := by
  rw [isValue]
  exact nextWrites

theorem writesTo_get {next : σ → Program σ ε Unit} {writes : List (Write κ ν)}
    (nextWrites : ∀ state, WritesTo view (next state) writes) :
    WritesTo view (do let state ← get; next state) writes :=
  fun state => nextWrites state state

theorem writesTo_loop {α : Type} {body : α → Program σ ε Unit}
    {writes : α → List (Write κ ν)} (items : List α)
    (each : ∀ item ∈ items, WritesTo view (body item) (writes item)) :
    WritesTo view (forM items body) (items.flatMap writes) := by
  induction items with
  | nil => exact writesTo_pure
  | cons item items induction =>
      rw [List.forM_cons, List.flatMap_cons]
      exact (each item List.mem_cons_self).bind
        (induction fun other member => each other (List.mem_cons_of_mem _ member))

theorem writesTo_loop_nothing {α : Type} {body : α → Program σ ε Unit} (items : List α)
    (each : ∀ item ∈ items, WritesTo view (body item) []) :
    WritesTo view (forM items body) [] := by
  have nothing : items.flatMap (fun _ => ([] : List (Write κ ν))) = [] :=
    List.flatMap_eq_nil_iff.mpr fun _ _ => rfl
  rw [← nothing]
  exact writesTo_loop items each

/-- One write for each item. -/
theorem writesTo_each {α : Type} {body : α → Program σ ε Unit} {write : α → Write κ ν}
    (items : List α) (each : ∀ item ∈ items, WritesTo view (body item) [write item]) :
    WritesTo view (forM items body) (items.map write) := by
  rw [List.map_eq_flatMap]
  exact writesTo_loop items each

end Program

end Dragonflow
