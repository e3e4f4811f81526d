import Dragonflow.Foundation.FlowSet

/-! # Looking up a packet

A switch applies to a packet an entry of the highest priority among those of a table
that match it. It is not said which of them if there are several.
-/

namespace Dragonflow

variable {μ α : Type} {flows : FlowTable μ α} {accepts : μ → Prop} {table : Nat}
  {flow other : Flow μ α} {instructions : List α}

namespace FlowTable

/-- The flow matches, and none that matches has a higher priority. -/
structure Selects (flows : FlowTable μ α) (accepts : μ → Prop) (table : Nat)
    (flow : Flow μ α) : Prop where
  present : flows.Has flow
  inTable : flow.table = table
  accepted : accepts flow.pattern
  highest : ∀ other, flows.Has other → other.table = table → accepts other.pattern →
    other.priority ≤ flow.priority

/-- Whichever flow the switch selects, it has the instructions. -/
def Executes (flows : FlowTable μ α) (accepts : μ → Prop) (table : Nat)
    (instructions : List α) : Prop :=
  (∃ flow, flows.Selects accepts table flow) ∧
    ∀ flow, flows.Selects accepts table flow → flow.entry.instructions = instructions

theorem Executes.unique {others : List α} (executes : flows.Executes accepts table instructions)
    (executesOthers : flows.Executes accepts table others) : instructions = others := by
  rcases executes.1 with ⟨flow, selected⟩
  rw [← executes.2 flow selected, ← executesOthers.2 flow selected]

/-- Selected flows have the same priority. -/
theorem Selects.priority_eq (selected : flows.Selects accepts table flow)
    (alsoSelected : flows.Selects accepts table other) : flow.priority = other.priority := by
  apply Nat.le_antisymm
  · exact alsoSelected.highest flow selected.present selected.inTable selected.accepted
  · exact selected.highest other alsoSelected.present alsoSelected.inTable
      alsoSelected.accepted

/-- A selected flow decides if those of its priority agree with it. -/
theorem Selects.executes (selected : flows.Selects accepts table flow)
    (agree : ∀ other, flows.Has other → other.table = table → accepts other.pattern →
      other.priority = flow.priority →
        other.entry.instructions = flow.entry.instructions) :
    flows.Executes accepts table flow.entry.instructions := by
  refine ⟨⟨flow, selected⟩, ?_⟩
  intro other alsoSelected
  exact agree other alsoSelected.present alsoSelected.inTable alsoSelected.accepted
    (alsoSelected.priority_eq selected)

/-- A place has one flow. -/
theorem Has.unique (present : flows.Has flow) (otherPresent : flows.Has other)
    (samePlace : flow.place = other.place) : flow = other := by
  apply Flow.ext_place samePlace
  unfold Has at present otherPresent
  unfold Flow.place at samePlace
  injection samePlace with sameTable others
  injection others with samePriority samePattern
  rw [sameTable, samePriority, samePattern, otherPresent] at present
  exact (Option.some.inj present).symm

/-- The only flow of a table that matches decides. -/
theorem executes_of_only (present : flows.Has flow) (accepted : accepts flow.pattern)
    (only : ∀ other, flows.Has other → other.table = flow.table → accepts other.pattern →
      other = flow) :
    flows.Executes accepts flow.table flow.entry.instructions := by
  have selected : flows.Selects accepts flow.table flow := by
    refine ⟨present, rfl, accepted, ?_⟩
    intro other isPresent inTable isAccepted
    rw [only other isPresent inTable isAccepted]
  apply selected.executes
  intro other isPresent inTable isAccepted _
  rw [only other isPresent inTable isAccepted]

end FlowTable

end Dragonflow
