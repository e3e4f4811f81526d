import Mathlib.Data.Nat.Notation
import Mathlib.Logic.Function.Basic

/-! # Flow tables

A switch keeps entries that are identified by a table, a priority and a
pattern. Controllers change them with messages: adding overwrites the entry
with the same identity; modifying and deleting work on the entries that are at
least as specific as the pattern of the message, whatever their priority. The
strict forms work on the identified entry alone.
-/

namespace Dragonflow

class Pattern (μ : Type) where
  /-- The second pattern is at least as specific as the first one. -/
  covers : μ → μ → Bool

inductive FlowCommand
  | add
  | modify
  | delete
  | deleteStrict
  deriving DecidableEq, Repr

structure FlowMod (μ α : Type) where
  command : FlowCommand := .add
  table : Nat
  priority : Nat
  pattern : μ
  instructions : List α := []
  cookie : Nat := 0
  /-- Only entries that agree with `cookie` here are modified or deleted. -/
  cookieMask : Nat := 0

structure FlowEntry (α : Type) where
  cookie : Nat
  instructions : List α
  deriving DecidableEq, Repr

abbrev FlowTable (μ α : Type) := Nat → Nat → μ → Option (FlowEntry α)

variable {μ α : Type} [DecidableEq μ] [Pattern μ]

namespace FlowMod

/-- The entry of the table is one that a message that is not strict is about. -/
def selects (message : FlowMod μ α) (table : Nat) (pattern : μ)
    (entry : FlowEntry α) : Bool :=
  decide (table = message.table) && Pattern.covers message.pattern pattern &&
    decide (entry.cookie &&& message.cookieMask =
      message.cookie &&& message.cookieMask)

def identifies (message : FlowMod μ α) (table priority : Nat) (pattern : μ) : Prop :=
  table = message.table ∧ priority = message.priority ∧ pattern = message.pattern

instance (message : FlowMod μ α) (table priority : Nat) (pattern : μ) :
    Decidable (message.identifies table priority pattern) :=
  inferInstanceAs (Decidable (_ ∧ _ ∧ _))

end FlowMod

namespace FlowTable

def empty : FlowTable μ α := fun _ _ _ => none

/-- The entries after a message. Modifying leaves the cookies alone. -/
def apply (flows : FlowTable μ α) (message : FlowMod μ α) : FlowTable μ α :=
  fun table priority pattern =>
    match message.command with
    | .add =>
        if message.identifies table priority pattern then
          some ⟨message.cookie, message.instructions⟩
        else flows table priority pattern
    | .modify =>
        (flows table priority pattern).map fun entry =>
          if message.selects table pattern entry then
            { entry with instructions := message.instructions }
          else entry
    | .delete =>
        (flows table priority pattern).filter fun entry =>
          !message.selects table pattern entry
    | .deleteStrict =>
        (flows table priority pattern).filter fun entry =>
          !(decide (priority = message.priority ∧ pattern = message.pattern) &&
            message.selects table pattern entry)

variable {flows : FlowTable μ α} {message : FlowMod μ α} {table priority : Nat}
  {pattern : μ}

theorem apply_add (isAdd : message.command = .add) :
    flows.apply message table priority pattern =
      if message.identifies table priority pattern then
        some ⟨message.cookie, message.instructions⟩
      else flows table priority pattern := by
  unfold apply
  rw [isAdd]

theorem apply_modify (isModify : message.command = .modify) :
    flows.apply message table priority pattern =
      (flows table priority pattern).map fun entry =>
        if message.selects table pattern entry then
          { entry with instructions := message.instructions }
        else entry := by
  unfold apply
  rw [isModify]

theorem apply_delete (isDelete : message.command = .delete) :
    flows.apply message table priority pattern =
      (flows table priority pattern).filter fun entry =>
        !message.selects table pattern entry := by
  unfold apply
  rw [isDelete]

theorem apply_add_self (isAdd : message.command = .add) :
    flows.apply message message.table message.priority message.pattern =
      some ⟨message.cookie, message.instructions⟩ := by
  rw [apply_add isAdd, if_pos ⟨rfl, rfl, rfl⟩]

theorem apply_modify_self {entry : FlowEntry α} (isModify : message.command = .modify)
    (covered : Pattern.covers message.pattern message.pattern = true)
    (anyCookie : message.cookieMask = 0)
    (found : flows message.table message.priority message.pattern = some entry) :
    flows.apply message message.table message.priority message.pattern =
      some { entry with instructions := message.instructions } := by
  rw [apply_modify isModify, found]
  simp [FlowMod.selects, covered, anyCookie]

theorem apply_delete_self (isDelete : message.command = .delete)
    (covered : Pattern.covers message.pattern message.pattern = true)
    (anyCookie : message.cookieMask = 0) :
    flows.apply message message.table message.priority message.pattern = none := by
  rw [apply_delete isDelete]
  simp [FlowMod.selects, covered, anyCookie]

/-- A message that is not about an entry leaves it as it is. -/
theorem apply_other
    (different : message.identifies table priority pattern → False)
    (uncovered : table = message.table → Pattern.covers message.pattern pattern = false) :
    flows.apply message table priority pattern = flows table priority pattern := by
  have unselected : ∀ entry : FlowEntry α,
      message.selects table pattern entry = false := by
    intro entry
    unfold FlowMod.selects
    by_cases same : table = message.table
    · simp [uncovered same]
    · simp [same]
  unfold apply
  cases message.command with
  | add => simp only [if_neg different]
  | modify => cases flows table priority pattern <;> simp [unselected]
  | delete => cases flows table priority pattern <;> simp [unselected]
  | deleteStrict => cases flows table priority pattern <;> simp [unselected]

theorem apply_other_table (different : table ≠ message.table) :
    flows.apply message table priority pattern = flows table priority pattern :=
  apply_other (fun identified => different identified.1)
    fun same => absurd same different

end FlowTable

end Dragonflow
