import Mathlib.Logic.Function.Basic
import Mathlib.Data.List.Nodup

/-! # Moving registers through a stack

A switch copies one register to another by pushing the first and popping into
the second. This file says what a whole list of such copies does when all the
pushes come first. How much of a register is pushed, and what a pop leaves of
the register it goes to, is up to `read` and `write`.
-/

namespace Dragonflow

/-- Registers `ρ` that hold an `ω`, and a stack of values. -/
structure StackMachine (ρ ω υ : Type) where
  registers : ρ → ω
  stack : List υ

namespace StackMachine

variable {ρ ω υ : Type} [DecidableEq ρ] (read : ω → υ) (write : ω → υ → ω)

def push (machine : StackMachine ρ ω υ) (register : ρ) : StackMachine ρ ω υ :=
  { machine with stack := read (machine.registers register) :: machine.stack }

/-- A pop from an empty stack does nothing. -/
def pop (machine : StackMachine ρ ω υ) (register : ρ) : StackMachine ρ ω υ :=
  match machine.stack with
  | [] => machine
  | value :: stack =>
      { registers := Function.update machine.registers register
          (write (machine.registers register) value)
        stack }

/-- Push all the sources, then pop into the targets from the last to the first. -/
def moveAll (machine : StackMachine ρ ω υ) (moves : List (ρ × ρ)) :
    StackMachine ρ ω υ :=
  ((moves.map Prod.snd).reverse).foldl (pop write)
    ((moves.map Prod.fst).foldl (push read) machine)

/-- All the sources are read before the first target is written. -/
def parallel (registers : ρ → ω) : List (ρ × ρ) → ρ → ω
  | [] => registers
  | (source, target) :: moves =>
      Function.update (parallel registers moves) target
        (write (parallel registers moves target) (read (registers source)))

/-- The stack is as before, below whatever the pops did not take. -/
theorem moveAll_eq (registers : ρ → ω) (stack : List υ) (moves : List (ρ × ρ)) :
    moveAll read write ⟨registers, stack⟩ moves =
      ⟨parallel read write registers moves, stack⟩ := by
  induction moves generalizing stack with
  | nil => rfl
  | cons move moves induction =>
      -- The first push is matched by the last pop; the others run in between.
      have between := induction (read (registers move.1) :: stack)
      unfold moveAll at between ⊢
      rw [List.map_cons, List.map_cons, List.foldl_cons, List.reverse_cons,
        List.foldl_append, List.foldl_cons, List.foldl_nil]
      change pop write (List.foldl _ (List.foldl _
        ⟨registers, read (registers move.1) :: stack⟩ _) _) move.2 = _
      rw [between]
      rfl

variable {read write} {registers : ρ → ω} {moves : List (ρ × ρ)}

theorem parallel_of_not_mem {register : ρ}
    (isNoTarget : register ∉ moves.map Prod.snd) :
    parallel read write registers moves register = registers register := by
  induction moves with
  | nil => rfl
  | cons move moves induction =>
      rw [List.map_cons, List.mem_cons, not_or] at isNoTarget
      change Function.update _ move.2 _ register = _
      rw [Function.update_of_ne isNoTarget.1]
      exact induction isNoTarget.2

theorem parallel_of_mem {source target : ρ} (distinct : (moves.map Prod.snd).Nodup)
    (member : (source, target) ∈ moves) :
    parallel read write registers moves target =
      write (registers target) (read (registers source)) := by
  induction moves with
  | nil => cases member
  | cons move moves induction =>
      rw [List.map_cons, List.nodup_cons] at distinct
      rcases List.mem_cons.mp member with rfl | later
      · change Function.update _ target _ target = _
        rw [Function.update_self, parallel_of_not_mem distinct.1]
      · have isOther : target ≠ move.2 := by
          intro same
          apply distinct.1
          rw [← same]
          exact List.mem_map_of_mem later
        change Function.update _ move.2 _ target = _
        rw [Function.update_of_ne isOther]
        exact induction distinct.2 later

end StackMachine

end Dragonflow
