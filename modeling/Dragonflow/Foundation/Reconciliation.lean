import Mathlib.Logic.Function.Basic

/-! # Reconciling a keyed collection with what is wanted

A collection holds at most one value for each key. It is brought in line with a
set of wanted values in two passes: the first writes every wanted value, the
second removes what is held under a key that no wanted value has.
-/

namespace Dragonflow

variable {κ ν : Type}

/-- The values were written, in some order; of several values with one key some
value is left. -/
structure Overlay (keyOf : ν → κ) (written : ν → Prop)
    (before after : κ → Option ν) : Prop where
  found : ∀ value, written value →
    ∃ other, written other ∧ keyOf other = keyOf value ∧
      after (keyOf value) = some other
  kept : ∀ key, (∀ value, written value → keyOf value ≠ key) →
    after key = before key

/-- The keys were removed. -/
structure Trim (removed : κ → Prop) (before after : κ → Option ν) : Prop where
  gone : ∀ key, removed key → after key = none
  kept : ∀ key, ¬ removed key → after key = before key

namespace Overlay

variable {keyOf : ν → κ} {written more : ν → Prop}
  {first second third : κ → Option ν}

theorem nothing (none : ∀ value, ¬ written value) (held : κ → Option ν) :
    Overlay keyOf written held held where
  found value isWritten := absurd isWritten (none value)
  kept _ _ := rfl

theorem single [DecidableEq κ] (value : ν) (held : κ → Option ν) :
    Overlay keyOf (· = value) held
      (Function.update held (keyOf value) (some value)) where
  found other same := by
    subst same
    exact ⟨other, rfl, rfl, Function.update_self _ _ _⟩
  kept key different :=
    Function.update_of_ne (different value rfl).symm _ _

theorem congr (overlay : Overlay keyOf written first second)
    (same : ∀ value, more value ↔ written value) :
    Overlay keyOf more first second := by
  rw [show more = written from funext fun value => propext (same value)]
  exact overlay

theorem trans (overlay : Overlay keyOf written first second)
    (next : Overlay keyOf more second third) :
    Overlay keyOf (fun value => written value ∨ more value) first third where
  found value isWritten := by
    by_cases overwritten : ∃ other, more other ∧ keyOf other = keyOf value
    · rcases overwritten with ⟨other, isMore, sameKey⟩
      rcases next.found other isMore with ⟨last, isLast, lastKey, held⟩
      rw [sameKey] at lastKey held
      exact ⟨last, Or.inr isLast, lastKey, held⟩
    · have untouched : ∀ other, more other → keyOf other ≠ keyOf value :=
        fun other isMore sameKey => overwritten ⟨other, isMore, sameKey⟩
      rcases isWritten with isWritten | isMore
      · rcases overlay.found value isWritten with ⟨other, isOther, sameKey, held⟩
        refine ⟨other, Or.inl isOther, sameKey, ?_⟩
        rw [next.kept _ untouched]
        exact held
      · exact absurd rfl (untouched value isMore)
  kept key different := by
    rw [next.kept key fun value isMore => different value (Or.inr isMore)]
    exact overlay.kept key fun value isWritten => different value (Or.inl isWritten)

/-- What is held afterwards was written, or was there before under a key that
nothing was written to. -/
theorem cases (overlay : Overlay keyOf written first second) (key : κ) :
    (∃ value, written value ∧ keyOf value = key ∧ second key = some value) ∨
      ((∀ value, written value → keyOf value ≠ key) ∧ second key = first key) := by
  by_cases isWritten : ∃ value, written value ∧ keyOf value = key
  · rcases isWritten with ⟨value, isWritten, rfl⟩
    exact Or.inl (overlay.found value isWritten)
  · have different : ∀ value, written value → keyOf value ≠ key :=
      fun value isWrittenValue sameKey => isWritten ⟨value, isWrittenValue, sameKey⟩
    exact Or.inr ⟨different, overlay.kept key different⟩

end Overlay

namespace Trim

variable {removed more : κ → Prop} {first second third : κ → Option ν}

theorem nothing (none : ∀ key, ¬ removed key) (held : κ → Option ν) :
    Trim removed held held where
  gone key isRemoved := absurd isRemoved (none key)
  kept _ _ := rfl

theorem single [DecidableEq κ] (key : κ) (held : κ → Option ν) :
    Trim (· = key) held (Function.update held key none) where
  gone other same := by
    subst same
    exact Function.update_self _ _ _
  kept other different := Function.update_of_ne different _ _

theorem congr (trim : Trim removed first second)
    (same : ∀ key, more key ↔ removed key) : Trim more first second := by
  rw [show more = removed from funext fun key => propext (same key)]
  exact trim

theorem trans (trim : Trim removed first second)
    (next : Trim more second third) :
    Trim (fun key => removed key ∨ more key) first third where
  gone key isRemoved := by
    by_cases isMore : more key
    · exact next.gone key isMore
    · rw [next.kept key isMore]
      exact trim.gone key (isRemoved.resolve_right isMore)
  kept key isKept := by
    rw [next.kept key fun isMore => isKept (Or.inr isMore)]
    exact trim.kept key fun isRemoved => isKept (Or.inl isRemoved)

theorem held_before (trim : Trim removed first second) {key : κ} {value : ν}
    (held : second key = some value) : ¬ removed key ∧ first key = some value := by
  by_cases isRemoved : removed key
  · rw [trim.gone key isRemoved] at held
    cases held
  · rw [trim.kept key isRemoved] at held
    exact ⟨isRemoved, held⟩

end Trim

/-! ## The two passes -/

section Passes

variable {keyOf : ν → κ} {wanted : ν → Prop} {before middle after : κ → Option ν}

/-- No wanted value has the key. -/
def Unwanted (keyOf : ν → κ) (wanted : ν → Prop) (key : κ) : Prop :=
  ∀ value, wanted value → keyOf value ≠ key

/-- What is held is wanted itself, or under a key that no wanted value has. -/
def Settled (keyOf : ν → κ) (wanted : ν → Prop) (held : κ → Option ν) : Prop :=
  ∀ key value, held key = some value → wanted value ∨ Unwanted keyOf wanted key

theorem Overlay.settled (overlay : Overlay keyOf wanted before after) :
    Settled keyOf wanted after := by
  intro key value held
  rcases overlay.cases key with ⟨other, isWanted, _, found⟩ | ⟨unwanted, _⟩
  · rw [held] at found
    cases found
    exact Or.inl isWanted
  · exact Or.inr unwanted

theorem Settled.trim (settled : Settled keyOf wanted before)
    {removed : κ → Prop} (trim : Trim removed before after) :
    Settled keyOf wanted after :=
  fun key value held => settled key value (trim.held_before held).2

/-- After both passes exactly the wanted keys are held, with wanted values. -/
theorem Overlay.reconciled (overlay : Overlay keyOf wanted before middle)
    (trim : Trim (fun key => (middle key).isSome ∧ Unwanted keyOf wanted key)
      middle after) (key : κ) :
    (∃ value, wanted value ∧ keyOf value = key ∧ after key = some value) ∨
      (Unwanted keyOf wanted key ∧ after key = none) := by
  rcases overlay.cases key with ⟨value, isWanted, sameKey, held⟩ | ⟨unwanted, _⟩
  · refine Or.inl ⟨value, isWanted, sameKey, ?_⟩
    rw [trim.kept key fun removed => removed.2 value isWanted sameKey]
    exact held
  · refine Or.inr ⟨unwanted, ?_⟩
    cases held : middle key with
    | none =>
        rw [trim.kept key (by simp [held])]
        exact held
    | some value => exact trim.gone key ⟨by simp [held], unwanted⟩

end Passes

end Dragonflow
