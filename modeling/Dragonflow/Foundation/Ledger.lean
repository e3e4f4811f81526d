import Mathlib.Data.Finset.Basic
import Mathlib.Data.Finset.Filter
import Mathlib.Data.Set.Basic

/-! # Ledgers of shared items

Groups get items from their holders, and several holders can bring the same
item. A ledger notes who brings an item to a group, and which items the group
has. An item is the group's until the last of its holders takes it away.
-/

namespace Dragonflow

variable {γ π α : Type}

/-- What a group has through a holder. -/
abbrev Holdings (γ π α : Type) := γ → π → Set α

namespace Holdings

variable [DecidableEq γ] [DecidableEq π]

def set (holdings : Holdings γ π α) (group : γ) (holder : π) (items : Set α) :
    Holdings γ π α :=
  fun other another =>
    if other = group ∧ another = holder then items else holdings other another

theorem set_same (holdings : Holdings γ π α) (group : γ) (holder : π)
    (items : Set α) : holdings.set group holder items group holder = items :=
  if_pos ⟨rfl, rfl⟩

theorem set_other (holdings : Holdings γ π α) {group other : γ} {holder another : π}
    (items : Set α) (different : ¬(other = group ∧ another = holder)) :
    holdings.set group holder items other another = holdings other another :=
  if_neg different

theorem set_set (holdings : Holdings γ π α) (group : γ) (holder : π)
    (first second : Set α) :
    (holdings.set group holder first).set group holder second =
      holdings.set group holder second := by
  funext other another
  unfold set
  split <;> rfl

/-- Change what several groups have through a holder. -/
def mapAll (holdings : Holdings γ π α) (groups : List γ) (holder : π)
    (change : Set α → Set α) : Holdings γ π α :=
  fun other another =>
    if another = holder ∧ other ∈ groups then change (holdings other another)
    else holdings other another

@[simp] theorem mapAll_nil (holdings : Holdings γ π α) (holder : π)
    (change : Set α → Set α) : holdings.mapAll [] holder change = holdings := by
  funext other another
  simp [mapAll]

/-- The groups can be changed one after the other, also if some come twice. -/
theorem mapAll_concat (holdings : Holdings γ π α) (groups : List γ) (group : γ)
    (holder : π) {change : Set α → Set α}
    (idempotent : ∀ items, change (change items) = change items) :
    holdings.mapAll (groups ++ [group]) holder change =
      (holdings.mapAll groups holder change).set group holder
        (change (holdings.mapAll groups holder change group holder)) := by
  funext other another
  unfold set mapAll
  by_cases isHolder : another = holder
  · by_cases isGroup : other = group
    · subst isHolder isGroup
      by_cases before : other ∈ groups <;> simp [before, idempotent]
    · simp [isHolder, isGroup]
  · simp [isHolder]

end Holdings

@[ext] structure Ledger (γ π α : Type) where
  holders : γ → α → Finset π
  items : γ → Finset α

namespace Ledger

structure Tells (ledger : Ledger γ π α) (holdings : Holdings γ π α) : Prop where
  holders : ∀ group item holder,
    holder ∈ ledger.holders group item ↔ item ∈ holdings group holder
  items : ∀ group item,
    item ∈ ledger.items group ↔ ∃ holder, item ∈ holdings group holder

variable {ledger : Ledger γ π α} {holdings : Holdings γ π α} {group : γ} {holder : π}
  {item : α}

theorem Tells.holders_eq_empty (tells : ledger.Tells holdings) :
    ledger.holders group item = ∅ ↔ ¬∃ holder, item ∈ holdings group holder := by
  rw [Finset.eq_empty_iff_forall_notMem]
  simp only [tells.holders, not_exists]

variable [DecidableEq γ] [DecidableEq π] [DecidableEq α]

/-- A holder brings items to a group. Those that nobody brought yet are new. -/
def join (ledger : Ledger γ π α) (group : γ) (holder : π) (items : Finset α) :
    Ledger γ π α where
  holders := fun other item =>
    if other = group ∧ item ∈ items then insert holder (ledger.holders other item)
    else ledger.holders other item
  items := fun other =>
    if other = group then
      ledger.items group ∪ items.filter fun item => ledger.holders group item = ∅
    else ledger.items other

/-- A holder takes items away from a group. Those that nobody else brought are
lost. -/
def leave (ledger : Ledger γ π α) (group : γ) (holder : π) (items : Finset α) :
    Ledger γ π α where
  holders := fun other item =>
    if other = group ∧ item ∈ items then (ledger.holders other item).erase holder
    else ledger.holders other item
  items := fun other =>
    if other = group then
      ledger.items group \ items.filter fun item =>
        holder ∈ ledger.holders group item ∧
          (ledger.holders group item).erase holder = ∅
    else ledger.items other

theorem mem_items_join {items : Finset α} {other : γ} :
    item ∈ (ledger.join group holder items).items other ↔
      item ∈ ledger.items other ∨
        other = group ∧ item ∈ items ∧ ledger.holders group item = ∅ := by
  unfold join
  dsimp only
  split
  · next same =>
      subst same
      simp
  · next different => simp [different]

theorem mem_items_leave {items : Finset α} {other : γ} :
    item ∈ (ledger.leave group holder items).items other ↔
      item ∈ ledger.items other ∧
        ¬(other = group ∧ item ∈ items ∧ holder ∈ ledger.holders group item ∧
          (ledger.holders group item).erase holder = ∅) := by
  unfold leave
  dsimp only
  split
  · next same =>
      subst same
      rw [Finset.mem_sdiff, Finset.mem_filter]
      simp
  · next different => simp [different]

theorem Tells.join (tells : ledger.Tells holdings) (group : γ) (holder : π)
    (items : Finset α) :
    (ledger.join group holder items).Tells
      (holdings.set group holder (holdings group holder ∪ items)) where
  holders := by
    intro other item another
    unfold Ledger.join Holdings.set
    by_cases isGroup : other = group
    · subst isGroup
      by_cases brought : item ∈ items <;> by_cases isHolder : another = holder <;>
        simp_all [tells.holders]
    · simp [isGroup, tells.holders]
  items := by
    intro other item
    by_cases isGroup : other = group
    · subst isGroup
      simp only [mem_items_join, true_and, tells.items, tells.holders_eq_empty]
      constructor
      · rintro (⟨another, held⟩ | ⟨brought, _⟩)
        · refine ⟨another, ?_⟩
          unfold Holdings.set
          split
          · next same =>
              rw [← same.2]
              exact .inl held
          · exact held
        · refine ⟨holder, ?_⟩
          rw [Holdings.set_same]
          exact .inr brought
      · rintro ⟨another, held⟩
        by_cases already : ∃ holder, item ∈ holdings other holder
        · exact .inl already
        · refine .inr ⟨?_, already⟩
          unfold Holdings.set at held
          split at held
          · rcases held with old | new
            · exact absurd ⟨_, old⟩ already
            · exact new
          · exact absurd ⟨_, held⟩ already
    · simp [mem_items_join, Holdings.set, isGroup, tells.items]

theorem Tells.leave (tells : ledger.Tells holdings) (group : γ) (holder : π)
    (items : Finset α) :
    (ledger.leave group holder items).Tells
      (holdings.set group holder (holdings group holder \ items)) where
  holders := by
    intro other item another
    unfold Ledger.leave Holdings.set
    by_cases isGroup : other = group
    · subst isGroup
      by_cases taken : item ∈ items <;> by_cases isHolder : another = holder <;>
        simp_all [tells.holders]
    · simp [isGroup, tells.holders]
  items := by
    intro other item
    by_cases isGroup : other = group
    · subst isGroup
      simp only [mem_items_leave, true_and, tells.items, tells.holders]
      constructor
      · rintro ⟨⟨another, held⟩, notLast⟩
        by_cases isHolder : another = holder
        · subst isHolder
          by_cases taken : item ∈ items
          · -- The item stays because of somebody else who brought it.
            have shared : (ledger.holders other item).erase another ≠ ∅ :=
              fun last => notLast ⟨taken, held, last⟩
            rcases Finset.nonempty_of_ne_empty shared with ⟨remaining, member⟩
            rcases Finset.mem_erase.mp member with ⟨different, holds⟩
            refine ⟨remaining, ?_⟩
            rw [Holdings.set_other _ _ fun same => different same.2]
            exact (tells.holders _ _ _).mp holds
          · refine ⟨another, ?_⟩
            rw [Holdings.set_same]
            exact ⟨held, taken⟩
        · refine ⟨another, ?_⟩
          rw [Holdings.set_other _ _ fun same => isHolder same.2]
          exact held
      · rintro ⟨another, held⟩
        by_cases isHolder : another = holder
        · subst isHolder
          rw [Holdings.set_same] at held
          exact ⟨⟨another, held.1⟩, fun last => held.2 last.1⟩
        · rw [Holdings.set_other _ _ fun same => isHolder same.2] at held
          refine ⟨⟨another, held⟩, ?_⟩
          rintro ⟨_, _, last⟩
          have member := Finset.mem_erase.mpr
            ⟨isHolder, (tells.holders other item another).mpr held⟩
          rw [last] at member
          exact Finset.notMem_empty _ member
    · simp [mem_items_leave, Holdings.set, isGroup, tells.items]

/-- There is nothing to take away from a group that has nothing. -/
theorem Tells.leave_of_empty (tells : ledger.Tells holdings)
    (empty : ledger.items group = ∅) (holder : π) (items : Finset α) :
    ledger.leave group holder items = ledger := by
  have nobody : ∀ item, ledger.holders group item = ∅ := by
    intro item
    rw [tells.holders_eq_empty, ← tells.items, empty]
    exact Finset.notMem_empty item
  apply Ledger.ext
  · funext other item
    unfold Ledger.leave
    dsimp only
    split
    · next same => rw [same.1, nobody, Finset.erase_empty]
    · rfl
  · funext other
    unfold Ledger.leave
    dsimp only
    split
    · next same => rw [same, empty, Finset.empty_sdiff]
    · rfl

end Ledger

end Dragonflow
