import Mathlib.Data.Finset.Basic
import Mathlib.Data.Fintype.Card
import Mathlib.Data.List.Nodup
import Mathlib.Data.Set.Finite.Basic
import Mathlib.Logic.Relation
import Mathlib.Order.WellFounded

/-! # Sorting by layers

Items are sorted by taking away, again and again, those that need none of the others. Sets
are walked in an order of their own.
-/

namespace Dragonflow

variable {α : Type} [DecidableEq α]

/-- The order in which a set is walked: it meets every element once. -/
structure Walk (α : Type) where
  walk : Finset α → List α
  nodup : ∀ items, (walk items).Nodup
  mem_walk : ∀ items item, item ∈ walk items ↔ item ∈ items

namespace Layers

/-- The items that need nothing any more. -/
def free (pending : List (α × Finset α)) : Finset α :=
  ((pending.filter fun entry => entry.2 = ∅).map Prod.fst).toFinset

/-- The items that still need something, without what has been taken away. -/
def rest (pending : List (α × Finset α)) : List (α × Finset α) :=
  (pending.filter fun entry => entry.2 ≠ ∅).map fun entry => (entry.1, entry.2 \ free pending)

theorem mem_free {pending : List (α × Finset α)} {item : α} :
    item ∈ free pending ↔ (item, ∅) ∈ pending := by
  unfold free
  rw [List.mem_toFinset, List.mem_map]
  constructor
  · intro found
    rcases found with ⟨⟨other, needs⟩, member, isItem⟩
    rcases List.mem_filter.mp member with ⟨inPending, isFree⟩
    rw [← isItem, ← of_decide_eq_true isFree]
    exact inPending
  · intro member
    exact ⟨(item, ∅), List.mem_filter.mpr ⟨member, decide_eq_true rfl⟩, rfl⟩

theorem length_rest_lt {pending : List (α × Finset α)} (someFree : free pending ≠ ∅) :
    (rest pending).length < pending.length := by
  rcases Finset.nonempty_iff_ne_empty.mpr someFree with ⟨item, isFree⟩
  rw [rest, List.length_map]
  apply List.length_filter_lt_length_iff_exists.mpr
  exact ⟨(item, ∅), mem_free.mp isFree, by simp⟩

/-- Take layers away until nothing is left. No layer is found where the rest is stuck. -/
def sort (walk : Walk α) (pending : List (α × Finset α)) (sorted : List α) :
    Option (List α) :=
  if pending = [] then some sorted
  else if free pending = ∅ then none
  else sort walk (rest pending) (sorted ++ walk.walk (free pending))
termination_by pending.length
decreasing_by
  apply length_rest_lt
  assumption

/-! ## Orders -/

/-- Every item comes after all that it needs. -/
def InOrder (needs : α → Finset α) (sorted : List α) : Prop :=
  ∀ before item after, sorted = before ++ item :: after → ∀ need ∈ needs item, need ∈ before

/-- What an item of the set needs. -/
def Needs (items : Finset α) (needs : α → Finset α) (item need : α) : Prop :=
  item ∈ items ∧ need ∈ needs item

def Acyclic (items : Finset α) (needs : α → Finset α) : Prop :=
  ∀ item, ¬Relation.TransGen (Needs items needs) item item

/-- Nothing outside of the set is needed. -/
def Closed (items : Finset α) (needs : α → Finset α) : Prop :=
  ∀ item ∈ items, needs item ⊆ items

/-- The list has every item of the set once, after all that it needs. -/
structure Sorts (items : Finset α) (needs : α → Finset α) (sorted : List α) : Prop where
  nodup : sorted.Nodup
  mem_iff : ∀ item, item ∈ sorted ↔ item ∈ items
  inOrder : InOrder needs sorted

variable {items : Finset α} {needs : α → Finset α} {sorted : List α}

omit [DecidableEq α] in
theorem InOrder.append (inOrder : InOrder needs sorted) {layer : List α}
    (needsSorted : ∀ item ∈ layer, ∀ need ∈ needs item, need ∈ sorted) :
    InOrder needs (sorted ++ layer) := by
  intro before item after isSplit need isNeeded
  rcases List.append_eq_append_iff.mp isSplit with
    ⟨middle, isBefore, isLayer⟩ | ⟨middle, isSorted, isRest⟩
  · rw [isBefore]
    have inLayer : item ∈ layer := by
      rw [isLayer]
      simp
    exact List.mem_append_left _ (needsSorted item inLayer need isNeeded)
  · cases middle with
    | nil =>
        rw [List.nil_append] at isRest
        have inLayer : item ∈ layer := by
          rw [← isRest]
          exact List.mem_cons_self
        rw [List.append_nil] at isSorted
        rw [← isSorted]
        exact needsSorted item inLayer need isNeeded
    | cons first middle =>
        rw [List.cons_append, List.cons.injEq] at isRest
        rw [← isRest.1] at isSorted
        exact inOrder before item middle isSorted need isNeeded

omit [DecidableEq α] in
theorem Sorts.closed (sorts : Sorts items needs sorted) : Closed items needs := by
  intro item isItem need isNeeded
  rcases List.append_of_mem ((sorts.mem_iff item).mpr isItem) with ⟨before, after, isSplit⟩
  have isBefore := sorts.inOrder before item after isSplit need isNeeded
  rw [← sorts.mem_iff, isSplit]
  exact List.mem_append_left _ isBefore

theorem Sorts.acyclic (sorts : Sorts items needs sorted) : Acyclic items needs := by
  have decreases (item need : α) (step : Needs items needs item need) :
      sorted.idxOf need < sorted.idxOf item := by
    rcases List.append_of_mem ((sorts.mem_iff item).mpr step.1) with ⟨before, after, isSplit⟩
    have isBefore := sorts.inOrder before item after isSplit need step.2
    have notBefore : item ∉ before := by
      have once := sorts.nodup
      rw [isSplit] at once
      exact fun isThere => (List.nodup_append.mp once).2.2 item isThere item
        List.mem_cons_self rfl
    rw [isSplit, List.idxOf_append_of_mem isBefore, List.idxOf_append_of_notMem notBefore]
    have inside := List.idxOf_lt_length_of_mem isBefore
    omega
  intro item cycle
  have smaller : sorted.idxOf item < sorted.idxOf item := by
    have along (other : α) (path : Relation.TransGen (Needs items needs) item other) :
        sorted.idxOf other < sorted.idxOf item := by
      induction path with
      | single step => exact decreases _ _ step
      | tail _ step induction => exact (decreases _ _ step).trans induction
    exact along item cycle
  exact Nat.lt_irrefl _ smaller

omit [DecidableEq α] in
/-- In a set that needs nothing else and has no cycles, some item needs none of a part. -/
theorem exists_free (acyclic : Acyclic items needs) {part : Finset α}
    (isPart : part ⊆ items) (inhabited : part.Nonempty) :
    ∃ item ∈ part, ∀ need ∈ needs item, need ∉ part := by
  let below (first second : part) : Prop :=
    Relation.TransGen (Needs items needs) second.1 first.1
  have transitive : IsTrans part below := ⟨fun _ _ _ first second => second.trans first⟩
  have irreflexive : Std.Irrefl below := ⟨fun item cycle => acyclic item.1 cycle⟩
  have wellFounded : WellFounded below := Finite.wellFounded_of_trans_of_irrefl below
  rcases inhabited with ⟨start, isStart⟩
  rcases wellFounded.has_min Set.univ ⟨⟨start, isStart⟩, trivial⟩ with ⟨least, _, isLeast⟩
  refine ⟨least.1, least.2, ?_⟩
  intro need isNeeded inPart
  exact isLeast ⟨need, inPart⟩ trivial
    (Relation.TransGen.single ⟨isPart least.2, isNeeded⟩)

/-! ## The loop -/

/-- What holds whenever a layer is taken away. -/
structure Progress (items : Finset α) (needs : α → Finset α)
    (pending : List (α × Finset α)) (sorted : List α) : Prop where
  nodup : sorted.Nodup
  apart : ∀ item ∈ sorted, item ∉ pending.map Prod.fst
  covers : ∀ item, item ∈ items ↔ item ∈ sorted ∨ item ∈ pending.map Prod.fst
  left : ∀ entry ∈ pending, ∀ need, need ∈ entry.2 ↔ need ∈ needs entry.1 ∧ need ∉ sorted
  inOrder : InOrder needs sorted

variable {pending : List (α × Finset α)}

omit [DecidableEq α] in
theorem progress_start (walk : Walk α) (items : Finset α) (needs : α → Finset α) :
    Progress items needs ((walk.walk items).map fun item => (item, needs item)) [] where
  nodup := List.nodup_nil
  apart _ member := absurd member List.not_mem_nil
  covers item := by simp [walk.mem_walk]
  left entry member need := by
    rcases List.mem_map.mp member with ⟨item, _, rfl⟩
    simp
  inOrder before item after isSplit := by simp at isSplit

theorem mem_rest {entry : α × Finset α} :
    entry ∈ rest pending ↔ ∃ needed, (entry.1, needed) ∈ pending ∧ needed ≠ ∅ ∧
      entry.2 = needed \ free pending := by
  unfold rest
  rw [List.mem_map]
  constructor
  · intro found
    rcases found with ⟨⟨item, needed⟩, member, rfl⟩
    rcases List.mem_filter.mp member with ⟨inPending, notFree⟩
    exact ⟨needed, inPending, of_decide_eq_true notFree, rfl⟩
  · intro found
    rcases found with ⟨needed, inPending, notFree, isLeft⟩
    exact ⟨(entry.1, needed), List.mem_filter.mpr ⟨inPending, decide_eq_true notFree⟩,
      Prod.ext rfl isLeft.symm⟩

omit [DecidableEq α] in
/-- An item that is free does not need anything, under any entry. -/
theorem Progress.left_of_free (progress : Progress items needs pending sorted) {item : α}
    (isFree : (item, ∅) ∈ pending) {needed : Finset α} (member : (item, needed) ∈ pending) :
    needed = ∅ := by
  apply Finset.eq_empty_of_forall_notMem
  intro need isNeeded
  have stillNeeded := (progress.left (item, needed) member need).mp isNeeded
  exact Finset.notMem_empty need ((progress.left (item, ∅) isFree need).mpr stillNeeded)

theorem mem_keys_iff {item : α} :
    item ∈ pending.map Prod.fst ↔ item ∈ free pending ∨ item ∈ (rest pending).map Prod.fst := by
  rw [List.mem_map, List.mem_map]
  constructor
  · intro found
    rcases found with ⟨⟨other, needed⟩, member, rfl⟩
    by_cases isFree : needed = ∅
    · rw [isFree] at member
      exact Or.inl (mem_free.mpr member)
    · exact Or.inr ⟨(other, needed \ free pending),
        mem_rest.mpr ⟨needed, member, isFree, rfl⟩, rfl⟩
  · intro found
    rcases found with isFree | ⟨entry, member, rfl⟩
    · exact ⟨(item, ∅), mem_free.mp isFree, rfl⟩
    · rcases mem_rest.mp member with ⟨needed, inPending, _, _⟩
      exact ⟨(entry.1, needed), inPending, rfl⟩

theorem Progress.step (progress : Progress items needs pending sorted) (walk : Walk α) :
    Progress items needs (rest pending) (sorted ++ walk.walk (free pending)) where
  nodup := by
    apply List.nodup_append.mpr
    refine ⟨progress.nodup, walk.nodup _, ?_⟩
    intro item isSorted other isFree same
    rw [walk.mem_walk, ← same] at isFree
    exact progress.apart item isSorted (mem_keys_iff.mpr (Or.inl isFree))
  apart := by
    intro item member isLeft
    rcases List.mem_append.mp member with isSorted | isFree
    · exact progress.apart item isSorted (mem_keys_iff.mpr (Or.inr isLeft))
    · rw [walk.mem_walk, mem_free] at isFree
      rcases List.mem_map.mp isLeft with ⟨entry, inRest, rfl⟩
      rcases mem_rest.mp inRest with ⟨needed, inPending, notFree, _⟩
      exact notFree (progress.left_of_free isFree inPending)
  covers item := by
    rw [progress.covers, mem_keys_iff, List.mem_append, walk.mem_walk, or_assoc]
  left := by
    intro entry member need
    rcases mem_rest.mp member with ⟨needed, inPending, _, isLeft⟩
    rw [isLeft, Finset.mem_sdiff, progress.left (entry.1, needed) inPending, List.mem_append,
      walk.mem_walk, not_or, and_assoc]
  inOrder := by
    apply progress.inOrder.append
    intro item isFree need isNeeded
    rw [walk.mem_walk, mem_free] at isFree
    by_contra notSorted
    exact Finset.notMem_empty need
      ((progress.left (item, ∅) isFree need).mpr ⟨isNeeded, notSorted⟩)

/-- A list that is returned is sorted. -/
theorem Progress.sorts_of_some (progress : Progress items needs pending sorted)
    {walk : Walk α} {list : List α} (isSome : sort walk pending sorted = some list) :
    Sorts items needs list := by
  induction pending, sorted using sort.induct walk with
  | case1 sorted =>
      rw [sort, if_pos rfl] at isSome
      rw [← Option.some.inj isSome]
      refine ⟨progress.nodup, ?_, progress.inOrder⟩
      intro item
      rw [progress.covers item]
      simp
  | case2 pending sorted inhabited stuck =>
      rw [sort, if_neg inhabited, if_pos stuck] at isSome
      cases isSome
  | case3 pending sorted inhabited someFree induction =>
      rw [sort, if_neg inhabited, if_neg someFree] at isSome
      exact induction (progress.step walk) isSome

/-- Where nothing else is needed and there are no cycles, the loop does not get stuck. -/
theorem Progress.isSome (progress : Progress items needs pending sorted) (walk : Walk α)
    (closed : Closed items needs) (acyclic : Acyclic items needs) :
    (sort walk pending sorted).isSome := by
  induction pending, sorted using sort.induct walk with
  | case1 sorted =>
      rw [sort, if_pos rfl]
      rfl
  | case2 pending sorted inhabited stuck =>
      exfalso
      have isPart : (pending.map Prod.fst).toFinset ⊆ items := by
        intro item member
        exact (progress.covers item).mpr (Or.inr (List.mem_toFinset.mp member))
      have someLeft : (pending.map Prod.fst).toFinset.Nonempty := by
        rcases List.exists_mem_of_ne_nil pending inhabited with ⟨entry, member⟩
        exact ⟨entry.1, List.mem_toFinset.mpr (List.mem_map_of_mem member)⟩
      rcases exists_free acyclic isPart someLeft with ⟨item, isLeft, noneLeft⟩
      rcases List.mem_map.mp (List.mem_toFinset.mp isLeft) with ⟨⟨other, needed⟩, member, rfl⟩
      have needsNothing : needed = ∅ := by
        apply Finset.eq_empty_of_forall_notMem
        intro need isNeeded
        rcases (progress.left _ member need).mp isNeeded with ⟨inNeeds, notSorted⟩
        have isItem := closed other (isPart isLeft) inNeeds
        have isPending := ((progress.covers need).mp isItem).resolve_left notSorted
        exact noneLeft need inNeeds (List.mem_toFinset.mpr isPending)
      rw [needsNothing] at member
      exact Finset.notMem_empty other (stuck ▸ mem_free.mpr member)
  | case3 pending sorted inhabited someFree induction =>
      rw [sort, if_neg inhabited, if_neg someFree]
      exact induction (progress.step walk)

/-- The items are sorted just when the set is closed and without cycles. -/
theorem sort_start (walk : Walk α) (items : Finset α) (needs : α → Finset α) :
    let sorted := sort walk ((walk.walk items).map fun item => (item, needs item)) []
    (Closed items needs ∧ Acyclic items needs → ∃ list, sorted = some list ∧
      Sorts items needs list) ∧
    (¬(Closed items needs ∧ Acyclic items needs) → sorted = none) := by
  intro sorted
  have progress := progress_start walk items needs
  constructor
  · intro sortable
    rcases Option.isSome_iff_exists.mp (progress.isSome walk sortable.1 sortable.2) with
      ⟨list, isList⟩
    exact ⟨list, isList, progress.sorts_of_some isList⟩
  · intro unsortable
    apply Option.eq_none_iff_forall_ne_some.mpr
    intro list isList
    have sorts := progress.sorts_of_some isList
    exact unsortable ⟨sorts.closed, sorts.acyclic⟩

end Layers

end Dragonflow
