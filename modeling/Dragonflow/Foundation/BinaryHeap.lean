import Mathlib.Data.List.Perm.Basic
import Mathlib.Order.Lattice

/-! # Binary heaps

The operations of `heapq` on a list, with a comparison that may raise. Where the items that
are in the heap together can be compared, and the comparison is that of a rank, nothing
raises and the item that comes out first has the least rank.
-/

namespace Dragonflow

namespace BinaryHeap

variable {α ε β : Type}

/-! ## Operations -/

def exchange (heap : List α) (first second : Nat) : List α :=
  match heap[first]?, heap[second]? with
  | some item, some other => (heap.set first other).set second item
  | _, _ => heap

section Operations

variable (less : α → α → Except ε Bool)

/-- `siftdown`. An item moves towards the root while it is less than its parent. The first
argument bounds the number of moves. -/
def siftdown : Nat → Nat → List α → Except ε (List α)
  | 0, _, heap => .ok heap
  | moves + 1, pos, heap =>
      if pos = 0 then .ok heap
      else
        match heap[pos]?, heap[(pos - 1) / 2]? with
        | some newitem, some parent => do
            if ← less newitem parent then
              siftdown moves ((pos - 1) / 2) (exchange heap ((pos - 1) / 2) pos)
            else return heap
        | _, _ => .ok heap

/-- The position of the smaller child. Of two that are not less, it is the right one. -/
def smallerChild (heap : List α) (pos : Nat) (child : α) : Except ε Nat :=
  match heap[2 * pos + 2]? with
  | none => .ok (2 * pos + 1)
  | some right => do
      if ← less child right then return 2 * pos + 1
      else return 2 * pos + 2

/-- The loop of `siftup`. The smaller child moves up until the item is at a leaf. -/
def sink : Nat → Nat → List α → Except ε (List α × Nat)
  | 0, pos, heap => .ok (heap, pos)
  | moves + 1, pos, heap =>
      match heap[2 * pos + 1]? with
      | none => .ok (heap, pos)
      | some child => do
          let childpos ← smallerChild less heap pos child
          sink moves childpos (exchange heap childpos pos)

/-- `siftup` at the root. -/
def siftup (heap : List α) : Except ε (List α) := do
  let (heap, pos) ← sink less heap.length 0 heap
  siftdown less pos pos heap

def heappush (heap : List α) (item : α) : Except ε (List α) :=
  siftdown less heap.length heap.length (heap ++ [item])

/-- Nothing comes out of an empty heap. -/
def heappop (heap : List α) : Except ε (Option (α × List α)) :=
  match heap with
  | [] => .ok none
  | first :: rest =>
      match rest.getLast? with
      | none => .ok (some (first, []))
      | some last => do
          let heap ← siftup less (last :: rest.dropLast)
          return some (first, heap)

end Operations

/-! ## Exchanging -/

variable {heap : List α}

theorem exchange_perm (heap : List α) (first second : Nat) :
    (exchange heap first second).Perm heap := by
  unfold exchange
  split
  · next item other isItem isOther =>
      rcases List.getElem?_eq_some_iff.mp isItem with ⟨firstLt, isItem⟩
      rcases List.getElem?_eq_some_iff.mp isOther with ⟨secondLt, isOther⟩
      subst isItem
      subst isOther
      exact List.set_set_perm firstLt secondLt
  · exact List.Perm.refl heap

theorem getElem?_exchange {first second : Nat} {item other : α}
    (isItem : heap[first]? = some item) (isOther : heap[second]? = some other) (pos : Nat) :
    (exchange heap first second)[pos]? =
      if pos = second then some item else if pos = first then some other else heap[pos]? := by
  have firstLt := (List.getElem?_eq_some_iff.mp isItem).1
  have secondLt := (List.getElem?_eq_some_iff.mp isOther).1
  unfold exchange
  rw [isItem, isOther]
  dsimp only
  rw [List.getElem?_set, List.getElem?_set, List.length_set]
  by_cases isSecond : pos = second
  · rw [if_pos isSecond.symm, if_pos secondLt, if_pos isSecond]
  · rw [if_neg (Ne.symm isSecond), if_neg isSecond]
    by_cases isFirst : pos = first
    · rw [if_pos isFirst.symm, if_pos firstLt, if_pos isFirst]
    · rw [if_neg (Ne.symm isFirst), if_neg isFirst]

/-! ## Order -/

variable [LinearOrder β] (less : α → α → Except ε Bool) (rank : α → β)

/-- The comparison of two items returns, and is that of their ranks. -/
def Compares (item other : α) : Prop :=
  less item other = .ok (decide (rank item < rank other))

/-- All items in the heap can be compared with each other. -/
def Comparable (heap : List α) : Prop :=
  heap.Pairwise fun item other => Compares less rank item other ∧ Compares less rank other item

/-- The item at a position does not come before its parent. -/
def InOrder (heap : List α) (pos : Nat) : Prop :=
  ∀ item parent, pos ≠ 0 → heap[pos]? = some item → heap[(pos - 1) / 2]? = some parent →
    rank parent ≤ rank item

def IsHeap (heap : List α) : Prop := ∀ pos, InOrder rank heap pos

/-- What is above a position does not come after what is below it. -/
def Around (heap : List α) (hole : Nat) : Prop :=
  ∀ pos item above, hole ≠ 0 → pos ≠ 0 → (pos - 1) / 2 = hole → heap[pos]? = some item →
    heap[(hole - 1) / 2]? = some above → rank above ≤ rank item

/-- Only the item at one position may come before its parent. -/
structure Rising (heap : List α) (hole : Nat) : Prop where
  except : ∀ pos, pos ≠ hole → InOrder rank heap pos
  around : Around rank heap hole

/-- Only the item at one position is out of order with its parent and its children. -/
structure Sinking (heap : List α) (hole : Nat) : Prop where
  except : ∀ pos, pos ≠ hole → (pos - 1) / 2 ≠ hole → InOrder rank heap pos
  around : Around rank heap hole

variable {less rank}

theorem Comparable.perm {other : List α} (comparable : Comparable less rank heap)
    (perm : other.Perm heap) : Comparable less rank other := by
  apply (perm.pairwise_iff _).mpr comparable
  intro item other both
  exact ⟨both.2, both.1⟩

theorem Comparable.at {first second : Nat} {item other : α}
    (comparable : Comparable less rank heap) (different : first ≠ second)
    (isItem : heap[first]? = some item) (isOther : heap[second]? = some other) :
    less item other = .ok (decide (rank item < rank other)) := by
  rcases List.getElem?_eq_some_iff.mp isItem with ⟨firstLt, isItem⟩
  rcases List.getElem?_eq_some_iff.mp isOther with ⟨secondLt, isOther⟩
  subst isItem
  subst isOther
  unfold Comparable at comparable
  rw [List.pairwise_iff_getElem] at comparable
  rcases Nat.lt_or_gt_of_ne different with before | behind
  · exact (comparable first second firstLt secondLt before).1
  · exact (comparable second first secondLt firstLt behind).2

/-- An item that is in order with its parent stays where it is. -/
theorem Rising.stop {hole : Nat} (rising : Rising rank heap hole)
    (inOrder : InOrder rank heap hole) : IsHeap rank heap := by
  intro pos
  by_cases same : pos = hole
  · exact same ▸ inOrder
  · exact rising.except pos same

/-- An item that comes before its parent changes places with it. -/
theorem Rising.move {hole : Nat} {newitem parent : α} (rising : Rising rank heap hole)
    (notRoot : hole ≠ 0) (isItem : heap[hole]? = some newitem)
    (isParent : heap[(hole - 1) / 2]? = some parent) (before : rank newitem < rank parent) :
    Rising rank (exchange heap ((hole - 1) / 2) hole) ((hole - 1) / 2) := by
  have values := getElem?_exchange isParent isItem
  have apart : (hole - 1) / 2 ≠ hole := by omega
  constructor
  · intro pos notHole item above isPos found isAbove
    rw [values] at found isAbove
    by_cases isOld : pos = hole
    · subst isOld
      rw [if_pos rfl, Option.some.injEq] at found
      rw [if_neg apart, if_pos rfl, Option.some.injEq] at isAbove
      rw [← found, ← isAbove]
      exact le_of_lt before
    · rw [if_neg isOld, if_neg notHole] at found
      by_cases below : (pos - 1) / 2 = hole
      · rw [if_pos below, Option.some.injEq] at isAbove
        rw [← isAbove]
        exact rising.around pos item parent notRoot isPos below found isParent
      · rw [if_neg below] at isAbove
        by_cases sibling : (pos - 1) / 2 = (hole - 1) / 2
        · rw [if_pos sibling, Option.some.injEq] at isAbove
          rw [← isAbove]
          apply le_trans (le_of_lt before)
          apply rising.except pos isOld item parent isPos found
          rw [sibling]
          exact isParent
        · rw [if_neg sibling] at isAbove
          exact rising.except pos isOld item above isPos found isAbove
  · intro pos item above parentNotRoot isPos below found isAbove
    have higher : ((hole - 1) / 2 - 1) / 2 ≠ hole := by omega
    have notParent : ((hole - 1) / 2 - 1) / 2 ≠ (hole - 1) / 2 := by omega
    rw [values] at found isAbove
    rw [if_neg higher, if_neg notParent] at isAbove
    have parentInOrder : rank above ≤ rank parent :=
      rising.except _ apart parent above parentNotRoot isParent isAbove
    by_cases isOld : pos = hole
    · rw [if_pos isOld, Option.some.injEq] at found
      rw [← found]
      exact parentInOrder
    · have notSelf : pos ≠ (hole - 1) / 2 := by omega
      rw [if_neg isOld, if_neg notSelf] at found
      apply le_trans parentInOrder
      apply rising.except pos isOld item parent isPos found
      rw [below]
      exact isParent

/-- Moving towards the root returns a heap with the same items. -/
theorem Rising.siftdown {moves hole : Nat} (rising : Rising rank heap hole)
    (comparable : Comparable less rank heap) (enough : hole ≤ moves) :
    ∃ after, siftdown less moves hole heap = .ok after ∧ after.Perm heap ∧
      IsHeap rank after := by
  induction moves generalizing hole heap with
  | zero =>
      refine ⟨heap, rfl, List.Perm.refl heap, rising.stop ?_⟩
      intro _ _ isPos
      omega
  | succ moves induction =>
      unfold BinaryHeap.siftdown
      by_cases isRoot : hole = 0
      · rw [if_pos isRoot]
        refine ⟨heap, rfl, List.Perm.refl heap, rising.stop ?_⟩
        intro _ _ isPos
        exact absurd isRoot isPos
      · rw [if_neg isRoot]
        cases isItem : heap[hole]? with
        | none =>
            refine ⟨heap, rfl, List.Perm.refl heap, rising.stop ?_⟩
            intro item _ _ found
            rw [isItem] at found
            cases found
        | some newitem =>
            cases isParent : heap[(hole - 1) / 2]? with
            | none =>
                refine ⟨heap, rfl, List.Perm.refl heap, rising.stop ?_⟩
                intro _ parent _ _ found
                rw [isParent] at found
                cases found
            | some parent =>
                have different : hole ≠ (hole - 1) / 2 := by omega
                dsimp only
                rw [comparable.at different isItem isParent]
                by_cases before : rank newitem < rank parent
                · have perm := exchange_perm heap ((hole - 1) / 2) hole
                  rcases induction (rising.move isRoot isItem isParent before)
                    (comparable.perm perm) (by omega) with
                    ⟨after, executed, samePerm, isHeap⟩
                  refine ⟨after, ?_, samePerm.trans perm, isHeap⟩
                  simp only [bind, Except.bind, before, decide_true, ↓reduceIte]
                  exact executed
                · refine ⟨heap, ?_, List.Perm.refl heap, rising.stop ?_⟩
                  · simp only [bind, Except.bind, before, decide_false, Bool.false_eq_true,
                      ↓reduceIte]
                    rfl
                  · intro item above _ found isAbove
                    rw [isItem, Option.some.injEq] at found
                    rw [isParent, Option.some.injEq] at isAbove
                    rw [← found, ← isAbove]
                    exact not_lt.mp before

/-! ## Towards the leaves -/

/-- A child that does not come after its sibling changes places with its parent. -/
theorem Sinking.move {hole childpos : Nat} {newitem child : α}
    (sinking : Sinking rank heap hole) (notRoot : childpos ≠ 0)
    (isChild : (childpos - 1) / 2 = hole) (isItem : heap[hole]? = some newitem)
    (found : heap[childpos]? = some child)
    (first : ∀ pos item, pos ≠ 0 → (pos - 1) / 2 = hole → heap[pos]? = some item →
      rank child ≤ rank item) :
    Sinking rank (exchange heap childpos hole) childpos := by
  have values := getElem?_exchange found isItem
  have apart : childpos ≠ hole := by omega
  constructor
  · intro pos notChild notBelow item above isPos isHere isAbove
    rw [values] at isHere isAbove
    by_cases isHole : pos = hole
    · subst isHole
      rw [if_pos rfl, Option.some.injEq] at isHere
      have higher : (pos - 1) / 2 ≠ pos := by omega
      rw [if_neg higher, if_neg notBelow] at isAbove
      rw [← isHere]
      exact sinking.around childpos child above isPos notRoot isChild found isAbove
    · rw [if_neg isHole, if_neg notChild] at isHere
      by_cases sibling : (pos - 1) / 2 = hole
      · rw [if_pos sibling, Option.some.injEq] at isAbove
        rw [← isAbove]
        exact first pos item isPos sibling isHere
      · rw [if_neg sibling, if_neg notBelow] at isAbove
        exact sinking.except pos isHole sibling item above isPos isHere isAbove
  · intro pos item above childNotRoot isPos below isHere isAbove
    rw [values] at isHere isAbove
    rw [if_pos isChild, Option.some.injEq] at isAbove
    have notHole : pos ≠ hole := by omega
    have notChild : pos ≠ childpos := by omega
    rw [if_neg notHole, if_neg notChild] at isHere
    rw [← isAbove]
    apply sinking.except pos notHole _ item child isPos isHere
    · rw [below]
      exact found
    · omega

theorem smallerChild_spec {pos : Nat} {child : α} (comparable : Comparable less rank heap)
    (found : heap[2 * pos + 1]? = some child) :
    ∃ childpos smaller, smallerChild less heap pos child = .ok childpos ∧ childpos ≠ 0 ∧
      (childpos - 1) / 2 = pos ∧ heap[childpos]? = some smaller ∧
      ∀ other item, other ≠ 0 → (other - 1) / 2 = pos → heap[other]? = some item →
        rank smaller ≤ rank item := by
  unfold smallerChild
  cases isRight : heap[2 * pos + 2]? with
  | none =>
      refine ⟨2 * pos + 1, child, rfl, by omega, by omega, found, ?_⟩
      intro other item isPos below isItem
      have position : other = 2 * pos + 1 ∨ other = 2 * pos + 2 := by omega
      rcases position with same | same
      · rw [same, found, Option.some.injEq] at isItem
        rw [isItem]
      · rw [same, isRight] at isItem
        cases isItem
  | some right =>
      have different : 2 * pos + 1 ≠ 2 * pos + 2 := by omega
      dsimp only
      rw [comparable.at different found isRight]
      by_cases before : rank child < rank right
      · refine ⟨2 * pos + 1, child, ?_, by omega, by omega, found, ?_⟩
        · simp only [bind, Except.bind, before, decide_true, ↓reduceIte]
          rfl
        · intro other item isPos below isItem
          have position : other = 2 * pos + 1 ∨ other = 2 * pos + 2 := by omega
          rcases position with same | same
          · rw [same, found, Option.some.injEq] at isItem
            rw [isItem]
          · rw [same, isRight, Option.some.injEq] at isItem
            rw [← isItem]
            exact le_of_lt before
      · refine ⟨2 * pos + 2, right, ?_, by omega, by omega, isRight, ?_⟩
        · simp only [bind, Except.bind, before, decide_false, Bool.false_eq_true, ↓reduceIte]
          rfl
        · intro other item isPos below isItem
          have position : other = 2 * pos + 1 ∨ other = 2 * pos + 2 := by omega
          rcases position with same | same
          · rw [same, found, Option.some.injEq] at isItem
            rw [← isItem]
            exact not_lt.mp before
          · rw [same, isRight, Option.some.injEq] at isItem
            rw [isItem]

/-- At a leaf nothing is below. -/
theorem Sinking.rising {hole : Nat} (sinking : Sinking rank heap hole)
    (isLeaf : heap[2 * hole + 1]? = none) : Rising rank heap hole where
  except := by
    intro pos notHole item parent isPos found isParent
    have notBelow : (pos - 1) / 2 ≠ hole := by
      intro below
      have short := List.getElem?_eq_none_iff.mp isLeaf
      have long := (List.getElem?_eq_some_iff.mp found).1
      omega
    exact sinking.except pos notHole notBelow item parent isPos found isParent
  around := sinking.around

theorem Sinking.sink {moves hole : Nat} {newitem : α} (sinking : Sinking rank heap hole)
    (comparable : Comparable less rank heap) (isItem : heap[hole]? = some newitem)
    (enough : heap.length ≤ hole + moves) :
    ∃ after pos, sink less moves hole heap = .ok (after, pos) ∧ after.Perm heap ∧
      Rising rank after pos := by
  induction moves generalizing hole heap with
  | zero =>
      have inside := (List.getElem?_eq_some_iff.mp isItem).1
      omega
  | succ moves induction =>
      unfold BinaryHeap.sink
      cases isChild : heap[2 * hole + 1]? with
      | none => exact ⟨heap, hole, rfl, List.Perm.refl heap, sinking.rising isChild⟩
      | some child =>
          rcases smallerChild_spec comparable isChild with
            ⟨childpos, smaller, chosen, notRoot, isBelow, found, first⟩
          have perm := exchange_perm heap childpos hole
          have here : (exchange heap childpos hole)[childpos]? = some newitem := by
            have apart : childpos ≠ hole := by omega
            rw [getElem?_exchange found isItem, if_neg apart, if_pos rfl]
          rcases induction (sinking.move notRoot isBelow isItem found first)
            (comparable.perm perm) here (by rw [perm.length_eq]; omega) with
            ⟨after, pos, executed, samePerm, rising⟩
          refine ⟨after, pos, ?_, samePerm.trans perm, rising⟩
          dsimp only
          rw [chosen]
          exact executed

/-! ## What comes out -/

/-- Adding an item. -/
theorem IsHeap.push {item : α} (isHeap : IsHeap rank heap)
    (comparable : Comparable less rank (heap ++ [item])) :
    ∃ after, heappush less heap item = .ok after ∧ after.Perm (item :: heap) ∧
      IsHeap rank after := by
  have rising : Rising rank (heap ++ [item]) heap.length := by
    constructor
    · intro pos notLast other parent isPos found isParent
      have short : pos < heap.length := by
        have long := (List.getElem?_eq_some_iff.mp found).1
        rw [List.length_append, List.length_singleton] at long
        omega
      rw [List.getElem?_append_left short] at found
      rw [List.getElem?_append_left (by omega)] at isParent
      exact isHeap pos other parent isPos found isParent
    · intro pos other above _ _ below found _
      have long := (List.getElem?_eq_some_iff.mp found).1
      rw [List.length_append, List.length_singleton] at long
      omega
  rcases rising.siftdown comparable (Nat.le_refl _) with ⟨after, executed, perm, isAfter⟩
  exact ⟨after, executed, perm.trans (List.perm_append_singleton item heap), isAfter⟩

/-- The root does not come after any item. -/
theorem IsHeap.root_le {root : α} (isHeap : IsHeap rank heap) (isRoot : heap[0]? = some root) :
    ∀ item ∈ heap, rank root ≤ rank item := by
  have below : ∀ (pos : Nat) (item : α), heap[pos]? = some item → rank root ≤ rank item := by
    intro pos
    induction pos using Nat.strongRecOn with
    | ind pos induction =>
        intro item found
        by_cases isZero : pos = 0
        · subst isZero
          rw [isRoot, Option.some.injEq] at found
          rw [found]
        · have inside := (List.getElem?_eq_some_iff.mp found).1
          have parentLt : (pos - 1) / 2 < heap.length := by omega
          have isParent := List.getElem?_eq_getElem parentLt
          apply le_trans (induction ((pos - 1) / 2) (by omega) _ isParent)
          exact isHeap pos item _ isZero found isParent
  intro item member
  rcases List.mem_iff_getElem?.mp member with ⟨pos, found⟩
  exact below pos item found

/-- What comes out has the least rank, and a heap with the other items stays. -/
theorem IsHeap.pop (isHeap : IsHeap rank heap) (comparable : Comparable less rank heap) :
    (heap = [] ∧ heappop less heap = .ok none) ∨
      ∃ first after, heappop less heap = .ok (some (first, after)) ∧
        heap.Perm (first :: after) ∧ IsHeap rank after ∧
        ∀ item ∈ heap, rank first ≤ rank item := by
  cases heap with
  | nil => exact Or.inl ⟨rfl, rfl⟩
  | cons first rest =>
      have least := isHeap.root_le rfl
      apply Or.inr
      cases isLast : rest.getLast? with
      | none =>
          have empty : rest = [] := List.getLast?_eq_none_iff.mp isLast
          subst empty
          refine ⟨first, [], rfl, List.Perm.refl _, ?_, least⟩
          intro pos item _ _ found
          cases found
      | some last =>
          rcases List.getLast?_eq_some_iff.mp isLast with ⟨front, isRest⟩
          subst isRest
          have perm : (last :: front).Perm (front ++ [last]) :=
            (List.perm_append_singleton last front).symm
          have shorter : Comparable less rank (last :: front) := by
            have tail := List.Pairwise.of_cons comparable
            exact Comparable.perm tail perm
          have sinking : Sinking rank (last :: front) 0 := by
            constructor
            · intro pos notRoot notBelow item parent _ found isParent
              have inside := (List.getElem?_eq_some_iff.mp found).1
              rw [List.length_cons] at inside
              have samePlace : ∀ index, index ≠ 0 → index < front.length + 1 →
                  (last :: front)[index]? = (first :: (front ++ [last]))[index]? := by
                intro index positive bound
                cases index with
                | zero => omega
                | succ index =>
                    rw [List.getElem?_cons_succ, List.getElem?_cons_succ,
                      List.getElem?_append_left (by omega)]
              rw [samePlace pos notRoot inside] at found
              rw [samePlace _ notBelow (by omega)] at isParent
              exact isHeap pos item parent notRoot found isParent
            · intro _ _ _ notRoot
              exact absurd rfl notRoot
          rcases sinking.sink shorter rfl (Nat.le_of_eq (Nat.zero_add _).symm) with
            ⟨middle, pos, sunk, middlePerm, rising⟩
          rcases rising.siftdown (shorter.perm middlePerm) (Nat.le_refl _) with
            ⟨after, executed, afterPerm, isAfter⟩
          refine ⟨first, after, ?_, ?_, isAfter, least⟩
          · have lifted : siftup less (last :: front) = .ok after := by
              unfold siftup
              rw [sunk]
              exact executed
            unfold heappop
            dsimp only
            rw [isLast]
            dsimp only
            rw [List.dropLast_concat, lifted]
            rfl
          · apply List.Perm.cons
            exact ((afterPerm.trans middlePerm).trans perm).symm

end BinaryHeap

end Dragonflow
