import Mathlib.Data.Set.Insert
import Mathlib.Data.List.Nodup

/-! # Two lists in lockstep

The items of one list are taken out of a set while those of another are put in,
position by position, without a step where both lists agree. Which items are left
depends on where they stand in both.
-/

namespace Dragonflow

namespace Lockstep

variable {ι : Type} [DecidableEq ι] {item : ι} {leaving entering : List ι} {present : Set ι}

/-- One position, where either list may have ended. -/
def round (leaves enters : Option ι) (present : Set ι) : Set ι :=
  if leaves = enters then present
  else {item | enters = some item ∨ item ∈ present ∧ leaves ≠ some item}

/-- What is left after all positions. -/
def run : List ι → List ι → Set ι → Set ι
  | [], [], present => present
  | leaves :: leaving, [], present => run leaving [] (round (some leaves) none present)
  | [], enters :: entering, present => run [] entering (round none (some enters) present)
  | leaves :: leaving, enters :: entering, present =>
      run leaving entering (round (some leaves) (some enters) present)

/-- The item does not leave behind the position at which it enters. -/
def LeavesFirst (item : ι) (leaving entering : List ι) : Prop :=
  ∀ leaves enters : Nat, leaving[leaves]? = some item → entering[enters]? = some item →
    leaves ≤ enters

/-- The item stands at the same position of both lists. -/
def Aligned (item : ι) (leaving entering : List ι) : Prop :=
  ∃ index : Nat, leaving[index]? = some item ∧ entering[index]? = some item

/-- What decides whether an item is left. -/
def Left (item : ι) (leaving entering : List ι) (present : Set ι) : Prop :=
  item ∈ entering ∧ LeavesFirst item leaving entering ∧
      (Aligned item leaving entering → item ∈ present) ∨
    item ∉ entering ∧ item ∉ leaving ∧ item ∈ present

omit [DecidableEq ι]

theorem mem_tail {head : ι} {tail : List ι} {index : Nat}
    (isItem : (head :: tail)[index + 1]? = some item) : item ∈ tail :=
  List.mem_of_getElem? (l := tail) isItem

theorem leavesFirst_cons {leaves enters : ι} (notLeaving : leaves ≠ item)
    (notEntering : enters ≠ item) :
    LeavesFirst item (leaves :: leaving) (enters :: entering) ↔
      LeavesFirst item leaving entering := by
  constructor
  · intro first before after isBefore isAfter
    have shifted := first (before + 1) (after + 1) isBefore isAfter
    omega
  · intro first before after isBefore isAfter
    cases before with
    | zero => exact absurd (Option.some.inj isBefore) notLeaving
    | succ before =>
        cases after with
        | zero => exact absurd (Option.some.inj isAfter) notEntering
        | succ after => exact Nat.succ_le_succ (first before after isBefore isAfter)

theorem aligned_cons {leaves enters : ι} (notLeaving : leaves ≠ item) :
    Aligned item (leaves :: leaving) (enters :: entering) ↔
      Aligned item leaving entering := by
  constructor
  · intro aligned
    rcases aligned with ⟨index, isLeaving, isEntering⟩
    cases index with
    | zero => exact absurd (Option.some.inj isLeaving) notLeaving
    | succ index => exact ⟨index, isLeaving, isEntering⟩
  · intro aligned
    rcases aligned with ⟨index, isLeaving, isEntering⟩
    exact ⟨index + 1, isLeaving, isEntering⟩

theorem leavesFirst_of_not_mem (notMember : item ∉ leaving) :
    LeavesFirst item leaving entering :=
  fun _ _ isLeaving _ => absurd (List.mem_of_getElem? isLeaving) notMember

theorem not_aligned_of_not_mem (notMember : item ∉ leaving) :
    ¬ Aligned item leaving entering :=
  fun aligned => notMember (List.mem_of_getElem? aligned.choose_spec.1)

/-- An item that enters first is left when it does not leave later. -/
theorem leavesFirst_head : LeavesFirst item leaving (item :: entering) ↔
    ∀ leaves : Nat, leaving[leaves]? = some item → leaves = 0 := by
  constructor
  · intro first leaves isLeaving
    exact Nat.le_zero.mp (first leaves 0 isLeaving rfl)
  · intro atStart leaves enters isLeaving _
    rw [atStart leaves isLeaving]
    exact Nat.zero_le enters

variable [DecidableEq ι]

/-- One position decides about its own items, and leaves the others to the rest. -/
theorem left_cons {leaves enters : ι} (leavesOnce : leaves ∉ leaving)
    (entersOnce : enters ∉ entering) :
    Left item leaving entering (round (some leaves) (some enters) present) ↔
      Left item (leaves :: leaving) (enters :: entering) present := by
  by_cases isLeaving : leaves = item
  · subst isLeaving
    have first : LeavesFirst leaves leaving entering := leavesFirst_of_not_mem leavesOnce
    have apart : ¬ Aligned leaves leaving entering := not_aligned_of_not_mem leavesOnce
    have firstHere : LeavesFirst leaves (leaves :: leaving) (enters :: entering) := by
      intro before after isBefore isAfter
      cases before with
      | zero => exact Nat.zero_le after
      | succ before => exact absurd (mem_tail isBefore) leavesOnce
    have alignedHere : Aligned leaves (leaves :: leaving) (enters :: entering) ↔
        leaves = enters := by
      constructor
      · intro aligned
        rcases aligned with ⟨index, isBefore, isAfter⟩
        cases index with
        | zero => exact (Option.some.inj isAfter).symm
        | succ index => exact absurd (mem_tail isBefore) leavesOnce
      · intro same
        exact ⟨0, rfl, by rw [same]; rfl⟩
    simp only [Left, first, apart, firstHere, alignedHere, round, List.mem_cons]
    by_cases same : leaves = enters
    · subst same
      simp [leavesOnce, entersOnce]
    · simp [leavesOnce, same, Ne.symm same]
  · by_cases isEntering : enters = item
    · subst isEntering
      have apart : ¬ Aligned enters (leaves :: leaving) (enters :: entering) := by
        intro aligned
        rcases aligned with ⟨index, isBefore, isAfter⟩
        cases index with
        | zero => exact isLeaving (Option.some.inj isBefore)
        | succ index => exact entersOnce (mem_tail isAfter)
      have first : LeavesFirst enters (leaves :: leaving) (enters :: entering) ↔
          enters ∉ leaving := by
        rw [leavesFirst_head]
        constructor
        · intro atStart member
          rcases List.getElem?_of_mem member with ⟨index, isIndex⟩
          exact absurd (atStart (index + 1) isIndex) (Nat.succ_ne_zero index)
        · intro notMember index isIndex
          cases index with
          | zero => rfl
          | succ index => exact absurd (mem_tail isIndex) notMember
      simp [Left, first, apart, round, entersOnce, isLeaving]
    · have different : ¬ some leaves = some item := fun same =>
        isLeaving (Option.some.inj same)
      have kept : item ∈ round (some leaves) (some enters) present ↔ item ∈ present := by
        unfold round
        split
        · exact Iff.rfl
        · simp [isEntering, isLeaving]
      simp only [Left, leavesFirst_cons isLeaving isEntering, aligned_cons isLeaving, kept,
        List.mem_cons, Ne.symm isLeaving, Ne.symm isEntering, false_or]

theorem mem_run (leavingNodup : leaving.Nodup) (enteringNodup : entering.Nodup) :
    item ∈ run leaving entering present ↔ Left item leaving entering present := by
  induction leaving, entering, present using run.induct with
  | case1 present => simp [run, Left]
  | case2 leaves leaving present induction =>
      rw [run, induction leavingNodup.of_cons enteringNodup]
      simp only [Left, round, List.not_mem_nil, List.mem_cons, false_and, false_or,
        not_false_eq_true, true_and, reduceCtorEq, if_false, Set.mem_ofPred_eq]
      grind
  | case3 enters entering present induction =>
      rw [run, induction leavingNodup enteringNodup.of_cons]
      have noneLeaves (after : List ι) : LeavesFirst item [] after :=
        leavesFirst_of_not_mem List.not_mem_nil
      have noneAligned (after : List ι) : ¬ Aligned item [] after :=
        not_aligned_of_not_mem List.not_mem_nil
      simp only [Left, noneLeaves, noneAligned, round, List.not_mem_nil, List.mem_cons,
        not_false_eq_true, true_and, reduceCtorEq, if_false, Set.mem_ofPred_eq]
      grind
  | case4 leaves leaving enters entering present induction =>
      rw [run, induction leavingNodup.of_cons enteringNodup.of_cons]
      have leavesOnce := (List.nodup_cons.mp leavingNodup).1
      have entersOnce := (List.nodup_cons.mp enteringNodup).1
      exact left_cons leavesOnce entersOnce

/-- Starting with what enters, an item is left unless it leaves behind its place. -/
theorem mem_run_entering (leavingNodup : leaving.Nodup) (enteringNodup : entering.Nodup) :
    item ∈ run leaving entering {item | item ∈ entering} ↔
      item ∈ entering ∧ LeavesFirst item leaving entering := by
  rw [mem_run leavingNodup enteringNodup, Left]
  constructor
  · rintro (⟨member, first, -⟩ | ⟨notMember, -, member⟩)
    · exact ⟨member, first⟩
    · exact absurd member notMember
  · intro left
    exact Or.inl ⟨left.1, left.2, fun _ => left.1⟩

end Lockstep

end Dragonflow
