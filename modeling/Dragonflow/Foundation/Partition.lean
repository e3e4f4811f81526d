import Mathlib.Algebra.Order.Ring.Nat

/-! # Partitions

A list of parts of which exactly one holds where the whole does, and none elsewhere. Two
such lists have a product, whose parts are the pairs of their parts.
-/

namespace Dragonflow

variable {α β : Type}

structure Partitions (holds : α → Bool) (parts : List α) (whole : Prop) : Prop where
  once : whole → parts.countP holds = 1
  never : ¬ whole → parts.countP holds = 0

namespace Partitions

variable {holds : α → Bool} {parts : List α} {whole other : Prop}

theorem congr (partitions : Partitions holds parts whole) (same : whole ↔ other) :
    Partitions holds parts other where
  once := fun inWhole => partitions.once (same.mpr inWhole)
  never := fun outside => partitions.never fun inWhole => outside (same.mp inWhole)

theorem single {part : α} (same : holds part = true ↔ whole) :
    Partitions holds [part] whole where
  once := by
    intro inWhole
    rw [List.countP_cons_of_pos (same.mpr inWhole), List.countP_nil]
  never := by
    intro outside
    rw [List.countP_cons_of_neg fun inPart => outside (same.mp inPart), List.countP_nil]

theorem map {make : β → α} {sources : List β}
    (partitions : Partitions (fun source => holds (make source)) sources whole) :
    Partitions holds (sources.map make) whole where
  once := fun inWhole => List.countP_map.trans (partitions.once inWhole)
  never := fun outside => List.countP_map.trans (partitions.never outside)

/-- No two parts of the list hold at once. -/
theorem countP_le_one
    (apart : parts.Pairwise fun first second => ¬(holds first = true ∧ holds second = true)) :
    parts.countP holds ≤ 1 := by
  induction parts with
  | nil => exact Nat.zero_le 1
  | cons part rest induction =>
      rcases List.pairwise_cons.mp apart with ⟨apartFromRest, restApart⟩
      by_cases inPart : holds part = true
      · have noneInRest : rest.countP holds = 0 := by
          rw [List.countP_eq_zero]
          intro second member inSecond
          exact apartFromRest second member ⟨inPart, inSecond⟩
        rw [List.countP_cons_of_pos inPart, noneInRest]
      · rw [List.countP_cons_of_neg inPart]
        exact induction restApart

/-- An exact cover whose parts are disjoint. -/
theorem of_cover
    (apart : parts.Pairwise fun first second => ¬(holds first = true ∧ holds second = true))
    (covers : whole ↔ ∃ part ∈ parts, holds part = true) :
    Partitions holds parts whole where
  once := by
    intro inWhole
    have atMost := countP_le_one apart
    have atLeast : 0 < parts.countP holds := List.countP_pos_iff.mpr (covers.mp inWhole)
    omega
  never := by
    intro outside
    rw [List.countP_eq_zero]
    intro part member inPart
    exact outside (covers.mpr ⟨part, member, inPart⟩)

/-! ## Products -/

variable {γ : Type} {bases : List β} {extensions : List γ} {combine : β → γ → α}
  {holdsBase : β → Bool} {holdsExtension : γ → Bool}

/-- One row of the table of pairs. -/
theorem countP_row (base : β)
    (splits : ∀ extension ∈ extensions,
      holds (combine base extension) = (holdsBase base && holdsExtension extension)) :
    (extensions.map (combine base)).countP holds =
      if holdsBase base then extensions.countP holdsExtension else 0 := by
  rw [List.countP_map]
  cases inBase : holdsBase base with
  | true =>
      apply List.countP_congr
      intro extension member
      rw [Function.comp_apply, splits extension member, inBase, Bool.true_and]
  | false =>
      rw [if_neg Bool.false_ne_true, List.countP_eq_zero]
      intro extension member inExtension
      rw [Function.comp_apply, splits extension member, inBase] at inExtension
      cases inExtension

theorem countP_product
    (splits : ∀ base ∈ bases, ∀ extension ∈ extensions,
      holds (combine base extension) = (holdsBase base && holdsExtension extension)) :
    (bases.flatMap fun base => extensions.map (combine base)).countP holds =
      bases.countP holdsBase * extensions.countP holdsExtension := by
  induction bases with
  | nil => rw [List.flatMap_nil, List.countP_nil, List.countP_nil, Nat.zero_mul]
  | cons base rest induction =>
      have restSplits := induction fun later member =>
        splits later (List.mem_cons_of_mem base member)
      rw [List.flatMap_cons, List.countP_append, restSplits,
        countP_row base (splits base List.mem_cons_self)]
      cases inBase : holdsBase base with
      | true =>
          rw [List.countP_cons_of_pos inBase, if_pos rfl,
            Nat.succ_mul, Nat.add_comm]
      | false =>
          have notInBase : ¬ holdsBase base = true := by simp [inBase]
          rw [List.countP_cons_of_neg notInBase, if_neg Bool.false_ne_true, Nat.zero_add]

theorem product (partitionsBase : Partitions holdsBase bases whole)
    (partitionsExtension : Partitions holdsExtension extensions other)
    (splits : ∀ base ∈ bases, ∀ extension ∈ extensions,
      holds (combine base extension) = (holdsBase base && holdsExtension extension)) :
    Partitions holds (bases.flatMap fun base => extensions.map (combine base))
      (whole ∧ other) where
  once := by
    intro inBoth
    rw [countP_product splits, partitionsBase.once inBoth.1,
      partitionsExtension.once inBoth.2]
  never := by
    intro outside
    rw [countP_product splits]
    by_cases inWhole : whole
    · have notOther : ¬ other := fun inOther => outside ⟨inWhole, inOther⟩
      rw [partitionsExtension.never notOther, Nat.mul_zero]
    · rw [partitionsBase.never inWhole, Nat.zero_mul]

end Partitions

end Dragonflow
