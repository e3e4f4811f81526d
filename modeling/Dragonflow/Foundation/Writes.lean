import Mathlib.Data.List.Basic
import Mathlib.Logic.Function.Basic

/-! # Writing one key at a time

A store that is changed by giving single keys a value or none. What a key is
left with is what was written to it last.
-/

namespace Dragonflow

/-- Give a key a value, or take its value away. -/
structure Write (κ ν : Type) where
  key : κ
  value : Option ν

namespace Write

variable {κ ν ι : Type} [DecidableEq κ]

def apply (store : κ → Option ν) (write : Write κ ν) : κ → Option ν :=
  Function.update store write.key write.value

def applyAll (store : κ → Option ν) (writes : List (Write κ ν)) : κ → Option ν :=
  writes.foldl apply store

/-- Some of the writes are to the key. -/
def Touch (writes : List (Write κ ν)) (key : κ) : Prop :=
  ∃ write ∈ writes, write.key = key

variable {store other : κ → Option ν} {writes first second : List (Write κ ν)} {key : κ}

@[simp] theorem applyAll_nil : applyAll store ([] : List (Write κ ν)) = store := rfl

@[simp] theorem applyAll_cons (write : Write κ ν) :
    applyAll store (write :: writes) = applyAll (apply store write) writes := rfl

theorem applyAll_append :
    applyAll store (first ++ second) = applyAll (applyAll store first) second :=
  List.foldl_append

omit [DecidableEq κ] in
theorem touch_append : Touch (first ++ second) key ↔ Touch first key ∨ Touch second key := by
  simp only [Touch, List.mem_append, or_and_right, exists_or]

omit [DecidableEq κ] in
theorem touch_flatMap {items : List ι} {writesOf : ι → List (Write κ ν)} :
    Touch (items.flatMap writesOf) key ↔ ∃ item ∈ items, Touch (writesOf item) key := by
  simp only [Touch, List.mem_flatMap]
  constructor
  · rintro ⟨write, ⟨item, member, written⟩, isKey⟩
    exact ⟨item, member, write, written, isKey⟩
  · rintro ⟨item, member, write, written, isKey⟩
    exact ⟨write, ⟨item, member, written⟩, isKey⟩

omit [DecidableEq κ] in
theorem touch_map {items : List ι} {writeOf : ι → Write κ ν} :
    Touch (items.map writeOf) key ↔ ∃ item ∈ items, (writeOf item).key = key := by
  unfold Touch
  constructor
  · rintro ⟨write, member, isKey⟩
    rcases List.mem_map.mp member with ⟨item, isItem, rfl⟩
    exact ⟨item, isItem, isKey⟩
  · rintro ⟨item, isItem, isKey⟩
    exact ⟨writeOf item, List.mem_map_of_mem isItem, isKey⟩

theorem applyAll_untouched (untouched : ¬ Touch writes key) :
    applyAll store writes key = store key := by
  induction writes generalizing store with
  | nil => rfl
  | cons write writes induction =>
      have later : ¬ Touch writes key := fun ⟨found, member, isKey⟩ =>
        untouched ⟨found, List.mem_cons_of_mem _ member, isKey⟩
      have different : key ≠ write.key := fun isKey =>
        untouched ⟨write, List.mem_cons_self, isKey.symm⟩
      rw [applyAll_cons, induction later, apply, Function.update_of_ne different]

/-- What a key is left with does not depend on the other keys. -/
theorem applyAll_congr (same : store key = other key) :
    applyAll store writes key = applyAll other writes key := by
  induction writes generalizing store other with
  | nil => exact same
  | cons write writes induction =>
      refine induction ?_
      unfold apply
      rw [Function.update_apply, Function.update_apply]
      split
      · rfl
      · exact same

/-- A key to which always the same is written. -/
theorem applyAll_agreed {value : Option ν} (touched : Touch writes key)
    (agreed : ∀ write ∈ writes, write.key = key → write.value = value) :
    applyAll store writes key = value := by
  induction writes generalizing store with
  | nil => exact absurd touched (by simp [Touch])
  | cons write writes induction =>
      by_cases later : Touch writes key
      · exact induction later fun found member =>
          agreed found (List.mem_cons_of_mem _ member)
      · rcases touched with ⟨found, member, isKey⟩
        rcases List.mem_cons.mp member with rfl | isLater
        · rw [applyAll_cons, applyAll_untouched later, ← isKey, apply,
            Function.update_self]
          exact agreed found List.mem_cons_self isKey
        · exact absurd ⟨found, isLater, isKey⟩ later

/-- A key that is written to is left with one of the values that are written to it. -/
theorem applyAll_found (touched : Touch writes key) :
    ∃ write ∈ writes, write.key = key ∧ applyAll store writes key = write.value := by
  induction writes generalizing store with
  | nil => exact absurd touched (by simp [Touch])
  | cons write writes induction =>
      by_cases later : Touch writes key
      · rcases @induction (apply store write) later with ⟨found, member, isKey, isValue⟩
        exact ⟨found, List.mem_cons_of_mem _ member, isKey, isValue⟩
      · rcases touched with ⟨found, member, isKey⟩
        rcases List.mem_cons.mp member with rfl | isLater
        · refine ⟨found, List.mem_cons_self, isKey, ?_⟩
          rw [applyAll_cons, applyAll_untouched later, ← isKey, apply,
            Function.update_self]
        · exact absurd ⟨found, isLater, isKey⟩ later

/-- Some of the items leave a value in the key, and the others leave the key alone.
-/
theorem applyAll_settled {items : List ι} {writesOf : ι → List (Write κ ν)}
    {value : Option ν} (touched : Touch (items.flatMap writesOf) key)
    (settled : ∀ item ∈ items, Touch (writesOf item) key →
      ∀ store, applyAll store (writesOf item) key = value) :
    applyAll store (items.flatMap writesOf) key = value := by
  induction items generalizing store with
  | nil => exact absurd touched (by simp [Touch])
  | cons item items induction =>
      rw [List.flatMap_cons, applyAll_append]
      by_cases later : Touch (items.flatMap writesOf) key
      · exact induction later fun other member =>
          settled other (List.mem_cons_of_mem _ member)
      · rw [applyAll_untouched later]
        rw [List.flatMap_cons, touch_append] at touched
        exact settled item List.mem_cons_self (touched.resolve_right later) store

/-- A key that is written to does not keep what it had. -/
theorem applyAll_of_touch (touched : Touch writes key) :
    applyAll store writes key = applyAll other writes key := by
  induction writes generalizing store other with
  | nil => exact absurd touched (by simp [Touch])
  | cons write writes induction =>
      by_cases later : Touch writes key
      · exact induction later
      · rcases touched with ⟨found, member, isKey⟩
        rcases List.mem_cons.mp member with rfl | isLater
        · rw [applyAll_cons, applyAll_cons]
          refine applyAll_congr ?_
          rw [← isKey]
          simp only [apply, Function.update_self]
        · exact absurd ⟨found, isLater, isKey⟩ later

/-! ## Writes in rounds -/

/-- The last round that is about a key decides. -/
theorem applyAll_rounds_last {round : Nat → List (Write κ ν)} {last count : Nat}
    (inside : last < count)
    (later : ∀ index, last < index → index < count → ¬ Touch (round index) key) :
    applyAll store ((List.range count).flatMap round) key =
      applyAll (applyAll store ((List.range last).flatMap round)) (round last) key := by
  induction count with
  | zero => omega
  | succ count induction =>
      rw [List.range_succ, List.flatMap_append, List.flatMap_singleton, applyAll_append]
      by_cases isLast : last = count
      · rw [isLast]
      · rw [applyAll_untouched (later count (by omega) (by omega))]
        exact induction (by omega) fun index after before =>
          later index after (by omega)

omit [DecidableEq κ] in
theorem touch_rounds {round : Nat → List (Write κ ν)} {count : Nat} :
    Touch ((List.range count).flatMap round) key ↔
      ∃ index < count, Touch (round index) key := by
  simp only [touch_flatMap, List.mem_range]

/-- Of all items only one is about a key. -/
theorem applyAll_alone {items : List ι} {writesOf : ι → List (Write κ ν)}
    (single : ∀ first ∈ items, ∀ second ∈ items, Touch (writesOf first) key →
      Touch (writesOf second) key → first = second)
    {item : ι} (member : item ∈ items) (touched : Touch (writesOf item) key) :
    applyAll store (items.flatMap writesOf) key = applyAll store (writesOf item) key := by
  refine applyAll_settled (touch_flatMap.mpr ⟨item, member, touched⟩) ?_
  intro found isFound foundTouched other
  rw [single found isFound item member foundTouched touched]
  exact applyAll_of_touch touched

/-! ## Updating by difference -/

/-- What was written for some items is turned into what would be written for others:
the items that are gone are undone, and then those that are new are done. Items that
stay write the same as before. -/
theorem applyAll_difference [DecidableEq ι] {old new : List ι}
    {before after undo : ι → List (Write κ ν)}
    (apart : ∀ first ∈ old, ∀ second ∈ old, Touch (before first) key →
      Touch (before second) key → first = second)
    (apartAfter : ∀ first ∈ new, ∀ second ∈ new, Touch (after first) key →
      Touch (after second) key → first = second)
    (undone : ∀ item ∈ old, Touch (before item) key ↔ Touch (undo item) key)
    (empties : ∀ item ∈ old, ∀ write ∈ undo item, write.value = none)
    (stays : ∀ item ∈ old, item ∈ new → before item = after item)
    (empty : store key = none) :
    applyAll (applyAll store (old.flatMap before))
      ((old.filter (· ∉ new)).flatMap undo ++ (new.filter (· ∉ old)).flatMap after) key =
        applyAll store (new.flatMap after) key := by
  rw [applyAll_append]
  by_cases wanted : Touch (new.flatMap after) key
  · rcases touch_flatMap.mp wanted with ⟨item, member, touched⟩
    rw [applyAll_alone apartAfter member touched]
    by_cases had : item ∈ old
    · -- the item stays, so that neither undoing nor doing is about the key
      have touchedBefore : Touch (before item) key := by
        rw [stays item had member]
        exact touched
      have notDone : ¬ Touch ((new.filter (· ∉ old)).flatMap after) key := by
        intro done
        rcases touch_flatMap.mp done with ⟨found, isFound, foundTouched⟩
        simp only [List.mem_filter, decide_eq_true_eq] at isFound
        rw [apartAfter found isFound.1 item member foundTouched touched] at isFound
        exact isFound.2 had
      have notUndone : ¬ Touch ((old.filter (· ∉ new)).flatMap undo) key := by
        intro isUndone
        rcases touch_flatMap.mp isUndone with ⟨found, isFound, foundTouched⟩
        simp only [List.mem_filter, decide_eq_true_eq] at isFound
        rw [apart found isFound.1 item had ((undone found isFound.1).mpr foundTouched)
          touchedBefore] at isFound
        exact isFound.2 member
      rw [applyAll_untouched notDone, applyAll_untouched notUndone,
        applyAll_alone apart had touchedBefore, stays item had member]
    · have isNew : item ∈ new.filter (· ∉ old) := by
        simp only [List.mem_filter, decide_eq_true_eq]
        exact ⟨member, had⟩
      rw [applyAll_alone (fun first isFirst second isSecond =>
        apartAfter first (List.mem_filter.mp isFirst).1 second
          (List.mem_filter.mp isSecond).1) isNew touched]
      exact applyAll_of_touch touched
  · have notDone : ¬ Touch ((new.filter (· ∉ old)).flatMap after) key := by
      intro done
      rcases touch_flatMap.mp done with ⟨found, isFound, foundTouched⟩
      exact wanted (touch_flatMap.mpr ⟨found, (List.mem_filter.mp isFound).1, foundTouched⟩)
    rw [applyAll_untouched wanted, empty, applyAll_untouched notDone]
    by_cases had : Touch (old.flatMap before) key
    · rcases touch_flatMap.mp had with ⟨item, member, touched⟩
      have gone : item ∈ old.filter (· ∉ new) := by
        simp only [List.mem_filter, decide_eq_true_eq]
        refine ⟨member, fun stayed => wanted (touch_flatMap.mpr ⟨item, stayed, ?_⟩)⟩
        rw [← stays item member stayed]
        exact touched
      refine applyAll_agreed (touch_flatMap.mpr ⟨item, gone,
        (undone item member).mp touched⟩) fun write isWrite _ => ?_
      rcases List.mem_flatMap.mp isWrite with ⟨found, isFound, written⟩
      exact empties found (List.mem_filter.mp isFound).1 write written
    · by_cases isUndone : Touch ((old.filter (· ∉ new)).flatMap undo) key
      · refine applyAll_agreed isUndone fun write isWrite _ => ?_
        rcases List.mem_flatMap.mp isWrite with ⟨found, isFound, written⟩
        exact empties found (List.mem_filter.mp isFound).1 write written
      · rw [applyAll_untouched isUndone, applyAll_untouched had, empty]

/-! ## Updating round by round -/

theorem exists_last {holds : Nat → Prop} {count : Nat} (found : ∃ index < count, holds index) :
    ∃ last < count, holds last ∧ ∀ index, last < index → index < count → ¬ holds index := by
  induction count with
  | zero => rcases found with ⟨_, inside, _⟩; omega
  | succ count induction =>
      by_cases atLast : holds count
      · exact ⟨count, by omega, atLast, fun index after before => by omega⟩
      · have earlier : ∃ index < count, holds index := by
          rcases found with ⟨index, inside, isFound⟩
          have different : index ≠ count := fun same => atLast (same ▸ isFound)
          exact ⟨index, by omega, isFound⟩
        rcases induction earlier with ⟨last, inside, isLast, later⟩
        refine ⟨last, by omega, isLast, fun index after before => ?_⟩
        by_cases same : index = count
        · rw [same]
          exact atLast
        · exact later index after (by omega)

theorem applyAll_rounds_congr {before after : Nat → List (Write κ ν)} {count : Nat}
    (same : ∀ index < count, ∀ store : κ → Option ν,
      applyAll store (before index) key = applyAll store (after index) key) :
    applyAll store ((List.range count).flatMap before) key =
      applyAll store ((List.range count).flatMap after) key := by
  induction count with
  | zero => rfl
  | succ count induction =>
      simp only [List.range_succ, List.flatMap_append, List.flatMap_singleton,
        applyAll_append]
      rw [same count (by omega)]
      exact applyAll_congr (induction fun index inside => same index (by omega))

/-- What was written in some rounds is turned into what would be written in others:
the rounds that change are undone and done again, one after the other. The last round
that would write to the key has to be among them, and nothing may be undone after it.
-/
theorem applyAll_rounds_updated {before undo after : Nat → List (Write κ ν)}
    {changed : Nat → Prop} [DecidablePred changed] {count : Nat}
    (kept : ∀ index < count, ¬ changed index → before index = after index)
    (empties : ∀ index < count, ∀ write ∈ undo index, write.value = none)
    (undone : ∀ index < count, changed index → Touch (before index) key →
      Touch (undo index) key ∨ Touch (after index) key)
    (order : ∀ index < count, changed index → Touch (undo index ++ after index) key →
      ∀ wanted < count, Touch (after wanted) key →
        ∃ last < count, index ≤ last ∧ wanted ≤ last ∧ changed last ∧
          Touch (after last) key)
    (empty : store key = none) :
    applyAll (applyAll store ((List.range count).flatMap before))
      ((List.range count).flatMap fun index =>
        if changed index then undo index ++ after index else []) key =
      applyAll store ((List.range count).flatMap after) key := by
  have changes : ∀ index, Touch (if changed index then undo index ++ after index else [])
      key ↔ changed index ∧ Touch (undo index ++ after index) key := by
    intro index
    split
    · next isChanged => simp only [isChanged, true_and]
    · next isKept => simp [isKept, Touch]
  by_cases some : ∃ index < count, changed index ∧ Touch (undo index ++ after index) key
  · rcases exists_last some with ⟨change, isChange, ⟨isChanged, touched⟩, noChange⟩
    by_cases wanted : ∃ index < count, Touch (after index) key
    · rcases exists_last wanted with ⟨last, isLast, lastTouched, noLater⟩
      rcases order change isChange isChanged touched last isLast lastTouched with
        ⟨found, inside, afterChange, afterLast, foundChanged, foundTouched⟩
      have isChangeToo : found = change := by
        by_contra different
        exact noChange found (by omega) inside
          ⟨foundChanged, touch_append.mpr (Or.inr foundTouched)⟩
      have isLastToo : found = last := by
        by_contra different
        exact noLater found (by omega) inside foundTouched
      rw [applyAll_rounds_last inside, if_pos foundChanged,
        applyAll_rounds_last inside, applyAll_append]
      · exact applyAll_of_touch foundTouched
      · rw [isLastToo]
        exact noLater
      · intro index later before isTouched
        exact noChange index (by omega) before ((changes index).mp isTouched)
    · have untouched : ¬ Touch ((List.range count).flatMap after) key :=
        fun isTouched => wanted (touch_rounds.mp isTouched)
      rw [applyAll_untouched untouched, empty]
      refine applyAll_agreed (touch_rounds.mpr ⟨change, isChange,
        (changes change).mpr ⟨isChanged, touched⟩⟩) fun write isWrite isKey => ?_
      rcases List.mem_flatMap.mp isWrite with ⟨index, inside, written⟩
      rw [List.mem_range] at inside
      split at written
      · rcases List.mem_append.mp written with isUndone | isDone
        · exact empties index inside write isUndone
        · exact absurd ⟨index, inside, write, isDone, isKey⟩ wanted
      · cases written
  · have unchanged : ¬ Touch ((List.range count).flatMap fun index =>
        if changed index then undo index ++ after index else []) key := by
      intro isTouched
      rcases touch_rounds.mp isTouched with ⟨index, inside, isTouched⟩
      exact some ⟨index, inside, (changes index).mp isTouched⟩
    rw [applyAll_untouched unchanged]
    refine applyAll_rounds_congr fun index inside other => ?_
    by_cases isChanged : changed index
    · have notDone : ¬ Touch (undo index ++ after index) key :=
        fun isTouched => some ⟨index, inside, isChanged, isTouched⟩
      rw [touch_append] at notDone
      rw [applyAll_untouched fun isTouched =>
          notDone (undone index inside isChanged isTouched),
        applyAll_untouched fun isTouched => notDone (Or.inr isTouched)]
    · rw [kept index inside isChanged]

end Write

end Dragonflow
