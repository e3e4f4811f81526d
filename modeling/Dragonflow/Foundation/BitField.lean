import Mathlib.Data.Nat.Bitwise
import Mathlib.Data.List.Pairwise

/-! # Bit fields

Runs of bits of a number that hold values next to each other.
-/

namespace Dragonflow

structure BitField where
  offset : Nat
  length : Nat
  deriving DecidableEq, Repr

namespace BitField

variable {field other : BitField} {index value number covered : Nat}

def mask (field : BitField) : Nat := (2 ^ field.length - 1) <<< field.offset

/-- The bit belongs to the field. -/
def Has (field : BitField) (index : Nat) : Prop :=
  field.offset ≤ index ∧ index < field.offset + field.length

instance (field : BitField) (index : Nat) : Decidable (field.Has index) :=
  inferInstanceAs (Decidable (_ ∧ _))

def Apart (field other : BitField) : Prop :=
  ∀ index, field.Has index → ¬ other.Has index

theorem Apart.symm (apart : Apart field other) : Apart other field :=
  fun index has hasOther => apart index hasOther has

theorem apart_of_le (below : field.offset + field.length ≤ other.offset) :
    Apart field other := by
  intro index has hasOther
  have end_ := has.2
  have start := hasOther.1
  omega

theorem testBit_mask : field.mask.testBit index = decide (field.Has index) := by
  unfold mask Has
  rw [Nat.testBit_shiftLeft, Nat.testBit_two_pow_sub_one]
  by_cases after : field.offset ≤ index
  · simp only [ge_iff_le, after, decide_true, true_and, Bool.true_and]
    exact decide_eq_decide.mpr (by omega)
  · simp [after]

theorem mask_and_mask (apart : Apart field other) : field.mask &&& other.mask = 0 := by
  apply Nat.eq_of_testBit_eq
  intro index
  rw [Nat.testBit_and, testBit_mask, testBit_mask, Nat.zero_testBit]
  by_cases has : field.Has index
  · simp [apart index has]
  · simp [has]

theorem mask_ne_zero (isPositive : 1 ≤ field.length) : field.mask ≠ 0 := by
  intro isZero
  have first : field.mask.testBit field.offset = true := by
    rw [testBit_mask, decide_eq_true_eq]
    exact ⟨Nat.le_refl _, by omega⟩
  rw [isZero, Nat.zero_testBit] at first
  cases first

/-- A mask tells the bits of its field. -/
theorem eq_of_mask (sameOffset : field.offset = other.offset)
    (sameMask : field.mask = other.mask) : field = other := by
  have sameBits : ∀ index, field.Has index ↔ other.Has index := by
    intro index
    rw [← decide_eq_decide, ← testBit_mask, ← testBit_mask, sameMask]
  have atEnd := sameBits (field.offset + field.length)
  have atOtherEnd := sameBits (other.offset + other.length)
  unfold Has at atEnd atOtherEnd
  rcases field with ⟨offset, length⟩
  rcases other with ⟨otherOffset, otherLength⟩
  simp only at sameOffset atEnd atOtherEnd
  rw [BitField.mk.injEq]
  omega

/-- Shifting an all-ones number to the right and back leaves the mask of a field. -/
theorem shifted_mask {width : Nat} (fits : field.length ≤ width) :
    ((2 ^ width - 1) >>> (width - field.length)) <<< field.offset = field.mask := by
  apply Nat.eq_of_testBit_eq
  intro index
  rw [Nat.testBit_shiftLeft, Nat.testBit_shiftRight, Nat.testBit_two_pow_sub_one, mask,
    Nat.testBit_shiftLeft, Nat.testBit_two_pow_sub_one]
  congr 1
  exact decide_eq_decide.mpr (by omega)

/-! ## Values -/

def place (field : BitField) (value : Nat) : Nat := value <<< field.offset

theorem testBit_place : (field.place value).testBit index =
    (decide (field.offset ≤ index) && value.testBit (index - field.offset)) := by
  rw [place, Nat.testBit_shiftLeft]

theorem has_of_testBit_place (inRange : value < 2 ^ field.length)
    (isSet : (field.place value).testBit index = true) : field.Has index := by
  rw [testBit_place, Bool.and_eq_true, decide_eq_true_eq] at isSet
  refine ⟨isSet.1, ?_⟩
  by_contra beyond
  have outside : value < 2 ^ (index - field.offset) :=
    Nat.lt_of_lt_of_le inRange (Nat.pow_le_pow_right (by omega) (by omega))
  rw [Nat.testBit_lt_two_pow outside] at isSet
  cases isSet.2

/-- A value is in the range of a field when the mask loses none of its bits. -/
theorem place_and_mask_iff :
    field.place value &&& field.mask = field.place value ↔ value < 2 ^ field.length := by
  constructor
  · intro same
    apply Nat.lt_pow_two_of_testBit
    intro index beyond
    have bit := congrArg (fun number => number.testBit (field.offset + index)) same
    have outside : ¬ field.Has (field.offset + index) := by
      rintro ⟨_, inside⟩
      omega
    simp only [Nat.testBit_and, testBit_mask, outside, decide_false, Bool.and_false,
      testBit_place, Nat.le_add_right, decide_true, Bool.true_and,
      Nat.add_sub_cancel_left] at bit
    exact bit.symm
  · intro inRange
    apply Nat.eq_of_testBit_eq
    intro index
    rw [Nat.testBit_and, testBit_mask]
    by_cases isSet : (field.place value).testBit index = true
    · simp [isSet, has_of_testBit_place inRange isSet]
    · simp [Bool.eq_false_of_not_eq_true isSet]

/-- Read the value of a field. -/
def extract (field : BitField) (number : Nat) : Nat :=
  (number &&& field.mask) >>> field.offset

theorem extract_eq (inRange : value < 2 ^ field.length)
    (agrees : ∀ index, field.Has index →
      number.testBit index = (field.place value).testBit index) :
    field.extract number = value := by
  apply Nat.eq_of_testBit_eq
  intro index
  rw [extract, Nat.testBit_shiftRight, Nat.testBit_and, testBit_mask]
  by_cases inside : field.Has (field.offset + index)
  · rw [agrees _ inside, testBit_place]
    simp [inside]
  · have outside : value < 2 ^ index :=
      Nat.lt_of_lt_of_le inRange (Nat.pow_le_pow_right (by omega) (by
        unfold Has at inside
        omega))
    simp [inside, Nat.testBit_lt_two_pow outside]

theorem extract_lt : field.extract number < 2 ^ field.length := by
  apply Nat.lt_pow_two_of_testBit
  intro index beyond
  rw [extract, Nat.testBit_shiftRight, Nat.testBit_and, testBit_mask]
  have isOutside : ¬ field.Has (field.offset + index) := by
    intro has
    have inside := has.2
    omega
  simp [isOutside]

/-- Write the value of a field and leave the other bits. -/
def overwrite (field : BitField) (number value : Nat) : Nat :=
  field.place value ||| number.ldiff field.mask

theorem testBit_overwrite (inRange : value < 2 ^ field.length) :
    (field.overwrite number value).testBit index =
      if field.Has index then (field.place value).testBit index
      else number.testBit index := by
  rw [overwrite, Nat.testBit_or, Nat.testBit_ldiff, testBit_mask]
  split
  · next has => simp [has]
  · next hasNot =>
      have isClear : (field.place value).testBit index = false := by
        apply Bool.eq_false_of_not_eq_true
        intro isSet
        exact hasNot (has_of_testBit_place inRange isSet)
      simp [hasNot, isClear]

theorem extract_overwrite (inRange : value < 2 ^ field.length) :
    field.extract (field.overwrite number value) = value := by
  apply extract_eq inRange
  intro index has
  rw [testBit_overwrite inRange, if_pos has]

theorem extract_of_lt {length : Nat} (fits : number < 2 ^ length) :
    extract ⟨0, length⟩ number = number := by
  apply extract_eq fits
  intro index _
  simp [place]

/-- A number that fits into the field is replaced as a whole. -/
theorem overwrite_of_lt {length : Nat} (fits : number < 2 ^ length)
    (inRange : value < 2 ^ length) : overwrite ⟨0, length⟩ number value = value := by
  apply Nat.eq_of_testBit_eq
  intro index
  rw [testBit_overwrite inRange]
  split
  · simp [place]
  · next hasNot =>
      have beyond : length ≤ index := by
        simp only [Has] at hasNot
        omega
      have bound : 2 ^ length ≤ 2 ^ index := Nat.pow_le_pow_right (by omega) beyond
      rw [Nat.testBit_lt_two_pow (Nat.lt_of_lt_of_le fits bound),
        Nat.testBit_lt_two_pow (Nat.lt_of_lt_of_le inRange bound)]

/-! ## Several fields -/

/-- The number holds the values of some fields and nothing else, and the bits of the
fields are those that are covered. -/
structure Holds (items : List (BitField × Nat)) (number covered : Nat) : Prop where
  number : ∀ index, number.testBit index = true ↔
    ∃ item ∈ items, (item.1.place item.2).testBit index = true
  covered : ∀ index, covered.testBit index = true ↔ ∃ item ∈ items, item.1.Has index

variable {items others : List (BitField × Nat)} {otherNumber otherCovered : Nat}

theorem holds_nil : Holds [] 0 0 where
  number index := by simp
  covered index := by simp

/-- The order of the items does not matter. -/
theorem Holds.unique (holds : Holds items number covered)
    (otherHolds : Holds others otherNumber otherCovered)
    (same : ∀ item, item ∈ items ↔ item ∈ others) :
    number = otherNumber ∧ covered = otherCovered := by
  constructor
  · apply Nat.eq_of_testBit_eq
    intro index
    rw [Bool.eq_iff_iff, holds.number, otherHolds.number]
    simp only [same]
  · apply Nat.eq_of_testBit_eq
    intro index
    rw [Bool.eq_iff_iff, holds.covered, otherHolds.covered]
    simp only [same]

theorem Holds.cons (holds : Holds items number covered)
    (apart : ∀ item ∈ items, Apart item.1 field)
    (inRanges : ∀ item ∈ items, item.2 < 2 ^ item.1.length) :
    Holds ((field, value) :: items) (field.place value ||| number.ldiff field.mask)
      (field.mask ||| covered) where
  number index := by
    have kept : (number.ldiff field.mask).testBit index = number.testBit index := by
      rw [Nat.testBit_ldiff, testBit_mask]
      by_cases isSet : number.testBit index = true
      · rcases (holds.number index).mp isSet with ⟨item, member, bit⟩
        have outside := apart item member index
          (has_of_testBit_place (inRanges item member) bit)
        simp [isSet, outside]
      · simp [Bool.eq_false_of_not_eq_true isSet]
    rw [Nat.testBit_or, kept, Bool.or_eq_true, holds.number]
    simp only [List.mem_cons, exists_eq_or_imp]
  covered index := by
    rw [Nat.testBit_or, testBit_mask, Bool.or_eq_true, holds.covered, decide_eq_true_eq]
    simp only [List.mem_cons, exists_eq_or_imp]

theorem Holds.extract (holds : Holds items number covered)
    (inRanges : ∀ item ∈ items, item.2 < 2 ^ item.1.length)
    (member : (field, value) ∈ items)
    (apart : ∀ item ∈ items, item ≠ (field, value) → Apart item.1 field) :
    field.extract number = value := by
  refine extract_eq (inRanges (field, value) member) fun index inside => ?_
  rw [Bool.eq_iff_iff, holds.number]
  constructor
  · rintro ⟨item, isItem, bit⟩
    by_cases same : item = (field, value)
    · rw [same] at bit
      exact bit
    · exact absurd inside (apart item isItem same index
        (has_of_testBit_place (inRanges item isItem) bit))
  · exact fun bit => ⟨(field, value), member, bit⟩

/-- A field is covered as a whole, or not at all. -/
theorem Holds.covered_of_mem (holds : Holds items number covered) (member : (field, value) ∈ items) :
    covered &&& field.mask = field.mask := by
  apply Nat.eq_of_testBit_eq
  intro index
  rw [Nat.testBit_and, testBit_mask]
  by_cases inside : field.Has index
  · simp [inside, (holds.covered index).mpr ⟨(field, value), member, inside⟩]
  · simp [inside]

theorem Holds.covered_of_apart (holds : Holds items number covered)
    (apart : ∀ item ∈ items, Apart item.1 field) : covered &&& field.mask = 0 := by
  apply Nat.eq_of_testBit_eq
  intro index
  rw [Nat.testBit_and, testBit_mask, Nat.zero_testBit]
  by_cases isSet : covered.testBit index = true
  · rcases (holds.covered index).mp isSet with ⟨item, member, inside⟩
    simp [isSet, apart item member index inside]
  · simp [Bool.eq_false_of_not_eq_true isSet]

end BitField

end Dragonflow
