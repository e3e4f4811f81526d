import Dragonflow.Foundation.FlowTable
import Mathlib.Data.Option.Basic
import Mathlib.Data.Set.Insert

/-! # Flow tables as sets of flows

What a switch has after a message, flow by flow, and after several messages of
one kind.
-/

namespace Dragonflow

structure Flow (μ α : Type) where
  table : Nat
  priority : Nat
  pattern : μ
  entry : FlowEntry α
  deriving DecidableEq

/-- A table, a priority and a pattern. -/
abbrev Place (μ : Type) := Nat × Nat × μ

variable {μ α : Type} [DecidableEq μ] [Pattern μ]

namespace Flow

def place (flow : Flow μ α) : Place μ := (flow.table, flow.priority, flow.pattern)

omit [DecidableEq μ] [Pattern μ] in
theorem ext_place {flow other : Flow μ α} (samePlace : flow.place = other.place)
    (sameEntry : flow.entry = other.entry) : flow = other := by
  cases flow
  cases other
  cases samePlace
  cases sameEntry
  rfl

end Flow

namespace FlowMod

def place (message : FlowMod μ α) : Place μ :=
  (message.table, message.priority, message.pattern)

/-- The flow that adding leaves behind. -/
def flow (message : FlowMod μ α) : Flow μ α :=
  ⟨message.table, message.priority, message.pattern,
    ⟨message.cookie, message.instructions⟩⟩

/-- The message is about the place of the flow. -/
def Places (message : FlowMod μ α) (flow : Flow μ α) : Prop :=
  message.identifies flow.table flow.priority flow.pattern

end FlowMod

namespace FlowTable

variable {flows : FlowTable μ α} {message : FlowMod μ α} {flow : Flow μ α}

def Has (flows : FlowTable μ α) (flow : Flow μ α) : Prop :=
  flows flow.table flow.priority flow.pattern = some flow.entry

instance [DecidableEq α] : Decidable (flows.Has flow) :=
  inferInstanceAs (Decidable (_ = _))

omit [DecidableEq μ] [Pattern μ] in
theorem not_has_empty : ¬ (empty : FlowTable μ α).Has flow :=
  fun impossible => by cases impossible

theorem has_apply_add (isAdd : message.command = .add) :
    (flows.apply message).Has flow ↔
      flow = message.flow ∨ (flows.Has flow ∧ ¬ message.Places flow) := by
  unfold Has
  rw [apply_add isAdd]
  split
  · next same =>
      have same : message.Places flow := same
      rcases flow with ⟨table, priority, pattern, entry⟩
      rcases same with ⟨rfl, rfl, rfl⟩
      simp [FlowMod.flow, FlowMod.Places, FlowMod.identifies, eq_comm]
  · next different =>
      have notSelf : flow ≠ message.flow := by
        rintro rfl
        exact different ⟨rfl, rfl, rfl⟩
      simp [notSelf, FlowMod.Places, different]

/-- Deleting whatever the cookie is. -/
theorem has_apply_delete (isDelete : message.command = .delete)
    (anyCookie : message.cookieMask = 0) :
    (flows.apply message).Has flow ↔ flows.Has flow ∧
      ¬ (flow.table = message.table ∧ Pattern.covers message.pattern flow.pattern) := by
  unfold Has
  rw [apply_delete isDelete, Option.filter_eq_some_iff]
  refine and_congr_right fun _ => ?_
  by_cases same : flow.table = message.table
  · simp [FlowMod.selects, anyCookie, same]
  · simp [FlowMod.selects, same]

theorem has_apply_deleteStrict (isDelete : message.command = .deleteStrict)
    (anyCookie : message.cookieMask = 0)
    (covered : Pattern.covers message.pattern message.pattern = true) :
    (flows.apply message).Has flow ↔ flows.Has flow ∧ ¬ message.Places flow := by
  unfold Has apply
  rw [isDelete]
  simp only
  rw [Option.filter_eq_some_iff]
  refine and_congr_right fun _ => ?_
  by_cases same : flow.pattern = message.pattern
  · simp only [FlowMod.selects, FlowMod.Places, FlowMod.identifies, anyCookie, same,
      covered]
    by_cases table : flow.table = message.table
    · simp [table]
    · simp [table]
  · simp [FlowMod.Places, FlowMod.identifies, same]

/-! ## Frames -/

omit [DecidableEq μ] [Pattern μ] in
theorem places_iff : message.Places flow ↔ flow.place = message.place := by
  unfold FlowMod.Places FlowMod.identifies Flow.place FlowMod.place
  rw [Prod.mk.injEq, Prod.mk.injEq]

/-- Outside of a region the flows are the same. -/
def SameOutside (region : Place μ → Prop) (before after : FlowTable μ α) : Prop :=
  ∀ flow, ¬ region flow.place → (after.Has flow ↔ before.Has flow)

instance (region : Place μ → Prop) :
    IsPreorder (FlowTable μ α) (SameOutside region) where
  refl _ _ _ := Iff.rfl
  trans _ _ _ first second flow outside := (second flow outside).trans (first flow outside)

theorem sameOutside_add {region : Place μ → Prop} (isAdd : message.command = .add)
    (inside : region message.place) : SameOutside region flows (flows.apply message) := by
  intro flow outside
  have elsewhere : ¬ message.Places flow := by
    rw [places_iff]
    intro same
    exact outside (same ▸ inside)
  rw [has_apply_add isAdd]
  constructor
  · rintro (isAdded | ⟨had, -⟩)
    · exact absurd (places_iff.mpr (congrArg Flow.place isAdded)) elsewhere
    · exact had
  · exact fun had => Or.inr ⟨had, elsewhere⟩

theorem sameOutside_deleteStrict {region : Place μ → Prop}
    (isDelete : message.command = .deleteStrict) (anyCookie : message.cookieMask = 0)
    (covered : Pattern.covers message.pattern message.pattern = true)
    (inside : region message.place) : SameOutside region flows (flows.apply message) := by
  intro flow outside
  have elsewhere : ¬ message.Places flow := by
    rw [places_iff]
    intro same
    exact outside (same ▸ inside)
  rw [has_apply_deleteStrict isDelete anyCookie covered]
  exact and_iff_left elsewhere

/-! ## Several messages -/

def applyAll (flows : FlowTable μ α) (messages : List (FlowMod μ α)) : FlowTable μ α :=
  messages.foldl apply flows

@[simp] theorem applyAll_nil : flows.applyAll [] = flows := rfl

@[simp] theorem applyAll_cons (messages : List (FlowMod μ α)) :
    flows.applyAll (message :: messages) = (flows.apply message).applyAll messages := rfl

theorem applyAll_append (first second : List (FlowMod μ α)) :
    flows.applyAll (first ++ second) = (flows.applyAll first).applyAll second :=
  List.foldl_append

/-- Adding flows of which no two compete for a place. -/
theorem has_applyAll_add (messages : List (FlowMod μ α))
    (areAdds : ∀ message ∈ messages, message.command = .add)
    (agree : ∀ message ∈ messages, ∀ other ∈ messages,
      message.Places other.flow → other.flow = message.flow) :
    (flows.applyAll messages).Has flow ↔
      (∃ message ∈ messages, flow = message.flow) ∨
        (flows.Has flow ∧ ∀ message ∈ messages, ¬ message.Places flow) := by
  induction messages generalizing flows with
  | nil => simp
  | cons first messages induction =>
      rw [applyAll_cons, induction
        (fun message member => areAdds message (List.mem_cons_of_mem _ member))
        (fun message member other isOther => agree message (List.mem_cons_of_mem _ member)
          other (List.mem_cons_of_mem _ isOther)),
        has_apply_add (areAdds first List.mem_cons_self)]
      simp only [List.mem_cons, forall_eq_or_imp, exists_eq_or_imp]
      constructor
      · rintro (found | ⟨same | ⟨had, notFirst⟩, others⟩)
        · exact Or.inl (Or.inr found)
        · exact Or.inl (Or.inl same)
        · exact Or.inr ⟨had, notFirst, others⟩
      · rintro ((same | found) | ⟨had, notFirst, others⟩)
        · by_cases again : ∃ message ∈ messages, message.Places flow
          · rcases again with ⟨message, member, places⟩
            refine Or.inl ⟨message, member, ?_⟩
            rw [same] at places ⊢
            exact agree message (List.mem_cons_of_mem _ member) first List.mem_cons_self
              places
          · refine Or.inr ⟨Or.inl same, fun message member places => ?_⟩
            exact again ⟨message, member, places⟩
        · exact Or.inl found
        · exact Or.inr ⟨Or.inr ⟨had, notFirst⟩, others⟩

theorem has_applyAll_deleteStrict (messages : List (FlowMod μ α))
    (areDeletes : ∀ message ∈ messages, message.command = .deleteStrict ∧
      message.cookieMask = 0 ∧ Pattern.covers message.pattern message.pattern = true) :
    (flows.applyAll messages).Has flow ↔
      flows.Has flow ∧ ∀ message ∈ messages, ¬ message.Places flow := by
  induction messages generalizing flows with
  | nil => simp
  | cons first messages induction =>
      rcases areDeletes first List.mem_cons_self with ⟨isDelete, anyCookie, covered⟩
      rw [applyAll_cons, induction
        (fun message member => areDeletes message (List.mem_cons_of_mem _ member)),
        has_apply_deleteStrict isDelete anyCookie covered]
      simp only [List.mem_cons, forall_eq_or_imp, and_assoc]

/-- Messages that add leave an entry at each of their places. -/
theorem applyAll_add_isSome (messages : List (FlowMod μ α)) (place : Place μ)
    (areAdds : ∀ message ∈ messages, message.command = .add)
    (present : (∃ message ∈ messages, message.place = place) ∨
      (flows place.1 place.2.1 place.2.2).isSome = true) :
    (flows.applyAll messages place.1 place.2.1 place.2.2).isSome = true := by
  induction messages generalizing flows with
  | nil =>
      rcases present with ⟨message, member, _⟩ | there
      · cases member
      · exact there
  | cons first messages induction =>
      rw [applyAll_cons]
      apply induction fun message member => areAdds message (List.mem_cons_of_mem _ member)
      rw [apply_add (areAdds first List.mem_cons_self)]
      by_cases isFirst : first.identifies place.1 place.2.1 place.2.2
      · rw [if_pos isFirst]
        exact Or.inr rfl
      · rw [if_neg isFirst]
        rcases present with ⟨message, member, isPlace⟩ | there
        · rcases List.mem_cons.mp member with same | later
          · subst same
            exact absurd (isPlace ▸ ⟨rfl, rfl, rfl⟩) isFirst
          · exact Or.inl ⟨message, later, isPlace⟩
        · exact Or.inr there

/-! ## Deletes -/

/-- The place is one that a delete is about, whatever the cookies are. -/
def clears (message : FlowMod μ α) (place : Place μ) : Prop :=
  place.1 = message.table ∧ Pattern.covers message.pattern place.2.2 = true ∧
    (message.command = .deleteStrict → place = message.place)

instance (message : FlowMod μ α) (place : Place μ) : Decidable (clears message place) :=
  inferInstanceAs (Decidable (_ ∧ _ ∧ _))

def IsDelete (message : FlowMod μ α) : Prop :=
  (message.command = .delete ∨ message.command = .deleteStrict) ∧ message.cookieMask = 0

theorem apply_isDelete (isDelete : IsDelete message) (place : Place μ) :
    flows.apply message place.1 place.2.1 place.2.2 =
      if clears message place then none else flows place.1 place.2.1 place.2.2 := by
  have filtered : flows.apply message place.1 place.2.1 place.2.2 =
      (flows place.1 place.2.1 place.2.2).filter fun _ => !decide (clears message place) := by
    rcases isDelete with ⟨isDelete | isStrict, anyCookie⟩
    · simp [apply, isDelete, FlowMod.selects, anyCookie, clears]
    · simp only [apply, isStrict, FlowMod.selects, anyCookie, clears, FlowMod.place,
        Nat.and_zero, decide_true, Bool.and_true]
      congr 1
      funext _
      congr 1
      rw [Bool.eq_iff_iff]
      simp only [Bool.and_eq_true, decide_eq_true_eq, Prod.ext_iff, true_imp_iff]
      constructor
      · intro both
        exact ⟨both.2.1, both.2.2, both.2.1, both.1⟩
      · intro all
        exact ⟨all.2.2.2, all.1, all.2.1⟩
  rw [filtered]
  by_cases cleared : clears message place
  · rw [if_pos cleared, decide_eq_true cleared]
    cases flows place.1 place.2.1 place.2.2 <;> rfl
  · rw [if_neg cleared, decide_eq_false cleared]
    cases flows place.1 place.2.1 place.2.2 <;> rfl

/-- What deletes leave of a place. -/
theorem applyAll_isDelete (messages : List (FlowMod μ α)) (place : Place μ)
    (areDeletes : ∀ message ∈ messages, IsDelete message) :
    flows.applyAll messages place.1 place.2.1 place.2.2 =
      if ∃ message ∈ messages, clears message place then none
      else flows place.1 place.2.1 place.2.2 := by
  induction messages generalizing flows with
  | nil => simp
  | cons first messages induction =>
      rw [applyAll_cons, induction fun message member =>
        areDeletes message (List.mem_cons_of_mem _ member),
        apply_isDelete (areDeletes first List.mem_cons_self)]
      by_cases later : ∃ message ∈ messages, clears message place
      · rcases later with ⟨message, member, cleared⟩
        rw [if_pos ⟨message, member, cleared⟩,
          if_pos ⟨message, List.mem_cons_of_mem _ member, cleared⟩]
      · rw [if_neg later]
        by_cases isFirst : clears first place
        · rw [if_pos isFirst, if_pos ⟨first, List.mem_cons_self, isFirst⟩]
        · rw [if_neg isFirst, if_neg]
          intro some
          rcases some with ⟨message, member, cleared⟩
          rcases List.mem_cons.mp member with same | isLater
          · exact isFirst (same ▸ cleared)
          · exact later ⟨message, isLater, cleared⟩

/-! ## Places with a fixed entry

Where a place holds the same entry whenever it is taken, a table is a set of
places. -/

/-- In the region, the flows are those of the places. -/
def Lodges (flows : FlowTable μ α) (region : Place μ → Prop)
    (entryAt : Place μ → FlowEntry α) (places : Set (Place μ)) : Prop :=
  ∀ flow, region flow.place →
    (flows.Has flow ↔ flow.place ∈ places ∧ flow.entry = entryAt flow.place)

variable {region : Place μ → Prop} {entryAt : Place μ → FlowEntry α}
  {places : Set (Place μ)}

theorem Lodges.add (lodges : flows.Lodges region entryAt places)
    (isAdd : message.command = .add)
    (fixed : message.flow.entry = entryAt message.place) :
    (flows.apply message).Lodges region entryAt (insert message.place places) := by
  intro flow inside
  rw [has_apply_add isAdd, lodges flow inside, places_iff, Set.mem_insert_iff]
  constructor
  · rintro (rfl | ⟨⟨member, entry⟩, _⟩)
    · exact ⟨Or.inl rfl, fixed⟩
    · exact ⟨Or.inr member, entry⟩
  · rintro ⟨same | member, entry⟩
    · refine Or.inl (Flow.ext_place same ?_)
      rw [entry, same, fixed]
    · by_cases same : flow.place = message.place
      · refine Or.inl (Flow.ext_place same ?_)
        rw [entry, same, fixed]
      · exact Or.inr ⟨⟨member, entry⟩, same⟩

theorem Lodges.deleteStrict (lodges : flows.Lodges region entryAt places)
    (isDelete : message.command = .deleteStrict) (anyCookie : message.cookieMask = 0)
    (covered : Pattern.covers message.pattern message.pattern = true) :
    (flows.apply message).Lodges region entryAt (places \ {message.place}) := by
  intro flow inside
  rw [has_apply_deleteStrict isDelete anyCookie covered, lodges flow inside, places_iff,
    Set.mem_sdiff, Set.mem_singleton_iff, and_right_comm]

end FlowTable

end Dragonflow
