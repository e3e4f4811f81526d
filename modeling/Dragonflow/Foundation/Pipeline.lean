import Dragonflow.Foundation.Lookup
import Mathlib.Algebra.Ring.Nat

/-! # Packets in a pipeline that learns

A packet is what its fields hold. A table applies the actions of a flow to it, which can
move and load slices of the fields, write a flow of their own from what the fields hold at
that point, and submit the packet to a further table.
-/

namespace Dragonflow

/-- Some bits of a field. -/
structure Slice (φ : Type) where
  field : φ
  offset : Nat
  bits : Nat
  deriving DecidableEq, Repr

/-- A slice and what it has to hold. -/
structure Pin (φ : Type) where
  slice : Slice φ
  value : Nat
  deriving DecidableEq, Repr

abbrev Headers {φ : Type} (width : φ → Nat) := ∀ field, BitVec (width field)

namespace Headers

variable {φ : Type} [DecidableEq φ] {width : φ → Nat} (headers : Headers width)

def read (slice : Slice φ) : Nat :=
  (headers slice.field).toNat / 2 ^ slice.offset % 2 ^ slice.bits

/-- The bits of the slice are replaced, and those below and above it are kept. -/
def write (slice : Slice φ) (value : Nat) : Headers width :=
  let old := (headers slice.field).toNat
  let above := 2 ^ (slice.offset + slice.bits)
  Function.update headers slice.field
    (BitVec.ofNat _ (old % 2 ^ slice.offset + value % 2 ^ slice.bits * 2 ^ slice.offset +
      old / above * above))

def Meets (pins : List (Pin φ)) : Prop := ∀ pin ∈ pins, headers.read pin.slice = pin.value

omit [DecidableEq φ] in
theorem read_field (field : φ) :
    headers.read ⟨field, 0, width field⟩ = (headers field).toNat := by
  unfold read
  rw [pow_zero, Nat.div_one, Nat.mod_eq_of_lt (headers field).isLt]

variable {headers} in
omit [DecidableEq φ] in
theorem meets_cons {pin : Pin φ} {pins : List (Pin φ)} :
    headers.Meets (pin :: pins) ↔ headers.read pin.slice = pin.value ∧ headers.Meets pins :=
  List.forall_mem_cons

variable {headers} in
omit [DecidableEq φ] in
theorem meets_nil : headers.Meets [] := fun _ member => by cases member

theorem write_other {slice : Slice φ} {value : Nat} {field : φ}
    (different : field ≠ slice.field) : headers.write slice value field = headers field :=
  Function.update_of_ne different _ _

theorem toNat_write (slice : Slice φ) (value : Nat) :
    (headers.write slice value slice.field).toNat =
      ((headers slice.field).toNat % 2 ^ slice.offset +
        value % 2 ^ slice.bits * 2 ^ slice.offset +
        (headers slice.field).toNat / 2 ^ (slice.offset + slice.bits) *
          2 ^ (slice.offset + slice.bits)) % 2 ^ width slice.field := by
  unfold write
  rw [Function.update_self, BitVec.toNat_ofNat]

/-- Writing a whole field. -/
theorem toNat_write_field {field : φ} {value : Nat} (inRange : value < 2 ^ width field) :
    (headers.write ⟨field, 0, width field⟩ value field).toNat = value := by
  have isWritten := headers.toNat_write ⟨field, 0, width field⟩ value
  have small : (headers field).toNat / 2 ^ width field = 0 :=
    Nat.div_eq_of_lt (headers field).isLt
  simp only [Nat.zero_add, pow_zero, Nat.mod_one, Nat.mul_one, small, Nat.zero_mul,
    Nat.add_zero, Nat.mod_eq_of_lt inRange] at isWritten
  exact isWritten

end Headers

/-! ## Actions -/

/-- What a learned flow takes a value from. -/
inductive LearnSource (φ : Type)
  | immediate (value : Nat)
  | slice (field : φ) (offset : Nat)
  deriving DecidableEq, Repr

/-- `NXFlowSpecMatch` and `NXFlowSpecLoad` -/
inductive FlowSpec (φ : Type)
  | specMatch (src : LearnSource φ) (dst : φ) (offset bits : Nat)
  | specLoad (src : LearnSource φ) (dst : φ) (offset bits : Nat)
  deriving DecidableEq, Repr

structure Learn (φ : Type) where
  table : Nat
  priority : Nat
  specs : List (FlowSpec φ)

inductive NxAction (φ : Type)
  | regMove (srcField dstField : φ) (bits : Nat)
  | regLoad (dst : Slice φ) (value : Nat)
  | learn (action : Learn φ)
  | output (port : Nat)
  /-- Also an instruction to go to a table, which stands after the actions. -/
  | resubmitTable (table : Nat)

/-- A pattern with the pins of another one is at least as specific. -/
instance {φ : Type} [DecidableEq φ] : Pattern (List (Pin φ)) where
  covers general specific := general.all fun pin => pin ∈ specific

abbrev NxFlows (φ : Type) := FlowTable (List (Pin φ)) (NxAction φ)

section Learning

variable {φ : Type} [DecidableEq φ] {width : φ → Nat}

def LearnSource.value (headers : Headers width) (bits : Nat) : LearnSource φ → Nat
  | .immediate value => value
  | .slice field offset => headers.read ⟨field, offset, bits⟩

def FlowSpec.pin (headers : Headers width) : FlowSpec φ → Option (Pin φ)
  | .specMatch src dst offset bits => some ⟨⟨dst, offset, bits⟩, src.value headers bits⟩
  | .specLoad _ _ _ _ => none

def FlowSpec.action (headers : Headers width) : FlowSpec φ → Option (NxAction φ)
  | .specMatch _ _ _ _ => none
  | .specLoad src dst offset bits => some (.regLoad ⟨dst, offset, bits⟩ (src.value headers bits))

/-- The flow that is learned from a packet replaces one for the same packets. -/
def Learn.message (learn : Learn φ) (headers : Headers width) :
    FlowMod (List (Pin φ)) (NxAction φ) where
  table := learn.table
  priority := learn.priority
  pattern := learn.specs.filterMap (FlowSpec.pin headers)
  instructions := learn.specs.filterMap (FlowSpec.action headers)

end Learning

/-! ## Runs -/

/-- What is still to be done with a packet. -/
inductive Work (φ : Type)
  | enter (table : Nat)
  | act (action : NxAction φ)

structure PacketRun {φ : Type} (width : φ → Nat) where
  headers : Headers width
  flows : NxFlows φ
  pending : List (Work φ)
  outputs : List (Nat × Headers width) := []
  /-- Where the packet was handed to a table that is not modelled -/
  arrivals : List (Nat × Headers width) := []

namespace PacketRun

variable {φ : Type} [DecidableEq φ] {width : φ → Nat}

def perform (run : PacketRun width) (rest : List (Work φ)) : NxAction φ → PacketRun width
  | .regMove srcField dstField bits =>
      { run with
        headers := run.headers.write ⟨dstField, 0, bits⟩
          (run.headers.read ⟨srcField, 0, bits⟩)
        pending := rest }
  | .regLoad dst value =>
      { run with headers := run.headers.write dst value, pending := rest }
  | .learn action =>
      { run with flows := run.flows.apply (action.message run.headers), pending := rest }
  | .output port => { run with outputs := run.outputs ++ [(port, run.headers)], pending := rest }
  | .resubmitTable table => { run with pending := .enter table :: rest }

variable (modelled : Nat → Bool)

inductive Step : PacketRun width → PacketRun width → Prop
  | act {run : PacketRun width} {action : NxAction φ} {rest : List (Work φ)}
      (isNext : run.pending = .act action :: rest) : Step run (run.perform rest action)
  | arrive {run : PacketRun width} {table : Nat} {rest : List (Work φ)}
      (isNext : run.pending = .enter table :: rest) (isForeign : modelled table = false) :
      Step run { run with
        arrivals := run.arrivals ++ [(table, run.headers)], pending := rest }
  | hit {run : PacketRun width} {table : Nat} {rest : List (Work φ)}
      {flow : Flow (List (Pin φ)) (NxAction φ)}
      (isNext : run.pending = .enter table :: rest) (isOwn : modelled table = true)
      (selected : run.flows.Selects run.headers.Meets table flow) :
      Step run { run with pending := flow.entry.instructions.map .act ++ rest }
  | miss {run : PacketRun width} {table : Nat} {rest : List (Work φ)}
      (isNext : run.pending = .enter table :: rest) (isOwn : modelled table = true)
      (unmatched : ∀ flow, run.flows.Has flow → flow.table = table →
        ¬ run.headers.Meets flow.pattern) :
      Step run { run with pending := rest }

/-- The packet is dealt with. -/
inductive Ends : PacketRun width → PacketRun width → Prop
  | done {run : PacketRun width} (isDone : run.pending = []) : Ends run run
  | step {run next final : PacketRun width} (first : Step modelled run next)
      (others : Ends next final) : Ends run final

variable {modelled} {headers : Headers width} {flows : NxFlows φ} {rest : List (Work φ)}
  {outputs arrivals : List (Nat × Headers width)} {final : PacketRun width}

theorem ends_nil {run : PacketRun width} (isDone : run.pending = []) :
    Ends modelled run final ↔ final = run := by
  constructor
  · intro ends
    cases ends with
    | done => rfl
    | step first others =>
        cases first with
        | act isNext => cases isDone.symm.trans isNext
        | arrive isNext => cases isDone.symm.trans isNext
        | hit isNext => cases isDone.symm.trans isNext
        | miss isNext => cases isDone.symm.trans isNext
  · intro same
    rw [same]
    exact .done isDone

/-- With one way to go on, the packet ends where it ends from there. -/
theorem ends_iff {run next : PacketRun width} (goesOn : Step modelled run next)
    (only : ∀ other, Step modelled run other → other = next) :
    Ends modelled run final ↔ Ends modelled next final := by
  constructor
  · intro ends
    cases ends with
    | done isDone =>
        cases goesOn with
        | act isNext => cases isDone.symm.trans isNext
        | arrive isNext => cases isDone.symm.trans isNext
        | hit isNext => cases isDone.symm.trans isNext
        | miss isNext => cases isDone.symm.trans isNext
    | step first others =>
        rw [← only _ first]
        exact others
  · exact .step goesOn

theorem ends_act {run : PacketRun width} {action : NxAction φ}
    (isNext : run.pending = .act action :: rest) :
    Ends modelled run final ↔ Ends modelled (run.perform rest action) final := by
  apply ends_iff (.act isNext)
  intro other step
  cases step with
  | act isOther =>
      cases isNext.symm.trans isOther
      rfl
  | arrive isOther => cases isNext.symm.trans isOther
  | hit isOther => cases isNext.symm.trans isOther
  | miss isOther => cases isNext.symm.trans isOther

theorem ends_arrive {run : PacketRun width} {table : Nat}
    (isNext : run.pending = .enter table :: rest) (isForeign : modelled table = false) :
    Ends modelled run final ↔ Ends modelled { run with
      arrivals := run.arrivals ++ [(table, run.headers)], pending := rest } final := by
  apply ends_iff (.arrive isNext isForeign)
  intro other step
  cases step with
  | act isOther => cases isNext.symm.trans isOther
  | arrive isOther =>
      cases isNext.symm.trans isOther
      rfl
  | hit isOther isOwn =>
      cases isNext.symm.trans isOther
      cases isForeign.symm.trans isOwn
  | miss isOther isOwn =>
      cases isNext.symm.trans isOther
      cases isForeign.symm.trans isOwn

theorem ends_hit {run : PacketRun width} {table : Nat} {instructions : List (NxAction φ)}
    (isNext : run.pending = .enter table :: rest) (isOwn : modelled table = true)
    (executes : run.flows.Executes run.headers.Meets table instructions) :
    Ends modelled run final ↔
      Ends modelled { run with pending := instructions.map .act ++ rest } final := by
  rcases executes.1 with ⟨flow, selected⟩
  have same := executes.2 flow selected
  have goesOn : Step modelled run { run with
      pending := flow.entry.instructions.map .act ++ rest } :=
    .hit isNext isOwn selected
  rw [same] at goesOn
  apply ends_iff goesOn
  intro other step
  cases step with
  | act isOther => cases isNext.symm.trans isOther
  | arrive isOther isForeign =>
      cases isNext.symm.trans isOther
      cases isForeign.symm.trans isOwn
  | hit isOther _ alsoSelected =>
      cases isNext.symm.trans isOther
      rw [executes.2 _ alsoSelected]
  | miss isOther _ unmatched =>
      cases isNext.symm.trans isOther
      exact absurd selected.accepted (unmatched flow selected.present selected.inTable)

end PacketRun

/-! ## What a run leaves of the flows -/

namespace PacketRun

variable {φ : Type} [DecidableEq φ] {width : φ → Nat}

/-- The action learns nothing, and submits the packet to one of the tables only. -/
def Quiet (tables : Nat → Prop) : NxAction φ → Prop
  | .learn _ => False
  | .resubmitTable table => tables table
  | _ => True

def QuietWork (tables : Nat → Prop) : Work φ → Prop
  | .enter table => tables table
  | .act action => Quiet tables action

/-- A packet that only sees tables where nothing is learned leaves the flows alone. -/
theorem Ends.flows_eq {modelled : Nat → Bool} {tables : Nat → Prop} {flows : NxFlows φ}
    (quiet : ∀ flow, flows.Has flow → tables flow.table →
      ∀ action ∈ flow.entry.instructions, Quiet tables action)
    {run final : PacketRun width} (ends : Ends modelled run final)
    (sameFlows : run.flows = flows) (pending : ∀ work ∈ run.pending, QuietWork tables work) :
    final.flows = flows := by
  induction ends with
  | done => exact sameFlows
  | step first others induction =>
      cases first with
      | act isNext =>
          rename_i run final action rest
          rw [isNext] at pending
          have isQuiet : Quiet tables action := pending _ List.mem_cons_self
          have restQuiet : ∀ work ∈ rest, QuietWork tables work :=
            fun work member => pending work (List.mem_cons_of_mem _ member)
          cases action with
          | learn learned => exact isQuiet.elim
          | regMove srcField dstField bits => exact induction sameFlows restQuiet
          | regLoad dst value => exact induction sameFlows restQuiet
          | output port => exact induction sameFlows restQuiet
          | resubmitTable table =>
              apply induction sameFlows
              intro work member
              rcases List.mem_cons.mp member with rfl | later
              · exact isQuiet
              · exact restQuiet work later
      | arrive isNext =>
          apply induction sameFlows
          intro work member
          exact pending work (isNext ▸ List.mem_cons_of_mem _ member)
      | hit isNext isOwn selected =>
          apply induction sameFlows
          intro work member
          rcases List.mem_append.mp member with here | later
          · rcases List.mem_map.mp here with ⟨action, isAction, rfl⟩
            have entered : QuietWork tables (Work.enter _ : Work φ) :=
              pending _ (isNext ▸ List.mem_cons_self)
            rw [sameFlows] at selected
            exact quiet _ selected.present (selected.inTable ▸ entered) action isAction
          · exact pending work (isNext ▸ List.mem_cons_of_mem _ later)
      | miss isNext =>
          apply induction sameFlows
          intro work member
          exact pending work (isNext ▸ List.mem_cons_of_mem _ member)

end PacketRun

end Dragonflow
