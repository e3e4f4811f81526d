import Dragonflow.Controller.Apps.SfcReinstallation
import Dragonflow.Foundation.Lockstep

/-! # Updates of a port pair group

`_port_pair_group_updated` walks the port pairs of both versions in lockstep. It takes
the pairs of the new version for the old ones, and the other way round: each position
removes what the new version has there, and installs what the old version has.
-/

namespace Dragonflow

open Program

namespace SfcApp

section Handler

variable (isLocal : Id → Bool) (portsecMain : Nat)

/-! ## The handler -/

/-- The loop of `_port_pair_group_updated`. Its names are those of the source: `oldPp`
is from the pairs of `portPairGroup`, and `newPp` from those of `oldPortPairGroup`. -/
def updatePortPairs (portChain : PortChain)
    (portPairGroup oldPortPairGroup : PortPairGroup) :
    List PortPair → List PortPair → Action Unit
  | [], [] => pure ()
  | oldPp :: oldPps, [] => do
      uninstallPortPairEgress isLocal portsecMain portChain oldPortPairGroup oldPp
      updatePortPairs portChain portPairGroup oldPortPairGroup oldPps []
  | [], newPp :: newPps => do
      installPortPairEgress isLocal portsecMain portChain portPairGroup newPp
      updatePortPairs portChain portPairGroup oldPortPairGroup [] newPps
  | oldPp :: oldPps, newPp :: newPps => do
      onlyIf (oldPp.id ≠ newPp.id) do
        uninstallPortPairEgress isLocal portsecMain portChain oldPortPairGroup oldPp
        installPortPairEgress isLocal portsecMain portChain portPairGroup newPp
      updatePortPairs portChain portPairGroup oldPortPairGroup oldPps newPps

/-- `_port_pair_group_updated`, with the chain that
`_port_chain_by_port_pair_group` finds. -/
def portPairGroupUpdated (portChain : Option PortChain)
    (portPairGroup oldPortPairGroup : PortPairGroup) : Action Unit :=
  match portChain with
  | none => pure ()
  | some portChain => do
      uninstallPortPairGroupFlows isLocal portChain oldPortPairGroup
      installPortPairGroupFlows isLocal portChain portPairGroup
      updatePortPairs isLocal portsecMain portChain portPairGroup oldPortPairGroup
        portPairGroup.portPairs oldPortPairGroup.portPairs

end Handler

variable {isLocal : Id → Bool} {portsecMain : Nat} {portChain : PortChain}
  {portPairGroup oldPortPairGroup : PortPairGroup} {portPair : PortPair}
  {flowClassifier : FlowClassifier}

/-! ## What is written for a port pair -/

/-- The egress flows of a local port pair. -/
def egressWrites (isLocal : Id → Bool) (portsecMain : Nat) (portChain : PortChain)
    (portPairGroup : PortPairGroup) (portPair : PortPair) : List SfcWrite :=
  if isLocal portPair.egressPort.id then
    match portPair.correlationMechanism with
    | some .mpls => portChain.flowClassifiers.flatMap fun flowClassifier =>
        [put (mplsEgressFlow portsecMain portPair
          (ingressLabel portChain flowClassifier portPairGroup)
          (ingressLabel portChain flowClassifier portPairGroup + 1))]
    | some .none => portChain.flowClassifiers.flatMap fun flowClassifier =>
        ethTypeToTc.map fun type => put (noneEgressFlow portsecMain portPair
          (ingressLabel portChain flowClassifier portPairGroup + 1) type)
    | none => []
  else []

def egressDrops (isLocal : Id → Bool) (portsecMain : Nat) (portChain : PortChain)
    (portPairGroup : PortPairGroup) (portPair : PortPair) : List SfcWrite :=
  if isLocal portPair.egressPort.id then
    match portPair.correlationMechanism with
    | some .mpls => portChain.flowClassifiers.flatMap fun flowClassifier =>
        [drop portsecMain Const.priorityVeryHigh (mplsEgressMatch portPair
          (ingressLabel portChain flowClassifier portPairGroup))]
    | some .none => ethTypeToTc.map fun type =>
        drop portsecMain Const.priorityVeryHigh (noneEgressMatch portPair type.ethType)
    | none => []
  else []

/-- The chain has a version of the group. -/
def Contains (portChain : PortChain) (portPairGroup : PortPairGroup) : Prop :=
  portPairGroup.id ∈ portChain.portPairGroups.map PortPairGroup.id

theorem Contains.ingress_ok (contains : Contains portChain portPairGroup)
    (isClassifier : flowClassifier ∈ portChain.flowClassifiers) :
    getIngressLabel portChain flowClassifier portPairGroup =
      .ok (ingressLabel portChain flowClassifier portPairGroup) := by
  unfold getIngressLabel
  rw [getIndexById_of_mem (List.mem_map_of_mem isClassifier), getIndexById_of_mem contains]
  rfl

theorem Contains.egress_ok (contains : Contains portChain portPairGroup)
    (isClassifier : flowClassifier ∈ portChain.flowClassifiers) :
    getEgressLabel portChain flowClassifier portPairGroup =
      .ok (ingressLabel portChain flowClassifier portPairGroup + 1) := by
  unfold getEgressLabel
  rw [contains.ingress_ok isClassifier]
  rfl

theorem Contains.install_writes (contains : Contains portChain portPairGroup)
    (portPair : PortPair) :
    Writes (installPortPairEgress isLocal portsecMain portChain portPairGroup portPair)
      (egressWrites isLocal portsecMain portChain portPairGroup portPair) := by
  refine writes_onlyIf fun _ => ?_
  unfold installPortPairEgressFlows
  rcases portPair.correlationMechanism with _ | _ | _
  · exact writes_pure
  · refine writes_loop _ fun found isFound => ?_
    exact writes_ofExcept (contains.egress_ok isFound)
      (writes_each _ fun _ => writes_put rfl)
  · refine writes_loop _ fun found isFound => ?_
    exact writes_ofExcept (contains.ingress_ok isFound)
      (writes_ofExcept (contains.egress_ok isFound) (writes_put rfl))

theorem Contains.uninstall_writes (contains : Contains portChain portPairGroup)
    (portPair : PortPair) :
    Writes (uninstallPortPairEgress isLocal portsecMain portChain portPairGroup portPair)
      (egressDrops isLocal portsecMain portChain portPairGroup portPair) := by
  refine writes_onlyIf fun _ => ?_
  unfold uninstallPortPairEgressFlows
  rcases portPair.correlationMechanism with _ | _ | _
  · exact writes_pure
  · exact writes_each _ fun _ => writes_deletion _ _ _
  · refine writes_loop _ fun found isFound => ?_
    exact writes_ofExcept (contains.ingress_ok isFound) (writes_deletion _ _ _)

theorem Contains.installGroup_writes (contains : Contains portChain portPairGroup) :
    Writes (installPortPairGroupFlows isLocal portChain portPairGroup)
      (portChain.flowClassifiers.flatMap fun flowClassifier =>
        labelWrites isLocal portPairGroup
          (ingressLabel portChain flowClassifier portPairGroup)) :=
  writes_loop _ fun _ isFound =>
    writes_ofExcept (contains.ingress_ok isFound) installLabel_writes

theorem Contains.uninstallGroup_writes (contains : Contains portChain portPairGroup) :
    Writes (uninstallPortPairGroupFlows isLocal portChain portPairGroup)
      (portChain.flowClassifiers.flatMap fun flowClassifier =>
        labelDrops isLocal portPairGroup
          (ingressLabel portChain flowClassifier portPairGroup)) :=
  writes_loop _ fun _ isFound =>
    writes_ofExcept (contains.ingress_ok isFound) uninstallLabel_writes

/-! ## Places of a port pair -/

/-- Flows that catch what comes back from the egress port of a pair. -/
def OfEgress (portPair : PortPair) : Target → Prop
  | .inl place => place.2.2.reg6 = some (.exact portPair.egressPort.uniqueKey)
  | .inr _ => False

theorem touch_egressWrites {target : Target}
    (touched : Write.Touch
      (egressWrites isLocal portsecMain portChain portPairGroup portPair) target) :
    OfEgress portPair target := by
  unfold egressWrites at touched
  split at touched
  · split at touched
    · rcases Write.touch_flatMap.mp touched with ⟨found, _, write, isWrite, isPlace⟩
      rw [List.mem_singleton.mp isWrite] at isPlace
      rw [← isPlace]
      rfl
    · rcases Write.touch_flatMap.mp touched with ⟨found, _, inner⟩
      rcases Write.touch_map.mp inner with ⟨type, _, isPlace⟩
      rw [← isPlace]
      rfl
    · exact absurd touched (by simp [Write.Touch])
  · exact absurd touched (by simp [Write.Touch])

theorem touch_egressDrops {target : Target}
    (touched : Write.Touch
      (egressDrops isLocal portsecMain portChain portPairGroup portPair) target) :
    OfEgress portPair target := by
  unfold egressDrops at touched
  split at touched
  · split at touched
    · rcases Write.touch_flatMap.mp touched with ⟨found, _, write, isWrite, isPlace⟩
      rw [List.mem_singleton.mp isWrite] at isPlace
      rw [← isPlace]
      rfl
    · rcases Write.touch_map.mp touched with ⟨type, _, isPlace⟩
      rw [← isPlace]
      rfl
    · exact absurd touched (by simp [Write.Touch])
  · exact absurd touched (by simp [Write.Touch])

/-- Whatever is written for a pair is among what is deleted for it. -/
theorem touch_drops_of_writes {target : Target}
    (touched : Write.Touch
      (egressWrites isLocal portsecMain portChain portPairGroup portPair) target) :
    Write.Touch (egressDrops isLocal portsecMain portChain portPairGroup portPair)
      target := by
  unfold egressWrites at touched
  unfold egressDrops
  split at touched
  · next locally =>
      rw [if_pos locally]
      split at touched
      · rcases Write.touch_flatMap.mp touched with ⟨found, isFound, write, isWrite, isPlace⟩
        rw [List.mem_singleton.mp isWrite] at isPlace
        exact Write.touch_flatMap.mpr ⟨found, isFound, _, List.mem_singleton_self _, isPlace⟩
      · rcases Write.touch_flatMap.mp touched with ⟨found, _, inner⟩
        rcases Write.touch_map.mp inner with ⟨type, isType, isPlace⟩
        exact Write.touch_map.mpr ⟨type, isType, isPlace⟩
      · exact absurd touched (by simp [Write.Touch])
  · exact absurd touched (by simp [Write.Touch])

theorem egressDrops_empty : ∀ write ∈
    egressDrops isLocal portsecMain portChain portPairGroup portPair, write.value = none := by
  intro write member
  unfold egressDrops at member
  split at member
  · split at member
    · rcases List.mem_flatMap.mp member with ⟨found, _, isWrite⟩
      rw [List.mem_singleton.mp isWrite]
      rfl
    · rcases List.mem_map.mp member with ⟨type, _, isWrite⟩
      rw [← isWrite]
      rfl
    · cases member
  · cases member

/-- Flows of the group itself are for packets of any port. -/
theorem labelWrites_off {label : Nat} {target : Target} (ofEgress : OfEgress portPair target) :
    ¬ Write.Touch (labelWrites isLocal portPairGroup label) target := by
  rintro ⟨write, member, rfl⟩
  simp only [labelWrites, ethTypeToTc, List.map_cons, List.map_nil, List.mem_append,
    List.mem_cons, List.not_mem_nil, or_false] at member
  rcases member with (rfl | rfl) | ((rfl | rfl) | rfl) | isLocally
  · cases ofEgress
  · cases ofEgress
  · exact ofEgress
  · exact ofEgress
  · cases ofEgress
  · split at isLocally
    · simp only [List.mem_append, List.mem_cons, List.not_mem_nil, or_false] at isLocally
      rcases isLocally with (rfl | rfl) | rfl
      · exact ofEgress
      · exact ofEgress
      · cases ofEgress
    · cases isLocally

theorem labelDrops_off {label : Nat} {target : Target} (ofEgress : OfEgress portPair target) :
    ¬ Write.Touch (labelDrops isLocal portPairGroup label) target := by
  rintro ⟨write, member, rfl⟩
  simp only [labelDrops, List.mem_append, List.mem_singleton] at member
  rcases member with rfl | (rfl | rfl) | isLocally
  · cases ofEgress
  · cases ofEgress
  · exact ofEgress
  · split at isLocally
    · simp only [List.mem_append, List.mem_singleton] at isLocally
      rcases isLocally with rfl | rfl
      · cases ofEgress
      · exact ofEgress
    · cases isLocally

/-! ## Which pairs have their egress flows -/

/-- A pair has egress flows: its egress port is local, packets come back from it in a
way that the driver supports, and some classifier sends them. -/
def HasEgress (isLocal : Id → Bool) (portChain : PortChain) (portPair : PortPair) : Prop :=
  isLocal portPair.egressPort.id = true ∧ portPair.correlationMechanism ≠ none ∧
    portChain.flowClassifiers ≠ []

theorem egressWrites_nil (noEgress : ¬ HasEgress isLocal portChain portPair) :
    egressWrites isLocal portsecMain portChain portPairGroup portPair = [] := by
  unfold egressWrites
  split
  · next locally =>
      split
      · next isMpls =>
          have noClassifier : portChain.flowClassifiers = [] := by
            by_contra some
            exact noEgress ⟨locally, by simp [isMpls], some⟩
          rw [noClassifier]
          rfl
      · next isNone =>
          have noClassifier : portChain.flowClassifiers = [] := by
            by_contra some
            exact noEgress ⟨locally, by simp [isNone], some⟩
          rw [noClassifier]
          rfl
      · rfl
  · rfl

/-- What the flows of a pair are. -/
def egressValue (isLocal : Id → Bool) (portsecMain : Nat) (portChain : PortChain)
    (portPairGroup : PortPairGroup) (portPair : PortPair) (target : Target) :
    Option Content :=
  Write.applyAll (fun _ => none)
    (egressWrites isLocal portsecMain portChain portPairGroup portPair) target

theorem exists_egressValue (hasEgress : HasEgress isLocal portChain portPair) :
    ∃ target, OfEgress portPair target ∧
      egressValue isLocal portsecMain portChain portPairGroup portPair target ≠ none := by
  rcases hasEgress with ⟨locally, supported, someClassifier⟩
  rcases List.exists_mem_of_ne_nil _ someClassifier with ⟨found, isFound⟩
  have valued : ∀ write ∈
      egressWrites isLocal portsecMain portChain portPairGroup portPair,
      write.value ≠ none := by
    intro write member
    unfold egressWrites at member
    rw [if_pos locally] at member
    split at member
    · rcases List.mem_flatMap.mp member with ⟨_, _, isWrite⟩
      rw [List.mem_singleton.mp isWrite]
      exact Option.some_ne_none _
    · rcases List.mem_flatMap.mp member with ⟨_, _, inner⟩
      rcases List.mem_map.mp inner with ⟨_, _, isWrite⟩
      rw [← isWrite]
      exact Option.some_ne_none _
    · cases member
  have someWrite : ∃ write, write ∈
      egressWrites isLocal portsecMain portChain portPairGroup portPair := by
    unfold egressWrites
    rw [if_pos locally]
    split
    · exact ⟨_, List.mem_flatMap.mpr ⟨found, isFound, List.mem_singleton_self _⟩⟩
    · exact ⟨_, List.mem_flatMap.mpr ⟨found, isFound, List.mem_cons_self⟩⟩
    · next unsupported => exact absurd unsupported supported
  rcases someWrite with ⟨write, member⟩
  have touched : Write.Touch
      (egressWrites isLocal portsecMain portChain portPairGroup portPair) write.key :=
    ⟨write, member, rfl⟩
  refine ⟨write.key, touch_egressWrites touched, ?_⟩
  rcases @Write.applyAll_found _ _ _ (fun _ => none) _ _ touched with
    ⟨last, isLast, -, isValue⟩
  rw [egressValue, isValue]
  exact valued last isLast

/-- Port pairs that are told apart by their ids, on egress ports of their own. -/
structure DistinctPairs (portPairs : List PortPair) : Prop where
  ids : ∀ first ∈ portPairs, ∀ second ∈ portPairs, first.id = second.id → first = second
  egressPorts : ∀ first ∈ portPairs, ∀ second ∈ portPairs,
    first.egressPort.uniqueKey = second.egressPort.uniqueKey → first = second

/-- Of some port pairs, exactly the installed ones have egress flows, as the group
gives them. -/
def EgressFlows (isLocal : Id → Bool) (portsecMain : Nat) (portChain : PortChain)
    (portPairGroup : PortPairGroup) (portPairs : List PortPair)
    (store : Target → Option Content) (installed : Set PortPair) : Prop :=
  ∀ portPair ∈ portPairs, ∀ target, OfEgress portPair target →
    (portPair ∈ installed → store target =
      egressValue isLocal portsecMain portChain portPairGroup portPair target) ∧
    (portPair ∉ installed → store target = none)

theorem egressWrites_version (sameGroup : oldPortPairGroup.id = portPairGroup.id) :
    egressWrites isLocal portsecMain portChain oldPortPairGroup portPair =
      egressWrites isLocal portsecMain portChain portPairGroup portPair := by
  unfold egressWrites ingressLabel ppgIndex
  rw [sameGroup]

theorem egressDrops_version (sameGroup : oldPortPairGroup.id = portPairGroup.id) :
    egressDrops isLocal portsecMain portChain oldPortPairGroup portPair =
      egressDrops isLocal portsecMain portChain portPairGroup portPair := by
  unfold egressDrops ingressLabel ppgIndex
  rw [sameGroup]

theorem OfEgress.unique {portPairs : List PortPair} (distinct : DistinctPairs portPairs)
    {other : PortPair} {target : Target} (member : portPair ∈ portPairs)
    (isOther : other ∈ portPairs) (ofEgress : OfEgress portPair target)
    (ofOther : OfEgress other target) : portPair = other := by
  cases target with
  | inl place =>
      have sameKey := ofEgress.symm.trans ofOther
      simp only [Option.some.injEq, FieldMatch.exact.injEq] at sameKey
      exact distinct.egressPorts portPair member other isOther sameKey
  | inr groupId => cases ofEgress

namespace EgressFlows

variable {portPairs : List PortPair} {store : Target → Option Content}
  {installed : Set PortPair}

theorem written (distinct : DistinctPairs portPairs)
    (flows : EgressFlows isLocal portsecMain portChain portPairGroup portPairs store
      installed) (member : portPair ∈ portPairs) :
    EgressFlows isLocal portsecMain portChain portPairGroup portPairs
      (Write.applyAll store
        (egressWrites isLocal portsecMain portChain portPairGroup portPair))
      {found | portPair = found ∨ found ∈ installed} := by
  intro found isFound target ofFound
  have before := flows found isFound target ofFound
  by_cases same : portPair = found
  · subst same
    refine ⟨fun _ => ?_, fun notInstalled => absurd (Or.inl rfl) notInstalled⟩
    by_cases touched : Write.Touch
        (egressWrites isLocal portsecMain portChain portPairGroup portPair) target
    · exact Write.applyAll_of_touch touched
    · have noValue : egressValue isLocal portsecMain portChain portPairGroup portPair
          target = none := Write.applyAll_untouched touched
      rw [Write.applyAll_untouched touched, noValue]
      by_cases isInstalled : portPair ∈ installed
      · rw [before.1 isInstalled, noValue]
      · exact before.2 isInstalled
  · have untouched : ¬ Write.Touch
        (egressWrites isLocal portsecMain portChain portPairGroup portPair) target :=
      fun touched => same
        (OfEgress.unique distinct member isFound (touch_egressWrites touched) ofFound)
    rw [Write.applyAll_untouched untouched]
    constructor
    · rintro (isPair | isInstalled)
      · exact absurd isPair same
      · exact before.1 isInstalled
    · intro notInstalled
      exact before.2 fun isInstalled => notInstalled (Or.inr isInstalled)

theorem dropped (distinct : DistinctPairs portPairs)
    (flows : EgressFlows isLocal portsecMain portChain portPairGroup portPairs store
      installed) (member : portPair ∈ portPairs) :
    EgressFlows isLocal portsecMain portChain portPairGroup portPairs
      (Write.applyAll store
        (egressDrops isLocal portsecMain portChain portPairGroup portPair))
      {found | found ∈ installed ∧ portPair ≠ found} := by
  intro found isFound target ofFound
  have before := flows found isFound target ofFound
  by_cases same : portPair = found
  · subst same
    refine ⟨fun isInstalled => absurd rfl isInstalled.2, fun _ => ?_⟩
    by_cases touched : Write.Touch
        (egressDrops isLocal portsecMain portChain portPairGroup portPair) target
    · exact Write.applyAll_agreed touched fun write isWrite _ =>
        egressDrops_empty write isWrite
    · have noValue : egressValue isLocal portsecMain portChain portPairGroup portPair
          target = none :=
        Write.applyAll_untouched fun written => touched (touch_drops_of_writes written)
      rw [Write.applyAll_untouched touched]
      by_cases isInstalled : portPair ∈ installed
      · rw [before.1 isInstalled, noValue]
      · exact before.2 isInstalled
  · have untouched : ¬ Write.Touch
        (egressDrops isLocal portsecMain portChain portPairGroup portPair) target :=
      fun touched => same
        (OfEgress.unique distinct member isFound (touch_egressDrops touched) ofFound)
    rw [Write.applyAll_untouched untouched]
    constructor
    · intro isInstalled
      exact before.1 isInstalled.1
    · intro notInstalled
      exact before.2 fun isInstalled => notInstalled ⟨isInstalled, same⟩

theorem off {writes : List SfcWrite}
    (flows : EgressFlows isLocal portsecMain portChain portPairGroup portPairs store
      installed)
    (offEgress : ∀ portPair target, OfEgress portPair target →
      ¬ Write.Touch writes target) :
    EgressFlows isLocal portsecMain portChain portPairGroup portPairs
      (Write.applyAll store writes) installed := by
  intro found isFound target ofFound
  rw [Write.applyAll_untouched (offEgress found target ofFound)]
  exact flows found isFound target ofFound

/-- The flows tell which of the pairs that can have flows are installed. -/
theorem agree {other : Set PortPair}
    (flows : EgressFlows isLocal portsecMain portChain portPairGroup portPairs store
      installed) :
    EgressFlows isLocal portsecMain portChain portPairGroup portPairs store other ↔
      ∀ portPair ∈ portPairs, HasEgress isLocal portChain portPair →
        (portPair ∈ installed ↔ portPair ∈ other) := by
  constructor
  · intro others portPair member hasEgress
    rcases @exists_egressValue isLocal portsecMain portChain portPairGroup portPair
      hasEgress with ⟨target, ofPair, valued⟩
    have first := flows portPair member target ofPair
    have second := others portPair member target ofPair
    constructor
    · intro isInstalled
      by_contra isOther
      exact valued ((first.1 isInstalled).symm.trans (second.2 isOther))
    · intro isOther
      by_contra isInstalled
      exact valued ((second.1 isOther).symm.trans (first.2 isInstalled))
  · intro same portPair member target ofPair
    have before := flows portPair member target ofPair
    by_cases hasEgress : HasEgress isLocal portChain portPair
    · rw [← same portPair member hasEgress]
      exact before
    · have noValue : egressValue isLocal portsecMain portChain portPairGroup portPair
          target = none := by
        rw [egressValue, egressWrites_nil hasEgress]
        rfl
      have nothing : store target = none := by
        by_cases isInstalled : portPair ∈ installed
        · rw [before.1 isInstalled, noValue]
        · exact before.2 isInstalled
      rw [nothing, noValue]
      exact ⟨fun _ => rfl, fun _ => rfl⟩

end EgressFlows

/-! ## The update -/

/-- The action returns, and turns the pairs that have egress flows into others. -/
def Brings (isLocal : Id → Bool) (portsecMain : Nat) (portChain : PortChain)
    (portPairGroup : PortPairGroup) (portPairs : List PortPair) (action : Action Unit)
    (before after : Set PortPair) : Prop :=
  ∀ app : SfcApp,
    EgressFlows isLocal portsecMain portChain portPairGroup portPairs app.content before →
    ∃ result, exec action app = (.ok (), result) ∧
      EgressFlows isLocal portsecMain portChain portPairGroup portPairs result.content after

section Updating

variable {portPairs : List PortPair} {installed : Set PortPair}

theorem Brings.bind {first second : Action Unit} {before middle after : Set PortPair}
    (firstBrings : Brings isLocal portsecMain portChain portPairGroup portPairs first
      before middle)
    (secondBrings : Brings isLocal portsecMain portChain portPairGroup portPairs second
      middle after) :
    Brings isLocal portsecMain portChain portPairGroup portPairs (do first; second)
      before after := by
  intro app flows
  rcases firstBrings app flows with ⟨between, executed, betweenFlows⟩
  rcases secondBrings between betweenFlows with ⟨result, continued, resultFlows⟩
  refine ⟨result, ?_, resultFlows⟩
  rw [exec_bind_ok executed]
  exact continued

theorem Brings.nothing :
    Brings isLocal portsecMain portChain portPairGroup portPairs (pure ()) installed
      installed :=
  fun app flows => ⟨app, rfl, flows⟩

theorem brings_install (contains : Contains portChain portPairGroup)
    (distinct : DistinctPairs portPairs) (member : portPair ∈ portPairs) :
    Brings isLocal portsecMain portChain portPairGroup portPairs
      (installPortPairEgress isLocal portsecMain portChain portPairGroup portPair) installed
      {found | portPair = found ∨ found ∈ installed} := by
  intro app flows
  have writes : Writes (installPortPairEgress isLocal portsecMain portChain portPairGroup
      portPair) (egressWrites isLocal portsecMain portChain portPairGroup portPair) :=
    contains.install_writes portPair
  rcases writes app with ⟨after, executed, isAfter⟩
  refine ⟨after, executed, ?_⟩
  rw [isAfter]
  exact flows.written distinct member

theorem brings_uninstall (contains : Contains portChain oldPortPairGroup)
    (sameGroup : oldPortPairGroup.id = portPairGroup.id)
    (distinct : DistinctPairs portPairs) (member : portPair ∈ portPairs) :
    Brings isLocal portsecMain portChain portPairGroup portPairs
      (uninstallPortPairEgress isLocal portsecMain portChain oldPortPairGroup portPair)
      installed {found | found ∈ installed ∧ portPair ≠ found} := by
  intro app flows
  have writes : Writes (uninstallPortPairEgress isLocal portsecMain portChain
      oldPortPairGroup portPair)
      (egressDrops isLocal portsecMain portChain oldPortPairGroup portPair) :=
    contains.uninstall_writes portPair
  rcases writes app with ⟨after, executed, isAfter⟩
  refine ⟨after, executed, ?_⟩
  rw [isAfter, egressDrops_version sameGroup]
  exact flows.dropped distinct member

theorem brings_groups (contains : Contains portChain portPairGroup)
    (sameGroup : oldPortPairGroup.id = portPairGroup.id) {rest : Action Unit}
    {after : Set PortPair}
    (restBrings : Brings isLocal portsecMain portChain portPairGroup portPairs rest
      installed after) :
    Brings isLocal portsecMain portChain portPairGroup portPairs (do
        uninstallPortPairGroupFlows isLocal portChain oldPortPairGroup
        installPortPairGroupFlows isLocal portChain portPairGroup
        rest) installed after := by
  have oldContains : Contains portChain oldPortPairGroup := by
    unfold Contains
    rw [sameGroup]
    exact contains
  have uninstalls : Brings isLocal portsecMain portChain portPairGroup portPairs
      (uninstallPortPairGroupFlows isLocal portChain oldPortPairGroup) installed
      installed := by
    intro app flows
    have writes : Writes (uninstallPortPairGroupFlows isLocal portChain oldPortPairGroup) _ :=
      oldContains.uninstallGroup_writes
    rcases writes app with ⟨after, executed, isAfter⟩
    refine ⟨after, executed, ?_⟩
    rw [isAfter]
    apply flows.off
    intro portPair target ofEgress touched
    rcases Write.touch_flatMap.mp touched with ⟨found, _, inner⟩
    exact labelDrops_off ofEgress inner
  have installs : Brings isLocal portsecMain portChain portPairGroup portPairs
      (installPortPairGroupFlows isLocal portChain portPairGroup) installed installed := by
    intro app flows
    have writes : Writes (installPortPairGroupFlows isLocal portChain portPairGroup) _ :=
      contains.installGroup_writes
    rcases writes app with ⟨after, executed, isAfter⟩
    refine ⟨after, executed, ?_⟩
    rw [isAfter]
    apply flows.off
    intro portPair target ofEgress touched
    rcases Write.touch_flatMap.mp touched with ⟨found, _, inner⟩
    exact labelWrites_off ofEgress inner
  exact uninstalls.bind (installs.bind restBrings)

/-- The loop takes out the pairs of the new version and puts in those of the old one. -/
theorem brings_updatePortPairs (contains : Contains portChain portPairGroup)
    (sameGroup : oldPortPairGroup.id = portPairGroup.id)
    (distinct : DistinctPairs portPairs) {oldPps newPps : List PortPair}
    (oldInside : ∀ oldPp ∈ oldPps, oldPp ∈ portPairs)
    (newInside : ∀ newPp ∈ newPps, newPp ∈ portPairs) :
    Brings isLocal portsecMain portChain portPairGroup portPairs
      (updatePortPairs isLocal portsecMain portChain portPairGroup oldPortPairGroup oldPps
        newPps) installed (Lockstep.run oldPps newPps installed) := by
  have oldContains : Contains portChain oldPortPairGroup := by
    unfold Contains
    rw [sameGroup]
    exact contains
  induction oldPps, newPps, installed using Lockstep.run.induct with
  | case1 installed =>
      rw [updatePortPairs, Lockstep.run]
      exact Brings.nothing
  | case2 oldPp oldPps installed induction =>
      have isInside := oldInside oldPp List.mem_cons_self
      have later := induction
        (fun found member => oldInside found (List.mem_cons_of_mem _ member)) newInside
      have isRound : Lockstep.round (some oldPp) none installed =
          {found | found ∈ installed ∧ oldPp ≠ found} := by
        ext found
        simp [Lockstep.round]
      rw [updatePortPairs, Lockstep.run]
      rw [isRound] at later ⊢
      exact (brings_uninstall oldContains sameGroup distinct isInside).bind later
  | case3 newPp newPps installed induction =>
      have isInside := newInside newPp List.mem_cons_self
      have later := induction oldInside fun found member =>
        newInside found (List.mem_cons_of_mem _ member)
      have isRound : Lockstep.round none (some newPp) installed =
          {found | newPp = found ∨ found ∈ installed} := by
        ext found
        simp [Lockstep.round]
      rw [updatePortPairs, Lockstep.run]
      rw [isRound] at later ⊢
      exact (brings_install contains distinct isInside).bind later
  | case4 oldPp oldPps newPp newPps installed induction =>
      have oldIsInside := oldInside oldPp List.mem_cons_self
      have newIsInside := newInside newPp List.mem_cons_self
      have later := induction
        (fun found member => oldInside found (List.mem_cons_of_mem _ member))
        (fun found member => newInside found (List.mem_cons_of_mem _ member))
      rw [updatePortPairs, Lockstep.run]
      apply Brings.bind ?_ later
      unfold onlyIf
      by_cases same : oldPp = newPp
      · have isRound : Lockstep.round (some oldPp) (some newPp) installed = installed := by
          rw [Lockstep.round, if_pos (congrArg some same)]
        rw [isRound, if_neg (by simp [same])]
        exact Brings.nothing
      · have sameId : oldPp.id ≠ newPp.id := fun sameId =>
          same (distinct.ids oldPp oldIsInside newPp newIsInside sameId)
        have isRound : Lockstep.round (some oldPp) (some newPp) installed =
            {found | newPp = found ∨
              found ∈ ({found | found ∈ installed ∧ oldPp ≠ found} : Set PortPair)} := by
          ext found
          simp [Lockstep.round, same]
        rw [isRound, if_pos sameId]
        exact (brings_uninstall oldContains sameGroup distinct oldIsInside).bind
          (brings_install contains distinct newIsInside)

end Updating

/-- The handler leaves a pair of the old version without its flows only where the new
version has it behind its old position. -/
theorem brings_portPairGroupUpdated (contains : Contains portChain portPairGroup)
    (sameGroup : oldPortPairGroup.id = portPairGroup.id)
    (distinct : DistinctPairs (portPairGroup.portPairs ++ oldPortPairGroup.portPairs)) :
    Brings isLocal portsecMain portChain portPairGroup
      (portPairGroup.portPairs ++ oldPortPairGroup.portPairs)
      (portPairGroupUpdated isLocal portsecMain (some portChain) portPairGroup
        oldPortPairGroup)
      {portPair | portPair ∈ oldPortPairGroup.portPairs}
      (Lockstep.run portPairGroup.portPairs oldPortPairGroup.portPairs
        {portPair | portPair ∈ oldPortPairGroup.portPairs}) :=
  brings_groups contains sameGroup
    (brings_updatePortPairs contains sameGroup distinct
      (fun _ member => List.mem_append_left _ member)
      (fun _ member => List.mem_append_right _ member))

/-! ## A group with one pair -/

/-- A port pair with one port. -/
def singlePort (id : Id) (uniqueKey : Nat) : PortPair where
  id := id
  ingressPort := { id, uniqueKey }
  egressPort := { id, uniqueKey }

def groupOf (portPairs : List PortPair) : PortPairGroup := ⟨"group", portPairs⟩

def chainOfGroup (portPairGroup : PortPairGroup) : PortChain where
  id := "chain"
  chainId := 1
  portPairGroups := [portPairGroup]
  flowClassifiers := [webTraffic]

/-- A switch that has the egress flows of one pair. -/
theorem exists_installed (isLocal : Id → Bool) (portPairGroup : PortPairGroup)
    {portPairs : List PortPair} (distinct : DistinctPairs portPairs)
    (member : portPair ∈ portPairs) :
    ∃ app : SfcApp, EgressFlows isLocal 5 (chainOfGroup portPairGroup) portPairGroup
      portPairs app.content {found | found ∈ [portPair]} := by
  have empty : EgressFlows isLocal 5 (chainOfGroup portPairGroup) portPairGroup
      portPairs (content {}) ∅ := by
    intro found isFound target ofFound
    refine ⟨fun isInstalled => absurd isInstalled (Set.notMem_empty _), fun _ => ?_⟩
    cases target with
    | inl place => rfl
    | inr groupId => rfl
  have contains : Contains (chainOfGroup portPairGroup) portPairGroup :=
    List.mem_cons_self
  rcases brings_install contains distinct member {} empty with ⟨app, -, flows⟩
  have isSingle : {found | found ∈ [portPair]} =
      {found | portPair = found ∨ found ∈ (∅ : Set PortPair)} := by
    ext found
    simp [eq_comm]
  exact ⟨app, isSingle ▸ flows⟩

/-! ## What an update leaves -/

/-- An update of a group of a chain leaves the egress flows of the new version exactly
when each pair that has egress flows is in both versions, and not further behind in the
new one. -/
theorem port_pair_group_update_exact (isLocal : Id → Bool) (portsecMain : Nat)
    (portChain : PortChain) (portPairGroup oldPortPairGroup : PortPairGroup)
    (contains : Contains portChain portPairGroup)
    (sameGroup : oldPortPairGroup.id = portPairGroup.id)
    (distinct : DistinctPairs (portPairGroup.portPairs ++ oldPortPairGroup.portPairs))
    (nodup : portPairGroup.portPairs.Nodup) (oldNodup : oldPortPairGroup.portPairs.Nodup)
    (app : SfcApp)
    (installed : EgressFlows isLocal portsecMain portChain oldPortPairGroup
      (portPairGroup.portPairs ++ oldPortPairGroup.portPairs) app.content
      {portPair | portPair ∈ oldPortPairGroup.portPairs}) :
    ∃ after, exec (portPairGroupUpdated isLocal portsecMain (some portChain) portPairGroup
        oldPortPairGroup) app = (.ok (), after) ∧
      (EgressFlows isLocal portsecMain portChain portPairGroup
          (portPairGroup.portPairs ++ oldPortPairGroup.portPairs) after.content
          {portPair | portPair ∈ portPairGroup.portPairs} ↔
        ∀ portPair ∈ portPairGroup.portPairs ++ oldPortPairGroup.portPairs,
          HasEgress isLocal portChain portPair →
          portPair ∈ portPairGroup.portPairs ∧ portPair ∈ oldPortPairGroup.portPairs ∧
            Lockstep.LeavesFirst portPair portPairGroup.portPairs
              oldPortPairGroup.portPairs) := by
  have sameFlows : EgressFlows isLocal portsecMain portChain portPairGroup
      (portPairGroup.portPairs ++ oldPortPairGroup.portPairs) app.content
      {portPair | portPair ∈ oldPortPairGroup.portPairs} := by
    intro portPair member target ofPair
    unfold egressValue
    rw [← egressWrites_version sameGroup]
    exact installed portPair member target ofPair
  rcases brings_portPairGroupUpdated contains sameGroup distinct app sameFlows with
    ⟨after, executed, flows⟩
  refine ⟨after, executed, ?_⟩
  rw [flows.agree]
  have isLeft (portPair : PortPair) :
      portPair ∈ Lockstep.run portPairGroup.portPairs oldPortPairGroup.portPairs
          {portPair | portPair ∈ oldPortPairGroup.portPairs} ↔
        portPair ∈ oldPortPairGroup.portPairs ∧ Lockstep.LeavesFirst portPair
          portPairGroup.portPairs oldPortPairGroup.portPairs :=
    Lockstep.mem_run_entering nodup oldNodup
  constructor
  · intro same portPair member hasEgress
    have decided := (isLeft portPair).symm.trans (same portPair member hasEgress)
    by_cases isNew : portPair ∈ portPairGroup.portPairs
    · have left := decided.mpr isNew
      exact ⟨isNew, left⟩
    · have isOld : portPair ∈ oldPortPairGroup.portPairs :=
        (List.mem_append.mp member).resolve_left isNew
      exact absurd (decided.mp ⟨isOld, Lockstep.leavesFirst_of_not_mem isNew⟩) isNew
  · intro condition portPair member hasEgress
    have holds := condition portPair member hasEgress
    rw [isLeft]
    exact ⟨fun _ => holds.1, fun _ => holds.2⟩

/-- A remote pair is added. -/
theorem port_pair_group_update_adds_remote :
    ∃ app after : SfcApp,
      exec (portPairGroupUpdated (fun id => id = "a") 5
        (some (chainOfGroup (groupOf [singlePort "a" 3, singlePort "b" 4])))
        (groupOf [singlePort "a" 3, singlePort "b" 4]) (groupOf [singlePort "a" 3])) app =
          (.ok (), after) ∧
      EgressFlows (fun id => id = "a") 5
        (chainOfGroup (groupOf [singlePort "a" 3, singlePort "b" 4]))
        (groupOf [singlePort "a" 3, singlePort "b" 4])
        [singlePort "a" 3, singlePort "b" 4, singlePort "a" 3] after.content
        {portPair | portPair ∈ [singlePort "a" 3, singlePort "b" 4]} := by
  have distinct : DistinctPairs [singlePort "a" 3, singlePort "b" 4, singlePort "a" 3] :=
    ⟨by decide, by decide⟩
  rcases exists_installed (fun id => id = "a")
    (groupOf [singlePort "a" 3, singlePort "b" 4]) distinct List.mem_cons_self with
    ⟨app, installed⟩
  rcases port_pair_group_update_exact (fun id => id = "a") 5
    (chainOfGroup (groupOf [singlePort "a" 3, singlePort "b" 4]))
    (groupOf [singlePort "a" 3, singlePort "b" 4]) (groupOf [singlePort "a" 3])
    List.mem_cons_self rfl distinct (by decide) (by decide) app installed with
    ⟨after, executed, exact⟩
  refine ⟨app, after, executed, exact.mpr ?_⟩
  intro portPair member hasEgress
  have isFirst : portPair = singlePort "a" 3 := by
    rcases List.mem_cons.mp member with isFirst | member
    · exact isFirst
    · rcases List.mem_cons.mp member with isSecond | member
      · rw [isSecond] at hasEgress
        exact absurd hasEgress.1 (by decide)
      · exact List.mem_singleton.mp member
  rw [isFirst]
  refine ⟨List.mem_cons_self, List.mem_cons_self, ?_⟩
  intro leaves enters isLeaving isEntering
  cases leaves with
  | zero => exact Nat.zero_le enters
  | succ leaves =>
      have isTail : [singlePort "b" 4][leaves]? = some (singlePort "a" 3) := isLeaving
      exact absurd (List.mem_singleton.mp (List.mem_of_getElem? isTail)) (by decide)

/-- When a local pair is replaced by another, the old one keeps its flows and the new one
gets none. -/
theorem replaced_port_pair_keeps_flows :
    ∃ app after : SfcApp,
      EgressFlows (fun _ => true) 5 (chainOfGroup (groupOf [singlePort "b" 4]))
        (groupOf [singlePort "a" 3]) [singlePort "b" 4, singlePort "a" 3] app.content
        {portPair | portPair ∈ [singlePort "a" 3]} ∧
      exec (portPairGroupUpdated (fun _ => true) 5
        (some (chainOfGroup (groupOf [singlePort "b" 4]))) (groupOf [singlePort "b" 4])
        (groupOf [singlePort "a" 3])) app = (.ok (), after) ∧
      EgressFlows (fun _ => true) 5 (chainOfGroup (groupOf [singlePort "b" 4]))
        (groupOf [singlePort "b" 4]) [singlePort "b" 4, singlePort "a" 3] after.content
        {portPair | portPair ∈ [singlePort "a" 3]} ∧
      ¬ EgressFlows (fun _ => true) 5 (chainOfGroup (groupOf [singlePort "b" 4]))
        (groupOf [singlePort "b" 4]) [singlePort "b" 4, singlePort "a" 3] after.content
        {portPair | portPair ∈ [singlePort "b" 4]} := by
  have distinct : DistinctPairs [singlePort "b" 4, singlePort "a" 3] :=
    ⟨by decide, by decide⟩
  rcases exists_installed (fun _ => true) (groupOf [singlePort "b" 4]) distinct
    (List.mem_cons_of_mem _ List.mem_cons_self) with ⟨app, installed⟩
  have contains : Contains (chainOfGroup (groupOf [singlePort "b" 4]))
      (groupOf [singlePort "b" 4]) := List.mem_cons_self
  have sameGroup : (groupOf [singlePort "a" 3]).id = (groupOf [singlePort "b" 4]).id := rfl
  rcases brings_portPairGroupUpdated contains sameGroup distinct app installed with
    ⟨after, executed, flows⟩
  have isRun : Lockstep.run (groupOf [singlePort "b" 4]).portPairs
      (groupOf [singlePort "a" 3]).portPairs
      {portPair | portPair ∈ (groupOf [singlePort "a" 3]).portPairs} =
      {portPair | portPair ∈ [singlePort "a" 3]} := by
    have nodup : (groupOf [singlePort "b" 4]).portPairs.Nodup := List.nodup_singleton _
    have oldNodup : (groupOf [singlePort "a" 3]).portPairs.Nodup := List.nodup_singleton _
    ext portPair
    rw [Lockstep.mem_run_entering nodup oldNodup]
    refine and_iff_left_of_imp fun isOld => Lockstep.leavesFirst_of_not_mem fun isNew => ?_
    have both := (List.mem_singleton.mp isOld).symm.trans (List.mem_singleton.mp isNew)
    exact absurd both (by decide)
  rw [isRun] at flows
  refine ⟨app, after, installed, executed, flows, ?_⟩
  intro updated
  have hasEgress : HasEgress (fun _ => true) (chainOfGroup (groupOf [singlePort "b" 4]))
      (singlePort "a" 3) := ⟨rfl, by decide, by decide⟩
  have same := (flows.agree.mp updated) (singlePort "a" 3)
    (List.mem_cons_of_mem _ List.mem_cons_self) hasEgress
  have isNew := same.mp List.mem_cons_self
  exact absurd (List.mem_singleton.mp isNew) (by decide)

end SfcApp

end Dragonflow
