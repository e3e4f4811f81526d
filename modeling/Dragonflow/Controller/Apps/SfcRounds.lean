import Dragonflow.Controller.Apps.SfcLocality

/-! # Port pair groups by position

Labels are made of the positions of a classifier and of a group. What is written for
a group depends on its position and on the number of classifiers only.
-/

namespace Dragonflow

open Program

namespace SfcApp

variable {isLocal : Id → Bool} {portsecMain chainId : Nat} {portChain : PortChain}

/-! ## Labels and group ids as numbers -/

theorem createLabel_eq {fcIdx ppgIdx : Nat} (fcFits : fcIdx < 8) (ppgFits : ppgIdx < 256) :
    createLabel chainId fcIdx ppgIdx = chainId * 2048 + (fcIdx * 256 + ppgIdx) := by
  have inner : ppgIdx ||| fcIdx <<< 8 = fcIdx * 256 + ppgIdx := by
    rw [Nat.or_comm, ← Nat.shiftLeft_add_eq_or_of_lt ppgFits, Nat.shiftLeft_eq]
  have fits : fcIdx * 256 + ppgIdx < 2 ^ 11 := by omega
  rw [createLabel, inner, Nat.or_comm, ← Nat.shiftLeft_add_eq_or_of_lt fits,
    Nat.shiftLeft_eq]

theorem createLabel_inj {fcIdx ppgIdx otherFc otherPpg : Nat} (fcFits : fcIdx < 8)
    (ppgFits : ppgIdx < 256) (otherFcFits : otherFc < 8) (otherPpgFits : otherPpg < 256)
    (same : createLabel chainId fcIdx ppgIdx = createLabel chainId otherFc otherPpg) :
    fcIdx = otherFc ∧ ppgIdx = otherPpg := by
  rw [createLabel_eq fcFits ppgFits, createLabel_eq otherFcFits otherPpgFits] at same
  omega

/-! ## Positions -/

/-- The versions of a chain whose labels fit: up to 8 classifiers, and 256 groups.
Classifiers need a group, since their labels are those of the first and the last. -/
structure Fits (portChain : PortChain) : Prop where
  groups : portChain.flowClassifiers ≠ [] → portChain.portPairGroups ≠ []
  groupIds : (portChain.portPairGroups.map PortPairGroup.id).Nodup
  classifierIds : (portChain.flowClassifiers.map FlowClassifier.id).Nodup
  keys : ∀ first ∈ portChain.flowClassifiers, ∀ second ∈ portChain.flowClassifiers,
    first.uniqueKey = second.uniqueKey → first = second
  fewClassifiers : portChain.flowClassifiers.length ≤ 8
  fewGroups : portChain.portPairGroups.length ≤ 256

theorem map_idxOf_self {ids : List Id} (nodup : ids.Nodup) :
    ids.map ids.idxOf = List.range ids.length := by
  refine List.ext_getElem (by simp) fun index inside _ => ?_
  rw [List.getElem_map, List.getElem_range]
  exact nodup.idxOf_getElem index _

/-- A loop over the classifiers that only uses their positions. -/
theorem Fits.flatMap_fcIndex (fits : Fits portChain) (writes : Nat → List SfcWrite) :
    portChain.flowClassifiers.flatMap (fun found => writes (fcIndex portChain found)) =
      (List.range portChain.flowClassifiers.length).flatMap writes := by
  have indices : portChain.flowClassifiers.map (fcIndex portChain) =
      List.range portChain.flowClassifiers.length := by
    have mapped := map_idxOf_self fits.classifierIds
    rw [List.map_map, List.length_map] at mapped
    exact mapped
  rw [← indices, List.flatMap_map]

theorem Fits.ppgIndex_eq (fits : Fits portChain) {portPairGroup : PortPairGroup}
    {index : Nat} (atIndex : portChain.portPairGroups[index]? = some portPairGroup) :
    ppgIndex portChain portPairGroup = index := by
  rcases List.getElem?_eq_some_iff.mp atIndex with ⟨inside, isGroup⟩
  have inIds : index < (portChain.portPairGroups.map PortPairGroup.id).length := by
    simpa using inside
  have isId : (portChain.portPairGroups.map PortPairGroup.id)[index] =
      portPairGroup.id := by
    rw [List.getElem_map, isGroup]
  rw [ppgIndex, ← isId]
  exact fits.groupIds.idxOf_getElem index inIds

theorem Fits.fcIndex_lt (fits : Fits portChain) {flowClassifier : FlowClassifier}
    (member : flowClassifier ∈ portChain.flowClassifiers) :
    fcIndex portChain flowClassifier < 8 := by
  have inside := List.idxOf_lt_length_of_mem (List.mem_map_of_mem (f := FlowClassifier.id)
    member)
  rw [List.length_map] at inside
  exact Nat.lt_of_lt_of_le inside fits.fewClassifiers

theorem Fits.fcIndex_inj (fits : Fits portChain) {first second : FlowClassifier}
    (isFirst : first ∈ portChain.flowClassifiers)
    (isSecond : second ∈ portChain.flowClassifiers)
    (same : fcIndex portChain first = fcIndex portChain second) : first = second := by
  have sameId : first.id = second.id :=
    (List.idxOf_inj (List.mem_map_of_mem isFirst)).mp same
  exact List.inj_on_of_nodup_map fits.classifierIds isFirst isSecond sameId

/-! ## What is written for a group -/

def egressAt (isLocal : Id → Bool) (portsecMain chainId classifiers index : Nat)
    (portPair : PortPair) : List SfcWrite :=
  if isLocal portPair.egressPort.id then
    match portPair.correlationMechanism with
    | some .mpls => (List.range classifiers).map fun fcIdx =>
        put (mplsEgressFlow portsecMain portPair (createLabel chainId fcIdx index)
          (createLabel chainId fcIdx index + 1))
    | some .none => (List.range classifiers).flatMap fun fcIdx =>
        ethTypeToTc.map fun type => put (noneEgressFlow portsecMain portPair
          (createLabel chainId fcIdx index + 1) type)
    | none => []
  else []

def egressDropsAt (isLocal : Id → Bool) (portsecMain chainId classifiers index : Nat)
    (portPair : PortPair) : List SfcWrite :=
  if isLocal portPair.egressPort.id then
    match portPair.correlationMechanism with
    | some .mpls => (List.range classifiers).map fun fcIdx =>
        drop portsecMain Const.priorityVeryHigh
          (mplsEgressMatch portPair (createLabel chainId fcIdx index))
    | some .none => ethTypeToTc.map fun type =>
        drop portsecMain Const.priorityVeryHigh (noneEgressMatch portPair type.ethType)
    | none => []
  else []

/-- What is written when a group is added at a position. -/
def addAt (isLocal : Id → Bool) (portsecMain chainId classifiers index : Nat)
    (portPairGroup : PortPairGroup) : List SfcWrite :=
  (List.range classifiers).flatMap (fun fcIdx =>
      labelWrites isLocal portPairGroup (createLabel chainId fcIdx index)) ++
    portPairGroup.portPairs.flatMap
      (egressAt isLocal portsecMain chainId classifiers index)

/-- What is written when a group is removed from a position. -/
def removeAt (isLocal : Id → Bool) (portsecMain chainId classifiers index : Nat)
    (portPairGroup : PortPairGroup) : List SfcWrite :=
  (List.range classifiers).flatMap (fun fcIdx =>
      labelDrops isLocal portPairGroup (createLabel chainId fcIdx index)) ++
    portPairGroup.portPairs.flatMap
      (egressDropsAt isLocal portsecMain chainId classifiers index)

variable {portPairGroup : PortPairGroup} {index : Nat}

theorem Fits.ingressLabel_eq (fits : Fits portChain)
    (atIndex : portChain.portPairGroups[index]? = some portPairGroup)
    (flowClassifier : FlowClassifier) :
    ingressLabel portChain flowClassifier portPairGroup =
      createLabel portChain.chainId (fcIndex portChain flowClassifier) index := by
  rw [ingressLabel, fits.ppgIndex_eq atIndex]

theorem installPortPairEgress_writes (fits : Fits portChain)
    (atIndex : portChain.portPairGroups[index]? = some portPairGroup)
    (portPair : PortPair) :
    Writes (installPortPairEgress isLocal portsecMain portChain portPairGroup portPair)
      (egressAt isLocal portsecMain portChain.chainId portChain.flowClassifiers.length
        index portPair) := by
  have isGroup : portPairGroup ∈ portChain.portPairGroups := List.mem_of_getElem? atIndex
  refine writes_onlyIf fun _ => ?_
  unfold installPortPairEgressFlows
  rcases portPair.correlationMechanism with _ | _ | _
  · exact writes_pure
  · rw [← fits.flatMap_fcIndex]
    refine writes_loop _ fun found isFound => ?_
    rw [← fits.ingressLabel_eq atIndex]
    exact writes_ofExcept (getEgressLabel_of_mem isFound isGroup)
      (writes_each _ fun _ => writes_put rfl)
  · simp only [List.map_eq_flatMap]
    rw [← fits.flatMap_fcIndex]
    refine writes_loop _ fun found isFound => ?_
    rw [← fits.ingressLabel_eq atIndex]
    exact writes_ofExcept (getIngressLabel_of_mem isFound isGroup)
      (writes_ofExcept (getEgressLabel_of_mem isFound isGroup) (writes_put rfl))

theorem uninstallPortPairEgress_writes (fits : Fits portChain)
    (atIndex : portChain.portPairGroups[index]? = some portPairGroup)
    (portPair : PortPair) :
    Writes (uninstallPortPairEgress isLocal portsecMain portChain portPairGroup portPair)
      (egressDropsAt isLocal portsecMain portChain.chainId
        portChain.flowClassifiers.length index portPair) := by
  have isGroup : portPairGroup ∈ portChain.portPairGroups := List.mem_of_getElem? atIndex
  refine writes_onlyIf fun _ => ?_
  unfold uninstallPortPairEgressFlows
  rcases portPair.correlationMechanism with _ | _ | _
  · exact writes_pure
  · exact writes_each _ fun _ => writes_deletion _ _ _
  · simp only [List.map_eq_flatMap]
    rw [← fits.flatMap_fcIndex]
    refine writes_loop _ fun found isFound => ?_
    rw [← fits.ingressLabel_eq atIndex]
    exact writes_ofExcept (getIngressLabel_of_mem isFound isGroup) (writes_deletion _ _ _)

theorem addPortPairGroup_writes (fits : Fits portChain)
    (atIndex : portChain.portPairGroups[index]? = some portPairGroup) :
    Writes (addPortPairGroup isLocal portsecMain portChain portPairGroup)
      (addAt isLocal portsecMain portChain.chainId portChain.flowClassifiers.length index
        portPairGroup) := by
  have isGroup : portPairGroup ∈ portChain.portPairGroups := List.mem_of_getElem? atIndex
  refine Writes.bind ?_
    (writes_loop _ fun portPair _ => installPortPairEgress_writes fits atIndex portPair)
  rw [← fits.flatMap_fcIndex]
  refine writes_loop _ fun found isFound => ?_
  rw [← fits.ingressLabel_eq atIndex]
  exact writes_ofExcept (getIngressLabel_of_mem isFound isGroup) installLabel_writes

theorem removePortPairGroup_writes (fits : Fits portChain)
    (atIndex : portChain.portPairGroups[index]? = some portPairGroup) :
    Writes (removePortPairGroup isLocal portsecMain portChain portPairGroup)
      (removeAt isLocal portsecMain portChain.chainId portChain.flowClassifiers.length
        index portPairGroup) := by
  have isGroup : portPairGroup ∈ portChain.portPairGroups := List.mem_of_getElem? atIndex
  refine Writes.bind ?_
    (writes_loop _ fun portPair _ => uninstallPortPairEgress_writes fits atIndex portPair)
  rw [← fits.flatMap_fcIndex]
  refine writes_loop _ fun found isFound => ?_
  rw [← fits.ingressLabel_eq atIndex]
  exact writes_ofExcept (getIngressLabel_of_mem isFound isGroup) uninstallLabel_writes

end SfcApp

end Dragonflow
