import Dragonflow.Controller.Apps.SfcRounds

/-! # Labels identify the hop

A hop is a group of a chain for one of its classifiers. Its label packs the chain id
over 3 bits for the classifier and 8 bits for the group, without a check that either
index fits. With one classifier the next 3 bits are free, and the groups may use them.
-/

namespace Dragonflow

/-- What a label stands for. -/
@[ext]
structure Hop where
  portChain : PortChain
  flowClassifier : FlowClassifier
  portPairGroup : PortPairGroup

namespace SfcApp

/-! ## What the labels are for -/

/-- Hops of the chains whose packets carry the label on their way to the group. -/
structure Carries (chains : Set PortChain) (hop : Hop) (label : Nat) : Prop where
  chain : hop.portChain ∈ chains
  classifier : hop.flowClassifier ∈ hop.portChain.flowClassifiers
  group : hop.portPairGroup ∈ hop.portChain.portPairGroups
  ingress :
    getIngressLabel hop.portChain hop.flowClassifier hop.portPairGroup = .ok label

/-- The labels of a set of chains name the hops, and a packet that leaves a group is
labelled for the next one. Labels have 20 bits. -/
structure LabelsIdentify (chains : Set PortChain) : Prop where
  distinct : ∀ first second label,
    Carries chains first label → Carries chains second label → first = second
  next : ∀ portChain ∈ chains, ∀ flowClassifier ∈ portChain.flowClassifiers,
    ∀ index portPairGroup following,
      portChain.portPairGroups[index]? = some portPairGroup →
      portChain.portPairGroups[index + 1]? = some following →
      getEgressLabel portChain flowClassifier portPairGroup =
        getIngressLabel portChain flowClassifier following
  last : ∀ portChain ∈ chains, ∀ flowClassifier ∈ portChain.flowClassifiers,
    ∀ portPairGroup label, portChain.portPairGroups.getLast? = some portPairGroup →
      getEgressLabel portChain flowClassifier portPairGroup = .ok label →
      ∀ hop, ¬ Carries chains hop label
  fits : ∀ portChain ∈ chains, ∀ flowClassifier ∈ portChain.flowClassifiers,
    ∀ portPairGroup ∈ portChain.portPairGroups,
      ∃ ingress egress,
        getIngressLabel portChain flowClassifier portPairGroup = .ok ingress ∧
        getEgressLabel portChain flowClassifier portPairGroup = .ok egress ∧
        ingress < 2 ^ 20 ∧ egress < 2 ^ 20

/-- A chain refers to each of its classifiers and groups once. -/
structure RefersOnce (portChain : PortChain) : Prop where
  groupIds : (portChain.portPairGroups.map PortPairGroup.id).Nodup
  classifierIds : (portChain.flowClassifiers.map FlowClassifier.id).Nodup

/-- Chains that refer to their objects once, under chain ids of their own. -/
structure DistinctChains (chains : Set PortChain) : Prop where
  refersOnce : ∀ portChain ∈ chains, RefersOnce portChain
  chainIds : ∀ first ∈ chains, ∀ second ∈ chains,
    first.chainId = second.chainId → first = second

/-- Nothing is labelled, or all indices and the label after the last stay in the
bits that are theirs. -/
def LabelsFit (portChain : PortChain) : Prop :=
  portChain.flowClassifiers = [] ∨ portChain.portPairGroups = [] ∨
    portChain.chainId < 512 ∧
      (portChain.flowClassifiers.length = 1 ∧ portChain.portPairGroups.length < 2048 ∨
        2 ≤ portChain.flowClassifiers.length ∧ portChain.flowClassifiers.length ≤ 8 ∧
          portChain.portPairGroups.length < 256)

instance (portChain : PortChain) : Decidable (LabelsFit portChain) := by
  unfold LabelsFit
  infer_instance

variable {portChain : PortChain} {chains : Set PortChain}

/-! ## Labels by position -/

theorem getIndexById_getElem {ids : List Id} {id : Id} {index : Nat} (nodup : ids.Nodup)
    (atIndex : ids[index]? = some id) : getIndexById ids id = .ok index := by
  rcases List.getElem?_eq_some_iff.mp atIndex with ⟨inside, isId⟩
  rw [getIndexById_of_mem (isId ▸ List.getElem_mem inside), ← isId,
    nodup.idxOf_getElem index inside]

/-- The classifier and the group at two positions of a chain. -/
structure AtIndices (portChain : PortChain) (fcIdx ppgIdx : Nat)
    (flowClassifier : FlowClassifier) (portPairGroup : PortPairGroup) : Prop where
  classifier : portChain.flowClassifiers[fcIdx]? = some flowClassifier
  group : portChain.portPairGroups[ppgIdx]? = some portPairGroup

theorem exists_atIndices {flowClassifier : FlowClassifier} {portPairGroup : PortPairGroup}
    (isClassifier : flowClassifier ∈ portChain.flowClassifiers)
    (isGroup : portPairGroup ∈ portChain.portPairGroups) :
    ∃ fcIdx ppgIdx, AtIndices portChain fcIdx ppgIdx flowClassifier portPairGroup := by
  rcases List.getElem?_of_mem isClassifier with ⟨fcIdx, classifier⟩
  rcases List.getElem?_of_mem isGroup with ⟨ppgIdx, group⟩
  exact ⟨fcIdx, ppgIdx, classifier, group⟩

theorem atIndices_of_lt {fcIdx ppgIdx : Nat}
    (fcInside : fcIdx < portChain.flowClassifiers.length)
    (ppgInside : ppgIdx < portChain.portPairGroups.length) :
    AtIndices portChain fcIdx ppgIdx portChain.flowClassifiers[fcIdx]
      portChain.portPairGroups[ppgIdx] where
  classifier := List.getElem?_eq_getElem fcInside
  group := List.getElem?_eq_getElem ppgInside

namespace AtIndices

variable {fcIdx ppgIdx : Nat} {flowClassifier : FlowClassifier}
  {portPairGroup : PortPairGroup}

theorem fcInside (indices : AtIndices portChain fcIdx ppgIdx flowClassifier portPairGroup) :
    fcIdx < portChain.flowClassifiers.length :=
  (List.getElem?_eq_some_iff.mp indices.classifier).1

theorem ppgInside
    (indices : AtIndices portChain fcIdx ppgIdx flowClassifier portPairGroup) :
    ppgIdx < portChain.portPairGroups.length :=
  (List.getElem?_eq_some_iff.mp indices.group).1

theorem ingress (once : RefersOnce portChain)
    (indices : AtIndices portChain fcIdx ppgIdx flowClassifier portPairGroup) :
    getIngressLabel portChain flowClassifier portPairGroup =
      .ok (createLabel portChain.chainId fcIdx ppgIdx) := by
  have classifier : (portChain.flowClassifiers.map FlowClassifier.id)[fcIdx]? =
      some flowClassifier.id := by
    rw [List.getElem?_map, indices.classifier]
    rfl
  have group : (portChain.portPairGroups.map PortPairGroup.id)[ppgIdx]? =
      some portPairGroup.id := by
    rw [List.getElem?_map, indices.group]
    rfl
  unfold getIngressLabel
  rw [getIndexById_getElem once.classifierIds classifier,
    getIndexById_getElem once.groupIds group]
  rfl

theorem egress (once : RefersOnce portChain)
    (indices : AtIndices portChain fcIdx ppgIdx flowClassifier portPairGroup) :
    getEgressLabel portChain flowClassifier portPairGroup =
      .ok (createLabel portChain.chainId fcIdx ppgIdx + 1) := by
  unfold getEgressLabel
  rw [indices.ingress once]
  rfl

theorem carries (once : RefersOnce portChain) (member : portChain ∈ chains)
    (indices : AtIndices portChain fcIdx ppgIdx flowClassifier portPairGroup) :
    Carries chains ⟨portChain, flowClassifier, portPairGroup⟩
      (createLabel portChain.chainId fcIdx ppgIdx) where
  chain := member
  classifier := List.mem_of_getElem? indices.classifier
  group := List.mem_of_getElem? indices.group
  ingress := indices.ingress once

/-- In one chain, the positions tell the hops apart. -/
theorem unique (once : RefersOnce portChain) {otherFc otherPpg : Nat}
    (indices : AtIndices portChain fcIdx ppgIdx flowClassifier portPairGroup)
    (others : AtIndices portChain otherFc otherPpg flowClassifier portPairGroup) :
    fcIdx = otherFc ∧ ppgIdx = otherPpg := by
  have sameClassifier : portChain.flowClassifiers[fcIdx]? =
      portChain.flowClassifiers[otherFc]? := by
    rw [indices.classifier, others.classifier]
  have sameGroup : portChain.portPairGroups[ppgIdx]? =
      portChain.portPairGroups[otherPpg]? := by
    rw [indices.group, others.group]
  exact ⟨(List.getElem?_inj indices.fcInside once.classifierIds.of_map).mp sameClassifier,
    (List.getElem?_inj indices.ppgInside once.groupIds.of_map).mp sameGroup⟩

end AtIndices

/-! ## Labels as numbers -/

/-- An index that fits leaves no bit to the chain id. -/
theorem createLabel_firstClassifier {chainId ppgIdx : Nat} (fits : ppgIdx < 2048) :
    createLabel chainId 0 ppgIdx = chainId * 2048 + ppgIdx := by
  have fits : ppgIdx < 2 ^ 11 := fits
  rw [createLabel, Nat.zero_shiftLeft, Nat.or_zero, Nat.or_comm,
    ← Nat.shiftLeft_add_eq_or_of_lt fits, Nat.shiftLeft_eq]

theorem createLabel_first (chainId : Nat) : createLabel chainId 0 0 = chainId * 2048 := by
  rw [createLabel, Nat.zero_shiftLeft, Nat.zero_or, Nat.zero_or, Nat.shiftLeft_eq]

theorem createLabel_of_fit {fcIdx ppgIdx : Nat} {flowClassifier : FlowClassifier}
    {portPairGroup : PortPairGroup} (fit : LabelsFit portChain)
    (indices : AtIndices portChain fcIdx ppgIdx flowClassifier portPairGroup) :
    createLabel portChain.chainId fcIdx ppgIdx =
        portChain.chainId * 2048 + (fcIdx * 256 + ppgIdx) ∧
      portChain.chainId < 512 ∧ fcIdx * 256 + ppgIdx + 1 < 2048 ∧
      (fcIdx = 0 ∧ portChain.flowClassifiers.length = 1 ∨
        2 ≤ portChain.flowClassifiers.length ∧
          portChain.portPairGroups.length < 256) := by
  have fcInside := indices.fcInside
  have ppgInside := indices.ppgInside
  rcases fit with noClassifier | noGroup | ⟨chainFits, single | several⟩
  · rw [noClassifier] at fcInside
    exact absurd fcInside (Nat.not_lt_zero fcIdx)
  · rw [noGroup] at ppgInside
    exact absurd ppgInside (Nat.not_lt_zero ppgIdx)
  · have isFirst : fcIdx = 0 := by omega
    subst isFirst
    rw [createLabel_firstClassifier (by omega)]
    omega
  · rw [createLabel_eq (by omega) (by omega)]
    omega

/-- A ninth classifier spills into the lowest bit of the chain id. -/
theorem createLabel_ninth (chainId : Nat) :
    createLabel chainId 8 0 = (if chainId % 2 = 1 then chainId else chainId + 1) * 2048 := by
  have spilt (half : Nat) : 2048 ||| (2 * half) <<< 11 = (2 * half + 1) * 2048 := by
    have fits : 2048 < 2 ^ 12 := by decide
    have shifted : (2 * half) <<< 11 = half <<< 12 := by
      rw [Nat.shiftLeft_eq, Nat.shiftLeft_eq]
      omega
    rw [shifted, Nat.or_comm, ← Nat.shiftLeft_add_eq_or_of_lt fits, Nat.shiftLeft_eq]
    omega
  have isLabel : createLabel chainId 8 0 = 2048 ||| chainId <<< 11 := by
    have shifted : 8 <<< 8 = 2048 := rfl
    rw [createLabel, Nat.zero_or, shifted]
  rw [isLabel]
  split
  · rename_i isOdd
    obtain ⟨half, isHalf⟩ : ∃ half, chainId = 2 * half + 1 := ⟨chainId / 2, by omega⟩
    subst isHalf
    rw [Nat.shiftLeft_eq, ← spilt half, ← Nat.or_assoc, Nat.or_self]
  · rename_i isEven
    obtain ⟨half, isHalf⟩ : ∃ half, chainId = 2 * half := ⟨chainId / 2, by omega⟩
    subst isHalf
    exact spilt half

/-! ## Chains that fit -/

/-- A label and the next one are never those of different chains. -/
theorem eq_chain_of_label (distinctChains : DistinctChains chains)
    (fit : ∀ member ∈ chains, LabelsFit member) {chain other : PortChain}
    (member : chain ∈ chains) (otherMember : other ∈ chains)
    {fcIdx ppgIdx otherFc otherPpg : Nat}
    {classifier otherClassifier : FlowClassifier} {group otherGroup : PortPairGroup}
    (indices : AtIndices chain fcIdx ppgIdx classifier group)
    (others : AtIndices other otherFc otherPpg otherClassifier otherGroup)
    {offset : Nat} (small : offset ≤ 1)
    (same : createLabel chain.chainId fcIdx ppgIdx + offset =
      createLabel other.chainId otherFc otherPpg) : chain = other := by
  have isLabel := createLabel_of_fit (fit chain member) indices
  have isOther := createLabel_of_fit (fit other otherMember) others
  apply distinctChains.chainIds chain member other otherMember
  omega

theorem labelsIdentify_of_fit (distinctChains : DistinctChains chains)
    (fit : ∀ member ∈ chains, LabelsFit member) : LabelsIdentify chains where
  distinct := by
    intro first second label firstCarries secondCarries
    rcases first with ⟨chain, classifier, group⟩
    rcases second with ⟨otherChain, otherClassifier, otherGroup⟩
    obtain ⟨fcIdx, ppgIdx, indices⟩ : ∃ fcIdx ppgIdx,
        AtIndices chain fcIdx ppgIdx classifier group :=
      exists_atIndices firstCarries.classifier firstCarries.group
    obtain ⟨otherFc, otherPpg, others⟩ : ∃ otherFc otherPpg,
        AtIndices otherChain otherFc otherPpg otherClassifier otherGroup :=
      exists_atIndices secondCarries.classifier secondCarries.group
    have once := distinctChains.refersOnce chain firstCarries.chain
    have otherOnce := distinctChains.refersOnce otherChain secondCarries.chain
    have same : createLabel chain.chainId fcIdx ppgIdx =
        createLabel otherChain.chainId otherFc otherPpg := by
      have firstLabel := (indices.ingress once).symm.trans firstCarries.ingress
      have secondLabel := (others.ingress otherOnce).symm.trans secondCarries.ingress
      exact (Except.ok.inj firstLabel).trans (Except.ok.inj secondLabel).symm
    have sameChain : chain = otherChain := eq_chain_of_label distinctChains fit
      firstCarries.chain secondCarries.chain indices others (Nat.zero_le 1) same
    subst sameChain
    have isLabel := createLabel_of_fit (fit chain firstCarries.chain) indices
    have isOther := createLabel_of_fit (fit chain secondCarries.chain) others
    have ppgInside := indices.ppgInside
    have otherInside := others.ppgInside
    have sameFc : fcIdx = otherFc := by omega
    have samePpg : ppgIdx = otherPpg := by omega
    subst sameFc samePpg
    have sameClassifier := indices.classifier.symm.trans others.classifier
    have sameGroup := indices.group.symm.trans others.group
    rw [Option.some.inj sameClassifier, Option.some.inj sameGroup]
  next := by
    intro chain member classifier isClassifier index group following isGroup isNext
    rcases List.getElem?_of_mem isClassifier with ⟨fcIdx, atFc⟩
    have once := distinctChains.refersOnce chain member
    have indices : AtIndices chain fcIdx index classifier group := ⟨atFc, isGroup⟩
    have nextIndices : AtIndices chain fcIdx (index + 1) classifier following :=
      ⟨atFc, isNext⟩
    have isLabel := (createLabel_of_fit (fit chain member) indices).1
    have isNextLabel := (createLabel_of_fit (fit chain member) nextIndices).1
    have succeeding : createLabel chain.chainId fcIdx index + 1 =
        createLabel chain.chainId fcIdx (index + 1) := by omega
    rw [indices.egress once, nextIndices.ingress once, succeeding]
  last := by
    intro chain member classifier isClassifier group label isLast isEgress hop carries
    rcases hop with ⟨otherChain, otherClassifier, otherGroup⟩
    rcases List.getElem?_of_mem isClassifier with ⟨fcIdx, atFc⟩
    rw [List.getLast?_eq_getElem?] at isLast
    have indices : AtIndices chain fcIdx (chain.portPairGroups.length - 1) classifier
        group := ⟨atFc, isLast⟩
    obtain ⟨otherFc, otherPpg, others⟩ : ∃ otherFc otherPpg,
        AtIndices otherChain otherFc otherPpg otherClassifier otherGroup :=
      exists_atIndices carries.classifier carries.group
    have same : createLabel chain.chainId fcIdx (chain.portPairGroups.length - 1) + 1 =
        createLabel otherChain.chainId otherFc otherPpg := by
      have once := distinctChains.refersOnce chain member
      have otherOnce := distinctChains.refersOnce otherChain carries.chain
      have egressLabel := (indices.egress once).symm.trans isEgress
      have ingressLabel := (others.ingress otherOnce).symm.trans carries.ingress
      exact (Except.ok.inj egressLabel).trans (Except.ok.inj ingressLabel).symm
    have sameChain : chain = otherChain := eq_chain_of_label distinctChains fit member
      carries.chain indices others (Nat.le_refl 1) same
    subst sameChain
    have isLabel := createLabel_of_fit (fit chain member) indices
    have isOther := createLabel_of_fit (fit chain carries.chain) others
    have otherInside := others.ppgInside
    omega
  fits := by
    intro chain member classifier isClassifier group isGroup
    rcases exists_atIndices isClassifier isGroup with ⟨fcIdx, ppgIdx, indices⟩
    have once := distinctChains.refersOnce chain member
    have isLabel := createLabel_of_fit (fit chain member) indices
    refine ⟨_, _, indices.ingress once, indices.egress once, ?_, ?_⟩
    · omega
    · omega

/-! ## Chains that do not fit -/

/-- The smallest chain with labels of its own under a chain id. -/
def neighbour (chainId : Nat) : PortChain where
  id := "neighbour"
  chainId
  portPairGroups := [⟨"group", []⟩]
  flowClassifiers := [{ id := "classifier", uniqueKey := 1 }]

theorem neighbour_refersOnce (chainId : Nat) : RefersOnce (neighbour chainId) where
  groupIds := List.nodup_singleton _
  classifierIds := List.nodup_singleton _

theorem neighbour_fit {chainId : Nat} (chainFits : chainId < 512) :
    LabelsFit (neighbour chainId) :=
  Or.inr (Or.inr ⟨chainFits, Or.inl ⟨rfl, Nat.one_lt_succ_succ _⟩⟩)

/-- The labels of a chain identify its hops in the company of any chains that fit. -/
def Identified (portChain : PortChain) : Prop :=
  ∀ chains : Set PortChain, portChain ∈ chains → DistinctChains chains →
    (∀ other ∈ chains, other ≠ portChain → LabelsFit other) → LabelsIdentify chains

theorem Identified.alone (identified : Identified portChain)
    (once : RefersOnce portChain) : LabelsIdentify {portChain} := by
  apply identified {portChain} rfl
  · constructor
    · intro member isMember
      rw [isMember]
      exact once
    · intro first isFirst second isSecond _
      rw [isFirst, isSecond]
  · intro other isOther isDifferent
    exact absurd isOther isDifferent

theorem Identified.withNeighbour (identified : Identified portChain)
    (once : RefersOnce portChain) {chainId : Nat} (isOther : portChain.chainId ≠ chainId)
    (chainFits : chainId < 512) : LabelsIdentify {portChain, neighbour chainId} := by
  apply identified {portChain, neighbour chainId} (Set.mem_insert portChain _)
  · constructor
    · rintro member (isChain | isNeighbour)
      · rw [isChain]
        exact once
      · rw [isNeighbour]
        exact neighbour_refersOnce chainId
    · rintro first (isChain | isNeighbour) second (isSecond | isSecond) sameId
      · rw [isChain, isSecond]
      · rw [isChain, isSecond] at sameId
        exact absurd sameId isOther
      · rw [isNeighbour, isSecond] at sameId
        exact absurd sameId.symm isOther
      · rw [isNeighbour, isSecond]
  · rintro other (isChain | isNeighbour) isDifferent
    · exact absurd isChain isDifferent
    · rw [isNeighbour]
      exact neighbour_fit chainFits

/-- The first label of a chain id is taken by the neighbour. -/
theorem carries_neighbour {chainId : Nat} (member : neighbour chainId ∈ chains) :
    ∃ hop, Carries chains hop (chainId * 2048) ∧ hop.portChain = neighbour chainId := by
  have indices : AtIndices (neighbour chainId) 0 0
      { id := "classifier", uniqueKey := 1 } ⟨"group", []⟩ := ⟨rfl, rfl⟩
  have carries := indices.carries (neighbour_refersOnce chainId) member
  have isLabel : createLabel (neighbour chainId).chainId 0 0 = chainId * 2048 :=
    createLabel_first chainId
  rw [isLabel] at carries
  exact ⟨⟨neighbour chainId, _, _⟩, carries, rfl⟩

/-- The label behind a group is for packets of the same chain and classifier. -/
theorem LabelsIdentify.egress_carried (identify : LabelsIdentify chains)
    (once : RefersOnce portChain) (member : portChain ∈ chains) {fcIdx ppgIdx : Nat}
    {flowClassifier : FlowClassifier} {portPairGroup : PortPairGroup}
    (indices : AtIndices portChain fcIdx ppgIdx flowClassifier portPairGroup) {hop : Hop}
    (carries : Carries chains hop (createLabel portChain.chainId fcIdx ppgIdx + 1)) :
    hop.portChain = portChain ∧ hop.flowClassifier = flowClassifier := by
  have isClassifier := List.mem_of_getElem? indices.classifier
  have egress := indices.egress once
  cases isNext : portChain.portPairGroups[ppgIdx + 1]? with
  | none =>
      have isLast : portChain.portPairGroups.getLast? = some portPairGroup := by
        have inside := indices.ppgInside
        have outside := List.getElem?_eq_none_iff.mp isNext
        have isIndex : portChain.portPairGroups.length - 1 = ppgIdx := by omega
        rw [List.getLast?_eq_getElem?, isIndex]
        exact indices.group
      exact absurd carries
        (identify.last portChain member flowClassifier isClassifier _ _ isLast egress hop)
  | some following =>
      have isIngress := identify.next portChain member flowClassifier isClassifier ppgIdx
        portPairGroup following indices.group isNext
      have nextCarries : Carries chains ⟨portChain, flowClassifier, following⟩
          (createLabel portChain.chainId fcIdx ppgIdx + 1) :=
        ⟨member, isClassifier, List.mem_of_getElem? isNext, isIngress.symm.trans egress⟩
      have same := identify.distinct _ _ _ carries nextCarries
      rw [same]
      exact ⟨rfl, rfl⟩

section Necessary

variable (once : RefersOnce portChain) (identified : Identified portChain)
  (someClassifier : 0 < portChain.flowClassifiers.length)
  (someGroup : 0 < portChain.portPairGroups.length)

include once identified someClassifier

include someGroup in
theorem Identified.chainId_lt : portChain.chainId < 512 := by
  have indices := atIndices_of_lt someClassifier someGroup
  have isClassifier := List.mem_of_getElem? indices.classifier
  have isGroup := List.mem_of_getElem? indices.group
  rcases (identified.alone once).fits portChain rfl _ isClassifier _ isGroup with
    ⟨ingress, egress, isIngress, -, ingressFits, -⟩
  have isLabel := Except.ok.inj ((indices.ingress once).symm.trans isIngress)
  rw [createLabel_first] at isLabel
  omega

include someGroup in
theorem Identified.classifiers_le : portChain.flowClassifiers.length ≤ 8 := by
  by_contra many
  have chainFits := identified.chainId_lt once someClassifier someGroup
  have inside : 8 < portChain.flowClassifiers.length := by omega
  have ninth := atIndices_of_lt inside someGroup
  by_cases isOdd : portChain.chainId % 2 = 1
  · have first := atIndices_of_lt someClassifier someGroup
    have member : portChain ∈ ({portChain} : Set PortChain) := rfl
    have ninthCarries := ninth.carries once member
    have firstCarries := first.carries once member
    rw [createLabel_ninth, if_pos isOdd] at ninthCarries
    rw [createLabel_first] at firstCarries
    have same := (identified.alone once).distinct _ _ _ firstCarries ninthCarries
    have sameClassifier : portChain.flowClassifiers[0] = portChain.flowClassifiers[8] :=
      congrArg Hop.flowClassifier same
    rw [sameClassifier] at first
    exact absurd (first.unique once ninth).1 (by decide)
  · have otherId : portChain.chainId ≠ portChain.chainId + 1 := by omega
    have identify := identified.withNeighbour once otherId (by omega)
    have ninthCarries := ninth.carries once
      (Set.mem_insert portChain {neighbour (portChain.chainId + 1)})
    rw [createLabel_ninth, if_neg isOdd] at ninthCarries
    have member : neighbour (portChain.chainId + 1) ∈
        ({portChain, neighbour (portChain.chainId + 1)} : Set PortChain) :=
      Set.mem_insert_of_mem portChain rfl
    rcases carries_neighbour member with ⟨hop, carries, isNeighbour⟩
    have same := identify.distinct _ _ _ carries ninthCarries
    have sameId : hop.portChain.chainId = portChain.chainId := by rw [same]
    rw [isNeighbour] at sameId
    exact absurd sameId (Nat.succ_ne_self portChain.chainId)

theorem Identified.groups_lt_single : portChain.portPairGroups.length < 2048 := by
  by_contra many
  have inside : 2047 < portChain.portPairGroups.length := by omega
  have indices := atIndices_of_lt someClassifier inside
  have isClassifier := List.mem_of_getElem? indices.classifier
  have isGroup := List.mem_of_getElem? indices.group
  have isLabel : createLabel portChain.chainId 0 2047 + 1 =
      (portChain.chainId + 1) * 2048 := by
    rw [createLabel_firstClassifier (by omega)]
    omega
  have nextFits : portChain.chainId + 1 < 512 := by
    rcases (identified.alone once).fits portChain rfl _ isClassifier _ isGroup with
      ⟨ingress, egress, -, isEgress, -, egressFits⟩
    have isEgress := Except.ok.inj ((indices.egress once).symm.trans isEgress)
    omega
  have identify := identified.withNeighbour once (by omega) nextFits
  have member : neighbour (portChain.chainId + 1) ∈
      ({portChain, neighbour (portChain.chainId + 1)} : Set PortChain) :=
    Set.mem_insert_of_mem portChain rfl
  rcases carries_neighbour member with ⟨hop, carries, isNeighbour⟩
  rw [← isLabel] at carries
  have sameChain := (identify.egress_carried once (Set.mem_insert portChain _) indices
    carries).1
  have sameId : hop.portChain.chainId = portChain.chainId := by rw [sameChain]
  rw [isNeighbour] at sameId
  exact absurd sameId (Nat.succ_ne_self portChain.chainId)

include someGroup in
theorem Identified.groups_lt_several (several : 2 ≤ portChain.flowClassifiers.length) :
    portChain.portPairGroups.length < 256 := by
  by_contra many
  have inside : 255 < portChain.portPairGroups.length := by omega
  have indices := atIndices_of_lt someClassifier inside
  have second := atIndices_of_lt several someGroup
  have member : portChain ∈ ({portChain} : Set PortChain) := rfl
  have carries := second.carries once member
  have isLabel : createLabel portChain.chainId 1 0 =
      createLabel portChain.chainId 0 255 + 1 := by
    rw [createLabel_eq (by omega) (by omega), createLabel_eq (by omega) (by omega)]
  rw [isLabel] at carries
  have sameClassifier := ((identified.alone once).egress_carried once member indices
    carries).2
  have sameClassifier : portChain.flowClassifiers[1] = portChain.flowClassifiers[0] :=
    sameClassifier
  rw [sameClassifier] at second
  exact absurd (second.unique once (atIndices_of_lt someClassifier someGroup)).1
    (by decide)

end Necessary

/-- The labels of a chain identify its hops, whatever fitting chains there are, exactly
when the chain fits: its id below 512, and below 2048 groups for one classifier or
below 256 groups for up to 8 classifiers. -/
theorem labels_identify_hops (once : RefersOnce portChain) :
    (∀ chains : Set PortChain, portChain ∈ chains → DistinctChains chains →
      (∀ other ∈ chains, other ≠ portChain → LabelsFit other) → LabelsIdentify chains) ↔
    LabelsFit portChain := by
  constructor
  · intro identified
    have identified : Identified portChain := identified
    by_cases noClassifier : portChain.flowClassifiers = []
    · exact Or.inl noClassifier
    by_cases noGroup : portChain.portPairGroups = []
    · exact Or.inr (Or.inl noGroup)
    have someClassifier := List.length_pos_iff.mpr noClassifier
    have someGroup := List.length_pos_iff.mpr noGroup
    have chainFits := identified.chainId_lt once someClassifier someGroup
    have fewClassifiers := identified.classifiers_le once someClassifier someGroup
    refine Or.inr (Or.inr ⟨chainFits, ?_⟩)
    by_cases several : 2 ≤ portChain.flowClassifiers.length
    · exact Or.inr ⟨several, fewClassifiers,
        identified.groups_lt_several once someClassifier someGroup several⟩
    · exact Or.inl ⟨by omega, identified.groups_lt_single once someClassifier⟩
  · intro fit chains member distinctChains othersFit
    apply labelsIdentify_of_fit distinctChains
    intro other isOther
    by_cases isChain : other = portChain
    · rw [isChain]
      exact fit
    · exact othersFit other isOther isChain

theorem labels_identify_hops_neighbour :
    RefersOnce (neighbour 3) ∧ LabelsFit (neighbour 3) ∧
      ∀ chains : Set PortChain, neighbour 3 ∈ chains → DistinctChains chains →
        (∀ other ∈ chains, other ≠ neighbour 3 → LabelsFit other) →
        LabelsIdentify chains := by
  have fit : LabelsFit (neighbour 3) := neighbour_fit (by decide)
  exact ⟨neighbour_refersOnce 3, fit,
    (labels_identify_hops (neighbour_refersOnce 3)).mpr fit⟩

/-- The traffic of one port. -/
def classifierOf (id : Id) (uniqueKey : Nat) : FlowClassifier where
  id
  uniqueKey
  sourcePort := some { id, uniqueKey }

/-- Nine classifiers, each with a source port of its own. -/
def crowdedChain : PortChain where
  id := "crowded"
  chainId := 1
  portPairGroups := [⟨"group", []⟩]
  flowClassifiers := [classifierOf "a" 1, classifierOf "b" 2, classifierOf "c" 3,
    classifierOf "d" 4, classifierOf "e" 5, classifierOf "f" 6, classifierOf "g" 7,
    classifierOf "h" 8, classifierOf "i" 9]

/-- The first and the ninth classifier of a chain have the same label. -/
theorem ninth_classifier_shares_label :
    RefersOnce crowdedChain ∧ ¬ LabelsIdentify {crowdedChain} ∧
      ∃ first ∈ crowdedChain.flowClassifiers, ∃ ninth ∈ crowdedChain.flowClassifiers,
        first ≠ ninth ∧
        getIngressLabel crowdedChain first ⟨"group", []⟩ = .ok 2048 ∧
        getIngressLabel crowdedChain ninth ⟨"group", []⟩ = .ok 2048 := by
  have once : RefersOnce crowdedChain := ⟨by decide, by decide⟩
  have first : AtIndices crowdedChain 0 0 (classifierOf "a" 1) ⟨"group", []⟩ :=
    ⟨rfl, rfl⟩
  have ninth : AtIndices crowdedChain 8 0 (classifierOf "i" 9) ⟨"group", []⟩ :=
    ⟨rfl, rfl⟩
  have different : classifierOf "a" 1 ≠ classifierOf "i" 9 := by decide
  refine ⟨once, ?_, _, List.mem_of_getElem? first.classifier, _,
    List.mem_of_getElem? ninth.classifier, different, first.ingress once,
    ninth.ingress once⟩
  intro identify
  have member : crowdedChain ∈ ({crowdedChain} : Set PortChain) := rfl
  have firstCarries := first.carries once member
  have ninthCarries := ninth.carries once member
  have same := identify.distinct _ _ _ firstCarries ninthCarries
  exact different (congrArg Hop.flowClassifier same)

end SfcApp

end Dragonflow
