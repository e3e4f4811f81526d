import Dragonflow.Controller.Apps.SfcWrites
import Dragonflow.Foundation.Steps

/-! # The ends of a chain

Packets enter a chain where their source port is, or anywhere, and leave it where
their destination port is, or anywhere. The flows for this follow the ports as long
as no destination port is unbound.
-/

namespace Dragonflow

open Program

namespace SfcApp

variable {isLocal : Id → Bool} {portsecMain : Nat} {portChain : PortChain}
  {flowClassifier : FlowClassifier}

/-! ## What port pairs leave alone -/

/-- The places of the flows by which packets enter and leave a chain. -/
def EndPlace (place : Place OFPMatch) : Prop :=
  place.2.2.reg2 ≠ none ∨
    (place.1 = Const.sfcMplsDispatchTable ∧ place.2.2.mplsTc ≠ none)

def SameEnds (before after : SfcApp) : Prop :=
  ∀ place, EndPlace place → after.content (.inl place) = before.content (.inl place)

instance : IsPreorder SfcApp SameEnds where
  refl _ _ _ := rfl
  trans _ _ _ first second place isEnd :=
    (second place isEnd).trans (first place isEnd)

/-- The writes are about something else. -/
def OffEnds (writes : List SfcWrite) : Prop :=
  ∀ place, EndPlace place → ¬ Write.Touch writes (.inl place)

theorem Writes.sameEnds {action : Action Unit} {writes : List SfcWrite}
    (doesWrite : Writes action writes) (off : OffEnds writes) : Keeps SameEnds action := by
  intro app place isEnd
  rcases doesWrite app with ⟨after, executed, isAfter⟩
  rw [executed, isAfter, Write.applyAll_untouched (off place isEnd)]

theorem offEnds_single {table priority : Nat} {pattern : OFPMatch} {write : SfcWrite}
    (isKey : write.key = .inl (table, priority, pattern))
    (notEnd : ¬ EndPlace (table, priority, pattern)) : OffEnds [write] := by
  rintro place isEnd ⟨found, member, atPlace⟩
  rw [List.mem_singleton.mp member, isKey] at atPlace
  cases atPlace
  exact notEnd isEnd

theorem labelMatch_notEnd (table priority label : Nat) :
    ¬ EndPlace (table, priority, labelMatch label) := by
  simp [EndPlace, labelMatch]

theorem labelWrites_offEnds (portPairGroup : PortPairGroup) (label : Nat) :
    OffEnds (labelWrites isLocal portPairGroup label) := by
  rintro place isEnd ⟨write, member, isPlace⟩
  have notLabel : ∀ table priority, place ≠ (table, priority, labelMatch label) :=
    fun table priority same => labelMatch_notEnd table priority label (same ▸ isEnd)
  simp only [labelWrites, List.mem_append, List.mem_map] at member
  rcases member with ⟨type, _, rfl⟩ | (isGroup | isAll) | isLocally
  · cases isPlace
    rcases isEnd with impossible | ⟨impossible, _⟩
    · exact impossible rfl
    · cases impossible
  · rcases List.mem_pair.mp isGroup with rfl | rfl <;> cases isPlace
  · rw [List.mem_singleton.mp isAll] at isPlace
    exact notLabel _ _ (Sum.inl_injective isPlace).symm
  · split at isLocally
    · rcases List.mem_append.mp isLocally with isGroup | isFlow
      · rcases List.mem_pair.mp isGroup with rfl | rfl <;> cases isPlace
      · rw [List.mem_singleton.mp isFlow] at isPlace
        exact notLabel _ _ (Sum.inl_injective isPlace).symm
    · cases isLocally

theorem labelDrops_offEnds (portPairGroup : PortPairGroup) (label : Nat) :
    OffEnds (labelDrops isLocal portPairGroup label) := by
  rintro place isEnd ⟨write, member, isPlace⟩
  have notLabel : ∀ table priority, place ≠ (table, priority, labelMatch label) :=
    fun table priority same => labelMatch_notEnd table priority label (same ▸ isEnd)
  simp only [labelDrops, List.mem_append, List.mem_singleton] at member
  rcases member with rfl | (rfl | rfl) | isLocally
  · exact notLabel _ _ (Sum.inl_injective isPlace).symm
  · exact notLabel _ _ (Sum.inl_injective isPlace).symm
  · cases isPlace
  · split at isLocally
    · rcases List.mem_append.mp isLocally with isFlow | isGroup
      · rw [List.mem_singleton.mp isFlow] at isPlace
        exact notLabel _ _ (Sum.inl_injective isPlace).symm
      · rw [List.mem_singleton.mp isGroup] at isPlace
        cases isPlace
    · cases isLocally

theorem installPortPairGroupFlows_sameEnds (portPairGroup : PortPairGroup) :
    Keeps SameEnds (installPortPairGroupFlows isLocal portChain portPairGroup) :=
  Keeps.loop _ fun _ _ => Keeps.bind (Keeps.ofExcept _) fun label =>
    installLabel_writes.sameEnds (labelWrites_offEnds portPairGroup label)

theorem uninstallPortPairGroupFlows_sameEnds (portPairGroup : PortPairGroup) :
    Keeps SameEnds (uninstallPortPairGroupFlows isLocal portChain portPairGroup) :=
  Keeps.loop _ fun _ _ => Keeps.bind (Keeps.ofExcept _) fun label =>
    uninstallLabel_writes.sameEnds (labelDrops_offEnds portPairGroup label)

theorem installPortPairEgressFlows_sameEnds (portPairGroup : PortPairGroup)
    (portPair : PortPair) : Keeps SameEnds
      (installPortPairEgressFlows portsecMain portChain portPairGroup portPair) := by
  unfold installPortPairEgressFlows
  split
  · refine Keeps.loop _ fun _ _ => Keeps.bind (Keeps.ofExcept _) fun label =>
      Keeps.bind (Keeps.ofExcept _) fun egressLabel => ?_
    refine (writes_put rfl).sameEnds (offEnds_single rfl ?_)
    simp [EndPlace, mplsEgressFlow, mplsEgressMatch, labelMatch]
  · refine Keeps.loop _ fun _ _ => Keeps.bind (Keeps.ofExcept _) fun label =>
      Keeps.loop _ fun type _ => ?_
    refine (writes_put rfl).sameEnds (offEnds_single rfl ?_)
    simp [EndPlace, noneEgressFlow, noneEgressMatch]
  · exact Keeps.pure _

theorem uninstallPortPairEgressFlows_sameEnds (portPairGroup : PortPairGroup)
    (portPair : PortPair) : Keeps SameEnds
      (uninstallPortPairEgressFlows portsecMain portChain portPairGroup portPair) := by
  unfold uninstallPortPairEgressFlows
  split
  · refine Keeps.loop _ fun _ _ => Keeps.bind (Keeps.ofExcept _) fun label => ?_
    refine (writes_deletion _ _ _).sameEnds (offEnds_single rfl ?_)
    simp [EndPlace, mplsEgressMatch, labelMatch]
  · refine Keeps.loop _ fun type _ => ?_
    refine (writes_deletion _ _ _).sameEnds (offEnds_single rfl ?_)
    simp [EndPlace, noneEgressMatch]
  · exact Keeps.pure _

theorem onlyIf_sameEnds {condition : Prop} [Decidable condition] {action : Action Unit}
    (keeps : Keeps SameEnds action) : Keeps SameEnds (onlyIf condition action) := by
  unfold onlyIf
  split
  · exact keeps
  · exact Keeps.pure _

theorem whenFound_sameEnds {α : Type} (found : Option α) {action : α → Action Unit}
    (keeps : ∀ value, Keeps SameEnds (action value)) :
    Keeps SameEnds (whenFound found action) := by
  cases found with
  | none => exact Keeps.pure _
  | some value => exact keeps value

theorem addPortPairGroup_sameEnds (portPairGroup : PortPairGroup) :
    Keeps SameEnds (addPortPairGroup isLocal portsecMain portChain portPairGroup) :=
  Keeps.bind (installPortPairGroupFlows_sameEnds portPairGroup) fun _ =>
    Keeps.loop _ fun portPair _ =>
      onlyIf_sameEnds (installPortPairEgressFlows_sameEnds portPairGroup portPair)

/-! ## The flows at the ends -/

def encapPlace (flowClassifier : FlowClassifier) (type : TrafficClass) : Target :=
  .inl (Const.sfcEncapTable, Const.priorityHigh, encapMatch flowClassifier type.ethType)

def exitPlace (label : Nat) (type : TrafficClass) : Target :=
  .inl (Const.sfcMplsDispatchTable, Const.priorityHigh, labelTcMatch label type.tc)

variable {other : FlowClassifier} {label otherLabel : Nat} {type : TrafficClass}
  {content : Target → Option Content}

theorem type_eq_of_ethType : ∀ first ∈ ethTypeToTc, ∀ second ∈ ethTypeToTc,
    first.ethType = second.ethType → first = second := by
  decide

theorem type_eq_of_tc : ∀ first ∈ ethTypeToTc, ∀ second ∈ ethTypeToTc,
    first.tc = second.tc → first = second := by
  decide

theorem encapPlace_inj {otherType : TrafficClass}
    (same : encapPlace other otherType = encapPlace flowClassifier type) :
    other.uniqueKey = flowClassifier.uniqueKey ∧ otherType.ethType = type.ethType := by
  simpa [encapPlace, encapMatch, and_comm] using same

theorem exitPlace_inj {otherType : TrafficClass}
    (same : exitPlace otherLabel otherType = exitPlace label type) :
    otherLabel = label ∧ otherType.tc = type.tc := by
  simpa [exitPlace, labelTcMatch, labelMatch] using same

theorem encapPlace_ne_exitPlace {otherType : TrafficClass} :
    encapPlace flowClassifier otherType ≠ exitPlace label type := by
  simp [encapPlace, exitPlace, Const.sfcEncapTable, Const.sfcMplsDispatchTable]

/-- One write for each of the types. -/
theorem applyAll_types {write : TrafficClass → SfcWrite} (member : type ∈ ethTypeToTc)
    (apart : ∀ found ∈ ethTypeToTc, (write found).key = (write type).key → found = type) :
    Write.applyAll content (ethTypeToTc.map write) (write type).key =
      (write type).value := by
  refine Write.applyAll_agreed ⟨write type, List.mem_map_of_mem member, rfl⟩ ?_
  intro found isFound sameKey
  rcases List.mem_map.mp isFound with ⟨foundType, isType, rfl⟩
  rw [apart foundType isType sameKey]

theorem encapWrites_self (member : type ∈ ethTypeToTc) :
    Write.applyAll content (encapWrites flowClassifier label)
      (encapPlace flowClassifier type) =
        some (.inl (encapFlow flowClassifier label type).flow.entry) :=
  applyAll_types member fun found isType same =>
    type_eq_of_ethType found isType type member (encapPlace_inj same).2

theorem encapDrops_self (member : type ∈ ethTypeToTc) :
    Write.applyAll content (encapDrops flowClassifier) (encapPlace flowClassifier type) =
      none :=
  applyAll_types member fun found isType same =>
    type_eq_of_ethType found isType type member (encapPlace_inj same).2

theorem decapWrites_self (member : type ∈ ethTypeToTc) :
    Write.applyAll content (decapWrites flowClassifier label) (exitPlace label type) =
      some (.inl (decapFlow flowClassifier label type).flow.entry) :=
  applyAll_types member fun found isType same =>
    type_eq_of_tc found isType type member (exitPlace_inj same).2

theorem forwardWrites_self {key : Nat} (member : type ∈ ethTypeToTc) :
    Write.applyAll content (forwardWrites key label) (exitPlace label type) =
      some (.inl (forwardFlow key label type).flow.entry) :=
  applyAll_types member fun found isType same =>
    type_eq_of_tc found isType type member (exitPlace_inj same).2

/-! ### Which places are touched -/

theorem touch_types {write : TrafficClass → SfcWrite} {target : Target}
    (touched : Write.Touch (ethTypeToTc.map write) target) :
    ∃ found ∈ ethTypeToTc, (write found).key = target := by
  rcases touched with ⟨found, isFound, sameKey⟩
  rcases List.mem_map.mp isFound with ⟨foundType, isType, rfl⟩
  exact ⟨foundType, isType, sameKey⟩

theorem touch_encapWrites
    (touched : Write.Touch (encapWrites other otherLabel)
      (encapPlace flowClassifier type)) :
    other.uniqueKey = flowClassifier.uniqueKey := by
  rcases touch_types touched with ⟨found, _, same⟩
  exact (encapPlace_inj same).1

theorem touch_encapDrops
    (touched : Write.Touch (encapDrops other) (encapPlace flowClassifier type)) :
    other.uniqueKey = flowClassifier.uniqueKey := by
  rcases touch_types touched with ⟨found, _, same⟩
  exact (encapPlace_inj same).1

theorem not_touch_exit_encap :
    ¬ Write.Touch (encapWrites other otherLabel) (exitPlace label type) := by
  intro touched
  rcases touch_types touched with ⟨found, _, same⟩
  exact encapPlace_ne_exitPlace same

theorem not_touch_exit_encapDrops :
    ¬ Write.Touch (encapDrops other) (exitPlace label type) := by
  intro touched
  rcases touch_types touched with ⟨found, _, same⟩
  exact encapPlace_ne_exitPlace same

theorem touch_dispatchWrites
    (touched : Write.Touch (dispatchWrites isLocal other otherLabel)
      (exitPlace label type)) : otherLabel = label := by
  unfold dispatchWrites at touched
  split at touched <;> rcases touch_types touched with ⟨found, _, same⟩
  · exact (exitPlace_inj same).1
  · exact (exitPlace_inj same).1

theorem not_touch_encap_dispatch :
    ¬ Write.Touch (dispatchWrites isLocal other otherLabel)
      (encapPlace flowClassifier type) := by
  unfold dispatchWrites
  split <;> intro touched <;> rcases touch_types touched with ⟨found, _, same⟩
  · exact encapPlace_ne_exitPlace same.symm
  · exact encapPlace_ne_exitPlace same.symm

theorem touch_decap
    (touched : Write.Touch (decapDrops otherLabel ++ decapWrites other otherLabel)
      (exitPlace label type)) : otherLabel = label := by
  rcases Write.touch_append.mp touched with touched | touched <;>
    rcases touch_types touched with ⟨found, _, same⟩
  · exact (exitPlace_inj same).1
  · exact (exitPlace_inj same).1

theorem not_touch_encap_decap :
    ¬ Write.Touch (decapDrops otherLabel ++ decapWrites other otherLabel)
      (encapPlace flowClassifier type) := by
  intro touched
  rcases Write.touch_append.mp touched with touched | touched <;>
    rcases touch_types touched with ⟨found, _, same⟩
  · exact encapPlace_ne_exitPlace same.symm
  · exact encapPlace_ne_exitPlace same.symm

theorem touch_dispatchWrites_self (member : type ∈ ethTypeToTc) :
    Write.Touch (dispatchWrites isLocal flowClassifier label) (exitPlace label type) := by
  unfold dispatchWrites
  split
  · exact ⟨put (decapFlow flowClassifier label type), List.mem_map_of_mem member, rfl⟩
  · exact ⟨put (forwardFlow _ label type), List.mem_map_of_mem member, rfl⟩

/-- The flow that a packet meets where it leaves the chain. -/
def exitFlow (isLocal : Id → Bool) (flowClassifier : FlowClassifier) (label : Nat)
    (type : TrafficClass) : OFPFlowMod :=
  if flowClassifier.isDispatchLocal isLocal then decapFlow flowClassifier label type
  else forwardFlow (forwardKey flowClassifier) label type

theorem dispatchWrites_self (member : type ∈ ethTypeToTc) :
    Write.applyAll content (dispatchWrites isLocal flowClassifier label)
      (exitPlace label type) =
        some (.inl (exitFlow isLocal flowClassifier label type).flow.entry) := by
  unfold dispatchWrites exitFlow
  split
  · exact decapWrites_self member
  · exact forwardWrites_self member

/-! ## Chains that can be told apart -/

/-- The chain leads somewhere, and its classifiers have keys and labels of their
own. -/
structure Distinguishable (portChain : PortChain) : Prop where
  groups : portChain.portPairGroups ≠ []
  keys : ∀ first ∈ portChain.flowClassifiers, ∀ second ∈ portChain.flowClassifiers,
    first.uniqueKey = second.uniqueKey → first = second
  labels : ∀ first ∈ portChain.flowClassifiers, ∀ second ∈ portChain.flowClassifiers,
    getDecapLabel portChain first = getDecapLabel portChain second → first = second

def labelOf (result : Except PyError Nat) : Nat := result.toOption.getD 0

/-- The label with which packets of the classifier enter the chain. -/
def entryLabel (portChain : PortChain) (flowClassifier : FlowClassifier) : Nat :=
  labelOf (getEncapLabel portChain flowClassifier)

/-- The label with which packets of the classifier leave the chain. -/
def exitLabel (portChain : PortChain) (flowClassifier : FlowClassifier) : Nat :=
  labelOf (getDecapLabel portChain flowClassifier)

theorem getEncapLabel_entry (groups : portChain.portPairGroups ≠ [])
    (member : flowClassifier ∈ portChain.flowClassifiers) :
    getEncapLabel portChain flowClassifier = .ok (entryLabel portChain flowClassifier) := by
  rcases List.isSome_head?.mpr groups |> Option.isSome_iff_exists.mp with ⟨first, isFirst⟩
  unfold entryLabel
  rw [getEncapLabel_of_mem isFirst member]
  rfl

theorem getDecapLabel_exit (groups : portChain.portPairGroups ≠ [])
    (member : flowClassifier ∈ portChain.flowClassifiers) :
    getDecapLabel portChain flowClassifier = .ok (exitLabel portChain flowClassifier) := by
  have isLast := List.getLast?_eq_some_getLast groups
  unfold exitLabel
  rw [getDecapLabel_of_mem isLast member]
  rfl

theorem Distinguishable.entry (distinguishable : Distinguishable portChain)
    (member : flowClassifier ∈ portChain.flowClassifiers) :
    getEncapLabel portChain flowClassifier = .ok (entryLabel portChain flowClassifier) :=
  getEncapLabel_entry distinguishable.groups member

theorem Distinguishable.exit (distinguishable : Distinguishable portChain)
    (member : flowClassifier ∈ portChain.flowClassifiers) :
    getDecapLabel portChain flowClassifier = .ok (exitLabel portChain flowClassifier) :=
  getDecapLabel_exit distinguishable.groups member

theorem Distinguishable.exitLabel_inj (distinguishable : Distinguishable portChain)
    (member : flowClassifier ∈ portChain.flowClassifiers)
    (otherMember : other ∈ portChain.flowClassifiers)
    (same : exitLabel portChain other = exitLabel portChain flowClassifier) :
    other = flowClassifier := by
  refine distinguishable.labels other otherMember flowClassifier member ?_
  rw [distinguishable.exit otherMember, distinguishable.exit member, same]

/-- The flows at both ends of the chain are those for the ports that are local. -/
structure EndsFollow (isLocal : Id → Bool) (portChain : PortChain)
    (content : Target → Option Content) : Prop where
  entry : ∀ flowClassifier ∈ portChain.flowClassifiers, ∀ type ∈ ethTypeToTc,
    content (encapPlace flowClassifier type) =
      if flowClassifier.isClassificationLocal isLocal then
        some (.inl (encapFlow flowClassifier
          (entryLabel portChain flowClassifier) type).flow.entry)
      else none
  exit : ∀ flowClassifier ∈ portChain.flowClassifiers, ∀ type ∈ ethTypeToTc,
    content (exitPlace (exitLabel portChain flowClassifier) type) =
      some (.inl (exitFlow isLocal flowClassifier
        (exitLabel portChain flowClassifier) type).flow.entry)

theorem EndsFollow.sameEnds {before after : SfcApp}
    (follow : EndsFollow isLocal portChain before.content)
    (same : SameEnds before after) : EndsFollow isLocal portChain after.content where
  entry flowClassifier member type isType := by
    rw [← follow.entry flowClassifier member type isType]
    exact same _ (Or.inl (by simp [encapMatch]))
  exit flowClassifier member type isType := by
    rw [← follow.exit flowClassifier member type isType]
    exact same _ (Or.inr ⟨rfl, by simp [labelTcMatch]⟩)

/-! ## Creating a chain -/

def classifierWrites (isLocal : Id → Bool) (portChain : PortChain)
    (flowClassifier : FlowClassifier) : List SfcWrite :=
  (if flowClassifier.isClassificationLocal isLocal then
      encapWrites flowClassifier (entryLabel portChain flowClassifier) else []) ++
    dispatchWrites isLocal flowClassifier (exitLabel portChain flowClassifier)

theorem installFlowClassifiers_writes (distinguishable : Distinguishable portChain) :
    Writes (forM portChain.flowClassifiers (installFlowClassifierFlows isLocal portChain))
      (portChain.flowClassifiers.flatMap (classifierWrites isLocal portChain)) :=
  writes_loop _ fun _ member => installFlowClassifierFlows_writes
    (distinguishable.entry member) (distinguishable.exit member)

/-- Both ends of every classifier are written, whatever was there before. -/
theorem classifierWrites_follow (distinguishable : Distinguishable portChain)
    (empty : ∀ flowClassifier ∈ portChain.flowClassifiers, ∀ type ∈ ethTypeToTc,
      content (encapPlace flowClassifier type) = none) :
    EndsFollow isLocal portChain (Write.applyAll content
      (portChain.flowClassifiers.flatMap (classifierWrites isLocal portChain))) where
  entry flowClassifier member type isType := by
    have touches : ∀ found ∈ portChain.flowClassifiers,
        Write.Touch (classifierWrites isLocal portChain found)
          (encapPlace flowClassifier type) →
        found = flowClassifier ∧ found.isClassificationLocal isLocal = true := by
      intro found isFound touched
      rcases Write.touch_append.mp touched with touched | touched
      · split at touched
        · next locally =>
            exact ⟨distinguishable.keys found isFound flowClassifier member
              (touch_encapWrites touched), locally⟩
        · exact absurd touched (by simp [Write.Touch])
      · exact absurd touched not_touch_encap_dispatch
    split
    · next locally =>
        refine Write.applyAll_settled (Write.touch_flatMap.mpr ⟨flowClassifier, member,
          Write.touch_append.mpr (Or.inl ?_)⟩) ?_
        · rw [if_pos locally]
          exact ⟨put (encapFlow flowClassifier _ type), List.mem_map_of_mem isType, rfl⟩
        · intro found isFound touched content
          rcases touches found isFound touched with ⟨rfl, _⟩
          rw [classifierWrites, Write.applyAll_append,
            Write.applyAll_untouched not_touch_encap_dispatch, if_pos locally]
          exact encapWrites_self isType
    · next notLocal =>
        rw [Write.applyAll_untouched, empty flowClassifier member type isType]
        intro touched
        rcases Write.touch_flatMap.mp touched with ⟨found, isFound, touched⟩
        rcases touches found isFound touched with ⟨rfl, locally⟩
        exact notLocal locally
  exit flowClassifier member type isType := by
    refine Write.applyAll_settled (Write.touch_flatMap.mpr ⟨flowClassifier, member,
      Write.touch_append.mpr (Or.inr (touch_dispatchWrites_self isType))⟩) ?_
    intro found isFound touched content
    rcases Write.touch_append.mp touched with touched | touched
    · split at touched
      · exact absurd touched not_touch_exit_encap
      · exact absurd touched (by simp [Write.Touch])
    · cases distinguishable.exitLabel_inj member isFound (touch_dispatchWrites touched)
      rw [classifierWrites, Write.applyAll_append]
      exact dispatchWrites_self isType

/-- No packets of the chain's classifiers enter a chain. -/
def NoEntry (portChain : PortChain) (app : SfcApp) : Prop :=
  ∀ flowClassifier ∈ portChain.flowClassifiers, ∀ type ∈ ethTypeToTc,
    app.flows Const.sfcEncapTable Const.priorityHigh
      (encapMatch flowClassifier type.ethType) = none

theorem portChainCreated_follow (distinguishable : Distinguishable portChain)
    {app : SfcApp} (noEntry : NoEntry portChain app) :
    EndsFollow isLocal portChain
      (exec (portChainCreated isLocal portsecMain portChain) app).2.content := by
  have classifiers : Writes (forM portChain.flowClassifiers
      (installFlowClassifierFlows isLocal portChain)) _ :=
    installFlowClassifiers_writes distinguishable
  rcases classifiers app with ⟨middle, executed, isMiddle⟩
  have follow : EndsFollow isLocal portChain middle.content := by
    rw [isMiddle]
    refine classifierWrites_follow distinguishable fun flowClassifier member type isType => ?_
    exact Option.map_eq_none_iff.mpr (noEntry flowClassifier member type isType)
  have rest : Keeps SameEnds (forM portChain.portPairGroups
      (addPortPairGroup isLocal portsecMain portChain)) :=
    Keeps.loop _ fun portPairGroup _ => addPortPairGroup_sameEnds portPairGroup
  rw [portChainCreated, exec_bind, executed]
  exact follow.sameEnds (rest middle)

/-! ## Ports that come and go -/

/-- A node, with the ports that are local to it. -/
structure ChainNode where
  localPorts : Finset Id
  app : SfcApp

def ChainNode.hosts (node : ChainNode) (id : Id) : Bool := id ∈ node.localPorts

inductive PortMove
  | bind (lport : LogicalPort)
  | unbind (lport : LogicalPort)
  deriving DecidableEq

def PortMove.lport : PortMove → LogicalPort
  | .bind lport => lport
  | .unbind lport => lport

variable (portsecMain) (store : Store)

/-- `EVENT_BIND_LOCAL` and `EVENT_UNBIND_LOCAL`, which alternate for every port. What
a handler raises is logged. -/
def move (node : ChainNode) : PortMove → Option ChainNode
  | .bind lport =>
      let localPorts := insert lport.id node.localPorts
      if lport.id ∈ node.localPorts then none
      else some ⟨localPorts, (exec (localLportCreated (fun id => id ∈ localPorts)
        portsecMain store lport) node.app).2⟩
  | .unbind lport =>
      let localPorts := node.localPorts.erase lport.id
      if lport.id ∈ node.localPorts then
        some ⟨localPorts, (exec (localLportDeleted (fun id => id ∈ localPorts)
          portsecMain store lport) node.app).2⟩
      else none

/-- The chain is created on a node. -/
def ChainNode.create (node : ChainNode) (portChain : PortChain) : ChainNode :=
  ⟨node.localPorts,
    (exec (portChainCreated node.hosts portsecMain portChain) node.app).2⟩

variable {portsecMain store}

/-- The store has the chain among others. A classifier is in one chain at most, and
those of the chain are valid. -/
structure Stores (store : Store) (portChain : PortChain) : Prop where
  chain : portChain ∈ store.portChains
  nodup : store.portChains.Nodup
  classifiers : ∀ other ∈ store.portChains, ∀ flowClassifier ∈ other.flowClassifiers,
    flowClassifier ∈ store.flowClassifiers
  ids : ∀ first ∈ store.flowClassifiers, ∀ second ∈ store.flowClassifiers,
    first.id = second.id → first = second
  keys : ∀ first ∈ store.flowClassifiers, ∀ second ∈ store.flowClassifiers,
    first.uniqueKey = second.uniqueKey → first = second
  alone : ∀ first ∈ store.portChains, ∀ second ∈ store.portChains,
    ∀ flowClassifier ∈ first.flowClassifiers, flowClassifier ∈ second.flowClassifiers →
      first = second
  valid : ∀ flowClassifier ∈ portChain.flowClassifiers,
    flowClassifier.sourcePort = none ↔ flowClassifier.destPort ≠ none

theorem Stores.stored (stores : Stores store portChain)
    (member : flowClassifier ∈ portChain.flowClassifiers) :
    flowClassifier ∈ store.flowClassifiers :=
  stores.classifiers portChain stores.chain flowClassifier member

def chainOf (store : Store) (flowClassifier : FlowClassifier) : Option PortChain :=
  store.portChains.find? fun other => flowClassifier ∈ other.flowClassifiers

theorem of_chainOf {other : PortChain} (found : chainOf store flowClassifier = some other) :
    other ∈ store.portChains ∧ flowClassifier ∈ other.flowClassifiers := by
  unfold chainOf at found
  have holds := List.find?_some found
  exact ⟨List.mem_of_find?_eq_some found, of_decide_eq_true holds⟩

theorem Stores.chainOf_eq (stores : Stores store portChain)
    (member : flowClassifier ∈ portChain.flowClassifiers) :
    chainOf store flowClassifier = some portChain := by
  cases isChain : chainOf store flowClassifier with
  | none =>
      have missing := List.find?_eq_none.mp isChain portChain stores.chain
      exact absurd (decide_eq_true member) missing
  | some other =>
      rcases of_chainOf isChain with ⟨isStored, otherMember⟩
      rw [stores.alone other isStored portChain stores.chain _ otherMember member]

theorem getOne_eq_head {α : Type} {found : List α}
    (same : ∀ first ∈ found, ∀ second ∈ found, first = second) (nodup : found.Nodup) :
    getOne found = .ok found.head? := by
  match found with
  | [] => rfl
  | [_] => rfl
  | first :: second :: rest =>
      have isSame := same first (by simp) second (by simp)
      rw [isSame] at nodup
      exact absurd List.mem_cons_self (List.nodup_cons.mp nodup).1

theorem Stores.lookup (stores : Stores store portChain)
    (isStored : flowClassifier ∈ store.flowClassifiers) :
    portChainByFlowClassifier store flowClassifier =
      .ok (chainOf store flowClassifier) := by
  have sameId : ∀ other ∈ store.portChains,
      decide (flowClassifier.id ∈ other.flowClassifiers.map FlowClassifier.id) =
        decide (flowClassifier ∈ other.flowClassifiers) := by
    intro other isChain
    refine decide_eq_decide.mpr ⟨fun member => ?_, List.mem_map_of_mem⟩
    rcases List.mem_map.mp member with ⟨found, isFound, same⟩
    rw [← stores.ids found (stores.classifiers other isChain found isFound) _ isStored same]
    exact isFound
  unfold portChainByFlowClassifier
  rw [List.filter_congr sameId, getOne_eq_head, List.head?_filter]
  · rfl
  · intro first isFirst second isSecond
    rcases List.mem_filter.mp isFirst with ⟨firstStored, inFirst⟩
    rcases List.mem_filter.mp isSecond with ⟨secondStored, inSecond⟩
    exact stores.alone first firstStored second secondStored _
      (of_decide_eq_true inFirst) (of_decide_eq_true inSecond)
  · exact stores.nodup.filter _

def bindWrites (portChain : PortChain) (flowClassifier : FlowClassifier) :
    List SfcWrite :=
  (if flowClassifier.sourcePort ≠ none then
      encapWrites flowClassifier (entryLabel portChain flowClassifier) else []) ++
    if flowClassifier.destPort ≠ none then
      decapDrops (exitLabel portChain flowClassifier) ++
        decapWrites flowClassifier (exitLabel portChain flowClassifier)
    else []

def unbindWrites (portChain : PortChain) (flowClassifier : FlowClassifier) :
    List SfcWrite :=
  (if flowClassifier.sourcePort ≠ none then encapDrops flowClassifier else []) ++
    if flowClassifier.destPort ≠ none then
      forwardWrites (forwardKey flowClassifier) (exitLabel portChain flowClassifier) ++
        decapDrops (exitLabel portChain flowClassifier)
    else []

/-- The writes about the chain of a classifier. -/
def chainWrites (store : Store) (writes : PortChain → FlowClassifier → List SfcWrite)
    (flowClassifier : FlowClassifier) : List SfcWrite :=
  match chainOf store flowClassifier with
  | none => []
  | some other => writes other flowClassifier

theorem touch_chainWrites {writes : PortChain → FlowClassifier → List SfcWrite}
    {target : Target}
    (touched : Write.Touch (chainWrites store writes flowClassifier) target) :
    ∃ other, chainOf store flowClassifier = some other ∧
      Write.Touch (writes other flowClassifier) target := by
  unfold chainWrites at touched
  split at touched
  · exact absurd touched (by simp [Write.Touch])
  · next other isChain => exact ⟨other, isChain, touched⟩

theorem Stores.chainWrites_eq (stores : Stores store portChain)
    (writes : PortChain → FlowClassifier → List SfcWrite)
    (member : flowClassifier ∈ portChain.flowClassifiers) :
    chainWrites store writes flowClassifier = writes portChain flowClassifier := by
  rw [chainWrites, stores.chainOf_eq member]

theorem Stores.loop {found : List FlowClassifier}
    {action : PortChain → FlowClassifier → Action Unit}
    {writes : PortChain → FlowClassifier → List SfcWrite}
    (stores : Stores store portChain)
    (areStored : ∀ flowClassifier ∈ found, flowClassifier ∈ store.flowClassifiers)
    (each : ∀ flowClassifier ∈ found, ∀ other, chainOf store flowClassifier = some other →
      Writes (action other flowClassifier) (writes other flowClassifier)) :
    Writes (forM found fun flowClassifier => do
        let portChain ← Program.ofExcept (portChainByFlowClassifier store flowClassifier)
        whenFound portChain fun portChain => action portChain flowClassifier)
      (found.flatMap (chainWrites store writes)) := by
  refine writes_loop _ fun flowClassifier isFound => ?_
  refine writes_ofExcept (stores.lookup (areStored flowClassifier isFound)) ?_
  unfold chainWrites
  split
  · next isNone =>
      rw [isNone]
      exact writes_pure
  · next other isChain =>
      rw [isChain]
      exact each flowClassifier isFound other isChain

theorem mem_flowClassifiersByLport {lport : LogicalPort} :
    flowClassifier ∈ flowClassifiersByLport store lport ↔
      flowClassifier ∈ store.flowClassifiers ∧
        (flowClassifier.sourcePort.map LogicalPort.id = some lport.id ∨
          flowClassifier.destPort.map LogicalPort.id = some lport.id) := by
  simp only [flowClassifiersByLport, List.mem_append, List.mem_filter,
    decide_eq_true_eq, ← and_or_left]

/-- The locality of ports before and after one of them moves. -/
structure Moved (before after : Id → Bool) (lport : LogicalPort) (now : Bool) : Prop where
  self : after lport.id = now
  others : ∀ id, id ≠ lport.id → after id = before id

variable {before after : Id → Bool} {lport : LogicalPort} {now : Bool}

theorem Moved.classification (moved : Moved before after lport now)
    (elsewhere : flowClassifier.sourcePort.map LogicalPort.id ≠ some lport.id) :
    flowClassifier.isClassificationLocal after =
      flowClassifier.isClassificationLocal before := by
  unfold FlowClassifier.isClassificationLocal
  cases isSource : flowClassifier.sourcePort with
  | none => rfl
  | some sourcePort =>
      refine moved.others sourcePort.id fun same => elsewhere ?_
      rw [isSource, Option.map_some, same]

theorem Moved.dispatch (moved : Moved before after lport now)
    (elsewhere : flowClassifier.destPort.map LogicalPort.id ≠ some lport.id) :
    flowClassifier.isDispatchLocal after = flowClassifier.isDispatchLocal before := by
  unfold FlowClassifier.isDispatchLocal
  cases isDest : flowClassifier.destPort with
  | none => rfl
  | some destPort =>
      refine moved.others destPort.id fun same => elsewhere ?_
      rw [isDest, Option.map_some, same]

theorem Moved.classification_self (moved : Moved before after lport now)
    (isSource : flowClassifier.sourcePort.map LogicalPort.id = some lport.id) :
    flowClassifier.isClassificationLocal after = now := by
  rcases Option.map_eq_some_iff.mp isSource with ⟨sourcePort, found, same⟩
  rw [FlowClassifier.isClassificationLocal, found, ← moved.self, ← same]

theorem Moved.dispatch_self (moved : Moved before after lport now)
    (isDest : flowClassifier.destPort.map LogicalPort.id = some lport.id) :
    flowClassifier.isDispatchLocal after = now := by
  rcases Option.map_eq_some_iff.mp isDest with ⟨destPort, found, same⟩
  rw [FlowClassifier.isDispatchLocal, found, ← moved.self, ← same]

theorem ne_none_of_map {port : Option LogicalPort} {id : Id}
    (isSome : port.map LogicalPort.id = some id) : port ≠ none := by
  rintro rfl
  cases isSome

/-- Where a classifier of another chain uses the port, its chain leads somewhere, and
packets do not leave both chains with the same label. -/
def Apart (store : Store) (portChain : PortChain) (lport : LogicalPort) : Prop :=
  ∀ other ∈ store.portChains, other ≠ portChain → ∀ found ∈ other.flowClassifiers,
    found ∈ flowClassifiersByLport store lport → other.portPairGroups ≠ [] ∧
      (found.destPort ≠ none → ∀ flowClassifier ∈ portChain.flowClassifiers,
        exitLabel other found ≠ exitLabel portChain flowClassifier)

instance : Decidable (Apart store portChain lport) :=
  inferInstanceAs (Decidable (∀ other ∈ store.portChains, other ≠ portChain →
    ∀ found ∈ other.flowClassifiers, _ → _ ∧ _))

theorem Apart.groups (apart : Apart store portChain lport)
    (distinguishable : Distinguishable portChain) {other : PortChain}
    (isFound : flowClassifier ∈ flowClassifiersByLport store lport)
    (isChain : chainOf store flowClassifier = some other) : other.portPairGroups ≠ [] := by
  rcases of_chainOf isChain with ⟨isStored, member⟩
  by_cases same : other = portChain
  · exact same ▸ distinguishable.groups
  · exact (apart other isStored same flowClassifier member isFound).1

theorem Apart.exit {found : FlowClassifier} {foundChain : PortChain}
    (apart : Apart store portChain lport) (distinguishable : Distinguishable portChain)
    (isFound : found ∈ flowClassifiersByLport store lport)
    (isChain : chainOf store found = some foundChain) (hasDest : found.destPort ≠ none)
    (member : flowClassifier ∈ portChain.flowClassifiers)
    (same : exitLabel foundChain found = exitLabel portChain flowClassifier) :
    found = flowClassifier := by
  rcases of_chainOf isChain with ⟨isStored, inChain⟩
  by_cases isSame : foundChain = portChain
  · subst isSame
    exact distinguishable.exitLabel_inj member inChain same
  · exact absurd same
      ((apart foundChain isStored isSame found inChain isFound).2 hasDest _ member)

/-- A handler writes about a classifier where its packets enter and leave its chain,
and where they enter only for the source port and where they leave for the other. -/
structure WritesEnds (writes : PortChain → FlowClassifier → List SfcWrite) : Prop where
  entry : ∀ {other : PortChain} {found flowClassifier : FlowClassifier}
    {type : TrafficClass},
    Write.Touch (writes other found) (encapPlace flowClassifier type) →
      found.uniqueKey = flowClassifier.uniqueKey ∧ found.sourcePort ≠ none
  exit : ∀ {other : PortChain} {found : FlowClassifier} {label : Nat}
    {type : TrafficClass}, Write.Touch (writes other found) (exitPlace label type) →
      exitLabel other found = label ∧ found.destPort ≠ none

theorem touch_ite {condition : Prop} [Decidable condition] {writes : List SfcWrite}
    {target : Target}
    (touched : Write.Touch (if condition then writes else []) target) :
    condition ∧ Write.Touch writes target := by
  split at touched
  · next holds => exact ⟨holds, touched⟩
  · exact absurd touched (by simp [Write.Touch])

theorem bindWrites_ends : WritesEnds bindWrites where
  entry touched := by
    rcases Write.touch_append.mp touched with touched | touched
    · have ⟨hasSource, touched⟩ := touch_ite touched
      exact ⟨touch_encapWrites touched, hasSource⟩
    · exact absurd (touch_ite touched).2 not_touch_encap_decap
  exit touched := by
    rcases Write.touch_append.mp touched with touched | touched
    · exact absurd (touch_ite touched).2 not_touch_exit_encap
    · have ⟨hasDest, touched⟩ := touch_ite touched
      exact ⟨touch_decap touched, hasDest⟩

theorem touch_forward {key : Nat}
    (touched : Write.Touch (forwardWrites key otherLabel ++ decapDrops otherLabel)
      (exitPlace label type)) : otherLabel = label := by
  rcases Write.touch_append.mp touched with touched | touched <;>
    rcases touch_types touched with ⟨found, _, same⟩
  · exact (exitPlace_inj same).1
  · exact (exitPlace_inj same).1

theorem not_touch_encap_forward {key : Nat} :
    ¬ Write.Touch (forwardWrites key otherLabel ++ decapDrops otherLabel)
      (encapPlace flowClassifier type) := by
  intro touched
  rcases Write.touch_append.mp touched with touched | touched <;>
    rcases touch_types touched with ⟨found, _, same⟩
  · exact encapPlace_ne_exitPlace same.symm
  · exact encapPlace_ne_exitPlace same.symm

theorem unbindWrites_ends : WritesEnds unbindWrites where
  entry touched := by
    rcases Write.touch_append.mp touched with touched | touched
    · have ⟨hasSource, touched⟩ := touch_ite touched
      exact ⟨touch_encapDrops touched, hasSource⟩
    · exact absurd (touch_ite touched).2 not_touch_encap_forward
  exit touched := by
    rcases Write.touch_append.mp touched with touched | touched
    · exact absurd (touch_ite touched).2 not_touch_exit_encapDrops
    · have ⟨hasDest, touched⟩ := touch_ite touched
      exact ⟨touch_forward touched, hasDest⟩

/-- What a handler writes for a port. -/
def portWrites (store : Store) (writes : PortChain → FlowClassifier → List SfcWrite)
    (lport : LogicalPort) : List SfcWrite :=
  (flowClassifiersByLport store lport).flatMap (chainWrites store writes)

variable {writes : PortChain → FlowClassifier → List SfcWrite}

theorem WritesEnds.touches_entry (ends : WritesEnds writes)
    (stores : Stores store portChain) (member : flowClassifier ∈ portChain.flowClassifiers)
    (isFound : other ∈ flowClassifiersByLport store lport)
    (touched : Write.Touch (chainWrites store writes other)
      (encapPlace flowClassifier type)) :
    other = flowClassifier ∧ other.sourcePort ≠ none := by
  rcases touch_chainWrites touched with ⟨_, _, touched⟩
  have ⟨sameKey, hasSource⟩ := ends.entry touched
  exact ⟨stores.keys other (mem_flowClassifiersByLport.mp isFound).1 flowClassifier
    (stores.stored member) sameKey, hasSource⟩

theorem WritesEnds.touches_exit (ends : WritesEnds writes)
    (distinguishable : Distinguishable portChain) (apart : Apart store portChain lport)
    (member : flowClassifier ∈ portChain.flowClassifiers)
    (isFound : other ∈ flowClassifiersByLport store lport)
    (touched : Write.Touch (chainWrites store writes other)
      (exitPlace (exitLabel portChain flowClassifier) type)) :
    other = flowClassifier ∧ other.destPort ≠ none := by
  rcases touch_chainWrites touched with ⟨_, isChain, touched⟩
  have ⟨sameLabel, hasDest⟩ := ends.exit touched
  exact ⟨apart.exit distinguishable isFound isChain hasDest member sameLabel, hasDest⟩

/-- A classifier of the chain that starts elsewhere keeps its entry. -/
theorem WritesEnds.entry_elsewhere (ends : WritesEnds writes)
    (stores : Stores store portChain) (member : flowClassifier ∈ portChain.flowClassifiers)
    (elsewhere : flowClassifier.sourcePort.map LogicalPort.id ≠ some lport.id) :
    Write.applyAll content (portWrites store writes lport)
      (encapPlace flowClassifier type) = content (encapPlace flowClassifier type) := by
  refine Write.applyAll_untouched fun touched => ?_
  rcases Write.touch_flatMap.mp touched with ⟨found, isFound, touched⟩
  rcases ends.touches_entry stores member isFound touched with ⟨rfl, hasSource⟩
  rcases (mem_flowClassifiersByLport.mp isFound).2 with impossible | isDest
  · exact elsewhere impossible
  · exact hasSource ((stores.valid found member).mpr (ne_none_of_map isDest))

theorem WritesEnds.exit_elsewhere (ends : WritesEnds writes)
    (distinguishable : Distinguishable portChain) (stores : Stores store portChain)
    (apart : Apart store portChain lport)
    (member : flowClassifier ∈ portChain.flowClassifiers)
    (elsewhere : flowClassifier.destPort.map LogicalPort.id ≠ some lport.id) :
    Write.applyAll content (portWrites store writes lport)
      (exitPlace (exitLabel portChain flowClassifier) type) =
        content (exitPlace (exitLabel portChain flowClassifier) type) := by
  refine Write.applyAll_untouched fun touched => ?_
  rcases Write.touch_flatMap.mp touched with ⟨found, isFound, touched⟩
  rcases ends.touches_exit distinguishable apart member isFound touched with ⟨rfl, hasDest⟩
  rcases (mem_flowClassifiersByLport.mp isFound).2 with isSource | impossible
  · exact ne_none_of_map isSource ((stores.valid found member).mpr hasDest)
  · exact elsewhere impossible

/-- Where only the classifier itself is written about, its writes decide. -/
theorem Stores.settled (stores : Stores store portChain)
    (member : flowClassifier ∈ portChain.flowClassifiers) {target : Target}
    {value : Option Content} (isFound : flowClassifier ∈ flowClassifiersByLport store lport)
    (touches : Write.Touch (writes portChain flowClassifier) target)
    (only : ∀ found ∈ flowClassifiersByLport store lport,
      Write.Touch (chainWrites store writes found) target → found = flowClassifier)
    (self : ∀ content,
      Write.applyAll content (writes portChain flowClassifier) target = value) :
    Write.applyAll content (portWrites store writes lport) target = value := by
  refine Write.applyAll_settled (Write.touch_flatMap.mpr ⟨flowClassifier, isFound, ?_⟩) ?_
  · rwa [stores.chainWrites_eq writes member]
  · intro found isFound touched content
    rw [only found isFound touched, stores.chainWrites_eq writes member]
    exact self content

/-- The flows at the ends after the port is bound. -/
theorem bindWrites_follow (distinguishable : Distinguishable portChain)
    (stores : Stores store portChain) (moved : Moved before after lport true)
    (apart : Apart store portChain lport) (follow : EndsFollow before portChain content) :
    EndsFollow after portChain
      (Write.applyAll content (portWrites store bindWrites lport)) where
  entry flowClassifier member type isType := by
    by_cases isSource : flowClassifier.sourcePort.map LogicalPort.id = some lport.id
    · rw [if_pos (moved.classification_self isSource)]
      have hasSource := ne_none_of_map isSource
      refine stores.settled member (mem_flowClassifiersByLport.mpr
        ⟨stores.stored member, Or.inl isSource⟩) ?_ (fun found isFound touched =>
          (bindWrites_ends.touches_entry stores member isFound touched).1) ?_
      · rw [bindWrites, Write.touch_append, if_pos hasSource]
        exact Or.inl ⟨put (encapFlow flowClassifier _ type), List.mem_map_of_mem isType, rfl⟩
      · intro content
        rw [bindWrites, Write.applyAll_append, if_pos hasSource,
          Write.applyAll_untouched fun touched => not_touch_encap_decap (touch_ite touched).2,
          encapWrites_self isType]
    · rw [bindWrites_ends.entry_elsewhere stores member isSource,
        moved.classification isSource, follow.entry flowClassifier member type isType]
  exit flowClassifier member type isType := by
    by_cases isDest : flowClassifier.destPort.map LogicalPort.id = some lport.id
    · rw [exitFlow, if_pos (moved.dispatch_self isDest)]
      have hasDest := ne_none_of_map isDest
      refine stores.settled member (mem_flowClassifiersByLport.mpr
        ⟨stores.stored member, Or.inr isDest⟩) ?_ (fun found isFound touched =>
          (bindWrites_ends.touches_exit distinguishable apart member isFound touched).1) ?_
      · rw [bindWrites, Write.touch_append, if_pos hasDest, Write.touch_append]
        exact Or.inr (Or.inr ⟨put (decapFlow flowClassifier _ type),
          List.mem_map_of_mem isType, rfl⟩)
      · intro content
        rw [bindWrites, Write.applyAll_append, if_pos hasDest, Write.applyAll_append,
          decapWrites_self isType]
    · rw [bindWrites_ends.exit_elsewhere distinguishable stores apart member isDest, exitFlow,
        moved.dispatch isDest, follow.exit flowClassifier member type isType, exitFlow]

/-- No packets of the chain are on their way to this port. -/
def NotDest (portChain : PortChain) (lport : LogicalPort) : Prop :=
  ∀ flowClassifier ∈ portChain.flowClassifiers,
    flowClassifier.destPort.map LogicalPort.id ≠ some lport.id

instance : Decidable (NotDest portChain lport) :=
  inferInstanceAs (Decidable (∀ flowClassifier ∈ portChain.flowClassifiers, _))

/-- The flows at the ends after a source port is unbound. -/
theorem unbindWrites_follow (distinguishable : Distinguishable portChain)
    (stores : Stores store portChain) (moved : Moved before after lport false)
    (notDest : NotDest portChain lport) (apart : Apart store portChain lport)
    (follow : EndsFollow before portChain content) :
    EndsFollow after portChain
      (Write.applyAll content (portWrites store unbindWrites lport)) where
  entry flowClassifier member type isType := by
    by_cases isSource : flowClassifier.sourcePort.map LogicalPort.id = some lport.id
    · rw [if_neg (Bool.not_eq_true _ ▸ moved.classification_self isSource)]
      have hasSource := ne_none_of_map isSource
      refine stores.settled member (mem_flowClassifiersByLport.mpr
        ⟨stores.stored member, Or.inl isSource⟩) ?_ (fun found isFound touched =>
          (unbindWrites_ends.touches_entry stores member isFound touched).1) ?_
      · rw [unbindWrites, Write.touch_append, if_pos hasSource]
        exact Or.inl ⟨drop _ _ (encapMatch flowClassifier type.ethType),
          List.mem_map_of_mem isType, rfl⟩
      · intro content
        rw [unbindWrites, Write.applyAll_append, if_pos hasSource,
          Write.applyAll_untouched fun touched => not_touch_encap_forward (touch_ite touched).2,
          encapDrops_self isType]
    · rw [unbindWrites_ends.entry_elsewhere stores member isSource,
        moved.classification isSource, follow.entry flowClassifier member type isType]
  exit flowClassifier member type isType := by
    rw [unbindWrites_ends.exit_elsewhere distinguishable stores apart member
        (notDest _ member), exitFlow, moved.dispatch (notDest _ member),
      follow.exit flowClassifier member type isType, exitFlow]

/-! ## Every run -/

/-- A handler that first writes about the classifiers, then about the port pairs. -/
theorem EndsFollow.handle {first second : Action Unit} {writes : List SfcWrite}
    {app : SfcApp} (doesWrite : Writes first writes) (keeps : Keeps SameEnds second)
    (follow : EndsFollow isLocal portChain (Write.applyAll app.content writes)) :
    EndsFollow isLocal portChain (exec (do first; second) app).2.content := by
  rcases doesWrite app with ⟨middle, executed, isMiddle⟩
  rw [← isMiddle] at follow
  rw [exec_bind, executed]
  exact follow.sameEnds (keeps middle)

/-- The loop over the port pairs of a port, with what is done about their egress. -/
theorem portPairs_sameEnds {egress : PortPair → PortChain × PortPairGroup → Action Unit}
    (keeps : ∀ portPair pair, Keeps SameEnds (egress portPair pair)) :
    Keeps SameEnds (forM (portPairsByLport store lport) fun portPair => do
      let found ← Program.ofExcept (portChainWithPortPairGroupByPortPair store portPair)
      whenFound found fun pair => do
        egress portPair pair
        onlyIf (lport.id = portPair.ingressPort.id) do
          uninstallPortPairGroupFlows isLocal pair.1 pair.2
          installPortPairGroupFlows isLocal pair.1 pair.2) := by
  refine Keeps.loop _ fun portPair _ => Keeps.bind (Keeps.ofExcept _) fun found =>
    whenFound_sameEnds found fun pair => Keeps.bind (keeps portPair pair) fun _ => ?_
  exact onlyIf_sameEnds (Keeps.bind (uninstallPortPairGroupFlows_sameEnds pair.2) fun _ =>
    installPortPairGroupFlows_sameEnds pair.2)

theorem localLportCreated_follow (distinguishable : Distinguishable portChain)
    (stores : Stores store portChain) (moved : Moved before after lport true)
    (apart : Apart store portChain lport) {app : SfcApp}
    (follow : EndsFollow before portChain app.content) :
    EndsFollow after portChain
      (exec (localLportCreated after portsecMain store lport) app).2.content := by
  refine EndsFollow.handle (stores.loop
    (fun found isFound => (mem_flowClassifiersByLport.mp isFound).1)
    fun found isFound other isChain => ?_) ?_
    (bindWrites_follow distinguishable stores moved apart follow)
  · have member := (of_chainOf isChain).2
    have groups := apart.groups distinguishable isFound isChain
    exact (writes_onlyIf fun _ =>
      installEncapFlows_writes (getEncapLabel_entry groups member)).bind
        (writes_onlyIf fun _ =>
          (uninstallDecapFlows_writes (getDecapLabel_exit groups member)).bind
            (installDecapFlows_writes (getDecapLabel_exit groups member)))
  · exact portPairs_sameEnds fun portPair pair =>
      onlyIf_sameEnds (installPortPairEgressFlows_sameEnds pair.2 portPair)

theorem destKey_of_dest (hasDest : flowClassifier.destPort ≠ none) :
    destKey flowClassifier = .ok (forwardKey flowClassifier) := by
  unfold destKey forwardKey
  cases isDest : flowClassifier.destPort with
  | none => exact absurd isDest hasDest
  | some destPort => rfl

theorem localLportDeleted_follow (distinguishable : Distinguishable portChain)
    (stores : Stores store portChain) (moved : Moved before after lport false)
    (notDest : NotDest portChain lport) (apart : Apart store portChain lport)
    {app : SfcApp} (follow : EndsFollow before portChain app.content) :
    EndsFollow after portChain
      (exec (localLportDeleted after portsecMain store lport) app).2.content := by
  refine EndsFollow.handle (stores.loop
    (fun found isFound => (mem_flowClassifiersByLport.mp isFound).1)
    fun found isFound other isChain => ?_) ?_
    (unbindWrites_follow distinguishable stores moved notDest apart follow)
  · have isLabel := getDecapLabel_exit (apart.groups distinguishable isFound isChain)
      (of_chainOf isChain).2
    exact (writes_onlyIf fun _ => uninstallEncapFlows_writes).bind
      (writes_onlyIf fun hasDest =>
        (installForwardToDest_writes isLabel (destKey_of_dest hasDest)).bind
          (uninstallDecapFlows_writes isLabel))
  · exact portPairs_sameEnds fun portPair pair =>
      onlyIf_sameEnds (uninstallPortPairEgressFlows_sameEnds pair.2 portPair)

/-- The event is about other chains or leaves both ends of this one in place. -/
def StaysBound (store : Store) (portChain : PortChain) : PortMove → Prop
  | .bind lport => Apart store portChain lport
  | .unbind lport => NotDest portChain lport ∧ Apart store portChain lport

theorem move_follow (distinguishable : Distinguishable portChain)
    (stores : Stores store portChain) {node reached : ChainNode} {event : PortMove}
    (stays : StaysBound store portChain event)
    (follow : EndsFollow node.hosts portChain node.app.content)
    (moved : move portsecMain store node event = some reached) :
    EndsFollow reached.hosts portChain reached.app.content := by
  cases event with
  | bind lport =>
      simp only [move] at moved
      split at moved
      · cases moved
      · cases moved
        refine localLportCreated_follow distinguishable stores ⟨?_, fun id other => ?_⟩
          stays follow
        · simp [ChainNode.hosts]
        · simp [ChainNode.hosts, other]
  | unbind lport =>
      simp only [move] at moved
      split at moved
      · cases moved
        refine localLportDeleted_follow distinguishable stores ⟨?_, fun id other => ?_⟩
          stays.1 stays.2 follow
        · simp [ChainNode.hosts]
        · simp [ChainNode.hosts, other]
      · cases moved

theorem moves_follow (distinguishable : Distinguishable portChain)
    (stores : Stores store portChain) (events : List PortMove) {node reached : ChainNode}
    (stay : ∀ event ∈ events, StaysBound store portChain event)
    (follow : EndsFollow node.hosts portChain node.app.content)
    (moved : steps (move portsecMain store) events node = some reached) :
    EndsFollow reached.hosts portChain reached.app.content := by
  induction events generalizing node with
  | nil =>
      cases moved
      exact follow
  | cons event events induction =>
      rcases steps_cons_eq_some.mp moved with ⟨middle, first, rest⟩
      exact induction (fun later member => stay later (List.mem_cons_of_mem _ member))
        (move_follow distinguishable stores (stay event List.mem_cons_self) follow first)
        rest

/-- Packets enter the chain where the classification of their classifier is local. At
the end they are let out of it where the dispatch is local, and else are sent to where
their destination is. -/
def EndsCurrent (node : ChainNode) (portChain : PortChain) : Prop :=
  ∀ flowClassifier ∈ portChain.flowClassifiers, ∀ encapLabel decapLabel,
    getEncapLabel portChain flowClassifier = .ok encapLabel →
    getDecapLabel portChain flowClassifier = .ok decapLabel → ∀ type ∈ ethTypeToTc,
      node.app.flows Const.sfcEncapTable Const.priorityHigh
          (encapMatch flowClassifier type.ethType) =
        (if flowClassifier.isClassificationLocal node.hosts then
          some (encapFlow flowClassifier encapLabel type).flow.entry
        else none) ∧
      node.app.flows Const.sfcMplsDispatchTable Const.priorityHigh
          (labelTcMatch decapLabel type.tc) =
        some (if flowClassifier.isDispatchLocal node.hosts then
            decapFlow flowClassifier decapLabel type
          else forwardFlow (forwardKey flowClassifier) decapLabel type).flow.entry

theorem EndsFollow.current {node : ChainNode}
    (follow : EndsFollow node.hosts portChain node.app.content) :
    EndsCurrent node portChain := by
  intro flowClassifier member encapLabel decapLabel isEncap isDecap type isType
  have isEntry : entryLabel portChain flowClassifier = encapLabel := by
    rw [entryLabel, isEncap]
    rfl
  have isExit : exitLabel portChain flowClassifier = decapLabel := by
    rw [exitLabel, isDecap]
    rfl
  have entry := follow.entry flowClassifier member type isType
  have exit := follow.exit flowClassifier member type isType
  rw [isEntry] at entry
  rw [isExit] at exit
  constructor
  · refine Option.map_injective Sum.inl_injective (entry.trans ?_)
    split <;> rfl
  · exact Option.map_injective Sum.inl_injective exit

/-- The ends of a chain follow the ports in every run that unbinds no destination
port of the chain and in which other chains keep to labels of their own. -/
theorem chain_ends_follow_ports (portsecMain : Nat) (store : Store)
    (portChain : PortChain) (distinguishable : Distinguishable portChain)
    (stores : Stores store portChain) (node : ChainNode)
    (noEntry : NoEntry portChain node.app) (events : List PortMove)
    (stay : ∀ event ∈ events, StaysBound store portChain event) (reached : ChainNode)
    (moved : steps (move portsecMain store) events
      (node.create portsecMain portChain) = some reached) :
    EndsCurrent reached portChain := by
  have created : EndsFollow (node.create portsecMain portChain).hosts portChain
      (node.create portsecMain portChain).app.content :=
    portChainCreated_follow distinguishable noEntry
  exact (moves_follow distinguishable stores events stay created moved).current

/-! ## A chain beside another one -/

def clientPort : LogicalPort := { id := "client", uniqueKey := 1 }

def serverPort : LogicalPort := { id := "server", uniqueKey := 2 }

def firewallPort : LogicalPort := { id := "firewall", uniqueKey := 3 }

def firewall : PortPairGroup where
  id := "g"
  portPairs := [⟨"pair", firewallPort, firewallPort, some .none⟩]

/-- Packets of the client and packets to the server pass a firewall. -/
def guardedChain : PortChain where
  id := "chain"
  chainId := 1
  portPairGroups := [firewall]
  flowClassifiers := [⟨"from", 21, some clientPort, none⟩, ⟨"to", 22, none, some serverPort⟩]

/-- Packets to the client pass a group that has no port pairs yet. -/
def otherChain : PortChain where
  id := "other"
  chainId := 2
  portPairGroups := [⟨"h", []⟩]
  flowClassifiers := [⟨"back", 23, none, some clientPort⟩]

def guardedStore : Store where
  flowClassifiers := guardedChain.flowClassifiers ++ otherChain.flowClassifiers
  portPairs := firewall.portPairs
  portPairGroups := guardedChain.portPairGroups ++ otherChain.portPairGroups
  portChains := [guardedChain, otherChain]

/-- A node on which the other chain was created. -/
def guardedNode : ChainNode := ChainNode.create 5 ⟨∅, {}⟩ otherChain

def guardedMoves : List PortMove :=
  [.bind clientPort, .bind serverPort, .unbind clientPort, .bind firewallPort]

theorem chain_ends_follow_ports_guarded : ∃ reached,
    steps (move 5 guardedStore) guardedMoves (guardedNode.create 5 guardedChain) =
      some reached ∧ EndsCurrent reached guardedChain := by
  have returned : (steps (move 5 guardedStore) guardedMoves
      (guardedNode.create 5 guardedChain)).isSome := by
    decide +kernel
  rcases Option.isSome_iff_exists.mp returned with ⟨reached, moved⟩
  refine ⟨reached, moved, chain_ends_follow_ports 5 guardedStore guardedChain
    ⟨by decide, by decide, by decide⟩
    ⟨by decide, by decide, by decide, by decide, by decide, by decide, by decide⟩
    guardedNode (by unfold NoEntry; decide +kernel) guardedMoves ?_ reached moved⟩
  intro event member
  simp only [guardedMoves, List.mem_cons, List.not_mem_nil, or_false] at member
  rcases member with rfl | rfl | rfl | rfl
  · exact (by decide : Apart guardedStore guardedChain clientPort)
  · exact (by decide : Apart guardedStore guardedChain serverPort)
  · exact (by decide : NotDest guardedChain clientPort ∧
      Apart guardedStore guardedChain clientPort)
  · exact (by decide : Apart guardedStore guardedChain firewallPort)

/-- When the server is unbound, the flow that sends packets after it is deleted right
after it was installed. -/
theorem chain_ends_lost : ∃ reached,
    steps (move 5 guardedStore) [.bind serverPort, .unbind serverPort]
      (guardedNode.create 5 guardedChain) = some reached ∧
    ¬ EndsCurrent reached guardedChain := by
  refine ⟨_, rfl, fun current => ?_⟩
  have found := (current ⟨"to", 22, none, some serverPort⟩ (by decide) 2304 2305
    (by decide) (by decide) ⟨Const.ethTypeIp, 0⟩ (by decide)).2
  exact absurd found (by decide +kernel)

end SfcApp

end Dragonflow
