import Dragonflow.Controller.Apps.Sfc
import Dragonflow.Foundation.FlowSet
import Dragonflow.Foundation.Writing

/-! # What the driver of service function chains writes

Flows and groups are only ever written one at a time, so that an action of the
driver is a list of writes.
-/

namespace Dragonflow

open Program

namespace SfcApp

/-- The place of a flow, or a group. -/
abbrev Target := Place OFPMatch ⊕ Nat

abbrev Content := FlowEntry Instruction ⊕ List Bucket

abbrev SfcWrite := Write Target Content

def content (app : SfcApp) : Target → Option Content
  | .inl place => (app.flows place.1 place.2.1 place.2.2).map .inl
  | .inr groupId => (app.groups groupId).map .inr

theorem content_injective {app other : SfcApp} (same : app.content = other.content) :
    app = other := by
  rcases app with ⟨flows, groups⟩
  rcases other with ⟨otherFlows, otherGroups⟩
  have sameFlows : flows = otherFlows := by
    funext table priority pattern
    exact Option.map_injective Sum.inl_injective
      (congrFun same (.inl (table, priority, pattern)))
  have sameGroups : groups = otherGroups := by
    funext groupId
    exact Option.map_injective Sum.inr_injective (congrFun same (.inr groupId))
  rw [sameFlows, sameGroups]

/-! ## Single messages -/

def put (message : OFPFlowMod) : SfcWrite :=
  ⟨.inl message.place, some (.inl message.flow.entry)⟩

def drop (table priority : Nat) (pattern : OFPMatch) : SfcWrite :=
  ⟨.inl (table, priority, pattern), none⟩

def putGroup (groupId : Nat) (buckets : List Bucket) : SfcWrite :=
  ⟨.inr groupId, some (.inr buckets)⟩

def dropGroup (groupId : Nat) : SfcWrite := ⟨.inr groupId, none⟩

/-- The action returns, and does what the writes do. -/
def Writes (action : Action Unit) (writes : List SfcWrite) : Prop :=
  WritesTo content action writes

theorem content_flows (app : SfcApp) (flows : Flows) (write : SfcWrite)
    (place : Place OFPMatch) (isPlace : write.key = .inl place)
    (written : ∀ other : Place OFPMatch, (flows other.1 other.2.1 other.2.2).map Sum.inl =
      if other = place then write.value else app.content (.inl other)) :
    ({ app with flows } : SfcApp).content = Write.apply app.content write := by
  funext target
  cases target with
  | inl other =>
      rw [Write.apply, Function.update_apply, isPlace]
      simp only [Sum.inl.injEq]
      exact written other
  | inr groupId =>
      rw [Write.apply, isPlace, Function.update_of_ne (by simp)]
      rfl

theorem content_groups (app : SfcApp) (groupId : Nat) (value : Option (List Bucket)) :
    ({ app with groups := Function.update app.groups groupId value } : SfcApp).content =
      Write.apply app.content ⟨.inr groupId, value.map .inr⟩ := by
  funext target
  cases target with
  | inl place =>
      rw [Write.apply, Function.update_of_ne (by simp)]
      rfl
  | inr other =>
      rw [Write.apply, Function.update_apply]
      simp only [Sum.inr.injEq, content, Function.update_apply]
      split <;> rfl

theorem writes_put {message : OFPFlowMod} (isAdd : message.command = .add) :
    Writes (modFlow message) [put message] := by
  intro app
  refine ⟨_, rfl, content_flows app _ (put message) message.place rfl fun other => ?_⟩
  rw [FlowTable.apply_add isAdd]
  by_cases same : other = message.place
  · rw [if_pos same, if_pos (by rw [same]; exact ⟨rfl, rfl, rfl⟩)]
    rfl
  · rw [if_neg same, if_neg]
    · rfl
    · rintro ⟨table, priority, pattern⟩
      exact same (Prod.ext table (Prod.ext priority pattern))

theorem writes_deletion (table priority : Nat) (pattern : OFPMatch) :
    Writes (modFlow (deletion table priority pattern)) [drop table priority pattern] := by
  intro app
  refine ⟨_, rfl, content_flows app _ (drop table priority pattern)
    (table, priority, pattern) rfl fun other => ?_⟩
  have deleted : ∀ entry, (app.flows.apply (deletion table priority pattern)).Has
      ⟨other.1, other.2.1, other.2.2, entry⟩ ↔ app.flows.Has
        ⟨other.1, other.2.1, other.2.2, entry⟩ ∧ other ≠ (table, priority, pattern) := by
    intro entry
    rw [FlowTable.has_apply_deleteStrict rfl rfl (OFPMatch.covers_self _),
      FlowTable.places_iff]
    rfl
  by_cases same : other = (table, priority, pattern)
  · rw [if_pos same]
    refine congrArg (Option.map Sum.inl) (Option.eq_none_iff_forall_ne_some.mpr ?_)
    exact fun entry found => ((deleted entry).mp found).2 same
  · rw [if_neg same]
    refine congrArg (Option.map Sum.inl) (Option.ext fun entry => ?_)
    exact (deleted entry).trans (and_iff_left same)

theorem writes_delGroup (groupId : Nat) : Writes (delGroup groupId) [dropGroup groupId] :=
  fun app => ⟨_, rfl, content_groups app groupId none⟩

/-! ## Actions -/

theorem writes_pure : Writes (pure ()) [] := writesTo_pure

theorem Writes.bind {first second : Action Unit} {writes later : List SfcWrite}
    (firstWrites : Writes first writes) (secondWrites : Writes second later) :
    Writes (do first; second) (writes ++ later) :=
  WritesTo.bind firstWrites secondWrites

theorem writes_addGroup (groupId : Nat) (buckets : List Bucket) :
    Writes (addGroup groupId buckets) [dropGroup groupId, putGroup groupId buckets] :=
  (writes_delGroup groupId).bind fun app => ⟨_, rfl, content_groups app groupId _⟩

theorem writes_ofExcept {α : Type} {result : Except PyError α} {value : α}
    {next : α → Action Unit} {writes : List SfcWrite} (isValue : result = .ok value)
    (nextWrites : Writes (next value) writes) :
    Writes (do let found ← Program.ofExcept result; next found) writes :=
  writesTo_ofExcept isValue nextWrites

theorem writes_onlyIf {condition : Prop} [Decidable condition] {action : Action Unit}
    {writes : List SfcWrite} (actionWrites : condition → Writes action writes) :
    Writes (onlyIf condition action) (if condition then writes else []) := by
  unfold onlyIf
  split
  · next holds => exact actionWrites holds
  · exact writes_pure

theorem writes_loop {α : Type} {body : α → Action Unit} {writes : α → List SfcWrite}
    (items : List α) (each : ∀ item ∈ items, Writes (body item) (writes item)) :
    Writes (forM items body) (items.flatMap writes) :=
  writesTo_loop items each

/-! ## Labels -/

theorem getIndexById_of_mem {ids : List Id} {id : Id} (member : id ∈ ids) :
    getIndexById ids id = .ok (ids.idxOf id) := by
  have found : ids.findIdx? (· = id) = some (ids.idxOf id) := by
    rw [List.findIdx?_eq_some_iff_findIdx_eq]
    refine ⟨List.idxOf_lt_length_of_mem member, ?_⟩
    simp only [List.idxOf, beq_eq_decide]
  unfold getIndexById
  rw [found]

def fcIndex (portChain : PortChain) (flowClassifier : FlowClassifier) : Nat :=
  (portChain.flowClassifiers.map FlowClassifier.id).idxOf flowClassifier.id

def ppgIndex (portChain : PortChain) (portPairGroup : PortPairGroup) : Nat :=
  (portChain.portPairGroups.map PortPairGroup.id).idxOf portPairGroup.id

def ingressLabel (portChain : PortChain) (flowClassifier : FlowClassifier)
    (portPairGroup : PortPairGroup) : Nat :=
  createLabel portChain.chainId (fcIndex portChain flowClassifier)
    (ppgIndex portChain portPairGroup)

variable {portChain : PortChain} {flowClassifier : FlowClassifier}
  {portPairGroup : PortPairGroup}

theorem getIngressLabel_of_mem
    (isClassifier : flowClassifier ∈ portChain.flowClassifiers)
    (isGroup : portPairGroup ∈ portChain.portPairGroups) :
    getIngressLabel portChain flowClassifier portPairGroup =
      .ok (ingressLabel portChain flowClassifier portPairGroup) := by
  unfold getIngressLabel
  rw [getIndexById_of_mem (List.mem_map_of_mem isClassifier),
    getIndexById_of_mem (List.mem_map_of_mem isGroup)]
  rfl

theorem getEgressLabel_of_mem
    (isClassifier : flowClassifier ∈ portChain.flowClassifiers)
    (isGroup : portPairGroup ∈ portChain.portPairGroups) :
    getEgressLabel portChain flowClassifier portPairGroup =
      .ok (ingressLabel portChain flowClassifier portPairGroup + 1) := by
  unfold getEgressLabel
  rw [getIngressLabel_of_mem isClassifier isGroup]
  rfl

theorem getEncapLabel_of_mem {first : PortPairGroup}
    (isFirst : portChain.portPairGroups.head? = some first)
    (isClassifier : flowClassifier ∈ portChain.flowClassifiers) :
    getEncapLabel portChain flowClassifier =
      .ok (ingressLabel portChain flowClassifier first) := by
  unfold getEncapLabel
  rw [isFirst]
  exact getIngressLabel_of_mem isClassifier (List.mem_of_mem_head? isFirst)

theorem getDecapLabel_of_mem {last : PortPairGroup}
    (isLast : portChain.portPairGroups.getLast? = some last)
    (isClassifier : flowClassifier ∈ portChain.flowClassifiers) :
    getDecapLabel portChain flowClassifier =
      .ok (ingressLabel portChain flowClassifier last + 1) := by
  unfold getDecapLabel
  rw [isLast]
  exact getEgressLabel_of_mem isClassifier (List.mem_of_mem_getLast? isLast)

/-! ## Flow classifiers -/

theorem writes_each {α : Type} {body : α → Action Unit} {write : α → SfcWrite}
    (items : List α) (each : ∀ item, Writes (body item) [write item]) :
    Writes (forM items body) (items.map write) :=
  writesTo_each items fun item _ => each item

def encapWrites (flowClassifier : FlowClassifier) (label : Nat) : List SfcWrite :=
  ethTypeToTc.map fun type => put (encapFlow flowClassifier label type)

def encapDrops (flowClassifier : FlowClassifier) : List SfcWrite :=
  ethTypeToTc.map fun type =>
    drop Const.sfcEncapTable Const.priorityHigh (encapMatch flowClassifier type.ethType)

def decapWrites (flowClassifier : FlowClassifier) (label : Nat) : List SfcWrite :=
  ethTypeToTc.map fun type => put (decapFlow flowClassifier label type)

def forwardWrites (key label : Nat) : List SfcWrite :=
  ethTypeToTc.map fun type => put (forwardFlow key label type)

def decapDrops (label : Nat) : List SfcWrite :=
  ethTypeToTc.map fun type =>
    drop Const.sfcMplsDispatchTable Const.priorityHigh (labelTcMatch label type.tc)

theorem installEncapFlows_writes {label : Nat}
    (isLabel : getEncapLabel portChain flowClassifier = .ok label) :
    Writes (installEncapFlows portChain flowClassifier)
      (encapWrites flowClassifier label) :=
  writes_each _ fun _ => writes_ofExcept isLabel (writes_put rfl)

theorem uninstallEncapFlows_writes :
    Writes (uninstallEncapFlows flowClassifier) (encapDrops flowClassifier) :=
  writes_each _ fun _ => writes_deletion _ _ _

theorem installDecapFlows_writes {label : Nat}
    (isLabel : getDecapLabel portChain flowClassifier = .ok label) :
    Writes (installDecapFlows portChain flowClassifier)
      (decapWrites flowClassifier label) :=
  writes_each _ fun _ => writes_ofExcept isLabel (writes_put rfl)

theorem uninstallDecapFlows_writes {label : Nat}
    (isLabel : getDecapLabel portChain flowClassifier = .ok label) :
    Writes (uninstallDecapFlows portChain flowClassifier) (decapDrops label) :=
  writes_each _ fun _ => writes_ofExcept isLabel (writes_deletion _ _ _)

theorem installForwardToDest_writes {label key : Nat}
    (isLabel : getDecapLabel portChain flowClassifier = .ok label)
    (isKey : destKey flowClassifier = .ok key) :
    Writes (installForwardToDest portChain flowClassifier) (forwardWrites key label) :=
  writes_each _ fun _ => writes_ofExcept isLabel (writes_ofExcept isKey (writes_put rfl))

variable {isLocal : Id → Bool}

/-- The key of the destination port, where there is one. -/
def forwardKey (flowClassifier : FlowClassifier) : Nat :=
  match flowClassifier.destPort with
  | none => 0
  | some destPort => destPort.uniqueKey

theorem destKey_of_remote (notLocal : flowClassifier.isDispatchLocal isLocal = false) :
    destKey flowClassifier = .ok (forwardKey flowClassifier) := by
  unfold FlowClassifier.isDispatchLocal at notLocal
  unfold destKey forwardKey
  cases isDest : flowClassifier.destPort with
  | none =>
      rw [isDest] at notLocal
      cases notLocal
  | some destPort => rfl

/-- What the packets that leave the chain meet. -/
def dispatchWrites (isLocal : Id → Bool) (flowClassifier : FlowClassifier)
    (decapLabel : Nat) : List SfcWrite :=
  if flowClassifier.isDispatchLocal isLocal then decapWrites flowClassifier decapLabel
  else forwardWrites (forwardKey flowClassifier) decapLabel

theorem installFlowClassifierFlows_writes {encapLabel decapLabel : Nat}
    (isEncap : getEncapLabel portChain flowClassifier = .ok encapLabel)
    (isDecap : getDecapLabel portChain flowClassifier = .ok decapLabel) :
    Writes (installFlowClassifierFlows isLocal portChain flowClassifier)
      ((if flowClassifier.isClassificationLocal isLocal then
          encapWrites flowClassifier encapLabel else []) ++
        dispatchWrites isLocal flowClassifier decapLabel) := by
  refine (writes_onlyIf fun _ => installEncapFlows_writes isEncap).bind ?_
  unfold dispatchWrites
  split
  · exact installDecapFlows_writes isDecap
  · next notLocal =>
      exact installForwardToDest_writes isDecap
        (destKey_of_remote (Bool.eq_false_of_not_eq_true notLocal))

theorem uninstallFlowClassifierFlows_writes {decapLabel : Nat}
    (isDecap : getDecapLabel portChain flowClassifier = .ok decapLabel) :
    Writes (uninstallFlowClassifierFlows isLocal portChain flowClassifier)
      ((if flowClassifier.isClassificationLocal isLocal then
          encapDrops flowClassifier else []) ++ decapDrops decapLabel) := by
  refine (writes_onlyIf fun _ => uninstallEncapFlows_writes).bind ?_
  split <;> exact uninstallDecapFlows_writes isDecap

/-! ## Port pair groups -/

variable {label : Nat}

/-- What is written for one label of a group. -/
def labelWrites (isLocal : Id → Bool) (portPairGroup : PortPairGroup) (label : Nat) :
    List SfcWrite :=
  ethTypeToTc.map (fun type => put (ppDecapFlow label type)) ++
    ([dropGroup (getDispatchToAllGroupId label),
        putGroup (getDispatchToAllGroupId label)
          (portPairGroup.portPairs.map (portPairToBucket isLocal))] ++
      [put (dispatchToAllFlow label)] ++
      if localPortPairs isLocal portPairGroup ≠ [] then
        [dropGroup (getDispatchLocallyGroupId label),
          putGroup (getDispatchLocallyGroupId label)
            ((localPortPairs isLocal portPairGroup).map (portPairToBucket isLocal))] ++
        [put (dispatchToLocalFlow label)]
      else [])

def labelDrops (isLocal : Id → Bool) (portPairGroup : PortPairGroup) (label : Nat) :
    List SfcWrite :=
  [drop Const.sfcMplsPpDecapTable Const.priorityHigh (labelMatch label)] ++
    ([drop Const.sfcMplsDispatchTable Const.priorityHigh (labelMatch label)] ++
        [dropGroup (getDispatchToAllGroupId label)] ++
      if localPortPairs isLocal portPairGroup ≠ [] then
        [drop Const.ingressDestinationPortLookupTable Const.priorityVeryHigh
            (labelMatch label)] ++
          [dropGroup (getDispatchLocallyGroupId label)]
      else [])

theorem installLabel_writes :
    Writes (do
        installPortPairDecapFlows label
        installDispatchToAllPortPairs isLocal portPairGroup label
        installDispatchToLocalPortPairs isLocal portPairGroup label)
      (labelWrites isLocal portPairGroup label) :=
  Writes.bind (writes_each _ fun _ => writes_put rfl)
    (Writes.bind ((writes_addGroup _ _).bind (writes_put rfl))
      (writes_onlyIf fun _ => (writes_addGroup _ _).bind (writes_put rfl)))

theorem uninstallLabel_writes :
    Writes (do
        uninstallPortPairDecapFlows label
        uninstallDispatchToAllPortPairs label
        uninstallDispatchToLocalPortPairs isLocal portPairGroup label)
      (labelDrops isLocal portPairGroup label) :=
  Writes.bind (writes_deletion _ _ _)
    (Writes.bind ((writes_deletion _ _ _).bind (writes_delGroup _))
      (writes_onlyIf fun _ => (writes_deletion _ _ _).bind (writes_delGroup _)))

end SfcApp

end Dragonflow
