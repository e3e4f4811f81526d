import Dragonflow.Controller.OpenFlow
import Dragonflow.Foundation.Program

/-! # Service function chains

`dragonflow/controller/apps/sfc.py` with the driver of
`dragonflow/controller/apps/sfc_mpls_driver.py`: the packets of a flow classifier
get an MPLS label and visit one port pair of every group of the chain. References
are kept as the objects that they lead to.
-/

namespace Dragonflow

open Program

/-! ## The models -/

inductive Correlation
  | none
  | mpls
  deriving DecidableEq, Repr

/-- `sfc.PortPair`, with both of its ports. -/
structure PortPair where
  id : Id
  ingressPort : LogicalPort
  egressPort : LogicalPort
  correlationMechanism : Option Correlation := some .none
  deriving DecidableEq, Repr

/-- `sfc.PortPairGroup` -/
structure PortPairGroup where
  id : Id
  portPairs : List PortPair
  deriving DecidableEq, Repr

/-- `sfc.FlowClassifier`, as far as the chain needs it. -/
structure FlowClassifier where
  id : Id
  uniqueKey : Nat
  sourcePort : Option LogicalPort := none
  destPort : Option LogicalPort := none
  deriving DecidableEq, Repr

/-- `sfc.PortChain`. Its only protocol is MPLS. -/
structure PortChain where
  id : Id
  chainId : Nat
  portPairGroups : List PortPairGroup
  flowClassifiers : List FlowClassifier
  deriving DecidableEq, Repr

namespace FlowClassifier

variable (isLocal : Id → Bool)

/-- The property `is_classification_local`. -/
def isClassificationLocal (flowClassifier : FlowClassifier) : Bool :=
  match flowClassifier.sourcePort with
  | none => true
  | some sourcePort => isLocal sourcePort.id

/-- The property `is_dispatch_local`. -/
def isDispatchLocal (flowClassifier : FlowClassifier) : Bool :=
  match flowClassifier.destPort with
  | none => true
  | some destPort => isLocal destPort.id

end FlowClassifier

/-! ## The application -/

/-- The actions of an `OFPBucket` of weight 1. -/
abbrev Bucket := List FlowAction

/-- Flows that lead to a group are always deleted or written again with it, so that
the groups are kept on their own. -/
structure SfcApp where
  flows : Flows := FlowTable.empty
  groups : Nat → Option (List Bucket) := fun _ => none

namespace SfcApp

abbrev Action (β : Type) := Program SfcApp PyError β

def modFlow (message : OFPFlowMod) : Action Unit :=
  modify fun app => { app with flows := app.flows.apply message }

def delGroup (groupId : Nat) : Action Unit :=
  modify fun app => { app with groups := Function.update app.groups groupId none }

/-- `add_group` with `replace`. -/
def addGroup (groupId : Nat) (buckets : List Bucket) : Action Unit := do
  delGroup groupId
  modify fun app => { app with groups := Function.update app.groups groupId (some buckets) }

/-! ## Labels -/

/-- `_get_index_by_id` -/
def getIndexById (ids : List Id) (id : Id) : Except PyError Nat :=
  match ids.findIdx? (· = id) with
  | none => .error .stopIteration
  | some index => .ok index

/-- `_create_label` -/
def createLabel (chainIdx fcIdx ppgIdx : Nat) : Nat :=
  ppgIdx ||| (fcIdx <<< 8) ||| (chainIdx <<< 11)

/-- `_get_ingress_label` -/
def getIngressLabel (portChain : PortChain) (flowClassifier : FlowClassifier)
    (portPairGroup : PortPairGroup) : Except PyError Nat := do
  let fcIdx ← getIndexById (portChain.flowClassifiers.map FlowClassifier.id)
    flowClassifier.id
  let ppgIdx ← getIndexById (portChain.portPairGroups.map PortPairGroup.id)
    portPairGroup.id
  return createLabel portChain.chainId fcIdx ppgIdx

/-- `_get_egress_label` -/
def getEgressLabel (portChain : PortChain) (flowClassifier : FlowClassifier)
    (portPairGroup : PortPairGroup) : Except PyError Nat := do
  let label ← getIngressLabel portChain flowClassifier portPairGroup
  return label + 1

/-- `_get_encap_label` -/
def getEncapLabel (portChain : PortChain) (flowClassifier : FlowClassifier) :
    Except PyError Nat :=
  match portChain.portPairGroups.head? with
  | none => .error .indexError
  | some first => getIngressLabel portChain flowClassifier first

/-- `_get_decap_label` -/
def getDecapLabel (portChain : PortChain) (flowClassifier : FlowClassifier) :
    Except PyError Nat :=
  match portChain.portPairGroups.getLast? with
  | none => .error .indexError
  | some last => getEgressLabel portChain flowClassifier last

/-- `_create_group_id` -/
def createGroupId (label extra : Nat) : Nat := (label <<< 8) ||| extra

/-- `_get_dispatch_to_all_group_id` -/
def getDispatchToAllGroupId (label : Nat) : Nat := createGroupId label 1

/-- `_get_dispatch_locally_group_id` -/
def getDispatchLocallyGroupId (label : Nat) : Nat := createGroupId label 2

/-! ## Where packets enter and leave a chain -/

/-- An Ethernet type and its traffic class. -/
structure TrafficClass where
  ethType : Nat
  tc : Nat
  deriving DecidableEq, Repr

/-- `_ETH_TYPE_TO_TC` -/
def ethTypeToTc : List TrafficClass :=
  [⟨Const.ethTypeIp, 0⟩, ⟨Const.ethTypeIpv6, 1⟩]

def encapMatch (flowClassifier : FlowClassifier) (ethType : Nat) : OFPMatch where
  reg2 := some (.exact flowClassifier.uniqueKey)
  ethType := some (.exact ethType)

def labelMatch (label : Nat) : OFPMatch where
  ethType := some (.exact Const.ethTypeMpls)
  mplsLabel := some (.exact label)

def labelTcMatch (label tc : Nat) : OFPMatch :=
  { labelMatch label with mplsTc := some (.exact tc) }

def deletion (table priority : Nat) (pattern : OFPMatch) : OFPFlowMod where
  command := .deleteStrict
  table
  priority
  pattern

def encapFlow (flowClassifier : FlowClassifier) (label : Nat)
    (type : TrafficClass) : OFPFlowMod where
  table := Const.sfcEncapTable
  priority := Const.priorityHigh
  pattern := encapMatch flowClassifier type.ethType
  instructions := [.applyActions [.pushMpls Const.ethTypeMpls,
      .setField (.mplsLabel label), .setField (.mplsTc type.tc)],
    .gotoTable Const.sfcMplsDispatchTable]

/-- `install_encap_flows` -/
def installEncapFlows (portChain : PortChain) (flowClassifier : FlowClassifier) :
    Action Unit :=
  forM ethTypeToTc fun type => do
    let label ← Program.ofExcept (getEncapLabel portChain flowClassifier)
    modFlow (encapFlow flowClassifier label type)

/-- `uninstall_encap_flows` -/
def uninstallEncapFlows (flowClassifier : FlowClassifier) : Action Unit :=
  forM ethTypeToTc fun type =>
    modFlow (deletion Const.sfcEncapTable Const.priorityHigh
      (encapMatch flowClassifier type.ethType))

def decapFlow (flowClassifier : FlowClassifier) (label : Nat)
    (type : TrafficClass) : OFPFlowMod where
  table := Const.sfcMplsDispatchTable
  priority := Const.priorityHigh
  pattern := labelTcMatch label type.tc
  instructions := [.applyActions [.popMpls type.ethType,
      .setField (.reg2 flowClassifier.uniqueKey)],
    .gotoTable Const.sfcEndOfChainTable]

/-- `install_decap_flows` -/
def installDecapFlows (portChain : PortChain) (flowClassifier : FlowClassifier) :
    Action Unit :=
  forM ethTypeToTc fun type => do
    let label ← Program.ofExcept (getDecapLabel portChain flowClassifier)
    modFlow (decapFlow flowClassifier label type)

/-- `uninstall_decap_flows` and `uninstall_forward_to_dest` -/
def uninstallDecapFlows (portChain : PortChain) (flowClassifier : FlowClassifier) :
    Action Unit :=
  forM ethTypeToTc fun type => do
    let label ← Program.ofExcept (getDecapLabel portChain flowClassifier)
    modFlow (deletion Const.sfcMplsDispatchTable Const.priorityHigh
      (labelTcMatch label type.tc))

def forwardFlow (destKey label : Nat) (type : TrafficClass) : OFPFlowMod where
  table := Const.sfcMplsDispatchTable
  priority := Const.priorityHigh
  pattern := labelTcMatch label type.tc
  instructions := [.applyActions [.setField (.reg2 destKey)],
    .gotoTable Const.egressTable]

def destKey (flowClassifier : FlowClassifier) : Except PyError Nat :=
  match flowClassifier.destPort with
  | none => .error .attributeError
  | some destPort => .ok destPort.uniqueKey

/-- `install_forward_to_dest` -/
def installForwardToDest (portChain : PortChain) (flowClassifier : FlowClassifier) :
    Action Unit :=
  forM ethTypeToTc fun type => do
    let label ← Program.ofExcept (getDecapLabel portChain flowClassifier)
    let key ← Program.ofExcept (destKey flowClassifier)
    modFlow (forwardFlow key label type)

/-- `uninstall_forward_to_dest`, which deletes what `uninstall_decap_flows` does. -/
def uninstallForwardToDest (portChain : PortChain) (flowClassifier : FlowClassifier) :
    Action Unit :=
  uninstallDecapFlows portChain flowClassifier

variable (isLocal : Id → Bool)

/-- Run an action under a condition. -/
def onlyIf (condition : Prop) [Decidable condition] (action : Action Unit) :
    Action Unit :=
  if condition then action else pure ()

/-- `_install_flow_classifier_flows` -/
def installFlowClassifierFlows (portChain : PortChain)
    (flowClassifier : FlowClassifier) : Action Unit := do
  onlyIf (flowClassifier.isClassificationLocal isLocal)
    (installEncapFlows portChain flowClassifier)
  if flowClassifier.isDispatchLocal isLocal then
    installDecapFlows portChain flowClassifier
  else
    installForwardToDest portChain flowClassifier

/-- `_uninstall_flow_classifier_flows` -/
def uninstallFlowClassifierFlows (portChain : PortChain)
    (flowClassifier : FlowClassifier) : Action Unit := do
  onlyIf (flowClassifier.isClassificationLocal isLocal)
    (uninstallEncapFlows flowClassifier)
  if flowClassifier.isDispatchLocal isLocal then
    uninstallDecapFlows portChain flowClassifier
  else
    uninstallForwardToDest portChain flowClassifier

/-- `_install_flow_classifier_local_port_flows` -/
def installFlowClassifierLocalPortFlows (portChain : PortChain)
    (flowClassifier : FlowClassifier) : Action Unit := do
  onlyIf (flowClassifier.sourcePort ≠ none) (installEncapFlows portChain flowClassifier)
  onlyIf (flowClassifier.destPort ≠ none) do
    uninstallForwardToDest portChain flowClassifier
    installDecapFlows portChain flowClassifier

/-- `_uninstall_flow_classifier_local_port_flows` -/
def uninstallFlowClassifierLocalPortFlows (portChain : PortChain)
    (flowClassifier : FlowClassifier) : Action Unit := do
  onlyIf (flowClassifier.sourcePort ≠ none) (uninstallEncapFlows flowClassifier)
  onlyIf (flowClassifier.destPort ≠ none) do
    installForwardToDest portChain flowClassifier
    uninstallDecapFlows portChain flowClassifier

/-! ## Port pair groups -/

/-- `_port_pair_to_bucket` -/
def portPairToBucket (portPair : PortPair) : Bucket :=
  [.setField (.reg7 portPair.ingressPort.uniqueKey),
    .resubmitTable
      (if portPair.correlationMechanism = some .mpls ∨
          ¬ isLocal portPair.ingressPort.id then
        Const.egressTable
      else
        Const.sfcMplsPpDecapTable)]

def ppDecapFlow (label : Nat) (type : TrafficClass) : OFPFlowMod where
  table := Const.sfcMplsPpDecapTable
  priority := Const.priorityHigh
  pattern := labelTcMatch label type.tc
  instructions :=
    [.applyActions [.popMpls type.ethType, .resubmitTable Const.egressTable]]

/-- `_install_port_pair_decap_flows` -/
def installPortPairDecapFlows (label : Nat) : Action Unit :=
  forM ethTypeToTc fun type => modFlow (ppDecapFlow label type)

/-- `_uninstall_port_pair_decap_flows`. The match has no traffic class. -/
def uninstallPortPairDecapFlows (label : Nat) : Action Unit :=
  modFlow (deletion Const.sfcMplsPpDecapTable Const.priorityHigh (labelMatch label))

def dispatchToAllFlow (label : Nat) : OFPFlowMod where
  table := Const.sfcMplsDispatchTable
  priority := Const.priorityHigh
  pattern := labelMatch label
  instructions := [.applyActions [.group (getDispatchToAllGroupId label)]]

/-- `_install_dispatch_to_all_port_pairs` -/
def installDispatchToAllPortPairs (portPairGroup : PortPairGroup) (label : Nat) :
    Action Unit := do
  addGroup (getDispatchToAllGroupId label)
    (portPairGroup.portPairs.map (portPairToBucket isLocal))
  modFlow (dispatchToAllFlow label)

/-- `_uninstall_dispatch_to_all_port_pairs` -/
def uninstallDispatchToAllPortPairs (label : Nat) : Action Unit := do
  modFlow (deletion Const.sfcMplsDispatchTable Const.priorityHigh (labelMatch label))
  delGroup (getDispatchToAllGroupId label)

def localPortPairs (portPairGroup : PortPairGroup) : List PortPair :=
  portPairGroup.portPairs.filter fun portPair => isLocal portPair.ingressPort.id

def dispatchToLocalFlow (label : Nat) : OFPFlowMod where
  table := Const.ingressDestinationPortLookupTable
  priority := Const.priorityVeryHigh
  pattern := labelMatch label
  instructions := [.applyActions [.group (getDispatchLocallyGroupId label)]]

/-- `_install_dispatch_to_local_port_pairs` -/
def installDispatchToLocalPortPairs (portPairGroup : PortPairGroup) (label : Nat) :
    Action Unit :=
  onlyIf (localPortPairs isLocal portPairGroup ≠ []) do
    addGroup (getDispatchLocallyGroupId label)
      ((localPortPairs isLocal portPairGroup).map (portPairToBucket isLocal))
    modFlow (dispatchToLocalFlow label)

/-- `_uninstall_dispatch_to_local_port_pairs` -/
def uninstallDispatchToLocalPortPairs (portPairGroup : PortPairGroup) (label : Nat) :
    Action Unit :=
  onlyIf (localPortPairs isLocal portPairGroup ≠ []) do
    modFlow (deletion Const.ingressDestinationPortLookupTable Const.priorityVeryHigh
      (labelMatch label))
    delGroup (getDispatchLocallyGroupId label)

/-- `install_port_pair_group_flows` -/
def installPortPairGroupFlows (portChain : PortChain) (portPairGroup : PortPairGroup) :
    Action Unit :=
  forM portChain.flowClassifiers fun flowClassifier => do
    let label ←
      Program.ofExcept (getIngressLabel portChain flowClassifier portPairGroup)
    installPortPairDecapFlows label
    installDispatchToAllPortPairs isLocal portPairGroup label
    installDispatchToLocalPortPairs isLocal portPairGroup label

/-- `uninstall_port_pair_group_flows` -/
def uninstallPortPairGroupFlows (portChain : PortChain)
    (portPairGroup : PortPairGroup) : Action Unit :=
  forM portChain.flowClassifiers fun flowClassifier => do
    let label ←
      Program.ofExcept (getIngressLabel portChain flowClassifier portPairGroup)
    uninstallPortPairDecapFlows label
    uninstallDispatchToAllPortPairs label
    uninstallDispatchToLocalPortPairs isLocal portPairGroup label

/-! ## Packets that come back from a port pair

They are caught in `portsecMain`, the main table of the port security
application. -/

def mplsEgressMatch (portPair : PortPair) (label : Nat) : OFPMatch :=
  { labelMatch label with reg6 := some (.exact portPair.egressPort.uniqueKey) }

def noneEgressMatch (portPair : PortPair) (ethType : Nat) : OFPMatch where
  reg6 := some (.exact portPair.egressPort.uniqueKey)
  ethType := some (.exact ethType)

variable (portsecMain : Nat)

def mplsEgressFlow (portPair : PortPair) (label egressLabel : Nat) : OFPFlowMod where
  table := portsecMain
  priority := Const.priorityVeryHigh
  pattern := mplsEgressMatch portPair label
  instructions := [.applyActions [.setField (.mplsLabel egressLabel),
    .resubmitTable Const.sfcMplsDispatchTable]]

/-- `_install_mpls_port_pair_egress_flows` -/
def installMplsPortPairEgressFlows (portChain : PortChain)
    (portPairGroup : PortPairGroup) (portPair : PortPair) : Action Unit :=
  forM portChain.flowClassifiers fun flowClassifier => do
    let label ←
      Program.ofExcept (getIngressLabel portChain flowClassifier portPairGroup)
    let egressLabel ←
      Program.ofExcept (getEgressLabel portChain flowClassifier portPairGroup)
    modFlow (mplsEgressFlow portsecMain portPair label egressLabel)

def noneEgressFlow (portPair : PortPair) (label : Nat) (type : TrafficClass) :
    OFPFlowMod where
  table := portsecMain
  priority := Const.priorityVeryHigh
  pattern := noneEgressMatch portPair type.ethType
  instructions := [.applyActions [.pushMpls Const.ethTypeMpls,
    .setField (.mplsLabel label), .setField (.mplsTc type.tc),
    .resubmitTable Const.sfcMplsDispatchTable]]

/-- `_install_none_port_pair_egress_flows` -/
def installNonePortPairEgressFlows (portChain : PortChain)
    (portPairGroup : PortPairGroup) (portPair : PortPair) : Action Unit :=
  forM portChain.flowClassifiers fun flowClassifier => do
    let label ←
      Program.ofExcept (getEgressLabel portChain flowClassifier portPairGroup)
    forM ethTypeToTc fun type => modFlow (noneEgressFlow portsecMain portPair label type)

/-- `install_port_pair_egress_flows` -/
def installPortPairEgressFlows (portChain : PortChain) (portPairGroup : PortPairGroup)
    (portPair : PortPair) : Action Unit :=
  match portPair.correlationMechanism with
  | some .mpls =>
      installMplsPortPairEgressFlows portsecMain portChain portPairGroup portPair
  | some .none =>
      installNonePortPairEgressFlows portsecMain portChain portPairGroup portPair
  | none => pure ()

/-- `_uninstall_mpls_port_pair_egress_flows` -/
def uninstallMplsPortPairEgressFlows (portChain : PortChain)
    (portPairGroup : PortPairGroup) (portPair : PortPair) : Action Unit :=
  forM portChain.flowClassifiers fun flowClassifier => do
    let label ←
      Program.ofExcept (getIngressLabel portChain flowClassifier portPairGroup)
    modFlow (deletion portsecMain Const.priorityVeryHigh (mplsEgressMatch portPair label))

/-- `_uninstall_none_port_pair_egress_flows` -/
def uninstallNonePortPairEgressFlows (portPair : PortPair) : Action Unit :=
  forM ethTypeToTc fun type =>
    modFlow (deletion portsecMain Const.priorityVeryHigh
      (noneEgressMatch portPair type.ethType))

/-- `uninstall_port_pair_egress_flows` -/
def uninstallPortPairEgressFlows (portChain : PortChain) (portPairGroup : PortPairGroup)
    (portPair : PortPair) : Action Unit :=
  match portPair.correlationMechanism with
  | some .mpls =>
      uninstallMplsPortPairEgressFlows portsecMain portChain portPairGroup portPair
  | some .none => uninstallNonePortPairEgressFlows portsecMain portPair
  | none => pure ()

/-- `_install_port_pair_egress` -/
def installPortPairEgress (portChain : PortChain) (portPairGroup : PortPairGroup)
    (portPair : PortPair) : Action Unit :=
  onlyIf (isLocal portPair.egressPort.id)
    (installPortPairEgressFlows portsecMain portChain portPairGroup portPair)

/-- `_uninstall_port_pair_egress` -/
def uninstallPortPairEgress (portChain : PortChain) (portPairGroup : PortPairGroup)
    (portPair : PortPair) : Action Unit :=
  onlyIf (isLocal portPair.egressPort.id)
    (uninstallPortPairEgressFlows portsecMain portChain portPairGroup portPair)

/-! ## Port chains -/

/-- `_add_port_pair_group` -/
def addPortPairGroup (portChain : PortChain) (portPairGroup : PortPairGroup) :
    Action Unit := do
  installPortPairGroupFlows isLocal portChain portPairGroup
  forM portPairGroup.portPairs
    (installPortPairEgress isLocal portsecMain portChain portPairGroup)

/-- `_remove_port_pair_group` -/
def removePortPairGroup (portChain : PortChain) (portPairGroup : PortPairGroup) :
    Action Unit := do
  uninstallPortPairGroupFlows isLocal portChain portPairGroup
  forM portPairGroup.portPairs
    (uninstallPortPairEgress isLocal portsecMain portChain portPairGroup)

/-- `_port_chain_created` -/
def portChainCreated (portChain : PortChain) : Action Unit := do
  forM portChain.flowClassifiers (installFlowClassifierFlows isLocal portChain)
  forM portChain.portPairGroups (addPortPairGroup isLocal portsecMain portChain)

/-- The flow classifiers of a chain that another one does not have. -/
def missingFrom (portChain other : PortChain) : List FlowClassifier :=
  portChain.flowClassifiers.filter fun flowClassifier =>
    flowClassifier.id ∉ other.flowClassifiers.map FlowClassifier.id

/-- The loop over the groups of both chains in `_port_chain_updated`. -/
def updateGroups (portChain oldPortChain : PortChain) :
    List PortPairGroup → List PortPairGroup → Action Unit
  | [], [] => pure ()
  | [], newPpg :: newPpgs => do
      addPortPairGroup isLocal portsecMain portChain newPpg
      updateGroups portChain oldPortChain [] newPpgs
  | oldPpg :: oldPpgs, [] => do
      removePortPairGroup isLocal portsecMain oldPortChain oldPpg
      updateGroups portChain oldPortChain oldPpgs []
  | oldPpg :: oldPpgs, newPpg :: newPpgs => do
      onlyIf (newPpg.id ≠ oldPpg.id) do
        removePortPairGroup isLocal portsecMain oldPortChain oldPpg
        addPortPairGroup isLocal portsecMain portChain newPpg
      updateGroups portChain oldPortChain oldPpgs newPpgs

/-- `_port_chain_updated` -/
def portChainUpdated (portChain oldPortChain : PortChain) : Action Unit := do
  forM (missingFrom oldPortChain portChain)
    (uninstallFlowClassifierFlows isLocal oldPortChain)
  forM (missingFrom portChain oldPortChain)
    (installFlowClassifierFlows isLocal portChain)
  updateGroups isLocal portsecMain portChain oldPortChain oldPortChain.portPairGroups
    portChain.portPairGroups

/-! ## Local ports -/

/-- The objects of `db_store`, in the order in which lookups yield them. -/
structure Store where
  flowClassifiers : List FlowClassifier
  portPairs : List PortPair
  portPairGroups : List PortPairGroup
  portChains : List PortChain

/-- What `get_one` makes of the objects that a lookup yields. -/
def getOne {α : Type} : List α → Except PyError (Option α)
  | [] => .ok none
  | [found] => .ok (some found)
  | _ => .error .valueError

variable (store : Store)

/-- `_flow_classifiers_by_lport` -/
def flowClassifiersByLport (lport : LogicalPort) : List FlowClassifier :=
  store.flowClassifiers.filter (fun flowClassifier =>
      flowClassifier.sourcePort.map LogicalPort.id = some lport.id) ++
    store.flowClassifiers.filter fun flowClassifier =>
      flowClassifier.destPort.map LogicalPort.id = some lport.id

/-- The port pairs of which none with the same id was met before. -/
def unseenPairs (seen : List Id) : List PortPair → List PortPair
  | [] => []
  | portPair :: rest =>
      if portPair.id ∈ seen then unseenPairs seen rest
      else portPair :: unseenPairs (portPair.id :: seen) rest

/-- `_port_pairs_by_lport`. The second lookup asks the index of the ingress ports
for a pair of which only the egress port is set. What is not set matches anything, so
that every stored pair is found. -/
def portPairsByLport (lport : LogicalPort) : List PortPair :=
  unseenPairs [] (store.portPairs.filter (fun portPair =>
    portPair.egressPort.id = lport.id) ++ store.portPairs)

/-- `_port_chain_by_flow_classifier` -/
def portChainByFlowClassifier (flowClassifier : FlowClassifier) :
    Except PyError (Option PortChain) :=
  getOne (store.portChains.filter fun portChain =>
    flowClassifier.id ∈ portChain.flowClassifiers.map FlowClassifier.id)

/-- `_port_chain_by_port_pair_group` -/
def portChainByPortPairGroup (portPairGroup : PortPairGroup) :
    Except PyError (Option PortChain) :=
  getOne (store.portChains.filter fun portChain =>
    portPairGroup.id ∈ portChain.portPairGroups.map PortPairGroup.id)

/-- `_port_chain_with_port_pair_group_by_port_pair` -/
def portChainWithPortPairGroupByPortPair (portPair : PortPair) :
    Except PyError (Option (PortChain × PortPairGroup)) := do
  let portPairGroup ← getOne (store.portPairGroups.filter fun portPairGroup =>
    portPair.id ∈ portPairGroup.portPairs.map PortPair.id)
  match portPairGroup with
  | none => return none
  | some portPairGroup =>
      let portChain ← portChainByPortPairGroup store portPairGroup
      return portChain.map fun portChain => (portChain, portPairGroup)

/-- Run an action on what was found. -/
def whenFound {α : Type} (found : Option α) (action : α → Action Unit) : Action Unit :=
  match found with
  | none => pure ()
  | some value => action value

/-- `_local_lport_created` -/
def localLportCreated (lport : LogicalPort) : Action Unit := do
  forM (flowClassifiersByLport store lport) fun flowClassifier => do
    let portChain ← Program.ofExcept (portChainByFlowClassifier store flowClassifier)
    whenFound portChain fun portChain =>
      installFlowClassifierLocalPortFlows portChain flowClassifier
  forM (portPairsByLport store lport) fun portPair => do
    let found ← Program.ofExcept (portChainWithPortPairGroupByPortPair store portPair)
    whenFound found fun (portChain, portPairGroup) => do
      onlyIf (lport.id = portPair.egressPort.id)
        (installPortPairEgressFlows portsecMain portChain portPairGroup portPair)
      onlyIf (lport.id = portPair.ingressPort.id) do
        uninstallPortPairGroupFlows isLocal portChain portPairGroup
        installPortPairGroupFlows isLocal portChain portPairGroup

/-- `_local_lport_deleted` -/
def localLportDeleted (lport : LogicalPort) : Action Unit := do
  forM (flowClassifiersByLport store lport) fun flowClassifier => do
    let portChain ← Program.ofExcept (portChainByFlowClassifier store flowClassifier)
    whenFound portChain fun portChain =>
      uninstallFlowClassifierLocalPortFlows portChain flowClassifier
  forM (portPairsByLport store lport) fun portPair => do
    let found ← Program.ofExcept (portChainWithPortPairGroupByPortPair store portPair)
    whenFound found fun (portChain, portPairGroup) => do
      onlyIf (lport.id = portPair.egressPort.id)
        (uninstallPortPairEgressFlows portsecMain portChain portPairGroup portPair)
      onlyIf (lport.id = portPair.ingressPort.id) do
        uninstallPortPairGroupFlows isLocal portChain portPairGroup
        installPortPairGroupFlows isLocal portChain portPairGroup

end SfcApp

end Dragonflow
