import Dragonflow.Controller.Common.LogicalNetworks
import Dragonflow.Controller.OpenFlow
import Dragonflow.Foundation.Program
import Dragonflow.Foundation.Steps

/-! # Provider networks

`dragonflow/controller/apps/provider.py`: networks that leave the integration bridge
through the bridge of a physical network. Packets to the placeholder MAC are sent to the
MAC of that bridge.
-/

namespace Dragonflow

open Program

/-- `l2.LogicalSwitch` with its physical network. -/
structure ProviderSwitch extends LogicalSwitch where
  physicalNetwork : Option String := none
  deriving DecidableEq, Repr

/-- What `helpers.parse_mappings` makes of the option `bridge_mappings`: no bridge belongs
to two physical networks. -/
structure BridgeMappings where
  bridges : Dict String String
  unique : ∀ network other bridge, bridges.lookup network = some bridge →
    bridges.lookup other = some bridge → network = other

namespace BridgeMappings

/-- `reverse_bridge_mappings` -/
def reverse (mappings : BridgeMappings) (bridge : String) : Option String :=
  (mappings.bridges.entries.find? fun entry => entry.2 = bridge).map Sigma.fst

theorem reverse_eq_some_iff (mappings : BridgeMappings) (bridge network : String) :
    mappings.reverse bridge = some network ↔
      mappings.bridges.lookup network = some bridge := by
  unfold reverse
  rw [Option.map_eq_some_iff]
  constructor
  · intro found
    rcases found with ⟨⟨key, value⟩, isFound, isNetwork⟩
    cases isNetwork
    have isBridge : value = bridge := by simpa using List.find?_some isFound
    rw [← isBridge]
    exact AList.mem_lookup_iff.mpr (List.mem_of_find?_eq_some isFound)
  · intro isBridge
    have member := AList.mem_lookup_iff.mp isBridge
    cases isFound : mappings.bridges.entries.find? fun entry => entry.2 = bridge with
    | none =>
        rw [List.find?_eq_none] at isFound
        exact absurd (decide_eq_true rfl) (isFound _ member)
    | some entry =>
        refine ⟨entry, rfl, ?_⟩
        have same : entry.2 = bridge := by simpa using List.find?_some isFound
        apply mappings.unique entry.1 network bridge _ isBridge
        rw [← same]
        exact AList.mem_lookup_iff.mpr (List.mem_of_find?_eq_some isFound)

end BridgeMappings

structure ProviderApp where
  logicalNetworks : LogicalNetworks := {}
  intOfports : Dict String Nat := ∅
  bridgeMacs : Dict String (Option MacAddress) := ∅
  flows : Flows := FlowTable.empty

namespace ProviderApp

/-- The fields of `switch.SwitchPort` that the application reads. -/
structure SwitchPort where
  name : String
  macInUse : Option MacAddress := none
  deriving DecidableEq, Repr

abbrev Action (β : Type) := Program ProviderApp PyError β

def modFlow (message : OFPFlowMod) : Action Unit :=
  modify fun app => { app with flows := app.flows.apply message }

def onNetworks (change : LogicalNetworks → LogicalNetworks) : Action Unit :=
  modify fun app => { app with logicalNetworks := change app.logicalNetworks }

def netVlan : String := "vlan"

def netFlat : String := "flat"

def networkTypes : List String := [netVlan, netFlat]

/-- `OFPVID_PRESENT` -/
def vidPresent : Nat := 0x1000

def vlanMask : Nat := 0xfff

/-- `EMPTY_MAC` -/
def emptyMac : MacAddress := 0

/-- Read the physical network of a switch as a key of a dictionary. -/
def byPhysicalNetwork (dict : Dict String ν) (lswitch : ProviderSwitch) :
    Except PyError ν :=
  match lswitch.physicalNetwork.bind dict.lookup with
  | none => .error .keyError
  | some value => .ok value

/-! ## Bridges -/

/-- What `vswitch_api` says about a bridge: the port of the integration bridge that is
linked to it, and its MAC. -/
structure Bridges where
  ofport : String → Nat
  macInUse : String → Option MacAddress

/-- `_setup_physical_bridges` -/
def setupPhysicalBridges (mappings : BridgeMappings) (bridges : Bridges) : Action Unit :=
  forM mappings.bridges.entries fun entry =>
    modify fun app =>
      { app with
        intOfports := app.intOfports.insert entry.1 (bridges.ofport entry.2)
        bridgeMacs := app.bridgeMacs.insert entry.1 (bridges.macInUse entry.2) }

/-- The match of packets to the placeholder. -/
def placeholderMatch (networkId : Nat) : OFPMatch where
  metadata := some (.exact networkId)
  ethDst := some (.exact emptyMac.toNat)

def placeholderFlow (networkId : Nat) (mac : Option MacAddress) (portNum : Nat) :
    OFPFlowMod where
  table := Const.egressExternalTable
  priority := Const.priorityHigh
  pattern := placeholderMatch networkId
  instructions := [.applyActions [.setField (.ethDst mac), .output portNum]]

/-- `_egress_placeholder_flow`. The MAC is `None` when the bridge had none. -/
def egressPlaceholderFlow (lswitch : ProviderSwitch) : Action Unit := do
  let app ← get
  let portNum ← Program.ofExcept (byPhysicalNetwork app.intOfports lswitch)
  let bridgeMac ← Program.ofExcept (byPhysicalNetwork app.bridgeMacs lswitch)
  let mac ← Program.ofExcept (encoded bridgeMac)
  modFlow (placeholderFlow lswitch.uniqueKey (some mac) portNum)

/-- `_remove_egress_placeholder_flow` -/
def removeEgressPlaceholderFlow (networkId : Nat) : OFPFlowMod where
  command := .delete
  table := Const.egressExternalTable
  priority := Const.priorityHigh
  pattern := placeholderMatch networkId

/-- The switches of `db_store`, in the order in which lookups yield them. -/
abbrev Store := List ProviderSwitch

/-- `db_store.get_one` by the index of physical networks. -/
def getOne (store : Store) (physicalNetwork : String) :
    Except PyError (Option ProviderSwitch) :=
  match store.filter fun lswitch => lswitch.physicalNetwork = some physicalNetwork with
  | [] => .ok none
  | [lswitch] => .ok (some lswitch)
  | _ :: _ :: _ => .error .valueError

/-- A switch that was looked up is read. -/
def found : Option ProviderSwitch → Except PyError ProviderSwitch
  | none => .error .attributeError
  | some lswitch => .ok lswitch

/-- The flow for an old MAC is removed. -/
def removeOldMac (oldMac : Option MacAddress) (lswitch : Option ProviderSwitch) :
    Action Unit :=
  if oldMac = none then pure ()
  else do
    let lswitch ← Program.ofExcept (found lswitch)
    modFlow (removeEgressPlaceholderFlow lswitch.uniqueKey)

/-- A flow for a new MAC is added, before the MAC is stored. -/
def addNewMac (mac : Option MacAddress) (lswitch : Option ProviderSwitch) : Action Unit :=
  if mac = none then pure ()
  else do
    let lswitch ← Program.ofExcept (found lswitch)
    egressPlaceholderFlow lswitch

variable (mappings : BridgeMappings) (store : Store)

/-- `_update_bridge_mac` -/
def updateBridgeMac (bridge : String) (mac : Option MacAddress) : Action Unit :=
  match mappings.reverse bridge with
  | none => pure ()
  | some physicalNetwork => do
      let app ← get
      match app.bridgeMacs.lookup physicalNetwork with
      | none => pure ()
      | some oldMac =>
          if oldMac = mac then pure ()
          else do
            let lswitch ← Program.ofExcept (getOne store physicalNetwork)
            removeOldMac oldMac lswitch
            addNewMac mac lswitch
            modify fun app =>
              { app with bridgeMacs := app.bridgeMacs.insert physicalNetwork mac }

/-- `_bridge_updated` -/
def bridgeUpdated (switchPort : SwitchPort) : Action Unit :=
  updateBridgeMac mappings store switchPort.name switchPort.macInUse

/-- `_bridge_deleted` -/
def bridgeDeleted (switchPort : SwitchPort) : Action Unit :=
  updateBridgeMac mappings store switchPort.name none

/-! ## Networks -/

/-- The VLAN of a network, which a flat one does not have. -/
def vlanVid (lswitch : ProviderSwitch) : Except PyError Nat :=
  if lswitch.networkType = some netVlan then
    match lswitch.segmentationId with
    | none => .error .typeError
    | some segmentationId => .ok (vidPresent ||| segmentationId)
  else .ok 0

/-- The actions of `_match_actions_by_network_type`. -/
def classificationActions (lswitch : ProviderSwitch) : List FlowAction :=
  .regLoad "in_port" 0 31 :: .setField (.metadata lswitch.uniqueKey) ::
    if lswitch.networkType = some netVlan then [.popVlan] else []

/-- The match of `_match_actions_by_network_type`. -/
def classificationMatch (lswitch : ProviderSwitch) : Action OFPMatch := do
  let vid ← Program.ofExcept (vlanVid lswitch)
  let app ← get
  let inPort ← Program.ofExcept (byPhysicalNetwork app.intOfports lswitch)
  return { inPort := some (.exact inPort), vlanVid := some (.exact vid) }

/-- `_network_classification_flow` -/
def networkClassificationFlow (lswitch : ProviderSwitch) : Action Unit := do
  let pattern ← classificationMatch lswitch
  modFlow {
    table := Const.ingressClassificationDispatchTable
    priority := Const.priorityLow
    pattern
    instructions := [.applyActions (classificationActions lswitch),
      .gotoTable Const.externalIngressDetectSourceTable] }

/-- `_make_bum_match`. Only the bit of multicast addresses is compared. -/
def makeBumMatch (metadata : Nat) : OFPMatch where
  metadata := some (.exact metadata)
  ethDst := some (.masked 0 multicastBit.toNat)

/-- `_l2_lookup_flow` -/
def l2LookupFlow (networkId : Nat) : OFPFlowMod where
  table := Const.l2LookupTable
  priority := Const.priorityMedium
  pattern := makeBumMatch networkId
  instructions := [.gotoTable Const.egressTable]

/-- The actions of `_egress_flow`. -/
def egressActions (lswitch : ProviderSwitch) : Except PyError (List Instruction) :=
  if lswitch.networkType = some netVlan then
    match lswitch.segmentationId with
    | none => .error .typeError
    | some segmentationId =>
        .ok [.applyActions [.pushVlan,
          .setField (.vlanVid (segmentationId &&& vlanMask ||| vidPresent))]]
  else .ok []

/-- `_egress_flow`. Packets that come from the physical network are not sent back. -/
def egressFlow (lswitch : ProviderSwitch) : Action Unit := do
  let actions ← Program.ofExcept (egressActions lswitch)
  modFlow {
    table := Const.egressTable
    priority := Const.priorityLow
    pattern := { metadata := some (.exact lswitch.uniqueKey) }
    instructions := actions ++ [.gotoTable Const.egressExternalTable] }
  modFlow {
    table := Const.egressTable
    priority := Const.priorityLow + 1
    pattern := { metadata := some (.exact lswitch.uniqueKey), reg6 := some (.exact 0) } }

/-- The flow of `_egress_external_flow` that does not change the MAC. -/
def externalFlow (networkId portNum : Nat) : OFPFlowMod where
  table := Const.egressExternalTable
  priority := Const.priorityMedium
  pattern := { metadata := some (.exact networkId) }
  instructions := [.applyActions [.output portNum]]

/-- `_egress_external_flow` -/
def egressExternalFlow (lswitch : ProviderSwitch) : Action Unit := do
  let app ← get
  let portNum ← Program.ofExcept (byPhysicalNetwork app.intOfports lswitch)
  modFlow (externalFlow lswitch.uniqueKey portNum)
  match lswitch.physicalNetwork.bind app.bridgeMacs.lookup with
  | some (some _) => egressPlaceholderFlow lswitch
  | _ => pure ()

/-- `_new_network_flow` -/
def newNetworkFlow (lswitch : ProviderSwitch) : Action Unit := do
  networkClassificationFlow lswitch
  modFlow (l2LookupFlow lswitch.uniqueKey)
  egressFlow lswitch
  egressExternalFlow lswitch

/-- `_remove_network_classification_flow` -/
def removeNetworkClassificationFlow (lswitch : ProviderSwitch) : Action Unit := do
  let pattern ← classificationMatch lswitch
  modFlow {
    command := .delete
    table := Const.ingressClassificationDispatchTable
    priority := Const.priorityLow
    pattern }

/-- `_remove_l2_lookup_flow` -/
def removeL2LookupFlow (networkId : Nat) : OFPFlowMod where
  command := .delete
  table := Const.l2LookupTable
  priority := Const.priorityMedium
  pattern := makeBumMatch networkId

/-- `_remove_egress_flow` -/
def removeEgressFlow (networkId : Nat) : OFPFlowMod where
  command := .delete
  table := Const.egressTable
  priority := Const.priorityLow
  pattern := { metadata := some (.exact networkId) }

/-- `_remove_egress_external_flow`, which removes the flow of the placeholder as well. -/
def removeEgressExternalFlow (networkId : Nat) : OFPFlowMod where
  command := .delete
  table := Const.egressExternalTable
  priority := Const.priorityHigh
  pattern := { metadata := some (.exact networkId) }

/-- `_remove_network_flow` -/
def removeNetworkFlow (lswitch : ProviderSwitch) : Action Unit := do
  removeNetworkClassificationFlow lswitch
  modFlow (removeL2LookupFlow lswitch.uniqueKey)
  modFlow (removeEgressFlow lswitch.uniqueKey)
  modFlow (removeEgressExternalFlow lswitch.uniqueKey)

/-! ## Ports -/

/-- Read the switch of a port. -/
def portLswitch (lport : LogicalPort) : Except PyError ProviderSwitch :=
  match lport.lswitch with
  | none => .error .attributeError
  | some id =>
      match store.find? fun lswitch => lswitch.id = id with
      | none => .error .referencedObjectNotFound
      | some lswitch => .ok lswitch

def isProvider (lswitch : ProviderSwitch) : Prop :=
  lswitch.networkType ∈ networkTypes.map some

instance (lswitch : ProviderSwitch) : Decidable (isProvider lswitch) :=
  inferInstanceAs (Decidable (_ ∈ _))

/-- Do something about a network that has no local ports. -/
def whenEmpty (lswitch : ProviderSwitch) (action : Action Unit) : Action Unit := do
  let app ← get
  if app.logicalNetworks.getLocalPortCount lswitch.uniqueKey lswitch.networkType = 0 then
    action
  else pure ()

/-- `_add_local_port` -/
def addLocalPort (lport : LogicalPort) : Action Unit := do
  let lswitch ← Program.ofExcept (portLswitch store lport)
  if isProvider lswitch then do
    whenEmpty lswitch (newNetworkFlow lswitch)
    onNetworks fun networks =>
      networks.addLocalPort lport.id lswitch.uniqueKey lswitch.networkType
  else pure ()

/-- `_remove_local_port` -/
def removeLocalPort (lport : LogicalPort) : Action Unit := do
  let lswitch ← Program.ofExcept (portLswitch store lport)
  if isProvider lswitch then do
    onNetworks fun networks =>
      networks.removeLocalPort lport.id lswitch.uniqueKey lswitch.networkType
    whenEmpty lswitch (removeNetworkFlow lswitch)
  else pure ()

end ProviderApp

end Dragonflow
