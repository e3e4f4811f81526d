import Dragonflow.Controller.Node
import Dragonflow.Controller.OpenFlow

/-! # The L2 application

The flows that `dragonflow/controller/apps/l2.py` keeps for ports, with the
responders of `arp_responder.py` and `nd_advertisers.py`.
-/

namespace Dragonflow

open Program

/-- `_LocalNetwork` -/
structure LocalNetwork where
  localPorts : Dict Id Nat := ∅
  remotePorts : Dict Id Nat := ∅

def LocalNetwork.isEmpty (network : LocalNetwork) : Bool :=
  network.localPorts.entries.isEmpty && network.remotePorts.entries.isEmpty

structure L2App where
  localNetworks : Dict Nat LocalNetwork := ∅
  flows : Flows := FlowTable.empty

namespace L2App

structure Config where
  /-- The switches of the store. -/
  lswitches : Id → Option LogicalSwitch
  /-- `cfg.CONF.df_l2_app.l2_responder` -/
  isInstallL2Responder : Bool

abbrev Action (β : Type) := Program L2App PyError β

def modFlow (message : OFPFlowMod) : Action Unit :=
  modify fun app => { app with flows := app.flows.apply message }

/-- Read the switch of a port. -/
def Config.lswitch (config : Config) (lport : LogicalPort) :
    Except PyError LogicalSwitch :=
  Inventory.lswitch ⟨fun _ => none, config.lswitches⟩ lport

/-- `haddr_to_bin` does not accept `None`. -/
def haddrToBin : Option MacAddress → Except PyError MacAddress
  | none => .error .typeError
  | some mac => .ok mac

/-! ## Responders -/

/-- `ArpResponder._get_match` -/
def arpMatch (networkId : Nat) (ip : BitVec 32) : OFPMatch where
  ethType := some (.exact 0x0806)
  arpTpa := some (.exact ip.toNat)
  arpOp := some (.exact 1)
  metadata := some (.exact networkId)

/-- `ArpResponder.add` -/
def arpResponder (networkId : Nat) (ip : BitVec 32) (mac : MacAddress) : OFPFlowMod where
  table := Const.arpTable
  priority := Const.priorityMedium
  pattern := arpMatch networkId ip
  instructions := [
    .applyActions [.setField (.arpOp 2), .regMove "arp_sha" "arp_tha" 48,
      .regMove "arp_spa" "arp_tpa" 32, .regMove "eth_src" "eth_dst" 48,
      .setField (.ethSrc (some mac)), .setField (.arpSha (some mac)),
      .setField (.arpSpa (.v4 ip)), .regMove "reg6" "reg7" 32],
    .gotoTable Const.ingressDispatchTable]

/-- `ArpResponder.remove` -/
def arpResponderRemoval (networkId : Nat) (ip : BitVec 32) : OFPFlowMod where
  command := .deleteStrict
  table := Const.arpTable
  priority := Const.priorityMedium
  pattern := arpMatch networkId ip

/-- `NeighborAdvertiser._get_match` -/
def neighborMatch (networkId : Nat) (ip : BitVec 128) : OFPMatch where
  ethType := some (.exact 0x86dd)
  ipProto := some (.exact 58)
  ipv6Dst := some (.exact ip.toNat)
  icmpv6Type := some (.exact 135)
  metadata := some (.exact networkId)

/-- `NeighborAdvertiser.add` -/
def neighborAdvertiser (networkId : Nat) (ip : BitVec 128) (mac : MacAddress) :
    OFPFlowMod where
  table := Const.ipv6NdTable
  priority := Const.priorityMedium
  pattern := neighborMatch networkId ip
  instructions := [
    .applyActions [.setField (.icmpv6Type 136), .regMove "ipv6_src" "ipv6_dst" 128,
      .regMove "eth_src" "eth_dst" 48, .setField (.ethSrc (some mac)),
      .setField (.ipv6NdSll (some mac)), .regMove "reg6" "reg7" 32],
    .gotoTable Const.ingressDispatchTable]

/-- `NeighborAdvertiser.remove` -/
def neighborAdvertiserRemoval (networkId : Nat) (ip : BitVec 128) : OFPFlowMod where
  command := .delete
  table := Const.ipv6NdTable
  priority := Const.priorityMedium
  pattern := neighborMatch networkId ip

def responder (networkId : Nat) (mac : MacAddress) : IPAddress → OFPFlowMod
  | .v4 ip => arpResponder networkId ip mac
  | .v6 ip => neighborAdvertiser networkId ip mac

def responderRemoval (networkId : Nat) : IPAddress → OFPFlowMod
  | .v4 ip => arpResponderRemoval networkId ip
  | .v6 ip => neighborAdvertiserRemoval networkId ip

variable (config : Config) (lports : Dict Id LogicalPort)

/-- `_add_l2_responders`. The mac is encoded with each message. -/
def addL2Responders (lport : LogicalPort) : Action Unit := do
  if config.isInstallL2Responder then
    let lswitch ← Program.ofExcept (config.lswitch lport)
    forM lport.ips fun ip => do
      let mac ← Program.ofExcept (encoded lport.mac)
      modFlow (responder lswitch.uniqueKey mac ip)
  else
    pure ()

/-- `_remove_l2_responders` -/
def removeL2Responders (lport : LogicalPort) : Action Unit := do
  if config.isInstallL2Responder then
    let lswitch ← Program.ofExcept (config.lswitch lport)
    forM lport.ips fun ip => modFlow (responderRemoval lswitch.uniqueKey ip)
  else
    pure ()

/-! ## The flows of one port -/

/-- The match of packets to a port of a network. -/
def unicastMatch (networkId : Nat) (mac : MacAddress) : OFPMatch where
  metadata := some (.exact networkId)
  ethDst := some (.exact mac.toNat)

/-- `_add_dst_classifier_flow_for_port` -/
def addDstClassifierFlowForPort (networkId : Nat) (mac : Option MacAddress)
    (portKey : Nat) : Action Unit := do
  let mac ← Program.ofExcept (haddrToBin mac)
  modFlow {
    table := Const.l2LookupTable
    priority := Const.priorityMedium
    pattern := unicastMatch networkId mac
    instructions := [.applyActions [.setField (.reg7 portKey)],
      .gotoTable Const.egressTable] }

/-- `_delete_dst_classifier_flow_for_port` -/
def deleteDstClassifierFlowForPort (networkId : Nat) (mac : Option MacAddress) :
    Action Unit := do
  let mac ← Program.ofExcept (haddrToBin mac)
  modFlow {
    command := .delete
    table := Const.l2LookupTable
    priority := Const.priorityMedium
    pattern := unicastMatch networkId mac }

/-- `DEVICE_OWNER_ROUTER_INTF` -/
def deviceOwnerRouterIntf : String := "network:router_interface"

/-- Do something for ports that are not router interfaces. -/
def unlessRouterInterface (lport : LogicalPort) (action : Action Unit) : Action Unit :=
  if lport.deviceOwner ≠ some deviceOwnerRouterIntf then action else pure ()

/-- `_add_port` -/
def addPort (lport : LogicalPort) : Action Unit := do
  let lswitch ← Program.ofExcept (config.lswitch lport)
  unlessRouterInterface lport
    (addDstClassifierFlowForPort lswitch.uniqueKey lport.mac lport.uniqueKey)
  addL2Responders config lport

/-- `_remove_port` -/
def removePort (lport : LogicalPort) : Action Unit := do
  let lswitch ← Program.ofExcept (config.lswitch lport)
  unlessRouterInterface lport
    (deleteDstClassifierFlowForPort lswitch.uniqueKey lport.mac)
  removeL2Responders config lport

/-! ## Broadcast and multicast -/

/-- `_get_multicast_broadcast_match` -/
def multicastBroadcastMatch (networkId : Nat) : OFPMatch where
  ethDst := some (.masked multicastBit.toNat multicastBit.toNat)
  metadata := some (.exact networkId)

/-- The actions that pass a packet on as one for the port. -/
def resubmit (table portKey : Nat) : List FlowAction :=
  [.setField (.reg7 portKey), .resubmitTable table]

def egressBroadcast (command : FlowCommand) (networkId : Nat)
    (actions : List FlowAction) : OFPFlowMod where
  command := command
  table := Const.l2LookupTable
  priority := Const.priorityMedium
  pattern := multicastBroadcastMatch networkId
  instructions := [.applyActions actions]

def ingressBroadcast (command : FlowCommand) (networkId : Nat)
    (actions : List FlowAction) : OFPFlowMod where
  command := command
  table := Const.ingressDestinationPortLookupTable
  priority := Const.priorityHigh
  pattern := multicastBroadcastMatch networkId
  instructions := [.applyActions actions]

def egressBroadcastRemoval (networkId : Nat) : OFPFlowMod where
  command := .delete
  table := Const.l2LookupTable
  priority := Const.priorityMedium
  pattern := multicastBroadcastMatch networkId

def ingressBroadcastRemoval (networkId : Nat) : OFPFlowMod where
  command := .delete
  table := Const.ingressDestinationPortLookupTable
  priority := Const.priorityHigh
  pattern := multicastBroadcastMatch networkId

/-- `_del_multicast_broadcast_flows_for_local` -/
def delMulticastBroadcastFlowsForLocal (networkId : Nat) : Action Unit := do
  modFlow (egressBroadcastRemoval networkId)
  modFlow (ingressBroadcastRemoval networkId)

/-- One round of the loop over the local ports of a network. A port that is not
stored, and the port that is excepted, are passed over. -/
def portKey (except : Option Id) (entry : (_ : Id) × Nat) : Option Nat :=
  match lports.lookup entry.1 with
  | none => none
  | some lport => if some lport.id = except then none else some entry.2

/-- The keys that the loop finds. -/
def portKeys (localPorts : Dict Id Nat) (except : Option Id) : List Nat :=
  localPorts.entries.filterMap (portKey lports except)

/-- The two messages at the end of adding and of updating. -/
def modBroadcastFlows (command : FlowCommand) (networkId : Nat) (keys : List Nat) :
    Action Unit := do
  modFlow (egressBroadcast command networkId
    (keys.flatMap (resubmit Const.egressTable) ++ resubmit Const.egressTable 0))
  modFlow (ingressBroadcast command networkId
    (keys.flatMap (resubmit Const.ingressConntrackTable)))

/-- `_update_multicast_broadcast_flows_for_local` -/
def updateMulticastBroadcastFlowsForLocal (localPorts : Dict Id Nat)
    (networkId : Nat) : Action Unit :=
  modBroadcastFlows .modify networkId (portKeys lports localPorts none)

/-- `_del_multicast_broadcast_handling_for_local` -/
def delMulticastBroadcastHandlingForLocal (lportId : Id) (networkId : Nat) :
    Action Unit := do
  let app ← get
  match app.localNetworks.lookup networkId with
  | none => pure ()
  | some network =>
      match network.localPorts.lookup lportId with
      | none => pure ()
      | some _ => do
          let network := { network with localPorts := network.localPorts.erase lportId }
          set { app with localNetworks := app.localNetworks.insert networkId network }
          if network.localPorts.entries.isEmpty then do
            delMulticastBroadcastFlowsForLocal networkId
            if network.isEmpty then
              modify fun app =>
                { app with localNetworks := app.localNetworks.erase networkId }
            else
              pure ()
          else
            updateMulticastBroadcastFlowsForLocal lports network.localPorts networkId

/-- `_add_multicast_broadcast_handling_for_local_port` -/
def addMulticastBroadcastHandlingForLocalPort (lportId : Id) (portKey networkId : Nat) :
    Action Unit := do
  let app ← get
  let network := (app.localNetworks.lookup networkId).getD {}
  let localPorts := network.localPorts.insert lportId portKey
  set { app with
    localNetworks := app.localNetworks.insert networkId { network with localPorts } }
  modBroadcastFlows (if network.localPorts.entries.isEmpty then .add else .modify)
    networkId (portKey :: portKeys lports localPorts (some lportId))

/-! ## Local ports -/

/-- `_add_local_port_dispatch` -/
def addLocalPortDispatch (lport : LogicalPort) : Action Unit := do
  let lswitch ← Program.ofExcept (config.lswitch lport)
  let mac ← Program.ofExcept (haddrToBin lport.mac)
  modFlow {
    table := Const.ingressDestinationPortLookupTable
    priority := Const.priorityHigh
    pattern := unicastMatch lswitch.uniqueKey mac
    instructions := [.applyActions [.setField (.reg7 lport.uniqueKey)],
      .gotoTable Const.ingressConntrackTable] }
  modFlow {
    table := Const.egressTable
    priority := Const.priorityMedium
    pattern := { reg7 := some (.exact lport.uniqueKey) }
    instructions := [.gotoTable Const.ingressConntrackTable] }
  addMulticastBroadcastHandlingForLocalPort lports lport.id lport.uniqueKey
    lswitch.uniqueKey

/-- `_remove_local_port_pipeline_interface` -/
def removeLocalPortPipelineInterface (lport : LogicalPort) : Action Unit := do
  let lswitch ← Program.ofExcept (config.lswitch lport)
  modFlow {
    command := .delete
    table := Const.egressTable
    priority := Const.priorityMedium
    pattern := { reg7 := some (.exact lport.uniqueKey) } }
  let mac ← Program.ofExcept (haddrToBin lport.mac)
  modFlow {
    command := .delete
    table := Const.ingressDestinationPortLookupTable
    priority := Const.priorityHigh
    pattern := unicastMatch lswitch.uniqueKey mac }
  delMulticastBroadcastHandlingForLocal lports lport.id lswitch.uniqueKey

/-- `_add_local_port` -/
def addLocalPort (lport : LogicalPort) : Action Unit := do
  addPort config lport
  addLocalPortDispatch config lports lport

/-- `_remove_local_port` -/
def removeLocalPort (lport : LogicalPort) : Action Unit := do
  removePort config lport
  removeLocalPortPipelineInterface config lports lport

/-- What `L2App` registers for ports. -/
def app : QuietApp L2App := fun lports _ event lport =>
  match event with
  | .bind .here => addLocalPort config lports lport
  | .unbind .here => removeLocalPort config lports lport
  | .bind .elsewhere => addPort config lport
  | .unbind .elsewhere => removePort config lport
  | .updated _ _ => pure ()

end L2App

end Dragonflow
