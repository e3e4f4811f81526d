import Dragonflow.Controller.Common.LogicalNetworks
import Dragonflow.Controller.Node
import Dragonflow.Controller.OpenFlow

/-! # Tunnels

`dragonflow/controller/apps/tunneling.py`: packets to ports on other chassis
leave through a tunnel to that chassis.
-/

namespace Dragonflow

open Program

structure TunnelingApp where
  localNetworks : LogicalNetworks := {}
  flows : Flows := FlowTable.empty

namespace TunnelingApp

structure Config extends Inventory where
  /-- `cfg.CONF.df.tunnel_types` -/
  tunnelTypes : List String
  /-- `vswitch_api.get_vtp_ofport` -/
  vtpOfport : Option String → Nat

abbrev Action (β : Type) := Program TunnelingApp PyError β

def modFlow (message : OFPFlowMod) : Action Unit :=
  modify fun app => { app with flows := app.flows.apply message }

def onNetworks (change : LogicalNetworks → LogicalNetworks) : Action Unit :=
  modify fun app => { app with localNetworks := change app.localNetworks }

variable (config : Config) (lports : Dict Id LogicalPort) (locations : Locations)

/-- Some switches do not use tunnels. -/
def tunnelled (lswitch : LogicalSwitch) : Prop :=
  lswitch.networkType ∈ config.tunnelTypes.map some

instance (lswitch : LogicalSwitch) : Decidable (tunnelled config lswitch) :=
  inferInstanceAs (Decidable (_ ∈ _))

/-! ## Local ports -/

/-- `_make_network_match` -/
def makeNetworkMatch (lswitch : LogicalSwitch) (segmentationId : Nat) : OFPMatch where
  tunnelId := some (.exact segmentationId)
  inPort := some (.exact (config.vtpOfport lswitch.networkType))

/-- `_new_network_ingress_flow` -/
def newNetworkIngressFlow (lswitch : LogicalSwitch) (segmentationId : Nat) :
    OFPFlowMod where
  table := Const.ingressClassificationDispatchTable
  priority := Const.priorityMedium
  pattern := makeNetworkMatch config lswitch segmentationId
  instructions := [.applyActions [.setField (.metadata lswitch.uniqueKey)],
    .gotoTable Const.ingressDestinationPortLookupTable]

/-- `_remove_network_ingress_flow` -/
def removeNetworkIngressFlow (lswitch : LogicalSwitch) (segmentationId : Nat) :
    OFPFlowMod where
  command := .delete
  table := Const.ingressClassificationDispatchTable
  priority := Const.priorityMedium
  pattern := makeNetworkMatch config lswitch segmentationId

/-- Change the flow of a network that has no local ports. The segmentation id is
encoded with the message. -/
def modFlowOfEmpty (lswitch : LogicalSwitch) (message : Nat → OFPFlowMod) :
    Action Unit := do
  let app ← get
  if app.localNetworks.getLocalPortCount lswitch.uniqueKey lswitch.networkType = 0
  then do
    let segmentationId ← Program.ofExcept (encoded lswitch.segmentationId)
    modFlow (message segmentationId)
  else pure ()

/-- `_add_local_port` -/
def addLocalPort (lport : LogicalPort) : Action Unit := do
  let lswitch ← Program.ofExcept (config.lswitch lport)
  if tunnelled config lswitch then
    modFlowOfEmpty lswitch (newNetworkIngressFlow config lswitch)
    onNetworks fun networks =>
      networks.addLocalPort lport.id lswitch.uniqueKey lswitch.networkType
  else
    pure ()

/-- `_remove_local_port` -/
def removeLocalPort (lport : LogicalPort) : Action Unit := do
  let lswitch ← Program.ofExcept (config.lswitch lport)
  if tunnelled config lswitch then
    onNetworks fun networks =>
      networks.removeLocalPort lport.id lswitch.uniqueKey lswitch.networkType
    modFlowOfEmpty lswitch (removeNetworkIngressFlow config lswitch)
  else
    pure ()

/-! ## The flow of a remote port -/

/-- Where the store says that a port is, as an ip. -/
def remoteIp (lport : LogicalPort) : Except PyError (Option IPAddress) :=
  match PortLocator.getPortBinding locations lport with
  | none => .error .attributeError
  | some binding => binding.ip config.chassis

/-- The match of the flow of a remote port. -/
def dispatchMatch (lport : LogicalPort) : OFPMatch where
  reg7 := some (.exact lport.uniqueKey)

/-- Where packets to the port are sent. The ip is encoded with the message. -/
def tunnelIp (lport : LogicalPort) : Except PyError (BitVec 32) := do
  let peerIp ← remoteIp config locations lport
  encodedIpv4 peerIp

/-- The actions that send a packet to a peer. -/
def peerActions (segmentationId : Nat) (portNum : Nat) (peerIp : BitVec 32) :
    List FlowAction :=
  [.setField (.tunIpv4Dst peerIp), .setField (.tunnelId segmentationId), .output portNum]

/-- The flow of a remote port. -/
def egressDispatchFlow (lport : LogicalPort) (lswitch : LogicalSwitch)
    (peerIp : BitVec 32) (segmentationId : Nat) : OFPFlowMod where
  table := Const.egressTable
  priority := Const.priorityMedium
  pattern := dispatchMatch lport
  instructions := [.applyActions (peerActions segmentationId
    (config.vtpOfport lswitch.networkType) peerIp)]

/-- `_add_egress_dispatch_flow` -/
def addEgressDispatchFlow (lport : LogicalPort) (lswitch : LogicalSwitch) :
    Action Unit := do
  let peerIp ← Program.ofExcept (tunnelIp config locations lport)
  let segmentationId ← Program.ofExcept (encoded lswitch.segmentationId)
  modFlow (egressDispatchFlow config lport lswitch peerIp segmentationId)

def egressDispatchRemoval (lport : LogicalPort) : OFPFlowMod where
  command := .delete
  table := Const.egressTable
  priority := Const.priorityMedium
  pattern := dispatchMatch lport

/-- `_remove_egress_dispatch_flow` -/
def removeEgressDispatchFlow (lport : LogicalPort) : Action Unit :=
  modFlow (egressDispatchRemoval lport)

/-! ## The flow of broadcast, unknown and multicast packets -/

/-- `_make_bum_match`. `OFPMatch` is given the metadata as a keyword, but
`set_dl_dst_masked` is of its old interface, and a match with such a mask is encoded from
what was set through the old interface alone. The metadata is not sent. -/
def makeBumMatch (_metadata : Nat) : OFPMatch where
  ethDst := some (.masked multicastBit.toNat multicastBit.toNat)

/-- The loop of `_make_bum_flow_actions`. Ports that are not stored are passed
over, and so are ports with the ip of an earlier one. -/
def bumPeers : List Id → List (Option IPAddress) →
    Except PyError (List (Option IPAddress × Nat))
  | [], _ => .ok []
  | portId :: portIds, peerIps =>
      match lports.lookup portId with
      | none => bumPeers portIds peerIps
      | some lport => do
          let peerIp ← remoteIp config locations lport
          if peerIp ∈ peerIps then
            bumPeers portIds peerIps
          else
            let lswitch ← config.lswitch lport
            let peers ← bumPeers portIds (peerIp :: peerIps)
            return (peerIp, config.vtpOfport lswitch.networkType) :: peers

/-- The actions for the peers, as they are encoded. -/
def bumFlowActions (segmentationId : Option Nat) :
    List (Option IPAddress × Nat) → Except PyError (List FlowAction)
  | [] => .ok []
  | (peerIp, portNum) :: peers => do
      let address ← encodedIpv4 peerIp
      let tunnelId ← encoded segmentationId
      let actions ← bumFlowActions segmentationId peers
      return peerActions tunnelId portNum address ++ actions

/-- `_make_bum_flow_actions` -/
def makeBumFlowActions (networks : LogicalNetworks) (networkId : Nat)
    (segmentationId : Option Nat) : Except PyError (List FlowAction) :=
  match networks.getRemotePorts networkId none with
  | none => .error .typeError
  | some remotePorts => do
      let peers ← bumPeers config lports locations remotePorts []
      bumFlowActions segmentationId peers

/-- `_eval_flow_actions` -/
def evalFlowActions (networks : LogicalNetworks) (networkId : Nat)
    (segmentationId : Option Nat) (portCount : Nat) (command : FlowCommand) :
    Except PyError (List Instruction × FlowCommand) :=
  if portCount = 0 then
    .ok ([], .delete)
  else do
    let actions ←
      makeBumFlowActions config lports locations networks networkId segmentationId
    return ([.applyActions actions], if portCount ≠ 1 then .modify else command)

/-- `_modify_egress_bum_flow` -/
def modifyEgressBumFlow (lswitch : LogicalSwitch) (command : FlowCommand) :
    Action Unit := do
  let app ← get
  let portCount :=
    app.localNetworks.getRemotePortCount lswitch.uniqueKey lswitch.networkType
  let evaluated ← Program.ofExcept (evalFlowActions config lports locations
    app.localNetworks lswitch.uniqueKey lswitch.segmentationId portCount command)
  modFlow {
    command := evaluated.2
    table := Const.egressTable
    priority := Const.priorityLow
    pattern := makeBumMatch lswitch.uniqueKey
    instructions := evaluated.1 }

/-! ## Remote ports -/

/-- `_add_remote_port` -/
def addRemotePort (lport : LogicalPort) : Action Unit := do
  let lswitch ← Program.ofExcept (config.lswitch lport)
  if tunnelled config lswitch then
    addEgressDispatchFlow config locations lport lswitch
    onNetworks fun networks =>
      networks.addRemotePort lport.id lswitch.uniqueKey lswitch.networkType
    modifyEgressBumFlow config lports locations lswitch .add
  else
    pure ()

/-- `remove_remote_port` -/
def removeRemotePort (lport : LogicalPort) : Action Unit := do
  let lswitch ← Program.ofExcept (config.lswitch lport)
  if tunnelled config lswitch then
    removeEgressDispatchFlow lport
    onNetworks fun networks =>
      networks.removeRemotePort lport.id lswitch.uniqueKey lswitch.networkType
    modifyEgressBumFlow config lports locations lswitch .modify
  else
    pure ()

/-- What `TunnelingApp` registers. It does not ask for updates. -/
def app : QuietApp TunnelingApp := fun lports locations event lport =>
  match event with
  | .bind .here => addLocalPort config lport
  | .unbind .here => removeLocalPort config lport
  | .bind .elsewhere => addRemotePort config lports locations lport
  | .unbind .elsewhere => removeRemotePort config lports locations lport
  | .updated _ _ => pure ()

/-- Three chassis with one tunnelled network. -/
def threeChassis : Config where
  chassis id :=
    if id = "c1" then some ⟨id, .v4 0x0a000001⟩
    else if id = "c2" then some ⟨id, .v4 0x0a000002⟩
    else if id = "c3" then some ⟨id, .v4 0x0a000003⟩
    else none
  lswitches id := if id = "n" then some ⟨id, 5, some "vxlan", some 100⟩ else none
  tunnelTypes := ["vxlan"]
  vtpOfport _ := 9

end TunnelingApp

end Dragonflow
