import Dragonflow.Controller.OpenFlow
import Dragonflow.Foundation.Pipeline

/-! # The metadata service

`dragonflow/controller/apps/metadata_service.py`: requests go out on the port of the proxy
with the key of their port in the source address, and the first packet of a connection
makes the switch learn the way back. The proxy finds the port by the source address.

Requests are followed from `SERVICES_CLASSIFICATION_TABLE` on and replies from the port of
the proxy on. The flows of the other applications and the ARP responder for the service's
own address are left out.
-/

namespace Dragonflow

/-! ## Packets -/

inductive MetaField
  | inPort
  | ethType
  | ethSrc
  | ethDst
  | ipProto
  | tcpFlags
  | ipv4Src
  | ipv4Dst
  | tcpSrc
  | tcpDst
  | arpOp
  | arpSpa
  | arpTpa
  | arpSha
  | arpTha
  | reg6
  | reg7
  deriving DecidableEq, Repr

namespace MetaField

def width : MetaField → Nat
  | .inPort => 32
  | .ethType => 16
  | .ethSrc => 48
  | .ethDst => 48
  | .ipProto => 8
  | .tcpFlags => 12
  | .ipv4Src => 32
  | .ipv4Dst => 32
  | .tcpSrc => 16
  | .tcpDst => 16
  | .arpOp => 16
  | .arpSpa => 32
  | .arpTpa => 32
  | .arpSha => 48
  | .arpTha => 48
  | .reg6 => 32
  | .reg7 => 32

/-- The match of a whole field. -/
def is (field : MetaField) (value : Nat) : Pin MetaField := ⟨⟨field, 0, field.width⟩, value⟩

end MetaField

abbrev MetaHeaders := Headers MetaField.width

abbrev MetaAction := NxAction MetaField

abbrev MetaFlowMod := FlowMod (List (Pin MetaField)) MetaAction

/-! ## The application -/

namespace MetadataServiceApp

def ethTypeIp : Nat := 0x0800

def ethTypeArp : Nat := 0x0806

def ipprotoTcp : Nat := 6

/-- `METADATA_SERVICE_IP`, which is 169.254.169.254 -/
def metadataServiceIp : Nat := 0xa9fea9fe

/-- `METADATA_HTTP_PORT` -/
def metadataHttpPort : Nat := 80

def arpRequest : Nat := 1

def arpReply : Nat := 2

def ingressClassificationDispatchTable : Nat := 0

def servicesClassificationTable : Nat := 20

def metadataServiceTable : Nat := 35

def metadataServiceReplyTable : Nat := 40

/-- The priority of a learned flow for which none is given. -/
def ofpDefaultPriority : Nat := 32768

/-- `OFPP_IN_PORT` -/
def ofppInPort : Nat := 0xfffffff8

/-- What the application is configured with, and the port that the switch has given to the
interface of the proxy. -/
structure Config where
  ip : BitVec 32
  port : BitVec 16
  portNum : Nat

variable (config : Config)

/-- `OFPActionSetField` -/
def setField (field : MetaField) (value : Nat) : MetaAction :=
  .regLoad ⟨field, 0, field.width⟩ value

/-- `_get_incoming_flow_actions` -/
def getIncomingFlowActions : List MetaAction :=
  (if config.ip.toNat ≠ metadataServiceIp then [setField .ipv4Dst config.ip.toNat] else []) ++
    if config.port.toNat ≠ metadataHttpPort then [setField .tcpDst config.port.toNat] else []

/-- The flow of `_add_incoming_flows` for the services. -/
def incomingFlow : MetaFlowMod where
  table := servicesClassificationTable
  priority := Const.priorityMedium
  pattern := [MetaField.ethType.is ethTypeIp, MetaField.ipv4Dst.is metadataServiceIp,
    MetaField.ipProto.is ipprotoTcp, MetaField.tcpDst.is metadataHttpPort]
  instructions := getIncomingFlowActions config ++ [.resubmitTable metadataServiceTable]

/-- `_get_rewrite_ip_and_output_actions` -/
def getRewriteIpAndOutputActions : List MetaAction :=
  [.regMove .reg6 .ipv4Src 32, .regLoad ⟨.ipv4Src, 31, 1⟩ 1, .output config.portNum]

/-- The return flow of `_get_learn_actions`. -/
def learnReturnFlow : Learn MetaField where
  table := metadataServiceReplyTable
  priority := ofpDefaultPriority
  specs :=
    [.specMatch (.immediate ethTypeIp) .ethType 0 16,
      .specMatch (.immediate ipprotoTcp) .ipProto 0 8,
      .specMatch (.immediate 1) .ipv4Dst 31 1,
      .specMatch (.slice .reg6 0) .ipv4Dst 0 31,
      .specMatch (.slice .tcpSrc 0) .tcpDst 0 16,
      .specLoad (.slice .ipv4Src 0) .ipv4Dst 0 32,
      .specLoad (.immediate metadataServiceIp) .ipv4Src 0 32,
      .specLoad (.immediate metadataHttpPort) .tcpSrc 0 16,
      .specLoad (.slice .reg6 0) .reg7 0 32]

/-- The ARP responder of `_get_learn_actions`. -/
def learnArpResponder : Learn MetaField where
  table := metadataServiceReplyTable
  priority := Const.priorityHigh
  specs :=
    [.specMatch (.immediate ethTypeArp) .ethType 0 16,
      .specMatch (.slice .reg6 0) .arpTpa 0 31,
      .specMatch (.immediate arpRequest) .arpOp 0 8,
      .specLoad (.immediate 0) .reg6 0 32,
      .specLoad (.immediate arpReply) .arpOp 0 8,
      .specLoad (.slice .ethDst 0) .arpTha 0 48,
      .specLoad (.immediate config.ip.toNat) .arpTpa 0 32,
      .specLoad (.slice .ethSrc 0) .ethSrc 0 48,
      .specLoad (.slice .ethSrc 0) .arpSha 0 48,
      .specLoad (.slice .reg6 0) .arpSpa 0 32,
      .specLoad (.immediate 1) .arpSpa 31 1]

/-- `_get_learn_actions` -/
def getLearnActions : List MetaAction :=
  [.learn learnReturnFlow, .learn (learnArpResponder config)]

/-- A regular packet of `_add_tap_metadata_port`. -/
def regularFlow : MetaFlowMod where
  table := metadataServiceTable
  priority := Const.priorityMedium
  pattern := [MetaField.ethType.is ethTypeIp]
  instructions := getRewriteIpAndOutputActions config

/-- A TCP SYN packet: the flag `SYN` is set, and the flag `ACK` is not. -/
def synFlow : MetaFlowMod where
  table := metadataServiceTable
  priority := Const.priorityHigh
  pattern := [MetaField.ethType.is ethTypeIp, MetaField.ipProto.is ipprotoTcp,
    ⟨⟨.tcpFlags, 1, 1⟩, 1⟩, ⟨⟨.tcpFlags, 4, 1⟩, 0⟩]
  instructions := getLearnActions config ++ getRewriteIpAndOutputActions config

/-- ARP requests of the proxy. -/
def arpFlow : MetaFlowMod where
  table := ingressClassificationDispatchTable
  priority := Const.priorityMedium
  pattern := [MetaField.inPort.is config.portNum, MetaField.ethType.is ethTypeArp]
  instructions := [.resubmitTable metadataServiceReplyTable, .output ofppInPort]

/-- Response packets of the proxy. -/
def responseFlow : MetaFlowMod where
  table := ingressClassificationDispatchTable
  priority := Const.priorityMedium
  pattern := [MetaField.inPort.is config.portNum, MetaField.ethType.is ethTypeIp]
  instructions := [.resubmitTable metadataServiceReplyTable,
    .resubmitTable Const.ingressDispatchTable]

/-- `_add_tap_metadata_port` -/
def addTapMetadataPort : List MetaFlowMod :=
  [incomingFlow config, regularFlow config, synFlow config, arpFlow config,
    responseFlow config]

/-- The flows that the application installs. -/
def installed : NxFlows MetaField :=
  (FlowTable.empty : NxFlows MetaField).applyAll (addTapMetadataPort config)

/-- The tables that only this application fills, as far as its packets are concerned. -/
def modelled (table : Nat) : Bool :=
  table = ingressClassificationDispatchTable || table = servicesClassificationTable ||
    table = metadataServiceTable || table = metadataServiceReplyTable

/-- A packet that enters a table. -/
def enter (flows : NxFlows MetaField) (table : Nat) (headers : MetaHeaders) :
    PacketRun MetaField.width :=
  { headers := headers, flows := flows, pending := [.enter table] }

/-- What becomes of a packet. -/
abbrev Ends : PacketRun MetaField.width → PacketRun MetaField.width → Prop :=
  PacketRun.Ends modelled

end MetadataServiceApp

/-! ## The proxy -/

namespace DFMetadataProxyHandler

/-- `NoRemoteIPProxyException`, `LogicalPortNotFoundByTunnelKey`, and the `TypeError` of
`to_utf8` -/
inductive Error
  | noRemoteIp
  | logicalPortNotFound (key : Nat)
  | typeError
  deriving DecidableEq, Repr

/-- What the proxy tells the metadata server of the instance. -/
structure IdentityHeaders where
  forwardedFor : Option IPAddress
  tenantId : String
  instanceId : Id
  instanceIdSignature : String
  deriving DecidableEq, Repr

variable (lports : List LogicalPort) (signInstanceId : Id → String)

/-- The address without the bit that `_get_rewrite_ip_and_output_actions` sets. -/
def tunnelKey (remoteAddr : BitVec 32) : Nat :=
  (remoteAddr &&& ~~~ 0x80000000#32).toNat

/-- `_get_logical_port_by_tunnel_key` -/
def getLogicalPortByTunnelKey (tunnelKey : Nat) : Except Error LogicalPort :=
  match lports.find? fun lport => lport.uniqueKey = tunnelKey with
  | some lport => .ok lport
  | none => .error (.logicalPortNotFound tunnelKey)

/-- What is said of a port. There is no signature without an instance. -/
def identify (lport : LogicalPort) : Except Error IdentityHeaders :=
  match lport.deviceId with
  | none => .error .typeError
  | some instanceId => .ok {
      forwardedFor := lport.ip
      tenantId := lport.topic
      instanceId := instanceId
      instanceIdSignature := signInstanceId instanceId }

/-- `get_headers` -/
def getHeaders (remoteAddr : Option (BitVec 32)) : Except Error IdentityHeaders :=
  match remoteAddr with
  | none => .error .noRemoteIp
  | some remoteAddr => do
      let lport ← getLogicalPortByTunnelKey lports (tunnelKey remoteAddr)
      identify signInstanceId lport

end DFMetadataProxyHandler

end Dragonflow
