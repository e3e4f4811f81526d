import Dragonflow.Controller.Apps.L3Matches
import Dragonflow.Controller.Apps.SecurityGroupMatches
import Dragonflow.Controller.Apps.Sfc
import Dragonflow.Foundation.Dict

/-! # The matches of a flow classifier

`_create_matches` of `dragonflow/controller/apps/fc.py`. The parameters of a match are a
dictionary by the names of the fields, and every part of the classifier either adds
fields to all of the dictionaries or multiplies them with a list of its own.
-/

namespace Dragonflow

open FieldMatch Packet

/-! ## The model -/

/-- The protocols that the field `protocol` of a classifier can have. -/
inductive TransportProtocol
  | tcp
  | udp
  deriving DecidableEq, Repr

/-- A value of a `PortRangeField` -/
structure PortRange where
  min : Nat
  max : Nat
  deriving DecidableEq, Repr

/-- `sfc.FlowClassifier`, with what it classifies by. -/
structure Classifier extends FlowClassifier where
  etherType : Option Ethertype := none
  protocol : Option TransportProtocol := none
  sourceCidr : Option IPNetwork := none
  destCidr : Option IPNetwork := none
  sourceTransportPorts : Option PortRange := none
  destTransportPorts : Option PortRange := none

/-! ## Parameters -/

/-- The arguments of `OFPMatch` that the application uses. -/
inductive MatchField
  | reg3
  | reg6
  | reg7
  | ethType
  | ipProto
  | ipv4Src
  | ipv4Dst
  | ipv6Src
  | ipv6Dst
  | tcpSrc
  | tcpDst
  | udpSrc
  | udpDst
  deriving DecidableEq, Repr

abbrev Params := Dict MatchField FieldMatch

namespace Params

/-- `params[field] = wanted`, if there is something wanted. -/
def withField (params : Params) (field : MatchField) : Option FieldMatch → Params
  | none => params
  | some wanted => params.insert field wanted

/-- `update` -/
def update (params new : Params) : Params := new ∪ params

end Params

namespace FcApp

variable (netaddr : Netaddr) (fc : Classifier)

def srcNotDone : Nat := 0

def srcBit : Nat := 0

def srcMask : Nat := 1 <<< srcBit

def dstNotDone : Nat := 0

def dstBit : Nat := 1

def dstMask : Nat := 1 <<< dstBit

/-- `_multiply_params` -/
def multiplyParams (oldParams newParams : List Params) : List Params :=
  oldParams.flatMap fun base => newParams.map fun new => base.update new

/-- `_create_ip_params` -/
def createIpParams (ethType : Nat) (srcLabel dstLabel : MatchField) : Params :=
  let params : Params := AList.singleton .ethType (.exact ethType)
  let params := params.withField srcLabel (fc.sourceCidr.map IPNetwork.networkAndMask)
  params.withField dstLabel (fc.destCidr.map IPNetwork.networkAndMask)

/-- `_create_ipv4_params` -/
def createIpv4Params : Params := createIpParams fc Ethertype.ipv4.ethType .ipv4Src .ipv4Dst

/-- `_create_ipv6_params` -/
def createIpv6Params : Params := createIpParams fc Ethertype.ipv6.ethType .ipv6Src .ipv6Dst

/-- A dictionary with one field for every network of a range of ports. -/
def createPortParams (label : MatchField) (ports : PortRange) :
    Except PyError (List Params) := do
  let portParams ← SGApp.getPortMatchListFromPortRange netaddr (some ports.min)
    (some ports.max)
  return portParams.map fun port => AList.singleton label port

/-- The dictionaries multiplied with those of a range, if there is one. -/
def withPorts (label : MatchField) (params : List Params) :
    Option PortRange → Except PyError (List Params)
  | none => pure params
  | some ports => do
      let portParams ← createPortParams netaddr label ports
      return multiplyParams params portParams

/-- `_create_l4_port_params` -/
def createL4PortParams (proto : Nat) (srcLabel dstLabel : MatchField) :
    Except PyError (List Params) := do
  let params : List Params := [AList.singleton .ipProto (.exact proto)]
  let params ← withPorts netaddr srcLabel params fc.sourceTransportPorts
  withPorts netaddr dstLabel params fc.destTransportPorts

/-- `_create_tcp_params` -/
def createTcpParams : Except PyError (List Params) :=
  createL4PortParams netaddr fc SGApp.protoNumTcp .tcpSrc .tcpDst

/-- `_create_udp_params` -/
def createUdpParams : Except PyError (List Params) :=
  createL4PortParams netaddr fc SGApp.protoNumUdp .udpSrc .udpDst

/-- The registers that `_create_matches` asks for. -/
def createPortKeyParams : Params :=
  let params : Params := ∅
  let params :=
    match fc.sourcePort with
    | none => params
    | some lport =>
        (params.insert .reg6 (.exact lport.uniqueKey)).insert .reg3
          (.masked srcNotDone srcMask)
  match fc.destPort with
  | none => params
  | some lport =>
      (params.insert .reg7 (.exact lport.uniqueKey)).insert .reg3
        (.masked dstNotDone dstMask)

/-- `_create_matches` -/
def createMatches : Except PyError (List Params) :=
  let params := createPortKeyParams fc
  let params :=
    match fc.etherType with
    | none => params
    | some .ipv4 => params.update (createIpv4Params fc)
    | some .ipv6 => params.update (createIpv6Params fc)
  let paramList := [params]
  match fc.protocol with
  | none => return paramList
  | some .tcp => do
      let l4Params ← createTcpParams netaddr fc
      return multiplyParams paramList l4Params
  | some .udp => do
      let l4Params ← createUdpParams netaddr fc
      return multiplyParams paramList l4Params

end FcApp

/-! ## Packets -/

/-- A packet with the fields that only a classifier asks for. -/
structure ClassifiedPacket extends Packet where
  reg3 : BitVec 32 := 0
  tcpSrc : Option (BitVec 16) := none

namespace ClassifiedPacket

variable (packet : ClassifiedPacket)

def read : MatchField → Option FieldMatch
  | .reg3 => some (value packet.reg3)
  | .reg6 => some (value packet.reg6)
  | .reg7 => some (value packet.reg7)
  | .ethType => packet.ethType.map value
  | .ipProto => packet.ipProto.map value
  | .ipv4Src => packet.ipv4Src.map value
  | .ipv4Dst => packet.ipv4Dst.map value
  | .ipv6Src => packet.ipv6Src.map value
  | .ipv6Dst => packet.ipv6Dst.map value
  | .tcpSrc => packet.tcpSrc.map value
  | .tcpDst => packet.tcpDst.map value
  | .udpSrc => packet.udpSrc.map value
  | .udpDst => packet.udpDst.map value

/-- The packet has what every field of the match asks for. -/
def satisfies (params : Params) : Bool :=
  params.entries.all fun entry => coversField (some entry.2) (packet.read entry.1)

/-- The address that the packet of an IP version comes from. -/
def source : Ethertype → Option IPAddress
  | .ipv4 => packet.ipv4Src.map .v4
  | .ipv6 => packet.ipv6Src.map .v6

def destination : Ethertype → Option IPAddress
  | .ipv4 => packet.ipv4Dst.map .v4
  | .ipv6 => packet.ipv6Dst.map .v6

def sourcePort : TransportProtocol → Option (BitVec 16)
  | .tcp => packet.tcpSrc
  | .udp => packet.udpSrc

def destPort : TransportProtocol → Option (BitVec 16)
  | .tcp => packet.tcpDst
  | .udp => packet.udpDst

end ClassifiedPacket

/-! ## What a classifier says -/

def TransportProtocol.number : TransportProtocol → Nat
  | .tcp => SGApp.protoNumTcp
  | .udp => SGApp.protoNumUdp

/-- The address is there and in the network, if there is one. -/
def IsWithin (address : Option IPAddress) (wanted : Option IPNetwork) : Prop :=
  ∀ cidr, wanted = some cidr → ∃ ip, address = some ip ∧ cidr.contains ip = true

/-- The port is there and in the range, if there is one. -/
def IsAmong (port : Option (BitVec 16)) (wanted : Option PortRange) : Prop :=
  ∀ range, wanted = some range →
    ∃ bits, port = some bits ∧ range.min ≤ bits.toNat ∧ bits.toNat ≤ range.max

namespace Classifier

variable (fc : Classifier)

/-- The packet is one that the classifier is about, and was not classified yet. -/
structure Admits (packet : ClassifiedPacket) : Prop where
  source : ∀ lport, fc.sourcePort = some lport →
    packet.reg6.toNat = lport.uniqueKey ∧ packet.reg3.getLsbD FcApp.srcBit = false
  dest : ∀ lport, fc.destPort = some lport →
    packet.reg7.toNat = lport.uniqueKey ∧ packet.reg3.getLsbD FcApp.dstBit = false
  etherType : ∀ version, fc.etherType = some version →
    HasValue packet.ethType (some version.ethType)
  sourceCidr : ∀ version, fc.etherType = some version →
    IsWithin (packet.source version) fc.sourceCidr
  destCidr : ∀ version, fc.etherType = some version →
    IsWithin (packet.destination version) fc.destCidr
  protocol : ∀ protocol, fc.protocol = some protocol →
    HasValue packet.ipProto (some protocol.number)
  sourcePorts : ∀ protocol, fc.protocol = some protocol →
    IsAmong (packet.sourcePort protocol) fc.sourceTransportPorts
  destPorts : ∀ protocol, fc.protocol = some protocol →
    IsAmong (packet.destPort protocol) fc.destTransportPorts

/-- A classifier as it can be asked for. -/
structure WellFormed : Prop where
  onePort : fc.sourcePort.isSome ≠ fc.destPort.isSome
  etherType : ∃ version, fc.etherType = some version ∧
    (∀ cidr, fc.sourceCidr = some cidr → version.hasNetwork cidr = true) ∧
    ∀ cidr, fc.destCidr = some cidr → version.hasNetwork cidr = true
  ranges : ∀ range, fc.sourceTransportPorts = some range ∨
    fc.destTransportPorts = some range →
      fc.protocol.isSome ∧ range.min ≤ range.max ∧ range.max ≤ 0xffff

end Classifier

/-- `IPRange.cidrs` gives an exact cover of the range in which no two networks meet. -/
structure PartitionsRange (cidrs : List (Nat × Nat)) (first last : Nat) : Prop
    extends CoversRange cidrs first last where
  disjoint : cidrs.Pairwise fun one other =>
    ∀ number < 2 ^ 32, ¬(number &&& one.2 = one.1 ∧ number &&& other.2 = other.1)

/-- `netaddr` cuts the ranges of a classifier. -/
def CutsRangesOf (netaddr : Netaddr) (fc : Classifier) : Prop :=
  ∀ range, fc.sourceTransportPorts = some range ∨ fc.destTransportPorts = some range →
    ∃ cidrs, netaddr.rangeCidrs (some range.min) (some range.max) = .ok cidrs ∧
      PartitionsRange cidrs range.min range.max

end Dragonflow
