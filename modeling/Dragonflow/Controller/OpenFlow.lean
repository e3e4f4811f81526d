import Dragonflow.Db.Ports
import Dragonflow.Foundation.FlowTable
import Mathlib.Algebra.Ring.Nat

/-! # OpenFlow

The matches and instructions that the applications write, with the numbers of
`dragonflow/controller/common/constants.py`.
-/

namespace Dragonflow

/-- What a match asks of one field of a packet. -/
inductive FieldMatch
  | exact (value : Nat)
  | masked (value mask : Nat)
  deriving DecidableEq, Repr

namespace FieldMatch

def covers : FieldMatch → FieldMatch → Bool
  | .exact value, .exact other => value = other
  | .exact _, .masked _ _ => false
  | .masked value mask, .exact other => other &&& mask = value &&& mask
  | .masked value mask, .masked other finer =>
      finer &&& mask = mask ∧ other &&& mask = value &&& mask

/-- A field that a match does not mention can have any value. -/
def coversField : Option FieldMatch → Option FieldMatch → Bool
  | none, _ => true
  | some _, none => false
  | some general, some specific => general.covers specific

theorem covers_self (field : FieldMatch) : field.covers field = true := by
  cases field <;> simp [covers]

theorem coversField_self (field : Option FieldMatch) : coversField field field = true := by
  cases field with
  | none => rfl
  | some field => exact covers_self field

end FieldMatch

/-- A network and its mask, as `_get_network_and_mask` of the security groups does. -/
def IPNetwork.networkAndMask : IPNetwork → FieldMatch
  | .v4 address length =>
      let mask := 2 ^ 32 - 2 ^ (32 - length.val)
      .masked (address.toNat &&& mask) mask
  | .v6 address length =>
      let mask := 2 ^ 128 - 2 ^ (128 - length.val)
      .masked (address.toNat &&& mask) mask

/-- The fields of an `OFPMatch`. -/
structure OFPMatch where
  inPort : Option FieldMatch := none
  metadata : Option FieldMatch := none
  reg6 : Option FieldMatch := none
  reg7 : Option FieldMatch := none
  vlanVid : Option FieldMatch := none
  tunnelId : Option FieldMatch := none
  ethSrc : Option FieldMatch := none
  ethDst : Option FieldMatch := none
  ethType : Option FieldMatch := none
  ipProto : Option FieldMatch := none
  ipv4Src : Option FieldMatch := none
  ipv4Dst : Option FieldMatch := none
  ipv6Src : Option FieldMatch := none
  tcpDst : Option FieldMatch := none
  udpDst : Option FieldMatch := none
  icmpv4Type : Option FieldMatch := none
  icmpv4Code : Option FieldMatch := none
  arpSha : Option FieldMatch := none
  arpSpa : Option FieldMatch := none
  arpTpa : Option FieldMatch := none
  arpOp : Option FieldMatch := none
  ipv6Dst : Option FieldMatch := none
  icmpv6Type : Option FieldMatch := none
  icmpv6Code : Option FieldMatch := none
  ctState : Option FieldMatch := none
  conjId : Option FieldMatch := none
  reg2 : Option FieldMatch := none
  reg5 : Option FieldMatch := none
  udpSrc : Option FieldMatch := none
  mplsLabel : Option FieldMatch := none
  mplsTc : Option FieldMatch := none
  deriving DecidableEq, Repr

namespace OFPMatch

open FieldMatch

instance : Pattern OFPMatch where
  covers general specific :=
    coversField general.inPort specific.inPort &&
    coversField general.metadata specific.metadata &&
    coversField general.reg6 specific.reg6 &&
    coversField general.reg7 specific.reg7 &&
    coversField general.vlanVid specific.vlanVid &&
    coversField general.tunnelId specific.tunnelId &&
    coversField general.ethSrc specific.ethSrc &&
    coversField general.ethDst specific.ethDst &&
    coversField general.ethType specific.ethType &&
    coversField general.ipProto specific.ipProto &&
    coversField general.ipv4Src specific.ipv4Src &&
    coversField general.ipv4Dst specific.ipv4Dst &&
    coversField general.ipv6Src specific.ipv6Src &&
    coversField general.tcpDst specific.tcpDst &&
    coversField general.udpDst specific.udpDst &&
    coversField general.icmpv4Type specific.icmpv4Type &&
    coversField general.icmpv4Code specific.icmpv4Code &&
    coversField general.arpSha specific.arpSha &&
    coversField general.arpSpa specific.arpSpa &&
    coversField general.arpTpa specific.arpTpa &&
    coversField general.arpOp specific.arpOp &&
    coversField general.ipv6Dst specific.ipv6Dst &&
    coversField general.icmpv6Type specific.icmpv6Type &&
    coversField general.icmpv6Code specific.icmpv6Code &&
    coversField general.ctState specific.ctState &&
    coversField general.conjId specific.conjId &&
    coversField general.reg2 specific.reg2 &&
    coversField general.reg5 specific.reg5 &&
    coversField general.udpSrc specific.udpSrc &&
    coversField general.mplsLabel specific.mplsLabel &&
    coversField general.mplsTc specific.mplsTc

theorem covers_self (pattern : OFPMatch) : Pattern.covers pattern pattern = true := by
  simp only [Pattern.covers, coversField_self, Bool.and_true]

end OFPMatch

/-- `OFPActionSetField` -/
inductive SetField
  | metadata (value : Nat)
  | reg2 (value : Nat)
  | reg5 (value : Nat)
  | reg6 (value : Nat)
  | reg7 (value : Nat)
  | vlanVid (value : Nat)
  | tunIpv4Dst (address : BitVec 32)
  | tunnelId (value : Nat)
  | ethSrc (address : Option MacAddress)
  | ethDst (address : Option MacAddress)
  | arpOp (value : Nat)
  | arpSha (address : Option MacAddress)
  | arpTha (address : Option MacAddress)
  | arpSpa (address : IPAddress)
  | icmpv6Type (value : Nat)
  | ipv6NdSll (address : Option MacAddress)
  | mplsLabel (value : Nat)
  | mplsTc (value : Nat)
  | ipv4Src (address : IPAddress)
  | ipv4Dst (address : Option IPAddress)
  | icmpv4Type (value : Nat)
  | icmpv4Code (value : Nat)
  deriving DecidableEq, Repr

inductive FlowAction
  | setField (field : SetField)
  | output (port : Nat)
  /-- `NXActionResubmitTable` -/
  | resubmitTable (table : Nat)
  /-- `NXActionResubmit` -/
  | resubmit
  | pushVlan
  | popVlan
  /-- `NXActionRegMove` -/
  | regMove (source target : String) (bits : Nat)
  /-- `NXActionRegLoad` -/
  | regLoad (target : String) (value ofsNbits : Nat)
  | pushMpls (ethType : Nat)
  | popMpls (ethType : Nat)
  | group (groupId : Nat)
  | decNwTtl
  | setNwTtl (value : Nat)
  /-- `NXActionConjunction` -/
  | conjunction (clause clauses id : Nat)
  /-- `NXActionCT` -/
  | connectionTrack (flags recircTable zoneBits zoneSource : Nat)
  deriving DecidableEq, Repr

inductive Instruction
  | applyActions (actions : List FlowAction)
  | gotoTable (table : Nat)
  deriving DecidableEq, Repr

/-- A message is encoded when it is sent: a field that has no value raises. -/
def encoded : Option α → Except PyError α
  | none => .error .typeError
  | some value => .ok value

/-- The outer address of a tunnel has the four bytes of an IPv4 address. -/
def encodedIpv4 : Option IPAddress → Except PyError (BitVec 32)
  | none => .error .typeError
  | some (.v6 _) => .error .valueError
  | some (.v4 address) => .ok address

abbrev Flows := FlowTable OFPMatch Instruction

abbrev OFPFlowMod := FlowMod OFPMatch Instruction

/-! ## Tables and priorities -/

namespace Const

def ingressClassificationDispatchTable : Nat := 0
def ingressClassificationExitpointTable : Nat := 1
def externalIngressDetectSourceTable : Nat := 2
def egressConntrackTable : Nat := 10
def egressSecurityGroupTable : Nat := 15
def servicesClassificationTable : Nat := 20
def arpTable : Nat := 25
def ipv6NdTable : Nat := 45
def l2LookupTable : Nat := 55
def l3LookupTable : Nat := 60
def l3ProactiveLookupTable : Nat := 65
def egressTable : Nat := 75
def ingressDnatTable : Nat := 76
def egressDnatTable : Nat := 77
def egressExternalTable : Nat := 80
def ingressDestinationPortLookupTable : Nat := 100
def ingressConntrackTable : Nat := 105
def ingressSecurityGroupTable : Nat := 110
def ingressDispatchTable : Nat := 115
def sfcEncapTable : Nat := 120
def sfcMplsDispatchTable : Nat := 121
def sfcMplsPpDecapTable : Nat := 122
def sfcEndOfChainTable : Nat := 125

def priorityDefault : Nat := 1
def priorityVeryLow : Nat := 20
def priorityLow : Nat := 50
def priorityMediumLow : Nat := 70
def priorityMedium : Nat := 100
def priorityHigh : Nat := 200
def priorityVeryHigh : Nat := 300

def ctStateNew : Nat := 0x01
def ctStateEst : Nat := 0x02
def ctStateRel : Nat := 0x04
def ctStateInv : Nat := 0x10
def ctStateTrk : Nat := 0x20
def ctFlagCommit : Nat := 1
def metadataReg : Nat := 0x80000408
def ctZoneReg : Nat := 0x1d402
def minPort : Nat := 1
def maxPort : Nat := 65535
def ethTypeIp : Nat := 0x0800
def ethTypeArp : Nat := 0x0806
def ethTypeIpv6 : Nat := 0x86dd
def ethTypeMpls : Nat := 0x8847

end Const

/-- `01:00:00:00:00:00`, the bit of multicast and broadcast addresses. -/
def multicastBit : MacAddress := 0x010000000000

end Dragonflow
