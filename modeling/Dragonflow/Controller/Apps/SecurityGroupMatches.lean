import Dragonflow.Controller.Apps.SecurityGroups
import Dragonflow.Controller.Packets

/-! # Packets that a security group rule is about

The matches of a rule before the addresses are added to them. Zero is a port, a type and
a code, but the application takes a zero for a field that is not set.
-/

namespace Dragonflow

open FieldMatch Packet

/-- The field has the value, if one is wanted. -/
def HasValue {width : Nat} (field : Option (BitVec width)) (wanted : Option Nat) : Prop :=
  ∀ value, wanted = some value → ∃ bits, field = some bits ∧ value = bits.toNat

@[simp] theorem hasValue_none {width : Nat} (field : Option (BitVec width)) :
    HasValue field none :=
  fun _ impossible => by cases impossible

theorem hasValue_some {width value : Nat} {field : Option (BitVec width)} :
    HasValue field (some value) ↔ ∃ bits, field = some bits ∧ value = bits.toNat := by
  simp [HasValue]

theorem coversField_wanted {width : Nat} {field : Option (BitVec width)}
    (wanted : Option Nat) :
    coversField (wanted.map .exact) (field.map value) = true ↔ HasValue field wanted := by
  cases wanted with
  | none => simp
  | some value =>
      rw [Option.map_some, coversField_map_exact, hasValue_some]

/-- The match of a rule names no other fields. -/
theorem matches_rule {packet : Packet} {ethType ipProto tcpDst udpDst icmpv4Type
    icmpv4Code icmpv6Type icmpv6Code : Option FieldMatch} :
    packet.Matches
        { ethType := ethType, ipProto := ipProto, tcpDst := tcpDst, udpDst := udpDst,
          icmpv4Type := icmpv4Type, icmpv4Code := icmpv4Code, icmpv6Type := icmpv6Type,
          icmpv6Code := icmpv6Code } ↔
      coversField ethType (packet.ethType.map value) = true ∧
      coversField ipProto (packet.ipProto.map value) = true ∧
      coversField tcpDst (packet.tcpDst.map value) = true ∧
      coversField udpDst (packet.udpDst.map value) = true ∧
      coversField icmpv4Type (packet.icmpv4Type.map value) = true ∧
      coversField icmpv4Code (packet.icmpv4Code.map value) = true ∧
      coversField icmpv6Type (packet.icmpv6Type.map value) = true ∧
      coversField icmpv6Code (packet.icmpv6Code.map value) = true := by
  simp only [Packet.Matches, Pattern.covers, Packet.pattern, coversField_none,
    Bool.true_and, Bool.and_true, Bool.and_eq_true, and_assoc]

namespace Ethertype

/-- The type of an ICMP packet stands in one of two fields. -/
def icmpType (packet : Packet) : Ethertype → Option (BitVec 8)
  | .ipv4 => packet.icmpv4Type
  | .ipv6 => packet.icmpv6Type

def icmpCode (packet : Packet) : Ethertype → Option (BitVec 8)
  | .ipv4 => packet.icmpv4Code
  | .ipv6 => packet.icmpv6Code

end Ethertype

/-! ## What a rule says -/

def protoNumIcmpv6 : Nat := 58

namespace SecurityGroupRule

open SGApp

variable (rule : SecurityGroupRule)

/-- The protocol has ports. -/
def NamesPorts : Prop :=
  rule.protocol = some protoNumTcp ∨ rule.protocol = some protoNumUdp

/-- The protocol has types and codes. -/
def IsIcmp : Prop :=
  rule.protocol = some protoNumIcmp ∨
    (rule.protocol = some protoNumIcmpv6 ∧ rule.ethertype = .ipv6)

def destination (packet : Packet) : Option (BitVec 16) :=
  if rule.protocol = some protoNumTcp then packet.tcpDst else packet.udpDst

/-- The packet is one that the rule is about, wherever it comes from and goes to. -/
structure Admits (packet : Packet) : Prop where
  ethertype : HasValue packet.ethType (some rule.ethertype.ethType)
  protocol : HasValue packet.ipProto rule.protocol
  port : rule.NamesPorts → ∀ first last, rule.portRangeMin = some first →
    rule.portRangeMax = some last →
      ∃ bits, rule.destination packet = some bits ∧ first ≤ bits.toNat ∧ bits.toNat ≤ last
  icmpType : rule.IsIcmp → HasValue (rule.ethertype.icmpType packet) rule.portRangeMin
  icmpCode : rule.IsIcmp → HasValue (rule.ethertype.icmpCode packet) rule.portRangeMax

/-- A rule as it can be asked for. -/
structure WellFormed : Prop where
  ports : rule.NamesPorts → (rule.portRangeMin = none ∧ rule.portRangeMax = none) ∨
    ∃ first last, rule.portRangeMin = some first ∧ rule.portRangeMax = some last ∧
      first ≤ last ∧ last ≤ 0xffff
  icmpType : rule.IsIcmp → ∀ type, rule.portRangeMin = some type → type < 256
  icmpCode : rule.IsIcmp → ∀ code, rule.portRangeMax = some code → code < 256
  others : ¬ rule.NamesPorts → ¬ rule.IsIcmp →
    rule.portRangeMin = none ∧ rule.portRangeMax = none

/-- The matches are made, and together they match the packets of the rule. -/
def MatchedExactly (netaddr : Netaddr) : Prop :=
  ∃ patterns, getRuleFlowsMatchExceptNetAddresses netaddr rule = .ok patterns ∧
    ∀ packet : Packet, (∃ pattern ∈ patterns, packet.Matches pattern) ↔ rule.Admits packet

end SecurityGroupRule

/-- What `IPRange.cidrs` gives covers the range and nothing else. -/
structure CoversRange (cidrs : List (Nat × Nat)) (first last : Nat) : Prop where
  canonical : ∀ cidr ∈ cidrs, cidr.1 &&& cidr.2 = cidr.1
  exact : ∀ number < 2 ^ 32, (first ≤ number ∧ number ≤ last) ↔
    ∃ cidr ∈ cidrs, number &&& cidr.2 = cidr.1
  small : ∀ cidr ∈ cidrs, cidr.1 < 2 ^ 32

namespace CoversRange

variable {cidrs : List (Nat × Nat)} {first last : Nat}

/-- The networks of a range of ports are ports. -/
theorem network_le (covers : CoversRange cidrs first last) {cidr : Nat × Nat}
    (member : cidr ∈ cidrs) : cidr.1 ≤ last :=
  ((covers.exact cidr.1 (covers.small cidr member)).mpr
    ⟨cidr, member, covers.canonical cidr member⟩).2

/-- Only the low bits of a network and its mask matter to a port. -/
theorem port_mem_cidr (covers : CoversRange cidrs first last) (small : last ≤ 0xffff)
    {cidr : Nat × Nat} (member : cidr ∈ cidrs) (port : BitVec 16) :
    port.toNat &&& (cidr.2 &&& 0xffff) = (cidr.1 &&& 0xffff) &&& (cidr.2 &&& 0xffff) ↔
      port.toNat &&& cidr.2 = cidr.1 := by
  have portSmall : port.toNat < 2 ^ 16 := port.isLt
  have networkSmall : cidr.1 < 2 ^ 16 := by
    have bound := covers.network_le member
    omega
  have lowPort : port.toNat &&& (cidr.2 &&& 0xffff) = port.toNat &&& cidr.2 := by
    rw [Nat.and_comm cidr.2, ← Nat.and_assoc]
    congr 1
    exact (Nat.and_two_pow_sub_one_eq_mod _ 16).trans (Nat.mod_eq_of_lt portSmall)
  have lowNetwork : (cidr.1 &&& 0xffff) &&& (cidr.2 &&& 0xffff) = cidr.1 := by
    have lowered : cidr.1 &&& 0xffff = cidr.1 :=
      (Nat.and_two_pow_sub_one_eq_mod _ 16).trans (Nat.mod_eq_of_lt networkSmall)
    rw [lowered, Nat.and_comm cidr.2, ← Nat.and_assoc, lowered,
      covers.canonical cidr member]
  rw [lowPort, lowNetwork]

theorem port_mem (covers : CoversRange cidrs first last) (small : last ≤ 0xffff)
    (port : BitVec 16) :
    (first ≤ port.toNat ∧ port.toNat ≤ last) ↔ ∃ cidr ∈ cidrs,
      port.toNat &&& (cidr.2 &&& 0xffff) = (cidr.1 &&& 0xffff) &&& (cidr.2 &&& 0xffff) := by
  have portSmall : port.toNat < 2 ^ 16 := port.isLt
  rw [covers.exact port.toNat (by omega)]
  apply exists_congr
  intro cidr
  apply and_congr_right
  intro member
  exact (covers.port_mem_cidr small member port).symm

end CoversRange

/-! ## What the matches say -/

namespace SGApp

variable {rule : SecurityGroupRule} {netaddr : Netaddr} {packet : Packet}

/-- The fields that every match of a rule with a protocol has. -/
def protocolMatch (rule : SecurityGroupRule) (protocol : Nat) : OFPMatch :=
  { ethType := some (.exact rule.ethertype.ethType), ipProto := some (.exact protocol) }

theorem matches_ethertype :
    packet.Matches { ethType := some (.exact rule.ethertype.ethType) } ↔
      HasValue packet.ethType (some rule.ethertype.ethType) := by
  rw [matches_rule]
  simp [hasValue_some]

theorem matches_protocol {protocol : Nat} :
    packet.Matches (protocolMatch rule protocol) ↔
      HasValue packet.ethType (some rule.ethertype.ethType) ∧
        HasValue packet.ipProto (some protocol) := by
  rw [protocolMatch, matches_rule]
  simp [hasValue_some]

/-- A zero is not asked for. -/
theorem matches_icmp {protocol : Nat} :
    packet.Matches (icmpMatch rule (protocolMatch rule protocol)) ↔
      HasValue packet.ethType (some rule.ethertype.ethType) ∧
        HasValue packet.ipProto (some protocol) ∧
        HasValue (rule.ethertype.icmpType packet) (rule.portRangeMin.filter (· ≠ 0)) ∧
        HasValue (rule.ethertype.icmpCode packet) (rule.portRangeMax.filter (· ≠ 0)) := by
  have asked : ∀ wanted : Option Nat,
      (if truthy wanted then wanted.map FieldMatch.exact else none) =
        (wanted.filter (· ≠ 0)).map .exact := by
    intro wanted
    cases wanted with
    | none => rfl
    | some value => by_cases zero : value = 0 <;> simp [truthy, zero]
  unfold icmpMatch
  simp only [asked]
  cases version : rule.ethertype with
  | ipv4 =>
      rw [protocolMatch, version, matches_rule, coversField_wanted, coversField_wanted]
      simp [hasValue_some, Ethertype.icmpType, Ethertype.icmpCode]
  | ipv6 =>
      rw [protocolMatch, version, matches_rule, coversField_wanted, coversField_wanted]
      simp [hasValue_some, Ethertype.icmpType, Ethertype.icmpCode]

theorem matches_tcp {port : FieldMatch} {protocol : Nat} :
    packet.Matches { protocolMatch rule protocol with tcpDst := some port } ↔
      HasValue packet.ethType (some rule.ethertype.ethType) ∧
        HasValue packet.ipProto (some protocol) ∧
        coversField (some port) (packet.tcpDst.map value) = true := by
  rw [protocolMatch, matches_rule]
  simp [hasValue_some]

theorem matches_udp {port : FieldMatch} {protocol : Nat} :
    packet.Matches { protocolMatch rule protocol with udpDst := some port } ↔
      HasValue packet.ethType (some rule.ethertype.ethType) ∧
        HasValue packet.ipProto (some protocol) ∧
        coversField (some port) (packet.udpDst.map value) = true := by
  rw [protocolMatch, matches_rule]
  simp [hasValue_some]

/-! ## Which rules are matched exactly -/

theorem matchedExactly_single {pattern : OFPMatch}
    (made : getRuleFlowsMatchExceptNetAddresses netaddr rule = .ok [pattern]) :
    rule.MatchedExactly netaddr ↔
      ∀ packet : Packet, packet.Matches pattern ↔ rule.Admits packet := by
  unfold SecurityGroupRule.MatchedExactly
  constructor
  · intro exactly packet
    rcases exactly with ⟨patterns, same, exactly⟩
    rw [made] at same
    cases same
    rw [← exactly packet]
    simp
  · intro exactly
    refine ⟨_, made, fun packet => ?_⟩
    rw [← exactly packet]
    simp

theorem not_matchedExactly_error {error : PyError}
    (raised : getRuleFlowsMatchExceptNetAddresses netaddr rule = .error error) :
    ¬ rule.MatchedExactly netaddr := by
  intro exactly
  rcases exactly with ⟨patterns, made, -⟩
  rw [raised] at made
  cases made

/-- A packet of the rule's version. -/
def packetOf (rule : SecurityGroupRule) (protocol : Nat) : Packet :=
  { ethSrc := 0, ethDst := 0, ethType := some (.ofNat 16 rule.ethertype.ethType)
    ipProto := some (.ofNat 8 protocol) }

theorem hasValue_ofNat {width number : Nat} (small : number < 2 ^ width) :
    HasValue (some (BitVec.ofNat width number)) (some number) := by
  rw [hasValue_some]
  exact ⟨_, rfl, by rw [BitVec.toNat_ofNat, Nat.mod_eq_of_lt small]⟩

theorem hasValue_ethType :
    HasValue (some (BitVec.ofNat 16 rule.ethertype.ethType))
      (some rule.ethertype.ethType) := by
  apply hasValue_ofNat
  cases rule.ethertype <;> decide

/-- Protocol zero is taken for no protocol. -/
theorem matchedExactly_noProtocol (falsy : rule.protocol.getD 0 = 0) :
    rule.MatchedExactly netaddr ↔ rule.protocol ≠ some 0 := by
  have made : getRuleFlowsMatchExceptNetAddresses netaddr rule =
      .ok [{ ethType := some (.exact rule.ethertype.ethType) }] := by
    unfold getRuleFlowsMatchExceptNetAddresses
    rw [if_pos falsy]
  rw [matchedExactly_single made]
  constructor
  · intro exactly isZero
    have admitted := (exactly (packetOf rule 6)).mp
      (matches_ethertype.mpr hasValue_ethType)
    have wanted := admitted.protocol
    rw [isZero, hasValue_some] at wanted
    rcases wanted with ⟨bits, same, zero⟩
    cases same
    cases zero
  · intro notZero packet
    have unset : rule.protocol = none := by
      cases protocol : rule.protocol with
      | none => rfl
      | some number =>
          rw [protocol] at falsy notZero
          exact absurd (congrArg some falsy) notZero
    have noPorts : ¬ rule.NamesPorts := by
      simp [SecurityGroupRule.NamesPorts, unset]
    have noIcmp : ¬ rule.IsIcmp := by
      simp [SecurityGroupRule.IsIcmp, unset]
    rw [matches_ethertype]
    constructor
    · intro found
      exact ⟨found, by rw [unset]; exact hasValue_none _, fun names => absurd names noPorts,
        fun icmp => absurd icmp noIcmp, fun icmp => absurd icmp noIcmp⟩
    · exact fun admitted => admitted.ethertype

/-- An ICMP packet of the rule's version. -/
def icmpPacketOf (rule : SecurityGroupRule) (protocol type code : Nat) : Packet :=
  { packetOf rule protocol with
    icmpv4Type := some (.ofNat 8 type), icmpv4Code := some (.ofNat 8 code)
    icmpv6Type := some (.ofNat 8 type), icmpv6Code := some (.ofNat 8 code) }

theorem icmpType_icmpPacketOf (protocol type code : Nat) :
    rule.ethertype.icmpType (icmpPacketOf rule protocol type code) =
      some (.ofNat 8 type) := by
  cases rule.ethertype <;> rfl

theorem icmpCode_icmpPacketOf (protocol type code : Nat) :
    rule.ethertype.icmpCode (icmpPacketOf rule protocol type code) =
      some (.ofNat 8 code) := by
  cases rule.ethertype <;> rfl

/-- What is asked of a field can be met, if there is something to ask. -/
theorem hasValue_filter {wanted : Option Nat} (small : ∀ number, wanted = some number →
    number < 256) :
    HasValue (some (BitVec.ofNat 8 (wanted.getD 0))) (wanted.filter (· ≠ 0)) := by
  cases wanted with
  | none => exact hasValue_none _
  | some number =>
      by_cases zero : number = 0
      · subst zero
        exact hasValue_none _
      · have kept : (some number).filter (· ≠ 0) = some number := by simp [zero]
        rw [kept]
        exact hasValue_ofNat (small number rfl)

theorem filter_ne_zero {wanted : Option Nat} (notZero : wanted ≠ some 0) :
    wanted.filter (· ≠ 0) = wanted := by
  cases wanted with
  | none => rfl
  | some number =>
      have different : number ≠ 0 := fun zero => notZero (congrArg some zero)
      simp [different]

/-- Type and code zero are not asked for. -/
theorem matchedExactly_icmp (wellFormed : rule.WellFormed)
    (protocol : rule.protocol = some protoNumIcmp) :
    rule.MatchedExactly netaddr ↔
      rule.portRangeMin ≠ some 0 ∧ rule.portRangeMax ≠ some 0 := by
  have made : getRuleFlowsMatchExceptNetAddresses netaddr rule =
      .ok [icmpMatch rule (protocolMatch rule protoNumIcmp)] := by
    unfold getRuleFlowsMatchExceptNetAddresses
    rw [protocol, Option.getD_some, if_neg (by decide), if_pos rfl]
    rfl
  have isIcmp : rule.IsIcmp := Or.inl protocol
  have noPorts : ¬ rule.NamesPorts := by
    intro names
    rcases names with tcp | udp
    · rw [protocol] at tcp
      cases tcp
    · rw [protocol] at udp
      cases udp
  have typeSmall := wellFormed.icmpType isIcmp
  have codeSmall := wellFormed.icmpCode isIcmp
  have protocolMet : HasValue (some (BitVec.ofNat 8 protoNumIcmp)) (some protoNumIcmp) :=
    hasValue_ofNat (by decide)
  rw [matchedExactly_single made]
  constructor
  · intro exactly
    constructor
    · intro zero
      have admitted := (exactly (icmpPacketOf rule protoNumIcmp 1
        (rule.portRangeMax.getD 0))).mp (matches_icmp.mpr
          ⟨hasValue_ethType, protocolMet, by rw [zero]; exact hasValue_none _,
            by rw [icmpCode_icmpPacketOf]; exact hasValue_filter codeSmall⟩)
      have wanted := admitted.icmpType isIcmp
      rw [icmpType_icmpPacketOf, zero, hasValue_some] at wanted
      rcases wanted with ⟨bits, same, isZero⟩
      cases same
      cases isZero
    · intro zero
      have admitted := (exactly (icmpPacketOf rule protoNumIcmp
        (rule.portRangeMin.getD 0) 1)).mp (matches_icmp.mpr
          ⟨hasValue_ethType, protocolMet,
            by rw [icmpType_icmpPacketOf]; exact hasValue_filter typeSmall,
            by rw [zero]; exact hasValue_none _⟩)
      have wanted := admitted.icmpCode isIcmp
      rw [icmpCode_icmpPacketOf, zero, hasValue_some] at wanted
      rcases wanted with ⟨bits, same, isZero⟩
      cases same
      cases isZero
  · intro nonZero packet
    rw [matches_icmp, filter_ne_zero nonZero.1, filter_ne_zero nonZero.2, ← protocol]
    constructor
    · intro found
      exact ⟨found.1, found.2.1, fun names => absurd names noPorts, fun _ => found.2.2.1,
        fun _ => found.2.2.2⟩
    · intro admitted
      exact ⟨admitted.ethertype, admitted.protocol, admitted.icmpType isIcmp,
        admitted.icmpCode isIcmp⟩

/-! ### Ports -/

theorem matches_destination {protocol : Nat} (isProtocol : rule.protocol = some protocol)
    {destination : FieldMatch → OFPMatch → OFPMatch}
    (found : withDestination protocol = .ok destination) {port : FieldMatch} :
    packet.Matches (destination port (protocolMatch rule protocol)) ↔
      HasValue packet.ethType (some rule.ethertype.ethType) ∧
        HasValue packet.ipProto (some protocol) ∧
        coversField (some port) ((rule.destination packet).map value) = true := by
  unfold withDestination at found
  unfold SecurityGroupRule.destination
  by_cases tcp : protocol = protoNumTcp
  · rw [if_pos tcp] at found
    cases found
    rw [isProtocol, tcp, if_pos rfl]
    exact matches_tcp
  · have notTcp : rule.protocol ≠ some protoNumTcp := by
      rw [isProtocol]
      exact fun same => tcp (Option.some.inj same)
    rw [if_neg tcp] at found
    rw [if_neg notTcp]
    split at found
    · cases found
      exact matches_udp
    · cases found

theorem rule_base_made (netaddr : Netaddr) {protocol : Nat}
    (isProtocol : rule.protocol = some protocol)
    (notZero : protocol ≠ 0) (notIcmp : protocol ≠ protoNumIcmp)
    (falsy : truthy rule.portRangeMin = false ∧ truthy rule.portRangeMax = false) :
    getRuleFlowsMatchExceptNetAddresses netaddr rule =
      .ok [protocolMatch rule protocol] := by
  unfold getRuleFlowsMatchExceptNetAddresses
  rw [isProtocol, Option.getD_some, if_neg notZero, if_neg notIcmp, falsy.1, falsy.2]
  rfl

theorem rule_full_made (netaddr : Netaddr) {protocol : Nat}
    (isProtocol : rule.protocol = some protocol)
    (notZero : protocol ≠ 0) (notIcmp : protocol ≠ protoNumIcmp)
    (first : rule.portRangeMin = some Const.minPort)
    (last : rule.portRangeMax = some Const.maxPort) :
    getRuleFlowsMatchExceptNetAddresses netaddr rule =
      .ok [protocolMatch rule protocol] := by
  unfold getRuleFlowsMatchExceptNetAddresses isFullRange
  rw [isProtocol, Option.getD_some, if_neg notZero, if_neg notIcmp, first, last]
  rfl

/-- A range of ports that is neither empty nor full is cut into networks. -/
theorem rule_range_made (netaddr : Netaddr) {protocol first last : Nat}
    (isProtocol : rule.protocol = some protocol) (notZero : protocol ≠ 0)
    (notIcmp : protocol ≠ protoNumIcmp) (isFirst : rule.portRangeMin = some first)
    (isLast : rule.portRangeMax = some last) (someTruthy : ¬ (first = 0 ∧ last = 0))
    (notFull : ¬ (first = Const.minPort ∧ last = Const.maxPort)) :
    getRuleFlowsMatchExceptNetAddresses netaddr rule =
      getPortMatchListFromPortRange netaddr (some first) (some last) >>= fun ports =>
        withDestination protocol >>= fun destination =>
          .ok (ports.map fun port => destination port (protocolMatch rule protocol)) := by
  have isTruthy : (!truthy (some first) && !truthy (some last)) = false := by
    by_cases zero : first = 0
    · have lastNotZero : last ≠ 0 := fun lastZero => someTruthy ⟨zero, lastZero⟩
      simp [truthy, lastNotZero]
    · simp [truthy, zero]
  have notFullRange : isFullRange rule = .ok false := by
    unfold isFullRange
    rw [isFirst, isLast]
    by_cases atMin : first = Const.minPort
    · have belowMax : last ≠ Const.maxPort := fun atMax => notFull ⟨atMin, atMax⟩
      simp [atMin, belowMax]
    · simp [atMin]
  unfold getRuleFlowsMatchExceptNetAddresses
  rw [isProtocol, Option.getD_some, if_neg notZero, if_neg notIcmp, isFirst, isLast,
    isTruthy, notFullRange]
  rfl

theorem withDestination_names {protocol : Nat} (isProtocol : rule.protocol = some protocol)
    (names : rule.NamesPorts) : ∃ destination, withDestination protocol = .ok destination := by
  unfold withDestination
  rcases names with tcp | udp
  · rw [isProtocol] at tcp
    cases tcp
    exact ⟨_, rfl⟩
  · rw [isProtocol] at udp
    cases udp
    exact ⟨_, rfl⟩

/-- A packet of the rule's version to a port. -/
def portPacketOf (rule : SecurityGroupRule) (protocol port : Nat) : Packet :=
  { packetOf rule protocol with
    tcpDst := some (.ofNat 16 port), udpDst := some (.ofNat 16 port) }

theorem destination_portPacketOf (protocol port : Nat) :
    rule.destination (portPacketOf rule protocol port) = some (.ofNat 16 port) := by
  unfold SecurityGroupRule.destination
  split <;> rfl

/-- Without a match on the port, a packet to a port outside of the range gets through. -/
theorem not_matchedExactly_outside {protocol first last port : Nat}
    (made : getRuleFlowsMatchExceptNetAddresses netaddr rule =
      .ok [protocolMatch rule protocol])
    (protocolSmall : protocol < 2 ^ 8) (names : rule.NamesPorts)
    (isFirst : rule.portRangeMin = some first) (isLast : rule.portRangeMax = some last)
    (portSmall : port < 2 ^ 16) (outside : ¬ (first ≤ port ∧ port ≤ last)) :
    ¬ rule.MatchedExactly netaddr := by
  intro exactly
  rw [matchedExactly_single made] at exactly
  have admitted := (exactly (portPacketOf rule protocol port)).mp
    (matches_protocol.mpr ⟨hasValue_ethType, hasValue_ofNat protocolSmall⟩)
  rcases admitted.port names first last isFirst isLast with ⟨bits, same, inside⟩
  rw [destination_portPacketOf] at same
  cases same
  rw [BitVec.toNat_ofNat, Nat.mod_eq_of_lt portSmall] at inside
  exact outside inside

/-- A rule for every port matches exactly when it names no port at all. -/
theorem matchedExactly_unset {protocol : Nat} (isProtocol : rule.protocol = some protocol)
    (made : getRuleFlowsMatchExceptNetAddresses netaddr rule =
      .ok [protocolMatch rule protocol])
    (unset : rule.portRangeMin = none ∧ rule.portRangeMax = none) :
    rule.MatchedExactly netaddr := by
  rw [matchedExactly_single made]
  intro packet
  rw [matches_protocol]
  constructor
  · intro found
    refine ⟨found.1, by rw [isProtocol]; exact found.2, ?_, ?_, ?_⟩
    · intro names first last isFirst
      rw [unset.1] at isFirst
      cases isFirst
    · intro icmp
      rw [unset.1]
      exact hasValue_none _
    · intro icmp
      rw [unset.2]
      exact hasValue_none _
  · intro admitted
    exact ⟨admitted.ethertype, isProtocol ▸ admitted.protocol⟩

/-- A range that is cut into networks is matched exactly. -/
theorem matchedExactly_range {protocol first last : Nat}
    (isProtocol : rule.protocol = some protocol) (notZero : protocol ≠ 0)
    (notIcmp : protocol ≠ protoNumIcmp) (names : rule.NamesPorts)
    (isFirst : rule.portRangeMin = some first) (isLast : rule.portRangeMax = some last)
    (small : last ≤ 0xffff) (someTruthy : ¬ (first = 0 ∧ last = 0))
    (notFull : ¬ (first = Const.minPort ∧ last = Const.maxPort))
    {cidrs : List (Nat × Nat)}
    (cut : netaddr.rangeCidrs (some first) (some last) = .ok cidrs)
    (covers : CoversRange cidrs first last) : rule.MatchedExactly netaddr := by
  rcases withDestination_names isProtocol names with ⟨destination, found⟩
  have made := rule_range_made netaddr isProtocol notZero notIcmp isFirst isLast someTruthy
    notFull
  unfold getPortMatchListFromPortRange at made
  rw [cut, found] at made
  refine ⟨_, made, fun packet => ?_⟩
  have noIcmp : ¬ rule.IsIcmp := by
    intro icmp
    rcases names with tcp | udp
    · simp [SecurityGroupRule.IsIcmp, tcp, protoNumTcp, protoNumIcmp, protoNumIcmpv6] at icmp
    · simp [SecurityGroupRule.IsIcmp, udp, protoNumUdp, protoNumIcmp, protoNumIcmpv6] at icmp
  have toPort : (∃ cidr ∈ cidrs, coversField
      (some (.masked (cidr.1 &&& 0xffff) (cidr.2 &&& 0xffff)))
        ((rule.destination packet).map value) = true) ↔
      ∃ bits, rule.destination packet = some bits ∧ first ≤ bits.toNat ∧
        bits.toNat ≤ last := by
    simp only [coversField_map_masked]
    constructor
    · intro some
      rcases some with ⟨cidr, member, bits, same, agrees⟩
      exact ⟨bits, same, (covers.port_mem small bits).mpr ⟨cidr, member, agrees⟩⟩
    · intro some
      rcases some with ⟨bits, same, inside⟩
      rcases (covers.port_mem small bits).mp inside with ⟨cidr, member, agrees⟩
      exact ⟨cidr, member, bits, same, agrees⟩
  have matched : (∃ pattern ∈ (cidrs.map fun cidr =>
        FieldMatch.masked (cidr.1 &&& 0xffff) (cidr.2 &&& 0xffff)).map
          fun port => destination port (protocolMatch rule protocol),
      packet.Matches pattern) ↔ HasValue packet.ethType (some rule.ethertype.ethType) ∧
        HasValue packet.ipProto (some protocol) ∧ ∃ bits, rule.destination packet = some bits ∧
          first ≤ bits.toNat ∧ bits.toNat ≤ last := by
    rw [← toPort, List.map_map]
    constructor
    · intro some
      rcases some with ⟨pattern, isPattern, matched⟩
      rcases List.mem_map.mp isPattern with ⟨cidr, member, rfl⟩
      rcases (matches_destination isProtocol found).mp matched with ⟨ethertype, number, port⟩
      exact ⟨ethertype, number, cidr, member, port⟩
    · intro all
      rcases all with ⟨ethertype, number, cidr, member, port⟩
      exact ⟨_, List.mem_map_of_mem member,
        (matches_destination isProtocol found).mpr ⟨ethertype, number, port⟩⟩
  refine matched.trans ?_
  rw [← isProtocol]
  constructor
  · intro all
    refine ⟨all.1, all.2.1, ?_, fun icmp => absurd icmp noIcmp,
      fun icmp => absurd icmp noIcmp⟩
    intro _ other another isOther isAnother
    rw [isFirst] at isOther
    rw [isLast] at isAnother
    cases isOther
    cases isAnother
    exact all.2.2
  · exact fun admitted => ⟨admitted.ethertype, admitted.protocol,
      admitted.port names first last isFirst isLast⟩

/-- What `IPRange.cidrs` gives for the range of the rule. -/
def CutsRange (netaddr : Netaddr) (rule : SecurityGroupRule) : Prop :=
  ∀ first last, rule.portRangeMin = some first → rule.portRangeMax = some last →
    ∃ cidrs, netaddr.rangeCidrs (some first) (some last) = .ok cidrs ∧
      CoversRange cidrs first last

/-- Port zero alone, and all other ports together, are taken for every port. -/
theorem matchedExactly_ports (wellFormed : rule.WellFormed) (names : rule.NamesPorts)
    (cuts : CutsRange netaddr rule) :
    rule.MatchedExactly netaddr ↔
      ¬ (rule.portRangeMin = some 0 ∧ rule.portRangeMax = some 0) ∧
      ¬ (rule.portRangeMin = some Const.minPort ∧
        rule.portRangeMax = some Const.maxPort) := by
  have known : ∃ protocol, rule.protocol = some protocol ∧ protocol ≠ 0 ∧
      protocol ≠ protoNumIcmp ∧ protocol < 2 ^ 8 := by
    rcases names with tcp | udp
    · exact ⟨_, tcp, by decide, by decide, by decide⟩
    · exact ⟨_, udp, by decide, by decide, by decide⟩
  rcases known with ⟨protocol, isProtocol, notZero, notIcmp, protocolSmall⟩
  rcases wellFormed.ports names with unset | ⟨first, last, isFirst, isLast, ordered, small⟩
  · have made := rule_base_made netaddr isProtocol notZero notIcmp
      (by rw [unset.1, unset.2]; exact ⟨rfl, rfl⟩)
    have exactly := matchedExactly_unset isProtocol made unset
    rw [unset.1, unset.2]
    simp [exactly]
  · rw [isFirst, isLast, Option.some.injEq, Option.some.injEq, Option.some.injEq,
      Option.some.injEq]
    by_cases zeros : first = 0 ∧ last = 0
    · have made := rule_base_made netaddr isProtocol notZero notIcmp
        (by rw [isFirst, isLast, zeros.1, zeros.2]; exact ⟨rfl, rfl⟩)
      have inexact := not_matchedExactly_outside made protocolSmall names isFirst isLast
        (by decide : 1 < 2 ^ 16) (by omega)
      exact ⟨fun exactly => absurd exactly inexact, fun both => absurd zeros both.1⟩
    · by_cases full : first = Const.minPort ∧ last = Const.maxPort
      · have made := rule_full_made netaddr isProtocol notZero notIcmp
          (full.1 ▸ isFirst) (full.2 ▸ isLast)
        have positive : ¬ (first ≤ 0 ∧ 0 ≤ last) := by
          rw [full.1]
          exact fun both => absurd both.1 (by decide)
        have inexact := not_matchedExactly_outside made protocolSmall names isFirst isLast
          (by decide : 0 < 2 ^ 16) positive
        exact ⟨fun exactly => absurd exactly inexact, fun both => absurd full both.2⟩
      · rcases cuts first last isFirst isLast with ⟨cidrs, cut, covers⟩
        have exactly := matchedExactly_range isProtocol notZero notIcmp names isFirst isLast
          small zeros full cut covers
        exact ⟨fun _ => ⟨zeros, full⟩, fun _ => exactly⟩

/-! ### Other protocols -/

/-- Nothing but one is asked for, and no one. -/
theorem falsy_unset {wanted : Option Nat} (falsy : truthy wanted = false)
    (isOne : HasValue (some (BitVec.ofNat 8 1)) wanted) : wanted = none := by
  cases wanted with
  | none => rfl
  | some number =>
      have zero : number = 0 := by simpa [truthy] using falsy
      subst zero
      rcases hasValue_some.mp isOne with ⟨bits, same, impossible⟩
      cases same
      cases impossible

/-- A range of a protocol without a field for its destination raises. -/
theorem rule_raises (protocol : rule.protocol = some protoNumIcmpv6)
    (someTruthy : ¬ (truthy rule.portRangeMin = false ∧ truthy rule.portRangeMax = false))
    (notFull : rule.portRangeMax ≠ some Const.maxPort) :
    ∃ error, getRuleFlowsMatchExceptNetAddresses netaddr rule = .error error := by
  have isTruthy : (!truthy rule.portRangeMin && !truthy rule.portRangeMax) = false := by
    cases first : truthy rule.portRangeMin <;> cases last : truthy rule.portRangeMax <;>
      simp_all
  have notFullRange : ∀ full, isFullRange rule = .ok full → full = false := by
    intro full made
    unfold isFullRange at made
    cases isFirst : rule.portRangeMin with
    | none =>
        rw [isFirst] at made
        cases made
    | some first =>
        cases isLast : rule.portRangeMax with
        | none =>
            rw [isFirst, isLast] at made
            by_cases atMin : first = Const.minPort <;> simp [atMin] at made
            exact made
        | some last =>
            have belowMax : last ≠ Const.maxPort :=
              fun atMax => notFull (isLast.trans (congrArg some atMax))
            rw [isFirst, isLast] at made
            by_cases atMin : first = Const.minPort <;> simp [atMin, belowMax] at made <;>
              exact made
  unfold getRuleFlowsMatchExceptNetAddresses
  rw [protocol, Option.getD_some, if_neg (by decide), if_neg (by decide), isTruthy]
  cases full : isFullRange rule with
  | error error => exact ⟨error, rfl⟩
  | ok isFull =>
      rw [notFullRange isFull full]
      cases cut : getPortMatchListFromPortRange netaddr rule.portRangeMin
          rule.portRangeMax with
      | error error => exact ⟨error, rfl⟩
      | ok ports => exact ⟨.keyError, rfl⟩

/-- The application knows the types and codes of no ICMP but that of version 4. -/
theorem matchedExactly_icmpv6 (wellFormed : rule.WellFormed)
    (protocol : rule.protocol = some protoNumIcmpv6) (version : rule.ethertype = .ipv6) :
    rule.MatchedExactly netaddr ↔
      rule.portRangeMin = none ∧ rule.portRangeMax = none := by
  have isIcmp : rule.IsIcmp := Or.inr ⟨protocol, version⟩
  have notFull : rule.portRangeMax ≠ some Const.maxPort := by
    intro full
    exact absurd (wellFormed.icmpCode isIcmp _ full) (by decide)
  constructor
  · intro exactly
    by_cases falsy : truthy rule.portRangeMin = false ∧ truthy rule.portRangeMax = false
    · have made := rule_base_made netaddr protocol (by decide) (by decide) falsy
      rw [matchedExactly_single made] at exactly
      have admitted := (exactly (icmpPacketOf rule protoNumIcmpv6 1 1)).mp
        (matches_protocol.mpr ⟨hasValue_ethType, hasValue_ofNat (by decide)⟩)
      have type := admitted.icmpType isIcmp
      have code := admitted.icmpCode isIcmp
      rw [icmpType_icmpPacketOf] at type
      rw [icmpCode_icmpPacketOf] at code
      exact ⟨falsy_unset falsy.1 type, falsy_unset falsy.2 code⟩
    · rcases rule_raises protocol falsy notFull with ⟨error, raised⟩
      exact absurd exactly (not_matchedExactly_error raised)
  · intro unset
    have made := rule_base_made netaddr protocol (by decide) (by decide)
      (by rw [unset.1, unset.2]; exact ⟨rfl, rfl⟩)
    exact matchedExactly_unset protocol made unset

/-- The condition under which the matches of a rule say what the rule says. -/
structure Describable (rule : SecurityGroupRule) : Prop where
  protocol : rule.protocol ≠ some 0
  ports : rule.NamesPorts →
    ¬ (rule.portRangeMin = some 0 ∧ rule.portRangeMax = some 0) ∧
    ¬ (rule.portRangeMin = some Const.minPort ∧ rule.portRangeMax = some Const.maxPort)
  icmp : rule.protocol = some protoNumIcmp →
    rule.portRangeMin ≠ some 0 ∧ rule.portRangeMax ≠ some 0
  icmpv6 : rule.protocol = some protoNumIcmpv6 → rule.ethertype = .ipv6 →
    rule.portRangeMin = none ∧ rule.portRangeMax = none

/-- `_get_rule_flows_match_except_net_addresses` returns, and its matches together match
just the packets of the rule, unless the rule asks for something that is false. -/
theorem rule_matched_exactly_iff (netaddr : Netaddr) (rule : SecurityGroupRule)
    (wellFormed : rule.WellFormed) (cuts : rule.NamesPorts → CutsRange netaddr rule) :
    rule.MatchedExactly netaddr ↔ Describable rule := by
  by_cases falsy : rule.protocol.getD 0 = 0
  · have other : ∀ number, number ≠ 0 → rule.protocol ≠ some number := by
      intro number notZero isProtocol
      rw [isProtocol] at falsy
      exact notZero falsy
    have noPorts : ¬ rule.NamesPorts := by
      intro names
      rcases names with tcp | udp
      · exact other _ (by decide) tcp
      · exact other _ (by decide) udp
    rw [matchedExactly_noProtocol falsy]
    constructor
    · intro notZero
      exact ⟨notZero, fun names => absurd names noPorts,
        fun icmp => absurd icmp (other _ (by decide)),
        fun icmp => absurd icmp (other _ (by decide))⟩
    · exact fun describable => describable.protocol
  · have notZero : rule.protocol ≠ some 0 := by
      intro zero
      rw [zero] at falsy
      exact falsy rfl
    by_cases icmp : rule.protocol = some protoNumIcmp
    · have noPorts : ¬ rule.NamesPorts := by
        simp [SecurityGroupRule.NamesPorts, icmp, protoNumIcmp, protoNumTcp, protoNumUdp]
      rw [matchedExactly_icmp wellFormed icmp]
      constructor
      · intro nonZero
        refine ⟨notZero, fun names => absurd names noPorts, fun _ => nonZero, ?_⟩
        intro icmpv6
        rw [icmp] at icmpv6
        cases icmpv6
      · exact fun describable => describable.icmp icmp
    · by_cases names : rule.NamesPorts
      · rw [matchedExactly_ports wellFormed names (cuts names)]
        constructor
        · intro bounded
          refine ⟨notZero, fun _ => bounded, fun other => absurd other icmp, ?_⟩
          intro icmpv6
          rcases names with tcp | udp
          · rw [tcp] at icmpv6
            cases icmpv6
          · rw [udp] at icmpv6
            cases icmpv6
        · exact fun describable => describable.ports names
      · by_cases icmpv6 : rule.protocol = some protoNumIcmpv6 ∧ rule.ethertype = .ipv6
        · rw [matchedExactly_icmpv6 wellFormed icmpv6.1 icmpv6.2]
          constructor
          · intro unset
            exact ⟨notZero, fun other => absurd other names, fun other => absurd other icmp,
              fun _ _ => unset⟩
          · exact fun describable => describable.icmpv6 icmpv6.1 icmpv6.2
        · have noIcmp : ¬ rule.IsIcmp := by
            intro either
            rcases either with first | second
            · exact icmp first
            · exact icmpv6 second
          have unset := wellFormed.others names noIcmp
          have exactly : rule.MatchedExactly netaddr := by
            cases isProtocol : rule.protocol with
            | none =>
                rw [isProtocol] at falsy
                exact absurd rfl falsy
            | some protocol =>
                rw [isProtocol] at notZero icmp
                have made := rule_base_made netaddr isProtocol
                  (fun zero => notZero (congrArg some zero))
                  (fun same => icmp (congrArg some same))
                  (by rw [unset.1, unset.2]; exact ⟨rfl, rfl⟩)
                exact matchedExactly_unset isProtocol made unset
          constructor
          · intro _
            exact ⟨notZero, fun other => absurd other names, fun other => absurd other icmp,
              fun version family => absurd ⟨version, family⟩ icmpv6⟩
          · exact fun _ => exactly

namespace Sample

/-- TCP from anywhere to the ports 80, 81 and 82. -/
def webRule : SecurityGroupRule :=
  { id := "web", direction := .ingress, ethertype := .ipv4, protocol := some protoNumTcp
    portRangeMin := some 80, portRangeMax := some 82 }

theorem webRule_wellFormed : webRule.WellFormed where
  ports _ := Or.inr ⟨80, 82, rfl, rfl, by decide, by decide⟩
  icmpType icmp := by
    rcases icmp with first | second
    · cases first
    · cases second.1
  icmpCode icmp := by
    rcases icmp with first | second
    · cases first
    · cases second.1
  others names := absurd (Or.inl rfl) names

theorem covers_80_82 : CoversRange [(80, 0xfffffffe), (82, 0xffffffff)] 80 82 where
  canonical := by decide
  exact := by
    intro number small
    have whole : number &&& 0xffffffff = number :=
      (Nat.and_two_pow_sub_one_eq_mod _ 32).trans (Nat.mod_eq_of_lt small)
    simp only [List.mem_cons, List.not_mem_nil, or_false, exists_eq_or_imp, exists_eq_left,
      whole]
    constructor
    · intro inside
      have values : number = 80 ∨ number = 81 ∨ number = 82 := by omega
      rcases values with rfl | rfl | rfl <;> decide
    · intro covered
      rcases covered with even | last
      · have parts : number = 80 ||| (number &&& 1) := by
          rw [← even, ← Nat.and_or_distrib_left]
          exact whole.symm
        rw [Nat.and_one_is_mod] at parts
        have bit : number % 2 = 0 ∨ number % 2 = 1 := by omega
        rcases bit with zero | one
        · rw [zero] at parts
          rw [parts]
          decide
        · rw [one] at parts
          rw [parts]
          decide
      · omega
  small := by decide

theorem webRule_cuts : CutsRange Netaddr.sample webRule := by
  intro first last isFirst isLast
  cases isFirst
  cases isLast
  exact ⟨_, rfl, covers_80_82⟩

theorem webRule_describable : Describable webRule where
  protocol := by decide
  ports _ := by decide
  icmp isIcmp := by cases isIcmp
  icmpv6 isIcmp := by cases isIcmp

/-- Echo replies, which have type zero. -/
def echoReplyRule : SecurityGroupRule :=
  { id := "pong", direction := .ingress, ethertype := .ipv4, protocol := some protoNumIcmp
    portRangeMin := some 0, portRangeMax := some 0 }

theorem echoReplyRule_wellFormed : echoReplyRule.WellFormed where
  ports names := by
    rcases names with tcp | udp
    · cases tcp
    · cases udp
  icmpType _ type isType := by
    cases isType
    decide
  icmpCode _ code isCode := by
    cases isCode
    decide
  others _ noIcmp := absurd (Or.inl rfl) noIcmp

end Sample

open Sample in
theorem web_rule_matched_exactly : webRule.MatchedExactly Netaddr.sample :=
  (rule_matched_exactly_iff Netaddr.sample webRule webRule_wellFormed
    fun _ => webRule_cuts).mpr webRule_describable

open Sample in
/-- Echo requests get through a rule for echo replies. -/
theorem echo_requests_pass_for_replies :
    echoReplyRule.WellFormed ∧
    (∃ patterns, getRuleFlowsMatchExceptNetAddresses Netaddr.sample echoReplyRule =
      .ok patterns ∧ ∃ pattern ∈ patterns,
        (icmpPacketOf echoReplyRule protoNumIcmp 8 0).Matches pattern) ∧
    ¬ echoReplyRule.Admits (icmpPacketOf echoReplyRule protoNumIcmp 8 0) := by
  refine ⟨echoReplyRule_wellFormed, ⟨_, rfl, _, List.mem_singleton_self _, by decide⟩, ?_⟩
  intro admitted
  rcases admitted.icmpType (Or.inl rfl) 0 rfl with ⟨bits, same, zero⟩
  cases same
  cases zero

end SGApp

end Dragonflow
