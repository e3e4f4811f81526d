import Dragonflow.Controller.Apps.FlowClassifier
import Dragonflow.Foundation.Partition

/-! # A packet and the matches of a flow classifier

The dictionaries of a list are a partition of the packets that they are about. To multiply
two lists of dictionaries that share no field is to multiply their partitions.
-/

namespace Dragonflow

open FieldMatch Packet

/-! ## One dictionary -/

namespace ClassifiedPacket

variable {packet : ClassifiedPacket} {params new : Params} {field : MatchField}

theorem satisfies_iff :
    packet.satisfies params = true ↔ ∀ field wanted, params.lookup field = some wanted →
      coversField (some wanted) (packet.read field) = true := by
  unfold satisfies
  rw [List.all_eq_true]
  constructor
  · intro all field wanted found
    exact all ⟨field, wanted⟩ (AList.mem_lookup_iff.mp found)
  · intro all entry member
    exact all entry.1 entry.2 (AList.mem_lookup_iff.mpr member)

@[simp] theorem satisfies_empty : packet.satisfies ∅ = true := rfl

/-- The two dictionaries of an update do not share a field. -/
theorem satisfies_update (apart : ∀ field ∈ new, field ∉ params) :
    packet.satisfies (params.update new) =
      (packet.satisfies params && packet.satisfies new) := by
  have both : packet.satisfies (params.update new) = true ↔
      packet.satisfies params = true ∧ packet.satisfies new = true := by
    rw [satisfies_iff, satisfies_iff, satisfies_iff]
    have found : ∀ field wanted, (params.update new).lookup field = some wanted ↔
        new.lookup field = some wanted ∨ params.lookup field = some wanted := by
      intro field wanted
      apply AList.mem_lookup_union.trans
      constructor
      · intro either
        exact either.imp_right And.right
      · intro either
        rcases either with inNew | inParams
        · exact Or.inl inNew
        · have named : field ∈ params :=
            AList.lookup_isSome.mp (Option.isSome_iff_exists.mpr ⟨wanted, inParams⟩)
          exact Or.inr ⟨fun inNew => apart field inNew named, inParams⟩
    constructor
    · intro all
      exact ⟨fun field wanted inParams => all field wanted ((found field wanted).mpr
          (Or.inr inParams)),
        fun field wanted inNew => all field wanted ((found field wanted).mpr (Or.inl inNew))⟩
    · intro all field wanted inEither
      rcases (found field wanted).mp inEither with inNew | inParams
      · exact all.2 field wanted inNew
      · exact all.1 field wanted inParams
  rw [Bool.eq_iff_iff, both, Bool.and_eq_true]

theorem satisfies_singleton {wanted : FieldMatch} :
    packet.satisfies (AList.singleton field wanted) =
      coversField (some wanted) (packet.read field) :=
  Bool.and_true _

theorem satisfies_insert {wanted : FieldMatch} (absent : field ∉ params) :
    packet.satisfies (params.insert field wanted) =
      (packet.satisfies params && coversField (some wanted) (packet.read field)) := by
  unfold satisfies
  rw [AList.entries_insert_of_notMem absent, List.all_cons, Bool.and_comm]

theorem satisfies_withField {wanted : Option FieldMatch} (absent : field ∉ params) :
    packet.satisfies (params.withField field wanted) =
      (packet.satisfies params && coversField wanted (packet.read field)) := by
  cases wanted with
  | none => exact (Bool.and_true _).symm
  | some wanted => exact satisfies_insert absent

end ClassifiedPacket

namespace Params

variable {params new : Params} {field other : MatchField} {wanted : Option FieldMatch}

theorem mem_withField (named : field ∈ params.withField other wanted) :
    field = other ∨ field ∈ params := by
  cases wanted with
  | none => exact Or.inr named
  | some wanted => exact (AList.mem_insert _).mp named

theorem mem_update : field ∈ params.update new ↔ field ∈ new ∨ field ∈ params :=
  AList.mem_union

theorem mem_singleton {wanted : FieldMatch} :
    field ∈ (AList.singleton other wanted : Params) ↔ field = other :=
  List.mem_singleton

end Params

/-! ## Lists of dictionaries -/

/-- A list of dictionaries over some fields that partitions the packets that it is about. -/
structure Describes (packet : ClassifiedPacket) (fields : List MatchField)
    (paramList : List Params) (whole : Prop) : Prop where
  partitions : Partitions packet.satisfies paramList whole
  names : ∀ params ∈ paramList, ∀ field ∈ params, field ∈ fields

namespace Describes

variable {packet : ClassifiedPacket} {fields newFields : List MatchField}
  {paramList newList : List Params} {whole other : Prop}

theorem single {params : Params} (same : packet.satisfies params = true ↔ whole)
    (names : ∀ field ∈ params, field ∈ fields) :
    Describes packet fields [params] whole where
  partitions := Partitions.single same
  names := by
    intro listed member
    rw [List.mem_singleton.mp member]
    exact names

theorem multiply (old : Describes packet fields paramList whole)
    (new : Describes packet newFields newList other)
    (apart : ∀ field ∈ newFields, field ∉ fields) :
    Describes packet (fields ++ newFields) (FcApp.multiplyParams paramList newList)
      (whole ∧ other) where
  partitions := by
    apply old.partitions.product new.partitions
    intro base inOld extension inNew
    apply ClassifiedPacket.satisfies_update
    intro field inExtension inBase
    exact apart field (new.names extension inNew field inExtension)
      (old.names base inOld field inBase)
  names := by
    intro params member field named
    rcases List.mem_flatMap.mp member with ⟨base, inOld, made⟩
    rcases List.mem_map.mp made with ⟨extension, inNew, rfl⟩
    rcases Params.mem_update.mp named with inExtension | inBase
    · exact List.mem_append_right _ (new.names extension inNew field inExtension)
    · exact List.mem_append_left _ (old.names base inOld field inBase)

end Describes

/-! ## Addresses -/

namespace IPNetwork

theorem coversField_networkAndMask {width address length : Nat} {field : Option (BitVec width)}
    (inRange : address < 2 ^ width) :
    coversField (some (.masked (address &&& prefixMask width (width - length))
        (prefixMask width (width - length)))) (field.map value) = true ↔
      ∃ bits, field = some bits ∧
        address / 2 ^ (width - length) = bits.toNat / 2 ^ (width - length) := by
  rw [coversField_map_masked]
  apply exists_congr
  intro bits
  apply and_congr_right
  intro _
  rw [Nat.and_assoc, Nat.and_self,
    PrefixMask.and_mask_eq_iff bits.isLt inRange (Nat.sub_le _ _)]
  exact eq_comm

end IPNetwork

namespace Ethertype

def srcLabel : Ethertype → MatchField
  | .ipv4 => .ipv4Src
  | .ipv6 => .ipv6Src

def dstLabel : Ethertype → MatchField
  | .ipv4 => .ipv4Dst
  | .ipv6 => .ipv6Dst

variable {version : Ethertype} {packet : ClassifiedPacket} {wanted : Option IPNetwork}

theorem covers_v4 {cidr : IPNetwork} (family : Ethertype.ipv4.hasNetwork cidr = true)
    {field : Option (BitVec 32)} :
    coversField (some cidr.networkAndMask) (field.map value) = true ↔
      ∃ ip, field.map IPAddress.v4 = some ip ∧ cidr.contains ip = true := by
  cases cidr with
  | v6 address length => cases family
  | v4 address length =>
      apply (IPNetwork.coversField_networkAndMask address.isLt).trans
      simp only [Option.map_eq_some_iff, exists_exists_and_eq_and, IPNetwork.contains,
        decide_eq_true_eq]

theorem covers_v6 {cidr : IPNetwork} (family : Ethertype.ipv6.hasNetwork cidr = true)
    {field : Option (BitVec 128)} :
    coversField (some cidr.networkAndMask) (field.map value) = true ↔
      ∃ ip, field.map IPAddress.v6 = some ip ∧ cidr.contains ip = true := by
  cases cidr with
  | v4 address length => cases family
  | v6 address length =>
      apply (IPNetwork.coversField_networkAndMask address.isLt).trans
      simp only [Option.map_eq_some_iff, exists_exists_and_eq_and, IPNetwork.contains,
        decide_eq_true_eq]

theorem covers_source (family : ∀ cidr, wanted = some cidr → version.hasNetwork cidr = true) :
    coversField (wanted.map IPNetwork.networkAndMask) (packet.read version.srcLabel) = true ↔
      IsWithin (packet.source version) wanted := by
  cases wanted with
  | none => exact ⟨fun _ _ impossible => (by cases impossible), fun _ => rfl⟩
  | some cidr =>
      have inFamily := family cidr rfl
      have isCovered : coversField (some cidr.networkAndMask)
          (packet.read version.srcLabel) = true ↔
            ∃ ip, packet.source version = some ip ∧ cidr.contains ip = true := by
        cases version with
        | ipv4 => exact covers_v4 inFamily
        | ipv6 => exact covers_v6 inFamily
      simpa [IsWithin] using isCovered

theorem covers_destination
    (family : ∀ cidr, wanted = some cidr → version.hasNetwork cidr = true) :
    coversField (wanted.map IPNetwork.networkAndMask) (packet.read version.dstLabel) = true ↔
      IsWithin (packet.destination version) wanted := by
  cases wanted with
  | none => exact ⟨fun _ _ impossible => (by cases impossible), fun _ => rfl⟩
  | some cidr =>
      have inFamily := family cidr rfl
      have isCovered : coversField (some cidr.networkAndMask)
          (packet.read version.dstLabel) = true ↔
            ∃ ip, packet.destination version = some ip ∧ cidr.contains ip = true := by
        cases version with
        | ipv4 => exact covers_v4 inFamily
        | ipv6 => exact covers_v6 inFamily
      simpa [IsWithin] using isCovered

end Ethertype

namespace FcApp

variable {netaddr : Netaddr} {fc : Classifier} {packet : ClassifiedPacket}

/-! ## Registers and addresses -/

/-- One bit of a register, asked to be zero. -/
theorem bit_clear {register : BitVec 32} {bit : Nat} :
    coversField (some (.masked 0 (1 <<< bit))) (some (value register)) = true ↔
      register.getLsbD bit = false := by
  have asked : coversField (some (.masked 0 (1 <<< bit))) (some (value register)) = true ↔
      register.toNat &&& 1 <<< bit = 0 &&& 1 <<< bit := by
    simp [coversField, covers, value]
  rw [asked, Nat.zero_and, Nat.one_shiftLeft]
  change _ ↔ register.toNat.testBit bit = false
  constructor
  · intro zero
    have bitZero := congrArg (fun number => number.testBit bit) zero
    simpa using bitZero
  · intro clear
    apply Nat.eq_of_testBit_eq
    intro index
    rw [Nat.testBit_and, Nat.testBit_two_pow, Nat.zero_testBit]
    by_cases same : bit = index
    · rw [← same, clear, Bool.false_and]
    · rw [decide_eq_false same, Bool.and_false]

/-- The fields that do not depend on the protocol. -/
def packetFields (version : Ethertype) : List MatchField :=
  [.reg3, .reg6, .reg7, .ethType, version.srcLabel, version.dstLabel]

/-- What is asked of the registers. -/
def AtPort (fc : Classifier) (packet : ClassifiedPacket) : Prop :=
  (∀ lport, fc.sourcePort = some lport →
    packet.reg6.toNat = lport.uniqueKey ∧ packet.reg3.getLsbD srcBit = false) ∧
  ∀ lport, fc.destPort = some lport →
    packet.reg7.toNat = lport.uniqueKey ∧ packet.reg3.getLsbD dstBit = false

theorem satisfies_register {key : Nat} {field : MatchField} {bit : Nat}
    {register : BitVec 32} (isRead : packet.read field = some (value register))
    (other : field ≠ .reg3) :
    packet.satisfies ((AList.insert field (.exact key) (∅ : Params)).insert .reg3
        (.masked 0 (1 <<< bit))) = true ↔
      register.toNat = key ∧ packet.reg3.getLsbD bit = false := by
  have fresh : MatchField.reg3 ∉ (AList.insert field (.exact key) (∅ : Params)) := by
    intro named
    rcases (AList.mem_insert _).mp named with same | inEmpty
    · exact other same.symm
    · cases inEmpty
  rw [ClassifiedPacket.satisfies_insert fresh,
    ClassifiedPacket.satisfies_insert (AList.notMem_empty field),
    ClassifiedPacket.satisfies_empty, Bool.true_and, isRead, Bool.and_eq_true]
  apply and_congr
  · exact coversField_exact.trans eq_comm
  · exact bit_clear

theorem satisfies_createPortKeyParams (wellFormed : fc.WellFormed) :
    packet.satisfies (createPortKeyParams fc) = true ↔ AtPort fc packet := by
  have onePort := wellFormed.onePort
  unfold createPortKeyParams AtPort
  cases source : fc.sourcePort with
  | none =>
      cases dest : fc.destPort with
      | none =>
          rw [source, dest] at onePort
          exact absurd rfl onePort
      | some lport =>
          apply (satisfies_register rfl (by decide)).trans
          simp
  | some lport =>
      cases dest : fc.destPort with
      | some other =>
          rw [source, dest] at onePort
          exact absurd rfl onePort
      | none =>
          apply (satisfies_register rfl (by decide)).trans
          simp

theorem mem_createPortKeyParams {field : MatchField}
    (named : field ∈ createPortKeyParams fc) : field ∈ [MatchField.reg3, .reg6, .reg7] := by
  unfold createPortKeyParams at named
  cases source : fc.sourcePort <;> cases dest : fc.destPort <;>
    simp only [source, dest, AList.mem_insert, AList.notMem_empty, or_false] at named <;>
    rcases named with rfl | rfl | rfl | rfl <;> decide

/-- What is asked of the ethertype and of the addresses. -/
def FromAndTo (fc : Classifier) (packet : ClassifiedPacket) (version : Ethertype) : Prop :=
  HasValue packet.ethType (some version.ethType) ∧
    IsWithin (packet.source version) fc.sourceCidr ∧
    IsWithin (packet.destination version) fc.destCidr

section Version

variable {version : Ethertype}
  (sourceFamily : ∀ cidr, fc.sourceCidr = some cidr → version.hasNetwork cidr = true)
  (destFamily : ∀ cidr, fc.destCidr = some cidr → version.hasNetwork cidr = true)

include sourceFamily destFamily in
theorem satisfies_createIpParams :
    packet.satisfies (createIpParams fc version.ethType version.srcLabel version.dstLabel) =
      true ↔ FromAndTo fc packet version := by
  have labels : version.srcLabel ≠ .ethType ∧ version.dstLabel ≠ version.srcLabel ∧
      version.dstLabel ≠ .ethType := by
    cases version <;> decide
  unfold createIpParams FromAndTo
  rw [ClassifiedPacket.satisfies_withField, ClassifiedPacket.satisfies_withField,
    ClassifiedPacket.satisfies_singleton, Bool.and_eq_true, Bool.and_eq_true, and_assoc]
  · apply and_congr (coversField_wanted (some version.ethType))
    exact and_congr (Ethertype.covers_source sourceFamily)
      (Ethertype.covers_destination destFamily)
  · intro named
    exact labels.1 (Params.mem_singleton.mp named)
  · intro named
    rcases Params.mem_withField named with same | named
    · exact labels.2.1 same
    · exact labels.2.2 (Params.mem_singleton.mp named)

theorem mem_createIpParams {ethType : Nat} {field srcLabel dstLabel : MatchField}
    (named : field ∈ createIpParams fc ethType srcLabel dstLabel) :
    field ∈ [MatchField.ethType, srcLabel, dstLabel] := by
  rcases Params.mem_withField named with rfl | named
  · simp
  · rcases Params.mem_withField named with rfl | named
    · simp
    · rw [Params.mem_singleton.mp named]
      simp

include sourceFamily destFamily in
/-- The dictionary that the matches start from. -/
theorem describes_addresses (wellFormed : fc.WellFormed) :
    Describes packet (packetFields version)
      [(createPortKeyParams fc).update
        (createIpParams fc version.ethType version.srcLabel version.dstLabel)]
      (AtPort fc packet ∧ FromAndTo fc packet version) := by
  have addressLabels : ∀ field ∈ [MatchField.ethType, version.srcLabel, version.dstLabel],
      field ∉ [MatchField.reg3, .reg6, .reg7] := by
    cases version <;> decide
  apply Describes.single
  · rw [ClassifiedPacket.satisfies_update, Bool.and_eq_true,
      satisfies_createPortKeyParams wellFormed,
      satisfies_createIpParams sourceFamily destFamily]
    intro field inAddresses inRegisters
    exact addressLabels field (mem_createIpParams inAddresses)
      (mem_createPortKeyParams inRegisters)
  · intro field named
    rcases Params.mem_update.mp named with inAddresses | inRegisters
    · exact List.mem_append_right [MatchField.reg3, .reg6, .reg7]
        (mem_createIpParams inAddresses)
    · exact List.mem_append_left [MatchField.ethType, version.srcLabel, version.dstLabel]
        (mem_createPortKeyParams inRegisters)

end Version

/-! ## Ports -/

/-- A port that the packet may have, against the networks of a range. -/
theorem partitions_ports {cidrs : List (Nat × Nat)} {ports : PortRange}
    (parts : PartitionsRange cidrs ports.min ports.max) (small : ports.max ≤ 0xffff)
    {port : Option (BitVec 16)} :
    Partitions (fun wanted => coversField (some wanted) (port.map value))
      (cidrs.map fun cidr => .masked (cidr.1 &&& 0xffff) (cidr.2 &&& 0xffff))
      (IsAmong port (some ports)) := by
  have isCovered : ∀ cidr ∈ cidrs,
      coversField (some (.masked (cidr.1 &&& 0xffff) (cidr.2 &&& 0xffff))) (port.map value) =
        true ↔ ∃ bits, port = some bits ∧ bits.toNat &&& cidr.2 = cidr.1 := by
    intro cidr member
    rw [coversField_map_masked]
    apply exists_congr
    intro bits
    exact and_congr_right fun _ =>
      parts.toCoversRange.port_mem_cidr small member bits
  apply Partitions.map
  apply Partitions.of_cover
  · apply parts.disjoint.imp_of_mem
    intro first second firstMember secondMember apart both
    rcases (isCovered first firstMember).mp both.1 with ⟨bits, isPort, inFirst⟩
    rcases (isCovered second secondMember).mp both.2 with ⟨same, isSame, inSecond⟩
    cases isPort.symm.trans isSame
    have portSmall : bits.toNat < 2 ^ 16 := bits.isLt
    exact apart bits.toNat (by omega) ⟨inFirst, inSecond⟩
  · constructor
    · intro among
      rcases among ports rfl with ⟨bits, isPort, inRange⟩
      have portSmall : bits.toNat < 2 ^ 16 := bits.isLt
      rcases (parts.exact bits.toNat (by omega)).mp inRange with ⟨cidr, member, inCidr⟩
      exact ⟨cidr, member, (isCovered cidr member).mpr ⟨bits, isPort, inCidr⟩⟩
    · intro covered range isRange
      cases isRange
      rcases covered with ⟨cidr, member, inCidr⟩
      rcases (isCovered cidr member).mp inCidr with ⟨bits, isPort, inNetwork⟩
      have portSmall : bits.toNat < 2 ^ 16 := bits.isLt
      exact ⟨bits, isPort, (parts.exact bits.toNat (by omega)).mpr ⟨cidr, member, inNetwork⟩⟩

/-- `netaddr` cuts the range, if there is one. -/
def Cuts (netaddr : Netaddr) (wanted : Option PortRange) : Prop :=
  ∀ ports, wanted = some ports → ports.max ≤ 0xffff ∧ ∃ cidrs,
    netaddr.rangeCidrs (some ports.min) (some ports.max) = .ok cidrs ∧
      PartitionsRange cidrs ports.min ports.max

theorem describes_withPorts {fields : List MatchField} {params : List Params}
    {whole : ClassifiedPacket → Prop}
    (described : ∀ packet, Describes packet fields params (whole packet))
    {label : MatchField} (fresh : label ∉ fields)
    {wanted : Option PortRange} (cuts : Cuts netaddr wanted)
    {port : ClassifiedPacket → Option (BitVec 16)}
    (isRead : ∀ packet, packet.read label = (port packet).map value) :
    ∃ made, withPorts netaddr label params wanted = .ok made ∧
      ∀ packet, Describes packet (fields ++ [label]) made
        (whole packet ∧ IsAmong (port packet) wanted) := by
  cases wanted with
  | none =>
      have anyPort : ∀ packet, IsAmong (port packet) none :=
        fun _ _ impossible => (by cases impossible)
      exact ⟨params, rfl, fun packet =>
        ⟨(described packet).partitions.congr (and_iff_left (anyPort packet)).symm,
          fun listed member field named =>
            List.mem_append_left _ ((described packet).names listed member field named)⟩⟩
  | some ports =>
      rcases cuts ports rfl with ⟨small, cidrs, cut, parts⟩
      have made : withPorts netaddr label params (some ports) =
          .ok (multiplyParams params ((cidrs.map fun cidr =>
            FieldMatch.masked (cidr.1 &&& 0xffff) (cidr.2 &&& 0xffff)).map
              fun wanted => AList.singleton label wanted)) := by
        simp only [withPorts, createPortParams, SGApp.getPortMatchListFromPortRange, cut]
        rfl
      refine ⟨_, made, fun packet => (described packet).multiply ⟨?_, ?_⟩ ?_⟩
      · apply Partitions.map
        have sameHolds : (fun wanted => packet.satisfies (AList.singleton label wanted)) =
            fun wanted => coversField (some wanted) ((port packet).map value) := by
          funext wanted
          rw [ClassifiedPacket.satisfies_singleton, isRead]
        rw [sameHolds]
        exact partitions_ports parts small
      · intro listed member field named
        rcases List.mem_map.mp member with ⟨wanted, _, rfl⟩
        exact List.mem_singleton.mpr (Params.mem_singleton.mp named)
      · intro field isLabel
        rw [List.mem_singleton.mp isLabel]
        exact fresh

/-- What is asked of the protocol and of its ports. -/
def OverProtocol (fc : Classifier) (packet : ClassifiedPacket)
    (protocol : TransportProtocol) : Prop :=
  (HasValue packet.ipProto (some protocol.number) ∧
    IsAmong (packet.sourcePort protocol) fc.sourceTransportPorts) ∧
    IsAmong (packet.destPort protocol) fc.destTransportPorts

end FcApp

namespace TransportProtocol

def srcLabel : TransportProtocol → MatchField
  | .tcp => .tcpSrc
  | .udp => .udpSrc

def dstLabel : TransportProtocol → MatchField
  | .tcp => .tcpDst
  | .udp => .udpDst

theorem read_srcLabel (protocol : TransportProtocol) (packet : ClassifiedPacket) :
    packet.read protocol.srcLabel = (packet.sourcePort protocol).map value := by
  cases protocol <;> rfl

theorem read_dstLabel (protocol : TransportProtocol) (packet : ClassifiedPacket) :
    packet.read protocol.dstLabel = (packet.destPort protocol).map value := by
  cases protocol <;> rfl

end TransportProtocol

namespace FcApp

variable {netaddr : Netaddr} {fc : Classifier}

theorem describes_createL4PortParams (protocol : TransportProtocol)
    (sourceCuts : Cuts netaddr fc.sourceTransportPorts)
    (destCuts : Cuts netaddr fc.destTransportPorts) :
    ∃ made, createL4PortParams netaddr fc protocol.number protocol.srcLabel
        protocol.dstLabel = .ok made ∧
      ∀ packet, Describes packet [.ipProto, protocol.srcLabel, protocol.dstLabel] made
        (OverProtocol fc packet protocol) := by
  have freshSource : protocol.srcLabel ∉ [MatchField.ipProto] := by
    cases protocol <;> decide
  have freshDest : protocol.dstLabel ∉ [MatchField.ipProto, protocol.srcLabel] := by
    cases protocol <;> decide
  have atProtocol : ∀ packet, Describes packet [MatchField.ipProto]
      [AList.singleton .ipProto (.exact protocol.number)]
      (HasValue packet.ipProto (some protocol.number)) := by
    intro packet
    apply Describes.single
    · rw [ClassifiedPacket.satisfies_singleton]
      exact coversField_wanted (some protocol.number)
    · intro field named
      exact List.mem_singleton.mpr (Params.mem_singleton.mp named)
  rcases describes_withPorts atProtocol freshSource sourceCuts protocol.read_srcLabel with
    ⟨fromPorts, madeSource, describedSource⟩
  rcases describes_withPorts describedSource freshDest destCuts protocol.read_dstLabel with
    ⟨toPorts, madeDest, describedDest⟩
  refine ⟨toPorts, ?_, describedDest⟩
  unfold createL4PortParams
  simp only [madeSource]
  exact madeDest

theorem createMatches_of_protocol {version : Ethertype} {protocol : TransportProtocol}
    (isVersion : fc.etherType = some version) (isProtocol : fc.protocol = some protocol) :
    createMatches netaddr fc = do
      let l4Params ← createL4PortParams netaddr fc protocol.number protocol.srcLabel
        protocol.dstLabel
      return multiplyParams [(createPortKeyParams fc).update
        (createIpParams fc version.ethType version.srcLabel version.dstLabel)] l4Params := by
  unfold createMatches
  cases version <;> cases protocol <;> rw [isVersion, isProtocol] <;> rfl

theorem createMatches_of_none {version : Ethertype}
    (isVersion : fc.etherType = some version) (noProtocol : fc.protocol = none) :
    createMatches netaddr fc = .ok [(createPortKeyParams fc).update
      (createIpParams fc version.ethType version.srcLabel version.dstLabel)] := by
  unfold createMatches
  cases version <;> rw [isVersion, noProtocol] <;> rfl

/-! ## The matches of a classifier -/

theorem admits_iff {packet : ClassifiedPacket} {version : Ethertype}
    (isVersion : fc.etherType = some version) :
    fc.Admits packet ↔ (AtPort fc packet ∧ FromAndTo fc packet version) ∧
      ∀ protocol, fc.protocol = some protocol → OverProtocol fc packet protocol := by
  constructor
  · intro admitted
    exact ⟨⟨⟨admitted.source, admitted.dest⟩, admitted.etherType version isVersion,
        admitted.sourceCidr version isVersion, admitted.destCidr version isVersion⟩,
      fun protocol isProtocol => ⟨⟨admitted.protocol protocol isProtocol,
        admitted.sourcePorts protocol isProtocol⟩, admitted.destPorts protocol isProtocol⟩⟩
  · intro meets
    rcases meets with ⟨⟨atPort, etherType, source, destination⟩, overProtocol⟩
    exact
      { source := atPort.1
        dest := atPort.2
        etherType := by
          intro other isOther
          cases isVersion.symm.trans isOther
          exact etherType
        sourceCidr := by
          intro other isOther
          cases isVersion.symm.trans isOther
          exact source
        destCidr := by
          intro other isOther
          cases isVersion.symm.trans isOther
          exact destination
        protocol := fun protocol isProtocol => (overProtocol protocol isProtocol).1.1
        sourcePorts := fun protocol isProtocol => (overProtocol protocol isProtocol).1.2
        destPorts := fun protocol isProtocol => (overProtocol protocol isProtocol).2 }

/-- A packet of the classifier satisfies exactly one match, and no other packet satisfies
any. -/
theorem classifier_matches_partition (wellFormed : fc.WellFormed)
    (cuts : CutsRangesOf netaddr fc) :
    ∃ patterns, createMatches netaddr fc = .ok patterns ∧ ∀ packet : ClassifiedPacket,
      (fc.Admits packet → patterns.countP packet.satisfies = 1) ∧
        (¬ fc.Admits packet → patterns.countP packet.satisfies = 0) := by
  rcases wellFormed.etherType with ⟨version, isVersion, sourceFamily, destFamily⟩
  have addresses : ∀ packet, Describes packet (packetFields version)
      [(createPortKeyParams fc).update
        (createIpParams fc version.ethType version.srcLabel version.dstLabel)]
      (AtPort fc packet ∧ FromAndTo fc packet version) :=
    fun _ => describes_addresses sourceFamily destFamily wellFormed
  cases isProtocol : fc.protocol with
  | none =>
      refine ⟨_, createMatches_of_none isVersion isProtocol, fun packet => ?_⟩
      have same : AtPort fc packet ∧ FromAndTo fc packet version ↔ fc.Admits packet := by
        rw [admits_iff isVersion, isProtocol]
        simp
      have parts := (addresses packet).partitions.congr same
      exact ⟨parts.once, parts.never⟩
  | some protocol =>
      have sourceCuts : Cuts netaddr fc.sourceTransportPorts := fun ports isPorts =>
        ⟨(wellFormed.ranges ports (Or.inl isPorts)).2.2, cuts ports (Or.inl isPorts)⟩
      have destCuts : Cuts netaddr fc.destTransportPorts := fun ports isPorts =>
        ⟨(wellFormed.ranges ports (Or.inr isPorts)).2.2, cuts ports (Or.inr isPorts)⟩
      rcases describes_createL4PortParams protocol sourceCuts destCuts with
        ⟨l4Params, made, described⟩
      have apart : ∀ field ∈ [MatchField.ipProto, protocol.srcLabel, protocol.dstLabel],
          field ∉ packetFields version := by
        cases version <;> cases protocol <;> decide
      refine ⟨_, (createMatches_of_protocol isVersion isProtocol).trans (by rw [made]; rfl),
        fun packet => ?_⟩
      have same : (AtPort fc packet ∧ FromAndTo fc packet version) ∧
          OverProtocol fc packet protocol ↔ fc.Admits packet := by
        rw [admits_iff isVersion, isProtocol]
        simp
      have parts := ((addresses packet).multiply (described packet) apart).partitions.congr same
      exact ⟨parts.once, parts.never⟩

/-! A classifier of the web traffic that a port sends into a network. -/

def webClassifier : Classifier where
  id := "web"
  uniqueKey := 1
  sourcePort := some { id := "client", uniqueKey := 22 }
  etherType := some .ipv4
  protocol := some .tcp
  destCidr := some (.v4 0x0a000000 24)
  destTransportPorts := some ⟨80, 82⟩

theorem webClassifier_wellFormed : webClassifier.WellFormed where
  onePort := by decide
  etherType := by
    refine ⟨.ipv4, rfl, ?_, ?_⟩
    · intro cidr isCidr
      cases isCidr
    · intro cidr isCidr
      cases isCidr
      rfl
  ranges := by
    intro range isRange
    rcases isRange with isSource | isDest
    · cases isSource
    · cases isDest
      decide

theorem partitions_80_82 : PartitionsRange [(80, 0xfffffffe), (82, 0xffffffff)] 80 82 where
  toCoversRange := SGApp.Sample.covers_80_82
  disjoint := by
    apply List.Pairwise.cons
    · intro other member number small both
      rw [List.mem_singleton.mp member] at both
      have whole : number &&& 0xffffffff = number :=
        (Nat.and_two_pow_sub_one_eq_mod _ 32).trans (Nat.mod_eq_of_lt small)
      have isLast : number = 82 := whole.symm.trans both.2
      rw [isLast] at both
      exact absurd both.1 (by decide)
    · exact List.pairwise_singleton _ _

theorem webClassifier_cuts : CutsRangesOf Netaddr.sample webClassifier := by
  intro range isRange
  rcases isRange with isSource | isDest
  · cases isSource
  · cases isDest
    exact ⟨_, rfl, partitions_80_82⟩

theorem classifier_matches_partition_web :
    ∃ patterns, createMatches Netaddr.sample webClassifier = .ok patterns ∧
      ∀ packet : ClassifiedPacket,
        (webClassifier.Admits packet → patterns.countP packet.satisfies = 1) ∧
          (¬ webClassifier.Admits packet → patterns.countP packet.satisfies = 0) :=
  classifier_matches_partition webClassifier_wellFormed webClassifier_cuts

end FcApp

end Dragonflow
