import Dragonflow.Controller.OpenFlow
import Dragonflow.Foundation.Lookup

/-! # Packets

What a switch knows of a packet when it looks it up. A field that needs a header is
there only if the packet has that header; the VLAN is zero if there is no tag.
-/

namespace Dragonflow

structure Packet where
  inPort : BitVec 32 := 0
  metadata : BitVec 64 := 0
  reg2 : BitVec 32 := 0
  reg5 : BitVec 32 := 0
  reg6 : BitVec 32 := 0
  reg7 : BitVec 32 := 0
  ctState : BitVec 32 := 0
  conjId : Option (BitVec 32) := none
  tunnelId : BitVec 64 := 0
  ethSrc : MacAddress
  ethDst : MacAddress
  ethType : Option (BitVec 16) := none
  vlanVid : BitVec 13 := 0
  ipProto : Option (BitVec 8) := none
  ipv4Src : Option (BitVec 32) := none
  ipv4Dst : Option (BitVec 32) := none
  ipv6Src : Option (BitVec 128) := none
  ipv6Dst : Option (BitVec 128) := none
  tcpDst : Option (BitVec 16) := none
  udpSrc : Option (BitVec 16) := none
  udpDst : Option (BitVec 16) := none
  icmpv4Type : Option (BitVec 8) := none
  icmpv4Code : Option (BitVec 8) := none
  icmpv6Type : Option (BitVec 8) := none
  icmpv6Code : Option (BitVec 8) := none
  arpSha : Option MacAddress := none
  arpSpa : Option (BitVec 32) := none
  arpTpa : Option (BitVec 32) := none
  arpOp : Option (BitVec 16) := none
  mplsLabel : Option (BitVec 20) := none
  mplsTc : Option (BitVec 3) := none

namespace Packet

/-- The value of a field, as a match names it. -/
def value {width : Nat} (bits : BitVec width) : FieldMatch := .exact bits.toNat

/-- The match of just this packet. -/
def pattern (packet : Packet) : OFPMatch where
  inPort := some (value packet.inPort)
  metadata := some (value packet.metadata)
  reg2 := some (value packet.reg2)
  reg5 := some (value packet.reg5)
  reg6 := some (value packet.reg6)
  reg7 := some (value packet.reg7)
  ctState := some (value packet.ctState)
  conjId := packet.conjId.map value
  tunnelId := some (value packet.tunnelId)
  ethSrc := some (value packet.ethSrc)
  ethDst := some (value packet.ethDst)
  ethType := packet.ethType.map value
  vlanVid := some (value packet.vlanVid)
  ipProto := packet.ipProto.map value
  ipv4Src := packet.ipv4Src.map value
  ipv4Dst := packet.ipv4Dst.map value
  ipv6Src := packet.ipv6Src.map value
  ipv6Dst := packet.ipv6Dst.map value
  tcpDst := packet.tcpDst.map value
  udpSrc := packet.udpSrc.map value
  udpDst := packet.udpDst.map value
  icmpv4Type := packet.icmpv4Type.map value
  icmpv4Code := packet.icmpv4Code.map value
  icmpv6Type := packet.icmpv6Type.map value
  icmpv6Code := packet.icmpv6Code.map value
  arpSha := packet.arpSha.map value
  arpSpa := packet.arpSpa.map value
  arpTpa := packet.arpTpa.map value
  arpOp := packet.arpOp.map value
  mplsLabel := packet.mplsLabel.map value
  mplsTc := packet.mplsTc.map value

/-- The packet has what the match asks for. -/
def Matches (packet : Packet) (pattern : OFPMatch) : Prop :=
  Pattern.covers pattern packet.pattern = true

instance (packet : Packet) (pattern : OFPMatch) : Decidable (packet.Matches pattern) :=
  inferInstanceAs (Decidable (_ = _))

end Packet

namespace FieldMatch

variable {width : Nat} {wanted mask : Nat} {bits : BitVec width}
  {field : Option (BitVec width)}

@[simp] theorem coversField_none (field : Option FieldMatch) :
    coversField none field = true := rfl

@[simp] theorem coversField_exact :
    coversField (some (.exact wanted)) (some (Packet.value bits)) = true ↔
      wanted = bits.toNat := by
  simp [coversField, covers, Packet.value]

@[simp] theorem coversField_map_exact :
    coversField (some (.exact wanted)) (field.map Packet.value) = true ↔
      ∃ bits, field = some bits ∧ wanted = bits.toNat := by
  cases field with
  | none => simp [coversField]
  | some bits => simp

@[simp] theorem coversField_map_masked :
    coversField (some (.masked wanted mask)) (field.map Packet.value) = true ↔
      ∃ bits, field = some bits ∧ bits.toNat &&& mask = wanted &&& mask := by
  cases field with
  | none => simp [coversField]
  | some bits => simp [coversField, covers, Packet.value]

end FieldMatch

namespace Packet

open FieldMatch

variable {packet : Packet} {pattern : OFPMatch}

theorem Matches.reg6 (found : packet.Matches pattern) :
    coversField pattern.reg6 (some (value packet.reg6)) = true := by
  simp only [Matches, Pattern.covers, Bool.and_eq_true, and_assoc] at found
  exact found.2.2.1

theorem Matches.ethSrc (found : packet.Matches pattern) :
    coversField pattern.ethSrc (some (value packet.ethSrc)) = true := by
  simp only [Matches, Pattern.covers, Bool.and_eq_true, and_assoc] at found
  exact found.2.2.2.2.2.2.1

theorem Matches.ethType (found : packet.Matches pattern) :
    coversField pattern.ethType (packet.ethType.map value) = true := by
  simp only [Matches, Pattern.covers, Bool.and_eq_true, and_assoc] at found
  exact found.2.2.2.2.2.2.2.2.1

/-- A match that names nothing. -/
theorem matches_any : packet.Matches {} := rfl

end Packet

end Dragonflow
