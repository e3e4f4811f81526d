import Dragonflow.Db.ModelFramework
import Mathlib.Data.Finset.Basic

/-! # Ports, switches and chassis

The fields of `l2.LogicalPort`, `l2.LogicalSwitch` and `core.Chassis` that the
applications read. References are kept as ids.
-/

namespace Dragonflow

/-- `netaddr.IPAddress` -/
inductive IPAddress
  | v4 (bits : BitVec 32)
  | v6 (bits : BitVec 128)
  deriving DecidableEq, Repr

/-! The lengths of prefixes are written as numerals. -/

instance ipv4Length_neZero : @NeZero Nat Zero.ofOfNat0 33 := ⟨by decide⟩

instance ipv6Length_neZero : @NeZero Nat Zero.ofOfNat0 129 := ⟨by decide⟩

/-- `netaddr.IPNetwork`. The address can have host bits. -/
inductive IPNetwork
  | v4 (address : BitVec 32) (length : Fin 33)
  | v6 (address : BitVec 128) (length : Fin 129)
  deriving DecidableEq, Repr

/-- `netaddr.EUI` -/
abbrev MacAddress := BitVec 48

structure Chassis where
  id : Id
  ip : IPAddress
  deriving DecidableEq, Repr

/-- Where something is, seen from one chassis. -/
inductive Locality
  | here
  | elsewhere
  deriving DecidableEq, Repr

/-- `l2.PortBinding`. A binding of the type `chassis` always names its chassis. -/
inductive PortBinding
  | chassis (chassis : Id)
  | vtep (vtepAddress : Option IPAddress)
  deriving DecidableEq, Repr

namespace PortBinding

/-- The property `ip`. The chassis is a reference into the store. -/
def ip (chassis : Id → Option Chassis) :
    PortBinding → Except PyError (Option IPAddress)
  | .chassis id =>
      match chassis id with
      | none => .error .referencedObjectNotFound
      | some found => .ok (some found.ip)
  | .vtep address => .ok address

/-- The property `is_local`, where `host` is `cfg.CONF.host`. -/
def isLocal (host : Id) : PortBinding → Bool
  | .chassis id => id = host
  | .vtep _ => false

def locality (host : Id) (binding : PortBinding) : Locality :=
  if binding.isLocal host then .here else .elsewhere

end PortBinding

structure LogicalSwitch where
  id : Id
  uniqueKey : Nat
  networkType : Option String
  segmentationId : Option Nat
  deriving DecidableEq, Repr

structure AddressPair where
  ipAddress : IPAddress
  macAddress : MacAddress
  deriving DecidableEq, Repr

structure LogicalPort where
  id : Id
  topic : String := ""
  uniqueKey : Nat := 0
  enabled : Option Bool := none
  binding : Option PortBinding := none
  lswitch : Option Id := none
  macs : List MacAddress := []
  ips : List IPAddress := []
  allowedAddressPairs : List AddressPair := []
  securityGroups : List Id := []
  deviceOwner : Option String := none
  portSecurityEnabled : Option Bool := none
  deviceId : Option Id := none
  /-- A reference into the store. -/
  qosPolicy : Option Id := none
  deriving DecidableEq, Repr

namespace LogicalPort

/-- The property `ip`. -/
def ip (lport : LogicalPort) : Option IPAddress := lport.ips.head?

/-- The property `mac`. -/
def mac (lport : LogicalPort) : Option MacAddress := lport.macs.head?

/-- The property `all_ips`. -/
def allIps (lport : LogicalPort) : Finset IPAddress :=
  (lport.ips ++ lport.allowedAddressPairs.map AddressPair.ipAddress).toFinset

/-- The addresses of `all_ips` in the order in which they are walked. -/
def ipList (lport : LogicalPort) : List IPAddress :=
  (lport.ips ++ lport.allowedAddressPairs.map AddressPair.ipAddress).dedup

theorem mem_ipList {lport : LogicalPort} {ip : IPAddress} :
    ip ∈ lport.ipList ↔ ip ∈ lport.allIps := by
  rw [ipList, allIps, List.mem_dedup, List.mem_toFinset]

theorem nodup_ipList (lport : LogicalPort) : lport.ipList.Nodup :=
  List.nodup_dedup _

/-- The port is not disabled. A port whose `enabled` was never set is not. -/
def Up (lport : LogicalPort) : Prop := lport.enabled ≠ some false

instance (lport : LogicalPort) : Decidable lport.Up :=
  inferInstanceAs (Decidable (lport.enabled ≠ some false))

/-- As what a port has to be bound on a host where its binding is not
overridden. -/
def boundAs (host : Id) (lport : LogicalPort) : Option Locality :=
  if lport.Up then lport.binding.map (PortBinding.locality host) else none

end LogicalPort

/-- The objects of the store that the references of a port lead to. -/
structure Inventory where
  chassis : Id → Option Chassis
  lswitches : Id → Option LogicalSwitch

/-- Read the switch of a port. -/
def Inventory.lswitch (inventory : Inventory) (lport : LogicalPort) :
    Except PyError LogicalSwitch :=
  match lport.lswitch with
  | none => .error .attributeError
  | some id =>
      match inventory.lswitches id with
      | none => .error .referencedObjectNotFound
      | some lswitch => .ok lswitch

end Dragonflow
