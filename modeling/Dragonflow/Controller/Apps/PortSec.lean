import Dragonflow.Controller.OpenFlow
import Dragonflow.Foundation.FlowSet
import Dragonflow.Foundation.Program

/-! # Port security

`dragonflow/controller/apps/portsec.py`: a local port can only send from its own
addresses and from the allowed address pairs. A port without port security can
send anything.
-/

namespace Dragonflow

open Program

/-- `bool(ip)`: the addresses `0.0.0.0` and `::` are false. -/
def IPAddress.Specified : IPAddress → Prop
  | .v4 bits => bits ≠ 0
  | .v6 bits => bits ≠ 0

instance : (ip : IPAddress) → Decidable ip.Specified
  | .v4 bits => inferInstanceAs (Decidable (bits ≠ 0))
  | .v6 bits => inferInstanceAs (Decidable (bits ≠ 0))

/-- The instructions of `add_flow_go_to_table`. -/
def goToTable (table target : Nat) : List Instruction :=
  if table < target then [.gotoTable target]
  else [.applyActions [.resubmitTable target]]

namespace PortSecApp

/-- The tables that `states` and `exitpoints` name. -/
structure Tables where
  main : Nat
  default : Nat
  services : Nat

abbrev Action (β : Type) := Program Flows PyError β

def modFlow (message : OFPFlowMod) : Action Unit :=
  modify fun flows => flows.apply message

variable (tables : Tables)

/-- `add_flow_go_to_table` from the main table. -/
def addFlowGoToTable (priority target : Nat) (pattern : OFPMatch) : Action Unit :=
  modFlow {
    table := tables.main
    priority
    pattern
    instructions := goToTable tables.main target }

/-- `_remove_one_port_security_flow` -/
def removeOnePortSecurityFlow (priority : Nat) (pattern : OFPMatch) : Action Unit :=
  modFlow {
    command := .deleteStrict
    table := tables.main
    priority
    pattern }

/-- `_add_flow_drop` -/
def addFlowDrop (priority : Nat) (pattern : OFPMatch) : Action Unit :=
  modFlow { table := tables.main, priority, pattern }

/-- `initialize` -/
def initializeApp : Action Unit := do
  addFlowDrop tables Const.priorityMedium { ethType := some (.exact Const.ethTypeIp) }
  addFlowDrop tables Const.priorityMedium { ethType := some (.exact Const.ethTypeIpv6) }
  addFlowDrop tables Const.priorityMedium { ethType := some (.exact Const.ethTypeArp) }
  addFlowDrop tables Const.priorityVeryLow {}

/-! ## What a port may send -/

/-- `_get_allow_ip_mac_pairs` -/
def getAllowIpMacPairs (lport : LogicalPort) : List AddressPair :=
  (match lport.mac with
    | none => []
    | some fixedMac => lport.ips.map fun fixedIp => ⟨fixedIp, fixedMac⟩) ++
      lport.allowedAddressPairs

/-- `_get_allow_macs`. The union with the addresses of the pairs is not kept. -/
def getAllowMacs (lport : LogicalPort) : List MacAddress :=
  lport.mac.toList

/-- `_subtract_lists` -/
def subtractLists {α : Type} [DecidableEq α] (first second : List α) :
    List α × List α :=
  (first.filter (· ∉ second), second.filter (· ∉ first))

/-! ## Matches -/

def fromMac (uniqueKey : Nat) (mac : MacAddress) : OFPMatch where
  reg6 := some (.exact uniqueKey)
  ethSrc := some (.exact mac.toNat)

/-- `_get_ip_match_obj` -/
def getIpMatchObj (uniqueKey : Nat) (mac : MacAddress) (ip : IPAddress) : OFPMatch :=
  if ip.Specified then
    match ip with
    | .v4 bits =>
        { fromMac uniqueKey mac with
          ethType := some (.exact Const.ethTypeIp)
          ipv4Src := some (.exact bits.toNat) }
    | .v6 bits =>
        { fromMac uniqueKey mac with
          ethType := some (.exact Const.ethTypeIpv6)
          ipv6Src := some (.exact bits.toNat) }
  else
    { fromMac uniqueKey mac with ethType := some (.exact Const.ethTypeIp) }

/-- `_get_arp_match_obj` -/
def getArpMatchObj (uniqueKey : Nat) (mac : MacAddress) (ip : BitVec 32)
    (arpOp : Option Nat) : OFPMatch :=
  { fromMac uniqueKey mac with
    ethType := some (.exact Const.ethTypeArp)
    arpSpa := some (.exact ip.toNat)
    arpSha := some (.exact mac.toNat)
    arpOp := arpOp.map .exact }

/-- `_get_nd_match_object`. Without an address, or with `::`, any source matches. -/
def getNdMatchObject (uniqueKey : Nat) (mac : MacAddress) (ip : BitVec 128) : OFPMatch :=
  { fromMac uniqueKey mac with
    ethType := some (.exact Const.ethTypeIpv6)
    ipProto := some (.exact 58)
    ipv6Src := if ip = 0 then none else some (.exact ip.toNat) }

/-- The match of address resolution by the rightful owner of an address. -/
def resolutionMatch (uniqueKey : Nat) (mac : MacAddress) : IPAddress → OFPMatch
  | .v4 bits => getArpMatchObj uniqueKey mac bits none
  | .v6 bits => getNdMatchObject uniqueKey mac bits

def dhcpMatch (uniqueKey : Nat) (vmMac : MacAddress) (client server : Nat) : OFPMatch :=
  { fromMac uniqueKey vmMac with
    ethType := some (.exact Const.ethTypeIp)
    ipProto := some (.exact 17)
    udpSrc := some (.exact client)
    udpDst := some (.exact server) }

def dhcpv6Match (uniqueKey : Nat) (vmMac : MacAddress) (client server : Nat) : OFPMatch :=
  { fromMac uniqueKey vmMac with
    ethDst := some (.exact 0xffffffffffff)
    ethType := some (.exact Const.ethTypeIpv6)
    ipProto := some (.exact 17)
    udpSrc := some (.exact client)
    udpDst := some (.exact server) }

def arpProbeMatch (uniqueKey : Nat) (vmMac : MacAddress) : OFPMatch :=
  getArpMatchObj uniqueKey vmMac 0 (some 1)

def anyMacMatch (uniqueKey : Nat) : OFPMatch where
  reg6 := some (.exact uniqueKey)

/-! ## Families of flows -/

/-- `_install_flows_check_valid_ip_and_mac` -/
def installFlowsCheckValidIpAndMac (uniqueKey : Nat) (pair : AddressPair) :
    Action Unit := do
  addFlowGoToTable tables Const.priorityHigh tables.default
    (getIpMatchObj uniqueKey pair.macAddress pair.ipAddress)
  addFlowGoToTable tables Const.priorityHigh tables.services
    (resolutionMatch uniqueKey pair.macAddress pair.ipAddress)

/-- `_uninstall_flows_check_valid_ip_and_mac` -/
def uninstallFlowsCheckValidIpAndMac (uniqueKey : Nat) (pair : AddressPair) :
    Action Unit := do
  removeOnePortSecurityFlow tables Const.priorityHigh
    (getIpMatchObj uniqueKey pair.macAddress pair.ipAddress)
  removeOnePortSecurityFlow tables Const.priorityHigh
    (resolutionMatch uniqueKey pair.macAddress pair.ipAddress)

/-- `_install_flows_check_valid_mac` -/
def installFlowsCheckValidMac (uniqueKey : Nat) (mac : MacAddress) : Action Unit :=
  addFlowGoToTable tables Const.priorityLow tables.services (fromMac uniqueKey mac)

/-- `_uninstall_flows_check_valid_mac` -/
def uninstallFlowsCheckValidMac (uniqueKey : Nat) (mac : MacAddress) : Action Unit :=
  removeOnePortSecurityFlow tables Const.priorityLow (fromMac uniqueKey mac)

/-- `_install_flows_check_only_vm_mac`. There is no match for a port without an
address. -/
def installFlowsCheckOnlyVmMac (uniqueKey : Nat) :
    Option MacAddress → Action Unit
  | none => throw .typeError
  | some vmMac => do
      addFlowGoToTable tables Const.priorityHigh tables.default
        (dhcpMatch uniqueKey vmMac 68 67)
      addFlowGoToTable tables Const.priorityHigh tables.default
        (dhcpv6Match uniqueKey vmMac 546 547)
      addFlowGoToTable tables Const.priorityHigh tables.services
        (arpProbeMatch uniqueKey vmMac)
      addFlowGoToTable tables Const.priorityHigh tables.services
        (getNdMatchObject uniqueKey vmMac 0)

/-- `_uninstall_flows_check_only_vm_mac`. The ports of the second match are those
of DHCP for IPv4. -/
def uninstallFlowsCheckOnlyVmMac (uniqueKey : Nat) :
    Option MacAddress → Action Unit
  | none => throw .typeError
  | some vmMac => do
      removeOnePortSecurityFlow tables Const.priorityHigh
        (dhcpMatch uniqueKey vmMac 68 67)
      removeOnePortSecurityFlow tables Const.priorityHigh
        (dhcpv6Match uniqueKey vmMac 68 67)
      removeOnePortSecurityFlow tables Const.priorityHigh
        (arpProbeMatch uniqueKey vmMac)
      removeOnePortSecurityFlow tables Const.priorityHigh
        (getNdMatchObject uniqueKey vmMac 0)

/-! ## Port security on and off -/

/-- `_install_port_security_flows` -/
def installPortSecurityFlows (lport : LogicalPort) : Action Unit := do
  forM (getAllowIpMacPairs lport) (installFlowsCheckValidIpAndMac tables lport.uniqueKey)
  forM (getAllowMacs lport) (installFlowsCheckValidMac tables lport.uniqueKey)
  installFlowsCheckOnlyVmMac tables lport.uniqueKey lport.mac

/-- `_uninstall_port_security_flows` -/
def uninstallPortSecurityFlows (lport : LogicalPort) : Action Unit := do
  forM (getAllowIpMacPairs lport)
    (uninstallFlowsCheckValidIpAndMac tables lport.uniqueKey)
  forM (getAllowMacs lport) (uninstallFlowsCheckValidMac tables lport.uniqueKey)
  uninstallFlowsCheckOnlyVmMac tables lport.uniqueKey lport.mac

/-- The end of `_update_port_security_flows`. -/
def updateVmMac (uniqueKey : Nat) (newVmMac oldVmMac : Option MacAddress) :
    Action Unit :=
  if newVmMac ≠ oldVmMac then do
    installFlowsCheckOnlyVmMac tables uniqueKey newVmMac
    uninstallFlowsCheckOnlyVmMac tables uniqueKey oldVmMac
  else
    pure ()

/-- `_update_port_security_flows` -/
def updatePortSecurityFlows (lport original : LogicalPort) : Action Unit := do
  let pairs := subtractLists (getAllowIpMacPairs lport) (getAllowIpMacPairs original)
  forM pairs.1 (installFlowsCheckValidIpAndMac tables lport.uniqueKey)
  forM pairs.2 (uninstallFlowsCheckValidIpAndMac tables lport.uniqueKey)
  let macs := subtractLists (getAllowMacs lport) (getAllowMacs original)
  forM macs.1 (installFlowsCheckValidMac tables lport.uniqueKey)
  forM macs.2 (uninstallFlowsCheckValidMac tables lport.uniqueKey)
  updateVmMac tables lport.uniqueKey lport.mac original.mac

/-- `_install_disable_flow` -/
def installDisableFlow (lport : LogicalPort) : Action Unit :=
  addFlowGoToTable tables Const.priorityHigh tables.default (anyMacMatch lport.uniqueKey)

/-- `_uninstall_disable_flow` -/
def uninstallDisableFlow (lport : LogicalPort) : Action Unit :=
  removeOnePortSecurityFlow tables Const.priorityHigh (anyMacMatch lport.uniqueKey)

/-! ## Port events -/

def Enabled (lport : LogicalPort) : Prop := lport.portSecurityEnabled = some true

instance (lport : LogicalPort) : Decidable (Enabled lport) :=
  inferInstanceAs (Decidable (_ = _))

/-- `_add_local_port` -/
def addLocalPort (lport : LogicalPort) : Action Unit :=
  if Enabled lport then installPortSecurityFlows tables lport
  else installDisableFlow tables lport

/-- `_update_local_port` -/
def updateLocalPort (lport original : LogicalPort) : Action Unit :=
  if Enabled lport then
    if Enabled original then
      updatePortSecurityFlows tables lport original
    else do
      installPortSecurityFlows tables lport
      uninstallDisableFlow tables original
  else if Enabled original then do
    installDisableFlow tables lport
    uninstallPortSecurityFlows tables original
  else
    pure ()

/-- `_remove_local_port` -/
def removeLocalPort (lport : LogicalPort) : Action Unit :=
  if Enabled lport then uninstallPortSecurityFlows tables lport
  else uninstallDisableFlow tables lport

/-- The flows that a handler leaves behind. What it raises is logged. -/
def after (handler : Action Unit) (flows : Flows) : Flows :=
  (exec handler flows).2

/-- The updates of a bound port to one version after the other. -/
def updates : LogicalPort → List LogicalPort → Flows → Flows
  | _, [], flows => flows
  | original, lport :: lports, flows =>
      updates lport lports (after (updateLocalPort tables lport original) flows)

/-- The version that a port is left in. -/
def lastVersion : LogicalPort → List LogicalPort → LogicalPort
  | original, [] => original
  | _, lport :: lports => lastVersion lport lports

end PortSecApp

end Dragonflow
