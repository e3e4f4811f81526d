import Dragonflow.Controller.Node
import Dragonflow.Controller.OpenFlow

/-! # Security groups

`dragonflow/controller/apps/sg.py`. A group becomes a conjunction: the ports
that are in the group are its first clause, and each rule adds flows to its
second clause. Rules can name a remote group; for these the application keeps a
book of the addresses that every group has.
-/

namespace Dragonflow

open Program

inductive Ethertype
  | ipv4
  | ipv6
  deriving DecidableEq, Repr

inductive Direction
  | ingress
  | egress
  deriving DecidableEq, Repr

structure SecurityGroupRule where
  id : Id
  direction : Direction
  ethertype : Ethertype
  portRangeMin : Option Nat := none
  portRangeMax : Option Nat := none
  protocol : Option Nat := none
  remoteGroupId : Option Id := none
  remoteIpPrefix : Option IPNetwork := none
  securityGroupId : Option Id := none
  /-- Two versions of a rule are different rules, also if nothing else changed. -/
  version : Option Nat := none
  topic : Option Id := none
  deriving DecidableEq, Repr

structure SecurityGroup where
  id : Id
  uniqueKey : Nat
  rules : List SecurityGroupRule
  deriving DecidableEq, Repr

/-- What the application takes from `netaddr`. -/
structure Netaddr where
  /-- `IPSet.iter_cidrs` -/
  iterCidrs : Finset IPAddress → List IPNetwork
  /-- The networks and netmasks of `IPRange(first, last).cidrs()`. -/
  rangeCidrs : Option Nat → Option Nat → Except PyError (List (Nat × Nat))

/-- `netaddr` on a few inputs. -/
def Netaddr.sample : Netaddr where
  iterCidrs := fun addresses =>
    ([0x0a000001, 0x0a000002].filter fun bits => .v4 bits ∈ addresses).map fun bits =>
      .v4 bits 32
  rangeCidrs := fun first last =>
    if first = some 80 ∧ last = some 82 then .ok [(80, 0xfffffffe), (82, 0xffffffff)]
    else if first = some 82 ∧ last = some 82 then .ok [(82, 0xffffffff)]
    else .error .valueError

/-- `utils.ethertype_to_ip_version` tells the addresses that a rule is about. -/
def Ethertype.hasAddress : Ethertype → IPAddress → Bool
  | .ipv4, .v4 _ => true
  | .ipv6, .v6 _ => true
  | _, _ => false

def Ethertype.hasNetwork : Ethertype → IPNetwork → Bool
  | .ipv4, .v4 _ _ => true
  | .ipv6, .v6 _ _ => true
  | _, _ => false

/-- `ETH_TYPE_IP` and `ETH_TYPE_IPV6` -/
def Ethertype.ethType : Ethertype → Nat
  | .ipv4 => 0x0800
  | .ipv6 => 0x86dd

/-- One call of `delete_conntrack_entries_by_filter`. -/
structure ConntrackFilter where
  ethertype : Ethertype
  protocol : Option Nat
  nwSrc : Option IPAddress
  nwDst : Option IPAddress
  zone : Nat
  deriving DecidableEq, Repr

namespace SGApp

/-! ## State -/

/-- Which addresses a group has, and through which ports. -/
structure AddressBook where
  secgroupAggregateAddresses : Dict Id (Finset IPAddress)
  secgroupIpRefs : Dict (Id × IPAddress) (Finset Id)

structure State where
  secgroupRuleMappings : Dict Id Nat
  nextSecgroupRuleId : Nat
  remoteSecgroupRef : Dict Id (Dict Id SecurityGroupRule)
  secgroupAssociateLocalPorts : Dict Id (List Id)
  book : AddressBook
  flows : Flows
  /-- What was deleted from the connection tracker, oldest first. -/
  conntrack : List ConntrackFilter

def State.initial : State := ⟨∅, 0, ∅, ∅, ⟨∅, ∅⟩, FlowTable.empty, []⟩

/-- The part of `db_store` that the application reads. -/
structure Store where
  secgroups : Id → Option SecurityGroup
  lports : Id → Option LogicalPort
  inventory : Inventory

abbrev Action := Program State PyError Unit

/-- A `defaultdict` that makes empty sets. -/
def readSet {κ μ : Type} [DecidableEq κ] (dict : Dict κ (Finset μ)) (key : κ) :
    Finset μ :=
  (dict.lookup key).getD ∅

/-! ## The address book -/

namespace AddressBook

/-- `_inc_ip_reference_and_check` -/
def incIpReferenceAndCheck (secgroup : Id) (ip : IPAddress) (lport : Id)
    (book : AddressBook) : Bool × AddressBook :=
  let holders := readSet book.secgroupIpRefs (secgroup, ip)
  (decide (holders = ∅),
    { book with
      secgroupIpRefs := book.secgroupIpRefs.insert (secgroup, ip) (insert lport holders) })

/-- `_dec_ip_reference_and_check` -/
def decIpReferenceAndCheck (secgroup : Id) (ip : IPAddress) (lport : Id)
    (book : AddressBook) : Bool × AddressBook :=
  match book.secgroupIpRefs.lookup (secgroup, ip) with
  | none => (false, book)
  | some holders =>
      if lport ∈ holders then
        if holders.erase lport = ∅ then
          (true, { book with
            secgroupIpRefs := book.secgroupIpRefs.erase (secgroup, ip) })
        else
          (false, { book with
            secgroupIpRefs :=
              book.secgroupIpRefs.insert (secgroup, ip) (holders.erase lport) })
      else (false, book)

/-- Walk over addresses and keep those that pass a check, which can write. -/
def filter (check : IPAddress → AddressBook → Bool × AddressBook) :
    List IPAddress → AddressBook → List IPAddress × AddressBook
  | [], book => ([], book)
  | ip :: ips, book =>
      let (passed, book) := check ip book
      let (kept, book) := filter check ips book
      (if passed then ip :: kept else kept, book)

/-- `_get_lport_added_ips_for_secgroup` -/
def getLportAddedIpsForSecgroup (secgroup : Id) (lport : LogicalPort) :
    AddressBook → List IPAddress × AddressBook :=
  filter (fun ip => incIpReferenceAndCheck secgroup ip lport.id) lport.ipList

/-- `_get_lport_removed_ips_for_secgroup` -/
def getLportRemovedIpsForSecgroup (secgroup : Id) (lport : LogicalPort) :
    AddressBook → List IPAddress × AddressBook :=
  filter (fun ip => decIpReferenceAndCheck secgroup ip lport.id) lport.ipList

/-- `_get_lport_updated_ips_for_secgroup` returns what was added and what was
removed. -/
def getLportUpdatedIpsForSecgroup (secgroup : Id) (lport original : LogicalPort)
    (book : AddressBook) : (List IPAddress × List IPAddress) × AddressBook :=
  let (added, book) := filter (fun ip => incIpReferenceAndCheck secgroup ip lport.id)
    (lport.ipList.filter fun ip => ip ∉ original.allIps) book
  let (removed, book) := filter (fun ip => decIpReferenceAndCheck secgroup ip lport.id)
    (original.ipList.filter fun ip => ip ∉ lport.allIps) book
  ((added, removed), book)

def setAddresses (secgroup : Id) (addresses : Finset IPAddress) (book : AddressBook) :
    AddressBook :=
  { book with
    secgroupAggregateAddresses := book.secgroupAggregateAddresses.insert secgroup addresses }

def dropAddresses (secgroup : Id) (book : AddressBook) : AddressBook :=
  { book with
    secgroupAggregateAddresses := book.secgroupAggregateAddresses.erase secgroup }

/-- A group that is left without addresses loses its entry. -/
def setOrDropAddresses (secgroup : Id) (addresses : Finset IPAddress)
    (book : AddressBook) : AddressBook :=
  if addresses = ∅ then book.dropAddresses secgroup
  else book.setAddresses secgroup addresses

end AddressBook

/-- How the addresses of a group changed. -/
structure AddressChange where
  before : Finset IPAddress
  after : Finset IPAddress
  removedIps : List IPAddress

namespace AddressBook

/-- The first half of `_associate_secgroup_lport_addresses`. -/
def associate (secgroup : Id) (lport : LogicalPort) (book : AddressBook) :
    AddressChange × AddressBook :=
  let addresses := readSet book.secgroupAggregateAddresses secgroup
  let (added, book) := book.getLportAddedIpsForSecgroup secgroup lport
  let after := addresses ∪ added.toFinset
  (⟨addresses, after, []⟩, book.setAddresses secgroup after)

/-- The first half of `_disassociate_secgroup_lport_addresses`. A group without
addresses is only given its empty set, which reading it does. -/
def disassociate (secgroup : Id) (lport : LogicalPort) (book : AddressBook) :
    Option AddressChange × AddressBook :=
  let addresses := readSet book.secgroupAggregateAddresses secgroup
  if addresses = ∅ then
    (none, book.setAddresses secgroup addresses)
  else
    let (removed, book) := book.getLportRemovedIpsForSecgroup secgroup lport
    let after := addresses \ removed.toFinset
    (some ⟨addresses, after, removed⟩, book.setOrDropAddresses secgroup after)

/-- The first half of `_update_port_addresses_process`. -/
def update (secgroup : Id) (lport original : LogicalPort) (book : AddressBook) :
    AddressChange × AddressBook :=
  let addresses := readSet book.secgroupAggregateAddresses secgroup
  let ((added, removed), book) :=
    book.getLportUpdatedIpsForSecgroup secgroup lport original
  let after := (addresses ∪ added.toFinset) \ removed.toFinset
  (⟨addresses, after, removed⟩, book.setOrDropAddresses secgroup after)

end AddressBook

/-! ## Flows of a rule -/

def protoNumIcmp : Nat := 1
def protoNumTcp : Nat := 6
def protoNumUdp : Nat := 17

/-- `None` and zero are false. -/
def truthy (value : Option Nat) : Bool := value.getD 0 ≠ 0

/-- The types and codes of ICMP stand in the fields of the port range. -/
def icmpMatch (rule : SecurityGroupRule) (base : OFPMatch) : OFPMatch :=
  let icmpType := if truthy rule.portRangeMin then
    rule.portRangeMin.map FieldMatch.exact else none
  let icmpCode := if truthy rule.portRangeMax then
    rule.portRangeMax.map FieldMatch.exact else none
  match rule.ethertype with
  | .ipv4 => { base with icmpv4Type := icmpType, icmpv4Code := icmpCode }
  | .ipv6 => { base with icmpv6Type := icmpType, icmpv6Code := icmpCode }

/-- Whether the rule names every port. `int(None)` raises. -/
def isFullRange (rule : SecurityGroupRule) : Except PyError Bool :=
  match rule.portRangeMin with
  | none => .error .typeError
  | some first =>
      if first = Const.minPort then
        match rule.portRangeMax with
        | none => .error .typeError
        | some last => .ok (last = Const.maxPort)
      else .ok false

/-- `DEST_FIELD_NAME_BY_PROTOCOL_NUMBER` -/
def withDestination (protocol : Nat) :
    Except PyError (FieldMatch → OFPMatch → OFPMatch) :=
  if protocol = protoNumTcp then .ok fun port base => { base with tcpDst := some port }
  else if protocol = protoNumUdp then
    .ok fun port base => { base with udpDst := some port }
  else .error .keyError

/-- `get_port_match_list_from_port_range` -/
def getPortMatchListFromPortRange (netaddr : Netaddr) (first last : Option Nat) :
    Except PyError (List FieldMatch) := do
  let cidrs ← netaddr.rangeCidrs first last
  pure (cidrs.map fun cidr => .masked (cidr.1 &&& 0xffff) (cidr.2 &&& 0xffff))

/-- `_get_rule_flows_match_except_net_addresses` -/
def getRuleFlowsMatchExceptNetAddresses (netaddr : Netaddr)
    (rule : SecurityGroupRule) : Except PyError (List OFPMatch) :=
  let base : OFPMatch := { ethType := some (.exact rule.ethertype.ethType) }
  let protocol := rule.protocol.getD 0
  if protocol = 0 then
    .ok [base]
  else
    let base := { base with ipProto := some (.exact protocol) }
    if protocol = protoNumIcmp then
      .ok [icmpMatch rule base]
    else if !truthy rule.portRangeMin && !truthy rule.portRangeMax then
      .ok [base]
    else do
      if ← isFullRange rule then
        pure [base]
      else
        let ports ← getPortMatchListFromPortRange netaddr rule.portRangeMin
          rule.portRangeMax
        let destination ← withDestination protocol
        pure (ports.map fun port => destination port base)

/-- `_get_security_rule_by_addresses_match_item` -/
def withAddress (ethertype : Ethertype) (direction : Direction) (cidr : FieldMatch)
    (base : OFPMatch) : OFPMatch :=
  match ethertype, direction with
  | .ipv4, .ingress => { base with ipv4Src := some cidr }
  | .ipv4, .egress => { base with ipv4Dst := some cidr }
  | .ipv6, .ingress => { base with ipv6Src := some cidr }
  | .ipv6, .egress => { base with ipv6Dst := some cidr }

/-- The matches that `_install_flows_from_address_list` makes. The empty address
stands for every address. -/
def matchesOfAddressList (rule : SecurityGroupRule)
    (addresses : List (Option IPNetwork)) (matchList : List OFPMatch) :
    List OFPMatch :=
  (addresses.filter fun address =>
      address.all fun cidr => rule.ethertype.hasNetwork cidr).flatMap fun address =>
    matchList.map fun base =>
      match address with
      | none => base
      | some cidr =>
          withAddress rule.ethertype rule.direction cidr.networkAndMask base

/-- The addresses of the flows of a rule. A remote prefix of the other version
is as good as none. -/
def addressesOf (netaddr : Netaddr) (book : AddressBook) (rule : SecurityGroupRule) :
    List (Option IPNetwork) :=
  match rule.remoteGroupId with
  | some remote =>
      match book.secgroupAggregateAddresses.lookup remote with
      | none => []
      | some addresses =>
          ((netaddr.iterCidrs addresses).filter rule.ethertype.hasNetwork).map some
  | none =>
      match rule.remoteIpPrefix with
      | none => [none]
      | some cidr => if rule.ethertype.hasNetwork cidr then [some cidr] else [none]

def securityGroupTable : Direction → Nat
  | .ingress => Const.ingressSecurityGroupTable
  | .egress => Const.egressSecurityGroupTable

/-- The 32 local bits of a cookie. -/
def ruleCookieMask : Nat := 0xffffffff <<< 32

/-- `_get_rule_cookie`, with `cookies.get_cookie` for the bits that the
application registers. -/
def getRuleCookie (ruleId : Nat) : Except PyError Nat :=
  let cookie := ruleId <<< 32
  if cookie &&& ruleCookieMask = cookie then .ok cookie else .error .cookieOverflow

def modFlow (message : OFPFlowMod) : Action :=
  modify fun state => { state with flows := state.flows.apply message }

/-- `_install_flows_from_address_list`, for the given matches. -/
def installFlowsFromAddressList (command : FlowCommand) (rule : SecurityGroupRule)
    (priority ruleId : Nat) (instructions : List Instruction)
    (patterns : List OFPMatch) : Action :=
  forM patterns fun pattern => do
    let cookie ← Program.ofExcept (getRuleCookie ruleId)
    modFlow
      { command, table := securityGroupTable rule.direction, priority, pattern,
        instructions, cookie, cookieMask := ruleCookieMask }

/-- The second clause of the conjunction of a group. -/
def ruleInstructions (conjId : Nat) : List Instruction :=
  [.applyActions [.conjunction 1 2 conjId]]

/-- `_get_security_rule_mapping` -/
def getSecurityRuleMapping (rule : Id) : Program State PyError Nat := do
  let state ← get
  match state.secgroupRuleMappings.lookup rule with
  | some ruleId => pure ruleId
  | none =>
      let ruleId := state.nextSecgroupRuleId + 1
      set { state with
        nextSecgroupRuleId := ruleId
        secgroupRuleMappings := state.secgroupRuleMappings.insert rule ruleId }
      pure ruleId

def sgPriorityOffset : Nat := 2

/-- `_get_secgroup_conj_id_and_priority` -/
def getSecgroupConjIdAndPriority (store : Store) (secgroup : Id) :
    Except PyError (Nat × Nat) :=
  match store.secgroups secgroup with
  | none => .error .attributeError
  | some found => .ok (found.uniqueKey, sgPriorityOffset + found.uniqueKey)

/-- The negation of `_is_sg_not_associated_with_local_port`. -/
def State.associated (state : State) (secgroup : Id) : Bool :=
  (state.secgroupAssociateLocalPorts.lookup secgroup).isSome

section Flows

variable (netaddr : Netaddr) (store : Store)

/-- `_install_security_group_rule_flows` -/
def installSecurityGroupRuleFlows (secgroup : Id) (rule : SecurityGroupRule) :
    Action := do
  let (conjId, priority) ← Program.ofExcept (getSecgroupConjIdAndPriority store secgroup)
  let ruleId ← getSecurityRuleMapping rule.id
  let matchList ← Program.ofExcept (getRuleFlowsMatchExceptNetAddresses netaddr rule)
  let state ← get
  installFlowsFromAddressList .add rule priority ruleId (ruleInstructions conjId)
    (matchesOfAddressList rule (addressesOf netaddr state.book rule) matchList)

/-- `_uninstall_security_group_rule_flows` -/
def uninstallSecurityGroupRuleFlows (rule : SecurityGroupRule) : Action := do
  let ruleId ← getSecurityRuleMapping rule.id
  let cookie ← Program.ofExcept (getRuleCookie ruleId)
  modFlow
    { command := .delete, table := securityGroupTable rule.direction, priority := 0xff,
      pattern := {}, cookie, cookieMask := ruleCookieMask }

/-- `_get_cidr_difference` -/
def getCidrDifference (change : AddressChange) : List IPNetwork × List IPNetwork :=
  let before := netaddr.iterCidrs change.before
  let after := netaddr.iterCidrs change.after
  (after.filter fun cidr => cidr ∉ before, before.filter fun cidr => cidr ∉ after)

/-- `_update_security_group_rule_flows_by_addresses` -/
def updateSecurityGroupRuleFlowsByAddresses (secgroup : Id) (rule : SecurityGroupRule)
    (added removed : List IPNetwork) : Action := do
  let state ← get
  if state.associated secgroup then do
    let (conjId, priority) ←
      Program.ofExcept (getSecgroupConjIdAndPriority store secgroup)
    let ruleId ← getSecurityRuleMapping rule.id
    let matchList ← Program.ofExcept (getRuleFlowsMatchExceptNetAddresses netaddr rule)
    installFlowsFromAddressList .add rule priority ruleId (ruleInstructions conjId)
      (matchesOfAddressList rule (added.map some) matchList)
    installFlowsFromAddressList .deleteStrict rule priority ruleId []
      (matchesOfAddressList rule (removed.map some) matchList)
  else
    pure ()

end Flows

/-! ## Connection tracking -/

/-- `port_info` -/
structure PortInfo where
  removedIps : List IPAddress
  zoneId : Nat

/-- `_delete_conntrack_entries_process`. Without remote addresses the entries
of every remote address are deleted. -/
def conntrackFilters (info : PortInfo) (rule : SecurityGroupRule)
    (remoteAddresses : List IPAddress) : List ConntrackFilter :=
  (info.removedIps.filter rule.ethertype.hasAddress).flatMap fun ip =>
    let protocol := if truthy rule.protocol then rule.protocol else none
    let toFilter (remote : Option IPAddress) : ConntrackFilter :=
      match rule.direction with
      | .ingress => ⟨rule.ethertype, protocol, remote, some ip, info.zoneId⟩
      | .egress => ⟨rule.ethertype, protocol, some ip, remote, info.zoneId⟩
    if remoteAddresses = [] then [toFilter none]
    else remoteAddresses.map fun remote => toFilter (some remote)

def deleteConntrackEntriesProcess (rule : SecurityGroupRule)
    (remoteAddresses : List IPAddress) (infos : List PortInfo) : Action :=
  modify fun state =>
    { state with
      conntrack := state.conntrack ++
        infos.flatMap fun info => conntrackFilters info rule remoteAddresses }

section Conntrack

variable (store : Store)

/-- What is read of a port, where `removedIps` left the port. -/
def portInfo (lport : LogicalPort) (removedIps : List IPAddress) :
    Except PyError PortInfo := do
  let lswitch ← store.inventory.lswitch lport
  pure ⟨removedIps, lswitch.uniqueKey⟩

def storedPortInfo (id : Id) : Except PyError PortInfo :=
  match store.lports id with
  | none => .error .attributeError
  | some lport => portInfo store lport lport.ipList

/-- The ports that are associated with the group of a rule. Walking over `None`
raises. -/
def associatingPortsInfo (ports : Dict Id (List Id)) (rule : SecurityGroupRule) :
    Except PyError (List PortInfo) :=
  match rule.securityGroupId.bind ports.lookup with
  | none => .error .typeError
  | some ids => ids.mapM (storedPortInfo store)

/-- `_delete_conntrack_entries_by_rule` without `filter_port_info`. -/
def deleteConntrackEntriesByRule (rule : SecurityGroupRule)
    (remoteAddresses : List IPAddress) : Action := do
  let state ← get
  let infos ← Program.ofExcept
    (associatingPortsInfo store state.secgroupAssociateLocalPorts rule)
  deleteConntrackEntriesProcess rule remoteAddresses infos

/-- The addresses that a port lost, or all of them if it is gone. -/
def removedIps (lport : LogicalPort) : Option LogicalPort → List IPAddress
  | none => lport.ipList
  | some original => original.ipList.filter fun ip => ip ∉ lport.allIps

/-- `_delete_conntrack_entries_by_local_port_info` -/
def deleteConntrackEntriesByLocalPortInfo (lport : LogicalPort)
    (original : Option LogicalPort) (secgroup : Id) : Action := do
  let info ← Program.ofExcept (portInfo store lport (removedIps lport original))
  match store.secgroups secgroup with
  | none => pure ()
  | some found => forM found.rules fun rule => deleteConntrackEntriesProcess rule [] [info]

end Conntrack

section Rules

variable (netaddr : Netaddr) (store : Store)

/-! ## Adding and removing rules -/

def rememberRemoteRule (rule : SecurityGroupRule) : Action := do
  let state ← get
  match rule.remoteGroupId with
  | none => pure ()
  | some remote =>
      let rules := (state.remoteSecgroupRef.lookup remote).getD ∅
      set { state with
        remoteSecgroupRef :=
          state.remoteSecgroupRef.insert remote (rules.insert rule.id rule) }

def forgetRemoteRule (rule : SecurityGroupRule) : Action := do
  let state ← get
  match rule.remoteGroupId with
  | none => pure ()
  | some remote =>
      match state.remoteSecgroupRef.lookup remote with
      | none => pure ()
      | some rules =>
          match rules.lookup rule.id with
          | none => throw .keyError
          | some _ =>
              if (rules.erase rule.id).entries = [] then
                set { state with
                  remoteSecgroupRef := state.remoteSecgroupRef.erase remote }
              else
                set { state with
                  remoteSecgroupRef :=
                    state.remoteSecgroupRef.insert remote (rules.erase rule.id) }

/-- `add_security_group_rule` -/
def addSecurityGroupRule (secgroup : Id) (rule : SecurityGroupRule) : Action := do
  let state ← get
  if state.associated secgroup then do
    rememberRemoteRule rule
    installSecurityGroupRuleFlows netaddr store secgroup rule
  else
    pure ()

/-- `remove_security_group_rule` -/
def removeSecurityGroupRule (secgroup : Id) (rule : SecurityGroupRule) : Action := do
  let state ← get
  if state.associated secgroup then do
    let _ ← Program.ofExcept (getSecgroupConjIdAndPriority store secgroup)
    forgetRemoteRule rule
    uninstallSecurityGroupRuleFlows rule
    deleteConntrackEntriesByRule store rule []
  else
    pure ()

/-- The two loops of `update_security_group`. Rules that are in the old version too are
skipped, and what is left of the old version is removed. -/
def updateRules (newId oldId : Id) :
    List SecurityGroupRule → List SecurityGroupRule → Action
  | [], oldRules => forM oldRules (removeSecurityGroupRule store oldId)
  | newRule :: newRules, oldRules =>
      if newRule ∈ oldRules then updateRules newId oldId newRules (oldRules.erase newRule)
      else do
        addSecurityGroupRule netaddr store newId newRule
        updateRules newId oldId newRules oldRules

/-- `update_security_group` -/
def updateSecurityGroup (newSecgroup oldSecgroup : SecurityGroup) : Action :=
  updateRules netaddr store newSecgroup.id oldSecgroup.id newSecgroup.rules
    oldSecgroup.rules

/-! ## Flows of a group -/

/-- `_install_ipv4_ipv6_rules` -/
def installIpv4Ipv6Rules (message : OFPFlowMod) : Action :=
  forM [Ethertype.ipv4, Ethertype.ipv6] fun version =>
    modFlow { message with
      pattern := { message.pattern with ethType := some (.exact version.ethType) } }

def recircTable : Direction → Nat
  | .ingress => Const.ingressDispatchTable
  | .egress => Const.servicesClassificationTable

/-- `_install_security_group_permit_flow_by_direction` -/
def installSecurityGroupPermitFlowByDirection (secgroup : Id) (direction : Direction) :
    Action := do
  let state ← get
  if state.associated secgroup then do
    let (conjId, priority) ←
      Program.ofExcept (getSecgroupConjIdAndPriority store secgroup)
    installIpv4Ipv6Rules
      { table := securityGroupTable direction, priority,
        pattern := { conjId := some (.exact conjId) },
        instructions := [.applyActions
          [.connectionTrack Const.ctFlagCommit (recircTable direction) 15
            Const.ctZoneReg]] }
  else
    pure ()

/-- `_uninstall_security_group_permit_flow_by_direction` -/
def uninstallSecurityGroupPermitFlowByDirection (secgroup : Id)
    (direction : Direction) : Action := do
  let state ← get
  if state.associated secgroup then do
    let (conjId, _) ← Program.ofExcept (getSecgroupConjIdAndPriority store secgroup)
    installIpv4Ipv6Rules
      { command := .delete, table := securityGroupTable direction, priority := 0xff,
        pattern := { conjId := some (.exact conjId) } }
  else
    pure ()

/-- `_install_security_group_flows` -/
def installSecurityGroupFlows (secgroup : Id) : Action := do
  installSecurityGroupPermitFlowByDirection store secgroup .ingress
  installSecurityGroupPermitFlowByDirection store secgroup .egress
  match store.secgroups secgroup with
  | none => pure ()
  | some found => forM found.rules (addSecurityGroupRule netaddr store secgroup)

/-- `_uninstall_security_group_flow` -/
def uninstallSecurityGroupFlow (secgroup : Id) : Action := do
  uninstallSecurityGroupPermitFlowByDirection store secgroup .ingress
  uninstallSecurityGroupPermitFlowByDirection store secgroup .egress
  match store.secgroups secgroup with
  | none => pure ()
  | some found => forM found.rules (removeSecurityGroupRule store secgroup)

/-! ## Flows of a port -/

def lportClassifyMatch (direction : Direction) (lport : LogicalPort) : OFPMatch :=
  match direction with
  | .ingress => { reg7 := some (.exact lport.uniqueKey) }
  | .egress => { reg6 := some (.exact lport.uniqueKey) }

def sgCtStateMask : Nat :=
  Const.ctStateNew ||| Const.ctStateEst ||| Const.ctStateRel ||| Const.ctStateInv |||
    Const.ctStateTrk

/-- New connections of a port. -/
def associatingMatch (direction : Direction) (lport : LogicalPort) : OFPMatch :=
  { lportClassifyMatch direction lport with
    ctState := some (.masked (Const.ctStateTrk ||| Const.ctStateNew) sgCtStateMask) }

/-- `_install_associating_flow_by_direction` -/
def installAssociatingFlowByDirection (secgroup : Id) (lport : LogicalPort)
    (direction : Direction) : Action := do
  let state ← get
  if state.associated secgroup then do
    let (conjId, priority) ←
      Program.ofExcept (getSecgroupConjIdAndPriority store secgroup)
    modFlow
      { table := securityGroupTable direction, priority,
        pattern := associatingMatch direction lport,
        instructions := [.applyActions [.conjunction 0 2 conjId]] }
  else
    pure ()

/-- `_uninstall_associating_flow_by_direction` -/
def uninstallAssociatingFlowByDirection (secgroup : Id) (lport : LogicalPort)
    (direction : Direction) : Action := do
  let state ← get
  if state.associated secgroup then do
    let (_, priority) ← Program.ofExcept (getSecgroupConjIdAndPriority store secgroup)
    modFlow
      { command := .deleteStrict, table := securityGroupTable direction, priority,
        pattern := associatingMatch direction lport }
  else
    pure ()

/-- `_install_associating_flows` -/
def installAssociatingFlows (secgroup : Id) (lport : LogicalPort) : Action := do
  installAssociatingFlowByDirection store secgroup lport .ingress
  installAssociatingFlowByDirection store secgroup lport .egress

/-- `_uninstall_associating_flows` -/
def uninstallAssociatingFlows (secgroup : Id) (lport : LogicalPort) : Action := do
  uninstallAssociatingFlowByDirection store secgroup lport .ingress
  uninstallAssociatingFlowByDirection store secgroup lport .egress

def conntrackTable : Direction → Nat
  | .ingress => Const.ingressConntrackTable
  | .egress => Const.egressConntrackTable

/-- `_install_connection_track_flow_by_direction` -/
def installConnectionTrackFlowByDirection (lport : LogicalPort)
    (direction : Direction) : Action :=
  installIpv4Ipv6Rules
    { table := conntrackTable direction, priority := Const.priorityMedium,
      pattern := lportClassifyMatch direction lport,
      instructions := [.applyActions
        [.connectionTrack 0 (securityGroupTable direction) 15 Const.metadataReg]] }

/-- `_uninstall_connection_track_flow_by_direction` -/
def uninstallConnectionTrackFlowByDirection (lport : LogicalPort)
    (direction : Direction) : Action :=
  installIpv4Ipv6Rules
    { command := .delete, table := conntrackTable direction, priority := 0xff,
      pattern := lportClassifyMatch direction lport }

/-- `_install_connection_track_flows` -/
def installConnectionTrackFlows (lport : LogicalPort) : Action := do
  installConnectionTrackFlowByDirection lport .ingress
  installConnectionTrackFlowByDirection lport .egress

/-- `_uninstall_connection_track_flows` -/
def uninstallConnectionTrackFlows (lport : LogicalPort) : Action := do
  uninstallConnectionTrackFlowByDirection lport .ingress
  uninstallConnectionTrackFlowByDirection lport .egress

/-! ## Addresses of a port -/

/-- The rules that name a group as their remote group. -/
def rulesAbout (state : State) (secgroup : Id) : List SecurityGroupRule :=
  match state.remoteSecgroupRef.lookup secgroup with
  | none => []
  | some rules => rules.entries.map Sigma.snd

/-- Update the flows of a rule about a group. The group of a rule is what the
rule says it is. -/
def updateFlowsOf (change : AddressChange) (rule : SecurityGroupRule) : Action :=
  match rule.securityGroupId with
  | none => pure ()
  | some secgroup =>
      let (added, removed) := getCidrDifference netaddr change
      updateSecurityGroupRuleFlowsByAddresses netaddr store secgroup rule added removed

/-- The second half of `_disassociate_secgroup_lport_addresses` and of
`_update_port_addresses_process`. -/
def updateFlowsAndConntrack (secgroup : Id) (change : AddressChange) : Action := do
  let state ← get
  forM (rulesAbout state secgroup) fun rule => do
    updateFlowsOf netaddr store change rule
    deleteConntrackEntriesByRule store rule change.removedIps

def setBook (book : AddressBook) : Action := modify fun state => { state with book }

/-- `_associate_secgroup_lport_addresses` -/
def associateSecgroupLportAddresses (secgroup : Id) (lport : LogicalPort) :
    Action := do
  let state ← get
  let (change, book) := state.book.associate secgroup lport
  setBook book
  forM (rulesAbout state secgroup) (updateFlowsOf netaddr store change)

/-- `_disassociate_secgroup_lport_addresses` -/
def disassociateSecgroupLportAddresses (secgroup : Id) (lport : LogicalPort) :
    Action := do
  let state ← get
  let (change, book) := state.book.disassociate secgroup lport
  setBook book
  match change with
  | none => pure ()
  | some change => updateFlowsAndConntrack netaddr store secgroup change

/-- `_update_port_addresses_process` -/
def updatePortAddressesProcess (lport original : LogicalPort) (secgroup : Id) :
    Action := do
  let state ← get
  let (change, book) := state.book.update secgroup lport original
  setBook book
  updateFlowsAndConntrack netaddr store secgroup change

/-! ## Ports in a group -/

/-- The middle of `_add_local_port_associating`. -/
def recordAssociatedPort (lport : LogicalPort) (secgroup : Id) : Action := do
  let state ← get
  match state.secgroupAssociateLocalPorts.lookup secgroup with
  | none => do
      set { state with
        secgroupAssociateLocalPorts :=
          state.secgroupAssociateLocalPorts.insert secgroup [lport.id] }
      installSecurityGroupFlows netaddr store secgroup
  | some ports =>
      if lport.id ∈ ports then
        pure ()
      else
        set { state with
          secgroupAssociateLocalPorts :=
            state.secgroupAssociateLocalPorts.insert secgroup (ports ++ [lport.id]) }

/-- `_add_local_port_associating` -/
def addLocalPortAssociating (lport : LogicalPort) (secgroup : Id) : Action := do
  associateSecgroupLportAddresses netaddr store secgroup lport
  recordAssociatedPort netaddr store lport secgroup
  installAssociatingFlows store secgroup lport

/-- The end of `_remove_local_port_associating`. -/
def removeAssociatedPort (lport : LogicalPort) (secgroup : Id) : Action := do
  let state ← get
  match state.secgroupAssociateLocalPorts.lookup secgroup with
  | none => pure ()
  | some ports =>
      if lport.id ∈ ports then do
        let rest := ports.erase lport.id
        set { state with
          secgroupAssociateLocalPorts :=
            state.secgroupAssociateLocalPorts.insert secgroup rest }
        deleteConntrackEntriesByLocalPortInfo store lport none secgroup
        if rest = [] then do
          uninstallSecurityGroupFlow store secgroup
          modify fun state =>
            { state with
              secgroupAssociateLocalPorts :=
                state.secgroupAssociateLocalPorts.erase secgroup }
        else
          pure ()
      else
        pure ()

/-- `_remove_local_port_associating` -/
def removeLocalPortAssociating (lport : LogicalPort) (secgroup : Id) : Action := do
  uninstallAssociatingFlows store secgroup lport
  disassociateSecgroupLportAddresses netaddr store secgroup lport
  removeAssociatedPort store lport secgroup

/-- `_add_remote_port_associating` -/
def addRemotePortAssociating (lport : LogicalPort) (secgroup : Id) : Action :=
  associateSecgroupLportAddresses netaddr store secgroup lport

/-- `_remove_remote_port_associating` -/
def removeRemotePortAssociating (lport : LogicalPort) (secgroup : Id) : Action :=
  disassociateSecgroupLportAddresses netaddr store secgroup lport

/-- The groups that a port joins, leaves and stays in. -/
structure SecgroupChange where
  added : List Id
  removed : List Id
  unchanged : List Id

/-- `_get_added_and_removed_and_unchanged_secgroups` -/
def getAddedAndRemovedAndUnchangedSecgroups (secgroups original : List Id) :
    SecgroupChange :=
  secgroups.foldl (fun change item =>
      if item ∈ change.removed then
        { change with
          removed := change.removed.erase item
          unchanged := change.unchanged ++ [item] }
      else { change with added := change.added ++ [item] })
    ⟨[], original, []⟩

/-! ## Events of a port -/

/-- `_add_local_port` -/
def addLocalPort (lport : LogicalPort) : Action :=
  if lport.securityGroups = [] then
    pure ()
  else do
    forM lport.securityGroups (addLocalPortAssociating netaddr store lport)
    installConnectionTrackFlows lport

/-- `_remove_local_port` -/
def removeLocalPort (lport : LogicalPort) : Action :=
  if lport.securityGroups = [] then
    pure ()
  else do
    uninstallConnectionTrackFlows lport
    forM lport.securityGroups (removeLocalPortAssociating netaddr store lport)

/-- `_add_remote_port` -/
def addRemotePort (lport : LogicalPort) : Action :=
  forM lport.securityGroups (addRemotePortAssociating netaddr store lport)

/-- `_remove_remote_port` -/
def removeRemotePort (lport : LogicalPort) : Action :=
  forM lport.securityGroups (removeRemotePortAssociating netaddr store lport)

/-- The connection tracking of a port that gets its first group. -/
def startTracking (lport original : LogicalPort) : Action :=
  if lport.securityGroups ≠ [] ∧ original.securityGroups = [] then
    installConnectionTrackFlows lport
  else pure ()

/-- The connection tracking of a port that loses its last group. -/
def stopTracking (lport original : LogicalPort) : Action :=
  if lport.securityGroups = [] ∧ original.securityGroups ≠ [] then
    uninstallConnectionTrackFlows lport
  else pure ()

/-- `update_local_port` -/
def updateLocalPort (lport original : LogicalPort) : Action := do
  let change := getAddedAndRemovedAndUnchangedSecgroups lport.securityGroups
    original.securityGroups
  stopTracking lport original
  forM change.added (addLocalPortAssociating netaddr store lport)
  forM change.removed (removeLocalPortAssociating netaddr store original)
  forM change.unchanged fun secgroup => do
    updatePortAddressesProcess netaddr store lport original secgroup
    deleteConntrackEntriesByLocalPortInfo store lport (some original) secgroup
  startTracking lport original

/-- `_update_remote_port` -/
def updateRemotePort (lport original : LogicalPort) : Action := do
  let change := getAddedAndRemovedAndUnchangedSecgroups lport.securityGroups
    original.securityGroups
  forM change.added (addRemotePortAssociating netaddr store lport)
  -- The groups are left with the addresses that the port has now.
  forM change.removed (removeRemotePortAssociating netaddr store lport)
  forM change.unchanged (updatePortAddressesProcess netaddr store lport original)

/-- What the application registers for the events of a port. -/
def portEvent : PortEvent → LogicalPort → Action
  | .bind .here, lport => addLocalPort netaddr store lport
  | .bind .elsewhere, lport => addRemotePort netaddr store lport
  | .unbind .here, lport => removeLocalPort netaddr store lport
  | .unbind .elsewhere, lport => removeRemotePort netaddr store lport
  | .updated .here original, lport => updateLocalPort netaddr store lport original
  | .updated .elsewhere original, lport => updateRemotePort netaddr store lport original

end Rules

end SGApp

end Dragonflow
