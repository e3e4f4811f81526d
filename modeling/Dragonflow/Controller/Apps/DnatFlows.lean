import Dragonflow.Controller.Apps.Dnat
import Dragonflow.Foundation.FlowSet

/-! # The flows of an associated floating ip

Seven kinds of flows are built from what the proxies of a floating ip lead to. Of the
fixed port they depend on a few values only, and each of them has a place of its own.
-/

namespace Dragonflow

open Program

namespace DNATApp

/-- A floating ip and its port, which stay the same, on a network with IPv4. -/
structure Setting where
  config : Config
  id : Id
  address : BitVec 32
  floating : LogicalPort
  mac : MacAddress
  ip : BitVec 32
  network : LogicalSwitch
  subnet : Subnet
  hasMac : floating.mac = some mac
  hasIp : floating.ip = some (.v4 ip)
  onNetwork : ∃ lswitch, floating.lswitch = some lswitch ∧
    config.lswitches lswitch = some network ∧
    (config.subnets.filter fun subnet => subnet.lswitch = lswitch).find?
      (fun subnet => subnet.cidr.contains (.v4 address)) = some subnet

/-- What the flows contain of the fixed port and of the router. -/
structure Translation where
  portKey : Nat
  lswitchKey : Nat
  routerKey : Nat
  gatewayMac : MacAddress
  mac : MacAddress
  bits : BitVec 32
  deriving DecidableEq, Repr

namespace Setting

variable (setting : Setting)

/-- A version of the floating ip. -/
structure IsVersion (floatingip : FloatingIp) : Prop where
  sameId : floatingip.id = setting.id
  sameAddress : floatingip.floatingIpAddress = .v4 setting.address
  samePort : floatingip.floatingLport = setting.floating.id
  notItself : floatingip.lport ≠ some setting.floating.id

instance (floatingip : FloatingIp) : Decidable (setting.IsVersion floatingip) :=
  decidable_of_iff
    (floatingip.id = setting.id ∧ floatingip.floatingIpAddress = .v4 setting.address ∧
      floatingip.floatingLport = setting.floating.id ∧
      floatingip.lport ≠ some setting.floating.id)
    ⟨fun all => ⟨all.1, all.2.1, all.2.2.1, all.2.2.2⟩,
      fun is => ⟨is.sameId, is.sameAddress, is.samePort, is.notItself⟩⟩

/-- The MAC of the router on the network of a port, or that of the floating port. -/
def gatewayMac (lrouter : LogicalRouter) (lport : LogicalPort) : MacAddress :=
  ((lrouter.ports.find? fun routerPort => some routerPort.lswitch = lport.lswitch).map
    LogicalRouterPort.mac).getD setting.mac

def translation (floatingip : FloatingIp) (lport : LogicalPort) :
    Except PyError Translation := do
  let lrouter ← routerOf setting.config floatingip
  let lswitch ← switchOf setting.config lport
  let mac ← macOf lport
  let bits ← ipv4Of lport.ip
  return {
    portKey := lport.uniqueKey
    lswitchKey := lswitch.uniqueKey
    routerKey := lrouter.uniqueKey
    gatewayMac := setting.gatewayMac lrouter lport
    mac
    bits }

/-! ## Messages -/

def arpPattern : OFPMatch := L2App.arpMatch setting.network.uniqueKey setting.ip

def detectorPattern : OFPMatch where
  ethType := some (.exact Const.ethTypeIp)
  ipv4Src := some (.exact setting.address.toNat)
  reg6 := some (.exact 0)

def ingressPattern : OFPMatch where
  reg7 := some (.exact setting.floating.uniqueKey)

def ingressIpPattern : OFPMatch :=
  { setting.ingressPattern with ethType := some (.exact Const.ethTypeIp) }

def ingressIcmpPattern (icmpType : Nat) : OFPMatch :=
  { setting.ingressPattern with
    ethType := some (.exact Const.ethTypeIp)
    ipProto := some (.exact 1)
    icmpv4Type := some (.exact icmpType) }

def ingressActions (translation : Translation) : List FlowAction :=
  [.decNwTtl, .setField (.ethSrc (some translation.gatewayMac)),
    .setField (.ethDst (some translation.mac)),
    .setField (.ipv4Dst (some (.v4 translation.bits))),
    .setField (.reg7 translation.portKey), .setField (.metadata translation.lswitchKey)]

def egressPattern (translation : Translation) : OFPMatch where
  metadata := some (.exact translation.lswitchKey)
  reg6 := some (.exact translation.portKey)
  reg5 := some (.exact translation.routerKey)
  ethType := some (.exact Const.ethTypeIp)
  ipv4Src := some (.exact translation.bits.toNat)

def egressIcmpPattern (translation : Translation) (icmpType : Nat) : OFPMatch :=
  { egressPattern translation with
    ipProto := some (.exact 1)
    icmpv4Type := some (.exact icmpType) }

def egressActions : List FlowAction :=
  [.decNwTtl, .setField (.ethSrc (some setting.mac)), .setField (.ethDst (some emptyMac)),
    .setField (.ipv4Src (.v4 setting.address)),
    .setField (.metadata setting.network.uniqueKey),
    .setField (.reg6 setting.floating.uniqueKey)]

/-- The messages that install the ingress flows. -/
def ingressInstalls (translation : Translation) : List OFPFlowMod :=
  [{ table := Const.l2LookupTable
     priority := Const.priorityHigh
     pattern := setting.arpPattern
     instructions := [
       .applyActions [.setField (.arpOp 2), .regMove "arp_sha" "arp_tha" 48,
         .regMove "arp_spa" "arp_tpa" 32, .regMove "eth_src" "eth_dst" 48,
         .setField (.ethSrc (some setting.mac)), .setField (.arpSha (some setting.mac)),
         .setField (.arpSpa (.v4 setting.ip)), .regMove "reg6" "reg7" 32,
         .setField (.reg6 setting.floating.uniqueKey)],
       .gotoTable Const.egressTable] },
   { table := Const.externalIngressDetectSourceTable
     priority := Const.priorityHigh
     pattern := setting.detectorPattern
     instructions := [.applyActions [.setField (.reg6 translation.portKey)],
       .gotoTable Const.l2LookupTable] },
   { table := Const.egressTable
     priority := Const.priorityHigh
     pattern := setting.ingressPattern
     instructions := [.gotoTable Const.ingressDnatTable] },
   { table := Const.ingressDnatTable
     priority := Const.priorityMedium
     pattern := setting.ingressIpPattern
     instructions := [.applyActions
       (ingressActions translation ++ [.resubmitTable Const.l2LookupTable])] }] ++
  icmpTypes.map fun icmpType =>
   { table := Const.ingressDnatTable
     priority := Const.priorityHigh
     pattern := setting.ingressIcmpPattern icmpType
     instructions := [.applyActions
       (ingressActions translation ++ [.output L3ProactiveApp.controllerPort])] }

/-- The messages that install the egress flows. -/
def egressInstalls (translation : Translation) : List OFPFlowMod :=
  [{ table := Const.l3LookupTable
     priority := Const.priorityMediumLow
     pattern := egressPattern translation
     instructions := [.gotoTable Const.egressDnatTable] },
   { table := Const.egressDnatTable
     priority := Const.priorityMedium
     pattern := egressPattern translation
     instructions := [.applyActions
       (setting.egressActions ++ [.resubmitTable Const.l2LookupTable])] }] ++
  icmpTypes.map fun icmpType =>
   { table := Const.egressDnatTable
     priority := Const.priorityHigh
     pattern := egressIcmpPattern translation icmpType
     instructions := [.applyActions
       (setting.egressActions ++ [.output L3ProactiveApp.controllerPort])] }

def installs (translation : Translation) : List OFPFlowMod :=
  setting.ingressInstalls translation ++ setting.egressInstalls translation

/-- The messages that remove the ingress flows. -/
def ingressRemovals : List OFPFlowMod :=
  [{ command := .deleteStrict
     table := Const.l2LookupTable
     priority := Const.priorityHigh
     pattern := setting.arpPattern },
   { command := .deleteStrict
     table := Const.egressTable
     priority := Const.priorityHigh
     pattern := setting.ingressPattern },
   { command := .deleteStrict
     table := Const.ingressDnatTable
     priority := Const.priorityMedium
     pattern := setting.ingressIpPattern }] ++
  (icmpTypes.map fun icmpType =>
   { command := .deleteStrict
     table := Const.ingressDnatTable
     priority := Const.priorityHigh
     pattern := setting.ingressIcmpPattern icmpType }) ++
  [{ command := .deleteStrict
     table := Const.externalIngressDetectSourceTable
     priority := Const.priorityHigh
     pattern := setting.detectorPattern }]

/-- The messages that remove the egress flows. -/
def egressRemovals (translation : Translation) : List OFPFlowMod :=
  [{ command := .deleteStrict
     table := Const.l3LookupTable
     priority := Const.priorityMediumLow
     pattern := egressPattern translation },
   { command := .deleteStrict
     table := Const.egressDnatTable
     priority := Const.priorityMedium
     pattern := egressPattern translation }] ++
  icmpTypes.map fun icmpType =>
   { command := .deleteStrict
     table := Const.egressDnatTable
     priority := Const.priorityHigh
     pattern := egressIcmpPattern translation icmpType }

def removals (translation : Translation) : List OFPFlowMod :=
  setting.ingressRemovals ++ egressRemovals translation

/-! ## What is built -/

variable {setting} {lports : Dict Id LogicalPort} {floatingip : FloatingIp}
  {lport : LogicalPort} {translated : Translation}

theorem floatingPort_eq (is : setting.IsVersion floatingip)
    (stored : lports.lookup setting.floating.id = some setting.floating) :
    floatingPort lports floatingip = .ok setting.floating := by
  unfold floatingPort dereference
  rw [is.samePort]
  dsimp only
  rw [stored]

theorem switchOf_floating : switchOf setting.config setting.floating = .ok setting.network := by
  rcases setting.onNetwork with ⟨lswitch, isSwitch, isNetwork, _⟩
  unfold switchOf dereference
  rw [isSwitch]
  dsimp only
  rw [isNetwork]

theorem macOf_floating : macOf setting.floating = .ok setting.mac := by
  unfold macOf
  rw [setting.hasMac]

theorem ipv4Of_v4 (bits : BitVec 32) : ipv4Of (some (.v4 bits)) = .ok bits := rfl

theorem ipv4Of_floating : ipv4Of setting.floating.ip = .ok setting.ip := by
  rw [setting.hasIp]
  rfl

theorem isIPv4_of_contains {cidr : IPNetwork} {bits : BitVec 32}
    (contains : cidr.contains (.v4 bits) = true) : isIPv4 cidr = true := by
  cases cidr with
  | v4 address length => rfl
  | v6 address length => cases contains

theorem getExternalCidr_eq (is : setting.IsVersion floatingip)
    (stored : lports.lookup setting.floating.id = some setting.floating) :
    getExternalCidr setting.config lports floatingip = .ok setting.subnet.cidr := by
  rcases setting.onNetwork with ⟨lswitch, isSwitch, _, isSubnet⟩
  unfold getExternalCidr getExternalSubnet
  rw [floatingPort_eq is stored]
  simp only [bind, Except.bind]
  rw [isSwitch]
  dsimp only
  rw [is.sameAddress, isSubnet]
  rfl

theorem isIPv4_subnet : isIPv4 setting.subnet.cidr = true := by
  rcases setting.onNetwork with ⟨_, _, _, isSubnet⟩
  have contains := List.find?_some isSubnet
  exact isIPv4_of_contains contains

/-- What a translation says about the objects that it was read from. -/
theorem translation_eq_ok :
    setting.translation floatingip lport = .ok translated ↔
      ∃ lrouter lswitch mac bits, routerOf setting.config floatingip = .ok lrouter ∧
        switchOf setting.config lport = .ok lswitch ∧ macOf lport = .ok mac ∧
        ipv4Of lport.ip = .ok bits ∧
        translated = ⟨lport.uniqueKey, lswitch.uniqueKey, lrouter.uniqueKey,
          setting.gatewayMac lrouter lport, mac, bits⟩ := by
  unfold translation
  cases routerOf setting.config floatingip with
  | error error => simp [bind, Except.bind]
  | ok lrouter =>
      cases switchOf setting.config lport with
      | error error => simp [bind, Except.bind]
      | ok lswitch =>
          cases macOf lport with
          | error error => simp [bind, Except.bind]
          | ok mac =>
              cases ipv4Of lport.ip with
              | error error => simp [bind, Except.bind]
              | ok bits => simp [bind, Except.bind, pure, Except.pure, eq_comm]

/-- The translation depends on few values of the port. -/
theorem translation_congr {other : LogicalPort} (sameKey : other.uniqueKey = lport.uniqueKey)
    (sameIp : other.ip = lport.ip) (sameMac : other.mac = lport.mac)
    (sameSwitch : other.lswitch = lport.lswitch) :
    setting.translation floatingip other = setting.translation floatingip lport := by
  unfold translation switchOf macOf gatewayMac
  rw [sameKey, sameIp, sameMac, sameSwitch]

theorem translation_congr_router {other : FloatingIp}
    (sameRouter : other.lrouter = floatingip.lrouter) :
    setting.translation other lport = setting.translation floatingip lport := by
  unfold translation routerOf
  rw [sameRouter]

theorem getVmGatewayMac_eq {lrouter : LogicalRouter} {portId lswitch : Id}
    (isRouter : routerOf setting.config floatingip = .ok lrouter)
    (associated : floatingip.lport = some portId)
    (stored : lports.lookup portId = some lport) (isSwitch : lport.lswitch = some lswitch) :
    getVmGatewayMac setting.config lports floatingip =
      .ok ((lrouter.ports.find? fun routerPort =>
        some routerPort.lswitch = lport.lswitch).map LogicalRouterPort.mac) := by
  unfold getVmGatewayMac fixedPort dereference
  rw [isRouter, associated]
  dsimp only [bind, Except.bind]
  rw [stored, isSwitch]
  by_cases noPorts : lrouter.ports = []
  · rw [if_pos noPorts, noPorts]
    rfl
  · rw [if_neg noPorts]
    dsimp only
    rw [isSwitch]
    simp [pure, Except.pure]

section Built

variable {portId : Id} (is : setting.IsVersion floatingip)
  (floatingStored : lports.lookup setting.floating.id = some setting.floating)
  (associated : floatingip.lport = some portId) (stored : lports.lookup portId = some lport)
  (isTranslated : setting.translation floatingip lport = .ok translated)

include associated stored in
theorem fixedPort_eq : fixedPort lports floatingip = .ok lport := by
  unfold fixedPort dereference
  rw [associated]
  dsimp only
  rw [stored]

include is floatingStored associated stored isTranslated

theorem getIngressNatActions_eq :
    getIngressNatActions setting.config lports floatingip =
      .ok (ingressActions translated) := by
  rcases translation_eq_ok.mp isTranslated with
    ⟨lrouter, lswitch, mac, bits, isRouter, isSwitch, isMac, isIp, same⟩
  have hasSwitch : ∃ id, lport.lswitch = some id := by
    unfold switchOf dereference at isSwitch
    cases isId : lport.lswitch with
    | none =>
        rw [isId] at isSwitch
        cases isSwitch
    | some id => exact ⟨id, rfl⟩
  rcases hasSwitch with ⟨id, hasSwitch⟩
  unfold getIngressNatActions
  rw [getVmGatewayMac_eq isRouter associated stored hasSwitch,
    fixedPort_eq associated stored, floatingPort_eq is floatingStored]
  subst same
  unfold ingressActions gatewayMac
  cases (lrouter.ports.find? fun routerPort =>
      some routerPort.lswitch = lport.lswitch).map LogicalRouterPort.mac with
  | none =>
      simp only [bind, Except.bind, pure, Except.pure, macOf_floating, isMac, isIp, isSwitch,
        Option.getD_none]
  | some gatewayMac =>
      simp only [bind, Except.bind, pure, Except.pure, isMac, isIp, isSwitch,
        Option.getD_some]

theorem ingressNatFlows_eq :
    ingressNatFlows setting.config lports floatingip =
      (setting.ingressInstalls translated).map .ok := by
  rcases translation_eq_ok.mp isTranslated with
    ⟨lrouter, lswitch, mac, bits, isRouter, isSwitch, isMac, isIp, same⟩
  have isKey : translated.portKey = lport.uniqueKey := by rw [same]
  simp only [ingressNatFlows, arpResponderFlow, sourcePortDetector, ingressCaptureFlow,
    ingressTranslateFlow, ingressIcmpFlow, getSourcePortDetectorMatch,
    getIngressTranslateMatch, getIngressIcmpFlowMatch, getDnatIngressMatch,
    getIngressNatActions_eq is floatingStored associated stored isTranslated,
    floatingPort_eq is floatingStored, fixedPort_eq associated stored, switchOf_floating,
    macOf_floating, ipv4Of_floating, is.sameAddress, ipv4Of_v4, bind, Except.bind, pure,
    Except.pure, icmpTypes, List.map_cons, List.map_nil, List.cons_append, List.nil_append,
    ingressInstalls, isKey]
  rfl

omit is floatingStored in
theorem getDnatEgressMatch_eq :
    getDnatEgressMatch setting.config lports floatingip = .ok (egressPattern translated) := by
  rcases translation_eq_ok.mp isTranslated with
    ⟨lrouter, lswitch, mac, bits, isRouter, isSwitch, isMac, isIp, same⟩
  unfold getDnatEgressMatch
  rw [fixedPort_eq associated stored]
  simp only [bind, Except.bind, pure, Except.pure, isSwitch, isRouter, isIp, same,
    egressPattern]

theorem egressNatRules_eq :
    egressNatRules setting.config lports floatingip =
      (setting.egressInstalls translated).map .ok := by
  simp only [egressNatRules, egressCaptureFlow, egressTranslateFlow, egressIcmpFlow,
    getEgressIcmpFlowMatch, getEgressNatActions,
    getDnatEgressMatch_eq associated stored isTranslated,
    floatingPort_eq is floatingStored, switchOf_floating, macOf_floating, is.sameAddress,
    ipv4Of_v4, bind, Except.bind, pure, Except.pure, icmpTypes, List.map_cons, List.map_nil,
    List.cons_append, List.nil_append, egressInstalls]
  rfl

omit is floatingStored in
theorem egressNatRemovals_eq :
    egressNatRemovals setting.config lports floatingip =
      (egressRemovals translated).map .ok := by
  simp only [egressNatRemovals, egressCaptureRemoval, egressTranslateRemoval,
    egressIcmpRemoval, getEgressIcmpFlowMatch,
    getDnatEgressMatch_eq associated stored isTranslated, bind,
    Except.bind, pure, Except.pure, icmpTypes, List.map_cons, List.map_nil, List.cons_append,
    List.nil_append, egressRemovals]
  rfl

omit associated stored isTranslated in
theorem ingressNatRemovals_eq :
    ingressNatRemovals setting.config lports floatingip =
      setting.ingressRemovals.map .ok := by
  simp only [ingressNatRemovals, arpResponderRemoval, ingressCaptureRemoval,
    ingressTranslateRemoval, ingressIcmpRemoval, sourcePortDetectorRemoval,
    getSourcePortDetectorMatch, getIngressTranslateMatch, getIngressIcmpFlowMatch,
    getDnatIngressMatch, floatingPort_eq is floatingStored, switchOf_floating,
    ipv4Of_floating, is.sameAddress, ipv4Of_v4, bind, Except.bind, pure, Except.pure,
    icmpTypes, List.map_cons, List.map_nil, List.cons_append, List.nil_append,
    ingressRemovals]
  rfl

end Built

/-! ## Places -/

theorem installs_add : ∀ message ∈ setting.installs translated, message.command = .add := by
  intro message member
  simp only [installs, ingressInstalls, egressInstalls, icmpTypes, List.map_cons,
    List.map_nil, List.cons_append, List.nil_append, List.mem_cons, List.not_mem_nil,
    or_false] at member
  rcases member with
    same | same | same | same | same | same | same | same | same | same <;> rw [same]

/-- The flows are told apart by their tables, priorities and ICMP types. -/
def spot (message : OFPFlowMod) : Nat × Nat × Option FieldMatch :=
  (message.table, message.priority, message.pattern.icmpv4Type)

theorem spots_nodup (translated : Translation) :
    ((setting.installs translated).map spot).Nodup := by
  have isList : (setting.installs translated).map spot =
      [(Const.l2LookupTable, Const.priorityHigh, none),
        (Const.externalIngressDetectSourceTable, Const.priorityHigh, none),
        (Const.egressTable, Const.priorityHigh, none),
        (Const.ingressDnatTable, Const.priorityMedium, none),
        (Const.ingressDnatTable, Const.priorityHigh, some (.exact 3)),
        (Const.ingressDnatTable, Const.priorityHigh, some (.exact 11)),
        (Const.l3LookupTable, Const.priorityMediumLow, none),
        (Const.egressDnatTable, Const.priorityMedium, none),
        (Const.egressDnatTable, Const.priorityHigh, some (.exact 3)),
        (Const.egressDnatTable, Const.priorityHigh, some (.exact 11))] := rfl
  rw [isList]
  decide

theorem installs_agree : ∀ message ∈ setting.installs translated,
    ∀ other ∈ setting.installs translated,
      message.Places other.flow → other.flow = message.flow := by
  intro message member other isOther places
  have sameSpot : spot other = spot message := by
    rcases places with ⟨table, priority, pattern⟩
    unfold spot
    have table : other.table = message.table := table
    have priority : other.priority = message.priority := priority
    have pattern : other.pattern = message.pattern := pattern
    rw [table, priority, pattern]
  rw [List.inj_on_of_nodup_map (spots_nodup translated) isOther member sameSpot]

theorem removals_delete : ∀ message ∈ setting.removals translated,
    message.command = .deleteStrict ∧ message.cookieMask = 0 ∧
      Pattern.covers message.pattern message.pattern = true := by
  intro message member
  simp only [removals, ingressRemovals, egressRemovals, icmpTypes, List.map_cons,
    List.map_nil, List.cons_append, List.nil_append, List.mem_cons, List.not_mem_nil,
    or_false] at member
  refine ⟨?_, ?_, OFPMatch.covers_self _⟩ <;>
    rcases member with
      same | same | same | same | same | same | same | same | same | same <;> rw [same]

/-- The detector comes second when it is installed, and after the other ingress flows when
it is removed. -/
theorem places_perm (translated : Translation) :
    ((setting.installs translated).map FlowMod.place).Perm
      ((setting.removals translated).map FlowMod.place) := by
  apply List.Perm.cons
  exact (List.perm_middle : List.Perm
    ([(Const.egressTable, Const.priorityHigh, setting.ingressPattern),
      (Const.ingressDnatTable, Const.priorityMedium, setting.ingressIpPattern),
      (Const.ingressDnatTable, Const.priorityHigh, setting.ingressIcmpPattern 3),
      (Const.ingressDnatTable, Const.priorityHigh, setting.ingressIcmpPattern 11)] ++
      (Const.externalIngressDetectSourceTable, Const.priorityHigh,
        setting.detectorPattern) ::
      (egressRemovals translated).map FlowMod.place) _).symm

/-- Every flow that is installed is also removed. -/
theorem removed_of_installed : ∀ message ∈ setting.installs translated,
    ∃ removal ∈ setting.removals translated, removal.place = message.place := by
  intro message member
  have found := (places_perm translated).subset (List.mem_map_of_mem member)
  rcases List.mem_map.mp found with ⟨removal, isRemoval, same⟩
  exact ⟨removal, isRemoval, same⟩

variable {flows : Flows}

/-- Installing into a table without flows of the application. -/
theorem has_installed (empty : ∀ flow, ¬ flows.Has flow) (flow : Flow OFPMatch Instruction) :
    (flows.applyAll (setting.installs translated)).Has flow ↔
      ∃ message ∈ setting.installs translated, flow = message.flow := by
  rw [FlowTable.has_applyAll_add _ installs_add installs_agree]
  constructor
  · intro either
    rcases either with installed | ⟨had, _⟩
    · exact installed
    · exact absurd had (empty flow)
  · exact Or.inl

/-- Removing what was installed. -/
theorem not_has_removed
    (held : ∀ flow, flows.Has flow ↔
      ∃ message ∈ setting.installs translated, flow = message.flow)
    (flow : Flow OFPMatch Instruction) :
    ¬ (flows.applyAll (setting.removals translated)).Has flow := by
  rw [FlowTable.has_applyAll_deleteStrict _ removals_delete]
  intro remains
  rcases remains with ⟨had, apart⟩
  rcases (held flow).mp had with ⟨message, member, isFlow⟩
  rcases removed_of_installed message member with ⟨removal, isRemoval, same⟩
  apply apart removal isRemoval
  rw [FlowTable.places_iff, isFlow, same]
  rfl

end Setting

end DNATApp

end Dragonflow
