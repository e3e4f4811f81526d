import Dragonflow.Controller.Apps.L3Matches
import Dragonflow.Foundation.FlowSet

/-! # Removing an interface of a router

The deletes of `_delete_router_port` are not strict, and their matches are networks. What
they remove besides the flows of the interface depends on how the networks, addresses and
routes of the router overlap.
-/

namespace Dragonflow

open Program

namespace L3ProactiveApp

variable {lswitches : Id → Option LogicalSwitch} {router : LogicalRouter}

/-! ## Installed flows -/

/-- A call of `_add_new_router_port` or of `_add_router_extra_route`, with the ports that
are stored then. -/
inductive Install
  | interface (lports : List LogicalPort) (routerPort : LogicalRouterPort)
  | route (lports : List LogicalPort) (extraRoute : HostRoute)

def Install.run (lswitches : Id → Option LogicalSwitch) (router : LogicalRouter) :
    Install → Action Unit
  | .interface lports routerPort => addNewRouterPort { lswitches, lports } router routerPort
  | .route lports extraRoute =>
      addRouterExtraRoute { lswitches, lports } router extraRoute

/-- The address whose packets go to an interface, or to its port. -/
def interfaceAddress (lports : List LogicalPort) (routerPort : LogicalRouterPort) :
    Option IPAddress :=
  match lports.find? fun lport => lport.id = routerPort.id with
  | none => some routerPort.network.ip
  | some lport => lport.ip

/-- The flow that takes packets to the MAC of an interface to the router. -/
def lookupFlow (networkId routerKey : Nat) (mac : MacAddress) : OFPFlowMod where
  table := Const.l2LookupTable
  priority := Const.priorityHigh
  pattern := L2App.unicastMatch networkId mac
  instructions := [.applyActions [.setField (.reg5 routerKey)],
    .gotoTable Const.l3LookupTable]

def responderFlows (networkId routerKey : Nat) (mac : MacAddress) :
    IPAddress → List OFPFlowMod
  | .v4 ip => [L2App.arpResponder networkId ip mac, icmpResponder routerKey ip]
  | .v6 _ => []

/-- The flow for packets to the address of an interface. -/
def addressFlow (routerKey : Nat) (lports : List LogicalPort)
    (routerPort : LogicalRouterPort) (ip : IPAddress) : OFPFlowMod where
  table := Const.l3LookupTable
  priority := Const.priorityHigh
  pattern := getRouterInterfaceMatch routerKey ip
  instructions :=
    match lports.find? fun lport => lport.id = routerPort.id with
    | none => [.applyActions [.output controllerPort]]
    | some lport =>
        [.applyActions [.setField (.reg7 lport.uniqueKey)], .gotoTable Const.egressTable]

def interfaceFlows (router : LogicalRouter) (lports : List LogicalPort)
    (networkId : Nat) (routerPort : LogicalRouterPort) : List OFPFlowMod :=
  lookupFlow networkId router.uniqueKey routerPort.mac ::
    responderFlows networkId router.uniqueKey routerPort.mac routerPort.network.ip ++
    (interfaceAddress lports routerPort).toList.map
      (addressFlow router.uniqueKey lports routerPort) ++
    [addSubnetSendToRoute (getRouterRouteMatch router.uniqueKey routerPort.network)
      networkId routerPort]

/-- The flow of an extra route, when its next hop is there. -/
def routeFlow (lswitches : Id → Option LogicalSwitch) (router : LogicalRouter)
    (lports : List LogicalPort) (route : HostRoute) : Option OFPFlowMod :=
  match getGatewayPortByIp router route.nexthop with
  | .error _ => none
  | .ok routerPort =>
      (getPortByLswitchAndIp { lswitches, lports } route.nexthop routerPort.lswitch).bind
        fun lport => lport.mac.map fun mac =>
          addExtraRouteToRouter router.uniqueKey routerPort.mac lport.uniqueKey mac route

/-- The flows that a call adds. -/
def Install.flows (lswitches : Id → Option LogicalSwitch) (router : LogicalRouter) :
    Install → List OFPFlowMod
  | .interface lports routerPort =>
      match lswitches routerPort.lswitch with
      | none => []
      | some lswitch => interfaceFlows router lports lswitch.uniqueKey routerPort
  | .route lports extraRoute => (routeFlow lswitches router lports extraRoute).toList

variable {install : Install} {installs : List Install} {app after : L3ProactiveApp}

theorem responderFlows_add (networkId routerKey : Nat) (mac : MacAddress) (ip : IPAddress) :
    ∀ message ∈ responderFlows networkId routerKey mac ip, message.command = .add := by
  intro message member
  cases ip with
  | v4 bits =>
      simp only [responderFlows, List.mem_cons, List.not_mem_nil, or_false] at member
      rcases member with isArp | isIcmp
      · rw [isArp]
        rfl
      · rw [isIcmp]
        rfl
  | v6 bits => cases member

theorem Install.flows_add (install : Install) :
    ∀ message ∈ install.flows lswitches router, message.command = .add := by
  intro message member
  cases install with
  | interface lports routerPort =>
      simp only [Install.flows] at member
      split at member
      · cases member
      · simp only [interfaceFlows, List.mem_append, List.mem_cons, List.mem_map,
          List.not_mem_nil, or_false] at member
        rcases member with ((isLookup | isResponder) | ⟨ip, _, isAddress⟩) | isSubnet
        · rw [isLookup]
          rfl
        · exact responderFlows_add _ _ _ _ message isResponder
        · rw [← isAddress]
          rfl
        · rw [isSubnet]
          rfl
  | route lports extraRoute =>
      simp only [Install.flows, Option.mem_toList] at member
      unfold routeFlow at member
      split at member
      · cases member
      · rcases Option.bind_eq_some_iff.mp member with ⟨lport, _, isFlow⟩
        rcases Option.map_eq_some_iff.mp isFlow with ⟨mac, _, isFlow⟩
        rw [← isFlow]
        rfl

/-- The application with more messages sent to the switch. -/
def sent (app : L3ProactiveApp) (messages : List OFPFlowMod) : L3ProactiveApp :=
  { app with flows := app.flows.applyAll messages }

theorem sent_sent (app : L3ProactiveApp) (first second : List OFPFlowMod) :
    (app.sent first).sent second = app.sent (first ++ second) := by
  unfold sent
  rw [FlowTable.applyAll_append]

theorem exec_modFlow (message : OFPFlowMod) (app : L3ProactiveApp) :
    exec (modFlow message) app = (.ok (), app.sent [message]) := rfl

theorem exec_addResponders (networkId routerKey : Nat) (mac : MacAddress) (ip : IPAddress)
    (app : L3ProactiveApp) :
    exec (addResponders networkId routerKey mac ip) app =
      (.ok (), app.sent (responderFlows networkId routerKey mac ip)) := by
  cases ip <;> rfl

theorem exec_addInterfaceFlow {lports : List LogicalPort} {routerPort : LogicalRouterPort}
    (ran : exec (addInterfaceFlow { lswitches, lports } router routerPort) app =
      (.ok (), after)) :
    after = app.sent ((interfaceAddress lports routerPort).toList.map
      (addressFlow router.uniqueKey lports routerPort)) := by
  unfold interfaceAddress addressFlow
  simp only [addInterfaceFlow] at ran
  cases isFound : lports.find? fun lport => lport.id = routerPort.id with
  | none =>
      rw [isFound] at ran
      cases ran
      rfl
  | some lport =>
      rw [isFound] at ran
      simp only [addConcreteRouterInterface, interfaceRouter] at ran
      cases isIp : lport.ip with
      | none =>
          rw [isIp] at ran
          cases ran
      | some ip =>
          rw [isIp] at ran
          cases ran
          dsimp only
          rw [isIp]
          rfl

/-- A call that returns has added its flows. -/
theorem Install.run_flows (install : Install) (app after : L3ProactiveApp)
    (ran : exec (install.run lswitches router) app = (.ok (), after)) :
    after.flows = app.flows.applyAll (install.flows lswitches router) := by
  cases install with
  | interface lports routerPort =>
      simp only [Install.run, addNewRouterPort, interfaceLswitch] at ran
      simp only [Install.flows]
      cases found : lswitches routerPort.lswitch with
      | none =>
          rw [found] at ran
          cases ran
      | some lswitch =>
          rw [found] at ran
          rw [exec_bind_ok (exec_ofExcept_ok _ _), exec_bind_ok (exec_modFlow _ app),
            exec_bind_ok (exec_addResponders _ _ _ _ _)] at ran
          rcases exec_bind_eq_ok.mp ran with ⟨_, middle, added, last⟩
          have isAfter := congrArg Prod.snd (last.symm.trans (exec_modFlow _ _))
          dsimp only at isAfter ⊢
          rw [isAfter, exec_addInterfaceFlow added, sent_sent, sent_sent, sent_sent]
          unfold interfaceFlows
          simp only [sent, List.cons_append, List.nil_append, List.append_assoc]
          rfl
  | route lports extraRoute =>
      simp only [Install.run, addRouterExtraRoute] at ran
      simp only [Install.flows, routeFlow]
      cases found : getGatewayPortByIp router extraRoute.nexthop with
      | error error =>
          rw [found] at ran
          cases ran
      | ok routerPort =>
          rw [found] at ran
          rw [exec_bind_ok (exec_ofExcept_ok _ _)] at ran
          dsimp only
          cases isFound : getPortByLswitchAndIp { lswitches, lports } extraRoute.nexthop
              routerPort.lswitch with
          | none =>
              rw [isFound] at ran
              cases ran
              rfl
          | some lport =>
              rw [isFound] at ran
              rw [Option.bind_some]
              dsimp only at ran
              cases isMac : lport.mac with
              | none =>
                  rw [isMac] at ran
                  cases ran
              | some mac =>
                  rw [isMac] at ran
                  cases ran
                  rfl

theorem run_all_flows (installs : List Install) (app after : L3ProactiveApp)
    (ran : exec (forM installs (Install.run lswitches router)) app = (.ok (), after)) :
    after.flows = app.flows.applyAll (installs.flatMap (Install.flows lswitches router)) := by
  induction installs generalizing app with
  | nil =>
      cases ran
      rfl
  | cons install installs induction =>
      rw [List.forM_cons] at ran
      rcases exec_bind_eq_ok.mp ran with ⟨_, middle, first, rest⟩
      rw [induction middle rest, install.run_flows app middle first, List.flatMap_cons,
        FlowTable.applyAll_append]

/-! ## The deletes -/

def responderRemovals (networkId routerKey : Nat) : IPAddress → List OFPFlowMod
  | .v4 ip => [L2App.arpResponderRemoval networkId ip, icmpResponderRemoval routerKey ip]
  | .v6 _ => []

def interfaceDeletes (networkId routerKey : Nat) (routerPort : LogicalRouterPort) :
    List OFPFlowMod :=
  { command := .delete
    table := Const.l2LookupTable
    priority := Const.priorityHigh
    pattern := L2App.unicastMatch networkId routerPort.mac } ::
  responderRemovals networkId routerKey routerPort.network.ip ++
  [{ command := .delete
     table := Const.l3LookupTable
     priority := Const.priorityHigh
     pattern := getRouterInterfaceMatch routerKey routerPort.network.ip },
   { command := .delete
     table := Const.l3LookupTable
     priority := Const.priorityMedium
     pattern := getRouterRouteMatch routerKey routerPort.network }]

theorem exec_removeResponders (networkId routerKey : Nat) (ip : IPAddress)
    (app : L3ProactiveApp) :
    exec (removeResponders networkId routerKey ip) app =
      (.ok (), app.sent (responderRemovals networkId routerKey ip)) := by
  cases ip <;> rfl

theorem exec_deleteRouterPort (lports : List LogicalPort) (routerPort : LogicalRouterPort)
    {lswitch : LogicalSwitch} (found : lswitches routerPort.lswitch = some lswitch)
    (app : L3ProactiveApp) :
    exec (deleteRouterPort { lswitches, lports } router routerPort) app =
      (.ok (), app.sent
        (interfaceDeletes lswitch.uniqueKey router.uniqueKey routerPort)) := by
  simp only [deleteRouterPort, interfaceLswitch, found]
  rw [exec_bind_ok (exec_ofExcept_ok _ _), exec_bind_ok (exec_modFlow _ app),
    exec_bind_ok (exec_removeResponders _ _ _ _), exec_bind_ok (exec_modFlow _ _),
    exec_modFlow, sent_sent, sent_sent, sent_sent]
  unfold interfaceDeletes
  simp only [List.cons_append, List.nil_append]

theorem interfaceDeletes_isDelete (networkId routerKey : Nat)
    (routerPort : LogicalRouterPort) :
    ∀ message ∈ interfaceDeletes networkId routerKey routerPort,
      FlowTable.IsDelete message := by
  intro message member
  unfold interfaceDeletes responderRemovals at member
  cases ip : routerPort.network.ip with
  | v4 bits =>
      rw [ip] at member
      simp only [List.cons_append, List.nil_append, List.mem_cons, List.not_mem_nil,
        or_false] at member
      rcases member with same | same | same | same | same
      · exact same ▸ ⟨Or.inl rfl, rfl⟩
      · exact same ▸ ⟨Or.inr rfl, rfl⟩
      · exact same ▸ ⟨Or.inl rfl, rfl⟩
      · exact same ▸ ⟨Or.inl rfl, rfl⟩
      · exact same ▸ ⟨Or.inl rfl, rfl⟩
  | v6 bits =>
      rw [ip] at member
      simp only [List.nil_append, List.cons_append, List.mem_cons, List.not_mem_nil,
        or_false] at member
      rcases member with same | same | same
      · exact same ▸ ⟨Or.inl rfl, rfl⟩
      · exact same ▸ ⟨Or.inl rfl, rfl⟩
      · exact same ▸ ⟨Or.inl rfl, rfl⟩

/-- Removing an interface clears a place. -/
def Clears (networkId routerKey : Nat) (routerPort : LogicalRouterPort)
    (place : Place OFPMatch) : Prop :=
  ∃ message ∈ interfaceDeletes networkId routerKey routerPort,
    FlowTable.clears message place

instance (networkId routerKey : Nat) (routerPort : LogicalRouterPort)
    (place : Place OFPMatch) : Decidable (Clears networkId routerKey routerPort place) :=
  inferInstanceAs (Decidable (∃ message ∈ _, _))

variable {networkId routerKey : Nat} {routerPort : LogicalRouterPort}

theorem clears_iff (place : Place OFPMatch) :
    Clears networkId routerKey routerPort place ↔
      (place.1 = Const.l2LookupTable ∧
        Pattern.covers (L2App.unicastMatch networkId routerPort.mac) place.2.2 = true) ∨
      (∃ ip, routerPort.network.ip = .v4 ip ∧
        (place = (L2App.arpResponderRemoval networkId ip).place ∨
          place.1 = Const.l3LookupTable ∧
            Pattern.covers (icmpMatch routerKey ip) place.2.2 = true)) ∨
      (place.1 = Const.l3LookupTable ∧ Pattern.covers
        (getRouterInterfaceMatch routerKey routerPort.network.ip) place.2.2 = true) ∨
      (place.1 = Const.l3LookupTable ∧ Pattern.covers
        (getRouterRouteMatch routerKey routerPort.network) place.2.2 = true) := by
  have strict : ∀ ip, FlowTable.clears (L2App.arpResponderRemoval networkId ip) place ↔
      place = (L2App.arpResponderRemoval networkId ip).place := by
    intro ip
    constructor
    · intro cleared
      exact cleared.2.2 rfl
    · intro same
      rw [same]
      exact ⟨rfl, OFPMatch.covers_self _, fun _ => rfl⟩
  have loose : ∀ message : OFPFlowMod, message.command = .delete →
      (FlowTable.clears message place ↔
        place.1 = message.table ∧ Pattern.covers message.pattern place.2.2 = true) := by
    intro message isDelete
    unfold FlowTable.clears
    rw [isDelete]
    simp
  unfold Clears interfaceDeletes responderRemovals
  cases ip : routerPort.network.ip with
  | v4 bits =>
      simp only [List.cons_append, List.nil_append, List.mem_cons, List.not_mem_nil, or_false,
        exists_eq_or_imp, exists_eq_left, strict, loose, icmpResponderRemoval,
        IPAddress.v4.injEq, exists_eq_left', or_assoc]
  | v6 bits =>
      simp only [List.cons_append, List.nil_append, List.mem_cons, List.not_mem_nil, or_false,
        exists_eq_or_imp, exists_eq_left, loose, reduceCtorEq, false_and, exists_false,
        false_or]

theorem contains_ip (network : IPNetwork) : network.contains network.ip = true := by
  cases network <;> simp [IPNetwork.contains, IPNetwork.ip]

theorem includes_self (network : IPNetwork) : network.includes network = true := by
  cases network <;> simp [IPNetwork.includes, IPNetwork.contains]

/-- Flows of other networks or for other MACs stay in the lookup table of layer 2. -/
theorem clears_lookupFlow (other : Nat) (mac : MacAddress) :
    Clears networkId routerKey routerPort (lookupFlow other routerKey mac).place ↔
      networkId = other ∧ routerPort.mac = mac := by
  rw [clears_iff]
  simp [lookupFlow, FlowMod.place, L2App.arpResponderRemoval, Const.l2LookupTable,
    Const.l3LookupTable, Const.arpTable, Pattern.covers, L2App.unicastMatch,
    FieldMatch.coversField, FieldMatch.covers, BitVec.toNat_inj]

theorem clears_arpResponder (other : Nat) (ip : BitVec 32) (mac : MacAddress) :
    Clears networkId routerKey routerPort (L2App.arpResponder other ip mac).place ↔
      networkId = other ∧ routerPort.network.ip = .v4 ip := by
  rw [clears_iff]
  have places : ∀ bits, (L2App.arpResponder other ip mac).place =
      (L2App.arpResponderRemoval networkId bits).place ↔ networkId = other ∧ bits = ip := by
    intro bits
    simp only [L2App.arpResponder, L2App.arpResponderRemoval, FlowMod.place, L2App.arpMatch,
      Prod.mk.injEq, true_and, OFPMatch.mk.injEq, Option.some.injEq, FieldMatch.exact.injEq,
      and_true, BitVec.toNat_inj]
    constructor
    · intro same
      exact ⟨same.1.symm, same.2.symm⟩
    · intro same
      exact ⟨same.1.symm, same.2.symm⟩
  simp only [places]
  simp [L2App.arpResponder, FlowMod.place, Const.l2LookupTable, Const.l3LookupTable,
    Const.arpTable]
  exact and_comm

/-- In the table of the routers only networks and addresses count. -/
theorem clears_l3 (priority : Nat) (pattern : OFPMatch) :
    Clears networkId routerKey routerPort (Const.l3LookupTable, priority, pattern) ↔
      Pattern.covers (getRouterRouteMatch routerKey routerPort.network) pattern = true ∨
        ∃ ip, routerPort.network.ip = .v4 ip ∧
          Pattern.covers (icmpMatch routerKey ip) pattern = true := by
  rw [clears_iff]
  have finer : Pattern.covers (getRouterInterfaceMatch routerKey routerPort.network.ip)
      pattern = true →
        Pattern.covers (getRouterRouteMatch routerKey routerPort.network) pattern = true := by
    intro covered
    apply OFPMatch.covers_trans _ covered
    rw [routeMatch_covers_interfaceMatch]
    exact contains_ip _
  constructor
  · intro cleared
    rcases cleared with inL2 | ⟨ip, isIp, isArp | covered⟩ | covered | covered
    · exact absurd inL2.1 (show Const.l3LookupTable ≠ Const.l2LookupTable by decide)
    · exact absurd (congrArg Prod.fst isArp)
        (show Const.l3LookupTable ≠ Const.arpTable by decide)
    · exact Or.inr ⟨ip, isIp, covered.2⟩
    · exact Or.inl (finer covered.2)
    · exact Or.inl covered.2
  · intro covered
    rcases covered with covered | ⟨ip, isIp, covered⟩
    · exact Or.inr (Or.inr (Or.inr ⟨rfl, covered⟩))
    · exact Or.inr (Or.inl ⟨ip, isIp, Or.inr ⟨rfl, covered⟩⟩)

theorem icmpMatch_covers_icmpMatch (ip other : BitVec 32) :
    Pattern.covers (icmpMatch routerKey ip) (icmpMatch routerKey other) = true ↔
      ip = other := by
  unfold icmpMatch
  split <;> simp [Pattern.covers, FieldMatch.coversField, FieldMatch.covers,
    BitVec.toNat_inj]

/-- The match of echo requests covers nothing that is not about ICMP. -/
theorem icmpMatch_covers_others (ip : BitVec 32) {pattern : OFPMatch}
    (noProto : pattern.ipProto = none) :
    Pattern.covers (icmpMatch routerKey ip) pattern = false := by
  simp [Pattern.covers, icmpMatch, FieldMatch.coversField, noProto]

theorem clears_icmpResponder (ip : BitVec 32) :
    Clears networkId routerKey routerPort (icmpResponder routerKey ip).place ↔
      routerPort.network.ip = .v4 ip ∨
        routerKey ≠ 0 ∧ routerPort.network.contains (.v4 ip) = true := by
  apply (clears_l3 _ _).trans
  dsimp only [icmpResponder]
  simp only [routeMatch_covers_icmpMatch, icmpMatch_covers_icmpMatch, exists_eq_right,
    Bool.and_eq_true, decide_eq_true_eq]
  exact or_comm

theorem clears_l3_others (priority : Nat) {pattern : OFPMatch}
    (noProto : pattern.ipProto = none) :
    Clears networkId routerKey routerPort (Const.l3LookupTable, priority, pattern) ↔
      Pattern.covers (getRouterRouteMatch routerKey routerPort.network) pattern = true := by
  rw [clears_l3]
  simp only [icmpMatch_covers_others _ noProto, Bool.false_eq_true, and_false, exists_false,
    or_false]

theorem destinationMatch_ipProto (network : IPNetwork) :
    (destinationMatch network).ipProto = none := by
  cases network <;> rfl

theorem clears_addressFlow (lports : List LogicalPort) (other : LogicalRouterPort)
    (ip : IPAddress) :
    Clears networkId routerKey routerPort (addressFlow routerKey lports other ip).place ↔
      routerPort.network.contains ip = true := by
  rw [← routeMatch_covers_interfaceMatch routerKey]
  apply clears_l3_others
  cases ip <;> rfl

theorem clears_subnetFlow (key : Nat) (other : LogicalRouterPort) :
    Clears networkId routerKey routerPort
        (addSubnetSendToRoute (getRouterRouteMatch routerKey other.network) key other).place ↔
      routerPort.network.includes other.network = true := by
  rw [← routeMatch_covers_routeMatch routerKey]
  exact clears_l3_others _ (destinationMatch_ipProto other.network)

theorem clears_extraRoute (mac : MacAddress) (portKey : Nat) (portMac : MacAddress)
    (extraRoute : HostRoute) :
    Clears networkId routerKey routerPort
        (addExtraRouteToRouter routerKey mac portKey portMac extraRoute).place ↔
      routerPort.network.includes extraRoute.destination = true := by
  rw [← routeMatch_covers_extraRouteMatch routerKey _ mac]
  exact clears_l3_others _ (destinationMatch_ipProto extraRoute.destination)

/-! ## What is removed -/

def Install.isOf (routerPort : LogicalRouterPort) : Install → Prop
  | .interface _ other => other = routerPort
  | .route _ _ => False

/-- Of the installed flows, those of one interface are gone and all others are as they
were. -/
structure RemovesOnly (lswitches : Id → Option LogicalSwitch) (router : LogicalRouter)
    (routerPort : LogicalRouterPort) (installs : List Install) (before after : Flows) :
    Prop where
  removed : ∀ install ∈ installs, install.isOf routerPort →
    ∀ flow ∈ install.flows lswitches router,
      flow.table = Const.l2LookupTable ∨ flow.table = Const.l3LookupTable →
        after flow.table flow.priority flow.pattern = none
  kept : ∀ install ∈ installs, ¬install.isOf routerPort →
    ∀ flow ∈ install.flows lswitches router,
      after flow.table flow.priority flow.pattern =
        before flow.table flow.priority flow.pattern

/-- An interface and an address, network or route of the router do not overlap. -/
def Spares (lswitches : Id → Option LogicalSwitch) (router : LogicalRouter)
    (routerPort : LogicalRouterPort) : Install → Prop
  | .interface lports other =>
      ¬((lswitches routerPort.lswitch).map LogicalSwitch.uniqueKey =
          (lswitches other.lswitch).map LogicalSwitch.uniqueKey ∧
        routerPort.mac = other.mac) ∧
      (∀ ip, other.network.ip = .v4 ip → ¬(routerPort.network.ip = .v4 ip ∨
        router.uniqueKey ≠ 0 ∧ routerPort.network.contains (.v4 ip) = true)) ∧
      (∀ ip, interfaceAddress lports other = some ip →
        routerPort.network.contains ip = false) ∧
      routerPort.network.includes other.network = false
  | .route lports extraRoute =>
      (routeFlow lswitches router lports extraRoute).isSome = true →
        routerPort.network.includes extraRoute.destination = false

variable {lswitch : LogicalSwitch}

/-- No flow of a call is cleared exactly if there is no overlap. -/
theorem not_clears_iff (found : lswitches routerPort.lswitch = some lswitch)
    (install : Install) (ran : ∀ lports other, install = .interface lports other →
      ∃ network, lswitches other.lswitch = some network) :
    (∀ flow ∈ install.flows lswitches router,
      ¬Clears lswitch.uniqueKey router.uniqueKey routerPort flow.place) ↔
        Spares lswitches router routerPort install := by
  cases install with
  | interface lports other =>
      rcases ran lports other rfl with ⟨network, isNetwork⟩
      have responders : (∀ flow ∈ responderFlows network.uniqueKey router.uniqueKey other.mac
          other.network.ip, ¬Clears lswitch.uniqueKey router.uniqueKey routerPort flow.place) ↔
            ∀ ip, other.network.ip = .v4 ip → ¬(routerPort.network.ip = .v4 ip ∨
              router.uniqueKey ≠ 0 ∧ routerPort.network.contains (.v4 ip) = true) := by
        cases other.network.ip with
        | v4 bits =>
            simp only [responderFlows, List.forall_mem_cons, clears_arpResponder,
              clears_icmpResponder, List.not_mem_nil, false_imp_iff, implies_true, and_true,
              IPAddress.v4.injEq, forall_eq']
            apply and_iff_right_of_imp
            intro spared same
            exact spared (Or.inl same.2)
        | v6 bits => simp [responderFlows]
      simp only [Install.flows, isNetwork, interfaceFlows, Spares, found, Option.map_some,
        Option.some.injEq, List.forall_mem_append, List.forall_mem_cons, List.forall_mem_map,
        clears_lookupFlow, clears_addressFlow, clears_subnetFlow, responders,
        Option.mem_toList, List.not_mem_nil, false_imp_iff, implies_true, and_true,
        Bool.not_eq_true, and_assoc]
  | route lports extraRoute =>
      simp only [Install.flows, Spares, Option.mem_toList]
      cases isFlow : routeFlow lswitches router lports extraRoute with
      | none => simp
      | some flow =>
          simp only [Option.some.injEq, forall_eq', Option.isSome_some, true_imp_iff]
          unfold routeFlow at isFlow
          split at isFlow
          · cases isFlow
          · rcases Option.bind_eq_some_iff.mp isFlow with ⟨lport, _, isFlow⟩
            rcases Option.map_eq_some_iff.mp isFlow with ⟨mac, _, same⟩
            rw [← same, clears_extraRoute, Bool.not_eq_true]

/-- Every flow of an interface is cleared exactly if its port has an address of its
network. -/
theorem clears_own_iff (found : lswitches routerPort.lswitch = some lswitch)
    (lports : List LogicalPort) :
    (∀ flow ∈ (Install.interface lports routerPort).flows lswitches router,
      flow.table = Const.l2LookupTable ∨ flow.table = Const.l3LookupTable →
        Clears lswitch.uniqueKey router.uniqueKey routerPort flow.place) ↔
      ∀ ip, interfaceAddress lports routerPort = some ip →
        routerPort.network.contains ip = true := by
  have responders : ∀ flow ∈ responderFlows lswitch.uniqueKey router.uniqueKey
      routerPort.mac routerPort.network.ip,
        flow.table = Const.l2LookupTable ∨ flow.table = Const.l3LookupTable →
          Clears lswitch.uniqueKey router.uniqueKey routerPort flow.place := by
    cases isIp : routerPort.network.ip with
    | v4 bits =>
        simp only [responderFlows, List.forall_mem_cons, clears_arpResponder,
          clears_icmpResponder, isIp, and_self, true_or, implies_true, List.not_mem_nil,
          false_imp_iff]
    | v6 bits => simp [responderFlows]
  have inL3 : ∀ ip, (addressFlow router.uniqueKey lports routerPort ip).table =
      Const.l3LookupTable := fun _ => rfl
  simp only [Install.flows, found, interfaceFlows, List.forall_mem_append,
    List.forall_mem_cons, List.forall_mem_map, clears_lookupFlow, clears_addressFlow,
    clears_subnetFlow, includes_self, Option.mem_toList, List.not_mem_nil, false_imp_iff,
    implies_true, and_true, and_self, inL3, or_true, true_imp_iff, true_and]
  exact and_iff_right responders

/-- The switches of the interfaces were there when they were installed. -/
theorem networks_found (initial : L3ProactiveApp)
    (built : exec (forM installs (Install.run lswitches router)) initial = (.ok (), after))
    {lports : List LogicalPort} {other : LogicalRouterPort}
    (member : .interface lports other ∈ installs) :
    ∃ network, lswitches other.lswitch = some network := by
  induction installs generalizing initial with
  | nil => cases member
  | cons first installs induction =>
      rw [List.forM_cons] at built
      rcases exec_bind_eq_ok.mp built with ⟨_, middle, ran, rest⟩
      rcases List.mem_cons.mp member with same | later
      · rw [← same] at ran
        simp only [Install.run, addNewRouterPort, interfaceLswitch] at ran
        cases found : lswitches other.lswitch with
        | none =>
            rw [found] at ran
            cases ran
        | some network => exact ⟨network, rfl⟩
      · exact induction middle rest later

theorem installed_isSome (initial : L3ProactiveApp)
    (built : exec (forM installs (Install.run lswitches router)) initial = (.ok (), after))
    (member : install ∈ installs) {flow : OFPFlowMod}
    (isFlow : flow ∈ install.flows lswitches router) :
    (after.flows flow.table flow.priority flow.pattern).isSome = true := by
  have areAdds : ∀ message ∈ installs.flatMap (Install.flows lswitches router),
      message.command = .add := by
    intro message isMember
    rcases List.mem_flatMap.mp isMember with ⟨install, _, isFlow⟩
    exact install.flows_add message isFlow
  rw [run_all_flows installs initial after built]
  apply FlowTable.applyAll_add_isSome _ flow.place areAdds
  exact Or.inl ⟨flow, List.mem_flatMap.mpr ⟨install, member, isFlow⟩, rfl⟩

theorem lookup_deletes (app : L3ProactiveApp) (flow : OFPFlowMod) :
    (app.sent (interfaceDeletes networkId routerKey routerPort)).flows
        flow.table flow.priority flow.pattern =
      if Clears networkId routerKey routerPort flow.place then none
      else app.flows flow.table flow.priority flow.pattern :=
  FlowTable.applyAll_isDelete _ flow.place
    (interfaceDeletes_isDelete networkId routerKey routerPort)

theorem gone_iff {flow : OFPFlowMod}
    (there : (app.flows flow.table flow.priority flow.pattern).isSome = true) :
    (app.sent (interfaceDeletes networkId routerKey routerPort)).flows
        flow.table flow.priority flow.pattern = none ↔
      Clears networkId routerKey routerPort flow.place := by
  rw [lookup_deletes, ite_eq_left_iff]
  constructor
  · intro gone
    by_contra spared
    rw [gone spared] at there
    cases there
  · exact fun cleared spared => absurd cleared spared

theorem same_iff {flow : OFPFlowMod}
    (there : (app.flows flow.table flow.priority flow.pattern).isSome = true) :
    (app.sent (interfaceDeletes networkId routerKey routerPort)).flows
        flow.table flow.priority flow.pattern =
          app.flows flow.table flow.priority flow.pattern ↔
      ¬Clears networkId routerKey routerPort flow.place := by
  rw [lookup_deletes, ite_eq_right_iff]
  apply imp_congr_right
  intro _
  apply iff_false_intro
  intro isNone
  rw [← isNone] at there
  cases there

/-- Removing an interface removes its flows and no others exactly if the rest of the
router does not overlap with it. -/
theorem removes_only_iff (lswitches : Id → Option LogicalSwitch) (router : LogicalRouter)
    (routerPort : LogicalRouterPort) (installs : List Install) (lports : List LogicalPort)
    (initial before : L3ProactiveApp)
    (built : exec (forM installs (Install.run lswitches router)) initial =
      (.ok (), before))
    (installed : ∃ stored, Install.interface stored routerPort ∈ installs) :
    RemovesOnly lswitches router routerPort installs before.flows
        (exec (deleteRouterPort { lswitches, lports } router routerPort) before).2.flows ↔
      (∀ stored, .interface stored routerPort ∈ installs →
        ∀ ip, interfaceAddress stored routerPort = some ip →
          routerPort.network.contains ip = true) ∧
      ∀ install ∈ installs, ¬install.isOf routerPort →
        Spares lswitches router routerPort install := by
  rcases installed with ⟨stored, member⟩
  rcases networks_found initial built member with ⟨lswitch, found⟩
  rw [exec_deleteRouterPort lports routerPort found]
  have networks : ∀ install ∈ installs, ∀ lports other, install = .interface lports other →
      ∃ network, lswitches other.lswitch = some network := by
    intro install isInstall lports other same
    exact networks_found initial built (same ▸ isInstall)
  constructor
  · intro only
    constructor
    · intro stored isStored
      have own : ∀ flow ∈ (Install.interface stored routerPort).flows lswitches router,
          flow.table = Const.l2LookupTable ∨ flow.table = Const.l3LookupTable →
            Clears lswitch.uniqueKey router.uniqueKey routerPort flow.place := by
        intro flow isFlow inTable
        apply (gone_iff (installed_isSome initial built isStored isFlow)).mp
        exact only.removed _ isStored rfl flow isFlow inTable
      exact (clears_own_iff found stored).mp own
    · intro install isInstall isOther
      apply (not_clears_iff found install (networks install isInstall)).mp
      intro flow isFlow
      apply (same_iff (installed_isSome initial built isInstall isFlow)).mp
      exact only.kept install isInstall isOther flow isFlow
  · intro apart
    constructor
    · intro install isInstall isOf flow isFlow inTable
      apply (gone_iff (installed_isSome initial built isInstall isFlow)).mpr
      cases install with
      | interface stored other =>
          have same : other = routerPort := isOf
          subst same
          exact (clears_own_iff found stored).mpr (apart.1 stored isInstall) flow isFlow
            inTable
      | route stored extraRoute => cases isOf
    · intro install isInstall isOther flow isFlow
      apply (same_iff (installed_isSome initial built isInstall isFlow)).mpr
      exact (not_clears_iff found install (networks install isInstall)).mpr
        (apart.2 install isInstall isOther) flow isFlow

namespace Sample

def networks : Id → Option LogicalSwitch
  | "office" => some ⟨"office", 1, none, none⟩
  | "transit" => some ⟨"transit", 2, none, none⟩
  | _ => none

/-- 10.1.0.1/24 -/
def office : LogicalRouterPort :=
  { id := "office port", mac := 0xfa163e000001, lswitch := "office"
    network := .v4 0x0a010001 24 }

/-- 10.2.0.1/24 -/
def transit : LogicalRouterPort :=
  { id := "transit port", mac := 0xfa163e000002, lswitch := "transit"
    network := .v4 0x0a020001 24 }

/-- 10.2.0.5 -/
def gateway : LogicalPort :=
  { id := "gateway", uniqueKey := 7, lswitch := some "transit", macs := [0xfa163e000003]
    ips := [.v4 0x0a020005] }

def viaGateway (destination : IPNetwork) : HostRoute :=
  { destination, nexthop := .v4 0x0a020005 }

def routerWith (extraRoute : HostRoute) : LogicalRouter :=
  { id := "router", uniqueKey := 3, ports := [office, transit], routes := [extraRoute] }

def calls (extraRoute : HostRoute) : List Install :=
  [.interface [] office, .interface [] transit, .route [gateway] extraRoute]

def installed (extraRoute : HostRoute) : L3ProactiveApp :=
  (exec (forM (calls extraRoute) (Install.run networks (routerWith extraRoute))) {}).2

def withoutOffice (extraRoute : HostRoute) : L3ProactiveApp :=
  (exec (deleteRouterPort { lswitches := networks, lports := [gateway] }
    (routerWith extraRoute) office) (installed extraRoute)).2

/-- 10.3.0.0/16 -/
def far : HostRoute := viaGateway (.v4 0x0a030000 16)

/-- 10.1.0.128/25 -/
def near : HostRoute := viaGateway (.v4 0x0a010080 25)

end Sample

open Sample in
theorem far_route_kept : RemovesOnly networks (routerWith far) office (calls far)
    (installed far).flows (withoutOffice far).flows := by
  have built : exec (forM (calls far) (Install.run networks (routerWith far))) {} =
      (.ok (), installed far) := rfl
  apply (removes_only_iff networks (routerWith far) office (calls far) [gateway] {} _ built
    ⟨[], by simp [calls]⟩).mpr
  constructor
  · intro stored isStored ip isIp
    simp only [calls, List.mem_cons, Install.interface.injEq, and_true, List.not_mem_nil,
      or_false, reduceCtorEq] at isStored
    rcases isStored with isNone | ⟨_, isOffice⟩
    · subst isNone
      cases isIp
      decide
    · exact absurd isOffice (by decide)
  · intro install isInstall isOther
    simp only [calls, List.mem_cons, List.not_mem_nil, or_false] at isInstall
    rcases isInstall with isOffice | isTransit | isRoute
    · exact absurd (isOffice ▸ rfl) isOther
    · subst isTransit
      refine ⟨by decide +kernel, ?_, ?_, by decide⟩
      · intro ip isIp
        cases isIp
        decide
      · intro ip isIp
        cases isIp
        decide
    · subst isRoute
      intro _
      decide

open Sample in
theorem near_route_lost : ¬RemovesOnly networks (routerWith near) office (calls near)
    (installed near).flows (withoutOffice near).flows := by
  intro only
  have isFlow : addExtraRouteToRouter 3 transit.mac 7 0xfa163e000003 near ∈
      (Install.route [gateway] near).flows networks (routerWith near) :=
    List.mem_singleton.mpr rfl
  have kept := only.kept (.route [gateway] near) (by simp [calls]) id _ isFlow
  exact absurd kept (by decide +kernel)

end L3ProactiveApp

end Dragonflow
