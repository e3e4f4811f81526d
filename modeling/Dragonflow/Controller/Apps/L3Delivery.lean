import Dragonflow.Controller.Apps.L3
import Dragonflow.Foundation.FlowSet
import Dragonflow.Foundation.Writing

/-! # Delivery of routed packets

The proactive table has one flow for every address of a network, which belongs to
one of the bound ports that have the address.
-/

namespace Dragonflow

open Program

namespace L3ProactiveApp

/-! ## The proactive table -/

/-- The key of a network, and an address in it. -/
abbrev Destination := Nat × IPAddress

abbrev Delivery := Destination → Option (FlowEntry Instruction)

def delivery (app : L3ProactiveApp) : Delivery := fun destination =>
  app.flows Const.l3ProactiveLookupTable Const.priorityHigh
    (forwardMatch destination.1 destination.2)

theorem covers_forwardMatch {networkId other : Nat} {ip otherIp : IPAddress} :
    Pattern.covers (forwardMatch networkId ip) (forwardMatch other otherIp) = true ↔
      (networkId, ip) = (other, otherIp) := by
  cases ip <;> cases otherIp <;>
    simp [Pattern.covers, forwardMatch, addressMatch, FieldMatch.coversField,
      FieldMatch.covers, Const.ethTypeIp, Const.ethTypeIpv6, BitVec.toNat_inj]

theorem forwardMatch_inj {networkId other : Nat} {ip otherIp : IPAddress}
    (same : forwardMatch networkId ip = forwardMatch other otherIp) :
    (networkId, ip) = (other, otherIp) := by
  rw [← covers_forwardMatch, same]
  exact OFPMatch.covers_self _

theorem add_writes (ip : IPAddress) (mac : MacAddress) (networkId portKey : Nat) :
    WritesTo delivery (modFlow (addForwardToPortFlow ip mac networkId portKey))
      [⟨(networkId, ip),
        some (addForwardToPortFlow ip mac networkId portKey).flow.entry⟩] := by
  refine writesTo_modify fun app => ?_
  funext destination
  rw [Write.applyAll_cons, Write.applyAll_nil, Write.apply, Function.update_apply]
  have added : ∀ table priority pattern,
      app.flows.apply (addForwardToPortFlow ip mac networkId portKey) table priority pattern =
        _ := fun _ _ _ => FlowTable.apply_add rfl
  refine (added _ _ _).trans ?_
  by_cases same : destination = (networkId, ip)
  · rw [if_pos same, if_pos (by rw [same]; exact ⟨rfl, rfl, rfl⟩)]
    rfl
  · rw [if_neg same, if_neg fun identified => same (forwardMatch_inj identified.2.2)]
    rfl

theorem remove_writes (ip : IPAddress) (networkId : Nat) :
    WritesTo delivery (modFlow (removeForwardToPortFlow ip networkId))
      [⟨(networkId, ip), none⟩] := by
  refine writesTo_modify fun app => ?_
  funext destination
  rw [Write.applyAll_cons, Write.applyAll_nil, Write.apply, Function.update_apply]
  change app.flows.apply (removeForwardToPortFlow ip networkId) _ _ _ = _
  by_cases same : destination = (networkId, ip)
  · rw [if_pos same, same]
    exact FlowTable.apply_delete_self rfl (OFPMatch.covers_self _) rfl
  · rw [if_neg same]
    refine FlowTable.apply_other
      (fun identified => same (forwardMatch_inj identified.2.2)) fun _ => ?_
    exact Bool.eq_false_of_not_eq_true fun covers => same (covers_forwardMatch.mp covers).symm

/-! ## Everything else leaves it alone -/

def SameDelivery (before after : L3ProactiveApp) : Prop := after.delivery = before.delivery

instance : IsPreorder L3ProactiveApp SameDelivery where
  refl _ := rfl
  trans _ _ _ first second := Eq.trans second first

theorem l2Lookup_elsewhere : Const.l2LookupTable ≠ Const.l3ProactiveLookupTable := by
  decide

theorem l3Lookup_elsewhere : Const.l3LookupTable ≠ Const.l3ProactiveLookupTable := by
  decide

theorem arp_elsewhere : Const.arpTable ≠ Const.l3ProactiveLookupTable := by
  decide

theorem modFlow_sameDelivery {message : OFPFlowMod}
    (elsewhere : message.table ≠ Const.l3ProactiveLookupTable) :
    Keeps SameDelivery (modFlow message) :=
  Keeps.modify fun _ => funext fun _ => FlowTable.apply_other_table elsewhere.symm

theorem addToRouteCache_sameDelivery (key : RoutePart) (routerId : Id)
    (route : HostRoute) : Keeps SameDelivery (addToRouteCache key routerId route) :=
  Keeps.modify fun _ => rfl

theorem delFromRouteCache_sameDelivery (key : RoutePart) (routerId : Id)
    (route : HostRoute) : Keeps SameDelivery (delFromRouteCache key routerId route) := by
  refine Keeps.modify fun app => ?_
  cases app.routeCache.lookup routerId <;> rfl

theorem changeRouteCacheStatus_sameDelivery (routerId : Id) (fromPart toPart : RoutePart)
    (route : HostRoute) :
    Keeps SameDelivery (changeRouteCacheStatus routerId fromPart toPart route) :=
  Keeps.bind (delFromRouteCache_sameDelivery fromPart routerId route) fun _ =>
    addToRouteCache_sameDelivery toPart routerId route

variable (store : L3Store)

theorem reprocessToAddRoute_sameDelivery (lport : LogicalPort) :
    Keeps SameDelivery (reprocessToAddRoute store lport) := by
  refine Keeps.bind (Keeps.ofExcept _) fun id => Keeps.bind (Keeps.ofExcept _) fun found => ?_
  cases found with
  | none => exact Keeps.pure _
  | some attachment =>
      refine Keeps.bind Keeps.get fun app => Keeps.loop _ fun route _ => ?_
      exact Keeps.bind (Keeps.ofExcept _) fun _ =>
        Keeps.bind (modFlow_sameDelivery l3Lookup_elsewhere) fun _ =>
          changeRouteCacheStatus_sameDelivery _ _ _ route

theorem reprocessToDeleteRoute_sameDelivery (lport : LogicalPort) :
    Keeps SameDelivery (reprocessToDeleteRoute store lport) := by
  refine Keeps.bind (Keeps.ofExcept _) fun id => Keeps.bind (Keeps.ofExcept _) fun found => ?_
  cases found with
  | none => exact Keeps.pure _
  | some attachment =>
      refine Keeps.bind Keeps.get fun app => Keeps.loop _ fun route _ => ?_
      exact Keeps.bind (modFlow_sameDelivery l3Lookup_elsewhere) fun _ =>
        changeRouteCacheStatus_sameDelivery _ _ _ route

theorem addRouterExtraRoute_sameDelivery (router : LogicalRouter) (route : HostRoute) :
    Keeps SameDelivery (addRouterExtraRoute store router route) := by
  refine Keeps.bind (Keeps.ofExcept _) fun routerPort => ?_
  cases getPortByLswitchAndIp store route.nexthop routerPort.lswitch with
  | none => exact addToRouteCache_sameDelivery _ _ _
  | some lport =>
      exact Keeps.bind (Keeps.ofExcept _) fun _ =>
        Keeps.bind (modFlow_sameDelivery l3Lookup_elsewhere) fun _ =>
          addToRouteCache_sameDelivery _ _ _

theorem deleteRouterExtraRoute_sameDelivery (router : LogicalRouter) (route : HostRoute) :
    Keeps SameDelivery (deleteRouterExtraRoute router route) :=
  Keeps.bind (Keeps.ofExcept _) fun _ =>
    Keeps.bind (modFlow_sameDelivery l3Lookup_elsewhere) fun _ =>
      Keeps.bind (delFromRouteCache_sameDelivery _ _ _) fun _ =>
        delFromRouteCache_sameDelivery _ _ _

theorem addConcreteRouterInterface_sameDelivery (lport : LogicalPort)
    (router : Option LogicalRouter) :
    Keeps SameDelivery (addConcreteRouterInterface store lport router) := by
  unfold addConcreteRouterInterface
  cases interfaceRouter store lport router with
  | none => exact Keeps.pure _
  | some router =>
      exact Keeps.bind (Keeps.ofExcept _) fun _ => modFlow_sameDelivery l3Lookup_elsewhere

theorem addNewRouterPort_sameDelivery (router : LogicalRouter)
    (routerPort : LogicalRouterPort) :
    Keeps SameDelivery (addNewRouterPort store router routerPort) := by
  refine Keeps.bind (Keeps.ofExcept _) fun lswitch =>
    Keeps.bind (modFlow_sameDelivery l2Lookup_elsewhere) fun _ => Keeps.bind ?_ fun _ =>
      Keeps.bind ?_ fun _ => modFlow_sameDelivery l3Lookup_elsewhere
  · cases routerPort.network.ip with
    | v4 ip =>
        exact Keeps.bind (modFlow_sameDelivery arp_elsewhere) fun _ =>
          modFlow_sameDelivery l3Lookup_elsewhere
    | v6 ip => exact Keeps.pure _
  · unfold addInterfaceFlow
    split
    · exact modFlow_sameDelivery l3Lookup_elsewhere
    · exact addConcreteRouterInterface_sameDelivery store _ _

theorem deleteRouterPort_sameDelivery (router : LogicalRouter)
    (routerPort : LogicalRouterPort) :
    Keeps SameDelivery (deleteRouterPort store router routerPort) := by
  refine Keeps.bind (Keeps.ofExcept _) fun lswitch =>
    Keeps.bind (modFlow_sameDelivery l2Lookup_elsewhere) fun _ => Keeps.bind ?_ fun _ =>
      Keeps.bind (modFlow_sameDelivery l3Lookup_elsewhere) fun _ =>
        modFlow_sameDelivery l3Lookup_elsewhere
  cases routerPort.network.ip with
  | v4 ip =>
      exact Keeps.bind (modFlow_sameDelivery arp_elsewhere) fun _ =>
        modFlow_sameDelivery l3Lookup_elsewhere
  | v6 ip => exact Keeps.pure _

theorem routerCreated_sameDelivery (router : LogicalRouter) :
    Keeps SameDelivery (routerCreated store router) :=
  Keeps.bind (Keeps.loop _ fun _ _ => addNewRouterPort_sameDelivery store _ _) fun _ =>
    Keeps.loop _ fun _ _ => addRouterExtraRoute_sameDelivery store _ _

theorem routerUpdated_sameDelivery (router original : LogicalRouter) :
    Keeps SameDelivery (routerUpdated store router original) :=
  Keeps.bind
    (Keeps.bind (Keeps.loop _ fun _ _ => deleteRouterPort_sameDelivery store _ _) fun _ =>
      Keeps.loop _ fun _ _ => addNewRouterPort_sameDelivery store _ _) fun _ =>
    Keeps.bind (Keeps.loop _ fun _ _ => deleteRouterExtraRoute_sameDelivery _ _) fun _ =>
      Keeps.loop _ fun _ _ => addRouterExtraRoute_sameDelivery store _ _

theorem routerDeleted_sameDelivery (router : LogicalRouter) :
    Keeps SameDelivery (routerDeleted store router) :=
  Keeps.bind (Keeps.loop _ fun _ _ => deleteRouterPort_sameDelivery store _ _) fun _ =>
    Keeps.bind (Keeps.loop _ fun _ _ => deleteRouterExtraRoute_sameDelivery _ _) fun _ =>
      Keeps.modify fun _ => rfl

/-! ## What ports write -/

/-- The addresses of a port, with the MAC addresses that are configured for them. -/
def addresses (lport : LogicalPort) : List (IPAddress × Option MacAddress) :=
  lport.ips.map (fun ip => (ip, lport.mac)) ++
    lport.allowedAddressPairs.map fun pair => (pair.ipAddress, some pair.macAddress)

/-- The key of the network of a port. -/
def networkKey (lswitches : Id → Option LogicalSwitch) (lport : LogicalPort) : Option Nat :=
  (lport.lswitch.bind lswitches).map LogicalSwitch.uniqueKey

abbrev DeliveryWrite := Write Destination (FlowEntry Instruction)

def addWrites (networkId : Nat) (lport : LogicalPort) : List DeliveryWrite :=
  (addresses lport).map fun address => ⟨(networkId, address.1), address.2.map fun mac =>
    (addForwardToPortFlow address.1 mac networkId lport.uniqueKey).flow.entry⟩

def removeWrites (networkId : Nat) (lport : LogicalPort) : List DeliveryWrite :=
  (addresses lport).map fun address => ⟨(networkId, address.1), none⟩

/-- What adding a port writes. A port whose network is not known gets no flows. -/
def portWrites (lswitches : Id → Option LogicalSwitch) (lport : LogicalPort) :
    List DeliveryWrite :=
  (networkKey lswitches lport).elim [] fun networkId => addWrites networkId lport

def portDrops (lswitches : Id → Option LogicalSwitch) (lport : LogicalPort) :
    List DeliveryWrite :=
  (networkKey lswitches lport).elim [] fun networkId => removeWrites networkId lport

/-- The router of the port can be looked up: it has a fixed address to do so with, or
there is no router on its network. -/
def LooksUp (store : L3Store) (lport : LogicalPort) : Prop :=
  lport.ips ≠ [] ∨ ∀ id ∈ lport.lswitch, attachments store id = []

instance (store : L3Store) (lport : LogicalPort) : Decidable (LooksUp store lport) :=
  inferInstanceAs (Decidable (_ ∨ ∀ id ∈ lport.lswitch, attachments store id = []))

/-- A port that has no addresses needs no flows. -/
def Readable (store : L3Store) (lport : LogicalPort) : Prop :=
  addresses lport = [] ∨ LooksUp store lport

instance (store : L3Store) (lport : LogicalPort) : Decidable (Readable store lport) :=
  inferInstanceAs (Decidable (_ ∨ _))

/-- The fixed addresses of a port are reached at its MAC address. -/
def HasMac (lport : LogicalPort) : Prop := lport.ips = [] ∨ lport.mac ≠ none

instance (lport : LogicalPort) : Decidable (HasMac lport) :=
  inferInstanceAs (Decidable (_ ∨ _))

variable {store} {lport : LogicalPort}

theorem HasMac.of_ip {ip : IPAddress} (hasMac : HasMac lport) (member : ip ∈ lport.ips) :
    ∃ mac, lport.mac = some mac := by
  rcases hasMac with noIps | hasMac
  · rw [noIps] at member
    cases member
  · exact Option.ne_none_iff_exists'.mp hasMac

theorem HasMac.of_address {ip : IPAddress} {mac : Option MacAddress} (hasMac : HasMac lport)
    (member : (ip, mac) ∈ addresses lport) : ∃ address, mac = some address := by
  rcases List.mem_append.mp member with isFixed | isPair
  · rcases List.mem_map.mp isFixed with ⟨_, isIp, same⟩
    rcases hasMac.of_ip isIp with ⟨address, isMac⟩
    exact ⟨address, (congrArg Prod.snd same).symm.trans isMac⟩
  · rcases List.mem_map.mp isPair with ⟨pair, _, same⟩
    exact ⟨pair.macAddress, (congrArg Prod.snd same).symm⟩

theorem portLswitch_of_networkKey {networkId : Nat}
    (isKey : networkKey store.lswitches lport = some networkId) :
    ∃ id lswitch, lport.lswitch = some id ∧ portLswitch store lport = .ok lswitch ∧
      lswitch.uniqueKey = networkId := by
  rcases Option.map_eq_some_iff.mp isKey with ⟨lswitch, isLswitch, isUnique⟩
  rcases Option.bind_eq_some_iff.mp isLswitch with ⟨id, isId, found⟩
  refine ⟨id, lswitch, isId, ?_, isUnique⟩
  unfold portLswitch Inventory.lswitch
  rw [isId]
  simp only [found]

theorem portLswitch_of_none (noKey : networkKey store.lswitches lport = none) :
    ∃ error, portLswitch store lport = .error error := by
  unfold portLswitch Inventory.lswitch
  cases isId : lport.lswitch with
  | none => exact ⟨_, rfl⟩
  | some id =>
      unfold networkKey at noKey
      rw [isId, Option.bind_some, Option.map_eq_none_iff] at noKey
      exact ⟨.referencedObjectNotFound, by simp only [noKey]⟩

theorem getRouter_ok {id : Id} (isId : lport.lswitch = some id)
    (looksUp : LooksUp store lport) :
    ∃ found, getRouterByLswitchAndPortIp store id lport.ip = .ok found := by
  unfold getRouterByLswitchAndPortIp
  cases attached : attachments store id with
  | nil => exact ⟨none, rfl⟩
  | cons attachment attachments =>
      rcases looksUp with hasIp | alone
      · rcases List.exists_cons_of_ne_nil hasIp with ⟨ip, ips, areIps⟩
        rw [LogicalPort.ip, areIps]
        exact ⟨_, rfl⟩
      · rw [alone id isId] at attached
        cases attached

theorem modFlow_writesNothing {message : OFPFlowMod}
    (elsewhere : message.table ≠ Const.l3ProactiveLookupTable) :
    WritesTo delivery (modFlow message) [] :=
  writesTo_modify fun _ => funext fun _ => FlowTable.apply_other_table elsewhere.symm

theorem changeRouteCacheStatus_writesNothing (routerId : Id) (fromPart toPart : RoutePart)
    (route : HostRoute) :
    WritesTo delivery (changeRouteCacheStatus routerId fromPart toPart route) [] := by
  refine WritesTo.after_nothing (writesTo_modify fun app => ?_)
    (writesTo_modify fun _ => rfl)
  cases app.routeCache.lookup routerId <;> rfl

theorem reprocessToAddRoute_writesNothing {id : Id}
    {found : Option (LogicalRouter × LogicalRouterPort)} (hasMac : HasMac lport)
    (isId : lport.lswitch = some id)
    (isFound : getRouterByLswitchAndPortIp store id lport.ip = .ok found) :
    WritesTo delivery (reprocessToAddRoute store lport) [] := by
  refine writesTo_ofExcept (show lswitchId lport = .ok id by rw [lswitchId, isId])
    (writesTo_ofExcept isFound ?_)
  cases found with
  | none => exact writesTo_pure
  | some attachment =>
      refine writesTo_get fun app => writesTo_loop_nothing _ fun route member => ?_
      -- The port has the next hop of the route as an address.
      have isNexthop : lport.ip = some route.nexthop := by
        simpa using (List.mem_filter.mp member).2
      rcases hasMac.of_ip (List.mem_of_mem_head? isNexthop) with ⟨mac, isMac⟩
      refine writesTo_ofExcept (show encoded lport.mac = .ok mac by rw [isMac, encoded]) ?_
      exact WritesTo.after_nothing (modFlow_writesNothing l3Lookup_elsewhere)
        (changeRouteCacheStatus_writesNothing _ _ _ route)

theorem reprocessToDeleteRoute_writesNothing {id : Id}
    {found : Option (LogicalRouter × LogicalRouterPort)}
    (isId : lport.lswitch = some id)
    (isFound : getRouterByLswitchAndPortIp store id lport.ip = .ok found) :
    WritesTo delivery (reprocessToDeleteRoute store lport) [] := by
  refine writesTo_ofExcept (show lswitchId lport = .ok id by rw [lswitchId, isId])
    (writesTo_ofExcept isFound ?_)
  cases found with
  | none => exact writesTo_pure
  | some attachment =>
      refine writesTo_get fun app => writesTo_loop_nothing _ fun route _ => ?_
      exact WritesTo.after_nothing (modFlow_writesNothing l3Lookup_elsewhere)
        (changeRouteCacheStatus_writesNothing _ _ _ route)

/-- A first part that leaves the table alone, and a second part for the addresses of a
port, which needs its network. -/
theorem addressLoop_delivery {first : Action Unit} {address : LogicalSwitch → Action Unit}
    {writes : List DeliveryWrite} (app : L3ProactiveApp)
    (keeps : Keeps SameDelivery first)
    (noAddress : addresses lport = [] → writes = [] ∧
      ∀ lswitch, WritesTo delivery (address lswitch) [])
    (noNetwork : networkKey store.lswitches lport = none → writes = [])
    (known : ∀ networkId, networkKey store.lswitches lport = some networkId →
      addresses lport ≠ [] → WritesTo delivery first [] ∧
        ∀ lswitch, lswitch.uniqueKey = networkId →
          WritesTo delivery (address lswitch) writes) :
    (exec (do
      first
      let lswitch ← Program.ofExcept (portLswitch store lport)
      address lswitch) app).2.delivery = Write.applyAll app.delivery writes := by
  by_cases hasAddress : addresses lport = []
  · rcases noAddress hasAddress with ⟨rfl, nothing⟩
    have all : Keeps SameDelivery (do
        first
        let lswitch ← Program.ofExcept (portLswitch store lport)
        address lswitch) := by
      refine Keeps.bind keeps fun _ => Keeps.bind (Keeps.ofExcept _) fun lswitch state => ?_
      rcases nothing lswitch state with ⟨after, executed, isAfter⟩
      rw [executed]
      exact isAfter
    exact all app
  · cases isKey : networkKey store.lswitches lport with
    | none =>
        rw [noNetwork isKey]
        rcases portLswitch_of_none isKey with ⟨error, raises⟩
        rw [raises]
        have all : Keeps SameDelivery (do
            first
            let lswitch ← (Program.ofExcept (.error error) : Action LogicalSwitch)
            address lswitch) :=
          Keeps.bind keeps fun _ => Keeps.throw error
        exact all app
    | some networkId =>
        rcases known networkId isKey hasAddress with ⟨firstNothing, writesAddresses⟩
        rcases portLswitch_of_networkKey isKey with ⟨id, lswitch, _, isLswitch, isUnique⟩
        have all : WritesTo delivery _ ([] ++ writes) := firstNothing.bind
          (writesTo_ofExcept isLswitch (writesAddresses lswitch isUnique))
        rcases all app with ⟨after, executed, isAfter⟩
        rw [executed]
        exact isAfter

theorem addAddresses_writes (networkId : Nat) (hasMac : HasMac lport) :
    WritesTo delivery (do
        forM lport.ips fun dstIp => do
          let dstMac ← Program.ofExcept (encoded lport.mac)
          modFlow (addForwardToPortFlow dstIp dstMac networkId lport.uniqueKey)
        forM lport.allowedAddressPairs fun addressPair =>
          modFlow (addForwardToPortFlow addressPair.ipAddress addressPair.macAddress
            networkId lport.uniqueKey))
      (addWrites networkId lport) := by
  unfold addWrites addresses
  rw [List.map_append, List.map_map, List.map_map]
  refine (writesTo_each _ fun ip member => ?_).bind
    (writesTo_each _ fun pair _ => add_writes _ _ _ _)
  rcases hasMac.of_ip member with ⟨mac, isMac⟩
  simp only [isMac, Function.comp_apply, Option.map_some]
  exact writesTo_ofExcept rfl (add_writes ip mac _ _)

theorem removeAddresses_writes (networkId : Nat) (lport : LogicalPort) :
    WritesTo delivery (do
        forM lport.ips fun dstIp => modFlow (removeForwardToPortFlow dstIp networkId)
        forM lport.allowedAddressPairs fun addressPair =>
          modFlow (removeForwardToPortFlow addressPair.ipAddress networkId))
      (removeWrites networkId lport) := by
  unfold removeWrites addresses
  rw [List.map_append, List.map_map, List.map_map]
  exact (writesTo_each _ fun ip _ => remove_writes ip _).bind
    (writesTo_each _ fun pair _ => remove_writes _ _)

theorem portWrites_of_key {networkId : Nat}
    (isKey : networkKey store.lswitches lport = some networkId) :
    portWrites store.lswitches lport = addWrites networkId lport := by
  rw [portWrites, isKey]
  rfl

theorem portDrops_of_key {networkId : Nat}
    (isKey : networkKey store.lswitches lport = some networkId) :
    portDrops store.lswitches lport = removeWrites networkId lport := by
  rw [portDrops, isKey]
  rfl

theorem addPort_delivery (readable : Readable store lport) (hasMac : HasMac lport)
    (app : L3ProactiveApp) :
    (exec (addPort store lport) app).2.delivery =
      Write.applyAll app.delivery (portWrites store.lswitches lport) := by
  refine addressLoop_delivery app (reprocessToAddRoute_sameDelivery store lport) ?_ ?_ ?_
  · intro noAddress
    have nothing : ∀ networkId, addWrites networkId lport = [] := by
      intro networkId
      rw [addWrites, noAddress, List.map_nil]
    refine ⟨?_, fun lswitch => ?_⟩
    · unfold portWrites
      cases networkKey store.lswitches lport <;> simp [nothing]
    · have writes := addAddresses_writes lswitch.uniqueKey hasMac
      rwa [nothing] at writes
  · intro noNetwork
    rw [portWrites, noNetwork]
    rfl
  · intro networkId isKey hasAddress
    rcases portLswitch_of_networkKey isKey with ⟨id, _, isId, _, _⟩
    rcases getRouter_ok isId (readable.resolve_left hasAddress) with ⟨found, isFound⟩
    refine ⟨reprocessToAddRoute_writesNothing hasMac isId isFound, ?_⟩
    rintro lswitch rfl
    rw [portWrites_of_key isKey]
    exact addAddresses_writes lswitch.uniqueKey hasMac

theorem removePort_delivery (readable : Readable store lport) (app : L3ProactiveApp) :
    (exec (removePort store lport) app).2.delivery =
      Write.applyAll app.delivery (portDrops store.lswitches lport) := by
  refine addressLoop_delivery app (reprocessToDeleteRoute_sameDelivery store lport) ?_ ?_ ?_
  · intro noAddress
    have nothing : ∀ networkId, removeWrites networkId lport = [] := by
      intro networkId
      rw [removeWrites, noAddress, List.map_nil]
    refine ⟨?_, fun lswitch => ?_⟩
    · unfold portDrops
      cases networkKey store.lswitches lport <;> simp [nothing]
    · have writes := removeAddresses_writes lswitch.uniqueKey lport
      rwa [nothing] at writes
  · intro noNetwork
    rw [portDrops, noNetwork]
    rfl
  · intro networkId isKey hasAddress
    rcases portLswitch_of_networkKey isKey with ⟨id, _, isId, _, _⟩
    rcases getRouter_ok isId (readable.resolve_left hasAddress) with ⟨found, isFound⟩
    refine ⟨reprocessToDeleteRoute_writesNothing isId isFound, ?_⟩
    rintro lswitch rfl
    rw [portDrops_of_key isKey]
    exact removeAddresses_writes lswitch.uniqueKey lport

theorem removePort_writes {networkId : Nat} (looksUp : LooksUp store lport)
    (isKey : networkKey store.lswitches lport = some networkId) :
    WritesTo delivery (removePort store lport) (portDrops store.lswitches lport) := by
  rcases portLswitch_of_networkKey isKey with ⟨id, lswitch, isId, isLswitch, isUnique⟩
  rcases getRouter_ok isId looksUp with ⟨found, isFound⟩
  rw [portDrops_of_key isKey, ← isUnique]
  exact WritesTo.after_nothing (reprocessToDeleteRoute_writesNothing isId isFound)
    (writesTo_ofExcept isLswitch (removeAddresses_writes lswitch.uniqueKey lport))

/-- The old version can be removed, so that the new one is added after it, unless there
is nothing to be added. -/
def Replaceable (store : L3Store) (lport original : LogicalPort) : Prop :=
  (LooksUp store original ∧ networkKey store.lswitches original ≠ none) ∨
    addresses lport = [] ∨ networkKey store.lswitches lport = none

instance (store : L3Store) (lport original : LogicalPort) :
    Decidable (Replaceable store lport original) :=
  inferInstanceAs (Decidable (_ ∨ _ ∨ _))

theorem portWrites_nothing {lswitches : Id → Option LogicalSwitch}
    (nothing : addresses lport = [] ∨ networkKey lswitches lport = none) :
    portWrites lswitches lport = [] := by
  unfold portWrites addWrites
  rcases nothing with noAddress | noNetwork
  · rw [noAddress]
    cases networkKey lswitches lport <;> rfl
  · rw [noNetwork]
    rfl

theorem replacePort_delivery {original : LogicalPort} (readable : Readable store original)
    (readableNew : Readable store lport) (hasMac : HasMac lport)
    (replaceable : Replaceable store lport original) (app : L3ProactiveApp) :
    (exec (do removePort store original; addPort store lport) app).2.delivery =
      Write.applyAll (Write.applyAll app.delivery (portDrops store.lswitches original))
        (portWrites store.lswitches lport) := by
  rcases replaceable with ⟨looksUp, hasNetwork⟩ | nothing
  · rcases Option.ne_none_iff_exists'.mp hasNetwork with ⟨networkId, isKey⟩
    rcases removePort_writes looksUp isKey app with ⟨middle, executed, isMiddle⟩
    rw [exec_bind_ok executed, addPort_delivery readableNew hasMac, isMiddle]
  · rw [portWrites_nothing nothing, Write.applyAll_nil, ← removePort_delivery readable app,
      exec_bind]
    rcases exec (removePort store original) app with ⟨_ | _, middle⟩
    · rfl
    · rw [addPort_delivery readableNew hasMac, portWrites_nothing nothing]
      rfl

/-- Adding and removing a port are about the same addresses. -/
theorem touch_portDrops {lswitches : Id → Option LogicalSwitch} {destination : Destination} :
    Write.Touch (portDrops lswitches lport) destination ↔
      Write.Touch (portWrites lswitches lport) destination := by
  unfold portDrops portWrites
  cases networkKey lswitches lport with
  | none => exact Iff.rfl
  | some networkId => simp [Write.Touch, addWrites, removeWrites]

theorem portDrops_empty {lswitches : Id → Option LogicalSwitch} :
    ∀ write ∈ portDrops lswitches lport, write.value = none := by
  intro write member
  unfold portDrops at member
  cases isKey : networkKey lswitches lport with
  | none =>
      rw [isKey] at member
      cases member
  | some networkId =>
      rw [isKey] at member
      rcases List.mem_map.mp member with ⟨address, _, rfl⟩
      rfl

/-! ## Ports that share the table -/

/-- The addresses of a port in its network. -/
def destinations (lswitches : Id → Option LogicalSwitch) (lport : LogicalPort) :
    List Destination :=
  (networkKey lswitches lport).elim [] fun networkId =>
    (addresses lport).map fun address => (networkId, address.1)

variable {lswitches : Id → Option LogicalSwitch} {destination : Destination}
  {lports : List LogicalPort} {table : Delivery}

theorem touch_portWrites :
    Write.Touch (portWrites lswitches lport) destination ↔
      destination ∈ destinations lswitches lport := by
  unfold portWrites destinations
  cases networkKey lswitches lport with
  | none => simp [Write.Touch]
  | some networkId => simp [Write.Touch, addWrites]

/-- Every address of a port has a flow, and every flow is one that a port writes. -/
structure Covered (lswitches : Id → Option LogicalSwitch) (lports : List LogicalPort)
    (table : Delivery) : Prop where
  unique : ∀ first ∈ lports, ∀ second ∈ lports, first.id = second.id → first = second
  ordinary : ∀ lport ∈ lports, isRouterInterface lport = false
  hasMac : ∀ lport ∈ lports, HasMac lport
  each : ∀ destination,
    (table destination = none ∧
      ∀ lport ∈ lports, destination ∉ destinations lswitches lport) ∨
    ∃ lport ∈ lports, ∃ write ∈ portWrites lswitches lport, write.key = destination ∧
      table destination = write.value

/-- No other port has an address of the port, except those that are kept. -/
def Releases (lswitches : Id → Option LogicalSwitch) (lports : List LogicalPort)
    (lport : LogicalPort) (kept : List Destination) : Prop :=
  ∀ other ∈ lports, other.id ≠ lport.id →
    ∀ destination ∈ destinations lswitches lport,
      destination ∈ destinations lswitches other → destination ∈ kept

instance (lport : LogicalPort) (kept : List Destination) :
    Decidable (Releases lswitches lports lport kept) :=
  inferInstanceAs (Decidable (∀ other ∈ lports, _ → ∀ destination ∈ _, _ → _))

theorem Covered.bind (covered : Covered lswitches lports table)
    (absent : ∀ other ∈ lports, other.id ≠ lport.id)
    (isOrdinary : isRouterInterface lport = false) (hasMac : HasMac lport) :
    Covered lswitches (lports ++ [lport])
      (Write.applyAll table (portWrites lswitches lport)) where
  unique first isFirst second isSecond same := by
    rw [List.mem_append, List.mem_singleton] at isFirst isSecond
    rcases isFirst with isFirst | rfl <;> rcases isSecond with isSecond | rfl
    · exact covered.unique first isFirst second isSecond same
    · exact absurd same (absent first isFirst)
    · exact absurd same.symm (absent second isSecond)
    · rfl
  ordinary other member := by
    rcases List.mem_append.mp member with isOld | isNew
    · exact covered.ordinary other isOld
    · rw [List.mem_singleton.mp isNew]
      exact isOrdinary
  hasMac other member := by
    rcases List.mem_append.mp member with isOld | isNew
    · exact covered.hasMac other isOld
    · rw [List.mem_singleton.mp isNew]
      exact hasMac
  each destination := by
    by_cases touched : Write.Touch (portWrites lswitches lport) destination
    · rcases @Write.applyAll_found _ _ _ table _ _ touched with ⟨write, written, found⟩
      exact Or.inr ⟨lport, List.mem_append_right _ List.mem_cons_self, write, written, found⟩
    · rw [Write.applyAll_untouched touched]
      rcases covered.each destination with ⟨isNone, noOther⟩ | ⟨other, member, found⟩
      · refine Or.inl ⟨isNone, fun other member => ?_⟩
        rcases List.mem_append.mp member with isOld | isNew
        · exact noOther other isOld
        · rw [List.mem_singleton.mp isNew, ← touch_portWrites]
          exact touched
      · exact Or.inr ⟨other, List.mem_append_left _ member, found⟩

/-- What is left when a port is removed, apart from the flows that are written again. -/
theorem Covered.unbind (covered : Covered lswitches lports table) (member : lport ∈ lports)
    (kept : List Destination) (releases : Releases lswitches lports lport kept)
    (notKept : destination ∉ kept) :
    (Write.applyAll table (portDrops lswitches lport) destination = none ∧
      ∀ other ∈ lports, other.id ≠ lport.id →
        destination ∉ destinations lswitches other) ∨
    ∃ other ∈ lports, other.id ≠ lport.id ∧ ∃ write ∈ portWrites lswitches other,
      write.key = destination ∧
        Write.applyAll table (portDrops lswitches lport) destination = write.value := by
  by_cases touched : Write.Touch (portDrops lswitches lport) destination
  · left
    refine ⟨Write.applyAll_agreed touched fun write written _ =>
      portDrops_empty write written, fun other isOther different has => ?_⟩
    exact notKept (releases other isOther different destination
      (touch_portWrites.mp (touch_portDrops.mp touched)) has)
  · rw [Write.applyAll_untouched touched]
    rcases covered.each destination with ⟨isNone, noOther⟩ | ⟨other, isOther, write, written,
      isKey, isValue⟩
    · exact Or.inl ⟨isNone, fun other isOther _ => noOther other isOther⟩
    · refine Or.inr ⟨other, isOther, fun same => touched (touch_portDrops.mpr ?_), write,
        written, isKey, isValue⟩
      rw [← covered.unique other isOther lport member same]
      exact ⟨write, written, isKey⟩

theorem Covered.removed (covered : Covered lswitches lports table) (member : lport ∈ lports)
    (releases : Releases lswitches lports lport []) :
    Covered lswitches (lports.filter fun other => other.id ≠ lport.id)
      (Write.applyAll table (portDrops lswitches lport)) where
  unique first isFirst second isSecond :=
    covered.unique first (List.mem_filter.mp isFirst).1 second (List.mem_filter.mp isSecond).1
  ordinary other isOther := covered.ordinary other (List.mem_filter.mp isOther).1
  hasMac other isOther := covered.hasMac other (List.mem_filter.mp isOther).1
  each destination := by
    have filtered : ∀ other, other ∈ lports.filter (fun other => other.id ≠ lport.id) ↔
        other ∈ lports ∧ other.id ≠ lport.id := by
      simp only [List.mem_filter, decide_eq_true_eq, implies_true]
    rcases covered.unbind member [] releases List.not_mem_nil with
      ⟨isNone, noOther⟩ | ⟨other, isOther, different, found⟩
    · exact Or.inl ⟨isNone, fun other isOther =>
        noOther other ((filtered other).mp isOther).1 ((filtered other).mp isOther).2⟩
    · exact Or.inr ⟨other, (filtered other).mpr ⟨isOther, different⟩, found⟩

/-! ## Updates of ports -/

variable {original other : LogicalPort}

def replaced (lports : List LogicalPort) (lport : LogicalPort) : List LogicalPort :=
  lports.map fun other => if other.id = lport.id then lport else other

theorem mem_replaced (member : original ∈ lports) (sameId : original.id = lport.id) :
    other ∈ replaced lports lport ↔
      other = lport ∨ (other ∈ lports ∧ other.id ≠ lport.id) := by
  rw [replaced, List.mem_map]
  constructor
  · rintro ⟨found, isFound, rfl⟩
    split
    · exact Or.inl rfl
    · next different => exact Or.inr ⟨isFound, different⟩
  · rintro (rfl | ⟨isOther, different⟩)
    · exact ⟨original, member, if_pos sameId⟩
    · exact ⟨other, isOther, if_neg different⟩

theorem unique_replaced (covered : Covered lswitches lports table)
    (member : original ∈ lports) (sameId : original.id = lport.id) :
    ∀ first ∈ replaced lports lport, ∀ second ∈ replaced lports lport,
      first.id = second.id → first = second := by
  intro first isFirst second isSecond same
  rw [mem_replaced member sameId] at isFirst isSecond
  rcases isFirst with rfl | ⟨isFirst, different⟩ <;>
    rcases isSecond with rfl | ⟨isSecond, otherDifferent⟩
  · rfl
  · exact absurd same.symm otherDifferent
  · exact absurd same different
  · exact covered.unique first isFirst second isSecond same

theorem ordinary_replaced (covered : Covered lswitches lports table)
    (member : original ∈ lports) (sameId : original.id = lport.id)
    (isOrdinary : isRouterInterface lport = false) :
    ∀ other ∈ replaced lports lport, isRouterInterface other = false := by
  intro other isOther
  rcases (mem_replaced member sameId).mp isOther with rfl | ⟨isOther, _⟩
  · exact isOrdinary
  · exact covered.ordinary other isOther

theorem hasMac_replaced (covered : Covered lswitches lports table)
    (member : original ∈ lports) (sameId : original.id = lport.id)
    (hasMac : HasMac lport) : ∀ other ∈ replaced lports lport, HasMac other := by
  intro other isOther
  rcases (mem_replaced member sameId).mp isOther with rfl | ⟨isOther, _⟩
  · exact hasMac
  · exact covered.hasMac other isOther

theorem Covered.updated (covered : Covered lswitches lports table)
    (member : original ∈ lports) (sameId : original.id = lport.id)
    (isOrdinary : isRouterInterface lport = false) (hasMac : HasMac lport)
    (releases : Releases lswitches lports original (destinations lswitches lport)) :
    Covered lswitches (replaced lports lport)
      (Write.applyAll (Write.applyAll table (portDrops lswitches original))
        (portWrites lswitches lport)) where
  unique := unique_replaced covered member sameId
  ordinary := ordinary_replaced covered member sameId isOrdinary
  hasMac := hasMac_replaced covered member sameId hasMac
  each destination := by
    by_cases touched : Write.Touch (portWrites lswitches lport) destination
    · rcases @Write.applyAll_found _ _ _
        (Write.applyAll table (portDrops lswitches original)) _ _ touched with
        ⟨write, written, found⟩
      exact Or.inr ⟨lport, (mem_replaced member sameId).mpr (Or.inl rfl), write, written,
        found⟩
    · rw [Write.applyAll_untouched touched]
      rw [touch_portWrites] at touched
      rcases covered.unbind member _ releases touched with
        ⟨isNone, noOther⟩ | ⟨other, isOther, different, found⟩
      · refine Or.inl ⟨isNone, fun other isOther => ?_⟩
        rcases (mem_replaced member sameId).mp isOther with rfl | ⟨isOther, different⟩
        · exact touched
        · exact noOther other isOther (sameId ▸ different)
      · exact Or.inr ⟨other, (mem_replaced member sameId).mpr
          (Or.inr ⟨isOther, sameId ▸ different⟩), found⟩

/-- A new version that writes what the old one did. -/
theorem Covered.unchanged (covered : Covered lswitches lports table)
    (member : original ∈ lports) (sameId : original.id = lport.id)
    (isOrdinary : isRouterInterface lport = false) (hasMac : HasMac lport)
    (same : ∀ write, write ∈ portWrites lswitches lport ↔
      write ∈ portWrites lswitches original) :
    Covered lswitches (replaced lports lport) table where
  unique := unique_replaced covered member sameId
  ordinary := ordinary_replaced covered member sameId isOrdinary
  hasMac := hasMac_replaced covered member sameId hasMac
  each destination := by
    rcases covered.each destination with ⟨isNone, noOther⟩ | ⟨other, isOther, write, written,
      found⟩
    · refine Or.inl ⟨isNone, fun other isOther => ?_⟩
      rcases (mem_replaced member sameId).mp isOther with rfl | ⟨isOther, _⟩
      · intro has
        rcases touch_portWrites.mpr has with ⟨write, written, isKey⟩
        exact noOther original member
          (touch_portWrites.mp ⟨write, (same write).mp written, isKey⟩)
      · exact noOther other isOther
    · right
      by_cases isSame : other.id = lport.id
      · have isOriginal : other = original :=
          covered.unique other isOther original member (isSame.trans sameId.symm)
        rw [isOriginal] at written
        exact ⟨lport, (mem_replaced member sameId).mpr (Or.inl rfl), write,
          (same write).mpr written, found⟩
      · exact ⟨other, (mem_replaced member sameId).mpr (Or.inr ⟨isOther, isSame⟩), write,
          written, found⟩

theorem unchanged_fields (unchanged : addressesChanged lport original = false) :
    (∀ ip, ip ∈ lport.ips ↔ ip ∈ original.ips) ∧ lport.mac = original.mac ∧
      lport.allowedAddressPairs = original.allowedAddressPairs := by
  have same : lport.ips.toFinset = original.ips.toFinset ∧ lport.mac = original.mac ∧
      lport.allowedAddressPairs = original.allowedAddressPairs := by
    unfold addressesChanged at unchanged
    simpa [not_or] using unchanged
  refine ⟨fun ip => ?_, same.2⟩
  rw [← List.mem_toFinset, same.1, List.mem_toFinset]

theorem HasMac.unchanged (hasMac : HasMac original)
    (unchanged : addressesChanged lport original = false) : HasMac lport := by
  rcases unchanged_fields unchanged with ⟨sameIps, sameMac, _⟩
  rcases hasMac with noIps | hasMac
  · left
    rw [List.eq_nil_iff_forall_not_mem]
    intro ip member
    have isOld := (sameIps ip).mp member
    rw [noIps] at isOld
    cases isOld
  · right
    rw [sameMac]
    exact hasMac

theorem mem_addresses_unchanged (unchanged : addressesChanged lport original = false)
    (address : IPAddress × Option MacAddress) :
    address ∈ addresses lport ↔ address ∈ addresses original := by
  rcases unchanged_fields unchanged with ⟨sameIps, mac, pairs⟩
  unfold addresses
  rw [mac, pairs]
  simp only [List.mem_append, List.mem_map, sameIps]

theorem portWrites_unchanged (unchanged : addressesChanged lport original = false)
    (sameKey : original.uniqueKey = lport.uniqueKey)
    (stays : lport.lswitch = original.lswitch ∨ addresses lport = []) :
    ∀ write, write ∈ portWrites lswitches lport ↔ write ∈ portWrites lswitches original := by
  intro write
  have sameAddresses := mem_addresses_unchanged unchanged
  rcases stays with sameLswitch | noAddress
  · have sameNetwork : networkKey lswitches lport = networkKey lswitches original := by
      unfold networkKey
      rw [sameLswitch]
    unfold portWrites
    rw [sameNetwork]
    cases networkKey lswitches original with
    | none => exact Iff.rfl
    | some networkId =>
        change write ∈ addWrites networkId lport ↔ write ∈ addWrites networkId original
        unfold addWrites
        rw [List.mem_map, List.mem_map, sameKey]
        simp only [sameAddresses]
  · have noOriginal : addresses original = [] := by
      rw [List.eq_nil_iff_forall_not_mem]
      intro address member
      have isNew := (sameAddresses address).mpr member
      rw [noAddress] at isNew
      cases isNew
    rw [portWrites_nothing (Or.inl noAddress), portWrites_nothing (Or.inl noOriginal)]

end L3ProactiveApp

namespace L3World

open L3ProactiveApp

/-! ## Histories -/

variable {lswitches : Id → Option LogicalSwitch} {world after : L3World}

/-- An address of a network has a flow when a bound port of the network has the address.
The flow leads to such a port. -/
def Delivered (lswitches : Id → Option LogicalSwitch) (world : L3World) : Prop :=
  ∀ networkId ip,
    (world.app.delivery (networkId, ip) ≠ none ↔
      ∃ lport ∈ world.lports, networkKey lswitches lport = some networkId ∧
        ∃ mac, (ip, mac) ∈ addresses lport) ∧
    ∀ entry, world.app.delivery (networkId, ip) = some entry →
      ∃ lport ∈ world.lports, networkKey lswitches lport = some networkId ∧
        ∃ mac, (ip, some mac) ∈ addresses lport ∧
          entry = (addForwardToPortFlow ip mac networkId lport.uniqueKey).flow.entry

/-- The event deletes no flow of an address that another port still has, and is not
missed. -/
def Releasing (lswitches : Id → Option LogicalSwitch) (world : L3World) : L3Event → Prop
  | .bind lport => isRouterInterface lport = false ∧
      Readable (world.store lswitches) lport ∧ HasMac lport
  | .unbind id => ∀ lport ∈ world.lport id, Readable (world.store lswitches) lport ∧
      Releases lswitches world.lports lport []
  | .updated lport => ∀ original ∈ world.lport lport.id,
      isRouterInterface lport = false ∧
        if addressesChanged lport original then
          Readable (world.store lswitches) original ∧
            Readable (world.store lswitches) lport ∧ HasMac lport ∧
            Replaceable (world.store lswitches) lport original ∧
            Releases lswitches world.lports original (destinations lswitches lport)
        else lport.lswitch = original.lswitch ∨ addresses lport = []
  | _ => True

instance (world : L3World) : ∀ event, Decidable (world.Releasing lswitches event)
  | .bind _ => inferInstanceAs (Decidable (_ ∧ _))
  | .unbind _ => inferInstanceAs (Decidable (∀ lport ∈ world.lport _, _))
  | .updated lport => inferInstanceAs (Decidable (∀ original ∈ world.lport lport.id, _))
  | .routerCreated _ => isTrue trivial
  | .routerUpdated _ => isTrue trivial
  | .routerDeleted _ => isTrue trivial

theorem mem_portWrites {networkId : Nat} {ip : IPAddress} {lport : LogicalPort}
    {write : DeliveryWrite} (written : write ∈ portWrites lswitches lport)
    (isKey : write.key = (networkId, ip)) (hasMac : HasMac lport) :
    networkKey lswitches lport = some networkId ∧ ∃ mac, (ip, some mac) ∈ addresses lport ∧
      write.value =
        some (addForwardToPortFlow ip mac networkId lport.uniqueKey).flow.entry := by
  unfold portWrites at written
  cases isNetwork : networkKey lswitches lport with
  | none =>
      rw [isNetwork] at written
      cases written
  | some found =>
      rw [isNetwork] at written
      rcases List.mem_map.mp written with ⟨⟨address, mac⟩, member, rfl⟩
      cases isKey
      rcases hasMac.of_address member with ⟨mac, rfl⟩
      exact ⟨rfl, mac, member, rfl⟩

theorem delivered_of_covered (covered : Covered lswitches world.lports world.app.delivery) :
    world.Delivered lswitches := by
  intro networkId ip
  rcases covered.each (networkId, ip) with ⟨isNone, noPort⟩ | ⟨lport, member, write, written,
    isKey, isValue⟩
  · refine ⟨⟨fun some => absurd isNone some, ?_⟩, fun entry found => ?_⟩
    · rintro ⟨lport, member, isNetwork, mac, hasAddress⟩
      refine absurd ?_ (noPort lport member)
      rw [destinations, isNetwork]
      exact List.mem_map.mpr ⟨(ip, mac), hasAddress, rfl⟩
    · rw [isNone] at found
      cases found
  · rcases mem_portWrites written isKey (covered.hasMac lport member) with
      ⟨isNetwork, mac, hasAddress, isEntry⟩
    rw [isEntry] at isValue
    refine ⟨⟨fun _ => ⟨lport, member, isNetwork, some mac, hasAddress⟩, fun _ isNone => ?_⟩,
      fun entry found => ⟨lport, member, isNetwork, mac, hasAddress, ?_⟩⟩
    · rw [isValue] at isNone
      cases isNone
    · rw [isValue] at found
      exact (Option.some.inj found).symm

theorem lport_absent {id : Id} (absent : world.lport id = none) :
    ∀ lport ∈ world.lports, lport.id ≠ id := by
  intro lport member
  simpa using List.find?_eq_none.mp absent lport member

theorem lport_present {id : Id} {lport : LogicalPort} (present : world.lport id = some lport) :
    lport ∈ world.lports ∧ lport.id = id :=
  ⟨List.mem_of_find?_eq_some present, by simpa using List.find?_some present⟩

theorem step_covered {event : L3Event}
    (covered : Covered lswitches world.lports world.app.delivery)
    (releasing : world.Releasing lswitches event)
    (stepped : world.step lswitches event = some after) :
    Covered lswitches after.lports after.app.delivery := by
  have quiet : ∀ {action : L3ProactiveApp.Action Unit}, Keeps SameDelivery action →
      Covered lswitches world.lports (exec action world.app).2.delivery := by
    intro action keeps
    rw [keeps world.app]
    exact covered
  cases event with
  | routerCreated router =>
      cases absent : world.router router.id with
      | some _ =>
          rw [step, absent] at stepped
          cases stepped
      | none =>
          rw [step, absent] at stepped
          cases stepped
          exact quiet (routerCreated_sameDelivery _ router)
  | routerUpdated router =>
      cases present : world.router router.id with
      | none =>
          rw [step, present] at stepped
          cases stepped
      | some original =>
          simp only [step, present] at stepped
          split at stepped
          · cases stepped
            exact quiet (routerUpdated_sameDelivery _ router original)
          · cases stepped
  | routerDeleted id =>
      cases present : world.router id with
      | none =>
          rw [step, present] at stepped
          cases stepped
      | some router =>
          rw [step, present] at stepped
          cases stepped
          exact quiet (routerDeleted_sameDelivery _ router)
  | bind lport =>
      cases absent : world.lport lport.id with
      | some _ =>
          rw [step, absent] at stepped
          cases stepped
      | none =>
          rw [step, absent] at stepped
          cases stepped
          rcases releasing with ⟨isOrdinary, readable, hasMac⟩
          simp only [run, addPortEventHandler, isOrdinary]
          change Covered lswitches (world.lports ++ [lport])
            (exec (addPort _ lport) world.app).2.delivery
          have stillReadable : Readable (L3World.store lswitches { world with
              lports := world.lports ++ [lport] }) lport := readable
          rw [addPort_delivery stillReadable hasMac]
          exact covered.bind (lport_absent absent) isOrdinary hasMac
  | unbind id =>
      cases present : world.lport id with
      | none =>
          rw [step, present] at stepped
          cases stepped
      | some lport =>
          rw [step, present] at stepped
          cases stepped
          rcases releasing lport present with ⟨readable, releases⟩
          rcases lport_present present with ⟨member, rfl⟩
          simp only [run, removePortEventHandler, covered.ordinary lport member, removeLport]
          change Covered lswitches (world.lports.filter fun other => other.id ≠ lport.id)
            (exec (removePort _ lport) world.app).2.delivery
          rw [removePort_delivery readable]
          exact covered.removed member releases
  | updated lport =>
      cases present : world.lport lport.id with
      | none =>
          rw [step, present] at stepped
          cases stepped
      | some original =>
          simp only [step, present] at stepped
          rcases releasing original present with ⟨isOrdinary, releases⟩
          rcases lport_present present with ⟨member, sameId⟩
          split at stepped
          · next sameKey =>
              cases stepped
              simp only [run, updatePortEventHandler, isOrdinary, updatePort]
              split at releases
              · next changed =>
                  rcases releases with
                    ⟨readable, readableNew, hasMac, replaceable, releases⟩
                  simp only [changed]
                  change Covered lswitches (replaced world.lports lport)
                    (exec (do removePort _ original; addPort _ lport) world.app).2.delivery
                  have replacedDelivery : ∀ app, _ = _ := @replacePort_delivery
                    ((world.replaceLport lport).store lswitches) _ _ readable readableNew
                    hasMac replaceable
                  rw [replacedDelivery]
                  exact covered.updated member sameId isOrdinary hasMac releases
              · next unchanged =>
                  have isUnchanged := Bool.eq_false_of_not_eq_true unchanged
                  simp only [isUnchanged]
                  exact covered.unchanged member sameId isOrdinary
                    ((covered.hasMac original member).unchanged isUnchanged)
                    (portWrites_unchanged isUnchanged sameKey releases)
          · cases stepped

/-- The proactive table covers the addresses of the bound ports in every run of
releasing events. -/
theorem delivery_covers_ports (lswitches : Id → Option LogicalSwitch)
    (events : List L3Event)
    (releasing : Throughout (step lswitches) (Releasing lswitches) events {})
    (reached : L3World) (walked : steps (step lswitches) events {} = some reached) :
    reached.Delivered lswitches := by
  have initial : Covered lswitches ({} : L3World).lports ({} : L3World).app.delivery :=
    { unique := fun _ impossible => by cases impossible
      ordinary := fun _ impossible => by cases impossible
      hasMac := fun _ impossible => by cases impossible
      each := fun _ => Or.inl ⟨rfl, fun _ impossible => by cases impossible⟩ }
  exact delivered_of_covered (steps_throughout
    (fun world => Covered lswitches world.lports world.app.delivery)
    (fun _ _ _ covered met stepped => step_covered covered met stepped) initial releasing
    walked)

/-! ## Two ports behind one virtual address -/

def twoNetworks : Id → Option LogicalSwitch := fun id =>
  if id = "m" then some ⟨id, 5, none, none⟩
  else if id = "n" then some ⟨id, 6, none, none⟩
  else none

/-- A port of a network with a fixed address, and the address that it shares. -/
def sharing (id lswitch : Id) (uniqueKey : Nat) (ip : BitVec 32) : LogicalPort where
  id
  uniqueKey
  lswitch := some lswitch
  macs := [0xfa163e000000 + uniqueKey]
  ips := [.v4 ip]
  allowedAddressPairs := [⟨.v4 0x0a000063, 0xfa163e0000ff⟩]

/-- Two ports share an address, which a third one has in another network. The third one
is unbound, and the second one changes its other address. -/
def sharedThenReleased : List L3Event :=
  [.bind (sharing "p" "m" 1 0x0a000001), .bind (sharing "q" "m" 2 0x0a000002),
    .bind (sharing "r" "n" 3 0x0a000003), .unbind "r",
    .updated { sharing "q" "m" 2 0x0a000002 with ips := [.v4 0x0a000004, .v4 0x0a000063] }]

theorem delivery_covers_ports_shared : ∃ reached,
    steps (step twoNetworks) sharedThenReleased {} = some reached ∧
      reached.Delivered twoNetworks := by
  have returned : (steps (step twoNetworks) sharedThenReleased {}).isSome := by
    decide +kernel
  rcases Option.isSome_iff_exists.mp returned with ⟨reached, walked⟩
  exact ⟨reached, walked, delivery_covers_ports twoNetworks sharedThenReleased
    (by decide +kernel) reached walked⟩

/-- When one of two ports that share an address is unbound, the flow of the address goes
with it. -/
theorem delivery_lost : ∃ reached,
    steps (step twoNetworks) [.bind (sharing "p" "m" 1 0x0a000001),
      .bind (sharing "q" "m" 2 0x0a000002), .unbind "q"] {} = some reached ∧
    ¬ reached.Delivered twoNetworks := by
  refine ⟨_, rfl, fun delivered => ?_⟩
  have covered := (delivered 5 (.v4 0x0a000063)).1.mpr
    ⟨sharing "p" "m" 1 0x0a000001, by decide +kernel, rfl, some 0xfa163e0000ff,
      by decide +kernel⟩
  exact absurd covered (by decide +kernel)

end L3World

end Dragonflow
