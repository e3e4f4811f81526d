import Dragonflow.Controller.Apps.L2
import Dragonflow.Foundation.Steps

/-! # The proactive L3 application

`dragonflow/controller/apps/l3_proactive.py` on top of the mixin of
`dragonflow/controller/apps/l3_base.py`: routers between networks with their extra
routes, and the delivery of routed packets to ports.
-/

namespace Dragonflow

open Program

/-! ## Networks -/

namespace IPNetwork

/-- The property `ip`. -/
def ip : IPNetwork → IPAddress
  | .v4 address _ => .v4 address
  | .v6 address _ => .v6 address

/-- `__contains__` -/
def contains : IPNetwork → IPAddress → Bool
  | .v4 address length, .v4 ip =>
      address.toNat / 2 ^ (32 - length.val) = ip.toNat / 2 ^ (32 - length.val)
  | .v6 address length, .v6 ip =>
      address.toNat / 2 ^ (128 - length.val) = ip.toNat / 2 ^ (128 - length.val)
  | _, _ => false

/-- `__eq__`, which does not see the host bits. -/
def same : IPNetwork → IPNetwork → Bool
  | .v4 address length, .v4 other otherLength =>
      length = otherLength ∧
        address.toNat / 2 ^ (32 - length.val) = other.toNat / 2 ^ (32 - length.val)
  | .v6 address length, .v6 other otherLength =>
      length = otherLength ∧
        address.toNat / 2 ^ (128 - length.val) = other.toNat / 2 ^ (128 - length.val)
  | _, _ => false

/-- What a switch makes of a network and its mask. A full mask is that of an exact
address. -/
def field : IPNetwork → FieldMatch
  | .v4 address length =>
      if length.val = 32 then .exact address.toNat
      else networkAndMask (.v4 address length)
  | .v6 address length =>
      if length.val = 128 then .exact address.toNat
      else networkAndMask (.v6 address length)

end IPNetwork

/-! ## The models -/

/-- `l3.LogicalRouterPort` -/
structure LogicalRouterPort where
  id : Id
  topic : String := ""
  uniqueKey : Nat := 0
  mac : MacAddress
  lswitch : Id
  network : IPNetwork
  deriving DecidableEq, Repr

/-- `host_route.HostRoute` -/
structure HostRoute where
  destination : IPNetwork
  nexthop : IPAddress
  deriving DecidableEq, Repr

/-- The fields of `l3.LogicalRouter` that the application reads. -/
structure LogicalRouter where
  id : Id
  uniqueKey : Nat
  ports : List LogicalRouterPort := []
  routes : List HostRoute := []
  deriving DecidableEq, Repr

/-- `__eq__` of the models compares field by field. -/
def LogicalRouterPort.same (port other : LogicalRouterPort) : Bool :=
  port.id = other.id ∧ port.topic = other.topic ∧ port.uniqueKey = other.uniqueKey ∧
    port.mac = other.mac ∧ port.lswitch = other.lswitch ∧ port.network.same other.network

def HostRoute.same (route other : HostRoute) : Bool :=
  route.destination.same other.destination ∧ route.nexthop = other.nexthop

/-! ## The application -/

/-- The parts of an entry of `route_cache`. -/
inductive RoutePart
  | toAdd
  | added
  deriving DecidableEq, Repr

/-- An entry of `route_cache`. A route stands for the texts of its fields, which tell
it from every other route. The members of a set are kept in the order in which they
were added. -/
structure CachedRoutes where
  toAdd : List HostRoute := []
  added : List HostRoute := []
  deriving DecidableEq, Repr

namespace CachedRoutes

def part (cached : CachedRoutes) : RoutePart → List HostRoute
  | .toAdd => cached.toAdd
  | .added => cached.added

def change (cached : CachedRoutes) (routePart : RoutePart)
    (transform : List HostRoute → List HostRoute) : CachedRoutes :=
  match routePart with
  | .toAdd => { cached with toAdd := transform cached.toAdd }
  | .added => { cached with added := transform cached.added }

end CachedRoutes

structure L3ProactiveApp where
  routeCache : Dict Id CachedRoutes := ∅
  flows : Flows := FlowTable.empty

/-- The objects of `db_store`, in the order in which lookups yield them. -/
structure L3Store where
  lswitches : Id → Option LogicalSwitch
  routers : List LogicalRouter := []
  lports : List LogicalPort := []

namespace L3ProactiveApp

abbrev Action (β : Type) := Program L3ProactiveApp PyError β

def modFlow (message : OFPFlowMod) : Action Unit :=
  modify fun app => { app with flows := app.flows.apply message }

/-! ## The route cache -/

/-- The entry of a router. An entry that is not there has no routes. -/
def cached (app : L3ProactiveApp) (routerId : Id) : CachedRoutes :=
  (app.routeCache.lookup routerId).getD {}

/-- `_add_to_route_cache` -/
def addToRouteCache (key : RoutePart) (routerId : Id) (route : HostRoute) : Action Unit :=
  modify fun app =>
    { app with
      routeCache := app.routeCache.insert routerId
        ((app.cached routerId).change key fun routes =>
          if route ∈ routes then routes else routes ++ [route]) }

/-- `_del_from_route_cache` -/
def delFromRouteCache (key : RoutePart) (routerId : Id) (route : HostRoute) :
    Action Unit :=
  modify fun app =>
    match app.routeCache.lookup routerId with
    | none => app
    | some found =>
        { app with
          routeCache := app.routeCache.insert routerId
            (found.change key fun routes => routes.filter (· ≠ route)) }

/-- `_change_route_cache_status` -/
def changeRouteCacheStatus (routerId : Id) (fromPart toPart : RoutePart)
    (route : HostRoute) : Action Unit := do
  delFromRouteCache fromPart routerId route
  addToRouteCache toPart routerId route

/-! ## Matches -/

/-- The fields by which all packets to addresses of a network are matched. -/
def destinationMatch (network : IPNetwork) : OFPMatch :=
  match network with
  | .v4 _ _ => { ethType := some (.exact Const.ethTypeIp), ipv4Dst := some network.field }
  | .v6 _ _ => { ethType := some (.exact Const.ethTypeIpv6), ipv6Dst := some network.field }

def addressMatch (ip : IPAddress) : OFPMatch :=
  match ip with
  | .v4 bits =>
      { ethType := some (.exact Const.ethTypeIp), ipv4Dst := some (.exact bits.toNat) }
  | .v6 bits =>
      { ethType := some (.exact Const.ethTypeIpv6), ipv6Dst := some (.exact bits.toNat) }

/-- `_generate_extra_route_match` -/
def generateExtraRouteMatch (routerUniqueKey : Nat) (routerIfMac : MacAddress)
    (destination : IPNetwork) : OFPMatch :=
  { destinationMatch destination with
    reg5 := some (.exact routerUniqueKey)
    ethDst := some (.exact routerIfMac.toNat) }

/-- `_get_router_interface_match` -/
def getRouterInterfaceMatch (routerUniqueKey : Nat) (rifIp : IPAddress) : OFPMatch :=
  { addressMatch rifIp with reg5 := some (.exact routerUniqueKey) }

/-- `_get_router_route_match` -/
def getRouterRouteMatch (routerUniqueKey : Nat) (destination : IPNetwork) : OFPMatch :=
  { destinationMatch destination with reg5 := some (.exact routerUniqueKey) }

/-! ## Extra routes -/

variable (store : L3Store)

/-- `_get_port_by_lswitch_and_ip` -/
def getPortByLswitchAndIp (ip : IPAddress) (lswitchId : Id) : Option LogicalPort :=
  store.lports.find? fun lport => lport.lswitch = some lswitchId ∧ ip ∈ lport.ips

/-- `_get_gateway_port_by_ip` -/
def getGatewayPortByIp (router : LogicalRouter) (ip : IPAddress) :
    Except PyError LogicalRouterPort :=
  match router.ports.find? fun port => port.network.contains ip with
  | none => .error .dbStoreRecordNotFound
  | some port => .ok port

/-- `_add_extra_route_to_router` -/
def addExtraRouteToRouter (routerUniqueKey : Nat) (routerIfMac : MacAddress)
    (lportUniqueKey : Nat) (lportMac : MacAddress) (route : HostRoute) :
    OFPFlowMod where
  table := Const.l3LookupTable
  priority := Const.priorityVeryHigh
  pattern := generateExtraRouteMatch routerUniqueKey routerIfMac route.destination
  instructions := [.applyActions [.decNwTtl, .setField (.ethSrc routerIfMac),
      .setField (.ethDst lportMac), .setField (.reg7 lportUniqueKey)],
    .gotoTable Const.egressTable]

/-- `_delete_extra_route_from_router` -/
def deleteExtraRouteFromRouter (routerUniqueKey : Nat) (routerIfMac : MacAddress)
    (route : HostRoute) : OFPFlowMod where
  command := .deleteStrict
  table := Const.l3LookupTable
  priority := Const.priorityVeryHigh
  pattern := generateExtraRouteMatch routerUniqueKey routerIfMac route.destination

/-- `_add_router_extra_route` -/
def addRouterExtraRoute (router : LogicalRouter) (route : HostRoute) : Action Unit := do
  let routerPort ← Program.ofExcept (getGatewayPortByIp router route.nexthop)
  match getPortByLswitchAndIp store route.nexthop routerPort.lswitch with
  | none => addToRouteCache .toAdd router.id route
  | some lport => do
      let lportMac ← Program.ofExcept (encoded lport.mac)
      modFlow (addExtraRouteToRouter router.uniqueKey routerPort.mac lport.uniqueKey
        lportMac route)
      addToRouteCache .added router.id route

/-- `_delete_router_extra_route` -/
def deleteRouterExtraRoute (router : LogicalRouter) (route : HostRoute) :
    Action Unit := do
  let routerPort ← Program.ofExcept (getGatewayPortByIp router route.nexthop)
  modFlow (deleteExtraRouteFromRouter router.uniqueKey routerPort.mac route)
  delFromRouteCache .added router.id route
  delFromRouteCache .toAdd router.id route

/-! ## Router interfaces -/

/-- Read the switch of an interface. -/
def interfaceLswitch (routerPort : LogicalRouterPort) : Except PyError LogicalSwitch :=
  match store.lswitches routerPort.lswitch with
  | none => .error .referencedObjectNotFound
  | some lswitch => .ok lswitch

/-- `ICMPResponder._get_match`, for an interface of a router. -/
def icmpMatch (routerKey : Nat) (interfaceIp : BitVec 32) : OFPMatch where
  ethType := some (.exact Const.ethTypeIp)
  ipProto := some (.exact 1)
  ipv4Dst := some (.exact interfaceIp.toNat)
  icmpv4Type := some (.exact 8)
  reg5 := if routerKey = 0 then none else some (.exact routerKey)

/-- `ICMPResponder.add` -/
def icmpResponder (routerKey : Nat) (interfaceIp : BitVec 32) : OFPFlowMod where
  table := Const.l3LookupTable
  priority := Const.priorityVeryHigh
  pattern := icmpMatch routerKey interfaceIp
  instructions := [
    .applyActions [.regMove "eth_dst" "metadata" 48, .regMove "eth_src" "eth_dst" 48,
      .regMove "metadata" "eth_src" 48, .regMove "ipv4_src" "ipv4_dst" 32,
      .setField (.ipv4Src (.v4 interfaceIp)), .setNwTtl 64, .setField (.icmpv4Type 0),
      .setField (.icmpv4Code 0), .regMove "reg6" "reg7" 32],
    .gotoTable Const.ingressDispatchTable]

/-- `ICMPResponder.remove` -/
def icmpResponderRemoval (routerKey : Nat) (interfaceIp : BitVec 32) : OFPFlowMod where
  command := .delete
  table := Const.l3LookupTable
  priority := Const.priorityVeryHigh
  pattern := icmpMatch routerKey interfaceIp

/-- The ARP and ICMP responders, for IPv4 addresses. -/
def addResponders (networkId routerKey : Nat) (mac : MacAddress) :
    IPAddress → Action Unit
  | .v4 ip => do
      modFlow (L2App.arpResponder networkId ip mac)
      modFlow (icmpResponder routerKey ip)
  | .v6 _ => pure ()

def removeResponders (networkId routerKey : Nat) : IPAddress → Action Unit
  | .v4 ip => do
      modFlow (L2App.arpResponderRemoval networkId ip)
      modFlow (icmpResponderRemoval routerKey ip)
  | .v6 _ => pure ()

/-- `OFPP_CONTROLLER` -/
def controllerPort : Nat := 0xfffffffd

/-- `netaddr.IPAddress` does not accept `None`. -/
def ipAddress : Option IPAddress → Except PyError IPAddress
  | none => .error .addrFormatError
  | some ip => .ok ip

/-- The router that is given, or else the owner of the port. -/
def interfaceRouter (lport : LogicalPort) : Option LogicalRouter → Option LogicalRouter
  | some router => some router
  | none => store.routers.find? fun router => lport.deviceId = some router.id

/-- `_add_concrete_router_interface` -/
def addConcreteRouterInterface (lport : LogicalPort) (router : Option LogicalRouter) :
    Action Unit :=
  match interfaceRouter store lport router with
  | none => pure ()
  | some router => do
      let ip ← Program.ofExcept (ipAddress lport.ip)
      modFlow {
        table := Const.l3LookupTable
        priority := Const.priorityHigh
        pattern := getRouterInterfaceMatch router.uniqueKey ip
        instructions := [.applyActions [.setField (.reg7 lport.uniqueKey)],
          .gotoTable Const.egressTable] }

/-- Packets to the interface go to its port, or else to the controller. -/
def addInterfaceFlow (router : LogicalRouter) (routerPort : LogicalRouterPort) :
    Action Unit :=
  match store.lports.find? fun lport => lport.id = routerPort.id with
  | none =>
      modFlow {
        table := Const.l3LookupTable
        priority := Const.priorityHigh
        pattern := getRouterInterfaceMatch router.uniqueKey routerPort.network.ip
        instructions := [.applyActions [.output controllerPort]] }
  | some lport => addConcreteRouterInterface store lport (some router)

/-- `_add_subnet_send_to_route` -/
def addSubnetSendToRoute (pattern : OFPMatch) (localNetworkId : Nat)
    (routerPort : LogicalRouterPort) : OFPFlowMod where
  table := Const.l3LookupTable
  priority := Const.priorityMedium
  pattern
  instructions := [.applyActions [.decNwTtl, .setField (.metadata localNetworkId),
      .setField (.ethSrc routerPort.mac)],
    .gotoTable Const.l3ProactiveLookupTable]

/-- `_add_new_router_port` -/
def addNewRouterPort (router : LogicalRouter) (routerPort : LogicalRouterPort) :
    Action Unit := do
  let lswitch ← Program.ofExcept (interfaceLswitch store routerPort)
  modFlow {
    table := Const.l2LookupTable
    priority := Const.priorityHigh
    pattern := L2App.unicastMatch lswitch.uniqueKey routerPort.mac
    instructions := [.applyActions [.setField (.reg5 router.uniqueKey)],
      .gotoTable Const.l3LookupTable] }
  addResponders lswitch.uniqueKey router.uniqueKey routerPort.mac routerPort.network.ip
  addInterfaceFlow store router routerPort
  modFlow (addSubnetSendToRoute
    (getRouterRouteMatch router.uniqueKey routerPort.network) lswitch.uniqueKey routerPort)

/-- `_delete_router_port` -/
def deleteRouterPort (router : LogicalRouter) (routerPort : LogicalRouterPort) :
    Action Unit := do
  let lswitch ← Program.ofExcept (interfaceLswitch store routerPort)
  modFlow {
    command := .delete
    table := Const.l2LookupTable
    priority := Const.priorityHigh
    pattern := L2App.unicastMatch lswitch.uniqueKey routerPort.mac }
  removeResponders lswitch.uniqueKey router.uniqueKey routerPort.network.ip
  modFlow {
    command := .delete
    table := Const.l3LookupTable
    priority := Const.priorityHigh
    pattern := getRouterInterfaceMatch router.uniqueKey routerPort.network.ip }
  modFlow {
    command := .delete
    table := Const.l3LookupTable
    priority := Const.priorityMedium
    pattern := getRouterRouteMatch router.uniqueKey routerPort.network }

/-! ## Routers -/

/-- `router_created` -/
def routerCreated (router : LogicalRouter) : Action Unit := do
  forM router.ports (addNewRouterPort store router)
  forM router.routes (addRouterExtraRoute store router)

/-- The interfaces of a router that another one does not have. -/
def portsWithout (router other : LogicalRouter) : List LogicalRouterPort :=
  router.ports.filter fun port => !other.ports.any port.same

/-- The routes of a router that another one does not have. -/
def routesWithout (router other : LogicalRouter) : List HostRoute :=
  router.routes.filter fun route => !other.routes.any route.same

/-- `_update_router_interfaces` -/
def updateRouterInterfaces (oldRouter newRouter : LogicalRouter) : Action Unit := do
  forM (portsWithout oldRouter newRouter) (deleteRouterPort store newRouter)
  forM (portsWithout newRouter oldRouter) (addNewRouterPort store newRouter)

/-- `_update_router_attributes` -/
def updateRouterAttributes (oldRouter newRouter : LogicalRouter) : Action Unit := do
  forM (routesWithout oldRouter newRouter) (deleteRouterExtraRoute newRouter)
  forM (routesWithout newRouter oldRouter) (addRouterExtraRoute store newRouter)

/-- `router_updated` -/
def routerUpdated (router originalRouter : LogicalRouter) : Action Unit := do
  updateRouterInterfaces store originalRouter router
  updateRouterAttributes store originalRouter router

/-- `router_deleted` -/
def routerDeleted (router : LogicalRouter) : Action Unit := do
  forM router.ports (deleteRouterPort store router)
  forM router.routes (deleteRouterExtraRoute router)
  modify fun app => { app with routeCache := app.routeCache.erase router.id }

/-! ## Ports that are next hops -/

/-- The id of the switch of a port. -/
def lswitchId (lport : LogicalPort) : Except PyError Id :=
  match lport.lswitch with
  | none => .error .attributeError
  | some id => .ok id

/-- The interfaces on a switch, in the order in which they are walked. -/
def attachments (id : Id) : List (LogicalRouter × LogicalRouterPort) :=
  store.routers.flatMap fun router =>
    (router.ports.filter fun port => port.lswitch = id).map fun port => (router, port)

/-- `_get_router_by_lswitch_and_port_ip`. The address is only read when there is an
interface on the switch. -/
def getRouterByLswitchAndPortIp (id : Id) (portIp : Option IPAddress) :
    Except PyError (Option (LogicalRouter × LogicalRouterPort)) :=
  match attachments store id with
  | [] => .ok none
  | found => do
      let ip ← ipAddress portIp
      return found.find? fun attachment => attachment.2.network.contains ip

/-- `_reprocess_to_add_route` -/
def reprocessToAddRoute (lport : LogicalPort) : Action Unit := do
  let id ← Program.ofExcept (lswitchId lport)
  let found ← Program.ofExcept (getRouterByLswitchAndPortIp store id lport.ip)
  match found with
  | none => pure ()
  | some (router, routerIf) => do
      let app ← get
      let routes := (app.cached router.id).toAdd
      forM (routes.filter fun route => lport.ip = some route.nexthop) fun route => do
        let lportMac ← Program.ofExcept (encoded lport.mac)
        modFlow (addExtraRouteToRouter router.uniqueKey routerIf.mac lport.uniqueKey
          lportMac route)
        changeRouteCacheStatus router.id .toAdd .added route

/-- `_reprocess_to_delete_route` -/
def reprocessToDeleteRoute (lport : LogicalPort) : Action Unit := do
  let id ← Program.ofExcept (lswitchId lport)
  let found ← Program.ofExcept (getRouterByLswitchAndPortIp store id lport.ip)
  match found with
  | none => pure ()
  | some (router, routerIf) => do
      let app ← get
      let routes := (app.cached router.id).added
      forM (routes.filter fun route => lport.ip = some route.nexthop) fun route => do
        modFlow (deleteExtraRouteFromRouter router.uniqueKey routerIf.mac route)
        changeRouteCacheStatus router.id .added .toAdd route

/-! ## Delivery to ports -/

/-- The match of packets that were routed to an address of a network. -/
def forwardMatch (networkId : Nat) (dstIp : IPAddress) : OFPMatch :=
  { addressMatch dstIp with metadata := some (.exact networkId) }

/-- `_add_forward_to_port_flow` -/
def addForwardToPortFlow (dstIp : IPAddress) (dstMac : MacAddress)
    (networkId portKey : Nat) : OFPFlowMod where
  table := Const.l3ProactiveLookupTable
  priority := Const.priorityHigh
  pattern := forwardMatch networkId dstIp
  instructions := [.applyActions [.setField (.ethDst dstMac), .setField (.reg7 portKey)],
    .gotoTable Const.egressTable]

/-- `_remove_forward_to_port_flow` -/
def removeForwardToPortFlow (dstIp : IPAddress) (networkId : Nat) : OFPFlowMod where
  command := .delete
  table := Const.l3ProactiveLookupTable
  priority := Const.priorityHigh
  pattern := forwardMatch networkId dstIp

/-- Read the switch of a port. -/
def portLswitch (lport : LogicalPort) : Except PyError LogicalSwitch :=
  Inventory.lswitch ⟨fun _ => none, store.lswitches⟩ lport

/-- `_add_port` -/
def addPort (lport : LogicalPort) : Action Unit := do
  reprocessToAddRoute store lport
  let lswitch ← Program.ofExcept (portLswitch store lport)
  forM lport.ips fun dstIp => do
    let dstMac ← Program.ofExcept (encoded lport.mac)
    modFlow (addForwardToPortFlow dstIp dstMac lswitch.uniqueKey lport.uniqueKey)
  forM lport.allowedAddressPairs fun addressPair =>
    modFlow (addForwardToPortFlow addressPair.ipAddress addressPair.macAddress
      lswitch.uniqueKey lport.uniqueKey)

/-- `_remove_port` -/
def removePort (lport : LogicalPort) : Action Unit := do
  reprocessToDeleteRoute store lport
  let lswitch ← Program.ofExcept (portLswitch store lport)
  forM lport.ips fun dstIp => modFlow (removeForwardToPortFlow dstIp lswitch.uniqueKey)
  forM lport.allowedAddressPairs fun addressPair =>
    modFlow (removeForwardToPortFlow addressPair.ipAddress lswitch.uniqueKey)

/-- The change that `_update_port` looks for. -/
def addressesChanged (lport origLport : LogicalPort) : Bool :=
  lport.ips.toFinset ≠ origLport.ips.toFinset ∨ lport.mac ≠ origLport.mac ∨
    lport.allowedAddressPairs ≠ origLport.allowedAddressPairs

/-- `_update_port` -/
def updatePort (lport origLport : LogicalPort) : Action Unit :=
  if addressesChanged lport origLport then do
    removePort store origLport
    addPort store lport
  else
    pure ()

/-! ## Handlers of port events -/

/-- `DEVICE_OWNER_ROUTER_INTF` is the owner. -/
def isRouterInterface (lport : LogicalPort) : Bool :=
  lport.deviceOwner = some L2App.deviceOwnerRouterIntf

/-- `_add_port_event_handler` -/
def addPortEventHandler (lport : LogicalPort) : Action Unit :=
  if isRouterInterface lport then addConcreteRouterInterface store lport none
  else addPort store lport

/-- `_remove_port_event_handler` -/
def removePortEventHandler (lport : LogicalPort) : Action Unit :=
  if isRouterInterface lport then pure () else removePort store lport

/-- `_update_port_event_handler` -/
def updatePortEventHandler (lport origLport : LogicalPort) : Action Unit :=
  if isRouterInterface lport then pure () else updatePort store lport origLport

end L3ProactiveApp

/-! ## Histories of events -/

/-- Routers and bound ports are stored. -/
structure L3World where
  routers : List LogicalRouter := []
  lports : List LogicalPort := []
  app : L3ProactiveApp := {}

inductive L3Event
  | routerCreated (router : LogicalRouter)
  | routerUpdated (router : LogicalRouter)
  | routerDeleted (id : Id)
  | bind (lport : LogicalPort)
  | unbind (id : Id)
  | updated (lport : LogicalPort)

namespace L3World

variable (lswitches : Id → Option LogicalSwitch)

def store (world : L3World) : L3Store :=
  { lswitches, routers := world.routers, lports := world.lports }

/-- The application after an action, which may have raised an error. -/
def run (world : L3World) (action : L3ProactiveApp.Action Unit) : L3World :=
  { world with app := (exec action world.app).2 }

def router (world : L3World) (id : Id) : Option LogicalRouter :=
  world.routers.find? fun router => router.id = id

def lport (world : L3World) (id : Id) : Option LogicalPort :=
  world.lports.find? fun lport => lport.id = id

def replaceRouter (world : L3World) (router : LogicalRouter) : L3World :=
  { world with
    routers := world.routers.map fun other => if other.id = router.id then router else other }

def replaceLport (world : L3World) (lport : LogicalPort) : L3World :=
  { world with
    lports := world.lports.map fun other => if other.id = lport.id then lport else other }

def removeRouter (world : L3World) (id : Id) : L3World :=
  { world with routers := world.routers.filter fun router => router.id ≠ id }

def removeLport (world : L3World) (id : Id) : L3World :=
  { world with lports := world.lports.filter fun lport => lport.id ≠ id }

/-- What happens at an event. A new version is stored before its event is handled, and
an object is removed from the store after that. Keys never change. -/
def step (world : L3World) : L3Event → Option L3World
  | .routerCreated router =>
      match world.router router.id with
      | some _ => none
      | none =>
          let world := { world with routers := world.routers ++ [router] }
          some (world.run (L3ProactiveApp.routerCreated (world.store lswitches) router))
  | .routerUpdated router =>
      match world.router router.id with
      | none => none
      | some original =>
          if original.uniqueKey = router.uniqueKey then
            let world := world.replaceRouter router
            some (world.run
              (L3ProactiveApp.routerUpdated (world.store lswitches) router original))
          else none
  | .routerDeleted id =>
      match world.router id with
      | none => none
      | some router => some ((world.run
          (L3ProactiveApp.routerDeleted (world.store lswitches) router)).removeRouter id)
  | .bind lport =>
      match world.lport lport.id with
      | some _ => none
      | none =>
          let world := { world with lports := world.lports ++ [lport] }
          some (world.run
            (L3ProactiveApp.addPortEventHandler (world.store lswitches) lport))
  | .unbind id =>
      match world.lport id with
      | none => none
      | some lport => some ((world.run
          (L3ProactiveApp.removePortEventHandler (world.store lswitches) lport)).removeLport
            id)
  | .updated lport =>
      match world.lport lport.id with
      | none => none
      | some original =>
          if original.uniqueKey = lport.uniqueKey then
            let world := world.replaceLport lport
            some (world.run (L3ProactiveApp.updatePortEventHandler
              (world.store lswitches) lport original))
          else none

end L3World

end Dragonflow
