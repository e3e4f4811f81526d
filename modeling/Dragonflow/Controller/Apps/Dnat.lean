import Dragonflow.Controller.Apps.L3
import Dragonflow.Controller.Apps.PortBinding

/-! # Floating ips

`dragonflow/controller/apps/dnat.py`. Packets to a floating ip are translated and sent to
the port that it is associated with, and packets of this port leave with the floating ip.
The port of the floating ip itself is bound where the associated one is.
-/

namespace Dragonflow

open Program PortLocator

/-- `l3.FloatingIp`. The ports and the router are references into the store. -/
structure FloatingIp where
  id : Id
  floatingIpAddress : IPAddress
  /-- The port that the floating ip is associated with. -/
  lport : Option Id := none
  floatingLport : Id
  lrouter : Option Id := none
  deriving DecidableEq, Repr

/-- The fields of `l2.Subnet` that the application reads. -/
structure Subnet where
  lswitch : Id
  cidr : IPNetwork
  deriving DecidableEq, Repr

structure DNATApp where
  /-- The floating ips of `db_store`. -/
  floatingips : Dict Id FloatingIp := ∅
  lportsInProcess : Finset Id := ∅
  flows : Flows := FlowTable.empty

namespace DNATApp

/-- What the application reads of the store besides the ports and the floating ips. -/
structure Config where
  host : Id
  lswitches : Id → Option LogicalSwitch
  lrouters : Id → Option LogicalRouter
  /-- In the order in which `db_store` yields them. -/
  subnets : List Subnet
  /-- In which order `db_store.get_all` lists what it found. -/
  order : List FloatingIp → List FloatingIp
  order_perm : ∀ found, (order found).Perm found

/-! ## What the proxies of a floating ip lead to -/

/-- Read an object through a reference. -/
def dereference (objects : Id → Option α) : Option Id → Except PyError α
  | none => .error .attributeError
  | some id =>
      match objects id with
      | none => .error .referencedObjectNotFound
      | some object => .ok object

/-- A message cannot hold `None` in the place of an address. -/
def macOf (lport : LogicalPort) : Except PyError MacAddress :=
  match lport.mac with
  | none => .error .typeError
  | some mac => .ok mac

/-- A field for IPv4 addresses takes no others. -/
def ipv4Of : Option IPAddress → Except PyError (BitVec 32)
  | none => .error .typeError
  | some (.v6 _) => .error .valueError
  | some (.v4 bits) => .ok bits

section Reading

variable (config : Config) (lports : Dict Id LogicalPort) (floatingip : FloatingIp)

def fixedPort : Except PyError LogicalPort := dereference lports.lookup floatingip.lport

def floatingPort : Except PyError LogicalPort :=
  dereference lports.lookup (some floatingip.floatingLport)

def routerOf : Except PyError LogicalRouter := dereference config.lrouters floatingip.lrouter

def switchOf (lport : LogicalPort) : Except PyError LogicalSwitch :=
  dereference config.lswitches lport.lswitch

/-- `_get_vm_gateway_mac` -/
def getVmGatewayMac : Except PyError (Option MacAddress) := do
  let lrouter ← routerOf config floatingip
  if lrouter.ports = [] then return none
  else
    let lport ← fixedPort lports floatingip
    match lport.lswitch with
    | none => throw .attributeError
    | some lswitch =>
        return (lrouter.ports.find? fun routerPort => routerPort.lswitch = lswitch).map
          LogicalRouterPort.mac

/-- `_get_external_subnet` -/
def getExternalSubnet : Except PyError (Option Subnet) := do
  let floating ← floatingPort lports floatingip
  match floating.lswitch with
  | none => throw .attributeError
  | some lswitch =>
      return (config.subnets.filter fun subnet => subnet.lswitch = lswitch).find?
        fun subnet => subnet.cidr.contains floatingip.floatingIpAddress

/-- `_get_external_cidr` -/
def getExternalCidr : Except PyError IPNetwork := do
  match ← getExternalSubnet config lports floatingip with
  | none => throw .attributeError
  | some subnet => return subnet.cidr

/-! ## Ingress flows -/

/-- The responder of `_get_arp_responder` is installed. It sits in a table before the one
that gets the reply, so it needs no resubmission. -/
def arpResponderFlow : Except PyError OFPFlowMod := do
  let floating ← floatingPort lports floatingip
  let lswitch ← switchOf config floating
  let ip ← ipv4Of floating.ip
  let mac ← macOf floating
  return {
    table := Const.l2LookupTable
    priority := Const.priorityHigh
    pattern := L2App.arpMatch lswitch.uniqueKey ip
    instructions := [
      .applyActions [.setField (.arpOp 2), .regMove "arp_sha" "arp_tha" 48,
        .regMove "arp_spa" "arp_tpa" 32, .regMove "eth_src" "eth_dst" 48,
        .setField (.ethSrc (some mac)), .setField (.arpSha (some mac)),
        .setField (.arpSpa (.v4 ip)), .regMove "reg6" "reg7" 32,
        .setField (.reg6 floating.uniqueKey)],
      .gotoTable Const.egressTable] }

def arpResponderRemoval : Except PyError OFPFlowMod := do
  let floating ← floatingPort lports floatingip
  let lswitch ← switchOf config floating
  let ip ← ipv4Of floating.ip
  return {
    command := .deleteStrict
    table := Const.l2LookupTable
    priority := Const.priorityHigh
    pattern := L2App.arpMatch lswitch.uniqueKey ip }

/-- `_get_ingress_nat_actions` -/
def getIngressNatActions : Except PyError (List FlowAction) := do
  let gatewayMac ←
    match ← getVmGatewayMac config lports floatingip with
    | some mac => pure mac
    | none => do macOf (← floatingPort lports floatingip)
  let lport ← fixedPort lports floatingip
  let mac ← macOf lport
  let ip ← ipv4Of lport.ip
  let lswitch ← switchOf config lport
  return [.decNwTtl, .setField (.ethSrc (some gatewayMac)), .setField (.ethDst (some mac)),
    .setField (.ipv4Dst (some (.v4 ip))), .setField (.reg7 lport.uniqueKey),
    .setField (.metadata lswitch.uniqueKey)]

/-- `_get_dnat_ingress_match` -/
def getDnatIngressMatch : Except PyError OFPMatch := do
  let floating ← floatingPort lports floatingip
  return { reg7 := some (.exact floating.uniqueKey) }

/-- The match of `_install_ingress_translate_flow`. -/
def getIngressTranslateMatch : Except PyError OFPMatch := do
  let pattern ← getDnatIngressMatch lports floatingip
  return { pattern with ethType := some (.exact Const.ethTypeIp) }

/-- `_get_ingress_icmp_flow_match` -/
def getIngressIcmpFlowMatch (icmpType : Nat) : Except PyError OFPMatch := do
  let pattern ← getDnatIngressMatch lports floatingip
  return { pattern with
    ethType := some (.exact Const.ethTypeIp)
    ipProto := some (.exact 1)
    icmpv4Type := some (.exact icmpType) }

/-- `_install_ingress_capture_flow` -/
def ingressCaptureFlow : Except PyError OFPFlowMod := do
  let pattern ← getDnatIngressMatch lports floatingip
  return {
    table := Const.egressTable
    priority := Const.priorityHigh
    pattern
    instructions := [.gotoTable Const.ingressDnatTable] }

/-- `_uninstall_ingress_capture_flow` -/
def ingressCaptureRemoval : Except PyError OFPFlowMod := do
  let pattern ← getDnatIngressMatch lports floatingip
  return {
    command := .deleteStrict
    table := Const.egressTable
    priority := Const.priorityHigh
    pattern }

/-- `_install_ingress_translate_flow` -/
def ingressTranslateFlow : Except PyError OFPFlowMod := do
  let pattern ← getIngressTranslateMatch lports floatingip
  let actions ← getIngressNatActions config lports floatingip
  return {
    table := Const.ingressDnatTable
    priority := Const.priorityMedium
    pattern
    instructions := [.applyActions (actions ++ [.resubmitTable Const.l2LookupTable])] }

/-- `_uninstall_ingress_translate_flow` -/
def ingressTranslateRemoval : Except PyError OFPFlowMod := do
  let pattern ← getIngressTranslateMatch lports floatingip
  return {
    command := .deleteStrict
    table := Const.ingressDnatTable
    priority := Const.priorityMedium
    pattern }

/-- `ICMP_DEST_UNREACH` and `ICMP_TIME_EXCEEDED` -/
def icmpTypes : List Nat := [3, 11]

/-- A flow of `_install_ingress_icmp_flows`. -/
def ingressIcmpFlow (icmpType : Nat) : Except PyError OFPFlowMod := do
  let pattern ← getIngressIcmpFlowMatch lports floatingip icmpType
  let actions ← getIngressNatActions config lports floatingip
  return {
    table := Const.ingressDnatTable
    priority := Const.priorityHigh
    pattern
    instructions := [.applyActions (actions ++ [.output L3ProactiveApp.controllerPort])] }

/-- A removal of `_uninstall_ingress_icmp_flows`. -/
def ingressIcmpRemoval (icmpType : Nat) : Except PyError OFPFlowMod := do
  let pattern ← getIngressIcmpFlowMatch lports floatingip icmpType
  return {
    command := .deleteStrict
    table := Const.ingressDnatTable
    priority := Const.priorityHigh
    pattern }

/-- `_get_source_port_detector_match` -/
def getSourcePortDetectorMatch : Except PyError OFPMatch := do
  let ip ← ipv4Of (some floatingip.floatingIpAddress)
  return {
    ethType := some (.exact Const.ethTypeIp)
    ipv4Src := some (.exact ip.toNat)
    reg6 := some (.exact 0) }

/-- `_install_source_port_detector` -/
def sourcePortDetector : Except PyError OFPFlowMod := do
  let pattern ← getSourcePortDetectorMatch floatingip
  let lport ← fixedPort lports floatingip
  return {
    table := Const.externalIngressDetectSourceTable
    priority := Const.priorityHigh
    pattern
    instructions := [.applyActions [.setField (.reg6 lport.uniqueKey)],
      .gotoTable Const.l2LookupTable] }

/-- `_uninstall_source_port_detector` -/
def sourcePortDetectorRemoval : Except PyError OFPFlowMod := do
  let pattern ← getSourcePortDetectorMatch floatingip
  return {
    command := .deleteStrict
    table := Const.externalIngressDetectSourceTable
    priority := Const.priorityHigh
    pattern }

/-- The messages of `_install_ingress_nat_flows`. -/
def ingressNatFlows : List (Except PyError OFPFlowMod) :=
  [arpResponderFlow config lports floatingip, sourcePortDetector lports floatingip,
    ingressCaptureFlow lports floatingip, ingressTranslateFlow config lports floatingip] ++
  icmpTypes.map (ingressIcmpFlow config lports floatingip)

/-- The messages of `_remove_ingress_nat_rules`. -/
def ingressNatRemovals : List (Except PyError OFPFlowMod) :=
  [arpResponderRemoval config lports floatingip, ingressCaptureRemoval lports floatingip,
    ingressTranslateRemoval lports floatingip] ++
  icmpTypes.map (ingressIcmpRemoval lports floatingip) ++
  [sourcePortDetectorRemoval floatingip]

/-! ## Egress flows -/

/-- `_get_dnat_egress_match` -/
def getDnatEgressMatch : Except PyError OFPMatch := do
  let lport ← fixedPort lports floatingip
  let lswitch ← switchOf config lport
  let lrouter ← routerOf config floatingip
  let ip ← ipv4Of lport.ip
  return {
    metadata := some (.exact lswitch.uniqueKey)
    reg6 := some (.exact lport.uniqueKey)
    reg5 := some (.exact lrouter.uniqueKey)
    ethType := some (.exact Const.ethTypeIp)
    ipv4Src := some (.exact ip.toNat) }

/-- The match of a flow of `_install_egress_icmp_flows`. -/
def getEgressIcmpFlowMatch (icmpType : Nat) : Except PyError OFPMatch := do
  let pattern ← getDnatEgressMatch config lports floatingip
  return { pattern with
    ipProto := some (.exact 1)
    icmpv4Type := some (.exact icmpType) }

/-- `EMPTY_MAC` -/
def emptyMac : MacAddress := 0

/-- `_get_egress_nat_actions` -/
def getEgressNatActions : Except PyError (List FlowAction) := do
  let floating ← floatingPort lports floatingip
  let mac ← macOf floating
  let ip ← ipv4Of (some floatingip.floatingIpAddress)
  let lswitch ← switchOf config floating
  return [.decNwTtl, .setField (.ethSrc (some mac)), .setField (.ethDst (some emptyMac)),
    .setField (.ipv4Src (.v4 ip)), .setField (.metadata lswitch.uniqueKey),
    .setField (.reg6 floating.uniqueKey)]

/-- `_install_egress_capture_flow` -/
def egressCaptureFlow : Except PyError OFPFlowMod := do
  let pattern ← getDnatEgressMatch config lports floatingip
  return {
    table := Const.l3LookupTable
    priority := Const.priorityMediumLow
    pattern
    instructions := [.gotoTable Const.egressDnatTable] }

/-- `_uninstall_egress_capture_flow` -/
def egressCaptureRemoval : Except PyError OFPFlowMod := do
  let pattern ← getDnatEgressMatch config lports floatingip
  return {
    command := .deleteStrict
    table := Const.l3LookupTable
    priority := Const.priorityMediumLow
    pattern }

/-- `_install_egress_translate_flow` -/
def egressTranslateFlow : Except PyError OFPFlowMod := do
  let pattern ← getDnatEgressMatch config lports floatingip
  let actions ← getEgressNatActions config lports floatingip
  return {
    table := Const.egressDnatTable
    priority := Const.priorityMedium
    pattern
    instructions := [.applyActions (actions ++ [.resubmitTable Const.l2LookupTable])] }

/-- `_uninstall_egress_translate_flow` -/
def egressTranslateRemoval : Except PyError OFPFlowMod := do
  let pattern ← getDnatEgressMatch config lports floatingip
  return {
    command := .deleteStrict
    table := Const.egressDnatTable
    priority := Const.priorityMedium
    pattern }

/-- A flow of `_install_egress_icmp_flows`. -/
def egressIcmpFlow (icmpType : Nat) : Except PyError OFPFlowMod := do
  let pattern ← getEgressIcmpFlowMatch config lports floatingip icmpType
  let actions ← getEgressNatActions config lports floatingip
  return {
    table := Const.egressDnatTable
    priority := Const.priorityHigh
    pattern
    instructions := [.applyActions (actions ++ [.output L3ProactiveApp.controllerPort])] }

/-- A removal of `_uninstall_egress_icmp_flows`. -/
def egressIcmpRemoval (icmpType : Nat) : Except PyError OFPFlowMod := do
  let pattern ← getEgressIcmpFlowMatch config lports floatingip icmpType
  return {
    command := .deleteStrict
    table := Const.egressDnatTable
    priority := Const.priorityHigh
    pattern }

/-- The messages of `_install_egress_nat_rules`. -/
def egressNatRules : List (Except PyError OFPFlowMod) :=
  [egressCaptureFlow config lports floatingip, egressTranslateFlow config lports floatingip] ++
  icmpTypes.map (egressIcmpFlow config lports floatingip)

/-- The messages of `_remove_egress_nat_rules`. -/
def egressNatRemovals : List (Except PyError OFPFlowMod) :=
  [egressCaptureRemoval config lports floatingip,
    egressTranslateRemoval config lports floatingip] ++
  icmpTypes.map (egressIcmpRemoval config lports floatingip)

end Reading

/-! ## Handlers -/

abbrev Action := Handler DNATApp Unit

/-- Build a message and send it. -/
def modFlow (message : Except PyError OFPFlowMod) : Action := do
  let message ← Program.ofExcept message
  modify fun node =>
    { node with apps := { node.apps with flows := node.apps.flows.apply message } }

def isIPv4 : IPNetwork → Bool
  | .v4 _ _ => true
  | .v6 _ _ => false

section Handlers

variable (config : Config) (emit : PortEvent → LogicalPort → Action)

/-- The floating port is bound where the fixed port is. -/
def copyBinding (floatingip : FloatingIp) : Action := do
  let node ← get
  let lport ← Program.ofExcept (fixedPort node.lports floatingip)
  copyPortBinding floatingip.floatingLport lport

def clearBinding (floatingip : FloatingIp) : Action :=
  clearPortBinding floatingip.floatingLport

/-- Emit an event of the floating port. -/
def emitFloating (event : PortEvent) (floatingip : FloatingIp) : Action := do
  let node ← get
  let floating ← Program.ofExcept (floatingPort node.lports floatingip)
  emit event floating

/-- `_install_local_floatingip` -/
def installLocalFloatingip (floatingip : FloatingIp) : Action := do
  let node ← get
  let cidr ← Program.ofExcept (getExternalCidr config node.lports floatingip)
  if isIPv4 cidr then do
    forM (ingressNatFlows config node.lports floatingip) modFlow
    forM (egressNatRules config node.lports floatingip) modFlow
    copyBinding floatingip
    emitFloating emit (.bind .here) floatingip
  else pure ()

/-- The event that `_uninstall_floatingip_common` emits. -/
def emitUnbind (floatingip : FloatingIp) : Action := do
  modify fun node =>
    { node with apps := { node.apps with
        lportsInProcess := insert floatingip.floatingLport node.apps.lportsInProcess } }
  let node ← get
  let lport ← Program.ofExcept (fixedPort node.lports floatingip)
  if isPortLocal config.host node.locations lport then
    emitFloating emit (.unbind .here) floatingip
  else if isPortRemote config.host node.locations lport then
    emitFloating emit (.unbind .elsewhere) floatingip
  else pure ()

/-- `_uninstall_floatingip_common` -/
def uninstallFloatingipCommon (floatingip : FloatingIp) (unbinds : Bool) : Action := do
  clearBinding floatingip
  if unbinds then emitUnbind config emit floatingip else pure ()

/-- `_uninstall_local_floatingip` -/
def uninstallLocalFloatingip (floatingip : FloatingIp) (unbinds : Bool) : Action := do
  let node ← get
  let cidr ← Program.ofExcept (getExternalCidr config node.lports floatingip)
  if isIPv4 cidr then do
    uninstallFloatingipCommon config emit floatingip unbinds
    forM (ingressNatRemovals config node.lports floatingip) modFlow
    forM (egressNatRemovals config node.lports floatingip) modFlow
  else pure ()

/-- `_install_remote_floatingip` -/
def installRemoteFloatingip (floatingip : FloatingIp) : Action := do
  copyBinding floatingip
  emitFloating emit (.bind .elsewhere) floatingip

/-- `_uninstall_remote_floatingip` -/
def uninstallRemoteFloatingip (floatingip : FloatingIp) (unbinds : Bool) : Action :=
  uninstallFloatingipCommon config emit floatingip unbinds

/-- `_install_floatingip` -/
def installFloatingip (floatingip : FloatingIp) : Action := do
  let node ← get
  let lport ← Program.ofExcept (fixedPort node.lports floatingip)
  if isPortLocal config.host node.locations lport then
    installLocalFloatingip config emit floatingip
  else if isPortRemote config.host node.locations lport then
    installRemoteFloatingip emit floatingip
  else pure ()

/-- `_uninstall_floatingip`. Nothing is done when the fixed port is not stored. -/
def uninstallFloatingip (floatingip : FloatingIp) : Action := do
  let node ← get
  match floatingip.lport.bind node.lports.lookup with
  | none => pure ()
  | some lport =>
      if isPortLocal config.host node.locations lport then
        uninstallLocalFloatingip config emit floatingip true
      else if isPortRemote config.host node.locations lport then
        uninstallRemoteFloatingip config emit floatingip true
      else pure ()

/-- Do something about a floating ip that is associated. -/
def whenAssociated (floatingip : FloatingIp) (action : Action) : Action :=
  match floatingip.lport with
  | none => pure ()
  | some _ => action

/-- `_create_floatingip` -/
def createFloatingip (floatingip : FloatingIp) : Action :=
  whenAssociated floatingip (installFloatingip config emit floatingip)

/-- `_update_floatingip` -/
def updateFloatingip (floatingip original : FloatingIp) : Action :=
  if original.lport = floatingip.lport then pure ()
  else do
    whenAssociated original (uninstallFloatingip config emit original)
    whenAssociated floatingip (installFloatingip config emit floatingip)

/-- `_delete_floatingip` -/
def deleteFloatingip (floatingip : FloatingIp) : Action :=
  whenAssociated floatingip do
    let node ← get
    match node.lports.lookup floatingip.floatingLport with
    | none => pure ()
    | some _ => uninstallFloatingip config emit floatingip

/-- `db_store.get_all` by an index of the floating ips. -/
def getAll (app : DNATApp) (key : FloatingIp → Bool) : List FloatingIp :=
  config.order ((app.floatingips.entries.map Sigma.snd).filter key)

/-- `_get_floatingips_by_lport` -/
def getFloatingipsByLport (app : DNATApp) (lport : LogicalPort) : List FloatingIp :=
  getAll config app fun floatingip => floatingip.lport = some lport.id

/-- `_get_floatingips_by_floating_lport` -/
def getFloatingipsByFloatingLport (app : DNATApp) (lport : LogicalPort) :
    List FloatingIp :=
  getAll config app fun floatingip => floatingip.floatingLport = lport.id

def install : Locality → FloatingIp → Action
  | .here, floatingip => installLocalFloatingip config emit floatingip
  | .elsewhere, floatingip => installRemoteFloatingip emit floatingip

def uninstall (unbinds : Bool) : Locality → FloatingIp → Action
  | .here, floatingip => uninstallLocalFloatingip config emit floatingip unbinds
  | .elsewhere, floatingip => uninstallRemoteFloatingip config emit floatingip unbinds

/-- `_local_port_bound` and `_remote_port_bound` -/
def portBound (kind : Locality) (lport : LogicalPort) : Action := do
  let node ← get
  forM (getFloatingipsByLport config node.apps lport) (install config emit kind)

/-- The loops of `_local_port_unbound` and `_remote_port_unbound`. -/
def uninstallAll (kind : Locality) (lport : LogicalPort) : Action := do
  let node ← get
  forM (getFloatingipsByLport config node.apps lport) (uninstall config emit true kind)
  let node ← get
  forM (getFloatingipsByFloatingLport config node.apps lport)
    (uninstall config emit false kind)

/-- `_local_port_unbound` and `_remote_port_unbound`. The events that the application emits
itself are ignored. -/
def portUnbound (kind : Locality) (lport : LogicalPort) : Action := do
  let node ← get
  if lport.id ∈ node.apps.lportsInProcess then
    set { node with apps := { node.apps with
      lportsInProcess := node.apps.lportsInProcess.erase lport.id } }
  else uninstallAll config emit kind lport

end Handlers

/-- What the application registers for the events of ports. It does not register for
updates. -/
def portCallbacks (config : Config) (emit : PortEvent → LogicalPort → Action) :
    PortEvent → LogicalPort → List Action
  | .bind kind, lport => [portBound config emit kind lport]
  | .unbind kind, lport => [portUnbound config emit kind lport]
  | .updated _ _, _ => []

/-- The callbacks of both applications. They are kept in a set for each event, so
either of the two can be called first. -/
def callbacks (config : Config) (dnatFirst : PortEvent → Bool) : Callbacks DNATApp :=
  fun emit event lport =>
    if dnatFirst event then
      portCallbacks config emit event lport ++ PortBindingApp.callbacks event lport
    else
      PortBindingApp.callbacks event lport ++ portCallbacks config emit event lport

/-! ## Histories -/

/-- An update that is not newer than the stored version does nothing and is left out. -/
inductive Event
  | port (change : PortChange)
  | updated (floatingip : FloatingIp)
  | deleted (id : Id)
  deriving DecidableEq, Repr

section Histories

variable (config : Config) (emit : PortEvent → LogicalPort → Action)

/-- `update_model_object` for a floating ip. -/
def updateModelObject (floatingip : FloatingIp) : Action := do
  let node ← get
  set { node with apps := { node.apps with
    floatingips := node.apps.floatingips.insert floatingip.id floatingip } }
  match node.apps.floatingips.lookup floatingip.id with
  | none => attempt (createFloatingip config emit floatingip)
  | some original => attempt (updateFloatingip config emit floatingip original)

/-- `delete_model_object` for a floating ip. -/
def deleteModelObject (id : Id) : Action := do
  let node ← get
  match node.apps.floatingips.lookup id with
  | none => pure ()
  | some floatingip => do
      attempt (deleteFloatingip config emit floatingip)
      modify fun node =>
        { node with apps := { node.apps with
            floatingips := node.apps.floatingips.erase id } }

def handle : Event → Action
  | .port change => PortBindingApp.change config.host emit change
  | .updated floatingip => updateModelObject config emit floatingip
  | .deleted id => deleteModelObject config emit id

end Histories

end DNATApp

end Dragonflow
