import Dragonflow.Controller.Apps.PortBinding
import Dragonflow.Controller.OpenFlow

/-! # The trunk application

`dragonflow/controller/apps/trunk.py`. The ports inside a trunk are not bound
themselves. The application binds each of them where its parent is bound, and
installs the flows that tell their packets apart from those of the parent.
-/

namespace Dragonflow

open Program PortLocator

/-- `SUPPORTED_SEGMENTATION_TYPES` -/
inductive SegmentationType
  | vlan
  | macvlan
  | ipvlan
  deriving DecidableEq, Repr

/-- `trunk.ChildPortSegmentation`. The ports are references into the store. -/
structure ChildPortSegmentation where
  id : Id
  parent : Id
  port : Id
  segmentationType : SegmentationType
  segmentationId : Option Nat
  deriving DecidableEq, Repr

structure TrunkApp where
  /-- The segmentations of `db_store`. -/
  segmentations : Dict Id ChildPortSegmentation := ∅
  flows : Flows := FlowTable.empty
  /-- The exceptions of this application that `_emit` has logged. -/
  errors : List PyError := []

namespace TrunkApp

structure Config where
  host : Id
  /-- The switches of the store. -/
  lswitches : Id → Option LogicalSwitch
  /-- In which order `db_store.get_all` lists what it found. -/
  order : List ChildPortSegmentation → List ChildPortSegmentation
  order_perm : ∀ found, (order found).Perm found

/-! ## Rules -/

/-- The classes derived from `BaseNestedPortImpl`. -/
inductive NestedPortImpl
  | vlan
  | macvlanIp
  | macvlanArp
  | ipvlanIp
  | ipvlanArp
  deriving DecidableEq, Repr

/-- `segmentation_type_implementations` -/
def implementations : SegmentationType → List NestedPortImpl
  | .vlan => [.vlan]
  | .macvlan => [.macvlanIp, .macvlanArp]
  | .ipvlan => [.ipvlanIp, .ipvlanArp]

/-- Read a port through a reference. -/
def reference (lports : Dict Id LogicalPort) (id : Id) : Except PyError LogicalPort :=
  match lports.lookup id with
  | none => .error .referencedObjectNotFound
  | some lport => .ok lport

/-- Read the `version` of the address of a port. -/
def addressOf (lport : LogicalPort) : Except PyError IPAddress :=
  match lport.ip with
  | none => .error .attributeError
  | some address => .ok address

/-- A message cannot hold `None` in the place of an address. -/
def macOf (lport : LogicalPort) : Except PyError MacAddress :=
  match lport.mac with
  | none => .error .typeError
  | some mac => .ok mac

def vlanTag (segmentation : ChildPortSegmentation) : Except PyError Nat :=
  match segmentation.segmentationId with
  | none => .error .typeError
  | some id => .ok (0x1000 ||| id)

def ethTypeArp : Nat := 0x0806

/-- The fields that `_get_classification_params_ip` gives. -/
def withSource (pattern : OFPMatch) : IPAddress → OFPMatch
  | .v4 bits =>
      { pattern with ethType := some (.exact 0x0800), ipv4Src := some (.exact bits.toNat) }
  | .v6 bits =>
      { pattern with ethType := some (.exact 0x86dd), ipv6Src := some (.exact bits.toNat) }

def ethTypeOf : IPAddress → Nat
  | .v4 _ => 0x0800
  | .v6 _ => 0x86dd

/-- The fields of an ARP packet that a port sends with a MAC. -/
def withArpSource (pattern : OFPMatch) (mac : MacAddress) (address : IPAddress) :
    OFPMatch :=
  { pattern with
    ethSrc := some (.exact mac.toNat)
    ethType := some (.exact ethTypeArp)
    arpSha := some (.exact mac.toNat)
    arpSpa := match address with
      | .v4 bits => some (.exact bits.toNat)
      | .v6 bits => some (.exact bits.toNat) }

section Rules

variable (segmentation : ChildPortSegmentation) (parent child : LogicalPort)

/-- `get_classification_match` -/
def classificationMatch : NestedPortImpl → Except PyError OFPMatch
  | .vlan => do
      return { reg6 := some (.exact parent.uniqueKey)
               vlanVid := some (.exact (← vlanTag segmentation)) }
  | .macvlanIp => do
      let address ← addressOf child
      let mac ← macOf child
      return withSource { reg6 := some (.exact parent.uniqueKey)
                          ethSrc := some (.exact mac.toNat) } address
  | .macvlanArp => do
      let mac ← macOf child
      return withArpSource { reg6 := some (.exact parent.uniqueKey) } mac
        (← addressOf child)
  | .ipvlanIp => do
      let address ← addressOf child
      let mac ← macOf parent
      return withSource { reg6 := some (.exact parent.uniqueKey)
                          ethSrc := some (.exact mac.toNat) } address
  | .ipvlanArp => do
      let mac ← macOf parent
      return withArpSource { reg6 := some (.exact parent.uniqueKey) } mac
        (← addressOf child)

/-- `get_additional_classification_actions` -/
def additionalClassificationActions : NestedPortImpl → Except PyError (List FlowAction)
  | .vlan => return [.popVlan]
  | .macvlanIp => return []
  | .macvlanArp => return []
  | .ipvlanIp => do return [.setField (.ethSrc (some (← macOf child)))]
  | .ipvlanArp => do
      let mac ← macOf child
      return [.setField (.ethSrc (some mac)), .setField (.arpSha (some mac))]

/-- `get_classification_actions` -/
def classificationActions (lswitches : Id → Option LogicalSwitch)
    (implementation : NestedPortImpl) : Except PyError (List FlowAction) := do
  let lswitch ← Inventory.lswitch ⟨fun _ => none, lswitches⟩ child
  let additional ← additionalClassificationActions child implementation
  return [.setField (.reg6 child.uniqueKey), .setField (.metadata lswitch.uniqueKey)] ++
    additional ++ [.resubmit]

/-- `get_dispatch_match` -/
def dispatchMatch : NestedPortImpl → Except PyError OFPMatch
  | .vlan => return { reg7 := some (.exact child.uniqueKey) }
  | .macvlanIp => do
      return { reg7 := some (.exact child.uniqueKey)
               ethType := some (.exact (ethTypeOf (← addressOf child))) }
  | .macvlanArp =>
      return { reg7 := some (.exact child.uniqueKey), ethType := some (.exact ethTypeArp) }
  | .ipvlanIp => do
      return { reg7 := some (.exact child.uniqueKey)
               ethType := some (.exact (ethTypeOf (← addressOf child))) }
  | .ipvlanArp =>
      return { reg7 := some (.exact child.uniqueKey), ethType := some (.exact ethTypeArp) }

/-- `get_additional_dispatch_actions` -/
def additionalDispatchActions : NestedPortImpl → Except PyError (List FlowAction)
  | .vlan => do return [.pushVlan, .setField (.vlanVid (← vlanTag segmentation))]
  | .macvlanIp => return []
  | .macvlanArp => return []
  | .ipvlanIp => do return [.setField (.ethDst (some (← macOf parent)))]
  | .ipvlanArp => do
      let mac ← macOf parent
      return [.setField (.ethDst (some mac)), .setField (.arpTha (some mac))]

/-- `get_dispatch_actions` -/
def dispatchActions (implementation : NestedPortImpl) :
    Except PyError (List FlowAction) := do
  let additional ← additionalDispatchActions segmentation parent implementation
  return additional ++ [.setField (.reg7 parent.uniqueKey), .resubmit]

/-- `IPv4NestedPortMixin` makes the rules for ARP packets only for children with
an IPv4 address. -/
def appliesTo : NestedPortImpl → Except PyError Bool
  | .macvlanArp | .ipvlanArp => do
      match ← addressOf child with
      | .v4 _ => return true
      | .v6 _ => return false
  | _ => return true

end Rules

/-- The child and its parent, which are read through references. -/
def ports (lports : Dict Id LogicalPort) (segmentation : ChildPortSegmentation) :
    Except PyError (LogicalPort × LogicalPort) := do
  let child ← reference lports segmentation.port
  return (child, ← reference lports segmentation.parent)

section Messages

variable (config : Config) (lports : Dict Id LogicalPort)
  (segmentation : ChildPortSegmentation)

/-- `install_classification_rule` -/
def installClassificationRule (implementation : NestedPortImpl) :
    Except PyError (Option OFPFlowMod) := do
  let (child, parent) ← ports lports segmentation
  if ← appliesTo child implementation then
    let pattern ← classificationMatch segmentation parent child implementation
    let actions ← classificationActions child config.lswitches implementation
    return some
      { table := Const.ingressClassificationDispatchTable
        priority := Const.priorityHigh
        pattern := pattern
        instructions := [.applyActions actions] }
  else
    return none

/-- `delete_classification_rule` -/
def deleteClassificationRule (implementation : NestedPortImpl) :
    Except PyError (Option OFPFlowMod) := do
  let (child, parent) ← ports lports segmentation
  if ← appliesTo child implementation then
    let pattern ← classificationMatch segmentation parent child implementation
    return some
      { command := .deleteStrict
        table := Const.ingressClassificationDispatchTable
        priority := Const.priorityHigh
        pattern := pattern }
  else
    return none

/-- `install_dispatch_rule` -/
def installDispatchRule (implementation : NestedPortImpl) :
    Except PyError (Option OFPFlowMod) := do
  let (child, parent) ← ports lports segmentation
  if ← appliesTo child implementation then
    let pattern ← dispatchMatch child implementation
    let actions ← dispatchActions segmentation parent implementation
    return some
      { table := Const.ingressDispatchTable
        priority := Const.priorityHigh
        pattern := pattern
        instructions := [.applyActions actions] }
  else
    return none

/-- `delete_dispatch_rule`, which names another priority than the rule has. -/
def deleteDispatchRule (implementation : NestedPortImpl) :
    Except PyError (Option OFPFlowMod) := do
  let (child, _) ← ports lports segmentation
  if ← appliesTo child implementation then
    let pattern ← dispatchMatch child implementation
    return some
      { command := .deleteStrict
        table := Const.ingressDispatchTable
        priority := Const.priorityMedium
        pattern := pattern }
  else
    return none

/-- The messages that install the rules of a child, in their order. -/
def installationRules : List (Except PyError (Option OFPFlowMod)) :=
  (implementations segmentation.segmentationType).flatMap fun implementation =>
    [installClassificationRule config lports segmentation implementation,
      installDispatchRule lports segmentation implementation]

/-- The messages that delete the rules of a child, in their order. -/
def deletionRules : List (Except PyError (Option OFPFlowMod)) :=
  (implementations segmentation.segmentationType).flatMap fun implementation =>
    [deleteClassificationRule lports segmentation implementation,
      deleteDispatchRule lports segmentation implementation]

end Messages

/-! ## Handlers -/

abbrev Action := Handler TrunkApp Unit

def setFlows (node : Node TrunkApp) (flows : Flows) : Node TrunkApp :=
  { node with apps := { node.apps with flows } }

/-- Make a rule and send it, if there is one. -/
def modRule (rule : Except PyError (Option OFPFlowMod)) : Action := do
  match ← Program.ofExcept rule with
  | none => pure ()
  | some message => modify fun node => setFlows node (node.apps.flows.apply message)

/-- The child is bound where its parent is. -/
def copyBinding (segmentation : ChildPortSegmentation) : Action := do
  let node ← get
  let parent ← Program.ofExcept (reference node.lports segmentation.parent)
  copyPortBinding segmentation.port parent

def clearBinding (segmentation : ChildPortSegmentation) : Action :=
  clearPortBinding segmentation.port

section Handlers

variable (config : Config) (emit : PortEvent → LogicalPort → Action)

/-- Emit an event of the child. -/
def emitChild (event : PortEvent) (segmentation : ChildPortSegmentation) : Action := do
  let node ← get
  let child ← Program.ofExcept (reference node.lports segmentation.port)
  emit event child

/-- `_install_local_cps` -/
def installLocalCps (segmentation : ChildPortSegmentation) : Action := do
  let node ← get
  forM (installationRules config node.lports segmentation) modRule
  copyBinding segmentation
  emitChild emit (.bind .here) segmentation

/-- `_install_remote_cps` -/
def installRemoteCps (segmentation : ChildPortSegmentation) : Action := do
  copyBinding segmentation
  emitChild emit (.bind .elsewhere) segmentation

/-- `_uninstall_local_cps` -/
def uninstallLocalCps (segmentation : ChildPortSegmentation) : Action := do
  emitChild emit (.unbind .here) segmentation
  clearBinding segmentation
  let node ← get
  forM (deletionRules node.lports segmentation) modRule

/-- `_uninstall_remote_cps` -/
def uninstallRemoteCps (segmentation : ChildPortSegmentation) : Action := do
  emitChild emit (.unbind .elsewhere) segmentation
  clearBinding segmentation

def installCps : Locality → ChildPortSegmentation → Action
  | .here, segmentation => installLocalCps config emit segmentation
  | .elsewhere, segmentation => installRemoteCps emit segmentation

def uninstallCps : Locality → ChildPortSegmentation → Action
  | .here, segmentation => uninstallLocalCps emit segmentation
  | .elsewhere, segmentation => uninstallRemoteCps emit segmentation

/-- `_child_port_segmentation_created` -/
def childPortSegmentationCreated (segmentation : ChildPortSegmentation) : Action := do
  let node ← get
  let parent ← Program.ofExcept (reference node.lports segmentation.parent)
  match getPortBinding node.locations parent with
  | none => pure ()
  | some binding => installCps config emit (binding.locality config.host) segmentation

/-- `_child_port_segmentation_deleted` -/
def childPortSegmentationDeleted (segmentation : ChildPortSegmentation) : Action := do
  let node ← get
  let parent ← Program.ofExcept (reference node.lports segmentation.parent)
  match getPortBinding node.locations parent with
  | none => pure ()
  | some binding => uninstallCps emit (binding.locality config.host) segmentation

/-- `_get_all_cps_by_parent` -/
def getAllCpsByParent (app : TrunkApp) (lport : LogicalPort) :
    List ChildPortSegmentation :=
  config.order ((app.segmentations.entries.map Sigma.snd).filter
    fun segmentation => segmentation.parent = lport.id)

/-- `_local_port_bound` and `_remote_port_bound` -/
def portBound (kind : Locality) (lport : LogicalPort) : Action := do
  let node ← get
  forM (getAllCpsByParent config node.apps lport) (installCps config emit kind)

/-- `_local_port_unbound` and `_remote_port_unbound` -/
def portUnbound (kind : Locality) (lport : LogicalPort) : Action := do
  let node ← get
  forM (getAllCpsByParent config node.apps lport) (uninstallCps emit kind)

end Handlers

/-- Log what a handler raises. -/
def logged (handler : Action) : Action :=
  tryCatch handler fun error => do
    modify fun node =>
      { node with apps := { node.apps with errors := node.apps.errors ++ [error] } }
    throw error

/-- What the application registers for the events of ports. -/
def portCallbacks (config : Config) (emit : PortEvent → LogicalPort → Action) :
    PortEvent → LogicalPort → List Action
  | .bind kind, lport => [logged (portBound config emit kind lport)]
  | .unbind kind, lport => [logged (portUnbound config emit kind lport)]
  | .updated _ _, _ => []

/-- The callbacks of both applications. They are kept in a set for each event, so
either of the two can be called first. -/
def callbacks (config : Config) (trunkFirst : PortEvent → Bool) : Callbacks TrunkApp :=
  fun emit event lport =>
    if trunkFirst event then
      portCallbacks config emit event lport ++ PortBindingApp.callbacks event lport
    else
      PortBindingApp.callbacks event lport ++ portCallbacks config emit event lport

/-! ## Histories -/

inductive Event
  | port (change : PortChange)
  | created (segmentation : ChildPortSegmentation)
  | deleted (id : Id)
  deriving DecidableEq, Repr

section Histories

variable (config : Config) (emit : PortEvent → LogicalPort → Action)

def handle : Event → Action
  | .port change => PortBindingApp.change config.host emit change
  | .created segmentation => do
      modify fun node =>
        { node with apps := { node.apps with
            segmentations := node.apps.segmentations.insert segmentation.id
              segmentation } }
      attempt (logged (childPortSegmentationCreated config emit segmentation))
  | .deleted id => do
      let node ← get
      match node.apps.segmentations.lookup id with
      | none => pure ()
      | some segmentation => do
          attempt (logged (childPortSegmentationDeleted config emit segmentation))
          modify fun node =>
            { node with apps := { node.apps with
                segmentations := node.apps.segmentations.erase id } }

end Histories

/-- One event of a history. Events of ports are nested at most `depth + 2` deep. -/
def step (config : Config) (trunkFirst : PortEvent → Bool) (depth : Nat) (event : Event) : Action :=
  handle config (emit (callbacks config trunkFirst) (depth + 2)) event

/-- The node after a history, from a store that holds the given ports. -/
def run (config : Config) (trunkFirst : PortEvent → Bool) (depth : Nat)
    (lports : Dict Id LogicalPort) (history : List Event) : Node TrunkApp :=
  (trace (step config trunkFirst depth) history
    { Node.initial { } with lports }).2

end TrunkApp

end Dragonflow
