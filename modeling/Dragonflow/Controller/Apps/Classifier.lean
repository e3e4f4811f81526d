import Dragonflow.Controller.OpenFlow
import Dragonflow.Foundation.Dict
import Dragonflow.Foundation.FlowSet
import Dragonflow.Foundation.Program
import Dragonflow.Foundation.Steps

/-! # Classification of packets

`dragonflow/controller/apps/classifier.py`: a packet that enters through a port
of the switch gets the keys of the logical port and of its network, and a packet
to a logical port leaves through the port of the switch.
-/

namespace Dragonflow

open Program

/-- What Open vSwitch says of the OpenFlow number of a port. -/
inductive OfPort
  /-- The number -1. -/
  | error
  | number (portNum : Nat)
  deriving DecidableEq, Repr

/-- The fields of `switch.SwitchPort` that the application reads. -/
structure SwitchPort where
  id : Id
  portNum : Option OfPort := none
  lport : Option Id := none
  deriving DecidableEq, Repr

/-- The number, unless it is `None`, 0 or -1. -/
def SwitchPort.readyNum (switchPort : SwitchPort) : Option Nat :=
  match switchPort.portNum with
  | some (.number portNum) => if portNum = 0 then none else some portNum
  | _ => none

structure ClassifierApp where
  ofportUniqueKeyMap : Dict Id (Nat × Nat) := ∅
  flows : Flows := FlowTable.empty

namespace ClassifierApp

structure Config extends Inventory where
  /-- `nb_api.get` -/
  lports : Id → Option LogicalPort

abbrev Action (β : Type) := Program ClassifierApp PyError β

def modFlow (message : OFPFlowMod) : Action Unit :=
  modify fun app => { app with flows := app.flows.apply message }

def onMap (change : Dict Id (Nat × Nat) → Dict Id (Nat × Nat)) : Action Unit :=
  modify fun app => { app with ofportUniqueKeyMap := change app.ofportUniqueKeyMap }

def exitpointFlow : OFPFlowMod where
  table := Const.ingressClassificationDispatchTable
  priority := Const.priorityDefault
  pattern := {}
  instructions := [.gotoTable Const.ingressClassificationExitpointTable]

/-- `switch_features_handler` -/
def switchFeaturesHandler : Action Unit := do
  onMap fun _ => ∅
  modFlow exitpointFlow

/-! ## The flows of a port -/

def dispatchMatch (portKey : Nat) : OFPMatch where
  reg7 := some (.exact portKey)

def classificationMatch (portNum : Nat) : OFPMatch where
  inPort := some (.exact portNum)

/-- `_make_ingress_dispatch_flow` -/
def makeIngressDispatchFlow (portKey portNum : Nat) : OFPFlowMod where
  table := Const.ingressDispatchTable
  priority := Const.priorityMedium
  pattern := dispatchMatch portKey
  instructions := [.applyActions [.output portNum]]

/-- `_make_ingress_classification_flow` -/
def makeIngressClassificationFlow (portKey networkId portNum : Nat) : OFPFlowMod where
  table := Const.ingressClassificationDispatchTable
  priority := Const.priorityMedium
  pattern := classificationMatch portNum
  instructions := [.applyActions [.setField (.reg6 portKey),
    .setField (.metadata networkId), .regLoad "in_port" 0 31, .resubmit]]

/-- `_del_ingress_dispatch_flow` -/
def delIngressDispatchFlow (portKey : Nat) : OFPFlowMod where
  command := .delete
  table := Const.ingressDispatchTable
  priority := Const.priorityMedium
  pattern := dispatchMatch portKey

/-- `_del_ingress_classification_flow` -/
def delIngressClassificationFlow (portNum : Nat) : OFPFlowMod where
  command := .delete
  table := Const.ingressClassificationDispatchTable
  priority := Const.priorityMedium
  pattern := classificationMatch portNum

/-! ## The handlers -/

/-- `_switch_port_deleted` -/
def switchPortDeleted (switchPort : SwitchPort) : Action Unit := do
  let app ← get
  match app.ofportUniqueKeyMap.lookup switchPort.id with
  | none => pure ()
  | some (portNum, portKey) =>
      onMap fun map => map.erase switchPort.id
      modFlow (delIngressDispatchFlow portKey)
      modFlow (delIngressClassificationFlow portNum)

/-- An update to another number starts over. -/
def dropChanged (switchPort : SwitchPort) (original : Option SwitchPort) :
    Action Unit :=
  match original with
  | none => pure ()
  | some original =>
      if original.portNum ≠ switchPort.portNum then switchPortDeleted switchPort
      else pure ()

variable (config : Config)

def nbLport (ref : Id) : Except PyError LogicalPort :=
  match config.lports ref with
  | none => .error .attributeError
  | some lport => .ok lport

/-- The flows of a switch port with an lport and a number. -/
def classify (switchPort : SwitchPort) (ref : Id) (portNum : Nat) : Action Unit := do
  let lport ← Program.ofExcept (nbLport config ref)
  onMap fun map => map.insert switchPort.id (portNum, lport.uniqueKey)
  let lswitch ← Program.ofExcept (config.lswitch lport)
  modFlow (makeIngressClassificationFlow lport.uniqueKey lswitch.uniqueKey portNum)
  modFlow (makeIngressDispatchFlow lport.uniqueKey portNum)

/-- `_switch_port_created` -/
def switchPortCreated (switchPort : SwitchPort) (original : Option SwitchPort) :
    Action Unit :=
  match switchPort.lport with
  | none => pure ()
  | some ref => do
      dropChanged switchPort original
      match switchPort.readyNum with
      | none => pure ()
      | some portNum => classify config switchPort ref portNum

/-! ## The switch ports of a bridge -/

inductive Event
  | created (switchPort : SwitchPort)
  | updated (switchPort : SwitchPort)
  | deleted (id : Id)
  deriving DecidableEq, Repr

/-- The switch ports of the store, and the application that is told of them. -/
structure Bridge where
  switchPorts : Dict Id SwitchPort := ∅
  app : ClassifierApp := {}

/-- What a handler leaves behind. What it raises is logged. -/
def Bridge.handle (bridge : Bridge) (handler : Action Unit) : Bridge :=
  { bridge with app := (exec handler bridge.app).2 }

def Bridge.initial : Bridge := Bridge.handle {} switchFeaturesHandler

/-- Switch ports are created once, and updated and deleted while they are there.
-/
def step (bridge : Bridge) : Event → Option Bridge
  | .created switchPort =>
      match bridge.switchPorts.lookup switchPort.id with
      | some _ => none
      | none => some (Bridge.handle
          { bridge with
            switchPorts := bridge.switchPorts.insert switchPort.id switchPort }
          (switchPortCreated config switchPort none))
  | .updated switchPort =>
      match bridge.switchPorts.lookup switchPort.id with
      | none => none
      | some original => some (Bridge.handle
          { bridge with
            switchPorts := bridge.switchPorts.insert switchPort.id switchPort }
          (switchPortCreated config switchPort (some original)))
  | .deleted id =>
      match bridge.switchPorts.lookup id with
      | none => none
      | some switchPort => some (Bridge.handle
          { bridge with switchPorts := bridge.switchPorts.erase id }
          (switchPortDeleted switchPort))

/-! ## What is asked of the flows -/

/-- What the flows of a switch port say. -/
structure Assignment where
  portNum : Nat
  portKey : Nat
  networkId : Nat
  deriving DecidableEq, Repr

def Assignment.flows (assignment : Assignment) : List (Flow OFPMatch Instruction) :=
  [(makeIngressClassificationFlow assignment.portKey assignment.networkId
      assignment.portNum).flow,
    (makeIngressDispatchFlow assignment.portKey assignment.portNum).flow]

/-- The assignment of a switch port with a valid number and an lport. -/
def assignment (switchPort : SwitchPort) : Option Assignment := do
  let ref ← switchPort.lport
  let portNum ← switchPort.readyNum
  let lport ← config.lports ref
  let lswitch ← (config.lswitch lport).toOption
  return ⟨portNum, lport.uniqueKey, lswitch.uniqueKey⟩

def Bridge.assigned (bridge : Bridge) (id : Id) : Option Assignment :=
  (bridge.switchPorts.lookup id).bind (assignment config)

/-- The flows are those of the current switch ports, and no others. -/
def Bridge.Classified (bridge : Bridge) : Prop :=
  ∀ flow, bridge.app.flows.Has flow ↔ flow = exitpointFlow.flow ∨
    ∃ id assignment, bridge.assigned config id = some assignment ∧
      flow ∈ assignment.flows

/-- The logical port of a switch port is in the database, with its switch, when the
switch port has a valid number. -/
def Resolved (switchPort : SwitchPort) : Prop :=
  switchPort.readyNum ≠ none → ∀ ref ∈ switchPort.lport,
    ∃ lport ∈ config.lports ref, (config.lswitch lport).isOk

/-- Neither the number nor the logical port of the switch port is still in use by
another one. -/
def Bridge.Free (bridge : Bridge) (switchPort : SwitchPort) : Prop :=
  ∀ mine ∈ assignment config switchPort, ∀ id ∈ bridge.switchPorts.keys,
    id ≠ switchPort.id → ∀ other ∈ bridge.assigned config id,
      other.portNum ≠ mine.portNum ∧ other.portKey ≠ mine.portKey

/-- A switch port that has flows keeps its logical port, or gets another one
together with another number. -/
def Bridge.Follows (bridge : Bridge) (switchPort : SwitchPort) : Prop :=
  ∀ original ∈ bridge.switchPorts.lookup switchPort.id,
    assignment config original ≠ none →
      switchPort.lport ≠ none ∧
        (switchPort.portNum = original.portNum → switchPort.lport = original.lport)

def Bridge.Tidy (bridge : Bridge) : Event → Prop
  | .created switchPort => Resolved config switchPort ∧ bridge.Free config switchPort
  | .updated switchPort =>
      Resolved config switchPort ∧ bridge.Free config switchPort ∧
        bridge.Follows config switchPort
  | .deleted _ => True

/-- Every event of a run is tidy where it happens. -/
def TidyRun : List Event → Bridge → Prop
  | [], _ => True
  | event :: events, bridge =>
      bridge.Tidy config event ∧ ∀ after ∈ step config bridge event,
        TidyRun events after

instance (switchPort : SwitchPort) : Decidable (Resolved config switchPort) :=
  inferInstanceAs (Decidable (switchPort.readyNum ≠ none → ∀ ref ∈ switchPort.lport,
    ∃ lport ∈ config.lports ref, _))

instance (bridge : Bridge) (switchPort : SwitchPort) :
    Decidable (bridge.Free config switchPort) :=
  inferInstanceAs (Decidable (∀ mine ∈ assignment config switchPort, _))

instance (bridge : Bridge) (switchPort : SwitchPort) :
    Decidable (bridge.Follows config switchPort) :=
  inferInstanceAs (Decidable
    (∀ original ∈ bridge.switchPorts.lookup switchPort.id, _))

instance (bridge : Bridge) : (event : Event) → Decidable (bridge.Tidy config event)
  | .created _ => inferInstanceAs (Decidable (_ ∧ _))
  | .updated _ => inferInstanceAs (Decidable (_ ∧ _ ∧ _))
  | .deleted _ => isTrue trivial

instance decideTidyRun (events : List Event) (bridge : Bridge) :
    Decidable (TidyRun config events bridge) :=
  match events with
  | [] => isTrue trivial
  | event :: events =>
      have := decideTidyRun events
      inferInstanceAs (Decidable (_ ∧ ∀ after ∈ step config bridge event, _))

end ClassifierApp

end Dragonflow
