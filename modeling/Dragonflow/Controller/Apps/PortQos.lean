import Dragonflow.Controller.Node
import Dragonflow.Foundation.Steps

/-! # Quality of service of ports

`dragonflow/controller/apps/portqos.py`, with the policies of
`dragonflow/db/models/qos.py`. For every port the switch can keep a record of the
policy that is applied to it; the record outlives the controller.
-/

namespace Dragonflow

open Program

/-- `RULE_TYPES` -/
inductive QosRuleType
  | dscpMarking
  | bandwidthLimit
  deriving DecidableEq, Repr

structure QosPolicyRule where
  type : QosRuleType
  dscpMark : Option Nat := none
  maxKbps : Option Nat := none
  maxBurstKbps : Option Nat := none
  deriving DecidableEq, Repr

structure QosPolicy where
  id : Id
  version : Nat
  rules : List QosPolicyRule := []
  deriving DecidableEq, Repr

namespace QosPolicy

/-- The first rule of a type. -/
def firstRule (policy : QosPolicy) (type : QosRuleType) : Option QosPolicyRule :=
  policy.rules.find? fun rule => rule.type = type

/-- `get_max_burst_kbps` -/
def getMaxBurstKbps (policy : QosPolicy) : Option Nat :=
  (policy.firstRule .bandwidthLimit).bind QosPolicyRule.maxBurstKbps

/-- `get_max_kbps` -/
def getMaxKbps (policy : QosPolicy) : Option Nat :=
  (policy.firstRule .bandwidthLimit).bind QosPolicyRule.maxKbps

/-- `get_dscp_marking` -/
def getDscpMarking (policy : QosPolicy) : Option Nat :=
  (policy.firstRule .dscpMarking).bind QosPolicyRule.dscpMark

/-- `_is_qos_set`. Zero is as good as not set. -/
def isQosSet (policy : QosPolicy) : Bool :=
  policy.getMaxKbps.getD 0 ≠ 0 && policy.getMaxBurstKbps.getD 0 ≠ 0

end QosPolicy

/-- What the switch keeps for a port. -/
structure QosRecord where
  policy : Id
  version : Nat
  rate : Option Nat
  burst : Option Nat
  dscp : Option Nat
  deriving DecidableEq, Repr

/-- What `create_qos` and `update_qos` write. A mark of zero is left out. -/
def QosPolicy.record (policy : QosPolicy) : QosRecord where
  policy := policy.id
  version := policy.version
  rate := policy.getMaxKbps
  burst := policy.getMaxBurstKbps
  dscp := policy.getDscpMarking.filter (· ≠ 0)

structure PortQosApp where
  localPorts : Dict Id (Finset Id) := ∅
  /-- The policies of `db_store`. -/
  policies : Dict Id QosPolicy := ∅
  /-- The records of the switch. -/
  records : Dict Id QosRecord := ∅

namespace PortQosApp

abbrev Action := Program PortQosApp PyError Unit

/-- `_local_ports` is a `defaultdict` of sets. -/
def portsOf (app : PortQosApp) (policy : Id) : Finset Id :=
  (app.localPorts.lookup policy).getD ∅

def setPortsOf (policy : Id) (ports : Finset Id) : Action :=
  modify fun app => { app with localPorts := app.localPorts.insert policy ports }

/-! ## The switch -/

/-- `set_port_qos` and `update_port_qos` -/
def writePortQos (port : Id) (policy : QosPolicy) : Action :=
  modify fun app => { app with records := app.records.insert port policy.record }

/-- `clear_port_qos` and `delete_port_qos_and_queue` -/
def clearPortQos (port : Id) : Action :=
  modify fun app => { app with records := app.records.erase port }

/-! ## Handlers -/

/-- `_update_local_port_qos` -/
def updateLocalPortQos (port : Id) (policy : QosPolicy) : Action := do
  let app ← get
  match app.records.lookup port with
  | some oldQos =>
      if policy.isQosSet then
        if oldQos.policy ≠ policy.id ∨ policy.version > oldQos.version then
          writePortQos port policy
        else pure ()
      else clearPortQos port
  | none => if policy.isQosSet then writePortQos port policy else pure ()

/-- Read a policy through a reference. -/
def reference (app : PortQosApp) (policy : Id) : Except PyError QosPolicy :=
  match app.policies.lookup policy with
  | none => .error .referencedObjectNotFound
  | some found => .ok found

/-- `_check_update_local_port_qos` -/
def checkUpdateLocalPortQos (lport : LogicalPort) : Action :=
  match lport.qosPolicy with
  | none => clearPortQos lport.id
  | some policy => do
      let app ← get
      setPortsOf policy (insert lport.id (app.portsOf policy))
      let found ← Program.ofExcept (reference app policy)
      updateLocalPortQos lport.id found

/-- Take a port from the set of its policy, if it has one. -/
def discardLocalPort (lport : LogicalPort) (port : Id) : Action := do
  let app ← get
  match lport.qosPolicy with
  | none => pure ()
  | some policy => setPortsOf policy ((app.portsOf policy).erase port)

/-- `_add_local_port` -/
def addLocalPort (lport : LogicalPort) : Action := checkUpdateLocalPortQos lport

/-- `_update_local_port`. References are compared by their ids. -/
def updateLocalPort (lport originalLport : LogicalPort) : Action :=
  if lport.qosPolicy = originalLport.qosPolicy then pure ()
  else do
    discardLocalPort originalLport lport.id
    checkUpdateLocalPortQos lport

/-- `_remove_local_port` -/
def removeLocalPort (lport : LogicalPort) : Action := do
  discardLocalPort lport lport.id
  clearPortQos lport.id

/-- How sets are walked. -/
structure SetOrder where
  walk : Finset Id → List Id
  mem_walk : ∀ ids id, id ∈ walk ids ↔ id ∈ ids

/-- `update_qos_policy` -/
def updateQosPolicy (order : SetOrder) (policy : QosPolicy) : Action := do
  let app ← get
  forM (order.walk (app.portsOf policy.id)) fun port => updateLocalPortQos port policy

/-! ## Histories -/

inductive Event
  | bindLocal (lport : LogicalPort)
  | localUpdated (lport originalLport : LogicalPort)
  | unbindLocal (lport : LogicalPort)
  /-- The application is not told of a policy that is new to the store. -/
  | policyCreated (policy : QosPolicy)
  /-- The store has the new version when the application is told. -/
  | policyUpdated (policy : QosPolicy)
  deriving DecidableEq, Repr

def storePolicy (policy : QosPolicy) : Action :=
  modify fun app => { app with policies := app.policies.insert policy.id policy }

def handle (order : SetOrder) : Event → Action
  | .bindLocal lport => addLocalPort lport
  | .localUpdated lport originalLport => updateLocalPort lport originalLport
  | .unbindLocal lport => removeLocalPort lport
  | .policyCreated policy => storePolicy policy
  | .policyUpdated policy => do
      storePolicy policy
      updateQosPolicy order policy

/-- What the events told about a port last. -/
inductive PortStatus
  | untold
  | bound (lport : LogicalPort)
  | unbound
  deriving DecidableEq, Repr

structure System where
  app : PortQosApp
  statuses : Id → PortStatus

def PortStatus.isBound : PortStatus → Bool
  | .bound _ => true
  | _ => false

namespace System

/-- The policy of a port is in the store. -/
def Refers (system : System) (lport : LogicalPort) : Prop :=
  (lport.qosPolicy.all fun policy => (system.app.policies.lookup policy).isSome) = true

/-- The events of a port follow each other, and policies get newer. -/
def WellFormed (system : System) : Event → Prop
  | .bindLocal lport =>
      (system.statuses lport.id).isBound = false ∧ system.Refers lport
  | .localUpdated lport originalLport =>
      system.statuses lport.id = .bound originalLport ∧ system.Refers lport
  | .unbindLocal lport => system.statuses lport.id = .bound lport
  | .policyCreated policy => system.app.policies.lookup policy.id = none
  | .policyUpdated policy =>
      ((system.app.policies.lookup policy.id).any fun old =>
        old.version < policy.version) = true

instance (system : System) (lport : LogicalPort) : Decidable (system.Refers lport) :=
  inferInstanceAs (Decidable (_ = _))

instance (system : System) (event : Event) : Decidable (system.WellFormed event) :=
  match event with
  | .bindLocal _ => inferInstanceAs (Decidable (_ ∧ _))
  | .localUpdated _ _ => inferInstanceAs (Decidable (_ ∧ _))
  | .unbindLocal _ => inferInstanceAs (Decidable (_ = _))
  | .policyCreated _ => inferInstanceAs (Decidable (_ = _))
  | .policyUpdated _ => inferInstanceAs (Decidable (_ = _))

def told (statuses : Id → PortStatus) : Event → Id → PortStatus
  | .bindLocal lport => Function.update statuses lport.id (.bound lport)
  | .localUpdated lport _ => Function.update statuses lport.id (.bound lport)
  | .unbindLocal lport => Function.update statuses lport.id .unbound
  | .policyCreated _ => statuses
  | .policyUpdated _ => statuses

/-- One event. What it raises is logged. -/
def step (order : SetOrder) (system : System) (event : Event) : Option System :=
  if system.WellFormed event then
    some ⟨(exec (handle order event) system.app).2, told system.statuses event⟩
  else none

end System

end PortQosApp

end Dragonflow
