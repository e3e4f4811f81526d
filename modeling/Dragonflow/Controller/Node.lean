import Dragonflow.Db.Ports
import Dragonflow.Foundation.Dict
import Dragonflow.Foundation.Program
import Dragonflow.Foundation.Sessions

/-! # Port events on a node

The state that the applications of one controller share, and how an event is
emitted for a port: `_emit` of `dragonflow/db/model_framework.py` and
`dragonflow/controller/port_locator.py`.
-/

namespace Dragonflow

open Program

/-- The events of a port besides the basic ones. `EVENT_BIND_LOCAL` is
`bind here`, `EVENT_REMOTE_UPDATED` is `updated elsewhere`, and so on. -/
inductive PortEvent
  | bind (kind : Locality)
  | unbind (kind : Locality)
  | updated (kind : Locality) (original : LogicalPort)
  deriving DecidableEq, Repr

/-- Between `bind` and `unbind` a port is in a session of its kind. -/
def PortEvent.session : PortEvent → SessionEvent Locality
  | .bind kind => .opened kind
  | .unbind kind => .closed kind
  | .updated kind _ => .used kind

/-- `_locations` of `port_locator`. Also `None` can be an override. -/
abbrev Locations := Dict Id (Option PortBinding)

/-- `apps` is the state of the applications other than `PortBindingApp`. -/
structure Node (τ : Type) where
  /-- The logical ports of `db_store`. -/
  lports : Dict Id LogicalPort
  locations : Locations
  localPorts : Finset Id
  remotePorts : Finset Id
  /-- Oldest first. -/
  emitted : List (PortEvent × LogicalPort)
  apps : τ

variable {τ β : Type}

abbrev Handler (τ β : Type) := Program (Node τ) PyError β

namespace Node

def initial (apps : τ) : Node τ := ⟨∅, ∅, ∅, ∅, [], apps⟩

/-- `_local_ports` or `_remote_ports`. -/
def bound (node : Node τ) : Locality → Finset Id
  | .here => node.localPorts
  | .elsewhere => node.remotePorts

def setBound (node : Node τ) (kind : Locality) (ids : Finset Id) : Node τ :=
  match kind with
  | .here => { node with localPorts := ids }
  | .elsewhere => { node with remotePorts := ids }

/-- The sessions of the ports, as told by the emitted events. -/
def sessions (node : Node τ) : List (Id × SessionEvent Locality) :=
  node.emitted.map fun entry => (entry.2.id, entry.1.session)

def record (node : Node τ) (event : PortEvent) (lport : LogicalPort) : Node τ :=
  { node with emitted := node.emitted ++ [(event, lport)] }

@[simp] theorem bound_setBound (node : Node τ) (kind other : Locality)
    (ids : Finset Id) :
    (node.setBound kind ids).bound other =
      if other = kind then ids else node.bound other := by
  cases kind <;> cases other <;> rfl

@[simp] theorem setBound_lports (node : Node τ) (kind : Locality)
    (ids : Finset Id) : (node.setBound kind ids).lports = node.lports := by
  cases kind <;> rfl

@[simp] theorem setBound_locations (node : Node τ) (kind : Locality)
    (ids : Finset Id) : (node.setBound kind ids).locations = node.locations := by
  cases kind <;> rfl

@[simp] theorem setBound_emitted (node : Node τ) (kind : Locality)
    (ids : Finset Id) : (node.setBound kind ids).emitted = node.emitted := by
  cases kind <;> rfl

@[simp] theorem setBound_apps (node : Node τ) (kind : Locality)
    (ids : Finset Id) : (node.setBound kind ids).apps = node.apps := by
  cases kind <;> rfl

end Node

/-! ## Where a port is bound -/

namespace PortLocator

/-- The port can be a reference, of which only the id is read. -/
def setPortBinding (id : Id) (binding : Option PortBinding) : Handler τ Unit :=
  modify fun node => { node with locations := node.locations.insert id binding }

def getPortBinding (locations : Locations) (lport : LogicalPort) :
    Option PortBinding :=
  (locations.lookup lport.id).getD lport.binding

def copyPortBinding (id : Id) (source : LogicalPort) : Handler τ Unit := do
  let node ← get
  setPortBinding id (getPortBinding node.locations source)

/-- `_locations.pop` -/
def clearPortBinding (id : Id) : Handler τ Unit := do
  let node ← get
  match node.locations.lookup id with
  | none => throw .keyError
  | some _ => set { node with locations := node.locations.erase id }

def isPortLocal (host : Id) (locations : Locations) (lport : LogicalPort) : Bool :=
  match getPortBinding locations lport with
  | none => false
  | some binding => binding.isLocal host

def isPortRemote (host : Id) (locations : Locations) (lport : LogicalPort) : Bool :=
  match getPortBinding locations lport with
  | none => false
  | some binding => !binding.isLocal host

end PortLocator

/-! ## Emitting -/

/-- What is called for an event. Callbacks can emit further events. -/
abbrev Callbacks (τ : Type) :=
  (PortEvent → LogicalPort → Handler τ Unit) → PortEvent → LogicalPort →
    List (Handler τ Unit)

/-- `_emit`. What a callback raises is logged. Emissions are nested at most
`depth` deep; one that is nested deeper hits the recursion limit. -/
def emit (callbacks : Callbacks τ) :
    Nat → PortEvent → LogicalPort → Handler τ Unit
  | 0, _, _ => throw .recursionError
  | depth + 1, event, lport => do
      modify fun node => node.record event lport
      forM (callbacks (emit callbacks depth) event lport) attempt

/-- An application that emits no events of its own. It reads the ports of the
store and the overrides of their bindings. -/
abbrev QuietApp (τ : Type) :=
  Dict Id LogicalPort → Locations → PortEvent → LogicalPort →
    Program τ PyError Unit

/-- The callback of a quiet application. -/
def QuietApp.callback (app : QuietApp τ) (event : PortEvent)
    (lport : LogicalPort) : Handler τ Unit := do
  let node ← get
  focus Node.apps (fun node apps => { node with apps })
    (app node.lports node.locations event lport)

/-- The state of quiet applications after an event. -/
def QuietApp.runAll (apps : List (QuietApp τ)) (lports : Dict Id LogicalPort)
    (locations : Locations) (event : PortEvent) (lport : LogicalPort)
    (state : τ) : τ :=
  (exec (forM apps fun app => attempt (app lports locations event lport)) state).2

theorem QuietApp.exec_callback (app : QuietApp τ) (event : PortEvent)
    (lport : LogicalPort) (node : Node τ) :
    (exec (app.callback event lport) node).2 =
      { node with
        apps := (exec (app node.lports node.locations event lport) node.apps).2 } :=
  rfl

theorem QuietApp.exec_callbacks (apps : List (QuietApp τ)) (event : PortEvent)
    (lport : LogicalPort) (node : Node τ) :
    exec (forM (apps.map fun app => app.callback event lport) attempt) node =
      (.ok (), { node with
        apps := runAll apps node.lports node.locations event lport node.apps }) := by
  induction apps generalizing node with
  | nil => rfl
  | cons app apps induction =>
      rw [List.map_cons, List.forM_cons, exec_bind, exec_attempt, exec_callback]
      simp only [induction, runAll, List.forM_cons, exec_bind, exec_attempt]

theorem QuietApp.runAll_singleton (app : QuietApp τ) (lports : Dict Id LogicalPort)
    (locations : Locations) (event : PortEvent) (lport : LogicalPort) (state : τ) :
    runAll [app] lports locations event lport state =
      (exec (app lports locations event lport) state).2 := by
  simp only [runAll, List.forM_cons, List.forM_nil, exec_bind, exec_attempt, exec_pure]

/-- The state of quiet applications after several events. -/
def QuietApp.runEvents (apps : List (QuietApp τ)) (lports : Dict Id LogicalPort)
    (locations : Locations) (events : List (PortEvent × LogicalPort))
    (state : τ) : τ :=
  events.foldl (fun state entry => runAll apps lports locations entry.1 entry.2 state)
    state

theorem QuietApp.runAll_append (first second : List (QuietApp τ))
    (lports : Dict Id LogicalPort) (locations : Locations) (event : PortEvent)
    (lport : LogicalPort) (state : τ) :
    runAll (first ++ second) lports locations event lport state =
      runAll second lports locations event lport
        (runAll first lports locations event lport state) := by
  induction first generalizing state with
  | nil => rfl
  | cons app apps induction =>
      simp only [runAll, List.cons_append, List.forM_cons, exec_bind,
        exec_attempt] at induction ⊢
      exact induction _

end Dragonflow
