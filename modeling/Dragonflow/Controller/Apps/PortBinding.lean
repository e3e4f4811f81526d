import Dragonflow.Controller.Node

/-! # Port binding events

`dragonflow/controller/apps/portbinding.py` turns the versions of a port into
events that say when the port is bound and unbound on this node.
-/

namespace Dragonflow

open Program

variable {τ : Type}

namespace PortBindingApp

open PortLocator

section Handlers

variable (host : Id) (emit : PortEvent → LogicalPort → Handler τ Unit)

/-- `_port_update_unbind` -/
def portUpdateUnbind (lport original : LogicalPort) : Handler τ Unit := do
  let node ← get
  if original.enabled = some false then
    pure ()
  else if isPortLocal host node.locations original ≠
        isPortLocal host node.locations lport ∨
      isPortRemote host node.locations original ≠
        isPortRemote host node.locations lport ∨
      lport.enabled = some false then
    if isPortLocal host node.locations original then
      emit (.unbind .here) original
    else if isPortRemote host node.locations original then
      emit (.unbind .elsewhere) original
    else
      pure ()
  else
    pure ()

/-- `_port_update_bind` -/
def portUpdateBind (lport original : LogicalPort) : Handler τ Unit := do
  let node ← get
  if lport.enabled = some false then
    pure ()
  else if isPortLocal host node.locations original ≠
        isPortLocal host node.locations lport ∨
      isPortRemote host node.locations original ≠
        isPortRemote host node.locations lport ∨
      original.enabled = some false then
    if isPortLocal host node.locations lport then
      emit (.bind .here) lport
    else if isPortRemote host node.locations lport then
      emit (.bind .elsewhere) lport
    else
      pure ()
  else
    pure ()

/-- `_port_created` -/
def portCreated (lport : LogicalPort) : Handler τ Unit := do
  let node ← get
  if lport.enabled = some false then
    pure ()
  else if isPortLocal host node.locations lport then
    emit (.bind .here) lport
  else if isPortRemote host node.locations lport then
    emit (.bind .elsewhere) lport
  else
    pure ()

/-- The middle of `_port_updated`. -/
def portUpdatedInPlace (lport original : LogicalPort) : Handler τ Unit := do
  let node ← get
  if lport.id ∈ node.localPorts then
    emit (.updated .here original) lport
  else if lport.id ∈ node.remotePorts then
    emit (.updated .elsewhere original) lport
  else
    pure ()

/-- `_port_updated` -/
def portUpdated (lport original : LogicalPort) : Handler τ Unit := do
  portUpdateUnbind host emit lport original
  portUpdatedInPlace emit lport original
  portUpdateBind host emit lport original

/-- `_port_deleted` -/
def portDeleted (lport : LogicalPort) : Handler τ Unit := do
  let node ← get
  if lport.enabled = some false then
    pure ()
  else if lport.id ∈ node.localPorts then
    emit (.unbind .here) lport
  else if lport.id ∈ node.remotePorts then
    emit (.unbind .elsewhere) lport
  else
    pure ()

end Handlers

/-! ## The two sets -/

def portBound (kind : Locality) (lport : LogicalPort) : Handler τ Unit :=
  modify fun node => node.setBound kind (insert lport.id (node.bound kind))

/-- `set.remove` raises if the element is not there. -/
def portUnbound (kind : Locality) (lport : LogicalPort) : Handler τ Unit := do
  let node ← get
  if lport.id ∈ node.bound kind then
    set (node.setBound kind ((node.bound kind).erase lport.id))
  else
    throw .keyError

/-- `_port_bound_local` -/
def portBoundLocal (lport : LogicalPort) : Handler τ Unit := portBound .here lport

/-- `_port_unbound_local` -/
def portUnboundLocal (lport : LogicalPort) : Handler τ Unit := portUnbound .here lport

/-- `_port_bound_remote` -/
def portBoundRemote (lport : LogicalPort) : Handler τ Unit :=
  portBound .elsewhere lport

/-- `_port_unbound_remote` -/
def portUnboundRemote (lport : LogicalPort) : Handler τ Unit :=
  portUnbound .elsewhere lport

/-- What `PortBindingApp` registers for the events that it emits. -/
def callbacks : PortEvent → LogicalPort → List (Handler τ Unit)
  | .bind .here, lport => [portBoundLocal lport]
  | .unbind .here, lport => [portUnboundLocal lport]
  | .bind .elsewhere, lport => [portBoundRemote lport]
  | .unbind .elsewhere, lport => [portUnboundRemote lport]
  | .updated _ _, _ => []

/-- What the callbacks leave behind. -/
def rebound (node : Node τ) : PortEvent → LogicalPort → Node τ
  | .bind kind, lport => node.setBound kind (insert lport.id (node.bound kind))
  | .unbind kind, lport => node.setBound kind ((node.bound kind).erase lport.id)
  | .updated _ _, _ => node

@[simp] theorem rebound_lports (node : Node τ) (event : PortEvent)
    (lport : LogicalPort) : (rebound node event lport).lports = node.lports := by
  cases event <;> simp [rebound]

@[simp] theorem rebound_locations (node : Node τ) (event : PortEvent)
    (lport : LogicalPort) :
    (rebound node event lport).locations = node.locations := by
  cases event <;> simp [rebound]

@[simp] theorem rebound_emitted (node : Node τ) (event : PortEvent)
    (lport : LogicalPort) : (rebound node event lport).emitted = node.emitted := by
  cases event <;> simp [rebound]

@[simp] theorem rebound_apps (node : Node τ) (event : PortEvent)
    (lport : LogicalPort) : (rebound node event lport).apps = node.apps := by
  cases event <;> simp [rebound]

theorem exec_callbacks (event : PortEvent) (lport : LogicalPort) (node : Node τ) :
    exec (forM (callbacks event lport) attempt) node =
      (.ok (), rebound node event lport) := by
  -- Removing what is not there raises, but also leaves the set as it is.
  have unbound : ∀ kind, (exec (portUnbound kind lport) node).2 =
      node.setBound kind ((node.bound kind).erase lport.id) := by
    intro kind
    unfold portUnbound
    rw [exec_bind_ok (exec_get node)]
    by_cases present : lport.id ∈ node.bound kind
    · rw [if_pos present]
      rfl
    · rw [if_neg present, Finset.erase_eq_of_notMem present]
      cases kind <;> rfl
  rcases event with kind | kind | ⟨kind, original⟩
  · cases kind <;> rfl
  · cases kind
    · simp only [callbacks, List.forM_cons, List.forM_nil, exec_bind, exec_attempt,
        portUnboundLocal, unbound, exec_pure, rebound]
    · simp only [callbacks, List.forM_cons, List.forM_nil, exec_bind, exec_attempt,
        portUnboundRemote, unbound, exec_pure, rebound]
  · rfl

end PortBindingApp

/-! ## Ports that change in the store -/

/-- A change of the ports of the store. An update of a port that is not newer
than the stored version does nothing and is left out. -/
inductive PortChange
  | update (lport : LogicalPort)
  | delete (id : Id)
  deriving DecidableEq, Repr

namespace PortBindingApp

section Changes

variable (host : Id) (emit : PortEvent → LogicalPort → Handler τ Unit)

/-- `update_model_object` for a port. -/
def updateModelObject (lport : LogicalPort) : Handler τ Unit := do
  let node ← get
  set { node with lports := node.lports.insert lport.id lport }
  match node.lports.lookup lport.id with
  | none => attempt (portCreated host emit lport)
  | some original => attempt (portUpdated host emit lport original)

/-- `delete_model_object` for a port. -/
def deleteModelObject (id : Id) : Handler τ Unit := do
  let node ← get
  match node.lports.lookup id with
  | none => pure ()
  | some lport => do
      attempt (portDeleted emit lport)
      modify fun node => { node with lports := node.lports.erase id }

def change : PortChange → Handler τ Unit
  | .update lport => updateModelObject host emit lport
  | .delete id => deleteModelObject emit id

end Changes

/-! ## What the handlers emit

For a port whose binding is not overridden, the events depend on the versions
of the port alone. -/

open PortLocator

theorem isPortLocal_eq {host : Id} {locations : Locations} {lport : LogicalPort}
    (free : locations.lookup lport.id = none) :
    isPortLocal host locations lport =
      decide (lport.binding.map (PortBinding.locality host) = some .here) := by
  unfold isPortLocal getPortBinding
  rw [free]
  cases lport.binding with
  | none => rfl
  | some binding =>
      cases isLocal : binding.isLocal host <;>
        simp [PortBinding.locality, isLocal]

theorem isPortRemote_eq {host : Id} {locations : Locations} {lport : LogicalPort}
    (free : locations.lookup lport.id = none) :
    isPortRemote host locations lport =
      decide (lport.binding.map (PortBinding.locality host) = some .elsewhere) := by
  unfold isPortRemote getPortBinding
  rw [free]
  cases lport.binding with
  | none => rfl
  | some binding =>
      cases isLocal : binding.isLocal host <;>
        simp [PortBinding.locality, isLocal]

/-- The events of a port that is new in the store. -/
def arrival (host : Id) (lport : LogicalPort) : List (PortEvent × LogicalPort) :=
  match lport.boundAs host with
  | none => []
  | some kind => [(.bind kind, lport)]

/-- The events of a port that leaves the store. -/
def departure (host : Id) (lport : LogicalPort) : List (PortEvent × LogicalPort) :=
  match lport.boundAs host with
  | none => []
  | some kind => [(.unbind kind, lport)]

/-- The events that lead from one version of a port to the next one. -/
def transition (host : Id) (original lport : LogicalPort) :
    List (PortEvent × LogicalPort) :=
  match original.boundAs host, lport.boundAs host with
  | none, none => []
  | none, some kind => [(.bind kind, lport)]
  | some kind, none => [(.unbind kind, original)]
  | some old, some new =>
      if old = new then [(.updated new original, lport)]
      else [(.unbind old, original), (.bind new, lport)]

variable {host : Id} {emit : PortEvent → LogicalPort → Handler τ Unit}
  {lport original : LogicalPort} {node : Node τ}

theorem exec_portUpdateUnbind (free : node.locations.lookup lport.id = none)
    (same : original.id = lport.id) :
    exec (portUpdateUnbind host emit lport original) node =
      exec (match original.boundAs host with
        | none => pure ()
        | some kind =>
            if lport.boundAs host = some kind then pure ()
            else emit (.unbind kind) original) node := by
  unfold portUpdateUnbind
  rw [exec_bind_ok (exec_get node)]
  rw [isPortLocal_eq free, isPortRemote_eq free,
    isPortLocal_eq (same ▸ free), isPortRemote_eq (same ▸ free)]
  unfold LogicalPort.boundAs LogicalPort.Up
  generalize original.binding.map (PortBinding.locality host) = old
  generalize lport.binding.map (PortBinding.locality host) = new
  by_cases wasDown : original.enabled = some false <;>
    by_cases isDown : lport.enabled = some false <;>
    rcases old with _ | _ | _ <;> rcases new with _ | _ | _ <;>
    simp [wasDown, isDown]

theorem exec_portUpdateBind (free : node.locations.lookup lport.id = none)
    (same : original.id = lport.id) :
    exec (portUpdateBind host emit lport original) node =
      exec (match lport.boundAs host with
        | none => pure ()
        | some kind =>
            if original.boundAs host = some kind then pure ()
            else emit (.bind kind) lport) node := by
  unfold portUpdateBind
  rw [exec_bind_ok (exec_get node)]
  rw [isPortLocal_eq free, isPortRemote_eq free,
    isPortLocal_eq (same ▸ free), isPortRemote_eq (same ▸ free)]
  unfold LogicalPort.boundAs LogicalPort.Up
  generalize original.binding.map (PortBinding.locality host) = old
  generalize lport.binding.map (PortBinding.locality host) = new
  by_cases wasDown : original.enabled = some false <;>
    by_cases isDown : lport.enabled = some false <;>
    rcases old with _ | _ | _ <;> rcases new with _ | _ | _ <;>
    simp [wasDown, isDown]

theorem exec_portUpdatedInPlace {status : Option Locality}
    (membership : ∀ kind, lport.id ∈ node.bound kind ↔ status = some kind) :
    exec (portUpdatedInPlace emit lport original) node =
      exec (match status with
        | none => pure ()
        | some kind => emit (.updated kind original) lport) node := by
  have isHere := membership .here
  have isElsewhere := membership .elsewhere
  simp only [Node.bound] at isHere isElsewhere
  unfold portUpdatedInPlace
  rw [exec_bind_ok (exec_get node)]
  rcases status with _ | _ | _ <;> simp [isHere, isElsewhere]

/-- Emit one event after the other. -/
def emitAll (emit : PortEvent → LogicalPort → Handler τ Unit)
    (events : List (PortEvent × LogicalPort)) : Handler τ Unit :=
  forM events fun entry => emit entry.1 entry.2

theorem exec_portUpdated (free : node.locations.lookup lport.id = none)
    (same : original.id = lport.id)
    (membership : ∀ kind, lport.id ∈ node.bound kind ↔
      original.boundAs host = some kind)
    (updating : ∀ kind after,
      exec (emit (.updated kind original) lport) node = (.ok (), after) →
        after.locations.lookup lport.id = none)
    (unbinding : ∀ kind after, original.boundAs host = some kind →
      exec (emit (.unbind kind) original) node = (.ok (), after) →
        after.locations.lookup lport.id = none ∧
        ∀ other, lport.id ∉ after.bound other) :
    exec (portUpdated host emit lport original) node =
      exec (emitAll emit (transition host original lport)) node := by
  unfold portUpdated emitAll transition
  rw [exec_bind, exec_portUpdateUnbind free same]
  cases wasBound : original.boundAs host with
  | none =>
      simp only [wasBound, reduceCtorEq, iff_false] at membership
      simp only [exec_pure]
      rw [exec_bind, exec_portUpdatedInPlace (by simpa using membership :
        ∀ kind, lport.id ∈ node.bound kind ↔ none = some kind)]
      simp only [exec_pure]
      rw [exec_portUpdateBind free same, wasBound]
      cases isBound : lport.boundAs host with
      | none => rfl
      | some kind => simp
  | some old =>
      by_cases stays : lport.boundAs host = some old
      · simp only [stays, ↓reduceIte, exec_pure]
        rw [exec_bind, exec_portUpdatedInPlace membership, wasBound]
        simp only [List.forM_cons, List.forM_nil, exec_bind]
        rcases executed : exec (emit (.updated old original) lport) node with
          ⟨error | value, after⟩
        · rfl
        · simp only
          rw [exec_portUpdateBind (updating old after executed) same, stays, wasBound]
          simp
      · simp only [stays, ↓reduceIte]
        rcases executed : exec (emit (.unbind old) original) node with
          ⟨error | value, after⟩
        · cases isBound : lport.boundAs host with
          | none => simp [executed]
          | some new =>
              have moved : old ≠ new := fun equal => stays (equal ▸ isBound)
              simp [exec_bind, executed, moved]
        · have left := unbinding old after wasBound executed
          simp only
          rw [exec_bind, exec_portUpdatedInPlace (by simpa using left.2 :
            ∀ kind, lport.id ∈ after.bound kind ↔ none = some kind)]
          simp only [exec_pure]
          rw [exec_portUpdateBind left.1 same, wasBound]
          cases isBound : lport.boundAs host with
          | none => simp [executed]
          | some new =>
              have moved : old ≠ new := fun equal => stays (equal ▸ isBound)
              simp [exec_bind, executed, moved]

theorem exec_portCreated (free : node.locations.lookup lport.id = none) :
    exec (portCreated host emit lport) node =
      exec (emitAll emit (arrival host lport)) node := by
  unfold portCreated emitAll arrival
  rw [exec_bind_ok (exec_get node)]
  rw [isPortLocal_eq free, isPortRemote_eq free]
  unfold LogicalPort.boundAs LogicalPort.Up
  generalize lport.binding.map (PortBinding.locality host) = new
  by_cases isDown : lport.enabled = some false <;>
    rcases new with _ | _ | _ <;> simp [isDown]

theorem exec_portDeleted
    (membership : ∀ kind, lport.id ∈ node.bound kind ↔
      lport.boundAs host = some kind) :
    exec (portDeleted emit lport) node =
      exec (emitAll emit (departure host lport)) node := by
  have isHere := membership .here
  have isElsewhere := membership .elsewhere
  simp only [Node.bound] at isHere isElsewhere
  unfold portDeleted emitAll departure
  rw [exec_bind_ok (exec_get node)]
  by_cases isDown : lport.enabled = some false
  · simp [isDown, LogicalPort.boundAs, LogicalPort.Up]
  · cases isBound : lport.boundAs host with
    | none => simp [isDown, isHere, isElsewhere, isBound]
    | some kind => cases kind <;> simp [isDown, isHere, isElsewhere, isBound]

end PortBindingApp

end Dragonflow
