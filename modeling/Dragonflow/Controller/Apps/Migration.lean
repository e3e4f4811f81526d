import Dragonflow.Controller.Apps.PortBindingEvents
import Dragonflow.Controller.Topology

/-! # Live migration

`dragonflow/controller/apps/migration.py`: a port that moves to another chassis is bound
there before its binding changes in the northbound database.
-/

namespace Dragonflow

open Program

/-- `MIGRATION_STATUSES` -/
inductive MigrationStatus
  | destPlug
  | srcUnplug
  | rebound
  deriving DecidableEq, Repr

/-- `migration.Migration` -/
structure Migration where
  destChassis : Option Id := none
  lport : Option Id := none
  status : MigrationStatus
  deriving DecidableEq, Repr

/-- What one node reads besides its own state. -/
structure MigrationConfig where
  /-- `cfg.CONF.host` -/
  host : Id
  /-- The chassis of the store. -/
  chassis : Id → Option Chassis
  /-- The ports of the northbound database. -/
  northbound : Id → Option LogicalPort
  /-- The ports with a `Migration` in the northbound database. -/
  hasMigration : Id → Bool
  enableSelectiveTopoDist : Bool := false

variable {τ : Type}

namespace MigrationApp

section Handlers

variable (config : MigrationConfig) (emit : PortEvent → LogicalPort → Handler τ Unit)

/-- `update_migration` on the destination. -/
def processDestination (original lport : LogicalPort) : Handler τ Unit := do
  let bound : LogicalPort := { lport with binding := some (.chassis config.host) }
  modify fun node => { node with lports := node.lports.insert bound.id bound }
  emit (.unbind .elsewhere) original
  emit (.bind .here) bound

/-- `update_migration` on the other nodes. -/
def processOthers (dest : Id) (original lport : LogicalPort) : Handler τ Unit :=
  match config.chassis dest with
  | none => pure ()
  | some _ =>
      match lport.binding with
      | some (.chassis oldChassis) => do
          if oldChassis ≠ config.host then emit (.unbind .elsewhere) original else pure ()
          emit (.bind .elsewhere) { lport with binding := some (.chassis dest) }
      -- There is no binding, or the binding has no chassis whose id could be read.
      | _ => throw .attributeError

/-- `update_migration`. A reference leads to the local store only, and
`nb_api.get(None)` raises. -/
def updateMigration (migration : Migration) : Handler τ Unit :=
  if migration.status ≠ .srcUnplug then pure ()
  else
    match migration.lport with
    | none => throw .attributeError
    | some lportId => do
        let node ← get
        match node.lports.lookup lportId, migration.destChassis, config.northbound lportId with
        | none, _, _ => throw .attributeError
        | some _, none, _ => pure ()
        | some original, some dest, some lport =>
            if dest = config.host then processDestination config emit original lport
            else processOthers config emit dest original lport
        | some _, some dest, none =>
            if dest ≠ config.host ∧ config.chassis dest = none then pure ()
            else throw .attributeError

end Handlers

end MigrationApp

/-! ## A node that takes part -/

structure MigrationSite (τ : Type) where
  node : Node τ
  topology : Topology := {}

/-- What can happen on a node while a port moves. -/
inductive SiteEvent
  | plugged (switchPort lport : Id)
  | unplugged (switchPort lport : Id)
  | migrated (migration : Migration)
  | rebound (lport : LogicalPort)

namespace MigrationSite

abbrev Action (τ β : Type) := Program (MigrationSite τ) PyError β

def onNode (handler : Handler τ Unit) : Action τ Unit :=
  focus MigrationSite.node (fun site node => { site with node }) handler

section Handlers

variable (config : MigrationConfig) (emit : PortEvent → LogicalPort → Handler τ Unit)

/-- The reference of a switch port to its logical port. Objects are stored under their
ids. -/
def lportReference (node : Node τ) (lportId : Id) : LportReference where
  id := lportId
  stored := (node.lports.lookup lportId).filter fun lport => lport.id = lportId
  northbound := (config.northbound lportId).filter fun lport => lport.id = lportId
  storedId _ isStored := of_decide_eq_true (Option.filter_eq_some_iff.mp isStored).2
  northboundId _ isStored := of_decide_eq_true (Option.filter_eq_some_iff.mp isStored).2

/-- What `Topology` asks the controller to do. It logs what the controller raises. -/
def perform : TopologyCall → Action τ Unit
  | .notifyPortStatus _ _ => pure ()
  | .createMigration _ _ => pure ()
  | .updateLport lportId =>
      match config.northbound lportId with
      | none => pure ()
      | some lport =>
          onNode (attempt (PortBindingApp.updateModelObject config.host emit lport))
  | .deleteLport lportId => onNode (attempt (PortBindingApp.deleteModelObject emit lportId))

/-- Run a handler of `Topology` and the calls that it makes. -/
def onTopology (handler : Topology.Action Unit) : Action τ Unit := do
  let site ← get
  let executed := exec handler site.topology
  set { site with topology := executed.2 }
  forM (executed.2.calls.drop site.topology.calls.length) (perform config emit)
  Program.ofExcept executed.1

def topologyConfig : TopologyConfig where
  enableSelectiveTopoDist := config.enableSelectiveTopoDist
  chassisName := config.host

def handle : SiteEvent → Action τ Unit
  | .plugged switchPort lportId => do
      let site ← get
      onTopology config emit (Topology.computePortAdded (topologyConfig config)
        { id := switchPort, lport := some (lportReference config site.node lportId) })
  | .unplugged switchPort lportId => do
      let site ← get
      onTopology config emit (Topology.computePortDeleted (topologyConfig config)
        { id := switchPort, lport := some (lportReference config site.node lportId) }
        (config.hasMigration lportId))
  | .migrated migration => onNode (MigrationApp.updateMigration config emit migration)
  | .rebound lport => onNode (PortBindingApp.updateModelObject config.host emit lport)

end Handlers

/-! ## What a migration should look like -/

/-- The version of a port with which it was bound last. -/
def lastBound (node : Node τ) (portId : Id) : Option LogicalPort :=
  ((node.emitted.filter fun entry => entry.2.id = portId ∧
    (entry.1 = .bind .here ∨ entry.1 = .bind .elsewhere)).getLast?).map Prod.snd

/-- No handler raised, the events of the port take turns, and the port is bound to its
destination, although the northbound database does not say so yet. -/
structure Consistent (dest portId host : Id)
    (executed : List (Except PyError Unit) × MigrationSite τ) : Prop where
  returned : ∀ result ∈ executed.1, result.isOk
  inOrder : session executed.2.node.sessions portId ≠ none
  here : host = dest → session executed.2.node.sessions portId = some (some .here)
  elsewhere : host ≠ dest →
    session executed.2.node.sessions portId = some (some .elsewhere) ∧
    ∃ lport, lastBound executed.2.node portId = some lport ∧
      lport.binding = some (.chassis dest)

/-- What happens on the source before the port is reported as unplugged. -/
inductive Preparation (portId : Id) : SiteEvent → Prop
  | unplugged (switchPort : Id) : Preparation portId (.unplugged switchPort portId)
  | migrated (migration : Migration) (early : migration.status ≠ .srcUnplug) :
      Preparation portId (.migrated migration)

/-- The port is bound on the source, and it is to move. -/
structure Source (config : MigrationConfig) (source portId : Id)
    (site : MigrationSite τ) : Prop where
  host : config.host = source
  stored : ∃ lport, site.node.lports.lookup portId = some lport ∧ lport.id = portId
  bound : session site.node.sessions portId = some (some .here)
  northbound : ∃ lport, config.northbound portId = some lport ∧ lport.id = portId ∧
    lport.binding = some (.chassis source)
  hasMigration : config.hasMigration portId = true

section Source

variable {config : MigrationConfig} {source dest portId : Id} {site : MigrationSite τ}
  {before after : List (QuietApp τ)} {depth : Nat}

/-- `Topology` reads an attribute that a `Migration` does not have. -/
theorem computePortDeleted_raises {topologyConfig : TopologyConfig}
    {switchPort : Topology.SwitchPort} {reference : LportReference} {lport : LogicalPort}
    (isReference : switchPort.lport = some reference) (isStored : reference.stored = some lport)
    (topology : Topology) :
    (exec (Topology.computePortDeleted topologyConfig switchPort true) topology).1 =
      .error .attributeError := by
  rw [Topology.computePortDeleted, isReference]
  dsimp only
  rw [isStored]
  rfl

theorem onTopology_raises {emit : PortEvent → LogicalPort → Handler τ Unit}
    {handler : Topology.Action Unit}
    (raises : (exec handler site.topology).1 = .error .attributeError) :
    ¬(exec (onTopology config emit handler) site).1.isOk := by
  rw [onTopology, exec_bind_ok (exec_get site)]
  dsimp only
  rw [raises, exec_bind_ok (exec_set _ _), exec_bind]
  rcases exec (forM _ (perform config emit)) _ with ⟨error | value, last⟩
  · exact Bool.false_ne_true
  · exact Bool.false_ne_true

theorem Source.unplugged_raises (isSource : Source config source portId site)
    (emit : PortEvent → LogicalPort → Handler τ Unit) (switchPort : Id) :
    ¬(exec (handle config emit (.unplugged switchPort portId)) site).1.isOk := by
  rcases isSource.stored with ⟨lport, isStored, isId⟩
  rw [handle, exec_bind_ok (exec_get site), isSource.hasMigration]
  apply onTopology_raises
  have isFound : (lportReference config site.node portId).stored = some lport := by
    change (site.node.lports.lookup portId).filter _ = some lport
    rw [isStored]
    simp [isId]
  exact computePortDeleted_raises rfl isFound _

/-- Migrations that did not get so far are passed over. -/
theorem exec_migrated_early (emit : PortEvent → LogicalPort → Handler τ Unit)
    {migration : Migration} (early : migration.status ≠ .srcUnplug) :
    exec (handle config emit (.migrated migration)) site = (.ok (), site) := by
  rw [handle, onNode, exec_focus, MigrationApp.updateMigration, if_pos early]
  rfl

/-- The events of the source before the port is reported as unplugged either raise or
change nothing. -/
theorem Source.prepared (isSource : Source config source portId site)
    (emit : PortEvent → LogicalPort → Handler τ Unit) (events : List SiteEvent)
    (preparation : ∀ event ∈ events, Preparation portId event) :
    (∃ result ∈ (trace (handle config emit) events site).1, ¬result.isOk) ∨
      (trace (handle config emit) events site).2 = site := by
  induction events with
  | nil => exact Or.inr rfl
  | cons event events induction =>
      have first := preparation event List.mem_cons_self
      have rest := induction fun other member =>
        preparation other (List.mem_cons_of_mem _ member)
      simp only [trace]
      cases first with
      | unplugged switchPort =>
          exact Or.inl ⟨_, List.mem_cons_self, isSource.unplugged_raises emit switchPort⟩
      | migrated migration early =>
          rw [exec_migrated_early emit early]
          rcases rest with ⟨result, member, raised⟩ | same
          · exact Or.inl ⟨result, List.mem_cons_of_mem _ member, raised⟩
          · exact Or.inr same

/-- On the source the port is bound remotely without being unbound, unless the destination
is not known there. -/
theorem Source.migrated (isSource : Source config source portId site)
    (different : source ≠ dest) {migration : Migration}
    (isUnplug : migration.status = .srcUnplug) (isPort : migration.lport = some portId)
    (isDest : migration.destChassis = some dest) :
    session (exec (handle config
        (emit (PortBindingApp.quietCallbacks before after) (depth + 1))
        (.migrated migration)) site).2.node.sessions portId ≠ some (some .elsewhere) := by
  rcases isSource.stored with ⟨original, isStored, _⟩
  rcases isSource.northbound with ⟨lport, isNorthbound, isId, isBinding⟩
  have notHere : ¬dest = config.host := by
    rw [isSource.host]
    exact fun isHost => different isHost.symm
  rw [handle, onNode, exec_focus]
  dsimp only
  rw [MigrationApp.updateMigration, if_neg (not_not_intro isUnplug), isPort]
  dsimp only
  rw [exec_bind_ok (exec_get _), isStored, isDest, isNorthbound]
  dsimp only
  rw [if_neg notHere, MigrationApp.processOthers]
  cases config.chassis dest with
  | none =>
      dsimp only
      rw [exec_pure, isSource.bound]
      simp
  | some chassis =>
      dsimp only
      rw [isBinding]
      dsimp only
      have isHost : ¬source ≠ config.host := by
        rw [isSource.host]
        exact fun other => other rfl
      rw [if_neg isHost, PortBindingApp.exec_emit]
      have events : (PortBindingApp.announced before after site.node (.bind .elsewhere)
            { lport with binding := some (.chassis dest) }).sessions =
          site.node.sessions ++ [(portId, .opened .elsewhere)] := by
        rw [← isId]
        simp [Node.sessions, PortBindingApp.announced, Node.record, PortEvent.session]
      rw [events, session_concat, if_pos rfl, isSource.bound]
      simp [SessionEvent.follow]

end Source

/-- Whatever the order of the events, the source does not take part in a migration as it
should. -/
theorem migration_inconsistent (before after : List (QuietApp τ)) (depth : Nat)
    (config : Id → MigrationConfig) (sites : Id → MigrationSite τ)
    (history : Id → List SiteEvent) {source dest portId : Id} (different : source ≠ dest)
    (isSource : Source (config source) source portId (sites source))
    {earlier : List SiteEvent}
    (preparation : ∀ event ∈ earlier, Preparation portId event) {migration : Migration}
    (isUnplug : migration.status = .srcUnplug) (isPort : migration.lport = some portId)
    (isDest : migration.destChassis = some dest)
    (isHistory : history source = earlier ++ [.migrated migration]) :
    ¬∀ host, Consistent dest portId host
      (trace (handle (config host)
          (emit (PortBindingApp.quietCallbacks before after) (depth + 1)))
        (history host) (sites host)) := by
  intro consistent
  have atSource := consistent source
  rw [isHistory, trace_append] at atSource
  rcases isSource.prepared (emit (PortBindingApp.quietCallbacks before after) (depth + 1))
    earlier preparation with ⟨result, member, raised⟩ | same
  · exact raised (atSource.returned result (List.mem_append_left _ member))
  · have isBound := (atSource.elsewhere different).1
    dsimp only at isBound
    rw [same] at isBound
    exact isSource.migrated different isUnplug isPort isDest isBound

/-- A port that moves from `c1` to `c2`. -/
def movingPort : LogicalPort := { id := "p", binding := some (.chassis "c1") }

def movingConfig (host : Id) : MigrationConfig where
  host
  chassis id := if id = "c2" then some ⟨id, .v4 0x0a000002⟩ else none
  northbound id := if id = "p" then some movingPort else none
  hasMigration id := id = "p"

/-- The port is bound on `c1`, and no other node has it. -/
def movingSite (host : Id) : MigrationSite Unit where
  node :=
    if host = "c1" then
      { lports := (∅ : Dict Id LogicalPort).insert "p" movingPort
        locations := ∅
        localPorts := {"p"}
        remotePorts := ∅
        emitted := [(.bind .here, movingPort)]
        apps := () }
    else Node.initial ()

def moving : Migration where
  destChassis := some "c2"
  lport := some "p"
  status := .srcUnplug

theorem movingSite_source : Source (movingConfig "c1") "c1" "p" (movingSite "c1") where
  host := rfl
  stored := ⟨movingPort, rfl, rfl⟩
  bound := rfl
  northbound := ⟨movingPort, rfl, rfl, rfl⟩
  hasMigration := rfl

theorem migration_inconsistent_unplugged :
    ¬∀ host, Consistent "c2" "p" host
      (trace (handle (movingConfig host) (emit (PortBindingApp.quietCallbacks [] []) 1))
        (if host = "c1" then [.unplugged "s" "p", .migrated moving] else [])
        (movingSite host)) := by
  have different : "c1" ≠ "c2" := by decide
  have preparation : ∀ event ∈ [SiteEvent.unplugged "s" "p"], Preparation "p" event := by
    intro event member
    rw [List.mem_singleton.mp member]
    exact Preparation.unplugged "s"
  have isUnplug : moving.status = .srcUnplug := rfl
  exact migration_inconsistent [] [] 0 movingConfig movingSite
    (fun host => if host = "c1" then [.unplugged "s" "p", .migrated moving] else [])
    different movingSite_source preparation isUnplug rfl rfl rfl

/-- After the port was unplugged it is not in the store, and the migration is not
processed. -/
theorem migration_raises_at_source :
    (trace (handle (movingConfig "c1") (emit (PortBindingApp.quietCallbacks [] []) 1))
      [.unplugged "s" "p", .migrated moving] (movingSite "c1")).1 =
        [.error .attributeError, .error .attributeError] ∧
      ¬Consistent "c2" "p" "c1"
        (trace (handle (movingConfig "c1") (emit (PortBindingApp.quietCallbacks [] []) 1))
          [.unplugged "s" "p", .migrated moving] (movingSite "c1")) := by
  have results : (trace (handle (movingConfig "c1")
        (emit (PortBindingApp.quietCallbacks [] []) 1))
      [.unplugged "s" "p", .migrated moving] (movingSite "c1")).1 =
        [.error .attributeError, .error .attributeError] := rfl
  refine ⟨results, ?_⟩
  intro consistent
  have raised := consistent.returned
  rw [results] at raised
  exact Bool.false_ne_true (raised _ List.mem_cons_self)

end MigrationSite

end Dragonflow
