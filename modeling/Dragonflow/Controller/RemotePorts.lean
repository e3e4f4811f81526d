import Dragonflow.Controller.Node
import Dragonflow.Foundation.LiveIteration
import Dragonflow.Foundation.VersionGate

/-! # Remote ports and changes of the underlay

`update_chassis` and `delete_chassis` of `dragonflow/controller/df_local_controller.py` and
`_process_ovs_tunnel_port` of `dragonflow/controller/topology.py`, over the tables of the
store that they use and the indexes that they query. A query walks the leaf set of an index
while it is in use. Of an event only its emission is recorded.
-/

namespace Dragonflow

open Program

/-- A port of the store, with its version. -/
structure CachedPort extends LogicalPort where
  version : Int
  deriving DecidableEq, Repr

namespace CachedPort

def isNewerThan (port : CachedPort) (other : Option CachedPort) : Bool :=
  match other with
  | none => true
  | some other => port.version > other.version

/-- The key of the port in the index `binding.chassis.id`. -/
def chassisKey (port : CachedPort) : Option Id :=
  match port.binding with
  | some (.chassis chassis) => some chassis
  | _ => none

/-- The key of the port in the index `lswitch.id`. -/
def lswitchKey (port : CachedPort) : Option Id := port.lswitch

end CachedPort

/-! ## The store -/

/-- `_IndexCache` for an index of one path, in which each object has one key. The key is
`none` where the path leads to `None`. It stands for a cache of the store, see
`PathIndex.Represents`. -/
structure PathIndex where
  /-- The leaf sets of `_tree`. -/
  tree : Option String → List Id
  keys : Dict Id (Option String)

namespace PathIndex

def update (index : PathIndex) (id : Id) (newKey : Option String) : PathIndex :=
  let added := Function.update index.tree newKey ((index.tree newKey).insert id)
  match index.keys.lookup id with
  | none => ⟨added, index.keys.insert id newKey⟩
  | some oldKey =>
      if oldKey = newKey then ⟨index.tree, index.keys.insert id newKey⟩
      else
        ⟨Function.update added oldKey ((index.tree oldKey).erase id),
          index.keys.insert id newKey⟩

def delete (index : PathIndex) (id : Id) : Except PyError PathIndex :=
  match index.keys.lookup id with
  | none => .error .keyError
  | some key =>
      .ok ⟨Function.update index.tree key ((index.tree key).erase id), index.keys.erase id⟩

end PathIndex

/-- `_ModelCache` of the logical ports. -/
structure PortCache where
  objs : Dict Id CachedPort
  chassisId : PathIndex
  lswitchId : PathIndex

namespace PortCache

def update (cache : PortCache) (port : CachedPort) : PortCache where
  objs := cache.objs.insert port.id port
  chassisId := cache.chassisId.update port.id port.chassisKey
  lswitchId := cache.lswitchId.update port.id port.lswitchKey

def delete (cache : PortCache) (id : Id) : Except PyError PortCache := do
  let chassisId ← cache.chassisId.delete id
  let lswitchId ← cache.lswitchId.delete id
  match cache.objs.lookup id with
  | none => throw .keyError
  | some _ => return ⟨cache.objs.erase id, chassisId, lswitchId⟩

end PortCache

structure RemotePorts where
  lports : PortCache
  lswitches : Dict Id LogicalSwitch
  /-- The index `network_type` of the switches. -/
  networkType : PathIndex
  chassis : Dict Id Chassis
  /-- A history variable. -/
  emitted : List (Announcement CachedPort) := []

namespace RemotePorts

abbrev Action (β : Type) := Program RemotePorts PyError β

def emit (event : Announcement CachedPort) : Action Unit :=
  modify fun state => { state with emitted := state.emitted ++ [event] }

/-- `_get_by_id` of the ports. -/
def getPortById (id : Id) : Action CachedPort := do
  let state ← get
  match state.lports.objs.lookup id with
  | none => throw .keyError
  | some port => return port

/-- `_get_by_id` of the switches. -/
def getLswitchById (id : Id) : Action LogicalSwitch := do
  let state ← get
  match state.lswitches.lookup id with
  | none => throw .keyError
  | some lswitch => return lswitch

/-! ## The controller -/

/-- `update_model_object` for a port. -/
def updateModelObject (port : CachedPort) : Action Unit := do
  let state ← get
  let original := state.lports.objs.lookup port.id
  if port.isNewerThan original then do
    set { state with lports := state.lports.update port }
    match original with
    | none => emit (.created port)
    | some original => emit (.updated port original)
  else pure ()

/-- `delete_model_object` for a port. -/
def deleteModelObject (port : CachedPort) : Action Unit := do
  let state ← get
  match state.lports.objs.lookup port.id with
  | none => pure ()
  | some original => do
      emit (.deleted original)
      let state ← get
      match state.lports.delete original.id with
      | .error error => throw error
      | .ok lports => set { state with lports }

/-- The ids that `_get_ports_by_chassis` walks. -/
def portsByChassis (chassis : Id) (state : RemotePorts) : List Id :=
  state.lports.chassisId.tree (some chassis)

/-- `update_chassis` -/
def updateChassis (chassisName : Id) (chassis : Chassis) : Action Unit := do
  modify fun state => { state with chassis := state.chassis.insert chassis.id chassis }
  if chassisName = chassis.id then pure ()
  else
    forLive (portsByChassis chassis.id) .runtimeError fun id => do
      let port ← getPortById id
      updateModelObject port

/-- `delete_chassis` -/
def deleteChassis (chassis : Chassis) : Action Unit := do
  forLive (portsByChassis chassis.id) .runtimeError fun id => do
    let port ← getPortById id
    deleteModelObject port
  let state ← get
  match state.chassis.lookup chassis.id with
  | none => throw .keyError
  | some _ => set { state with chassis := state.chassis.erase chassis.id }

inductive TunnelAction
  | set
  | delete
  deriving DecidableEq, Repr

/-- What `_process_ovs_tunnel_port` does with a port that is not local. -/
def processPort (action : TunnelAction) (lport : CachedPort) : Action Unit :=
  match action with
  | .set => updateModelObject lport
  | .delete => deleteModelObject lport

/-- One turn of the inner loop of `_process_ovs_tunnel_port`. -/
def processTunnelPort (host : Id) (locations : Locations) (action : TunnelAction) (id : Id) :
    Action Unit := do
  let lport ← getPortById id
  if PortLocator.isPortLocal host locations lport.toLogicalPort then pure ()
  else attempt (processPort action lport)

/-- The ports of a switch. -/
def processTunnelSwitch (host : Id) (locations : Locations) (action : TunnelAction)
    (id : Id) : Action Unit := do
  let lswitch ← getLswitchById id
  forLive (fun state => state.lports.lswitchId.tree (some lswitch.id)) .runtimeError
    (processTunnelPort host locations action)

/-- `_process_ovs_tunnel_port`, for the tunnel type of the switch port. -/
def processOvsTunnelPort (host : Id) (locations : Locations) (tunnelType : Option String)
    (action : TunnelAction) : Action Unit :=
  match tunnelType with
  | none => pure ()
  | some networkType =>
      if networkType = "" then pure ()
      else
        forLive (fun state => state.networkType.tree (some networkType)) .runtimeError
          (processTunnelSwitch host locations action)

end RemotePorts

/-! ## Consistent indexes -/

/-- The index has each object under its key. -/
structure PathIndex.Consistent (index : PathIndex) (keyOf : Id → Option (Option String)) :
    Prop where
  keys : ∀ id, index.keys.lookup id = keyOf id
  nodup : ∀ key, (index.tree key).Nodup
  mem_tree : ∀ key id, id ∈ index.tree key ↔ keyOf id = some key

structure PortCache.Consistent (cache : PortCache) : Prop where
  objs_id : ∀ id port, cache.objs.lookup id = some port → port.id = id
  chassisId : cache.chassisId.Consistent fun id =>
    (cache.objs.lookup id).map CachedPort.chassisKey
  lswitchId : cache.lswitchId.Consistent fun id =>
    (cache.objs.lookup id).map CachedPort.lswitchKey

structure RemotePorts.Consistent (state : RemotePorts) : Prop where
  lports : state.lports.Consistent
  lswitches_id : ∀ id lswitch, state.lswitches.lookup id = some lswitch → lswitch.id = id
  networkType : state.networkType.Consistent fun id =>
    (state.lswitches.lookup id).map LogicalSwitch.networkType

namespace PathIndex.Consistent

variable {index : PathIndex} {keyOf : Id → Option (Option String)}

theorem delete_ok (consistent : index.Consistent keyOf) {id : Id} {key : Option String}
    (isKey : keyOf id = some key) :
    index.delete id =
      .ok ⟨Function.update index.tree key ((index.tree key).erase id), index.keys.erase id⟩ := by
  rw [PathIndex.delete, consistent.keys, isKey]

theorem delete (consistent : index.Consistent keyOf) {id : Id} {key : Option String}
    (isKey : keyOf id = some key) :
    Consistent ⟨Function.update index.tree key ((index.tree key).erase id),
      index.keys.erase id⟩ (Function.update keyOf id none) := by
  refine ⟨?_, ?_, ?_⟩
  · intro other
    rw [Dict.lookup_erase_eq, Function.update_apply, consistent.keys]
  · intro other
    dsimp only
    rw [Function.update_apply]
    split
    · exact (consistent.nodup key).erase id
    · exact consistent.nodup other
  · intro otherKey other
    dsimp only
    rw [Function.update_apply, Function.update_apply]
    by_cases sameKey : otherKey = key
    · rw [if_pos sameKey, (consistent.nodup key).mem_erase_iff, consistent.mem_tree, sameKey]
      by_cases sameId : other = id
      · simp [sameId]
      · simp [sameId]
    · rw [if_neg sameKey, consistent.mem_tree]
      by_cases sameId : other = id
      · rw [if_pos sameId, sameId, isKey]
        simp [Ne.symm sameKey]
      · rw [if_neg sameId]

theorem insert (consistent : index.Consistent keyOf) {id : Id} (noKey : keyOf id = none)
    (newKey : Option String) :
    Consistent ⟨Function.update index.tree newKey ((index.tree newKey).insert id),
      index.keys.insert id newKey⟩ (Function.update keyOf id (some newKey)) := by
  refine ⟨?_, ?_, ?_⟩
  · intro other
    rw [Dict.lookup_insert_eq, Function.update_apply, consistent.keys]
  · intro key
    dsimp only
    rw [Function.update_apply]
    split
    · exact (consistent.nodup newKey).insert
    · exact consistent.nodup key
  · intro key other
    dsimp only
    rw [Function.update_apply, Function.update_apply]
    by_cases sameKey : key = newKey
    · rw [if_pos sameKey, List.mem_insert_iff, consistent.mem_tree, sameKey]
      by_cases sameId : other = id
      · simp [sameId]
      · simp [sameId]
    · rw [if_neg sameKey, consistent.mem_tree]
      by_cases sameId : other = id
      · rw [if_pos sameId, sameId, noKey]
        simp [Ne.symm sameKey]
      · rw [if_neg sameId]

/-- An id moves to another key as if it had been deleted first. -/
theorem move (consistent : index.Consistent keyOf) {id : Id} {oldKey newKey : Option String}
    (isKey : keyOf id = some oldKey) (different : oldKey ≠ newKey) :
    Consistent ⟨Function.update
        (Function.update index.tree newKey ((index.tree newKey).insert id)) oldKey
        ((index.tree oldKey).erase id), index.keys.insert id newKey⟩
      (Function.update keyOf id (some newKey)) := by
  have moved := (consistent.delete isKey).insert (Function.update_self id none keyOf) newKey
  rw [Function.update_idem] at moved
  dsimp only at moved
  rw [Function.update_of_ne (Ne.symm different), Function.update_comm different] at moved
  refine ⟨?_, moved.nodup, moved.mem_tree⟩
  intro other
  rw [Dict.lookup_insert_eq, Function.update_apply, consistent.keys]

theorem update (consistent : index.Consistent keyOf) (id : Id) (newKey : Option String) :
    (index.update id newKey).Consistent (Function.update keyOf id (some newKey)) := by
  unfold PathIndex.update
  rw [consistent.keys]
  cases isKey : keyOf id with
  | none => exact consistent.insert isKey newKey
  | some oldKey =>
      dsimp only
      by_cases same : oldKey = newKey
      · rw [if_pos same, ← same, ← isKey, Function.update_eq_self]
        refine ⟨?_, consistent.nodup, consistent.mem_tree⟩
        intro other
        rw [Dict.lookup_insert_eq, consistent.keys]
        split
        · rename_i sameId
          rw [sameId, isKey]
        · rfl
      · rw [if_neg same]
        exact consistent.move isKey same

end PathIndex.Consistent

/-- The cache once a port has been removed. -/
def PortCache.removed (cache : PortCache) (port : CachedPort) : PortCache where
  objs := cache.objs.erase port.id
  chassisId := ⟨Function.update cache.chassisId.tree port.chassisKey
    ((cache.chassisId.tree port.chassisKey).erase port.id), cache.chassisId.keys.erase port.id⟩
  lswitchId := ⟨Function.update cache.lswitchId.tree port.lswitchKey
    ((cache.lswitchId.tree port.lswitchKey).erase port.id), cache.lswitchId.keys.erase port.id⟩

namespace PortCache.Consistent

variable {cache : PortCache}

theorem map_update (objs : Dict Id CachedPort) (id : Id) (value : Option CachedPort)
    {found : Dict Id CachedPort}
    (isFound : ∀ other, found.lookup other = if other = id then value else objs.lookup other)
    (key : CachedPort → Option Id) :
    (fun other => (found.lookup other).map key) =
      Function.update (fun other => (objs.lookup other).map key) id (value.map key) := by
  funext other
  rw [isFound, Function.update_apply]
  split
  · rfl
  · rfl

theorem map_found {port : CachedPort} (found : cache.objs.lookup port.id = some port)
    (key : CachedPort → Option Id) : (cache.objs.lookup port.id).map key = some (key port) := by
  rw [found]
  rfl

theorem delete_ok (consistent : cache.Consistent) {port : CachedPort}
    (found : cache.objs.lookup port.id = some port) :
    cache.delete port.id = .ok (cache.removed port) := by
  rw [PortCache.delete, consistent.chassisId.delete_ok (map_found found CachedPort.chassisKey),
    consistent.lswitchId.delete_ok (map_found found CachedPort.lswitchKey)]
  change (match cache.objs.lookup port.id with
    | none => Except.error PyError.keyError
    | some _ => Except.ok (cache.removed port)) = _
  rw [found]

theorem update (consistent : cache.Consistent) (port : CachedPort) :
    (cache.update port).Consistent := by
  have lookups (id : Id) := Dict.lookup_insert_eq cache.objs port.id id port
  refine ⟨?_, ?_, ?_⟩
  · intro id other isOther
    have isOther := (lookups id).symm.trans isOther
    split at isOther
    · rename_i same
      rw [← Option.some.inj isOther, same]
    · exact consistent.objs_id id other isOther
  · have keyOf := map_update cache.objs port.id (some port) lookups CachedPort.chassisKey
    change PathIndex.Consistent _ fun other =>
      ((cache.objs.insert port.id port).lookup other).map CachedPort.chassisKey
    rw [keyOf]
    exact consistent.chassisId.update port.id port.chassisKey
  · have keyOf := map_update cache.objs port.id (some port) lookups CachedPort.lswitchKey
    change PathIndex.Consistent _ fun other =>
      ((cache.objs.insert port.id port).lookup other).map CachedPort.lswitchKey
    rw [keyOf]
    exact consistent.lswitchId.update port.id port.lswitchKey

end PortCache.Consistent

namespace RemotePorts

variable {state : RemotePorts} {host : Id} {locations : Locations}

/-! ## One port -/

theorem exec_getPortById {id : Id} {port : CachedPort}
    (found : state.lports.objs.lookup id = some port) :
    exec (getPortById id) state = (.ok port, state) := by
  rw [getPortById, exec_bind_ok (exec_get state), found]
  rfl

theorem exec_getLswitchById {id : Id} {lswitch : LogicalSwitch}
    (found : state.lswitches.lookup id = some lswitch) :
    exec (getLswitchById id) state = (.ok lswitch, state) := by
  rw [getLswitchById, exec_bind_ok (exec_get state), found]
  rfl

/-- A port that is offered to itself is not newer. -/
theorem exec_updateModelObject {port : CachedPort}
    (found : state.lports.objs.lookup port.id = some port) :
    exec (updateModelObject port) state = (.ok (), state) := by
  rw [updateModelObject, exec_bind_ok (exec_get state)]
  dsimp only
  have notNewer : port.isNewerThan (some port) ≠ true := by
    simp [CachedPort.isNewerThan]
  rw [found, if_neg notNewer]
  rfl

/-- The state once a port has been removed. -/
def without (state : RemotePorts) (port : CachedPort) : RemotePorts :=
  { state with
    lports := state.lports.removed port
    emitted := state.emitted ++ [.deleted port] }

theorem exec_deleteModelObject (consistent : state.Consistent) {port : CachedPort}
    (found : state.lports.objs.lookup port.id = some port) :
    exec (deleteModelObject port) state = (.ok (), state.without port) := by
  rw [deleteModelObject, exec_bind_ok (exec_get state), found]
  dsimp only
  rw [emit, exec_bind_ok (exec_modify _ state), exec_bind_ok (exec_get _)]
  dsimp only
  rw [consistent.lports.delete_ok found]
  rfl

/-- A delivery keeps the indexes consistent, whatever is delivered. -/
theorem Consistent.updateModelObject (consistent : state.Consistent) (port : CachedPort) :
    Leads (RemotePorts.updateModelObject port) state (fun _ after => after.Consistent)
      (fun _ _ => False) := by
  rw [RemotePorts.updateModelObject, leads_bind, leads_get]
  dsimp only
  have stored : RemotePorts.Consistent { state with lports := state.lports.update port } :=
    ⟨consistent.lports.update port, consistent.lswitches_id, consistent.networkType⟩
  split
  · rw [leads_bind, leads_set]
    split
    · exact ⟨stored.lports, stored.lswitches_id, stored.networkType⟩
    · exact ⟨stored.lports, stored.lswitches_id, stored.networkType⟩
  · exact consistent

theorem length_erase_ne {ids : List Id} {id : Id} (member : id ∈ ids) :
    (ids.erase id).length ≠ ids.length := by
  rw [List.length_erase_of_mem member]
  have positive := List.length_pos_of_mem member
  omega

/-! ## What is selected -/

/-- The port is bound to the chassis. -/
def BoundTo (chassis : Id) (port : CachedPort) : Prop :=
  port.binding = some (.chassis chassis)

/-- The port is not local, and its switch has the network type. -/
def RemoteOn (host : Id) (locations : Locations) (networkType : Option String)
    (state : RemotePorts) (port : CachedPort) : Prop :=
  PortLocator.isPortLocal host locations port.toLogicalPort = false ∧
    ∃ id lswitch type, state.lswitches.lookup id = some lswitch ∧ networkType = some type ∧
      lswitch.networkType = some type ∧ port.lswitch = some id

/-- No port of the store is selected. -/
def NoPort (selected : CachedPort → Prop) (state : RemotePorts) : Prop :=
  ∀ id port, state.lports.objs.lookup id = some port → ¬ selected port

theorem boundTo_iff {chassis : Id} {port : CachedPort} :
    port.chassisKey = some chassis ↔ BoundTo chassis port := by
  unfold CachedPort.chassisKey BoundTo
  rcases port.binding with _ | binding | address
  · simp
  · simp
  · simp

theorem mem_portsByChassis (consistent : state.Consistent) {chassis id : Id} :
    id ∈ portsByChassis chassis state ↔
      ∃ port, state.lports.objs.lookup id = some port ∧ BoundTo chassis port := by
  rw [portsByChassis, consistent.lports.chassisId.mem_tree, Option.map_eq_some_iff]
  refine exists_congr fun port => and_congr_right fun _ => boundTo_iff

/-! ## The walks -/

/-- The walk over the ports of a chassis, with nothing to walk. -/
theorem exec_deleteChassis_unbound (consistent : state.Consistent) {chassis : Chassis}
    (unbound : NoPort (BoundTo chassis.id) state) :
    exec (deleteChassis chassis) state =
      match state.chassis.lookup chassis.id with
      | none => (.error .keyError, state)
      | some _ => (.ok (), { state with chassis := state.chassis.erase chassis.id }) := by
  have nothing : exec (forLive (portsByChassis chassis.id) .runtimeError fun id => do
      let port ← getPortById id
      deleteModelObject port) state = (.ok (), state) := by
    apply exec_forLive_quiet
    intro id member
    rcases (mem_portsByChassis consistent).mp member with ⟨port, found, bound⟩
    exact absurd bound (unbound id port found)
  rw [deleteChassis, exec_bind_ok nothing, exec_bind_ok (exec_get state)]
  cases state.chassis.lookup chassis.id <;> rfl

/-- The first port that is removed ends the walk. -/
theorem exec_deleteChassis_bound (consistent : state.Consistent) {chassis : Chassis}
    {id : Id} {port : CachedPort} (found : state.lports.objs.lookup id = some port)
    (bound : BoundTo chassis.id port) :
    ∃ after, exec (deleteChassis chassis) state = (.error .runtimeError, after) := by
  have breaks : ∀ other ∈ portsByChassis chassis.id state,
      Breaks (portsByChassis chassis.id) PyError.runtimeError (fun id => do
        let port ← getPortById id
        deleteModelObject port) state other := by
    intro other member
    rcases (mem_portsByChassis consistent).mp member with ⟨removed, isRemoved, isBound⟩
    have isId := consistent.lports.objs_id other removed isRemoved
    rw [← isId] at isRemoved member ⊢
    refine Or.inl ⟨state.without removed, ?_, ?_⟩
    · rw [exec_bind_ok (exec_getPortById isRemoved)]
      exact exec_deleteModelObject consistent isRemoved
    · have isKey := boundTo_iff.mpr isBound
      change (Function.update state.lports.chassisId.tree removed.chassisKey _
        (some chassis.id)).length ≠ _
      rw [isKey, Function.update_self]
      exact length_erase_ne member
  have member := (mem_portsByChassis consistent).mpr ⟨port, found, bound⟩
  rcases exec_forLive_breaks (fun other isOther => Or.inr (breaks other isOther))
    ⟨id, member, breaks id member⟩ with ⟨after, executed⟩
  exact ⟨after, exec_bind_error executed⟩

theorem mem_portsOfSwitch (consistent : state.Consistent) {lswitch id : Id} :
    id ∈ state.lports.lswitchId.tree (some lswitch) ↔
      ∃ port, state.lports.objs.lookup id = some port ∧ port.lswitch = some lswitch := by
  rw [consistent.lports.lswitchId.mem_tree, Option.map_eq_some_iff]
  rfl

theorem mem_lswitches (consistent : state.Consistent) {networkType : String} {id : Id} :
    id ∈ state.networkType.tree (some networkType) ↔
      ∃ lswitch, state.lswitches.lookup id = some lswitch ∧
        lswitch.networkType = some networkType := by
  rw [consistent.networkType.mem_tree, Option.map_eq_some_iff]

theorem exec_processTunnelPort_local {id : Id} {port : CachedPort} {action : TunnelAction}
    (found : state.lports.objs.lookup id = some port)
    (isLocal : PortLocator.isPortLocal host locations port.toLogicalPort = true) :
    exec (processTunnelPort host locations action id) state = (.ok (), state) := by
  rw [processTunnelPort, exec_bind_ok (exec_getPortById found), if_pos isLocal]
  rfl

theorem exec_processTunnelPort_set (consistent : state.Consistent) {id : Id}
    {port : CachedPort} (found : state.lports.objs.lookup id = some port) :
    exec (processTunnelPort host locations .set id) state = (.ok (), state) := by
  by_cases isLocal : PortLocator.isPortLocal host locations port.toLogicalPort = true
  · exact exec_processTunnelPort_local found isLocal
  · rw [processTunnelPort, exec_bind_ok (exec_getPortById found), if_neg isLocal,
      exec_attempt, processPort]
    rw [← consistent.lports.objs_id id port found] at found
    rw [exec_updateModelObject found]

theorem exec_processTunnelPort_delete (consistent : state.Consistent) {id : Id}
    {port : CachedPort} (found : state.lports.objs.lookup id = some port)
    (notLocal : PortLocator.isPortLocal host locations port.toLogicalPort = false) :
    exec (processTunnelPort host locations .delete id) state = (.ok (), state.without port) := by
  rw [processTunnelPort, exec_bind_ok (exec_getPortById found), notLocal,
    if_neg Bool.false_ne_true, exec_attempt, processPort]
  rw [← consistent.lports.objs_id id port found] at found
  rw [exec_deleteModelObject consistent found]

/-- Nothing happens to the ports of a tunnel type that has none, and never when they are
updated. -/
theorem exec_processOvsTunnelPort_quiet (consistent : state.Consistent)
    {tunnelType : Option String} {action : TunnelAction}
    (quiet : action = .set ∨ NoPort (RemoteOn host locations tunnelType state) state) :
    exec (processOvsTunnelPort host locations tunnelType action) state = (.ok (), state) := by
  rcases tunnelType with _ | networkType
  · rfl
  · rw [processOvsTunnelPort]
    by_cases isEmpty : networkType = ""
    · rw [if_pos isEmpty]
      rfl
    · rw [if_neg isEmpty]
      apply exec_forLive_quiet
      intro lswitchId isLswitch
      rcases (mem_lswitches consistent).mp isLswitch with ⟨lswitch, isStored, isType⟩
      rw [processTunnelSwitch, exec_bind_ok (exec_getLswitchById isStored),
        consistent.lswitches_id lswitchId lswitch isStored]
      apply exec_forLive_quiet
      intro id member
      rcases (mem_portsOfSwitch consistent).mp member with ⟨port, found, isOn⟩
      by_cases isLocal : PortLocator.isPortLocal host locations port.toLogicalPort = true
      · exact exec_processTunnelPort_local found isLocal
      · rcases quiet with isSet | noPort
        · rw [isSet]
          exact exec_processTunnelPort_set consistent found
        · have notLocal := Bool.eq_false_iff.mpr isLocal
          exact absurd ⟨notLocal, lswitchId, lswitch, networkType, isStored, rfl, isType, isOn⟩
            (noPort id port found)

/-- The ports of one switch, when one of them is removed. -/
theorem exec_processTunnelSwitch_breaks (consistent : state.Consistent) {lswitchId : Id}
    {lswitch : LogicalSwitch} (isStored : state.lswitches.lookup lswitchId = some lswitch)
    {id : Id} {port : CachedPort} (found : state.lports.objs.lookup id = some port)
    (isOn : port.lswitch = some lswitchId)
    (notLocal : PortLocator.isPortLocal host locations port.toLogicalPort = false) :
    ∃ after, exec (processTunnelSwitch host locations .delete lswitchId) state =
      (.error .runtimeError, after) := by
  rw [processTunnelSwitch, exec_bind_ok (exec_getLswitchById isStored),
    consistent.lswitches_id lswitchId lswitch isStored]
  have breaks : ∀ other removed, state.lports.objs.lookup other = some removed →
      removed.lswitch = some lswitchId →
      PortLocator.isPortLocal host locations removed.toLogicalPort = false →
      Breaks (fun state : RemotePorts => state.lports.lswitchId.tree (some lswitchId))
        PyError.runtimeError (processTunnelPort host locations .delete) state other := by
    intro other removed isRemoved isOnToo isRemote
    refine Or.inl ⟨state.without removed,
      exec_processTunnelPort_delete consistent isRemoved isRemote, ?_⟩
    have member := (mem_portsOfSwitch consistent).mpr ⟨removed, isRemoved, isOnToo⟩
    rw [← consistent.lports.objs_id other removed isRemoved] at member
    change (Function.update state.lports.lswitchId.tree removed.lswitch _
      (some lswitchId)).length ≠ _
    rw [isOnToo, Function.update_self, CachedPort.lswitchKey, isOnToo]
    exact length_erase_ne member
  apply exec_forLive_breaks
  · intro other member
    rcases (mem_portsOfSwitch consistent).mp member with ⟨removed, isRemoved, isOnToo⟩
    by_cases isLocal : PortLocator.isPortLocal host locations removed.toLogicalPort = true
    · exact Or.inl (exec_processTunnelPort_local isRemoved isLocal)
    · exact Or.inr (breaks other removed isRemoved isOnToo (Bool.eq_false_iff.mpr isLocal))
  · exact ⟨id, (mem_portsOfSwitch consistent).mpr ⟨port, found, isOn⟩,
      breaks id port found isOn notLocal⟩

theorem exec_processOvsTunnelPort_breaks (consistent : state.Consistent)
    {networkType : String} (someType : networkType ≠ "") {id : Id} {port : CachedPort}
    (found : state.lports.objs.lookup id = some port)
    (remote : RemoteOn host locations (some networkType) state port) :
    ∃ after, exec (processOvsTunnelPort host locations (some networkType) .delete) state =
      (.error .runtimeError, after) := by
  rcases remote with ⟨notLocal, lswitchId, lswitch, type, isStored, sameType, isType, isOn⟩
  rw [← Option.some.inj sameType] at isType
  rw [processOvsTunnelPort, if_neg someType]
  apply exec_forLive_breaks
  · intro other member
    rcases (mem_lswitches consistent).mp member with ⟨otherSwitch, otherStored, otherType⟩
    by_cases remotes : ∃ otherId otherPort,
        state.lports.objs.lookup otherId = some otherPort ∧ otherPort.lswitch = some other ∧
          PortLocator.isPortLocal host locations otherPort.toLogicalPort = false
    · rcases remotes with ⟨otherId, otherPort, otherFound, otherOn, otherRemote⟩
      exact Or.inr (Or.inr (exec_processTunnelSwitch_breaks consistent otherStored otherFound
        otherOn otherRemote))
    · left
      rw [processTunnelSwitch, exec_bind_ok (exec_getLswitchById otherStored),
        consistent.lswitches_id other otherSwitch otherStored]
      apply exec_forLive_quiet
      intro otherId isPort
      rcases (mem_portsOfSwitch consistent).mp isPort with ⟨otherPort, otherFound, otherOn⟩
      have isLocal : PortLocator.isPortLocal host locations otherPort.toLogicalPort = true := by
        by_contra notLocal
        exact remotes ⟨otherId, otherPort, otherFound, otherOn, Bool.eq_false_iff.mpr notLocal⟩
      exact exec_processTunnelPort_local otherFound isLocal
  · exact ⟨lswitchId, (mem_lswitches consistent).mpr ⟨lswitch, isStored, isType⟩,
      Or.inr (exec_processTunnelSwitch_breaks consistent isStored found isOn notLocal)⟩

/-! ## What the walks are for -/

/-- Exactly the selected ports have left the store. -/
structure RemovesPorts (selected : CachedPort → Prop) (before after : RemotePorts) :
    Prop where
  lports : ∀ id port, after.lports.objs.lookup id = some port ↔
    before.lports.objs.lookup id = some port ∧ ¬ selected port
  lswitches : after.lswitches = before.lswitches

def IsUpdated : Announcement CachedPort → Prop
  | .updated _ _ => True
  | _ => False

def IsDeleted : Announcement CachedPort → Prop
  | .deleted _ => True
  | _ => False

/-- One event of the kind has been emitted for each selected port, and none for others. -/
def Emits (kind : Announcement CachedPort → Prop) (selected : CachedPort → Prop)
    (before after : RemotePorts) : Prop :=
  ∃ events, after.emitted = before.emitted ++ events ∧
    (events.map Announcement.item).Nodup ∧
    (∀ port, port ∈ events.map Announcement.item ↔
      (∃ id, before.lports.objs.lookup id = some port) ∧ selected port) ∧
    ∀ event ∈ events, kind event

/-- `delete_chassis` removes the chassis and the ports that are bound to it. -/
def DeletesChassis (state : RemotePorts) (chassis : Chassis) : Prop :=
  ∃ after, exec (deleteChassis chassis) state = (.ok (), after) ∧
    RemovesPorts (BoundTo chassis.id) state after ∧
    Emits IsDeleted (BoundTo chassis.id) state after ∧
    after.chassis = state.chassis.erase chassis.id

/-- `_process_ovs_tunnel_port` removes the remote ports of the tunnel type. -/
def DeletesTunnelPorts (host : Id) (locations : Locations) (tunnelType : Option String)
    (state : RemotePorts) : Prop :=
  ∃ after, exec (processOvsTunnelPort host locations tunnelType .delete) state =
      (.ok (), after) ∧
    RemovesPorts (RemoteOn host locations tunnelType state) state after ∧
    after.chassis = state.chassis

theorem removesPorts_same_iff {selected : CachedPort → Prop} {after : RemotePorts}
    (lports : after.lports = state.lports) (lswitches : after.lswitches = state.lswitches) :
    RemovesPorts selected state after ↔ NoPort selected state := by
  constructor
  · intro removes id port found isSelected
    have kept := (removes.lports id port).mp (by rw [lports]; exact found)
    exact kept.2 isSelected
  · intro noPort
    refine ⟨fun id port => ?_, lswitches⟩
    rw [lports]
    exact ⟨fun found => ⟨found, noPort id port found⟩, fun kept => kept.1⟩

theorem emits_same_iff {kind : Announcement CachedPort → Prop} {selected : CachedPort → Prop}
    {after : RemotePorts} (emitted : after.emitted = state.emitted) :
    Emits kind selected state after ↔ NoPort selected state := by
  constructor
  · rintro ⟨events, isEmitted, _, announced, _⟩ id port found isSelected
    rw [emitted] at isEmitted
    have noEvents : events = [] := List.append_right_eq_self.mp isEmitted.symm
    have member := (announced port).mpr ⟨⟨id, found⟩, isSelected⟩
    rw [noEvents] at member
    exact absurd member List.not_mem_nil
  · intro noPort
    refine ⟨[], by rw [emitted, List.append_nil], List.nodup_nil, fun port => ?_, ?_⟩
    · refine iff_of_false List.not_mem_nil ?_
      rintro ⟨⟨id, found⟩, isSelected⟩
      exact noPort id port found isSelected
    · exact fun event member => absurd member List.not_mem_nil

/-- The removals do what they are for exactly when there is nothing to remove: no port is
bound to a chassis that is known, and no remote port is of the tunnel type. -/
theorem bulkRemovals_iff (consistent : state.Consistent) (chassis : Chassis) (host : Id)
    (locations : Locations) (tunnelType : Option String) :
    (DeletesChassis state chassis ↔
      NoPort (BoundTo chassis.id) state ∧ (state.chassis.lookup chassis.id).isSome) ∧
    (DeletesTunnelPorts host locations tunnelType state ↔
      NoPort (RemoteOn host locations tunnelType state) state) := by
  constructor
  · constructor
    · rintro ⟨after, executed, _⟩
      have unbound : NoPort (BoundTo chassis.id) state := by
        intro id port found bound
        rcases exec_deleteChassis_bound consistent found bound with ⟨other, raised⟩
        rw [raised] at executed
        exact absurd (Prod.mk.inj executed).1 (by simp)
      refine ⟨unbound, ?_⟩
      rw [exec_deleteChassis_unbound consistent unbound] at executed
      cases isKnown : state.chassis.lookup chassis.id with
      | none =>
          rw [isKnown] at executed
          exact absurd (Prod.mk.inj executed).1 (by simp)
      | some known => rfl
    · rintro ⟨unbound, isKnown⟩
      rcases Option.isSome_iff_exists.mp isKnown with ⟨known, isKnown⟩
      refine ⟨{ state with chassis := state.chassis.erase chassis.id }, ?_,
        (removesPorts_same_iff (by rfl) (by rfl)).mpr unbound,
        (emits_same_iff (by rfl)).mpr unbound, rfl⟩
      rw [exec_deleteChassis_unbound consistent unbound, isKnown]
  · constructor
    · rintro ⟨after, executed, removes, _⟩ id port found remote
      rcases tunnelType with _ | networkType
      · rcases remote with ⟨_, _, _, _, _, isType, _⟩
        exact absurd isType (by simp)
      · by_cases isEmpty : networkType = ""
        · rw [processOvsTunnelPort, if_pos isEmpty] at executed
          have same := (Prod.mk.inj executed).2
          rw [← same] at removes
          exact (removesPorts_same_iff rfl rfl).mp removes id port found remote
        · rcases exec_processOvsTunnelPort_breaks consistent isEmpty found remote with
            ⟨other, raised⟩
          rw [raised] at executed
          exact absurd (Prod.mk.inj executed).1 (by simp)
    · intro noPort
      exact ⟨state, exec_processOvsTunnelPort_quiet consistent (Or.inr noPort),
        (removesPorts_same_iff rfl rfl).mpr noPort, rfl⟩

/-- A store with one chassis, and one port that is bound to it. -/
def oneBoundPort : RemotePorts where
  lports := PortCache.update ⟨∅, ⟨fun _ => [], ∅⟩, ⟨fun _ => [], ∅⟩⟩
    { id := "port", binding := some (.chassis "other"), version := 1 }
  lswitches := ∅
  networkType := ⟨fun _ => [], ∅⟩
  chassis := (∅ : Dict Id Chassis).insert "other" ⟨"other", .v4 1⟩

theorem consistent_oneBoundPort : oneBoundPort.Consistent := by
  have new : PathIndex.Consistent ⟨fun _ => [], ∅⟩ fun _ => none :=
    ⟨fun _ => rfl, fun _ => List.nodup_nil, fun key id => by simp⟩
  have newCache : PortCache.Consistent ⟨∅, ⟨fun _ => [], ∅⟩, ⟨fun _ => [], ∅⟩⟩ :=
    ⟨fun id port found => absurd found (by simp), new, new⟩
  exact ⟨newCache.update _, fun id lswitch found => absurd found (by simp [oneBoundPort]), new⟩

theorem bulkRemovals_iff_oneBoundPort :
    ¬ DeletesChassis oneBoundPort ⟨"other", .v4 1⟩ ∧
      DeletesTunnelPorts "host" ∅ (some "vxlan") oneBoundPort := by
  have removals := bulkRemovals_iff consistent_oneBoundPort ⟨"other", .v4 1⟩ "host" ∅
    (some "vxlan")
  refine ⟨fun deletes => ?_, removals.2.mpr ?_⟩
  · exact (removals.1.mp deletes).1 "port" _ rfl rfl
  · rintro id port _ ⟨_, _, lswitch, _, isStored, _⟩
    exact absurd isStored (by simp [oneBoundPort])

/-- The walk raises after the only port that is bound to the chassis. -/
theorem deleteChassis_raises :
    (exec (deleteChassis ⟨"other", .v4 1⟩) oneBoundPort).1 = .error .runtimeError ∧
      ¬ DeletesChassis oneBoundPort ⟨"other", .v4 1⟩ := by
  have raises : (exec (deleteChassis ⟨"other", .v4 1⟩) oneBoundPort).1 =
      .error .runtimeError := rfl
  refine ⟨raises, ?_⟩
  rintro ⟨after, executed, _⟩
  rw [executed] at raises
  exact absurd raises (by simp)

/-- An underlay change announces its ports exactly when there is no port to announce: a
port that is offered to itself is not newer. -/
theorem underlayChanges_iff (consistent : state.Consistent) {chassisName : Id}
    {chassis : Chassis} (isRemote : chassisName ≠ chassis.id) (host : Id)
    (locations : Locations) (tunnelType : Option String) :
    (Emits IsUpdated (BoundTo chassis.id) state
        (exec (updateChassis chassisName chassis) state).2 ↔
      NoPort (BoundTo chassis.id) state) ∧
    (Emits IsUpdated (RemoteOn host locations tunnelType state) state
        (exec (processOvsTunnelPort host locations tunnelType .set) state).2 ↔
      NoPort (RemoteOn host locations tunnelType state) state) := by
  have stored : RemotePorts.Consistent
      { state with chassis := state.chassis.insert chassis.id chassis } :=
    ⟨consistent.lports, consistent.lswitches_id, consistent.networkType⟩
  have walked : exec (updateChassis chassisName chassis) state =
      (.ok (), { state with chassis := state.chassis.insert chassis.id chassis }) := by
    rw [updateChassis, exec_bind_ok (exec_modify _ state), if_neg isRemote]
    apply exec_forLive_quiet
    intro id member
    rcases (mem_portsByChassis stored).mp member with ⟨port, found, _⟩
    rw [exec_bind_ok (exec_getPortById found)]
    rw [← consistent.lports.objs_id id port found] at found
    exact exec_updateModelObject found
  refine ⟨emits_same_iff ?_, emits_same_iff ?_⟩
  · rw [walked]
  · rw [exec_processOvsTunnelPort_quiet consistent (Or.inl rfl)]

theorem underlayChanges_iff_oneBoundPort :
    ¬ Emits IsUpdated (BoundTo "other") oneBoundPort
      (exec (updateChassis "host" ⟨"other", .v4 1⟩) oneBoundPort).2 := by
  intro emits
  have isRemote : "host" ≠ (Chassis.mk "other" (.v4 1)).id := by decide
  have changes := underlayChanges_iff consistent_oneBoundPort isRemote "host" ∅ none
  exact changes.1.mp emits "port" _ rfl rfl

/-- The port that is bound to the chassis is not announced. -/
theorem updateChassis_announces_nothing :
    (exec (updateChassis "host" ⟨"other", .v4 1⟩) oneBoundPort).2.emitted = [] ∧
      ¬ Emits IsUpdated (BoundTo "other") oneBoundPort
        (exec (updateChassis "host" ⟨"other", .v4 1⟩) oneBoundPort).2 := by
  have nothing : (exec (updateChassis "host" ⟨"other", .v4 1⟩) oneBoundPort).2.emitted =
      [] := rfl
  refine ⟨nothing, fun emits => ?_⟩
  exact (emits_same_iff nothing).mp emits "port" _ rfl rfl

end RemotePorts

end Dragonflow
