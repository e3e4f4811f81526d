import Dragonflow.Db.Ports
import Dragonflow.Foundation.Dict
import Dragonflow.Foundation.Program

/-! # Topics of the local ports

The part of `Topology` in `dragonflow/controller/topology.py` that follows the
compute ports of the switch. What a handler finds in the local store and in the
northbound database comes with the event, since both can change at any time. The
synchronisation that `register_topic` starts, and the publication of what a handler
writes to the northbound database, are taken to return.
-/

namespace Dragonflow

open Program

/-- `OvsLportMapping` -/
structure OvsLportMapping where
  lportId : Id
  topic : String
  deriving DecidableEq, Repr

/-- The values of `SwitchPort.type`. -/
inductive SwitchPortType
  | bridge
  | patch
  | compute
  | tunnel
  | unknown
  deriving DecidableEq, Repr

/-- A reference to a logical port, with what it leads to in the local store and in the
northbound database. -/
structure LportReference where
  id : Id
  stored : Option LogicalPort
  northbound : Option LogicalPort
  storedId : ∀ lport, stored = some lport → lport.id = id
  northboundId : ∀ lport, northbound = some lport → lport.id = id

/-- `SwitchPort`, as the handlers see it. -/
structure Topology.SwitchPort where
  id : Id
  type : SwitchPortType := .compute
  lport : Option LportReference

/-- The switch ports of the store. It keeps one object for each id. -/
structure Topology.SwitchPorts where
  ports : List Topology.SwitchPort
  distinct : (ports.map Topology.SwitchPort.id).Nodup

/-- What the handlers ask others to do. -/
inductive TopologyCall
  | notifyPortStatus (switchPort : Id) (isActive : Bool)
  | createMigration (lport dest : Id)
  | updateLport (lport : Id)
  | deleteLport (lport : Id)
  deriving DecidableEq, Repr

structure Topology where
  topicSubscribed : Dict String (List Id) := ∅
  ovsToLportMapping : Dict Id OvsLportMapping := ∅
  /-- `topic_list` of the subscriber. -/
  topicList : List String := []
  /-- A history variable. -/
  calls : List TopologyCall := []

structure TopologyConfig where
  enableSelectiveTopoDist : Bool
  chassisName : Id

/-- `n_const.DEVICE_OWNER_COMPUTE_PREFIX` -/
def deviceOwnerComputePrefix : String := "compute:"

namespace Topology

abbrev Action (β : Type) := Program Topology PyError β

def call (topologyCall : TopologyCall) : Action Unit :=
  modify fun topology => { topology with calls := topology.calls ++ [topologyCall] }

/-- `register_topic` of the controller. -/
def registerTopic (topic : String) : Action Unit :=
  modify fun topology =>
    if topic ∈ topology.topicList then topology
    else { topology with topicList := topology.topicList ++ [topic] }

/-- `unregister_topic` of the controller. -/
def unregisterTopic (topic : String) : Action Unit := do
  let topology ← get
  if topic ∈ topology.topicList then
    set { topology with topicList := topology.topicList.erase topic }
  else
    throw .valueError

/-- `_add_to_topic_subscribed` -/
def addToTopicSubscribed (config : TopologyConfig) (topic : String) (lportId : Id) :
    Action Unit := do
  if !config.enableSelectiveTopoDist || topic = "" then
    return
  let topology ← get
  match topology.topicSubscribed.lookup topic with
  | none =>
      registerTopic topic
      modify fun topology =>
        { topology with topicSubscribed := topology.topicSubscribed.insert topic [lportId] }
  | some portIds =>
      set { topology with
        topicSubscribed := topology.topicSubscribed.insert topic (portIds.insert lportId) }

/-- `_del_from_topic_subscribed` -/
def delFromTopicSubscribed (config : TopologyConfig) (topic : String) (lportId : Id) :
    Action Unit := do
  if !config.enableSelectiveTopoDist || topic = "" then
    return
  let topology ← get
  match topology.topicSubscribed.lookup topic with
  | none => throw .keyError
  | some portIds =>
      if lportId ∉ portIds then
        throw .keyError
      let remaining := portIds.erase lportId
      if remaining = [] then
        set { topology with topicSubscribed := topology.topicSubscribed.erase topic }
        unregisterTopic topic
      else
        set { topology with
          topicSubscribed := topology.topicSubscribed.insert topic remaining }

/-- `_get_lport` -/
def getLport (switchPort : SwitchPort) : Option LogicalPort :=
  match switchPort.lport with
  | none => none
  | some reference =>
      match reference.stored with
      | some lport => some lport
      | none => reference.northbound

/-- The part of `_compute_port_updated` after the bookkeeping. It reads the store again;
what it finds there decides nothing but a call of the controller. -/
def portOnline (config : TopologyConfig) (switchPort : SwitchPort) (lport : LogicalPort) :
    Action Unit :=
  match lport.binding with
  | some (.chassis chassis) => do
      if chassis ≠ config.chassisName then
        match lport.deviceOwner with
        | none => throw .typeError
        | some deviceOwner =>
            if deviceOwnerComputePrefix.toList <:+: deviceOwner.toList then
              call (.createMigration lport.id config.chassisName)
      else
        match switchPort.lport.bind LportReference.stored with
        | some _ => return
        | none => call (.updateLport lport.id)
  -- `None` has no attribute `chassis`, and no `id`.
  | _ => throw .attributeError

/-- `_compute_port_updated` -/
def computePortUpdated (config : TopologyConfig) (switchPort : SwitchPort) :
    Action Unit :=
  match getLport switchPort with
  | none => return
  | some lport => do
      let topic := lport.topic
      if topic = "" then
        return
      addToTopicSubscribed config topic lport.id
      modify fun topology =>
        { topology with
          ovsToLportMapping :=
            topology.ovsToLportMapping.insert switchPort.id ⟨lport.id, topic⟩ }
      portOnline config switchPort lport

/-- `_compute_port_added` -/
def computePortAdded (config : TopologyConfig) (switchPort : SwitchPort) : Action Unit := do
  computePortUpdated config switchPort
  call (.notifyPortStatus switchPort.id true)

/-- `del self.ovs_to_lport_mapping[switch_port_id]` -/
def deleteMapping (switchPort : Id) : Action Unit := do
  let topology ← get
  if switchPort ∈ topology.ovsToLportMapping then
    set { topology with
      ovsToLportMapping := topology.ovsToLportMapping.erase switchPort }
  else
    throw .keyError

/-- The `finally` block of `_compute_port_deleted`. A `Migration` has no attribute
`chassis`. -/
def portOffline (config : TopologyConfig) (switchPort : SwitchPort)
    (reference : LportReference) (topic : String) (hasMigration : Bool) : Action Unit := do
  call (.notifyPortStatus switchPort.id false)
  if hasMigration then
    throw .attributeError
  deleteMapping switchPort.id
  delFromTopicSubscribed config topic reference.id

/-- `_compute_port_deleted`. Whether there is a `Migration` with the id of the port in
the northbound database comes with the event. -/
def computePortDeleted (config : TopologyConfig) (switchPort : SwitchPort)
    (hasMigration : Bool) : Action Unit := do
  match switchPort.lport with
  | none => throw .attributeError
  | some reference =>
      match reference.stored with
      | none => do
          let topology ← get
          match topology.ovsToLportMapping.lookup switchPort.id with
          | none => return
          | some lportMapping =>
              deleteMapping switchPort.id
              delFromTopicSubscribed config lportMapping.topic lportMapping.lportId
      | some lport => do
          call (.deleteLport lport.id)
          portOffline config switchPort reference lport.topic hasMigration

/-- The mapping that a switch port calls for. -/
def mappingOf (switchPort : SwitchPort) : Option OvsLportMapping :=
  if switchPort.type = .compute then
    (getLport switchPort).bind fun lport =>
      if lport.topic = "" then none else some ⟨lport.id, lport.topic⟩
  else
    none

/-- The three dictionaries of `check_topology_info`. -/
structure Recheck where
  new : Dict Id OvsLportMapping
  add : Dict Id OvsLportMapping
  delete : Dict Id OvsLportMapping

/-- One round of the loop over the switch ports. -/
def recheckPort (recheck : Recheck) (switchPort : SwitchPort) : Recheck :=
  match mappingOf switchPort with
  | none => recheck
  | some lportMapping =>
      { new := recheck.new.insert switchPort.id lportMapping
        add :=
          if switchPort.id ∈ recheck.delete then recheck.add
          else recheck.add.insert switchPort.id lportMapping
        delete := recheck.delete.erase switchPort.id }

def valuesOf (mapping : Dict Id OvsLportMapping) : List OvsLportMapping :=
  mapping.entries.map Sigma.snd

/-- `check_topology_info` -/
def checkTopologyInfo (config : TopologyConfig) (switchPorts : SwitchPorts) :
    Action Unit := do
  let topology ← get
  let recheck := switchPorts.ports.foldl recheckPort ⟨∅, ∅, topology.ovsToLportMapping⟩
  set { topology with ovsToLportMapping := recheck.new }
  (valuesOf recheck.add).forM fun value =>
    addToTopicSubscribed config value.topic value.lportId
  (valuesOf recheck.delete).forM fun value =>
    delFromTopicSubscribed config value.topic value.lportId

end Topology

/-- The events of compute ports, and the recheck. -/
inductive TopologyEvent
  | created (switchPort : Topology.SwitchPort)
  | updated (switchPort : Topology.SwitchPort)
  | deleted (switchPort : Topology.SwitchPort) (hasMigration : Bool)
  | checkTopologyInfo (switchPorts : Topology.SwitchPorts)

namespace Topology

def handle (config : TopologyConfig) : TopologyEvent → Action Unit
  | .created switchPort => computePortAdded config switchPort
  | .updated switchPort => computePortUpdated config switchPort
  | .deleted switchPort hasMigration => computePortDeleted config switchPort hasMigration
  | .checkTopologyInfo switchPorts => checkTopologyInfo config switchPorts

end Topology

end Dragonflow
