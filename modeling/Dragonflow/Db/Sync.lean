import Dragonflow.Db.Queries

/-! # Keeping the local store in sync with the northbound database

`Sync` of `dragonflow/db/sync.py`. The northbound database does not change
during a call, so each call is a program with the content as a parameter.
-/

namespace Dragonflow

open Program

variable {α : Type}

/-- The order in which a set, or the values of a dictionary, are walked. -/
structure Iteration (β : Type) where
  walk : List β → List β
  perm : ∀ items, (walk items).Perm items

theorem Iteration.id_perm {β : Type} (items : List β) : (id items).Perm items :=
  List.Perm.refl items

/-- What `nb_api.get_all(model, topic)` answers during one call. -/
structure Northbound (α : Type) where
  getAll : Model → Option String → List (Object α)

/-- What `__init__` and `add_model` set, and the orders of Python's sets. -/
structure Sync (α : Type) where
  updateCb : Object α → Action α Unit
  deleteCb : Object α → Action α Unit
  selective : Bool
  models : List Model
  topicOrder : Iteration String
  idOrder : Iteration Id
  groupOrder : Iteration (Option (Scalar α))

structure SyncState (α : Type) where
  world : World α
  topics : List String
  /-- What `delete_cb` was called with, oldest first. A history variable. -/
  deleted : List (Object α)

/-- `_make_dict` -/
def makeDict (objects : List (Object α)) : Dict Id (Object α) :=
  objects.foldl (fun dict object => dict.insert object.id object) ∅

/-- The objects by the value of their `topic`. -/
abbrev Groups (α : Type) := Dict (Option (Scalar α)) (List (Object α))

/-- The value of `topic`, used as a key of a dictionary. -/
def Object.topicKey (object : Object α) : Except PyError (Option (Scalar α)) := do
  let topic ← object.read "topic"
  topic.hash

namespace Sync

abbrev Step (α β : Type) := Program (SyncState α) PyError β

/-- Work on the store. -/
def onStore (action : Action α β) : Step α β :=
  focus SyncState.world (fun state world => { state with world }) action

variable [DecidableEq α]

/-- The loop that fills `present_by_topic`. -/
def groupByTopic : List (Object α) → Groups α → Except PyError (Groups α)
  | [], groups => .ok groups
  | object :: objects, groups => do
      let topic ← object.topicKey
      groupByTopic objects (groups.insert topic (groups.members topic ++ [object]))

variable (sync : Sync α) (nb : Northbound α)

omit [DecidableEq α] in
def callUpdate (object : Object α) : Step α Unit :=
  onStore (sync.updateCb object)

omit [DecidableEq α] in
def callDelete (object : Object α) : Step α Unit := do
  modify fun state => { state with deleted := state.deleted ++ [object] }
  onStore (sync.deleteCb object)

/-- Neither subscriptions nor the topics of the instances matter for a model. -/
def unselected (model : Model) : Bool :=
  !sync.selective || !model.is .topic

def updateObjects (desired : List (Object α)) : Step α Unit :=
  forM desired sync.callUpdate

def updateModel (model : Model) : Step α Unit := do
  if sync.unselected model then
    sync.updateObjects (nb.getAll model none)
  else
    let state ← get
    forM (sync.topicOrder.walk state.topics) fun topic =>
      sync.updateObjects (nb.getAll model (some topic))

def cleanupObjects (desired present : List (Object α)) : Step α Unit := do
  let desired := makeDict desired
  let present := makeDict present
  let deletedIds := present.keys.filter (· ∉ desired.keys)
  forM (sync.idOrder.walk deletedIds) fun deletedId =>
    match present.lookup deletedId with
    | none => throw .keyError
    | some object => sync.callDelete object

/-- The loop over the topics in `_cleanup_model`. It pops the groups that it
handles, and returns the others. -/
def cleanupTopics (model : Model) :
    List String → Groups α → Step α (Groups α)
  | [], groups => pure groups
  | topic :: topics, groups => do
      sync.cleanupObjects (nb.getAll model (some topic))
        (groups.members (some (.str topic)))
      cleanupTopics model topics (groups.erase (some (.str topic)))

def cleanupModel (model : Model) : Step α Unit := do
  let present ← onStore (DbStore.getAllInstances model)
  if sync.unselected model then
    sync.cleanupObjects (nb.getAll model none) present
  else
    let presentByTopic ← Program.ofExcept (groupByTopic present ∅)
    let state ← get
    let others ← sync.cleanupTopics nb model
      (sync.topicOrder.walk state.topics) presentByTopic
    forM (sync.groupOrder.walk others.keys) fun topic =>
      forM (others.members topic) sync.callDelete

end Sync

variable [DecidableEq α]

def Sync.sync (sync : Sync α) (nb : Northbound α) : Sync.Step α Unit := do
  forM sync.models (sync.updateModel nb)
  forM sync.models.reverse (sync.cleanupModel nb)

def Sync.addTopic (sync : Sync α) (nb : Northbound α) (topic : String) :
    Sync.Step α Unit := do
  let state ← get
  if !sync.selective || topic ∈ state.topics then
    return
  else
    sync.sync nb
    forM sync.models fun model =>
      if model.is .topic then
        forM (nb.getAll model (some topic)) sync.callUpdate
      else
        pure ()
    modify fun state => { state with topics := state.topics.insert topic }

def Sync.removeTopic (sync : Sync α) (topic : String) : Sync.Step α Unit := do
  let state ← get
  if !sync.selective || topic ∉ state.topics then
    return
  else
    set { state with topics := state.topics.filter (· ≠ topic) }
    forM sync.models.reverse fun model =>
      if model.is .topic then do
        let cachedObjs ← Sync.onStore (DbStore.getAllByTopic model topic)
        forM cachedObjs sync.callDelete
      else
        pure ()

/-! ## Calls from outside -/

inductive SyncCall
  | addTopic (topic : String)
  | removeTopic (topic : String)
  | sync
  deriving DecidableEq

/-- A call, with what the northbound database holds meanwhile. -/
def Sync.run (sync : Sync α) : SyncCall × Northbound α → Sync.Step α Unit
  | (.addTopic topic, nb) => sync.addTopic nb topic
  | (.removeTopic topic, _) => sync.removeTopic topic
  | (.sync, nb) => sync.sync nb

end Dragonflow
