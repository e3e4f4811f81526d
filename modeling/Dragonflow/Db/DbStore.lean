import Dragonflow.Db.IndexCache

/-! # The local store

`_ModelCache` and `DbStore` of `dragonflow/db/db_store.py`.
-/

namespace Dragonflow

variable {α : Type}

/-! ## The cache of one model -/

namespace World

/-- The end of `_ModelCache.update`: the replaced instance becomes stale, even
when it is the new instance itself. -/
def storeObject (world : World α) (object : Object α) : World α :=
  let marked := match world.stored object.key with
    | some old => world.markStale old
    | none => world
  marked.modifyCache object.model fun cache =>
    { cache with objs := cache.objs.insert object.id object }

/-- The end of `_ModelCache.delete`. -/
def dropObject (world : World α) (key : ObjectKey) (old : Object α) : World α :=
  ((world.markStale old).modifyCache key.1 fun cache =>
    { cache with objs := cache.objs.erase key.2 }).record (.deleted key)

theorem stored_storeObject (world : World α) (object : Object α)
    (key : ObjectKey) :
    (world.storeObject object).stored key =
      if key = object.key then some object else world.stored key := by
  have marked : ∀ marked : World α, marked.cacheOf = world.cacheOf →
      (marked.modifyCache object.model fun cache =>
        { cache with objs := cache.objs.insert object.id object }).stored key =
      if key = object.key then some object else world.stored key := by
    intro marked same
    rw [stored_modifyCache, same, Dict.lookup_insert_eq]
    simp only [stored, same, Object.key, Prod.ext_iff]
    by_cases sameModel : key.1 = object.model <;> simp [sameModel]
  unfold storeObject
  cases world.stored object.key <;> exact marked _ rfl

theorem indexes_storeObject (world : World α) (object : Object α)
    (model : Model) :
    ((world.storeObject object).cacheOf model).indexes =
      (world.cacheOf model).indexes := by
  have marked : ∀ marked : World α, marked.cacheOf = world.cacheOf →
      ((marked.modifyCache object.model fun cache =>
        { cache with objs := cache.objs.insert object.id object }).cacheOf
          model).indexes = (world.cacheOf model).indexes := by
    intro marked same
    rw [cacheOf_modifyCache, same]
    split
    · next sameModel => rw [sameModel]
    · rfl
  unfold storeObject
  cases world.stored object.key <;> exact marked _ rfl

theorem stale_storeObject (world : World α) (object : Object α) :
    (world.storeObject object).stale =
      match world.stored object.key with
      | some old => Function.update world.stale old.address true
      | none => world.stale := by
  unfold storeObject
  cases world.stored object.key <;> rfl

@[simp] theorem fetched_storeObject (world : World α) (object : Object α) :
    (world.storeObject object).fetched = world.fetched := by
  unfold storeObject
  cases world.stored object.key <;> rfl

@[simp] theorem history_storeObject (world : World α) (object : Object α) :
    (world.storeObject object).history = world.history := by
  unfold storeObject
  cases world.stored object.key <;> rfl

@[simp] theorem objToEmbedded_storeObject (world : World α)
    (object : Object α) :
    (world.storeObject object).store.objToEmbedded =
      world.store.objToEmbedded := by
  unfold storeObject
  cases world.stored object.key <;> rfl

@[simp] theorem embeddedRefs_storeObject (world : World α)
    (object : Object α) :
    (world.storeObject object).store.embeddedRefs =
      world.store.embeddedRefs := by
  unfold storeObject
  cases world.stored object.key <;> rfl

theorem stored_dropObject (world : World α) (key other : ObjectKey)
    (old : Object α) :
    (world.dropObject key old).stored other =
      if other = key then none else world.stored other := by
  unfold dropObject
  rw [stored_record, stored_modifyCache, cacheOf_markStale, stored_markStale,
    Dict.lookup_erase_eq]
  simp only [stored, Prod.ext_iff]
  by_cases sameModel : other.1 = key.1 <;> simp [sameModel]

theorem indexes_dropObject (world : World α) (key : ObjectKey)
    (old : Object α) (model : Model) :
    ((world.dropObject key old).cacheOf model).indexes =
      (world.cacheOf model).indexes := by
  unfold dropObject
  rw [cacheOf_record, cacheOf_modifyCache, cacheOf_markStale]
  split
  · next sameModel => rw [sameModel]
  · rfl

@[simp] theorem history_dropObject (world : World α) (key : ObjectKey)
    (old : Object α) :
    (world.dropObject key old).history = .deleted key :: world.history := rfl

@[simp] theorem objToEmbedded_dropObject (world : World α) (key : ObjectKey)
    (old : Object α) :
    (world.dropObject key old).store.objToEmbedded =
      world.store.objToEmbedded := rfl

@[simp] theorem embeddedRefs_dropObject (world : World α) (key : ObjectKey)
    (old : Object α) :
    (world.dropObject key old).store.embeddedRefs =
      world.store.embeddedRefs := rfl

variable [DecidableEq α]

/-- `_IndexCache.update`, once the new keys are computed. -/
def setKeys (world : World α) (key : ObjectKey) (index : Index)
    (newKeys : List (Key α)) : World α :=
  world.modifyCache key.1 fun cache =>
    cache.setIndex index ((cache.indexes index).update key.2 newKeys)

/-- `_IndexCache.delete`, for keys that were popped. -/
def dropKeys (world : World α) (key : ObjectKey) (index : Index)
    (keys : List (Key α)) : World α :=
  world.modifyCache key.1 fun cache =>
    cache.setIndex index ((cache.indexes index).delete key.2 keys)

/-- The keys that an index has recorded for an object. -/
def recordedKeys (world : World α) (key : ObjectKey) (index : Index) :
    Option (List (Key α)) :=
  ((world.cacheOf key.1).indexes index).keys.lookup key.2

omit [DecidableEq α] in
theorem recordedKeys_setIndex_other (world : World α) {model : Model}
    {index : Index} (transform : IndexCache α index → IndexCache α index)
    {key : ObjectKey} {other : Index}
    (different : ¬(key.1 = model ∧ other = index)) :
    (world.modifyCache model fun cache =>
      cache.setIndex index (transform (cache.indexes index))).recordedKeys
        key other = world.recordedKeys key other := by
  unfold recordedKeys
  rw [cacheOf_modifyCache]
  split
  · next same =>
      rw [ModelCache.setIndex_other _ _ fun equal => different ⟨same, equal⟩,
        same]
  · rfl

theorem recordedKeys_setKeys (world : World α) (key other : ObjectKey)
    (index otherIndex : Index) (newKeys : List (Key α)) :
    (world.setKeys key index newKeys).recordedKeys other otherIndex =
      if other = key ∧ otherIndex = index then some newKeys
      else world.recordedKeys other otherIndex := by
  by_cases written : other.1 = key.1 ∧ otherIndex = index
  · rcases written with ⟨sameModel, rfl⟩
    unfold setKeys recordedKeys
    rw [cacheOf_modifyCache, if_pos sameModel, ModelCache.setIndex_same]
    simp only [IndexCache.update, Dict.lookup_insert_eq, Prod.ext_iff, sameModel,
      true_and, and_true]
  · rw [setKeys, recordedKeys_setIndex_other _ (·.update key.2 newKeys) written,
      if_neg]
    rintro ⟨rfl, same⟩
    exact written ⟨rfl, same⟩

theorem recordedKeys_dropKeys (world : World α) (key other : ObjectKey)
    (index otherIndex : Index) (keys : List (Key α)) :
    (world.dropKeys key index keys).recordedKeys other otherIndex =
      if other = key ∧ otherIndex = index then none
      else world.recordedKeys other otherIndex := by
  by_cases written : other.1 = key.1 ∧ otherIndex = index
  · rcases written with ⟨sameModel, rfl⟩
    unfold dropKeys recordedKeys
    rw [cacheOf_modifyCache, if_pos sameModel, ModelCache.setIndex_same]
    simp only [IndexCache.delete, Dict.lookup_erase_eq, Prod.ext_iff, sameModel,
      true_and, and_true]
  · rw [dropKeys, recordedKeys_setIndex_other _ (·.delete key.2 keys) written,
      if_neg]
    rintro ⟨rfl, same⟩
    exact written ⟨rfl, same⟩

end World

variable [DecidableEq α]

namespace ModelCache

def updateIndex (object : Object α) (index : Index) : Action α Unit := do
  let newKeys ← IndexCache.getKeys object index
  modify fun world => world.setKeys object.key index newKeys

def update (object : Object α) : Action α Unit := do
  modify fun world => world.record (.updated object (world.keysAt object))
  forM object.model.cachedIndexes (updateIndex object)
  modify fun world => world.storeObject object

/-- Only the id of the object given to `delete` is ever used. -/
def deleteIndex (key : ObjectKey) (index : Index) : Action α Unit := do
  let world ← get
  match world.recordedKeys key index with
  | none => throw .keyError
  | some keys => set (world.dropKeys key index keys)

def delete (key : ObjectKey) : Action α Unit := do
  forM key.1.cachedIndexes (deleteIndex key)
  let world ← get
  match world.stored key with
  | none => throw .keyError
  | some old => set (world.dropObject key old)

def getKeys (object : Object α) (index : Option Index) : Action α (List Id) := do
  match index with
  | none =>
      let world ← get
      return (world.cacheOf object.model).objs.keys
  | some index =>
      if index = Model.idIndex then
        return [object.id]
      else if index ∈ object.model.cachedIndexes then
        let queries ← IndexCache.getKeys object index
        let world ← get
        return ((world.cacheOf object.model).indexes index).getAll queries
      else
        throw .keyError

/-- `_get_by_id` -/
def getById (model : Model) (id : Id) : Action α (Object α) := do
  let world ← get
  match world.stored (model, id) with
  | none => throw .keyError
  | some object => return object

def getByIds (model : Model) : List Id → Action α (List (Object α))
  | [] => pure []
  | id :: ids => do
      let object ← getById model id
      let rest ← getByIds model ids
      return object :: rest

def getAll (object : Object α) (index : Option Index) :
    Action α (List (Object α)) := do
  let ids ← getKeys object index
  getByIds object.model ids

def getOne (object : Object α) (index : Option Index) :
    Action α (Option (Object α)) := do
  if index = none ∨ index = some Model.idIndex then
    let world ← get
    return world.stored object.key
  else
    -- Two calls of `_take_one` tell no, one and several results apart.
    match ← getKeys object index with
    | [] => return none
    | [id] =>
        let world ← get
        return world.stored (object.model, id)
    | _ => throw .valueError

end ModelCache

/-! ## The store -/

/-- The order in which a set of keys is walked. Nothing is promised about it,
except that it meets every element. -/
structure SetOrder where
  walk : List ObjectKey → List ObjectKey
  perm : ∀ keys, (walk keys).Perm keys

/-- Walk a set in the order in which its elements were added. -/
def SetOrder.insertion : SetOrder where
  walk := id
  perm _ := List.Perm.refl _

namespace DbStore

def getOne (object : Object α) (index : Option Index) :
    Action α (Option (Object α)) := do
  getCache object.model
  ModelCache.getOne object index

def getAll (object : Object α) (index : Option Index) :
    Action α (List (Object α)) := do
  getCache object.model
  ModelCache.getAll object index

def getKeys (object : Object α) (index : Option Index) :
    Action α (List Id) := do
  getCache object.model
  ModelCache.getKeys object index

/-- `refs.discard(owner)`, and the removal of an object that nothing embeds
any more. `delete` is the recursive call. -/
def deleteEmbeddedWith (delete : ObjectKey → Action α Unit)
    (owner embedded : ObjectKey) : Action α Unit := do
  let world ← get
  let refs := (world.refsOf embedded).filter (· ≠ owner)
  set (world.setRefs (world.store.embeddedRefs.insert embedded refs))
  if refs = [] then
    delete embedded
    let world ← get
    match world.store.embeddedRefs.lookup embedded with
    | none => throw .keyError
    | some _ => set (world.setRefs (world.store.embeddedRefs.erase embedded))
  else
    pure ()

variable (order : SetOrder)

/-- `delete`. A nested call finds one entry less in `_obj_to_embedded`, which
bounds the depth of the recursion. -/
def deleteWithin : Nat → ObjectKey → Action α Unit
  | 0, _ => throw .recursionError
  | fuel + 1, key => do
      let world ← get
      set (world.setEmbedded (world.store.objToEmbedded.erase key))
      forM (order.walk (world.embeddedOf key))
        (deleteEmbeddedWith (deleteWithin fuel) key)
      getCache key.1
      ModelCache.delete key

def deleteKey (key : ObjectKey) : Action α Unit := do
  let world ← get
  deleteWithin order (world.store.objToEmbedded.entries.length + 1) key

def delete (object : Object α) : Action α Unit :=
  deleteKey order object.key

/-- `_delete_embedded` -/
def deleteEmbedded (owner embedded : ObjectKey) : Action α Unit :=
  deleteEmbeddedWith (deleteKey order) owner embedded

/-- `self._embedded_refs[embedded].add(owner)` -/
def addRef (owner embedded : ObjectKey) : Action α Unit :=
  modify fun world => world.setRefs (world.store.embeddedRefs.insert embedded
    ((world.refsOf embedded).insert owner))

/-- The second half of `_update_embedded`: drop what the new version of the
object no longer embeds. -/
def dropEmbedded (object : Object α) : Action α Unit := do
  let world ← get
  let oldEmbedded := world.embeddedOf object.key
  let newEmbedded := object.embeddedKeys.dedup
  -- Reading the default dictionary creates the entry.
  set (world.setEmbedded
    (world.store.objToEmbedded.insert object.key oldEmbedded))
  forM (order.walk (oldEmbedded.filter (· ∉ newEmbedded)))
    (deleteEmbedded order object.key)
  modify fun world => world.setEmbedded
    (world.store.objToEmbedded.insert object.key newEmbedded)

/-- `update`, for objects of bounded height. -/
def updateWithin : Nat → Object α → Action α Unit
  | 0, _ => throw .recursionError
  | fuel + 1, object => do
      getCache object.model
      ModelCache.update object
      forM object.iterateEmbeddedModelInstances fun embedded => do
        updateWithin fuel embedded
        addRef object.key embedded.key
      dropEmbedded order object

def update (object : Object α) : Action α Unit :=
  updateWithin order object.height object

/-- The inner loop of `clear`. -/
def clearCache (model : Model) (objects : List (Object α)) : Action α Unit :=
  forM objects fun object => ModelCache.delete (model, object.id)

/-- `self._cache = {}`. The two maps of embedded objects are not touched. -/
def forgetCaches (world : World α) : World α :=
  { world with store := { world.store with cache := ∅ } }

def clear : Action α Unit := do
  let world ← get
  forM world.store.cache.entries fun entry =>
    clearCache entry.1 (entry.2.objs.entries.map Sigma.snd)
  modify forgetCaches

end DbStore

/-! ## Calls from outside -/

inductive Call (α : Type)
  | update (object : Object α)
  | delete (object : Object α)
  | clear
  | getOne (object : Object α) (index : Option Index)
  | getAll (object : Object α) (index : Option Index)
  | getKeys (object : Object α) (index : Option Index)
  | createProxy (proxy : Proxy) (isLazy : Bool)
  | getObject (proxy : Proxy)
  deriving DecidableEq

inductive Answer (α : Type)
  | unit
  | object (object : Option (Object α))
  | objects (objects : List (Object α))
  | ids (ids : List Id)
  deriving DecidableEq

def Call.run (order : SetOrder) : Call α → Action α (Answer α)
  | .update object => do DbStore.update order object; return .unit
  | .delete object => do DbStore.delete order object; return .unit
  | .clear => do DbStore.clear; return .unit
  | .getOne object index => return .object (← DbStore.getOne object index)
  | .getAll object index => return .objects (← DbStore.getAll object index)
  | .getKeys object index => return .ids (← DbStore.getKeys object index)
  | .createProxy proxy isLazy => do proxy.create isLazy; return .unit
  | .getObject proxy => return .object (← proxy.getObject)

end Dragonflow
