import Dragonflow.Db.ModelFramework
import Dragonflow.Utils.RadixTree

/-! # The state of the local store

The data of `_IndexCache`, `_ModelCache` and `DbStore`
(`dragonflow/db/db_store.py`), and the Python objects around them: the
staleness flag of every instance and the object that every proxy has fetched.
-/

namespace Dragonflow

/-- An index key, with one element for each path of the index. `none` is
`MISSING` in a stored key and `ANY` in a query. -/
abbrev Key (α : Type) := List (Option (Scalar α))

structure IndexCache (α : Type) (index : Index) where
  tree : RadixTree (Scalar α) Id index.length
  keys : Dict Id (List (Key α))

/-- One cache for every index. `_ModelCache` only ever uses those that its
model declares. -/
structure ModelCache (α : Type) where
  objs : Dict Id (Object α)
  indexes : (index : Index) → IndexCache α index

structure DbStore (α : Type) where
  cache : Dict Model (ModelCache α)
  objToEmbedded : Dict ObjectKey (List ObjectKey)
  embeddedRefs : Dict ObjectKey (List ObjectKey)

/-- What happened to the instances of a model. The keys are those that the
object had when its update began. -/
inductive CacheEvent (α : Type)
  | updated (object : Object α) (keys : Index → Except PyError (List (Key α)))
  | deleted (key : ObjectKey)

structure World (α : Type) where
  store : DbStore α
  /-- `_is_object_stale` of every instance. -/
  stale : Address → Bool
  /-- `_obj` of every proxy. -/
  fetched : Proxy → Option (Object α)
  /-- Newest first. A history variable: no operation reads it. -/
  history : List (CacheEvent α)

namespace Model

/-- The indexes that `_ModelCache.__init__` creates a cache for. -/
def cachedIndexes (model : Model) : List Index :=
  ((model.getIndexes.map Prod.snd).eraseDups).filter (· ≠ idIndex)

theorem mem_cachedIndexes {model : Model} {index : Index} :
    index ∈ model.cachedIndexes ↔
      (∃ name, (name, index) ∈ model.indexes) ∧ index ≠ idIndex := by
  simp only [cachedIndexes, List.mem_filter, List.mem_eraseDups, List.mem_map,
    getIndexes, List.mem_cons, decide_eq_true_eq]
  constructor
  · rintro ⟨⟨⟨name, found⟩, declared, rfl⟩, different⟩
    rcases declared with equal | declared
    · exact absurd (congrArg Prod.snd equal) different
    · exact ⟨⟨name, declared⟩, different⟩
  · rintro ⟨⟨name, declared⟩, different⟩
    exact ⟨⟨(name, index), Or.inr declared, rfl⟩, different⟩

theorem nodup_cachedIndexes (model : Model) : model.cachedIndexes.Nodup := by
  have nodup (count : Nat) : ∀ indexes : List Index, indexes.length = count →
      indexes.eraseDups.Nodup := by
    induction count using Nat.strong_induction_on with
    | _ count induction =>
        intro indexes length
        cases indexes with
        | nil => exact List.nodup_nil
        | cons index rest =>
            rw [List.eraseDups_cons, List.nodup_cons]
            have shorter := List.length_filter_le (fun other => !other == index) rest
            rw [List.length_cons] at length
            refine ⟨?_, induction _ (by omega) _ rfl⟩
            simp [List.mem_eraseDups]
  exact (nodup _ _ rfl).filter _

end Model

def IndexCache.new (index : Index) : IndexCache α index where
  tree := RadixTree.empty index.length
  keys := ∅

namespace ModelCache

def new : ModelCache α where
  objs := ∅
  indexes := IndexCache.new

def setIndex (cache : ModelCache α) (index : Index)
    (indexCache : IndexCache α index) : ModelCache α :=
  { cache with indexes := Function.update cache.indexes index indexCache }

@[simp] theorem setIndex_objs (cache : ModelCache α) (index : Index)
    (indexCache : IndexCache α index) :
    (cache.setIndex index indexCache).objs = cache.objs := rfl

@[simp] theorem setIndex_same (cache : ModelCache α) (index : Index)
    (indexCache : IndexCache α index) :
    (cache.setIndex index indexCache).indexes index = indexCache := by
  simp [setIndex]

theorem setIndex_other (cache : ModelCache α) {index other : Index}
    (indexCache : IndexCache α index) (different : other ≠ index) :
    (cache.setIndex index indexCache).indexes other = cache.indexes other := by
  simp [setIndex, different]

end ModelCache

def DbStore.new : DbStore α where
  cache := ∅
  objToEmbedded := ∅
  embeddedRefs := ∅

namespace World

/-- A new store among arbitrary objects, before any proxy has fetched. -/
def initial (stale : Address → Bool) : World α where
  store := DbStore.new
  stale := stale
  fetched := fun _ => none
  history := []

/-! ## Model caches -/

/-- The cache of a model; `_get_cache` creates the missing ones empty. -/
def cacheOf (world : World α) (model : Model) : ModelCache α :=
  (world.store.cache.lookup model).getD ModelCache.new

def setCache (world : World α) (model : Model) (cache : ModelCache α) :
    World α :=
  { world with
    store := { world.store with cache := world.store.cache.insert model cache } }

def modifyCache (world : World α) (model : Model)
    (transform : ModelCache α → ModelCache α) : World α :=
  world.setCache model (transform (world.cacheOf model))

theorem cacheOf_setCache (world : World α) (model other : Model)
    (cache : ModelCache α) :
    (world.setCache model cache).cacheOf other =
      if other = model then cache else world.cacheOf other := by
  unfold cacheOf setCache
  rw [Dict.lookup_insert_eq]
  split <;> rfl

theorem cacheOf_modifyCache (world : World α) (model other : Model)
    (transform : ModelCache α → ModelCache α) :
    (world.modifyCache model transform).cacheOf other =
      if other = model then transform (world.cacheOf model)
      else world.cacheOf other :=
  cacheOf_setCache _ _ _ _

/-- The object stored under a key. -/
def stored (world : World α) (key : ObjectKey) : Option (Object α) :=
  (world.cacheOf key.1).objs.lookup key.2

theorem cacheOf_of_mem {world : World α} {entry : (_ : Model) × ModelCache α}
    (member : entry ∈ world.store.cache.entries) :
    world.cacheOf entry.1 = entry.2 := by
  unfold cacheOf
  rw [AList.mem_lookup_iff.mpr member]
  rfl

/-- Only models that have a cache have stored instances. -/
theorem exists_entry_of_stored {world : World α} {key : ObjectKey}
    {object : Object α} (found : world.stored key = some object) :
    ∃ entry ∈ world.store.cache.entries, entry.1 = key.1 ∧
      object ∈ entry.2.objs.entries.map Sigma.snd := by
  unfold stored cacheOf at found
  cases cached : world.store.cache.lookup key.1 with
  | none =>
      rw [cached] at found
      cases found
  | some cache =>
      rw [cached] at found
      exact ⟨⟨key.1, cache⟩, AList.mem_lookup_iff.mp cached, rfl,
        (Dict.mem_values_iff _ _).mpr ⟨key.2, found⟩⟩

theorem stored_modifyCache (world : World α) (model : Model)
    (transform : ModelCache α → ModelCache α) (key : ObjectKey) :
    (world.modifyCache model transform).stored key =
      if key.1 = model then (transform (world.cacheOf model)).objs.lookup key.2
      else world.stored key := by
  unfold stored
  rw [cacheOf_modifyCache]
  split <;> rfl

/-! ## Flags and history -/

/-- `object._is_object_stale = True` -/
def markStale (world : World α) (object : Object α) : World α :=
  { world with stale := Function.update world.stale object.address true }

def record (world : World α) (event : CacheEvent α) : World α :=
  { world with history := event :: world.history }

@[simp] theorem cacheOf_markStale (world : World α) (object : Object α) :
    (world.markStale object).cacheOf = world.cacheOf := rfl

@[simp] theorem stored_markStale (world : World α) (object : Object α) :
    (world.markStale object).stored = world.stored := rfl

@[simp] theorem cacheOf_record (world : World α) (event : CacheEvent α) :
    (world.record event).cacheOf = world.cacheOf := rfl

@[simp] theorem stored_record (world : World α) (event : CacheEvent α) :
    (world.record event).stored = world.stored := rfl

/-- The version of an object that its last update stored, with the keys it had
then, unless the object was deleted since. -/
def lastUpdate : List (CacheEvent α) → ObjectKey →
    Option (Object α × (Index → Except PyError (List (Key α))))
  | [], _ => none
  | .updated object keys :: earlier, key =>
      if key = object.key then some (object, keys) else lastUpdate earlier key
  | .deleted removed :: earlier, key =>
      if key = removed then none else lastUpdate earlier key

/-! ## Embedded objects -/

def embeddedOf (world : World α) (key : ObjectKey) : List ObjectKey :=
  world.store.objToEmbedded.members key

def refsOf (world : World α) (key : ObjectKey) : List ObjectKey :=
  world.store.embeddedRefs.members key

def embeddingSize (world : World α) : Nat :=
  world.store.objToEmbedded.entries.length

def setEmbedded (world : World α)
    (objToEmbedded : Dict ObjectKey (List ObjectKey)) : World α :=
  { world with store := { world.store with objToEmbedded } }

def setRefs (world : World α)
    (embeddedRefs : Dict ObjectKey (List ObjectKey)) : World α :=
  { world with store := { world.store with embeddedRefs } }

end World

end Dragonflow
