import Dragonflow.Db.Models
import Dragonflow.Db.StoreInvariant

/-! # The indexes agree with the stored objects

The history of the caches says which version of an object was stored last and
which keys it had then. The object map, the keys by id and the trees are three
views of it.
-/

namespace Dragonflow

variable {α : Type} [DecidableEq α]

/-- The version of every object that was stored last, with its keys then. -/
abbrev Latest (α : Type) :=
  ObjectKey → Option (Object α × (Index → Except PyError (List (Key α))))

omit [DecidableEq α] in
theorem World.lastUpdate_updated (object : Object α)
    (keys : Index → Except PyError (List (Key α)))
    (history : List (CacheEvent α)) :
    World.lastUpdate (.updated object keys :: history) =
      Function.update (World.lastUpdate history) object.key
        (some (object, keys)) := by
  funext key
  rw [Function.update_apply]
  rfl

omit [DecidableEq α] in
theorem World.lastUpdate_deleted (removed : ObjectKey)
    (history : List (CacheEvent α)) :
    World.lastUpdate (.deleted removed :: history) =
      Function.update (World.lastUpdate history) removed none := by
  funext key
  rw [Function.update_apply]
  rfl

/-! ## One index -/

namespace IndexCache

variable {index : Index}

/-- The cache records, for the instances of a model, the keys of the versions
stored last. -/
structure Records (cache : IndexCache α index) (model : Model)
    (latest : Latest α) : Prop where
  faithful : cache.Faithful
  keys : ∀ id, (cache.keys.lookup id).map Except.ok =
    (latest (model, id)).map fun last => last.2 index

variable {cache : IndexCache α index} {model : Model} {latest other : Latest α}

theorem Records.congr (records : cache.Records model latest)
    (same : ∀ id, other (model, id) = latest (model, id)) :
    cache.Records model other where
  faithful := records.faithful
  keys id := by rw [same, records.keys]

theorem Records.update (object : Object α)
    (records : cache.Records object.model latest)
    {keys : Index → Except PyError (List (Key α))} {newKeys : List (Key α)}
    (computed : keys index = .ok newKeys)
    (deep : ∀ key ∈ newKeys, key.length = index.length) :
    (cache.update object.id newKeys).Records object.model
      (Function.update latest object.key (some (object, keys))) where
  faithful := records.faithful.update object.id newKeys deep
  keys id := by
    simp only [IndexCache.update, Dict.lookup_insert_eq, Function.update_apply,
      Object.key, Prod.mk.injEq, true_and]
    split
    · simp [computed]
    · exact records.keys id

theorem Records.delete (records : cache.Records model latest) {id : Id}
    {keys : List (Key α)} (recorded : cache.keys.lookup id = some keys) :
    (cache.delete id keys).Records model
      (Function.update latest (model, id) none) where
  faithful := records.faithful.delete recorded
  keys other := by
    simp only [IndexCache.delete, Dict.lookup_erase_eq, Function.update_apply,
      Prod.mk.injEq, true_and]
    split
    · rfl
    · exact records.keys other

/-- An id is recorded under a key iff the version stored last had the key. -/
theorem Records.mem_members (records : cache.Records model latest) (id : Id)
    (key : Key α) :
    key ∈ cache.keys.members id ↔
      ∃ object keys recorded, latest (model, id) = some (object, keys) ∧
        keys index = .ok recorded ∧ key ∈ recorded := by
  have recorded := records.keys id
  unfold Dict.members
  cases last : latest (model, id) with
  | none =>
      rw [last, Option.map_none, Option.map_eq_none_iff] at recorded
      simp [recorded]
  | some version =>
      rw [last, Option.map_some, Option.map_eq_some_iff] at recorded
      rcases recorded with ⟨keys, found, computed⟩
      rw [found]
      constructor
      · intro member
        exact ⟨version.1, version.2, keys, rfl, computed.symm, member⟩
      · rintro ⟨_, _, others, equal, computedOthers, member⟩
        cases equal
        cases computed.trans computedOthers
        exact member

end IndexCache

/-! ## All caches -/

namespace World

structure Consistent (world : World α) : Prop where
  indexed : ∀ (model : Model), ∀ index ∈ model.cachedIndexes,
    ((world.cacheOf model).indexes index).Records model
      (lastUpdate world.history)
  objects : ∀ key, world.stored key =
    (lastUpdate world.history key).map Prod.fst

theorem consistent_initial (stale : Address → Bool) :
    (World.initial stale : World α).Consistent where
  indexed _ _ _ := ⟨IndexCache.faithful_new, fun _ => rfl⟩
  objects _ := rfl

theorem Consistent.congr {before after : World α}
    (consistent : before.Consistent)
    (cacheOf : ∀ model, after.cacheOf model = before.cacheOf model)
    (history : after.history = before.history) : after.Consistent where
  indexed model index declared := by
    rw [cacheOf, history]
    exact consistent.indexed model index declared
  objects key := by
    rw [history, ← consistent.objects]
    unfold stored
    rw [cacheOf]

theorem Consistent.alike {before after : World α} (alike : Alike before after)
    (consistent : before.Consistent) : after.Consistent :=
  consistent.congr alike.cacheOf alike.history

/-- While the indexes of one model are walked: those walked so far record the
new versions, the others the old ones, and nothing else has changed. -/
structure Reindexing (model : Model) (before : World α) (old new : Latest α)
    (done : List Index) (current : World α) : Prop where
  walked : ∀ index ∈ model.cachedIndexes,
    ((current.cacheOf model).indexes index).Records model
      (if index ∈ done then new else old)
  others : ∀ other, other ≠ model →
    current.cacheOf other = before.cacheOf other
  frame : Reindexed before current

namespace Reindexing

variable {model : Model} {before current : World α} {old new : Latest α}
  {done : List Index}

theorem start (records : ∀ index ∈ model.cachedIndexes,
      ((before.cacheOf model).indexes index).Records model old) :
    Reindexing model before old new [] before where
  walked index declared := by
    simpa using records index declared
  others _ _ := rfl
  frame := Reindexed.refl before

theorem alike (progress : Reindexing model before old new done current)
    (alike : Alike current after) :
    Reindexing model before old new done after where
  walked index declared := by
    rw [alike.cacheOf]
    exact progress.walked index declared
  others other different :=
    (alike.cacheOf other).trans (progress.others other different)
  frame := progress.frame.trans (Reindexed.of_alike alike)

/-- Writing one index of the model is one step of the walk. -/
theorem setIndex {index : Index}
    (progress : Reindexing model before old new done current)
    (transform : IndexCache α index → IndexCache α index)
    (records : (transform ((current.cacheOf model).indexes index)).Records
      model new) :
    Reindexing model before old new (done ++ [index])
      (current.modifyCache model fun cache =>
        cache.setIndex index (transform (cache.indexes index))) where
  walked other declared := by
    rw [cacheOf_modifyCache, if_pos rfl]
    by_cases same : other = index
    · subst same
      simpa using records
    · rw [ModelCache.setIndex_other _ _ same]
      simpa [same] using progress.walked other declared
  others other different := by
    rw [cacheOf_modifyCache, if_neg different]
    exact progress.others other different
  frame := by
    refine progress.frame.trans (Reindexed.modifyCache current model ?_)
    intro cache
    rfl

end Reindexing

/-- The versions of other models are not affected by one update or delete. -/
theorem Consistent.other_model {world : World α} (consistent : world.Consistent)
    {key : ObjectKey} {model : Model} (different : model ≠ key.1)
    (version : Option (Object α × (Index → Except PyError (List (Key α)))))
    {index : Index} (declared : index ∈ model.cachedIndexes) :
    ((world.cacheOf model).indexes index).Records model
      (Function.update (lastUpdate world.history) key version) := by
  refine (consistent.indexed model index declared).congr ?_
  intro id
  refine Function.update_of_ne ?_ _ _
  intro equal
  exact different (congrArg Prod.fst equal)

end World

/-! ## Operations -/

namespace ModelCache

open Program

theorem updateIndex_leads (object : Object α) (index : Index)
    {before current : World α} {old new : Latest α} {done : List Index}
    (declared : index ∈ object.model.cachedIndexes)
    (updated : new = Function.update old object.key
      (some (object, before.keysAt object)))
    (progress : World.Reindexing object.model before old new done current) :
    Leads (updateIndex object index) current
      (fun _ after => World.Reindexing object.model before old new
        (done ++ [index]) after)
      (fun _ _ => True) := by
  refine ((IndexCache.getKeys_leads object index current).mono
    (fun keys after computed => computed) (fun _ _ _ => trivial)).bind ?_
  rintro newKeys after ⟨computed, alike⟩
  have computedBefore : before.keysAt object index = .ok newKeys := by
    rw [← World.keysAt_congr progress.frame.resolve object]
    exact computed
  have deep : ∀ key ∈ newKeys, key.length = index.length :=
    fun _ member => World.length_of_mem_keysAt computed member
  have progressAfter := progress.alike alike
  refine progressAfter.setIndex (·.update object.id newKeys) ?_
  have records := (progressAfter.walked index declared).update object
    computedBefore deep
  -- A repeated index would be updated twice, to the same effect.
  split at records
  · rwa [updated, Function.update_idem, ← updated] at records
  · rwa [← updated] at records

theorem update_maintains (object : Object α) :
    Maintains World.Consistent (fun _ => True) (ModelCache.update object) := by
  intro world consistent
  unfold ModelCache.update
  rw [leads_bind, leads_modify]
  let recorded := world.record (.updated object (world.keysAt object))
  let old := World.lastUpdate world.history
  let new := World.lastUpdate recorded.history
  have updated : new = Function.update old object.key
      (some (object, recorded.keysAt object)) := by
    have sameResolve : recorded.resolve = world.resolve := rfl
    rw [World.keysAt_congr sameResolve]
    exact World.lastUpdate_updated object (world.keysAt object) world.history
  refine (Leads.loop (World.Reindexing object.model recorded old new) _
    (fun done index rest current split progress =>
      updateIndex_leads object index (by simp [split]) updated progress)
    (World.Reindexing.start (consistent.indexed object.model))).bind ?_
  intro _ after progress
  rw [leads_modify]
  have history : (after.storeObject object).history = recorded.history := by
    rw [World.history_storeObject, progress.frame.history]
  constructor
  · intro model index declared
    rw [World.indexes_storeObject, history]
    by_cases same : model = object.model
    · subst same
      simpa [declared] using progress.walked index declared
    · rw [progress.others model same]
      change IndexCache.Records _ model new
      rw [updated]
      exact consistent.other_model same _ declared
  · intro key
    rw [World.stored_storeObject, history, progress.frame.stored]
    change _ = Option.map Prod.fst (new key)
    rw [updated, Function.update_apply]
    split
    · rfl
    · exact consistent.objects key

theorem deleteIndex_leads (key : ObjectKey) (index : Index)
    {before current : World α} {old : Latest α} {done : List Index}
    (declared : index ∈ key.1.cachedIndexes)
    (progress : World.Reindexing key.1 before old
      (Function.update old key none) done current) :
    Leads (deleteIndex key index) current
      (fun _ after => World.Reindexing key.1 before old
        (Function.update old key none) (done ++ [index]) after)
      (fun _ _ => True) := by
  unfold deleteIndex
  rw [leads_bind, leads_get]
  cases recorded : current.recordedKeys key index with
  | none => trivial
  | some keys =>
      refine progress.setIndex (·.delete key.2 keys) ?_
      have records := (progress.walked index declared).delete recorded
      split at records
      · rwa [Function.update_idem] at records
      · exact records

theorem delete_maintains (key : ObjectKey) :
    Maintains World.Consistent (fun _ => True) (ModelCache.delete key : Action α Unit) := by
  intro world consistent
  unfold ModelCache.delete
  refine (Leads.loop (World.Reindexing key.1 world _ _) _
    (fun done index rest current split progress =>
      deleteIndex_leads key index (by simp [split]) progress)
    (World.Reindexing.start (consistent.indexed key.1))).bind ?_
  intro _ after progress
  rw [leads_bind, leads_get]
  cases after.stored key with
  | none => trivial
  | some object =>
      change World.Consistent (after.dropObject key object)
      have latest : World.lastUpdate (after.dropObject key object).history =
          Function.update (World.lastUpdate world.history) key none := by
        rw [World.history_dropObject, World.lastUpdate_deleted,
          progress.frame.history]
      constructor
      · intro model index declared
        rw [World.indexes_dropObject, latest]
        by_cases same : model = key.1
        · subst same
          simpa [declared] using progress.walked index declared
        · rw [progress.others model same]
          exact consistent.other_model same _ declared
      · intro other
        rw [World.stored_dropObject, latest, progress.frame.stored,
          Function.update_apply]
        split
        · rfl
        · exact consistent.objects other

end ModelCache

theorem World.consistent_invariant :
    StoreInvariant (World.Consistent : World α → Prop) (fun _ => True) where
  weaker _ _ := trivial
  alike _ _ alike consistent := consistent.alike alike
  forget _ _ consistent := consistent.congr (fun _ => rfl) rfl
  setEmbedded _ _ consistent := consistent.congr (fun _ => rfl) rfl
  setRefs _ _ consistent := consistent.congr (fun _ => rfl) rfl
  update := ModelCache.update_maintains
  delete := ModelCache.delete_maintains

/-! ## Queries -/

/-- What a query by an index is meant to find: a stored object, by a key that
it had when it was last updated. -/
def World.Finds (world : World α) (model : Model) (index : Index)
    (queries : List (Key α)) (id : Id) : Prop :=
  ∃ object keys recorded, world.stored (model, id) = some object ∧
    lastUpdate world.history (model, id) = some (object, keys) ∧
    keys index = .ok recorded ∧
    ∃ key ∈ recorded, ∃ query ∈ queries, RadixTree.Matches query key

namespace World.Consistent

open Program

variable {world : World α} {index : Index} {queries : List (Key α)}

theorem mem_getAll (consistent : world.Consistent) {model : Model}
    (declared : index ∈ model.cachedIndexes)
    (deep : ∀ query ∈ queries, query.length = index.length) (id : Id) :
    id ∈ ((world.cacheOf model).indexes index).getAll queries ↔
      world.Finds model index queries id := by
  have records := consistent.indexed model index declared
  have objects := consistent.objects (model, id)
  rw [records.faithful.mem_getAll queries deep]
  constructor
  · rintro ⟨query, asked, key, member, matched⟩
    rcases (records.mem_members id key).mp member with
      ⟨object, keys, recorded, last, computed, had⟩
    refine ⟨object, keys, recorded, ?_, last, computed, key, had, query, asked,
      matched⟩
    rw [objects, last]
    rfl
  · rintro ⟨object, keys, recorded, _, last, computed, key, had, query, asked,
      matched⟩
    exact ⟨query, asked, key,
      (records.mem_members id key).mpr
        ⟨object, keys, recorded, last, computed, had⟩, matched⟩

theorem getKeys_leads (consistent : world.Consistent) (query : Object α)
    (declared : index ∈ query.model.cachedIndexes) :
    Leads (DbStore.getKeys query (some index)) world
      (fun ids after => World.Alike world after ∧
        ∃ queries, world.keysAt query index = .ok queries ∧
          ∀ id, id ∈ ids ↔ world.Finds query.model index queries id)
      (fun error _ => world.keysAt query index = .error error) := by
  unfold DbStore.getKeys ModelCache.getKeys
  have isOther : index ≠ Model.idIndex := (Model.mem_cachedIndexes.mp declared).2
  simp only [isOther, declared, if_false, if_true]
  refine Leads.bind ((getCache_leads query.model world).mono
    (fun _ _ alike => alike) (fun _ _ impossible => impossible.elim)) ?_
  intro _ created alikeCreated
  have sameKeys := World.keysAt_congr alikeCreated.resolve query
  refine ((IndexCache.getKeys_leads query index created).mono
    (fun _ _ computed => computed) ?_).bind ?_
  · rintro error _ ⟨raised, _⟩
    rw [← sameKeys, raised]
  · rintro queries after ⟨computed, alikeComputed⟩
    rw [leads_bind, leads_get, leads_pure]
    have alike := alikeCreated.trans alikeComputed
    refine ⟨alike, queries, by rw [← sameKeys, computed], fun id => ?_⟩
    rw [alike.cacheOf]
    exact consistent.mem_getAll declared
      (fun _ asked => World.length_of_mem_keysAt computed asked) id

end World.Consistent

theorem World.Consistent.getAll_leads {world : World α}
    (consistent : world.Consistent) (query : Object α) {index : Index}
    (declared : index ∈ query.model.cachedIndexes) :
    Program.Leads (DbStore.getAll query (some index)) world
      (fun objects _ => ∃ queries, world.keysAt query index = .ok queries ∧
        ∀ object, object ∈ objects ↔
          ∃ id, world.Finds query.model index queries id ∧
            world.stored (query.model, id) = some object)
      (fun error _ => world.keysAt query index = .error error) := by
  rw [DbStore.getAll_eq]
  refine (consistent.getKeys_leads query declared).bind ?_
  rintro ids after ⟨alike, queries, computed, found⟩
  have present : ∀ id ∈ ids, (after.stored (query.model, id)).isSome := by
    intro id member
    rcases (found id).mp member with ⟨object, _, _, stored, _⟩
    rw [alike.stored, stored]
    rfl
  refine (ModelCache.getByIds_leads query.model ids after present).mono ?_
    (fun _ _ impossible => impossible.elim)
  intro objects _ looked
  refine ⟨queries, computed, fun object => ?_⟩
  rw [← List.mem_map_of_injective fun _ _ => Option.some.inj, ← looked,
    List.mem_map]
  simp only [found, alike.stored]

open Program in
/-- After any sequence of calls that all returned, a query by an index finds
exactly the ids of stored objects whose last version had a matching key, and
every object found is there to be returned. -/
theorem DbStore.getKeys_eq_stored (order : SetOrder) (stale : Address → Bool)
    (calls : List (Call α)) (kind : ∀ call ∈ calls, call ≠ .clear)
    (world : World α)
    (reached : (trace (Call.run order) calls (World.initial stale)).2 = world)
    (returned : ∀ result ∈
      (trace (Call.run order) calls (World.initial stale)).1, result.isOk)
    (query : Object α) (index : Index)
    (declared : index ∈ query.model.cachedIndexes) :
    Leads (DbStore.getKeys query (some index)) world
      (fun ids _ => ∃ queries, world.keysAt query index = .ok queries ∧
        ∀ id, id ∈ ids ↔ world.Finds query.model index queries id)
      (fun error _ => world.keysAt query index = .error error) ∧
    Leads (DbStore.getAll query (some index)) world
      (fun objects _ => ∃ queries, world.keysAt query index = .ok queries ∧
        ∀ object, object ∈ objects ↔
          ∃ id, world.Finds query.model index queries id ∧
            world.stored (query.model, id) = some object)
      (fun error _ => world.keysAt query index = .error error ∧
        error ≠ .keyError) := by
  have consistent : world.Consistent := by
    rw [← reached]
    exact trace_invariant_of_returned calls
      (fun call member => World.consistent_invariant.call order call
        (kind call member)) _ returned (World.consistent_initial stale)
  constructor
  · exact (consistent.getKeys_leads query declared).mono
      (fun _ _ found => found.2) (fun _ _ raised => raised)
  · refine (consistent.getAll_leads query declared).mono
      (fun _ _ found => found) ?_
    intro error _ raised
    refine ⟨raised, ?_⟩
    rintro rfl
    exact absurd (World.keysAt_raises raised) (by decide)

/-- One port moves to another topic, one comes and goes. -/
def movingPorts : List (Call Unit) :=
  [.update (Models.unboundPort 0 "a" "t1" 1),
    .update (Models.unboundPort 1 "b" "t1" 2),
    .update (Models.unboundPort 2 "a" "t2" 1),
    .delete (Models.unboundPort 3 "b" "t1" 2)]

theorem DbStore.getKeys_eq_stored_moving_ports :
    let world := (Program.trace (Call.run .insertion) movingPorts
      (World.initial fun _ => false)).2
    ∃ queries, world.keysAt (Models.unboundPort 4 "" "t2" 0) [["topic"]] =
        .ok queries ∧
      ∀ id, id ∈ ["a"] ↔
        world.Finds Models.logicalPort [["topic"]] queries id := by
  intro world
  have found := (DbStore.getKeys_eq_stored .insertion (fun _ => false)
    movingPorts (by decide) world rfl (by decide +kernel)
    (Models.unboundPort 4 "" "t2" 0) [["topic"]] (by decide)).1
  exact found.of_result (by decide +kernel)

end Dragonflow
