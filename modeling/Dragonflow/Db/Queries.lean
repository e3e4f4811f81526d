import Dragonflow.Db.IndexConsistency
import Dragonflow.Db.Mixins

/-! # Queries for all instances and by topic

In every state that the calls of the store lead to, `get_all` of a model lists
each of its stored instances once, and `get_all_by_topic` lists no instance
twice and misses none of the topic.
-/

namespace Dragonflow

open Program

variable {α : Type} [DecidableEq α]

/-! ## Two more invariants -/

namespace World

/-- The keys of every update were computed, in some state of the store. -/
def Truthful (world : World α) : Prop :=
  ∀ object keys, .updated object keys ∈ world.history →
    ∃ earlier : World α, keys = earlier.keysAt object

/-- No index lists an id twice under one key. -/
def Distinct (world : World α) : Prop :=
  ∀ model index,
    RadixTree.Distinct index.length ((world.cacheOf model).indexes index).tree

theorem Truthful.congr {before after : World α} (truthful : before.Truthful)
    (history : after.history = before.history) : after.Truthful := by
  intro object keys member
  rw [history] at member
  exact truthful object keys member

theorem truthful_invariant :
    StoreInvariant (World.Truthful : World α → Prop) (fun _ => True) where
  weaker _ _ := trivial
  alike _ _ alike truthful := truthful.congr alike.history
  forget _ _ truthful := truthful.congr rfl
  setEmbedded _ _ truthful := truthful.congr rfl
  setRefs _ _ truthful := truthful.congr rfl
  update object := by
    intro world truthful
    refine (ModelCache.update_leads object world).mono ?_ fun _ _ _ => trivial
    intro _ after written
    rcases written with ⟨middle, reindexed, rfl⟩
    intro other keys member
    rw [history_storeObject, reindexed.history] at member
    rcases List.mem_cons.mp member with equal | member
    · cases equal
      exact ⟨world, rfl⟩
    · exact truthful other keys member
  delete key := by
    intro world truthful
    refine (ModelCache.delete_leads key world).mono ?_ fun _ _ _ => trivial
    intro _ after written
    rcases written with ⟨middle, old, reindexed, _, rfl⟩
    intro other keys member
    rw [history_dropObject, reindexed.history] at member
    rcases List.mem_cons.mp member with equal | member
    · cases equal
    · exact truthful other keys member

end World

theorem IndexCache.distinct_setAll {index : Index}
    {tree : RadixTree (Scalar α) Id index.length}
    (distinct : RadixTree.Distinct index.length tree) (keys : List (Key α)) (id : Id) :
    RadixTree.Distinct index.length (setAll tree keys id) := by
  induction keys generalizing tree with
  | nil => exact distinct
  | cons key keys induction => exact induction (distinct.set key id)

theorem IndexCache.distinct_deleteAll {index : Index}
    {tree : RadixTree (Scalar α) Id index.length}
    (distinct : RadixTree.Distinct index.length tree) (keys : List (Key α)) (id : Id) :
    RadixTree.Distinct index.length (deleteAll tree keys id) := by
  induction keys generalizing tree with
  | nil => exact distinct
  | cons key keys induction => exact induction (distinct.delete key id)

namespace World

theorem Distinct.congr {before after : World α} (distinct : before.Distinct)
    (indexes : ∀ model, (after.cacheOf model).indexes =
      (before.cacheOf model).indexes) : after.Distinct := by
  intro model index
  rw [indexes]
  exact distinct model index

/-- Writing one index keeps the others as they are. -/
theorem Distinct.setIndex {world : World α} (distinct : world.Distinct)
    (model : Model) (index : Index)
    (transform : IndexCache α index → IndexCache α index)
    (kept : ∀ cache : IndexCache α index,
      RadixTree.Distinct index.length cache.tree →
      RadixTree.Distinct index.length (transform cache).tree) :
    (world.modifyCache model fun cache =>
      cache.setIndex index (transform (cache.indexes index))).Distinct := by
  intro other otherIndex
  rw [cacheOf_modifyCache]
  split
  · by_cases same : otherIndex = index
    · subst same
      rw [ModelCache.setIndex_same]
      exact kept _ (distinct model otherIndex)
    · rw [ModelCache.setIndex_other _ _ same]
      exact distinct model otherIndex
  · exact distinct other otherIndex

theorem distinct_invariant :
    StoreInvariant (World.Distinct : World α → Prop) (fun _ => True) where
  weaker _ _ := trivial
  alike _ _ alike distinct :=
    distinct.congr fun model => congrArg ModelCache.indexes (alike.cacheOf model)
  forget _ _ distinct := distinct.congr fun _ => rfl
  setEmbedded _ _ distinct := distinct.congr fun _ => rfl
  setRefs _ _ distinct := distinct.congr fun _ => rfl
  update object := by
    intro world distinct
    unfold ModelCache.update
    rw [leads_bind, leads_modify]
    let event := CacheEvent.updated object (world.keysAt object)
    have recorded : (world.record event).Distinct := distinct.congr fun _ => rfl
    refine (Leads.loop_const World.Distinct _ ?_ recorded).bind ?_
    · intro index current _ distinctNow
      rw [ModelCache.updateIndex, leads_bind]
      refine ((IndexCache.getKeys_keeps object index).leads current).mono ?_
        fun _ _ _ => trivial
      intro keys after alike
      rw [leads_modify]
      refine Distinct.setIndex (distinctNow.congr fun model =>
        congrArg ModelCache.indexes (alike.cacheOf model)) object.key.1 index
        (·.update object.key.2 keys) ?_
      intro cache distinctTree
      exact IndexCache.distinct_deleteAll
        (IndexCache.distinct_setAll distinctTree _ _) _ _
    · intro _ after distinctAfter
      rw [leads_modify]
      exact distinctAfter.congr (indexes_storeObject after object)
  delete key := by
    intro world distinct
    unfold ModelCache.delete
    refine (Leads.loop_const World.Distinct _ ?_ distinct).bind ?_
    · intro index current _ distinctNow
      unfold ModelCache.deleteIndex
      rw [leads_bind, leads_get]
      cases current.recordedKeys key index with
      | none => trivial
      | some keys =>
          refine Distinct.setIndex distinctNow key.1 index (·.delete key.2 keys) ?_
          intro cache distinctTree
          exact IndexCache.distinct_deleteAll distinctTree _ _
    · intro _ after distinctAfter
      rw [leads_bind, leads_get]
      cases after.stored key with
      | none => trivial
      | some old => exact distinctAfter.congr (indexes_dropObject after key old)

end World

/-! ## States that the calls lead to -/

/-- Only calls that returned lead here, and none of them was `clear`. -/
inductive World.Served (order : SetOrder) : World α → Prop
  | initial (stale : Address → Bool) : Served order (World.initial stale)
  | call {world after : World α} {call : Call α} {answer : Answer α}
      (served : Served order world) (kind : call ≠ .clear)
      (returned : exec (call.run order) world = (.ok answer, after)) :
      Served order after

theorem StoreInvariant.served {invariant failed : World α → Prop}
    (kept : StoreInvariant invariant failed)
    (initial : ∀ stale, invariant (World.initial stale)) {order : SetOrder}
    {world : World α} (served : world.Served order) : invariant world := by
  induction served with
  | initial stale => exact initial stale
  | call _ kind returned holds =>
      exact (kept.call order _ kind _ holds).of_ok returned

namespace World.Served

variable {order : SetOrder} {world : World α}

theorem consistent (served : world.Served order) : world.Consistent :=
  World.consistent_invariant.served World.consistent_initial served

theorem truthful (served : world.Served order) : world.Truthful := by
  refine World.truthful_invariant.served ?_ served
  intro stale object keys member
  cases member

theorem distinct (served : world.Served order) : world.Distinct := by
  refine World.distinct_invariant.served ?_ served
  intro stale model index
  exact RadixTree.distinct_empty index.length

end World.Served

/-! ## Stored objects are stored under their keys -/

namespace World

omit [DecidableEq α] in
theorem lastUpdate_eq_some {history : List (CacheEvent α)} {key : ObjectKey}
    {object : Object α} {keys : Index → Except PyError (List (Key α))}
    (last : lastUpdate history key = some (object, keys)) :
    object.key = key ∧ .updated object keys ∈ history := by
  induction history with
  | nil => cases last
  | cons event history induction =>
      cases event with
      | updated other otherKeys =>
          rw [lastUpdate] at last
          split at last
          · next same =>
              cases last
              exact ⟨same.symm, List.mem_cons_self⟩
          · exact ⟨(induction last).1, List.mem_cons_of_mem _ (induction last).2⟩
      | deleted removed =>
          rw [lastUpdate] at last
          split at last
          · cases last
          · exact ⟨(induction last).1, List.mem_cons_of_mem _ (induction last).2⟩

theorem Consistent.key_of_stored {world : World α} (consistent : world.Consistent)
    {key : ObjectKey} {object : Object α} (stored : world.stored key = some object) :
    object.key = key := by
  rw [consistent.objects, Option.map_eq_some_iff] at stored
  rcases stored with ⟨last, found, rfl⟩
  exact (lastUpdate_eq_some found).1

end World

namespace DbStore

/-- `model()`, or `model(topic=topic)`: what queries are made with. -/
def query (model : Model) (fields : List (FieldName × Value α)) : Object α :=
  ⟨0, model, "", .ofList fields⟩

/-- `get_all(model)` -/
def getAllInstances (model : Model) : Action α (List (Object α)) :=
  getAll (query model []) none

def getAllByTopic (model : Model) (topic : String) :
    Action α (List (Object α)) := do
  if topic ≠ "" then
    match model.getIndex "topic" with
    | none => throw .keyError
    | some index =>
        getAll (query model [("topic", .scalar (.str topic))]) (some index)
  else
    getAllInstances model

end DbStore

/-! ## What the queries list -/

namespace World.Consistent

variable {world : World α} {model : Model}

/-- An object carries the id under which it was looked up. -/
theorem keys_of_looked (consistent : world.Consistent) {ids : List Id}
    {objects : List (Object α)}
    (looked : ids.map (fun id => world.stored (model, id)) = objects.map some) :
    objects.map Object.key = ids.map fun id => (model, id) := by
  induction ids generalizing objects with
  | nil =>
      rw [List.map_nil, eq_comm, List.map_eq_nil_iff] at looked
      rw [looked]
      rfl
  | cons id ids induction =>
      cases objects with
      | nil => cases looked
      | cons object objects =>
          rw [List.map_cons, List.map_cons, List.cons.injEq] at looked
          rw [List.map_cons, List.map_cons, induction looked.2,
            consistent.key_of_stored looked.1]

/-- The objects of distinct ids that are all there are listed once. -/
theorem getByIds_leads (consistent : world.Consistent) {ids : List Id}
    (nodup : ids.Nodup)
    (present : ∀ id ∈ ids, (world.stored (model, id)).isSome) :
    Leads (ModelCache.getByIds model ids) world
      (fun objects _ => (objects.map Object.key).Nodup ∧
        ∀ object, object ∈ objects ↔ object.model = model ∧
          world.stored object.key = some object ∧ object.id ∈ ids)
      (fun _ _ => False) := by
  refine (ModelCache.getByIds_leads model ids world present).mono ?_
    fun _ _ impossible => impossible
  intro objects _ looked
  constructor
  · rw [consistent.keys_of_looked looked]
    exact nodup.map fun _ _ same => congrArg Prod.snd same
  · intro object
    have listed : object ∈ objects ↔
        ∃ id ∈ ids, world.stored (model, id) = some object := by
      rw [← List.mem_map_of_injective fun _ _ => Option.some.inj, ← looked,
        List.mem_map]
    rw [listed]
    constructor
    · intro found
      rcases found with ⟨id, member, stored⟩
      have key := consistent.key_of_stored stored
      have sameModel : object.model = model := congrArg Prod.fst key
      have sameId : object.id = id := congrArg Prod.snd key
      rw [key, sameId]
      exact ⟨sameModel, stored, member⟩
    · intro held
      rcases held with ⟨sameModel, stored, member⟩
      refine ⟨object.id, member, ?_⟩
      rw [← sameModel]
      exact stored

theorem getAllInstances_leads (consistent : world.Consistent) (model : Model) :
    Leads (DbStore.getAllInstances model) world
      (fun objects _ => (objects.map Object.key).Nodup ∧
        ∀ object, object ∈ objects ↔ object.model = model ∧
          world.stored object.key = some object)
      (fun _ _ => False) := by
  unfold DbStore.getAllInstances
  rw [DbStore.getAll_eq]
  unfold DbStore.getKeys ModelCache.getKeys
  rw [leads_bind, leads_bind]
  refine (getCache_leads _ world).mono ?_ fun _ _ impossible => impossible
  intro _ created alike
  rw [leads_bind, leads_get, leads_pure]
  have listed (id : Id) :
      id ∈ (created.cacheOf model).objs.keys ↔
        ∃ object, created.stored (model, id) = some object :=
    Dict.mem_keys_iff _ id
  refine ((consistent.alike alike).getByIds_leads (AList.keys_nodup _) ?_).mono ?_
    fun _ _ impossible => impossible
  · intro id member
    exact Option.isSome_iff_exists.mpr ((listed id).mp member)
  · intro objects _ found
    refine ⟨found.1, fun object => ?_⟩
    rw [found.2, alike.stored]
    constructor
    · intro holds
      exact ⟨holds.1, holds.2.1⟩
    · intro holds
      refine ⟨holds.1, holds.2, (listed object.id).mpr ⟨object, ?_⟩⟩
      rw [alike.stored, ← holds.2, ← holds.1]
      rfl

end World.Consistent

/-! ## Topics -/

/-- Whatever is stored, a topic gives one key. -/
theorem World.keysAt_topic (world : World α) {object : Object α} {topic : String}
    (topical : object.topic? = some topic) :
    world.keysAt object [["topic"]] = .ok [[some (.str topic)]] := by
  have read : getattr (.object object) "topic" =
      (pure (.scalar (.str topic)) : Action α (Value α)) := by
    rw [getattr, Object.read_topic topical]
    rfl
  unfold World.keysAt IndexCache.getKeys IndexCache.getKeyElements
    IndexCache.getKeyElement IndexCache.walkPath IndexCache.advance
  rw [read]
  rfl

/-- One key without wildcards finds no id twice. -/
theorem World.Distinct.getKeys_nodup {world : World α} (distinct : world.Distinct)
    {query : Object α} {topic : String} (topical : query.topic? = some topic)
    (declared : [["topic"]] ∈ query.model.cachedIndexes) :
    Leads (DbStore.getKeys query (some [["topic"]])) world
      (fun ids _ => ids.Nodup) (fun _ _ => True) := by
  unfold DbStore.getKeys ModelCache.getKeys
  have isOther : [["topic"]] ≠ Model.idIndex := by decide
  simp only [isOther, declared, if_false, if_true]
  refine (getCache_leads query.model world).returning.bind ?_
  intro _ created alikeCreated
  refine ((IndexCache.getKeys_leads query [["topic"]] created).mono
    (fun _ _ computed => computed) (fun _ _ _ => trivial)).bind ?_
  intro queries after computed
  rcases computed with ⟨computed, alikeComputed⟩
  rw [leads_bind, leads_get, leads_pure]
  rw [created.keysAt_topic topical] at computed
  cases computed
  have onePath : ((after.cacheOf query.model).indexes [["topic"]]).getAll
      [[some (.str topic)]] =
      RadixTree.valuesAt 1 ((after.cacheOf query.model).indexes [["topic"]]).tree
        [some (.str topic)] := by
    rw [IndexCache.getAll, List.flatMap_singleton]
    exact RadixTree.getAll_eq_valuesAt 1 _ [Scalar.str topic] rfl
  rw [onePath, alikeComputed.cacheOf, alikeCreated.cacheOf]
  exact distinct query.model [["topic"]] _

/-- An object is found by the topic that it has, since it had it when it was
stored. -/
theorem World.Served.finds_topic {order : SetOrder} {world : World α}
    (served : world.Served order) {object : Object α} {topic : String}
    (stored : world.stored object.key = some object)
    (topical : object.topic? = some topic) :
    world.Finds object.model [["topic"]] [[some (.str topic)]] object.id := by
  have objects := served.consistent.objects object.key
  rw [stored, eq_comm, Option.map_eq_some_iff] at objects
  rcases objects with ⟨⟨last, keys⟩, found, rfl⟩
  rcases served.truthful last keys (lastUpdate_eq_some found).2 with
    ⟨earlier, rfl⟩
  refine ⟨last, _, _, stored, found, earlier.keysAt_topic topical, _,
    List.mem_singleton_self _, _, List.mem_singleton_self _, ?_⟩
  exact List.Forall₂.cons (Or.inr rfl) List.Forall₂.nil

theorem World.Served.getAllByTopic_leads {order : SetOrder} {world : World α}
    (served : world.Served order) {model : Model} (topic : String)
    (indexed : model.getIndex "topic" = some [["topic"]]) :
    Leads (DbStore.getAllByTopic model topic) world
      (fun objects _ => (objects.map Object.key).Nodup ∧
        (∀ object ∈ objects, object.model = model ∧
          world.stored object.key = some object) ∧
        ∀ object, object.model = model → world.stored object.key = some object →
          object.topic? = some topic → object ∈ objects)
      (fun _ _ => False) := by
  unfold DbStore.getAllByTopic
  by_cases named : topic ≠ ""
  · rw [if_pos named, indexed]
    let query : Object α := DbStore.query model [("topic", .scalar (.str topic))]
    have topical : query.topic? = some topic := rfl
    have declared : [["topic"]] ∈ query.model.cachedIndexes := by
      refine Model.mem_cachedIndexes.mpr ⟨⟨"topic", ?_⟩, by decide⟩
      rcases List.lookup_eq_some_iff.mp indexed with ⟨before, rest, split, _⟩
      have isDeclared : ("topic", [["topic"]]) ∈ model.getIndexes := by
        rw [split]
        exact List.mem_append_right _ List.mem_cons_self
      rcases List.mem_cons.mp isDeclared with impossible | isDeclared
      · exact absurd (congrArg Prod.fst impossible) (by decide)
      · exact isDeclared
    change Leads (DbStore.getAll query (some [["topic"]])) world _ _
    rw [DbStore.getAll_eq, leads_bind]
    refine ((served.consistent.getKeys_leads query declared).and
      (served.distinct.getKeys_nodup topical declared)).mono ?_ ?_
    · intro ids after listed
      rcases listed with ⟨⟨alike, queries, computed, found⟩, nodup⟩
      rw [world.keysAt_topic topical] at computed
      cases computed
      refine ((served.consistent.alike alike).getByIds_leads nodup ?_).mono ?_
        fun _ _ impossible => impossible
      · intro id member
        rcases (found id).mp member with ⟨object, _, _, stored, _⟩
        rw [alike.stored, stored]
        rfl
      · intro objects _ looked
        refine ⟨looked.1, ?_, ?_⟩
        · intro object member
          have held := (looked.2 object).mp member
          rw [alike.stored] at held
          exact ⟨held.1, held.2.1⟩
        · intro object sameModel stored hasTopic
          rw [looked.2, alike.stored]
          refine ⟨sameModel, stored, (found object.id).mpr ?_⟩
          have finds := served.finds_topic stored hasTopic
          rw [sameModel] at finds
          exact finds
    · intro error _ raised
      rw [world.keysAt_topic topical] at raised
      cases raised.1
  · rw [if_neg named]
    refine (served.consistent.getAllInstances_leads model).mono ?_
      fun _ _ impossible => impossible
    intro objects _ listed
    refine ⟨listed.1, fun object => (listed.2 object).mp, ?_⟩
    intro object sameModel stored _
    exact (listed.2 object).mpr ⟨sameModel, stored⟩

end Dragonflow
