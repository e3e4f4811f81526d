import Dragonflow.Db.DbStore

/-! # Invariants of the store

Every operation of `DbStore` is made of a few steps. What each of them keeps is
kept by all operations, through any number of recursive calls.
-/

namespace Dragonflow

open Program

variable {α : Type} [DecidableEq α]

/-! ## Indexes -/

/-- Two worlds that differ at most in the indexes, besides what `Alike` allows. -/
structure World.Reindexed (before after : World α) : Prop where
  stored : ∀ key, after.stored key = before.stored key
  stale : after.stale = before.stale
  objToEmbedded : after.store.objToEmbedded = before.store.objToEmbedded
  embeddedRefs : after.store.embeddedRefs = before.store.embeddedRefs
  history : after.history = before.history
  resolve : after.resolve = before.resolve

namespace World.Reindexed

omit [DecidableEq α]

theorem refl (world : World α) : Reindexed world world :=
  ⟨fun _ => rfl, rfl, rfl, rfl, rfl, rfl⟩

theorem trans {first second third : World α} (left : Reindexed first second)
    (right : Reindexed second third) : Reindexed first third :=
  ⟨fun key => (right.stored key).trans (left.stored key),
    right.stale.trans left.stale,
    right.objToEmbedded.trans left.objToEmbedded,
    right.embeddedRefs.trans left.embeddedRefs,
    right.history.trans left.history,
    right.resolve.trans left.resolve⟩

instance : IsPreorder (World α) Reindexed where
  refl := refl
  trans _ _ _ := trans

theorem of_alike {before after : World α} (alike : Alike before after) :
    Reindexed before after :=
  ⟨alike.stored, alike.stale, alike.objToEmbedded, alike.embeddedRefs,
    alike.history, alike.resolve⟩

theorem modifyCache (world : World α) (model : Model)
    {transform : ModelCache α → ModelCache α}
    (sameObjs : ∀ cache, (transform cache).objs = cache.objs) :
    Reindexed world (world.modifyCache model transform) where
  stored key := by
    rw [stored_modifyCache]
    split
    · next same => rw [sameObjs, ← same, World.stored]
    · rfl
  stale := rfl
  objToEmbedded := rfl
  embeddedRefs := rfl
  history := rfl
  resolve := resolve_modifyCache world model sameObjs

variable [DecidableEq α]

theorem setKeys (world : World α) (key : ObjectKey) (index : Index)
    (newKeys : List (Key α)) :
    Reindexed world (world.setKeys key index newKeys) := by
  refine modifyCache world key.1 ?_
  intro cache
  rfl

theorem dropKeys (world : World α) (key : ObjectKey) (index : Index)
    (keys : List (Key α)) :
    Reindexed world (world.dropKeys key index keys) := by
  refine modifyCache world key.1 ?_
  intro cache
  rfl

end World.Reindexed

namespace ModelCache

theorem updateIndex_keeps (object : Object α) (index : Index) :
    Keeps World.Reindexed (updateIndex object index) := by
  refine Keeps.bind ((IndexCache.getKeys_keeps object index).mono
    fun _ _ => World.Reindexed.of_alike) fun newKeys => Keeps.modify fun world => ?_
  exact World.Reindexed.setKeys world object.key index newKeys

theorem deleteIndex_keeps (key : ObjectKey) (index : Index) :
    Keeps World.Reindexed (deleteIndex key index : Action α Unit) := by
  refine Keeps.of_leads fun world => ?_
  unfold deleteIndex
  rw [leads_bind, leads_get]
  cases world.recordedKeys key index with
  | none => exact World.Reindexed.refl world
  | some keys => exact World.Reindexed.dropKeys world key index keys

theorem updateIndex_raises (object : Object α) (index : Index) :
    Raises (· ∈ PyError.readErrors) (updateIndex object index) :=
  Raises.bind (IndexCache.getKeys_raises object index) fun _ =>
    Raises.modify _

theorem deleteIndex_raises (key : ObjectKey) (index : Index) :
    Raises (· = .keyError) (deleteIndex key index : Action α Unit) := by
  intro world
  unfold deleteIndex
  rw [leads_bind, leads_get]
  cases world.recordedKeys key index with
  | none => rfl
  | some keys => trivial

/-- `update` stores the new instance once all indexes are rewritten. -/
theorem update_leads (object : Object α) (world : World α) :
    Leads (ModelCache.update object) world
      (fun _ after => ∃ middle, World.Reindexed
        (world.record (.updated object (world.keysAt object))) middle ∧
        after = middle.storeObject object)
      (fun error after => World.Reindexed
        (world.record (.updated object (world.keysAt object))) after ∧
        error ∈ PyError.readErrors) := by
  unfold ModelCache.update
  rw [leads_bind, leads_modify]
  let recorded := world.record (.updated object (world.keysAt object))
  have walked := ((Keeps.loop object.model.cachedIndexes
    fun index _ => updateIndex_keeps object index).leads recorded).and
    (Raises.loop object.model.cachedIndexes
      (fun index _ => updateIndex_raises object index) recorded)
  refine walked.bind ?_
  intro _ middle reindexed
  exact ⟨middle, reindexed.1, rfl⟩

/-- `delete` drops the instance once all indexes are rewritten. -/
theorem delete_leads (key : ObjectKey) (world : World α) :
    Leads (ModelCache.delete key) world
      (fun _ after => ∃ middle old, World.Reindexed world middle ∧
        world.stored key = some old ∧ after = middle.dropObject key old)
      (fun error after => World.Reindexed world after ∧ error = .keyError) := by
  unfold ModelCache.delete
  have walked := ((Keeps.loop key.1.cachedIndexes
    fun index _ => deleteIndex_keeps key index).leads world).and
    (Raises.loop key.1.cachedIndexes
      (fun index _ => deleteIndex_raises key index) world)
  refine walked.bind ?_
  intro _ middle reindexed
  rw [leads_bind, leads_get]
  cases found : middle.stored key with
  | none => exact ⟨reindexed.1, rfl⟩
  | some old =>
      exact ⟨middle, old, reindexed.1, by rw [← reindexed.1.stored, found], rfl⟩

end ModelCache

/-! ## Queries -/

namespace ModelCache

theorem getKeys_keeps (object : Object α) (index : Option Index) :
    Keeps World.Alike (ModelCache.getKeys object index) := by
  unfold ModelCache.getKeys
  cases index with
  | none => exact Keeps.bind Keeps.get fun _ => Keeps.pure _
  | some index =>
      simp only
      split
      · exact Keeps.pure _
      · split
        · exact Keeps.bind (IndexCache.getKeys_keeps object index) fun _ =>
            Keeps.bind Keeps.get fun _ => Keeps.pure _
        · exact Keeps.throw _

omit [DecidableEq α] in
theorem getByIds_keeps (model : Model) (ids : List Id) :
    Keeps World.Alike (getByIds model ids : Action α _) := by
  induction ids with
  | nil => exact Keeps.pure _
  | cons id ids induction =>
      refine Keeps.bind (Keeps.bind Keeps.get fun world => ?_) fun _ =>
        Keeps.bind induction fun _ => Keeps.pure _
      cases world.stored (model, id) with
      | none => exact Keeps.throw _
      | some object => exact Keeps.pure _

theorem getOne_keeps (object : Object α) (index : Option Index) :
    Keeps World.Alike (ModelCache.getOne object index) := by
  unfold ModelCache.getOne
  split
  · exact Keeps.bind Keeps.get fun _ => Keeps.pure _
  · refine Keeps.bind (getKeys_keeps object index) fun ids => ?_
    rcases ids with _ | ⟨id, _ | _⟩
    · exact Keeps.pure _
    · exact Keeps.bind Keeps.get fun _ => Keeps.pure _
    · exact Keeps.throw _

end ModelCache

namespace DbStore

theorem getOne_keeps (object : Object α) (index : Option Index) :
    Keeps World.Alike (DbStore.getOne object index) :=
  Keeps.bind (getCache_keeps _) fun _ => ModelCache.getOne_keeps object index

theorem getKeys_keeps (object : Object α) (index : Option Index) :
    Keeps World.Alike (DbStore.getKeys object index) :=
  Keeps.bind (getCache_keeps _) fun _ => ModelCache.getKeys_keeps object index

theorem getAll_keeps (object : Object α) (index : Option Index) :
    Keeps World.Alike (DbStore.getAll object index) :=
  Keeps.bind (getCache_keeps _) fun _ =>
    Keeps.bind (ModelCache.getKeys_keeps object index) fun _ =>
      ModelCache.getByIds_keeps _ _

end DbStore

omit [DecidableEq α] in
/-- Looking up ids that are all there returns their objects. -/
theorem ModelCache.getByIds_leads (model : Model) (ids : List Id)
    (world : World α) (present : ∀ id ∈ ids, (world.stored (model, id)).isSome) :
    Program.Leads (ModelCache.getByIds model ids) world
      (fun objects _ => ids.map (fun id => world.stored (model, id)) =
        objects.map some)
      (fun _ _ => False) := by
  induction ids with
  | nil => rfl
  | cons id ids induction =>
      rcases Option.isSome_iff_exists.mp (present id (by simp)) with
        ⟨object, found⟩
      unfold ModelCache.getByIds ModelCache.getById
      simp only [Program.leads_bind, Program.leads_get, found,
        Program.leads_pure]
      refine (induction fun other member => present other (by simp [member])).mono
        ?_ (fun _ _ impossible => impossible)
      intro rest _ equal
      simp [found, equal]

theorem DbStore.getAll_eq (query : Object α) (index : Option Index) :
    DbStore.getAll query index = (do
      let ids ← DbStore.getKeys query index
      ModelCache.getByIds query.model ids) := by
  unfold DbStore.getAll DbStore.getKeys ModelCache.getAll
  rw [bind_assoc]

/-! ## Updates and deletes -/

/-- The steps that a property of the world has to survive. After an exception
only `failed` is left of it. -/
structure StoreInvariant (invariant failed : World α → Prop) : Prop where
  weaker : ∀ world, invariant world → failed world
  alike : ∀ before after, World.Alike before after →
    invariant before → invariant after
  forget : ∀ (world : World α) (proxy : Proxy), invariant world →
    invariant { world with fetched := Function.update world.fetched proxy none }
  setEmbedded : ∀ (world : World α) objToEmbedded, invariant world →
    invariant (world.setEmbedded objToEmbedded)
  setRefs : ∀ (world : World α) embeddedRefs, invariant world →
    invariant (world.setRefs embeddedRefs)
  update : ∀ object, Maintains invariant failed (ModelCache.update object)
  delete : ∀ key, Maintains invariant failed (ModelCache.delete key)

namespace StoreInvariant

variable {invariant failed : World α → Prop}
  (kept : StoreInvariant invariant failed) (order : SetOrder)

include kept

theorem observing {action : Action α β} (keeps : Keeps World.Alike action) :
    Maintains invariant failed action :=
  keeps.maintains kept.alike kept.weaker

theorem deleteEmbeddedWith {delete : ObjectKey → Action α Unit}
    (recursive : ∀ key, Maintains invariant failed (delete key))
    (owner embedded : ObjectKey) :
    Maintains invariant failed
      (DbStore.deleteEmbeddedWith delete owner embedded) := by
  intro world holds
  unfold DbStore.deleteEmbeddedWith
  simp only [leads_bind, leads_get, leads_set]
  have discarded := kept.setRefs world (world.store.embeddedRefs.insert embedded
    ((world.refsOf embedded).filter (· ≠ owner))) holds
  split
  · refine (recursive embedded _ discarded).bind ?_
    intro _ after holdsAfter
    rw [leads_bind, leads_get]
    cases after.store.embeddedRefs.lookup embedded with
    | none => exact kept.weaker after holdsAfter
    | some refs => exact kept.setRefs after _ holdsAfter
  · exact discarded

theorem deleteWithin (fuel : Nat) (key : ObjectKey) :
    Maintains invariant failed (DbStore.deleteWithin order fuel key) := by
  induction fuel generalizing key with
  | zero => exact Maintains.throw kept.weaker _
  | succ fuel induction =>
      intro world holds
      unfold DbStore.deleteWithin
      simp only [leads_bind, leads_get, leads_set]
      refine (Maintains.loop _ (fun embedded _ =>
        kept.deleteEmbeddedWith induction key embedded) _
        (kept.setEmbedded world _ holds)).mono ?_ fun _ _ remains => remains
      intro _ after holdsAfter
      rw [← leads_bind]
      exact Maintains.bind (kept.observing (getCache_keeps key.1))
        (fun _ => kept.delete key) after holdsAfter

theorem deleteKey (key : ObjectKey) :
    Maintains invariant failed (DbStore.deleteKey order key) :=
  fun world holds => kept.deleteWithin order _ key world holds

theorem dropEmbedded (object : Object α) :
    Maintains invariant failed (DbStore.dropEmbedded order object) := by
  intro world holds
  unfold DbStore.dropEmbedded
  simp only [leads_bind, leads_get, leads_set]
  refine (Maintains.loop _ (fun embedded _ =>
    kept.deleteEmbeddedWith (kept.deleteKey order) object.key embedded) _
    (kept.setEmbedded world _ holds)).mono ?_ fun _ _ remains => remains
  intro _ after holdsAfter
  exact kept.setEmbedded after _ holdsAfter

theorem updateWithin (fuel : Nat) (object : Object α) :
    Maintains invariant failed (DbStore.updateWithin order fuel object) := by
  induction fuel generalizing object with
  | zero => exact Maintains.throw kept.weaker _
  | succ fuel induction =>
      refine Maintains.bind (kept.observing (getCache_keeps _)) fun _ =>
        Maintains.bind (kept.update object) fun _ =>
          Maintains.bind (Maintains.loop _ ?_) fun _ =>
            kept.dropEmbedded order object
      intro embedded _
      exact Maintains.bind (induction embedded) fun _ =>
        Maintains.modify fun world holds => kept.setRefs world _ holds

/-- Everything but `clear`, which writes the caches in its own way. -/
theorem call (call : Call α) (kind : call ≠ .clear) :
    Maintains invariant failed (call.run order) := by
  cases call with
  | update object =>
      exact Maintains.bind (kept.updateWithin order _ object) fun _ =>
        Maintains.pure _
  | delete object =>
      exact Maintains.bind (kept.deleteKey order _) fun _ => Maintains.pure _
  | clear => exact absurd rfl kind
  | getOne object index =>
      exact Maintains.bind (kept.observing (DbStore.getOne_keeps _ _)) fun _ =>
        Maintains.pure _
  | getAll object index =>
      exact Maintains.bind (kept.observing (DbStore.getAll_keeps _ _)) fun _ =>
        Maintains.pure _
  | getKeys object index =>
      exact Maintains.bind (kept.observing (DbStore.getKeys_keeps _ _)) fun _ =>
        Maintains.pure _
  | createProxy proxy isLazy =>
      refine Maintains.bind (Maintains.bind
        (Maintains.modify fun world => kept.forget world proxy) fun _ => ?_)
        fun _ => Maintains.pure _
      split
      · exact Maintains.pure _
      · exact Maintains.bind (kept.observing proxy.getObject_keeps) fun _ =>
          Maintains.pure _
  | getObject proxy =>
      exact Maintains.bind (kept.observing proxy.getObject_keeps) fun _ =>
        Maintains.pure _

end StoreInvariant

end Dragonflow
