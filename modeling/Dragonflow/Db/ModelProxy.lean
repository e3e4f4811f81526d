import Dragonflow.Db.StoreState
import Dragonflow.Foundation.Program

/-! # Model proxies

`dragonflow/db/model_proxy.py`. A proxy keeps the object that it fetched and
fetches again once that object is marked stale. Reading an attribute through a
proxy may therefore change the proxy, but never what the proxy stands for.
-/

namespace Dragonflow

/-- Code that works on the store and the objects around it. -/
abbrev Action (α β : Type) := Program (World α) PyError β

/-- `DbStore._get_cache` -/
def getCache (model : Model) : Action α Unit := do
  let world ← get
  match world.store.cache.lookup model with
  | some _ => pure ()
  | none => set (world.setCache model ModelCache.new)

namespace Proxy

/-- `_fetch_obj`: `get_one` by id, where a missing id gives `None`. -/
def fetchObj (proxy : Proxy) : Action α (Option (Object α)) := do
  getCache proxy.model
  let world ← get
  return world.stored (proxy.model, proxy.id)

/-- `self._obj = self._fetch_obj()` -/
def refetch (proxy : Proxy) : Action α (Option (Object α)) := do
  let object ← proxy.fetchObj
  modify fun world =>
    { world with fetched := Function.update world.fetched proxy object }
  return object

def getObject (proxy : Proxy) : Action α (Option (Object α)) := do
  let world ← get
  match world.fetched proxy with
  | none => proxy.refetch
  | some object =>
      if world.stale object.address then proxy.refetch
      else return some object

/-- `__init__` -/
def create (proxy : Proxy) (isLazy : Bool) : Action α Unit := do
  modify fun world =>
    { world with fetched := Function.update world.fetched proxy none }
  if isLazy then pure () else discard proxy.getObject

end Proxy

/-- `getattr(node, name)`. A proxy answers its own id and asks the object for
everything else. -/
def getattr (node : Value α) (name : FieldName) : Action α (Value α) :=
  match node with
  | .record model fields => Program.ofExcept (fields.read model name)
  | .object object => Program.ofExcept (object.read name)
  | .proxy proxy =>
      if name = "id" then pure (.scalar (.str proxy.id))
      else do
        match ← proxy.getObject with
        | none => throw .referencedObjectNotFound
        | some object => Program.ofExcept (object.read name)
  | _ => throw .attributeError

/-! ## What a proxy stands for -/

namespace World

/-- The object that `get_object` is going to return. -/
def resolve (world : World α) (proxy : Proxy) : Option (Object α) :=
  match world.fetched proxy with
  | none => world.stored (proxy.model, proxy.id)
  | some object =>
      if world.stale object.address then
        world.stored (proxy.model, proxy.id)
      else some object

/-- Two worlds that differ at most in which empty caches exist and in what the
proxies keep, but not in what the proxies stand for. -/
structure Alike (before after : World α) : Prop where
  cacheOf : ∀ model, after.cacheOf model = before.cacheOf model
  stale : after.stale = before.stale
  objToEmbedded : after.store.objToEmbedded = before.store.objToEmbedded
  embeddedRefs : after.store.embeddedRefs = before.store.embeddedRefs
  history : after.history = before.history
  resolve : after.resolve = before.resolve

namespace Alike

theorem refl (world : World α) : Alike world world :=
  ⟨fun _ => rfl, rfl, rfl, rfl, rfl, rfl⟩

theorem trans {first second third : World α} (left : Alike first second)
    (right : Alike second third) : Alike first third :=
  ⟨fun model => (right.cacheOf model).trans (left.cacheOf model),
    right.stale.trans left.stale,
    right.objToEmbedded.trans left.objToEmbedded,
    right.embeddedRefs.trans left.embeddedRefs,
    right.history.trans left.history,
    right.resolve.trans left.resolve⟩

instance : IsPreorder (World α) Alike where
  refl := refl
  trans _ _ _ := trans

theorem stored {before after : World α} (alike : Alike before after)
    (key : ObjectKey) : after.stored key = before.stored key := by
  unfold World.stored
  rw [alike.cacheOf]

end Alike

theorem resolve_congr {before after : World α}
    (stored : ∀ key, after.stored key = before.stored key)
    (stale : after.stale = before.stale)
    (fetched : after.fetched = before.fetched) :
    after.resolve = before.resolve := by
  funext proxy
  simp only [resolve, stored, stale, fetched]

/-- Creating an empty cache for a model that had none. -/
theorem Alike.setCache_new (world : World α) (model : Model)
    (missing : world.store.cache.lookup model = none) :
    Alike world (world.setCache model ModelCache.new) := by
  have sameCache : ∀ other, (world.setCache model ModelCache.new).cacheOf other =
      world.cacheOf other := by
    intro other
    rw [cacheOf_setCache]
    split
    · next same =>
        subst same
        simp [World.cacheOf, missing]
    · rfl
  refine ⟨sameCache, rfl, rfl, rfl, rfl, resolve_congr ?_ rfl rfl⟩
  intro key
  unfold World.stored
  rw [sameCache]

/-- What the proxies stand for does not depend on the indexes. -/
theorem resolve_modifyCache (world : World α) (model : Model)
    {transform : ModelCache α → ModelCache α}
    (sameObjs : ∀ cache, (transform cache).objs = cache.objs) :
    (world.modifyCache model transform).resolve = world.resolve := by
  refine resolve_congr ?_ rfl rfl
  intro key
  rw [stored_modifyCache]
  split
  · next same => rw [sameObjs, ← same, stored]
  · rfl

/-- A proxy that keeps what the store holds under its key. -/
theorem Alike.fetch (world : World α) (proxy : Proxy)
    (outdated : world.resolve proxy = world.stored (proxy.model, proxy.id)) :
    Alike world { world with
      fetched := Function.update world.fetched proxy
        (world.stored (proxy.model, proxy.id)) } := by
  refine ⟨fun _ => rfl, rfl, rfl, rfl, rfl, ?_⟩
  funext other
  by_cases same : other = proxy
  · subst same
    rw [outdated]
    simp only [World.resolve, Function.update_self]
    change (match world.stored (other.model, other.id) with
      | none => world.stored (other.model, other.id)
      | some object =>
          if world.stale object.address then
            world.stored (other.model, other.id)
          else some object) = _
    cases found : world.stored (other.model, other.id) with
    | none => rfl
    | some object => simp
  · simp only [World.resolve, Function.update_of_ne same]
    rfl

end World

theorem getCache_leads (model : Model) (world : World α) :
    Program.Leads (getCache model) world
      (fun _ after => World.Alike world after) (fun _ _ => False) := by
  unfold getCache
  simp only [Program.leads_bind, Program.leads_get]
  cases found : world.store.cache.lookup model with
  | some cache => exact World.Alike.refl world
  | none => exact World.Alike.setCache_new world model found

theorem getCache_keeps (model : Model) :
    Program.Keeps World.Alike (getCache model : Action α Unit) :=
  Program.Keeps.of_leads fun world => (getCache_leads model world).mono
    (fun _ _ alike => alike) (fun _ _ impossible => impossible.elim)

namespace Proxy

theorem refetch_leads (proxy : Proxy) (world : World α)
    (outdated : world.resolve proxy = world.stored (proxy.model, proxy.id)) :
    Program.Leads proxy.refetch world
      (fun object after => object = world.resolve proxy ∧
        World.Alike world after)
      (fun _ _ => False) := by
  unfold refetch fetchObj
  simp only [Program.leads_bind, Program.leads_get, Program.leads_pure,
    Program.leads_modify]
  refine (getCache_leads proxy.model world).mono ?_
    (fun _ _ impossible => impossible)
  intro _ after alike
  have outdatedAfter : after.resolve proxy =
      after.stored (proxy.model, proxy.id) := by
    rw [alike.resolve, outdated, alike.stored]
  exact ⟨by rw [alike.stored, outdated],
    alike.trans (World.Alike.fetch after proxy outdatedAfter)⟩

/-- `get_object` returns what the proxy stands for, and changes nothing else
that could be observed. -/
theorem getObject_leads (proxy : Proxy) (world : World α) :
    Program.Leads proxy.getObject world
      (fun object after => object = world.resolve proxy ∧
        World.Alike world after)
      (fun _ _ => False) := by
  unfold getObject
  simp only [Program.leads_bind, Program.leads_get]
  cases kept : world.fetched proxy with
  | none => exact proxy.refetch_leads world (by simp [World.resolve, kept])
  | some object =>
      simp only
      split
      · next stale =>
          exact proxy.refetch_leads world (by simp [World.resolve, kept, stale])
      · next fresh =>
          exact ⟨by simp [World.resolve, kept, fresh], World.Alike.refl world⟩

theorem getObject_exec (proxy : Proxy) (world : World α) :
    ∃ after, Program.exec proxy.getObject world =
      (.ok (world.resolve proxy), after) ∧ World.Alike world after := by
  have leads := proxy.getObject_leads world
  unfold Program.Leads at leads
  rcases executed : Program.exec proxy.getObject world with ⟨error | object, after⟩
  · rw [executed] at leads
    exact leads.elim
  · rw [executed] at leads
    exact ⟨after, by rw [leads.1], leads.2⟩

theorem getObject_keeps (proxy : Proxy) :
    Program.Keeps World.Alike (proxy.getObject : Action α _) :=
  Program.Keeps.of_leads fun world => (proxy.getObject_leads world).mono
    (fun _ _ returned => returned.2) (fun _ _ impossible => impossible.elim)

theorem getObject_readsOnly (proxy : Proxy) :
    Program.ReadsOnly World.resolve (proxy.getObject : Action α _) := by
  intro world
  rcases proxy.getObject_exec world with ⟨after, executed, alike⟩
  refine ⟨by rw [executed]; exact alike.resolve, fun other same => ?_⟩
  rcases proxy.getObject_exec other with ⟨_, executedOther, _⟩
  rw [executed, executedOther, same]

end Proxy

theorem getattr_keeps (node : Value α) (name : FieldName) :
    Program.Keeps World.Alike (getattr node name) := by
  cases node with
  | record model fields => exact Program.Keeps.ofExcept _
  | object object => exact Program.Keeps.ofExcept _
  | proxy proxy =>
      simp only [getattr]
      split
      · exact Program.Keeps.pure _
      · refine Program.Keeps.bind proxy.getObject_keeps ?_
        intro object
        cases object with
        | none => exact Program.Keeps.throw _
        | some object => exact Program.Keeps.ofExcept _
  | _ => exact Program.Keeps.throw _

theorem Proxy.getObject_raises (proxy : Proxy) (allowed : PyError → Prop) :
    Program.Raises allowed (proxy.getObject : Action α _) :=
  fun world => (proxy.getObject_leads world).mono (fun _ _ _ => trivial)
    (fun _ _ impossible => impossible.elim)

theorem getattr_raises (node : Value α) (name : FieldName) :
    Program.Raises (· ∈ PyError.readErrors) (getattr node name) := by
  have reading (object : Object α) : Program.Raises (· ∈ PyError.readErrors)
      (Program.ofExcept (object.read name) : Action α _) :=
    Program.Raises.ofExcept fun _ raised => Object.read_raises raised
  cases node with
  | record model fields =>
      exact Program.Raises.ofExcept fun _ raised => Fields.read_raises raised
  | object object => exact reading object
  | proxy proxy =>
      simp only [getattr]
      split
      · exact Program.Raises.pure _
      · refine Program.Raises.bind (proxy.getObject_raises _) fun object => ?_
        cases object with
        | none => exact Program.Raises.throw (by decide)
        | some object => exact reading object
  | _ => exact Program.Raises.throw (by decide)

theorem getattr_readsOnly (node : Value α) (name : FieldName) :
    Program.ReadsOnly World.resolve (getattr node name) := by
  cases node with
  | record model fields => exact Program.ReadsOnly.ofExcept _
  | object object => exact Program.ReadsOnly.ofExcept _
  | proxy proxy =>
      simp only [getattr]
      split
      · exact Program.ReadsOnly.pure _
      · refine Program.ReadsOnly.bind proxy.getObject_readsOnly ?_
        intro object
        cases object with
        | none => exact Program.ReadsOnly.throw _
        | some object => exact Program.ReadsOnly.ofExcept _
  | _ => exact Program.ReadsOnly.throw _

end Dragonflow
