import Dragonflow.Db.SyncPasses
import Dragonflow.Db.UpdateReturns

/-! # The store as the target of a sync

`update` and `delete` of the store do what a sync expects of its callbacks, for
objects that embed nothing and whose index keys can be computed in any state.
-/

namespace Dragonflow

open Program

variable {α : Type} [DecidableEq α]

namespace World.Served

variable {order : SetOrder} {world : World α}

/-- A call that returns leads to another such state. -/
theorem call_leads (served : world.Served order) (call : Call α)
    (kind : call ≠ .clear) :
    Leads (call.run order) world (fun _ after => after.Served order)
      (fun _ _ => True) := by
  unfold Leads
  rcases executed : exec (call.run order) world with ⟨error | answer, after⟩
  · trivial
  · exact .call served kind executed

theorem update_leads (served : world.Served order) (object : Object α) :
    Leads (DbStore.update order object) world (fun _ after => after.Served order)
      (fun _ _ => True) :=
  leads_bind.mp (served.call_leads (.update object) (by intro same; cases same))

theorem delete_leads (served : world.Served order) (object : Object α) :
    Leads (DbStore.delete order object) world (fun _ after => after.Served order)
      (fun _ _ => True) :=
  leads_bind.mp (served.call_leads (.delete object) (by intro same; cases same))

theorem getAll_leads (served : world.Served order) (query : Object α)
    (index : Option Index) :
    Leads (DbStore.getAll query index) world (fun _ after => after.Served order)
      (fun _ _ => True) :=
  leads_bind.mp (served.call_leads (.getAll query index) (by intro same; cases same))

end World.Served

theorem DbStore.delete_removes (order : SetOrder) (object : Object α)
    (world : World α) :
    Leads (DbStore.delete order object) world
      (fun _ after => after.stored object.key = none) (fun _ _ => True) := by
  unfold DbStore.delete DbStore.deleteKey
  rw [leads_bind, leads_get]
  unfold DbStore.deleteWithin
  rw [leads_bind, leads_get, leads_bind, leads_set]
  refine leads_true.bind ?_
  intro _ looped _
  refine leads_true.bind ?_
  intro _ created _
  refine (ModelCache.delete_leads object.key created).mono ?_ fun _ _ _ => trivial
  intro _ after dropped
  rcases dropped with ⟨middle, old, _, _, rfl⟩
  rw [World.stored_dropObject, if_pos rfl]

namespace Sync

/-- The object embeds nothing, and its index keys can always be computed. -/
structure Leaf (object : Object α) : Prop where
  embeds : object.iterateEmbeddedModelInstances = []
  computes : ∀ world : World α, world.Computes object

/-- States in which nothing is embedded. -/
structure Flat (order : SetOrder) (world : World α) : Prop where
  served : world.Served order
  balanced : world.Balanced (fun _ => 0) (fun _ => True)

variable {sync : Sync α} {order : SetOrder} {world : World α} {object : Object α}

theorem Leaf.nested (leaf : Leaf object) :
    object.Nested (fun _ => 0) (fun _ => True) := by
  constructor
  · intro embedded member
    rw [leaf.embeds] at member
    cases member
  · intro embedded member
    rw [leaf.embeds] at member
    cases member

theorem Leaf.selfContained (leaf : Leaf object) : object.SelfContained := by
  constructor
  · intro embedded member
    rw [leaf.embeds] at member
    cases member
  · intro embedded member
    rw [leaf.embeds] at member
    cases member

theorem Flat.update_leads (flat : Flat order world) (leaf : Leaf object) :
    Leads (DbStore.update order object) world
      (fun _ after => Flat order after ∧ ∀ key, after.stored key =
        Function.update world.stored object.key (some object) key)
      (fun _ _ => False) := by
  have stores := flat.balanced.update_stores order trivial leaf.nested
  have computes := DbStore.updateWithin_computes order object.height object world
    (leaf.computes world) leaf.selfContained
  refine ((flat.served.update_leads object).and (stores.and computes)).mono ?_ ?_
  · intro _ after result
    rcases result with ⟨served, ⟨balanced, stored, same⟩, _⟩
    refine ⟨⟨served, balanced⟩, ?_⟩
    intro key
    rw [Function.update_apply]
    split
    · next isKey =>
        rw [isKey]
        exact stored
    · next different => exact same.stored key ⟨Nat.le_refl 0, different⟩
  · intro error _ raised
    exact raised.2.2 raised.2.1

theorem Flat.delete_leads (flat : Flat order world)
    (stored : world.stored object.key = some object) :
    Leads (DbStore.delete order object) world
      (fun _ after => Flat order after ∧ ∀ key, after.stored key =
        Function.update world.stored object.key none key)
      (fun _ _ => False) := by
  have linked : world.Linked (fun _ => 0) (fun _ => True) (fun _ => none)
      (fun other => True ∨ other = object.key) :=
    ⟨flat.balanced.removable, flat.balanced.counted.weaken fun _ => Or.inl⟩
  have found : (world.stored object.key).isSome := by
    rw [stored]
    rfl
  have deletes := deleteKey_deletes order object.key (fun _ => none) (fun _ => True)
    world trivial linked (flat.balanced.refsOf_direct trivial) found
    fun _ busy => absurd rfl busy
  refine ((flat.served.delete_leads object).and
    ((DbStore.delete_removes order object world).and deletes)).mono ?_
    fun _ _ impossible => impossible.2.2
  intro _ after result
  rcases result with ⟨served, removed, linkedAfter, same, _⟩
  refine ⟨⟨served, linkedAfter⟩, ?_⟩
  intro key
  rw [Function.update_apply]
  split
  · next isKey =>
      rw [isKey]
      exact removed
  · next different => exact same.stored key ⟨Nat.le_refl 0, different⟩

omit [DecidableEq α] in
/-- Writing one registered key, seen from a sync. -/
theorem held_of_stored {before after : World α} {key : ObjectKey}
    (registered : key.1 ∈ sync.models) {value : Option (Object α)}
    (stored : ∀ other, after.stored other =
      Function.update before.stored key value other) :
    sync.held after = Function.update (sync.held before) key value := by
  funext other
  unfold held
  rw [stored, Function.update_apply, Function.update_apply]
  by_cases same : other = key
  · rw [if_pos same, if_pos same, same, if_pos registered]
  · rw [if_neg same, if_neg same]

theorem store_callbacks (updates : sync.updateCb = DbStore.update order)
    (deletes : sync.deleteCb = DbStore.delete order) :
    sync.Callbacks order (Flat order) Leaf where
  served world flat := flat.served
  read query index := by
    intro world flat
    refine ((flat.served.getAll_leads query index).and
      ((DbStore.getAll_keeps query index).leads world)).mono ?_ fun _ _ _ => trivial
    intro _ after result
    exact ⟨result.1, World.Linked.alike flat.balanced result.2⟩
  update world object flat leaf registered := by
    rw [updates]
    refine (flat.update_leads leaf).mono ?_ fun _ _ impossible => impossible
    intro _ after result
    exact ⟨result.1, held_of_stored registered result.2⟩
  delete world object flat registered stored := by
    rw [deletes]
    refine (flat.delete_leads stored).mono ?_ fun _ _ impossible => impossible
    intro _ after result
    exact ⟨result.1, held_of_stored registered result.2⟩

end Sync

end Dragonflow
