import Dragonflow.Db.Embedding

/-! # When an update returns

An update raises nothing but what the computation of its index keys raises. It
returns if the keys of the object can be computed in the store as it is, and the
keys of what it embeds in any store.
-/

namespace Dragonflow

open Program

variable {α : Type} [DecidableEq α]

/-- All index keys of the object can be computed. -/
def World.Computes (world : World α) (object : Object α) : Prop :=
  ∀ index ∈ object.model.cachedIndexes, ∃ keys,
    world.keysAt object index = .ok keys

/-- The index keys of embedded objects, at any depth, can be computed whatever
is stored: their index paths do not go through references. -/
inductive Object.SelfContained : Object α → Prop
  | intro {object : Object α}
      (computes : ∀ embedded ∈ object.iterateEmbeddedModelInstances,
        ∀ world : World α, world.Computes embedded)
      (deep : ∀ embedded ∈ object.iterateEmbeddedModelInstances,
        SelfContained embedded) : SelfContained object

theorem World.Computes.congr {before after : World α} {object : Object α}
    (computes : before.Computes object) (same : after.resolve = before.resolve) :
    after.Computes object := by
  intro index member
  rw [World.keysAt_congr same]
  exact computes index member

theorem ModelCache.update_computes {object : Object α} {world : World α}
    (computes : world.Computes object) :
    Leads (ModelCache.update object) world (fun _ _ => True)
      (fun _ _ => False) := by
  let event := CacheEvent.updated object (world.keysAt object)
  have sameProxies : (world.record event).resolve = world.resolve := rfl
  have recorded := computes.congr sameProxies
  unfold ModelCache.update
  rw [leads_bind, leads_modify]
  refine (Leads.loop_const (fun current => current.Computes object) _ ?_
    recorded).bind fun _ _ _ => trivial
  intro index current member computesNow
  rw [updateIndex, leads_bind]
  refine (IndexCache.getKeys_leads object index current).mono ?_ ?_
  · intro keys after computed
    refine computesNow.congr ?_
    exact ((World.Reindexed.setKeys after object.key index keys).resolve).trans
      computed.2.resolve
  · intro error after raised
    rcases computesNow index member with ⟨keys, computed⟩
    rw [raised.1] at computed
    cases computed

namespace DbStore

/-- Neither lost entries nor the depth of the recursion are a matter of keys. -/
abbrev NotRead (error : PyError) : Prop := error ∉ PyError.readErrors

omit [DecidableEq α] in
theorem deleteEmbeddedWith_raises {delete : ObjectKey → Action α Unit}
    (deletes : ∀ key, Raises NotRead (delete key)) (owner embedded : ObjectKey) :
    Raises NotRead (deleteEmbeddedWith delete owner embedded) := by
  intro world
  unfold deleteEmbeddedWith
  simp only [leads_bind, leads_get, leads_set]
  split
  · refine (deletes embedded _).bind fun _ after _ => ?_
    rw [leads_bind, leads_get]
    cases after.store.embeddedRefs.lookup embedded with
    | none => exact (by decide : NotRead .keyError)
    | some _ => trivial
  · trivial

theorem deleteWithin_raises (order : SetOrder) (fuel : Nat) (key : ObjectKey) :
    Raises NotRead (deleteWithin order fuel key : Action α Unit) := by
  induction fuel generalizing key with
  | zero => exact Raises.throw (by decide)
  | succ fuel induction =>
      intro world
      unfold deleteWithin
      simp only [leads_bind, leads_get, leads_set]
      refine (Raises.loop _ (fun embedded _ =>
        deleteEmbeddedWith_raises induction key embedded) _).mono ?_
        fun _ _ raised => raised
      intro _ walked _
      refine (getCache_leads key.1 walked).returning.mono ?_ fun _ _ raised => raised
      intro _ created _
      refine (ModelCache.delete_leads key created).mono (fun _ _ _ => trivial) ?_
      intro error after raised
      rw [raised.2]
      decide

theorem dropEmbedded_raises (order : SetOrder) (object : Object α) :
    Raises NotRead (dropEmbedded order object) := by
  intro world
  unfold dropEmbedded
  simp only [leads_bind, leads_get, leads_set, leads_modify]
  refine (Raises.loop _ (fun embedded _ => deleteEmbeddedWith_raises
    (fun key => ?_) object.key embedded) _).mono (fun _ _ _ => trivial)
    fun _ _ raised => raised
  intro current
  unfold deleteKey
  rw [leads_bind, leads_get]
  exact deleteWithin_raises order _ key current

theorem updateWithin_computes (order : SetOrder) (fuel : Nat) (object : Object α)
    (world : World α) (computes : world.Computes object)
    (selfContained : object.SelfContained) :
    Leads (updateWithin order fuel object) world (fun _ _ => True)
      (fun error _ => NotRead error) := by
  induction fuel generalizing object world with
  | zero => exact (by decide : NotRead .recursionError)
  | succ fuel induction =>
      rcases selfContained with ⟨embeddedComputes, deep⟩
      unfold updateWithin
      refine (getCache_leads object.model world).returning.bind ?_
      intro _ created alike
      have computesCreated := computes.congr alike.resolve
      refine (ModelCache.update_computes computesCreated).returning.bind ?_
      intro _ updated _
      refine (Leads.loop_const (fun _ => True) _ ?_ trivial).bind ?_
      · intro embedded current member _
        refine (induction embedded current (embeddedComputes embedded member current)
          (deep embedded member)).bind ?_
        intro _ after _
        trivial
      · intro _ walked _
        exact dropEmbedded_raises order object walked

end DbStore

/-- An update that returns has stored the object, and leaves the objects of its
rank or above alone. -/
theorem World.Balanced.update_stores {rank : ObjectKey → Nat}
    {direct : ObjectKey → Prop} {world : World α} (order : SetOrder)
    (balanced : world.Balanced rank direct) {object : Object α}
    (isDirect : direct object.key) (nested : object.Nested rank direct) :
    Leads (DbStore.update order object) world
      (fun _ after => after.Balanced rank direct ∧
        after.stored object.key = some object ∧
        World.SameOn (fun other => rank object.key ≤ rank other ∧
          other ≠ object.key) world after)
      (fun error _ => error ∈ PyError.readErrors) := by
  refine (updateWithin_linked order object.height object (Nat.le_refl _)
    nested balanced fun _ busy => absurd rfl busy).mono ?_ fun _ _ raised => raised
  intro _ after holds
  rcases holds with ⟨linked, stored, same, _⟩
  refine ⟨⟨linked.removable, linked.counted.weaken ?_⟩, stored, same⟩
  intro key isFree
  rcases isFree with isFree | rfl
  · exact isFree
  · exact isDirect

end Dragonflow
