import Dragonflow.Db.Removal

/-! # Proxies never answer an outdated object

A proxy trusts the staleness flag of the object that it keeps. Every way of
replacing or removing a stored object sets the flag, so an object that a proxy
keeps and that is not stale is the stored one.
-/

namespace Dragonflow

open Program

variable {α : Type} [DecidableEq α]

namespace World

/-- Every proxy stands for the object stored under its key. -/
def Coherent (world : World α) : Prop :=
  ∀ proxy, world.resolve proxy = world.stored (proxy.model, proxy.id)

omit [DecidableEq α]

theorem coherent_initial (stale : Address → Bool) :
    (World.initial stale : World α).Coherent :=
  fun _ => rfl

theorem Coherent.reindexed {before after : World α}
    (reindexed : Reindexed before after) (coherent : before.Coherent) :
    after.Coherent := by
  intro proxy
  rw [reindexed.resolve, reindexed.stored, coherent]

/-- When the stored objects change, the proxies stay right if every object that
is no longer stored where it was has become stale. -/
theorem Coherent.replace {before after : World α} (coherent : before.Coherent)
    (fetched : after.fetched = before.fetched)
    (stale : ∀ address, before.stale address → after.stale address)
    (replaced : ∀ key object, before.stored key = some object →
      after.stored key = some object ∨ after.stale object.address) :
    after.Coherent := by
  intro proxy
  unfold World.resolve
  rw [fetched]
  cases kept : before.fetched proxy with
  | none => rfl
  | some object =>
      simp only
      split
      · rfl
      · next fresh =>
          have freshBefore : ¬ before.stale object.address :=
            fun old => fresh (stale _ old)
          have storedBefore := coherent proxy
          simp only [World.resolve, kept, freshBefore] at storedBefore
          rcases replaced _ object storedBefore.symm with same | isStale
          · exact same.symm
          · exact absurd isStale fresh

theorem Coherent.storeObject {world : World α} (coherent : world.Coherent)
    (object : Object α) : (world.storeObject object).Coherent := by
  refine coherent.replace (fetched_storeObject world object) ?_ ?_
  · intro address old
    rw [stale_storeObject]
    cases world.stored object.key with
    | none => exact old
    | some replaced =>
        simp only [Function.update_apply]
        split
        · rfl
        · exact old
  · intro key old found
    rw [stored_storeObject, stale_storeObject]
    by_cases same : key = object.key
    · subst same
      right
      simp [found]
    · left
      rw [if_neg same, found]

theorem Coherent.dropObject {world : World α} (coherent : world.Coherent)
    {key : ObjectKey} {old : Object α} (found : world.stored key = some old) :
    (world.dropObject key old).Coherent := by
  have stale : (world.dropObject key old).stale =
      Function.update world.stale old.address true := rfl
  refine coherent.replace rfl ?_ ?_
  · intro address before
    rw [stale, Function.update_apply]
    split
    · rfl
    · exact before
  · intro other object foundOther
    rw [stored_dropObject, stale]
    by_cases same : other = key
    · subst same
      cases found.symm.trans foundOther
      right
      simp
    · left
      rw [if_neg same, foundOther]

end World

/-! ## Operations -/

theorem ModelCache.update_coherent (object : Object α) :
    Maintains World.Coherent World.Coherent (ModelCache.update object) := by
  intro world coherent
  have recorded : (world.record
      (.updated object (world.keysAt object))).Coherent := coherent
  refine (ModelCache.update_leads object world).mono ?_ ?_
  · rintro _ after ⟨middle, reindexed, rfl⟩
    exact (recorded.reindexed reindexed).storeObject object
  · intro _ after reindexed
    exact recorded.reindexed reindexed.1

theorem ModelCache.delete_coherent (key : ObjectKey) :
    Maintains World.Coherent World.Coherent
      (ModelCache.delete key : Action α Unit) := by
  intro world coherent
  refine (ModelCache.delete_leads key world).mono ?_ ?_
  · rintro _ after ⟨middle, old, reindexed, found, rfl⟩
    exact (coherent.reindexed reindexed).dropObject
      ((reindexed.stored key).trans found)
  · intro _ after reindexed
    exact coherent.reindexed reindexed.1

theorem World.coherent_invariant :
    StoreInvariant (World.Coherent : World α → Prop) World.Coherent where
  weaker _ coherent := coherent
  alike _ _ alike coherent :=
    coherent.reindexed (World.Reindexed.of_alike alike)
  forget world proxy coherent := by
    intro other
    by_cases same : other = proxy
    · subst same
      simp only [World.resolve, Function.update_self]
    · have resolved := coherent other
      simp only [World.resolve, Function.update_of_ne same] at resolved ⊢
      exact resolved
  setEmbedded _ _ coherent := coherent
  setRefs _ _ coherent := coherent
  update := ModelCache.update_coherent
  delete := ModelCache.delete_coherent

/-- `clear` forgets the objects only after it has made all of them stale. -/
theorem DbStore.clear_coherent {world : World α} (removable : world.Removable)
    (coherent : world.Coherent) :
    Leads (DbStore.clear : Action α Unit) world
      (fun _ after => after.Coherent) (fun _ after => after.Coherent) := by
  unfold DbStore.clear
  rw [leads_bind, leads_get]
  have coherentLoops : Maintains World.Coherent World.Coherent
      (forM world.store.cache.entries fun entry =>
        DbStore.clearCache entry.1 (entry.2.objs.entries.map Sigma.snd)) :=
    Maintains.loop _ fun _ _ => Maintains.loop _ fun _ _ =>
      ModelCache.delete_coherent _
  refine (((DbStore.clear_loops_return removable).and
    (coherentLoops world coherent)).mono (fun _ _ holds => holds)
    (fun _ _ impossible => impossible.1.elim)).bind ?_
  rintro _ after ⟨removed, coherentAfter⟩
  rw [leads_modify]
  refine coherentAfter.replace rfl (fun _ old => old) ?_
  intro key object found
  rw [removed] at found
  cases found

/-! ## Every interleaving -/

theorem Call.run_coherent (order : SetOrder) (call : Call α) :
    Maintains (fun world => world.Removable ∧ world.Coherent)
      (fun world => world.Removable ∧ world.Coherent) (call.run order) := by
  rintro world ⟨removable, coherent⟩
  refine (Call.run_removable order call world removable).and ?_
  by_cases kind : call = .clear
  · subst kind
    refine (DbStore.clear_coherent removable coherent).bind ?_
    intro _ after coherentAfter
    exact coherentAfter
  · exact World.coherent_invariant.call order call kind world coherent

/-- Whatever calls were made before, and whichever of them raised, a proxy
returns exactly the instance that is stored under its model and id. -/
theorem Proxy.getObject_eq_stored (order : SetOrder) (stale : Address → Bool)
    (calls : List (Call α)) (proxy : Proxy) :
    let world := (trace (Call.run order) calls (World.initial stale)).2
    (exec proxy.getObject world).1 =
      .ok (world.stored (proxy.model, proxy.id)) := by
  intro world
  have coherent : world.Removable ∧ world.Coherent :=
    trace_invariant calls (fun call _ => Call.run_coherent order call) _
      ⟨World.removable_initial stale, World.coherent_initial stale⟩
  rcases proxy.getObject_exec world with ⟨after, executed, _⟩
  rw [executed, coherent.2 proxy]

end Dragonflow
