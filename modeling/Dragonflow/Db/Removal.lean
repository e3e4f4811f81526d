import Dragonflow.Db.StoreInvariant

/-! # Stored objects can be removed

Every index has recorded keys for every stored object, also after operations
that raised. So removing a stored object never meets a missing entry.
-/

namespace Dragonflow

open Program

variable {α : Type} [DecidableEq α]

namespace World

omit [DecidableEq α]

theorem recordedKeys_alike {before after : World α} (alike : Alike before after) :
    after.recordedKeys = before.recordedKeys := by
  funext key index
  unfold recordedKeys
  rw [alike.cacheOf]

theorem recordedKeys_storeObject (world : World α) (object : Object α) :
    (world.storeObject object).recordedKeys = world.recordedKeys := by
  funext key index
  unfold recordedKeys
  rw [indexes_storeObject]

theorem recordedKeys_dropObject (world : World α) (key : ObjectKey)
    (old : Object α) :
    (world.dropObject key old).recordedKeys = world.recordedKeys := by
  funext other index
  unfold recordedKeys
  rw [indexes_dropObject]

/-- Every object is stored under its own key, and every index has recorded keys
for it. -/
structure Removable (world : World α) : Prop where
  keyed : ∀ key object, world.stored key = some object → object.key = key
  recorded : ∀ key, (world.stored key).isSome →
    ∀ index ∈ key.1.cachedIndexes, (world.recordedKeys key index).isSome

theorem removable_of_empty {world : World α}
    (empty : ∀ key, world.stored key = none) : world.Removable where
  keyed key _ found := by simp [empty key] at found
  recorded key found := by simp [empty key] at found

theorem removable_initial (stale : Address → Bool) :
    (World.initial stale : World α).Removable :=
  removable_of_empty fun _ => rfl

theorem Removable.congr {before after : World α} (removable : before.Removable)
    (stored : ∀ key, after.stored key = before.stored key)
    (recorded : after.recordedKeys = before.recordedKeys) :
    after.Removable where
  keyed key object found := removable.keyed key object (stored key ▸ found)
  recorded key found := by
    rw [recorded]
    exact removable.recorded key (stored key ▸ found)

end World

namespace ModelCache

/-- Updating an index never forgets an object, and records the new one. -/
theorem updateIndex_recorded (object : Object α) (index : Index)
    (world : World α) :
    Leads (updateIndex object index) world
      (fun _ after => ∃ newKeys, ∀ key other, after.recordedKeys key other =
        if key = object.key ∧ other = index then some newKeys
        else world.recordedKeys key other)
      (fun _ after => after.recordedKeys = world.recordedKeys) := by
  refine ((IndexCache.getKeys_leads object index world).mono
    (fun _ _ computed => computed.2)
    (fun _ _ raised => World.recordedKeys_alike raised.2)).bind ?_
  intro newKeys after alike
  rw [leads_modify]
  refine ⟨newKeys, fun key other => ?_⟩
  rw [World.recordedKeys_setKeys, World.recordedKeys_alike alike]

theorem update_removable (object : Object α) :
    Maintains World.Removable World.Removable (ModelCache.update object) := by
  intro world removable
  unfold ModelCache.update
  rw [leads_bind, leads_modify]
  let recorded := world.record (.updated object (world.keysAt object))
  -- Nothing is forgotten on the way, and the new object is recorded so far.
  let progress (done : List Index) (current : World α) : Prop :=
    World.Reindexed recorded current ∧
      (∀ key index, (world.recordedKeys key index).isSome →
        (current.recordedKeys key index).isSome) ∧
      ∀ index ∈ done, (current.recordedKeys object.key index).isSome
  have removableAt : ∀ done current, progress done current →
      current.Removable := by
    rintro done current ⟨reindexed, kept, _⟩
    constructor
    · intro key stored found
      exact removable.keyed key stored (reindexed.stored key ▸ found)
    · intro key found index declared
      exact kept key index
        (removable.recorded key (reindexed.stored key ▸ found) index declared)
  refine (Leads.loop progress _ ?_
    ⟨World.Reindexed.refl recorded, fun _ _ found => found, by simp⟩).bind ?_
  · intro done index rest current _ holds
    have updated := (updateIndex_recorded object index current).and
      ((updateIndex_keeps object index).leads current)
    refine updated.mono ?_ ?_
    · rintro _ after ⟨⟨newKeys, written⟩, reindexed⟩
      refine ⟨holds.1.trans reindexed, ?_, ?_⟩
      · intro key other found
        rw [written]
        split
        · rfl
        · exact holds.2.1 key other found
      · intro other member
        rw [written]
        split
        · rfl
        · next different =>
            rcases List.mem_append.mp member with member | member
            · exact holds.2.2 other member
            · exact absurd ⟨rfl, List.mem_singleton.mp member⟩ different
    · rintro _ after ⟨same, reindexed⟩
      exact (removableAt done current holds).congr reindexed.stored same
  · intro _ after holds
    rw [leads_modify]
    have removableAfter := removableAt _ after holds
    constructor
    · intro key stored found
      rw [World.stored_storeObject] at found
      split at found
      · next same =>
          cases found
          exact same.symm
      · exact removableAfter.keyed key stored found
    · intro key found index declared
      rw [World.recordedKeys_storeObject]
      rw [World.stored_storeObject] at found
      split at found
      · next same =>
          subst same
          exact holds.2.2 index declared
      · exact removableAfter.recorded key found index declared

/-- Removing a stored object succeeds. -/
theorem delete_returns {world : World α} (removable : world.Removable)
    {key : ObjectKey} (found : (world.stored key).isSome) :
    Leads (ModelCache.delete key) world (fun _ _ => True) (fun _ _ => False) := by
  unfold ModelCache.delete
  let progress (done : List Index) (current : World α) : Prop :=
    World.Reindexed world current ∧
      ∀ index ∈ key.1.cachedIndexes, index ∉ done →
        (current.recordedKeys key index).isSome
  refine (Leads.loop progress _ ?_ ⟨World.Reindexed.refl world,
    fun index declared _ => removable.recorded key found index declared⟩).bind ?_
  · intro done index rest current split holds
    have declared : index ∈ key.1.cachedIndexes := by simp [split]
    have fresh : index ∉ done := by
      have nodup := Model.nodup_cachedIndexes key.1
      rw [split] at nodup
      exact fun member => List.disjoint_of_nodup_append nodup member (by simp)
    rcases Option.isSome_iff_exists.mp (holds.2 index declared fresh) with
      ⟨keys, recorded⟩
    unfold deleteIndex
    rw [leads_bind, leads_get, recorded]
    refine ⟨holds.1.trans (World.Reindexed.dropKeys current key index keys), ?_⟩
    intro other declaredOther notDone
    rw [List.mem_append, List.mem_singleton, not_or] at notDone
    rw [World.recordedKeys_dropKeys, if_neg fun same => notDone.2 same.2]
    exact holds.2 other declaredOther notDone.1
  · intro _ after holds
    rcases Option.isSome_iff_exists.mp found with ⟨object, stored⟩
    rw [leads_bind, leads_get, holds.1.stored, stored]
    trivial

/-- Whether it returns or raises, `delete` keeps what is recorded for others. -/
theorem delete_recorded (key : ObjectKey) (world : World α) :
    Leads (ModelCache.delete key) world
      (fun _ after => ∀ other, other ≠ key →
        after.recordedKeys other = world.recordedKeys other)
      (fun _ after => ∀ other, other ≠ key →
        after.recordedKeys other = world.recordedKeys other) := by
  unfold ModelCache.delete
  refine (Leads.loop_const (fun current => ∀ other, other ≠ key →
    current.recordedKeys other = world.recordedKeys other) _ ?_
    (fun _ _ => rfl)).bind ?_
  · intro index current _ same
    unfold deleteIndex
    rw [leads_bind, leads_get]
    cases current.recordedKeys key index with
    | none => exact same
    | some keys =>
        intro other different
        rw [← same other different]
        funext otherIndex
        rw [World.recordedKeys_dropKeys, if_neg fun equal => different equal.1]
  · intro _ after same
    rw [leads_bind, leads_get]
    cases after.stored key with
    | none => exact same
    | some old =>
        rw [leads_set, World.recordedKeys_dropObject]
        exact same

theorem delete_removable (key : ObjectKey) :
    Maintains World.Removable World.Removable
      (ModelCache.delete key : Action α Unit) := by
  intro world removable
  have others : ∀ after : World α, (after.stored key = none) →
      (∀ other, other ≠ key → after.stored other = world.stored other) →
      (∀ other, other ≠ key →
        after.recordedKeys other = world.recordedKeys other) →
      after.Removable := by
    intro after removed stored recorded
    have different : ∀ other, (after.stored other).isSome → other ≠ key := by
      rintro other found rfl
      rw [removed] at found
      cases found
    constructor
    · intro other object found
      have isOther := different other (by simp [found])
      exact removable.keyed other object (stored other isOther ▸ found)
    · intro other found index declared
      have isOther := different other found
      rw [recorded other isOther]
      exact removable.recorded other (stored other isOther ▸ found) index declared
  have framed := (delete_leads key world).and (delete_recorded key world)
  by_cases found : (world.stored key).isSome
  · refine (framed.and (delete_returns removable found)).mono ?_
      fun _ _ impossible => impossible.2.elim
    rintro _ after ⟨⟨⟨middle, old, reindexed, _, rfl⟩, recorded⟩, _⟩
    refine others _ (by simp [World.stored_dropObject]) ?_ recorded
    intro other different
    rw [World.stored_dropObject, if_neg different, reindexed.stored]
  · refine framed.mono ?_ ?_
    · rintro _ after ⟨⟨_, old, _, stored, _⟩, _⟩
      rw [stored] at found
      exact absurd rfl found
    · rintro _ after ⟨⟨reindexed, _⟩, recorded⟩
      refine others after ?_ (fun other _ => reindexed.stored other) recorded
      rw [reindexed.stored]
      exact Option.not_isSome_iff_eq_none.mp found

end ModelCache

theorem World.removable_invariant :
    StoreInvariant (World.Removable : World α → Prop) World.Removable where
  weaker _ removable := removable
  alike _ _ alike removable :=
    removable.congr alike.stored (World.recordedKeys_alike alike)
  forget _ _ removable := removable.congr (fun _ => rfl) rfl
  setEmbedded _ _ removable := removable.congr (fun _ => rfl) rfl
  setRefs _ _ removable := removable.congr (fun _ => rfl) rfl
  update := ModelCache.update_removable
  delete := ModelCache.delete_removable

/-! ## Clearing -/

namespace DbStore

theorem clearCache_returns (model : Model) (objects : List (Object α))
    (distinct : (objects.map Object.id).Nodup) {world : World α}
    (removable : world.Removable)
    (present : ∀ object ∈ objects, (world.stored (model, object.id)).isSome) :
    Leads (clearCache model objects) world
      (fun _ after => after.Removable ∧
        ∀ key, after.stored key =
          if key.1 = model ∧ key.2 ∈ objects.map Object.id then none
          else world.stored key)
      (fun _ _ => False) := by
  refine Leads.loop (fun done (current : World α) => current.Removable ∧
    ∀ key, current.stored key =
      if key.1 = model ∧ key.2 ∈ done.map Object.id then none
      else world.stored key) objects ?_ ⟨removable, by simp⟩
  rintro done object rest current split ⟨removableNow, stored⟩
  have fresh : object.id ∉ done.map Object.id := by
    rw [split, List.map_append, List.map_cons] at distinct
    exact fun member => List.disjoint_of_nodup_append distinct member (by simp)
  have found : (current.stored (model, object.id)).isSome := by
    rw [stored, if_neg fun removed => fresh removed.2]
    exact present object (by simp [split])
  refine (((ModelCache.delete_leads _ current).and
    (ModelCache.delete_removable _ current removableNow)).and
    (ModelCache.delete_returns removableNow found)).mono ?_
    fun _ _ impossible => impossible.2
  rintro _ after ⟨⟨⟨middle, old, reindexed, _, rfl⟩, removableAfter⟩, _⟩
  refine ⟨removableAfter, fun key => ?_⟩
  rw [World.stored_dropObject, reindexed.stored, stored]
  simp only [Prod.ext_iff, List.map_append, List.map_cons, List.map_nil,
    List.mem_append, List.mem_singleton]
  by_cases sameModel : key.1 = model <;> by_cases sameId : key.2 = object.id <;>
    simp [sameModel, sameId]

/-- The loops of `clear` remove everything, and meet no missing entry. -/
theorem clear_loops_return {world : World α} (removable : world.Removable) :
    Leads (forM world.store.cache.entries fun entry =>
        clearCache entry.1 (entry.2.objs.entries.map Sigma.snd)) world
      (fun _ after => ∀ key, after.stored key = none) (fun _ _ => False) := by
  refine (Leads.loop (fun done current => current.Removable ∧
    ∀ key, current.stored key =
      if key.1 ∈ done.map Sigma.fst then none else world.stored key) _ ?_
    ⟨removable, by simp⟩).mono ?_ fun _ _ impossible => impossible
  · rintro done entry rest current split ⟨removableNow, stored⟩
    have member : entry ∈ world.store.cache.entries := by simp [split]
    have fresh : entry.1 ∉ done.map Sigma.fst := by
      have nodup := world.store.cache.nodupKeys
      rw [List.NodupKeys, List.keys, split, List.map_append, List.map_cons] at nodup
      exact fun walked => List.disjoint_of_nodup_append nodup walked (by simp)
    have storedHere (id : Id) : current.stored (entry.1, id) =
        entry.2.objs.lookup id := by
      rw [stored, if_neg fresh, ← World.cacheOf_of_mem member]
      rfl
    have ids : (entry.2.objs.entries.map Sigma.snd).map Object.id =
        entry.2.objs.keys := by
      rw [List.map_map, AList.keys, List.keys]
      refine List.map_congr_left fun cached listed => ?_
      have found := storedHere cached.1
      rw [AList.mem_lookup_iff.mpr listed] at found
      exact congrArg Prod.snd (removableNow.keyed _ _ found)
    have present : ∀ object ∈ entry.2.objs.entries.map Sigma.snd,
        (current.stored (entry.1, object.id)).isSome := by
      intro object listed
      have listedId : object.id ∈ entry.2.objs.keys :=
        ids ▸ List.mem_map_of_mem listed
      rcases (Dict.mem_keys_iff _ _).mp listedId with ⟨found, lookup⟩
      simp [storedHere, lookup]
    refine (clearCache_returns entry.1 _ (ids ▸ entry.2.objs.keys_nodup)
      removableNow present).mono ?_ fun _ _ impossible => impossible
    rintro _ after ⟨removableAfter, storedAfter⟩
    refine ⟨removableAfter, ?_⟩
    rintro ⟨model, id⟩
    rw [storedAfter, ids]
    by_cases here : model = entry.1
    · subst here
      rw [storedHere]
      by_cases listed : id ∈ entry.2.objs.keys
      · simp [listed]
      · simp [listed, AList.lookup_eq_none.mpr listed]
    · have walked : model ∈ (done ++ [entry]).map Sigma.fst ↔
          model ∈ done.map Sigma.fst := by simp [here]
      simp only [here, false_and, if_false, stored, walked]
  · rintro _ after ⟨_, stored⟩ key
    rw [stored]
    split
    · rfl
    · next other =>
        cases found : world.stored key with
        | none => rfl
        | some object =>
            rcases World.exists_entry_of_stored found with ⟨entry, member, same, _⟩
            exact absurd (List.mem_map.mpr ⟨entry, member, same⟩) other

theorem clear_returns {world : World α} (removable : world.Removable) :
    Leads (clear : Action α Unit) world
      (fun _ after => ∃ middle : World α, (∀ key, middle.stored key = none) ∧
        after = forgetCaches middle)
      (fun _ _ => False) := by
  unfold clear
  rw [leads_bind, leads_get]
  refine (clear_loops_return removable).bind ?_
  intro _ middle removed
  exact ⟨middle, removed, rfl⟩

end DbStore

theorem Call.run_removable (order : SetOrder) (call : Call α) :
    Maintains World.Removable World.Removable (call.run order) := by
  by_cases kind : call = .clear
  · subst kind
    intro world removable
    refine ((DbStore.clear_returns removable).mono (fun _ _ holds => holds)
      fun _ _ impossible => impossible.elim).bind ?_
    rintro _ after ⟨middle, _, rfl⟩
    exact World.removable_of_empty fun _ => rfl
  · exact World.removable_invariant.call order call kind

end Dragonflow
