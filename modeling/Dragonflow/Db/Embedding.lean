import Mathlib.Data.List.Dedup
import Dragonflow.Foundation.Ownership
import Dragonflow.Db.Models
import Dragonflow.Db.Removal

/-! # Embedded objects live as long as something embeds them

`DbStore` counts by whom an object is embedded. The counts are exact as long as
no object embeds itself, directly or through others: a rank of the keys that
falls from an object to what it embeds.
-/

namespace Dragonflow

open Program

variable {α : Type} [DecidableEq α]

namespace World

/-- A stored object owns the objects that it embeds. -/
def ownership (world : World α) : Ownership ObjectKey where
  contents key := (world.stored key).map Object.embeddedKeys
  owns := world.embeddedOf
  owners := world.refsOf

/-- The worlds agree on everything about these keys. -/
structure SameOn (keys : ObjectKey → Prop) (before after : World α) : Prop where
  stored : ∀ key, keys key → after.stored key = before.stored key
  embedded : ∀ key, keys key → after.embeddedOf key = before.embeddedOf key
  refs : ∀ key, keys key → after.store.embeddedRefs.lookup key =
    before.store.embeddedRefs.lookup key

omit [DecidableEq α]

theorem SameOn.refl (keys : ObjectKey → Prop) (world : World α) :
    SameOn keys world world :=
  ⟨fun _ _ => rfl, fun _ _ => rfl, fun _ _ => rfl⟩

theorem SameOn.trans {keys : ObjectKey → Prop} {first second third : World α}
    (left : SameOn keys first second) (right : SameOn keys second third) :
    SameOn keys first third :=
  ⟨fun key holds => (right.stored key holds).trans (left.stored key holds),
    fun key holds => (right.embedded key holds).trans (left.embedded key holds),
    fun key holds => (right.refs key holds).trans (left.refs key holds)⟩

theorem SameOn.mono {keys fewer : ObjectKey → Prop} {before after : World α}
    (same : SameOn keys before after) (implies : ∀ key, fewer key → keys key) :
    SameOn fewer before after :=
  ⟨fun key holds => same.stored key (implies key holds),
    fun key holds => same.embedded key (implies key holds),
    fun key holds => same.refs key (implies key holds)⟩

theorem SameOn.refsOf {keys : ObjectKey → Prop} {before after : World α}
    (same : SameOn keys before after) {key : ObjectKey} (holds : keys key) :
    after.refsOf key = before.refsOf key := by
  unfold World.refsOf Dict.members
  rw [same.refs key holds]

theorem SameOn.of_alike (keys : ObjectKey → Prop) {before after : World α}
    (alike : Alike before after) : SameOn keys before after where
  stored key _ := alike.stored key
  embedded key _ := by
    unfold World.embeddedOf
    rw [alike.objToEmbedded]
  refs key _ := by rw [alike.embeddedRefs]

/-! ## Writing the maps -/

theorem ownership_alike {before after : World α} (alike : Alike before after) :
    after.ownership = before.ownership := by
  unfold ownership embeddedOf refsOf
  simp only [alike.stored, alike.objToEmbedded, alike.embeddedRefs]

theorem ownership_insertEmbedded (world : World α) (key : ObjectKey)
    (list : List ObjectKey) :
    (world.setEmbedded (world.store.objToEmbedded.insert key list)).ownership =
      { world.ownership with
        owns := Function.update world.ownership.owns key list } := by
  refine Ownership.ext rfl (funext fun other => ?_) rfl
  exact (Dict.members_insert _ _ _ _).trans (Function.update_apply ..).symm

theorem ownership_eraseEmbedded (world : World α) (key : ObjectKey) :
    (world.setEmbedded (world.store.objToEmbedded.erase key)).ownership =
      { world.ownership with
        owns := Function.update world.ownership.owns key [] } := by
  refine Ownership.ext rfl (funext fun other => ?_) rfl
  exact (Dict.members_erase _ _ _).trans (Function.update_apply ..).symm

theorem ownership_insertRefs (world : World α) (key : ObjectKey)
    (list : List ObjectKey) :
    (world.setRefs (world.store.embeddedRefs.insert key list)).ownership =
      { world.ownership with
        owners := Function.update world.ownership.owners key list } := by
  refine Ownership.ext rfl rfl (funext fun other => ?_)
  exact (Dict.members_insert _ _ _ _).trans (Function.update_apply ..).symm

theorem ownership_eraseRefs (world : World α) {key : ObjectKey}
    (empty : world.refsOf key = []) :
    (world.setRefs (world.store.embeddedRefs.erase key)).ownership =
      world.ownership := by
  refine Ownership.ext rfl rfl (funext fun other => ?_)
  refine (Dict.members_erase _ _ _).trans ?_
  split
  · next here => rw [here, ← empty]; rfl
  · rfl

end World

/-! ## Deleting -/

section Linked

variable (rank : ObjectKey → Nat) (direct : ObjectKey → Prop)

/-- An embedded object ranks below what embeds it, and is not handled
directly. -/
def Below (embedded owner : ObjectKey) : Prop :=
  rank embedded < rank owner ∧ ¬ direct embedded

structure World.Linked (pending : Ownership.Pending ObjectKey)
    (free : ObjectKey → Prop) (world : World α) : Prop where
  removable : world.Removable
  counted : world.ownership.Exact (Below rank direct) pending free

/-- What a function that deletes an object without owners has to do: remove it,
together with what it alone embeds, and touch nothing else of its rank or
higher. -/
def Deletes (sized : Nat → Prop) (delete : ObjectKey → Action α Unit) : Prop :=
  ∀ (key : ObjectKey) (pending : Ownership.Pending ObjectKey)
    (free : ObjectKey → Prop) (world : World α),
    sized world.embeddingSize →
    world.Linked rank direct pending (fun other => free other ∨ other = key) →
    world.refsOf key = [] → (world.stored key).isSome →
    (∀ other, pending other ≠ none → rank key < rank other) →
    Leads (delete key) world
      (fun _ after => after.Linked rank direct pending free ∧
        World.SameOn (fun other => rank key ≤ rank other ∧ other ≠ key)
          world after ∧
        after.store.embeddedRefs.lookup key =
          world.store.embeddedRefs.lookup key ∧
        after.embeddingSize ≤ world.embeddingSize)
      (fun _ _ => False)

variable {rank direct}

omit [DecidableEq α] in
theorem World.Linked.alike {pending : Ownership.Pending ObjectKey}
    {free : ObjectKey → Prop} {before after : World α}
    (linked : before.Linked rank direct pending free)
    (alike : World.Alike before after) :
    after.Linked rank direct pending free where
  removable := linked.removable.congr alike.stored (World.recordedKeys_alike alike)
  counted := by
    rw [World.ownership_alike alike]
    exact linked.counted

omit [DecidableEq α] in
theorem deleteEmbeddedWith_linked {sized : Nat → Prop}
    {delete : ObjectKey → Action α Unit} (deletes : Deletes rank direct sized delete)
    {owner embedded : ObjectKey} {pending : Ownership.Pending ObjectKey}
    {free : ObjectKey → Prop} {world : World α} {list : List ObjectKey}
    (linked : world.Linked rank direct pending free)
    (given : pending owner = some list) (member : embedded ∈ list)
    (lowest : ∀ other, pending other ≠ none → rank owner ≤ rank other)
    (size : sized world.embeddingSize) :
    Leads (DbStore.deleteEmbeddedWith delete owner embedded) world
      (fun _ after => after.Linked rank direct
          (Function.update pending owner (some (list.filter (· ≠ embedded))))
          free ∧
        World.SameOn (fun other => rank embedded < rank other) world after ∧
        after.embeddingSize ≤ world.embeddingSize)
      (fun _ _ => False) := by
  have edge : embedded ∈ world.ownership.edges pending owner := by
    simp [Ownership.edges, given, member]
  have lower := (linked.counted.lower owner embedded edge).1
  have referred : owner ∈ world.refsOf embedded :=
    (linked.counted.owners owner embedded).mpr edge
  have stored : (world.stored embedded).isSome := by
    have live := linked.counted.live embedded (List.ne_nil_of_mem referred)
    simpa [World.ownership] using live
  let refs := (world.refsOf embedded).filter (· ≠ owner)
  let discarded := world.setRefs (world.store.embeddedRefs.insert embedded refs)
  have removable : discarded.Removable :=
    linked.removable.congr (fun _ => rfl) rfl
  have counted : discarded.ownership.Exact (Below rank direct)
      (Function.update pending owner (some (list.filter (· ≠ embedded))))
      (fun key => free key ∨ key = embedded ∧ refs = []) := by
    rw [World.ownership_insertRefs]
    exact linked.counted.discard given
  have same : World.SameOn (fun other => rank embedded < rank other)
      world discarded := by
    refine ⟨fun _ _ => rfl, fun _ _ => rfl, fun key higher => ?_⟩
    refine (Dict.lookup_insert_eq _ _ _ _).trans (if_neg ?_)
    rintro rfl
    exact Nat.lt_irrefl _ higher
  unfold DbStore.deleteEmbeddedWith
  simp only [leads_bind, leads_get, leads_set]
  split
  · next empty =>
      have linkedDiscarded : discarded.Linked rank direct
          (Function.update pending owner (some (list.filter (· ≠ embedded))))
          (fun other => free other ∨ other = embedded) :=
        ⟨removable, counted.weaken fun _ holds => holds.imp_right And.left⟩
      have lookup : discarded.store.embeddedRefs.lookup embedded = some [] := by
        refine (Dict.lookup_insert_eq _ _ _ _).trans ?_
        rw [if_pos rfl]
        exact congrArg some empty
      have unowned : discarded.refsOf embedded = [] := by
        unfold World.refsOf Dict.members
        rw [lookup]
        rfl
      have lowestEmbedded : ∀ other,
          Function.update pending owner (some (list.filter (· ≠ embedded))) other ≠
            none → rank embedded < rank other := by
        intro other busy
        by_cases here : other = owner
        · exact here ▸ lower
        · rw [Function.update_of_ne here] at busy
          exact Nat.lt_of_lt_of_le lower (lowest other busy)
      refine (deletes embedded _ free discarded size linkedDiscarded unowned stored
        lowestEmbedded).bind ?_
      rintro _ after ⟨linkedAfter, sameAfter, sameLookup, smaller⟩
      rw [leads_bind, leads_get, sameLookup, lookup]
      have unownedAfter : after.refsOf embedded = [] := by
        unfold World.refsOf Dict.members
        rw [sameLookup, lookup]
        rfl
      refine ⟨⟨linkedAfter.removable.congr (fun _ => rfl) rfl, ?_⟩, ?_, smaller⟩
      · rw [World.ownership_eraseRefs after unownedAfter]
        exact linkedAfter.counted
      · have sameHigher := same.trans (sameAfter.mono fun key higher =>
          ⟨Nat.le_of_lt higher, fun here => Nat.lt_irrefl _ (here ▸ higher)⟩)
        refine ⟨sameHigher.stored, sameHigher.embedded, fun key higher => ?_⟩
        refine Eq.trans ?_ (sameHigher.refs key higher)
        refine (Dict.lookup_erase_eq _ _ _).trans (if_neg ?_)
        rintro rfl
        exact Nat.lt_irrefl _ higher
  · next more =>
      refine ⟨⟨removable, counted.weaken ?_⟩, same, Nat.le_refl _⟩
      rintro key (isFree | ⟨_, empty⟩)
      · exact isFree
      · exact absurd empty more

omit [DecidableEq α] in
/-- The embedded objects of a pending key are given up one by one. -/
theorem deleteEmbedded_loop {sized : Nat → Prop}
    (shrinks : ∀ size smaller, smaller ≤ size → sized size → sized smaller)
    {delete : ObjectKey → Action α Unit} (deletes : Deletes rank direct sized delete)
    {owner : ObjectKey} {pending : Ownership.Pending ObjectKey}
    {free : ObjectKey → Prop} {world : World α} {list items : List ObjectKey}
    (linked : world.Linked rank direct pending free)
    (given : pending owner = some list) (distinct : items.Nodup)
    (members : ∀ item ∈ items, item ∈ list)
    (lowest : ∀ other, pending other ≠ none → rank owner ≤ rank other)
    (size : items ≠ [] → sized world.embeddingSize) :
    Leads (forM items (DbStore.deleteEmbeddedWith delete owner)) world
      (fun _ after => after.Linked rank direct
          (Function.update pending owner (some (list.filter (· ∉ items)))) free ∧
        World.SameOn (fun other => rank owner ≤ rank other) world after ∧
        after.embeddingSize ≤ world.embeddingSize)
      (fun _ _ => False) := by
  refine Leads.loop (fun done (current : World α) =>
    current.Linked rank direct
      (Function.update pending owner (some (list.filter (· ∉ done)))) free ∧
    World.SameOn (fun other => rank owner ≤ rank other) world current ∧
    current.embeddingSize ≤ world.embeddingSize) items ?_ ?_
  · rintro done embedded rest current split ⟨linkedNow, sameNow, smaller⟩
    have fresh : embedded ∉ done := by
      rw [split] at distinct
      exact fun member => List.disjoint_of_nodup_append distinct member (by simp)
    have remaining : embedded ∈ list.filter (· ∉ done) := by
      simp [fresh, members embedded (by simp [split])]
    have lowestNow : ∀ other,
        Function.update pending owner (some (list.filter (· ∉ done))) other ≠ none →
          rank owner ≤ rank other := by
      intro other busy
      by_cases here : other = owner
      · exact here ▸ Nat.le_refl _
      · rw [Function.update_of_ne here] at busy
        exact lowest other busy
    have lower : rank embedded < rank owner := by
      refine (linkedNow.counted.lower owner embedded ?_).1
      rw [Ownership.edges_update, if_pos rfl]
      exact remaining
    refine (deleteEmbeddedWith_linked deletes linkedNow (Function.update_self ..)
      remaining lowestNow (shrinks _ _ smaller (size (by simp [split])))).mono ?_
      fun _ _ impossible => impossible
    rintro _ after ⟨linkedAfter, sameAfter, smallerAfter⟩
    refine ⟨?_, sameNow.trans (sameAfter.mono fun _ higher =>
      Nat.lt_of_lt_of_le lower higher), smallerAfter.trans smaller⟩
    rw [Function.update_idem, List.filter_filter] at linkedAfter
    have sameFilter : (list.filter fun other =>
        decide (other ≠ embedded) && decide (other ∉ done)) =
          list.filter (· ∉ done ++ [embedded]) := by
      refine List.filter_congr fun other _ => ?_
      simp [not_or, and_comm]
    rwa [sameFilter] at linkedAfter
  · have self : Function.update pending owner (some list) = pending := by
      rw [← given, Function.update_eq_self]
    refine ⟨?_, World.SameOn.refl _ world, Nat.le_refl _⟩
    simpa [self] using linked

omit [DecidableEq α] in
theorem ownership_dropObject {world middle : World α} {key : ObjectKey}
    {old : Object α} (reindexed : World.Reindexed world middle) :
    (middle.dropObject key old).ownership =
      { world.ownership with
        contents := Function.update world.ownership.contents key none } := by
  refine Ownership.ext (funext fun other => ?_) (funext fun other => ?_)
    (funext fun other => ?_)
  · simp only [World.ownership, Function.update_apply, World.stored_dropObject,
      reindexed.stored]
    split <;> rfl
  · exact congrArg (fun dict => Dict.members dict other) reindexed.objToEmbedded
  · exact congrArg (fun dict => Dict.members dict other) reindexed.embeddedRefs

/-- Removing a pending object that owns nothing any more. -/
theorem delete_linked {pending : Ownership.Pending ObjectKey}
    {free : ObjectKey → Prop} {key : ObjectKey} {world : World α}
    (linked : world.Linked rank direct pending
      (fun other => free other ∨ other = key))
    (given : pending key = some []) (nothing : world.embeddedOf key = [])
    (unowned : world.refsOf key = []) (found : (world.stored key).isSome) :
    Leads (ModelCache.delete key) world
      (fun _ after => after.Linked rank direct (Function.update pending key none)
          free ∧
        World.SameOn (fun other => other ≠ key) world after ∧
        after.store.embeddedRefs = world.store.embeddedRefs ∧
        after.embeddingSize = world.embeddingSize)
      (fun _ _ => False) := by
  refine (((ModelCache.delete_leads key world).and
    (ModelCache.delete_removable key world linked.removable)).and
    (ModelCache.delete_returns linked.removable found)).mono ?_
    fun _ _ impossible => impossible.2
  rintro _ after ⟨⟨⟨middle, old, reindexed, _, rfl⟩, removable⟩, _⟩
  refine ⟨⟨removable, ?_⟩, ⟨?_, ?_, ?_⟩, reindexed.embeddedRefs, ?_⟩
  · rw [ownership_dropObject reindexed]
    exact linked.counted.remove given nothing unowned fun _ holds => holds
  · intro other different
    rw [World.stored_dropObject, if_neg different, reindexed.stored]
  · intro other _
    exact congrArg (fun dict => Dict.members dict other) reindexed.objToEmbedded
  · intro other _
    exact congrArg (fun dict => AList.lookup other dict) reindexed.embeddedRefs
  · exact congrArg (fun dict => dict.entries.length) reindexed.objToEmbedded

theorem deleteWithin_deletes (order : SetOrder) (fuel : Nat) :
    Deletes rank direct (· < fuel)
      (DbStore.deleteWithin order fuel : ObjectKey → Action α Unit) := by
  induction fuel with
  | zero =>
      intro key pending free world size
      exact absurd size (Nat.not_lt_zero _)
  | succ fuel induction =>
      intro key pending free world size linked unowned found lowest
      have idle : pending key = none := by
        by_contra busy
        exact Nat.lt_irrefl _ (lowest key busy)
      let erased := world.setEmbedded (world.store.objToEmbedded.erase key)
      let begun := Function.update pending key (some (world.embeddedOf key))
      have busyKey : begun key ≠ none := by simp [begun]
      have linkedErased : erased.Linked rank direct begun
          (fun other => free other ∨ other = key) := by
        refine ⟨linked.removable.congr (fun _ => rfl) rfl, ?_⟩
        rw [World.ownership_eraseEmbedded]
        exact (linked.counted.start idle).record busyKey List.nodup_nil
      have lowestBegun : ∀ other, begun other ≠ none →
          rank key ≤ rank other := by
        intro other busy
        by_cases here : other = key
        · exact here ▸ Nat.le_refl _
        · rw [show begun other = pending other from
            Function.update_of_ne here ..] at busy
          exact Nat.le_of_lt (lowest other busy)
      have perm := order.perm (world.embeddedOf key)
      -- Only an object that embeds something needs recursive calls.
      have sizeErased : order.walk (world.embeddedOf key) ≠ [] →
          erased.embeddingSize < fuel := by
        intro some
        rcases List.exists_mem_of_ne_nil _ some with ⟨embedded, member⟩
        rcases Dict.lookup_of_mem_members (perm.mem_iff.mp member) with ⟨_, entry⟩
        exact Nat.lt_of_lt_of_le (Dict.length_erase_lt entry)
          (Nat.le_of_lt_succ size)
      unfold DbStore.deleteWithin
      rw [leads_bind, leads_get, leads_bind, leads_set]
      refine (deleteEmbedded_loop (fun _ _ less bounded =>
        Nat.lt_of_le_of_lt less bounded) induction linkedErased
        (Function.update_self ..) (perm.nodup_iff.mpr (linked.counted.nodup key))
        (fun _ member => perm.mem_iff.mp member) lowestBegun sizeErased).bind ?_
      rintro _ looped ⟨linkedLooped, sameLooped, smallerLooped⟩
      have emptied : Function.update begun key (some
          ((world.embeddedOf key).filter
            (· ∉ order.walk (world.embeddedOf key)))) =
            Function.update pending key (some []) := by
        rw [show (world.embeddedOf key).filter
            (· ∉ order.walk (world.embeddedOf key)) = [] from
          List.filter_eq_nil_iff.mpr fun other member => by
            simp [perm.mem_iff, member]]
        exact Function.update_idem ..
      rw [emptied] at linkedLooped
      refine (getCache_leads key.1 looped).bind ?_
      intro _ created alike
      have same : World.SameOn (fun other => rank key ≤ rank other)
          erased created :=
        sameLooped.trans (World.SameOn.of_alike _ alike)
      have nothing : created.embeddedOf key = [] := by
        rw [same.embedded key (Nat.le_refl _)]
        exact (Dict.members_erase _ _ _).trans (if_pos rfl)
      have unownedNow : created.refsOf key = [] := by
        rw [same.refsOf (Nat.le_refl _)]
        exact unowned
      have foundNow : (created.stored key).isSome := by
        rw [same.stored key (Nat.le_refl _)]
        exact found
      refine (delete_linked (linkedLooped.alike alike) (Function.update_self ..)
        nothing unownedNow foundNow).mono ?_ fun _ _ impossible => impossible
      rintro _ after ⟨linkedAfter, sameAfter, sameRefs, sameSize⟩
      have restored : Function.update (Function.update pending key (some [])) key
          none = pending := by
        rw [Function.update_idem, ← idle, Function.update_eq_self]
      rw [restored] at linkedAfter
      refine ⟨linkedAfter, ⟨?_, ?_, ?_⟩, ?_, ?_⟩
      · rintro other ⟨higher, different⟩
        rw [sameAfter.stored other different, same.stored other higher]
        rfl
      · rintro other ⟨higher, different⟩
        rw [sameAfter.embedded other different, same.embedded other higher]
        exact (Dict.members_erase _ _ _).trans (if_neg different)
      · rintro other ⟨higher, different⟩
        rw [sameAfter.refs other different, same.refs other higher]
        rfl
      · rw [sameRefs, same.refs key (Nat.le_refl _)]
        rfl
      · have erasedSmaller : erased.embeddingSize ≤ world.embeddingSize :=
          Dict.length_erase_le _ key
        have createdSize : created.embeddingSize = looped.embeddingSize := by
          unfold World.embeddingSize
          rw [alike.objToEmbedded]
        omega

theorem deleteKey_deletes (order : SetOrder) :
    Deletes rank direct (fun _ => True)
      (DbStore.deleteKey order : ObjectKey → Action α Unit) :=
  fun key pending free world _ linked unowned found lowest =>
    deleteWithin_deletes order (world.embeddingSize + 1) key pending free world
      (Nat.lt_succ_self _) linked unowned found lowest

/-! ## Updating -/

variable (rank direct) in
/-- Everything that an object embeds, at any depth, ranks below its owner. -/
inductive Object.Nested : Object α → Prop
  | intro {object : Object α}
      (below : ∀ embedded ∈ object.iterateEmbeddedModelInstances,
        Below rank direct embedded.key object.key)
      (deep : ∀ embedded ∈ object.iterateEmbeddedModelInstances,
        Nested embedded) : Nested object

omit [DecidableEq α] in
theorem Object.height_pos (object : Object α) : 0 < object.height := by
  cases object
  exact Nat.succ_pos _

/-- Storing an object starts the change of what it owns. -/
theorem update_linked {pending : Ownership.Pending ObjectKey}
    {free : ObjectKey → Prop} {world : World α} (object : Object α)
    (linked : world.Linked rank direct pending free)
    (idle : pending object.key = none) :
    Leads (ModelCache.update object) world
      (fun _ after => after.Linked rank direct
          (Function.update pending object.key
            (some (world.embeddedOf object.key)))
          (fun other => free other ∨ other = object.key) ∧
        after.stored object.key = some object ∧
        World.SameOn (fun other => other ≠ object.key) world after ∧
        after.store.objToEmbedded = world.store.objToEmbedded ∧
        after.store.embeddedRefs = world.store.embeddedRefs)
      (fun error _ => error ∈ PyError.readErrors) := by
  refine ((ModelCache.update_leads object world).and
    (ModelCache.update_removable object world linked.removable)).mono ?_
    fun _ _ failed => failed.1.2
  rintro _ after ⟨⟨middle, reindexed, rfl⟩, removable⟩
  have sameEmbedded : (middle.storeObject object).store.objToEmbedded =
      world.store.objToEmbedded := by
    rw [World.objToEmbedded_storeObject]
    exact reindexed.objToEmbedded
  have sameRefs : (middle.storeObject object).store.embeddedRefs =
      world.store.embeddedRefs := by
    rw [World.embeddedRefs_storeObject]
    exact reindexed.embeddedRefs
  have stored (key : ObjectKey) : (middle.storeObject object).stored key =
      if key = object.key then some object else world.stored key := by
    rw [World.stored_storeObject, reindexed.stored]
    rfl
  have ownership : (middle.storeObject object).ownership =
      { world.ownership with
        contents := Function.update world.ownership.contents object.key
          (some object.embeddedKeys) } := by
    refine Ownership.ext (funext fun other => ?_)
      (funext fun other => congrArg (fun dict => Dict.members dict other)
        sameEmbedded)
      (funext fun other => congrArg (fun dict => Dict.members dict other) sameRefs)
    simp only [World.ownership, Function.update_apply, stored]
    split <;> rfl
  refine ⟨⟨removable, ?_⟩, ?_, ⟨?_, ?_, ?_⟩, sameEmbedded, sameRefs⟩
  · rw [ownership]
    exact (linked.counted.start idle).declare (by simp) object.embeddedKeys
  · rw [stored, if_pos rfl]
  · intro other different
    rw [stored, if_neg different]
  · intro other _
    exact congrArg (fun dict => Dict.members dict other) sameEmbedded
  · intro other _
    exact congrArg (fun dict => AList.lookup other dict) sameRefs

omit [DecidableEq α] in
theorem addRef_linked {pending : Ownership.Pending ObjectKey}
    {free kept : ObjectKey → Prop} {world : World α} {owner embedded : ObjectKey}
    {list : List ObjectKey} (linked : world.Linked rank direct pending free)
    (given : pending owner = some list) (lower : Below rank direct embedded owner)
    (found : (world.stored embedded).isSome)
    (implies : ∀ key, free key → kept key ∨ key = embedded) :
    Leads (DbStore.addRef owner embedded) world
      (fun _ after => after.Linked rank direct
          (Function.update pending owner (some (embedded :: list))) kept ∧
        World.SameOn (fun other => rank owner ≤ rank other) world after)
      (fun _ _ => False) := by
  refine ⟨⟨linked.removable.congr (fun _ => rfl) rfl, ?_⟩,
    fun _ _ => rfl, fun _ _ => rfl, fun other higher => ?_⟩
  · rw [World.ownership_insertRefs]
    exact linked.counted.add given lower (by simpa [World.ownership] using found)
      (fun _ => List.mem_insert_iff) implies
  · refine (Dict.lookup_insert_eq _ _ _ _).trans (if_neg ?_)
    rintro rfl
    exact absurd lower.1 (Nat.not_lt.mpr higher)

/-- Once all embedded objects are updated, the ones that are left over from the
previous version are given up, and the change is complete. -/
theorem dropEmbedded_linked (order : SetOrder)
    {pending : Ownership.Pending ObjectKey} {free : ObjectKey → Prop}
    {world : World α} {object : Object α} {list : List ObjectKey}
    (linked : world.Linked rank direct pending free)
    (given : pending object.key = some list)
    (members : ∀ key, key ∈ list ↔
      key ∈ world.embeddedOf object.key ∨ key ∈ object.embeddedKeys)
    (stored : world.stored object.key = some object)
    (lowest : ∀ other, pending other ≠ none → rank object.key ≤ rank other) :
    Leads (DbStore.dropEmbedded order object) world
      (fun _ after => after.Linked rank direct
          (Function.update pending object.key none) free ∧
        after.stored object.key = some object ∧
        World.SameOn (fun other => rank object.key ≤ rank other ∧
          other ≠ object.key) world after ∧
        after.store.embeddedRefs.lookup object.key =
          world.store.embeddedRefs.lookup object.key)
      (fun _ _ => False) := by
  have busy : pending object.key ≠ none := by simp [given]
  let old := world.embeddedOf object.key
  let new := object.embeddedKeys.dedup
  let read := world.setEmbedded (world.store.objToEmbedded.insert object.key old)
  have linkedRead : read.Linked rank direct pending free := by
    refine ⟨linked.removable.congr (fun _ => rfl) rfl, ?_⟩
    rw [World.ownership_insertEmbedded]
    exact linked.counted.record busy (linked.counted.nodup object.key)
  have perm := order.perm (old.filter (· ∉ new))
  have dropped (key : ObjectKey) :
      key ∈ order.walk (old.filter (· ∉ new)) ↔ key ∈ old ∧ key ∉ new := by
    rw [perm.mem_iff, List.mem_filter, decide_eq_true_eq]
  unfold DbStore.dropEmbedded
  rw [leads_bind, leads_get, leads_bind, leads_set]
  refine (deleteEmbedded_loop (fun _ _ _ _ => trivial) (deleteKey_deletes order)
    linkedRead given
    (perm.nodup_iff.mpr ((linked.counted.nodup object.key).filter _))
    (fun key member => (members key).mpr (Or.inl ((dropped key).mp member).1))
    lowest fun _ => trivial).bind ?_
  rintro _ looped ⟨linkedLooped, same, _⟩
  rw [leads_modify]
  have storedLooped : looped.stored object.key = some object := by
    rw [same.stored object.key (Nat.le_refl _)]
    exact stored
  refine ⟨⟨linkedLooped.removable.congr (fun _ => rfl) rfl, ?_⟩, storedLooped,
    ⟨?_, ?_, ?_⟩, ?_⟩
  · rw [World.ownership_insertEmbedded]
    have recorded := linkedLooped.counted.record
      (by simp : Function.update pending object.key _ object.key ≠ none)
      (List.nodup_dedup object.embeddedKeys)
    have remaining (key : ObjectKey) :
        key ∈ list.filter (· ∉ order.walk (old.filter (· ∉ new))) ↔
          key ∈ object.embeddedKeys := by
      rw [List.mem_filter, decide_eq_true_eq, members, dropped, List.mem_dedup]
      tauto
    have settled := recorded.settle (Function.update_self ..)
      (fun key => by
        rw [remaining]
        simp)
      (show _ = some object.embeddedKeys by
        simp [World.ownership, storedLooped])
      remaining
    rwa [Function.update_idem] at settled
  · rintro other ⟨higher, _⟩
    exact same.stored other higher
  · rintro other ⟨higher, different⟩
    refine (Dict.members_insert _ _ _ _).trans ((if_neg different).trans ?_)
    refine (same.embedded other higher).trans ?_
    exact (Dict.members_insert _ _ _ _).trans (if_neg different)
  · rintro other ⟨higher, _⟩
    exact same.refs other higher
  · exact same.refs object.key (Nat.le_refl _)

/-- Updating an object of any height either fails to compute a key, or leaves
exact counts and nothing else of its rank or higher changed. -/
theorem updateWithin_linked (order : SetOrder) (fuel : Nat) (object : Object α)
    (tall : object.height ≤ fuel) (nested : object.Nested rank direct)
    {pending : Ownership.Pending ObjectKey} {free : ObjectKey → Prop}
    {world : World α} (linked : world.Linked rank direct pending free)
    (lowest : ∀ other, pending other ≠ none → rank object.key < rank other) :
    Leads (DbStore.updateWithin order fuel object) world
      (fun _ after => after.Linked rank direct pending
          (fun other => free other ∨ other = object.key) ∧
        after.stored object.key = some object ∧
        World.SameOn (fun other => rank object.key ≤ rank other ∧
          other ≠ object.key) world after ∧
        after.store.embeddedRefs.lookup object.key =
          world.store.embeddedRefs.lookup object.key)
      (fun error _ => error ∈ PyError.readErrors) := by
  induction fuel generalizing object pending free world with
  | zero => exact absurd object.height_pos (by omega)
  | succ fuel induction =>
      rcases nested with ⟨below, deep⟩
      have idle : pending object.key = none := by
        by_contra busy
        exact Nat.lt_irrefl _ (lowest object.key busy)
      have lowestBusy (list : List ObjectKey) (other : ObjectKey)
          (busy : Function.update pending object.key (some list) other ≠ none) :
          rank object.key ≤ rank other := by
        by_cases here : other = object.key
        · exact here ▸ Nat.le_refl _
        · rw [Function.update_of_ne here] at busy
          exact Nat.le_of_lt (lowest other busy)
      refine (getCache_leads object.model world).returning.bind ?_
      intro _ created alike
      refine (update_linked object (linked.alike alike) idle).bind ?_
      rintro _ updated ⟨linkedUpdated, storedUpdated, sameUpdated, sameEmbedded,
        sameRefs⟩
      -- Every embedded object walked so far is owned besides the old ones.
      let progress (done : List (Object α)) (current : World α) : Prop :=
        ∃ list, current.Linked rank direct
            (Function.update pending object.key (some list))
            (fun other => free other ∨ other = object.key) ∧
          (∀ key, key ∈ list ↔ key ∈ created.embeddedOf object.key ∨
            key ∈ done.map Object.key) ∧
          World.SameOn (fun other => rank object.key ≤ rank other)
            updated current
      refine (Leads.loop progress _ ?_ ⟨_, linkedUpdated, by simp,
        World.SameOn.refl _ updated⟩).bind ?_
      · rintro done embedded rest current split ⟨list, linkedNow, members, same⟩
        have member : embedded ∈ object.iterateEmbeddedModelInstances := by
          simp [split]
        have lower := below embedded member
        refine (induction embedded
          (Nat.le_of_lt_succ (Nat.lt_of_lt_of_le (object.height_lt_of_mem member)
            tall)) (deep embedded member) linkedNow fun other busy =>
            Nat.lt_of_lt_of_le lower.1 (lowestBusy list other busy)).bind ?_
        rintro _ nestedAfter ⟨linkedNested, storedNested, sameNested, _⟩
        refine (addRef_linked linkedNested (Function.update_self ..) lower
          (by simp [storedNested]) fun _ holds => holds).returning.mono ?_
          fun _ _ raised => raised
        rintro _ after ⟨linkedAfter, sameAfter⟩
        rw [Function.update_idem] at linkedAfter
        refine ⟨_, linkedAfter, fun key => ?_, same.trans
          ((sameNested.mono fun other higher => ⟨?_, ?_⟩).trans sameAfter)⟩
        · rw [List.mem_cons, members, List.map_append, List.mem_append]
          simp only [List.map_cons, List.map_nil, List.mem_singleton]
          tauto
        · exact Nat.le_of_lt (Nat.lt_of_lt_of_le lower.1 higher)
        · rintro rfl
          exact absurd lower.1 (Nat.not_lt.mpr higher)
      · rintro _ walked ⟨list, linkedWalked, members, same⟩
        have embeddedSame : walked.embeddedOf object.key =
            created.embeddedOf object.key := by
          rw [same.embedded object.key (Nat.le_refl _)]
          exact congrArg (fun dict => Dict.members dict object.key) sameEmbedded
        refine (dropEmbedded_linked order linkedWalked (Function.update_self ..)
          (by rw [embeddedSame]; exact members)
          (by rw [same.stored object.key (Nat.le_refl _), storedUpdated])
          (lowestBusy list)).returning.mono ?_ fun _ _ raised => raised
        rintro _ after ⟨linkedAfter, storedAfter, sameAfter, lookupAfter⟩
        rw [Function.update_idem, ← idle, Function.update_eq_self] at linkedAfter
        refine ⟨linkedAfter, storedAfter, ?_, ?_⟩
        · refine (World.SameOn.of_alike _ alike).trans
            ((sameUpdated.mono fun _ higher => higher.2).trans
              ((same.mono fun _ higher => higher.1).trans sameAfter))
        · rw [lookupAfter, same.refs object.key (Nat.le_refl _), sameRefs,
            alike.embeddedRefs]

/-! ## Runs -/

/-- The states reached by calls that all returned. Only direct objects are
updated and deleted, and only when they are stored are they deleted. -/
inductive World.Reached (order : SetOrder) (rank : ObjectKey → Nat)
    (direct : ObjectKey → Prop) : World α → Prop
  | initial (stale : Address → Bool) : Reached order rank direct (World.initial stale)
  | update {world after : World α} {object : Object α}
      (reached : Reached order rank direct world) (isDirect : direct object.key)
      (nested : object.Nested rank direct)
      (returned : exec (DbStore.update order object) world = (.ok (), after)) :
      Reached order rank direct after
  | delete {world after : World α} {object : Object α}
      (reached : Reached order rank direct world) (isDirect : direct object.key)
      (found : (world.stored object.key).isSome)
      (returned : exec (DbStore.delete order object) world = (.ok (), after)) :
      Reached order rank direct after

namespace World

variable {order : SetOrder} {world : World α}

/-- Between calls nothing is pending, and only direct objects have no owner. -/
abbrev Balanced (rank : ObjectKey → Nat) (direct : ObjectKey → Prop)
    (world : World α) : Prop :=
  world.Linked rank direct (fun _ => none) direct

theorem Balanced.update_leads (balanced : world.Balanced rank direct)
    {object : Object α} (isDirect : direct object.key)
    (nested : object.Nested rank direct) :
    Leads (DbStore.update order object) world
      (fun _ after => after.Balanced rank direct)
      (fun error _ => error ∈ PyError.readErrors) := by
  refine (updateWithin_linked order object.height object (Nat.le_refl _) nested
    balanced fun _ busy => absurd rfl busy).mono ?_ fun _ _ raised => raised
  rintro _ after ⟨linked, _⟩
  refine ⟨linked.removable, linked.counted.weaken ?_⟩
  rintro key (isFree | rfl)
  · exact isFree
  · exact isDirect

omit [DecidableEq α] in
/-- Nothing embeds a direct object. -/
theorem Balanced.refsOf_direct (balanced : world.Balanced rank direct)
    {key : ObjectKey} (isDirect : direct key) : world.refsOf key = [] := by
  by_contra some
  rcases List.exists_mem_of_ne_nil _ some with ⟨owner, member⟩
  have edge := (balanced.counted.owners owner key).mp member
  exact (balanced.counted.lower owner key edge).2 isDirect

theorem Balanced.delete_leads (balanced : world.Balanced rank direct)
    {object : Object α} (isDirect : direct object.key)
    (found : (world.stored object.key).isSome) :
    Leads (DbStore.delete order object) world
      (fun _ after => after.Balanced rank direct) (fun _ _ => False) := by
  have linked : world.Linked rank direct (fun _ => none)
      (fun other => direct other ∨ other = object.key) :=
    ⟨balanced.removable, balanced.counted.weaken fun _ => Or.inl⟩
  exact (deleteKey_deletes order object.key (fun _ => none) direct world trivial
    linked (balanced.refsOf_direct isDirect) found
    fun _ busy => absurd rfl busy).mono (fun _ _ holds => holds.1)
    fun _ _ impossible => impossible

/-- Updates of direct objects, one after the other. -/
theorem Reached.updates (objects : List (Object α))
    (reached : world.Reached order rank direct)
    (allowed : ∀ object ∈ objects, direct object.key ∧ object.Nested rank direct)
    (returned : ∀ result ∈ (trace (DbStore.update order) objects world).1,
      result.isOk) :
    (trace (DbStore.update order) objects world).2.Reached order rank direct := by
  have step : ∀ object ∈ objects, Maintains
      (fun current : World α => current.Reached order rank direct)
      (fun _ => True) (DbStore.update order object) := by
    intro object member current reachedNow
    rcases allowed object member with ⟨isDirect, nested⟩
    unfold Leads
    rcases executed : exec (DbStore.update order object) current with
      ⟨error | value, after⟩
    · trivial
    · exact .update reachedNow isDirect nested executed
  exact trace_invariant_of_returned objects step world returned reached

theorem Reached.balanced (reached : world.Reached order rank direct) :
    world.Balanced rank direct := by
  induction reached with
  | initial stale =>
      refine ⟨removable_initial stale, ?_⟩
      constructor <;> simp [ownership, embeddedOf, refsOf, World.initial,
        DbStore.new, Ownership.edges, stored, cacheOf, ModelCache.new]
  | update _ isDirect nested returned balanced =>
      exact (balanced.update_leads isDirect nested).of_ok returned
  | delete _ isDirect found returned balanced =>
      exact (balanced.delete_leads isDirect found).of_ok returned

end World

end Linked

/-- In every state reached, an object that is not handled directly is stored iff
some stored object embeds it. An update raises nothing but what computing a key
can raise, and deleting a stored object raises nothing. -/
theorem DbStore.embedded_stored_iff (order : SetOrder) (rank : ObjectKey → Nat)
    (direct : ObjectKey → Prop) (world : World α)
    (reached : world.Reached order rank direct) :
    (∀ key, ¬ direct key → ((world.stored key).isSome ↔
      ∃ owner object, world.stored owner = some object ∧
        key ∈ object.embeddedKeys)) ∧
    (∀ object : Object α, direct object.key → object.Nested rank direct →
      ∀ error, (exec (DbStore.update order object) world).1 = .error error →
        error ∈ PyError.readErrors ∧ error ≠ .keyError) ∧
    ∀ object : Object α, direct object.key → (world.stored object.key).isSome →
      (exec (DbStore.delete order object) world).1 = .ok () := by
  have balanced := reached.balanced
  refine ⟨fun key indirect => ?_, fun object isDirect nested error raised => ?_,
    fun object isDirect found => ?_⟩
  · have counted := balanced.counted.live_iff indirect
    simp only [World.ownership, Option.isSome_map, Option.map_eq_some_iff] at counted
    rw [counted]
    constructor
    · rintro ⟨owner, _, ⟨object, stored, rfl⟩, member⟩
      exact ⟨owner, object, stored, member⟩
    · rintro ⟨owner, object, stored, member⟩
      exact ⟨owner, _, ⟨object, stored, rfl⟩, member⟩
  · have leads : Leads (DbStore.update order object) world
        (fun _ after => after.Balanced rank direct)
        (fun error _ => error ∈ PyError.readErrors) :=
      balanced.update_leads isDirect nested
    have allowed := leads.of_error (Prod.ext raised rfl)
    refine ⟨allowed, ?_⟩
    rintro rfl
    exact absurd allowed (by decide)
  · have leads : Leads (DbStore.delete order object) world
        (fun _ after => after.Balanced rank direct) (fun _ _ => False) :=
      balanced.delete_leads isDirect found
    rcases leads.returned with ⟨_, _, executed, _⟩
    rw [executed]

/-! ## Security groups and their rules -/

/-- Groups embed rules, and only groups are updated and deleted. -/
def groupRank (key : ObjectKey) : Nat :=
  if key.1 = Models.securityGroup then 1 else 0

def IsGroup (key : ObjectKey) : Prop := key.1 = Models.securityGroup

/-- A group gets a rule, and then another one instead. -/
def replacedRule : List (Object Unit) :=
  [Models.group 0 "g" [Models.rule 1 "r"], Models.group 2 "g" [Models.rule 3 "s"]]

theorem Models.group_nested (address : Address) (id : Id)
    (rules : List (Address × Id)) :
    (Models.group address id
      (rules.map fun rule => Models.rule rule.1 rule.2)).Nested groupRank IsGroup := by
  have different : Models.securityGroupRule ≠ Models.securityGroup := by decide
  constructor
  all_goals
    rw [Models.iterateEmbeddedModelInstances_group]
    intro embedded member
    rcases List.mem_map.mp member with ⟨⟨other, name⟩, _, rfl⟩
  · refine ⟨?_, different⟩
    simp [groupRank, Object.key, Models.rule, Models.group, different]
  · constructor <;> intro _ impossible <;> cases impossible

theorem DbStore.embedded_stored_iff_replaced_rule :
    let world := (trace (DbStore.update .insertion) replacedRule
      (World.initial fun _ => false)).2
    world.stored (Models.securityGroupRule, "r") = none ∧
      (world.stored (Models.securityGroupRule, "s")).isSome ∧
      ∀ key, ¬ IsGroup key → ((world.stored key).isSome ↔
        ∃ owner object, world.stored owner = some object ∧
          key ∈ object.embeddedKeys) := by
  intro world
  have reached : world.Reached .insertion groupRank IsGroup := by
    refine World.Reached.updates replacedRule (.initial fun _ => false) ?_
      (by decide +kernel)
    simp only [replacedRule, List.forall_mem_cons]
    exact ⟨⟨rfl, Models.group_nested 0 "g" [(1, "r")]⟩,
      ⟨rfl, Models.group_nested 2 "g" [(3, "s")]⟩, by simp⟩
  exact ⟨by decide +kernel, by decide +kernel,
    (DbStore.embedded_stored_iff .insertion groupRank IsGroup world reached).1⟩

/-! ## An object that embeds its own key -/

namespace Models

open FieldDeclaration

/-- A class whose instances can embed each other. -/
def node : Model := ⟨"Node", [embedded "child"], [], []⟩

def root : Model := ⟨"Root", [embedded "node"], [], []⟩

/-- The node holds a node of the same id. -/
def nodeInItself : Object Unit :=
  ⟨1, node, "a", .ofList [("child", .object ⟨2, node, "a", .nil⟩)]⟩

def rootOfNode : Object Unit :=
  ⟨0, root, "r", .ofList [("node", .object nodeInItself)]⟩

/-- A group with a rule that lacks its mandatory topic. -/
def groupOfBrokenRule : Object Unit :=
  group 0 "g" [⟨1, securityGroupRule, "r", .nil⟩]

end Models

/-- A root with a node that embeds its own key is stored and deleted, and only
the root is ever handled directly. The node stays, and nothing embeds it. The
other way round, an update that raises leaves a group without its rule. -/
theorem DbStore.embedded_stored_without_owner :
    let calls : List (Call Unit) :=
      [.update Models.rootOfNode, .delete Models.rootOfNode]
    let run := trace (Call.run .insertion) calls (World.initial fun _ => false)
    let failed := exec (DbStore.update .insertion Models.groupOfBrokenRule)
      (World.initial fun _ => false)
    (run.1 = [.ok .unit, .ok .unit] ∧
      (run.2.stored (Models.node, "a")).isSome ∧
      ¬ ∃ owner object, run.2.stored owner = some object ∧
        (Models.node, "a") ∈ object.embeddedKeys) ∧
    failed.1 = .error .validationError ∧
      (∃ owner object, failed.2.stored owner = some object ∧
        (Models.securityGroupRule, "r") ∈ object.embeddedKeys) ∧
      failed.2.stored (Models.securityGroupRule, "r") = none := by
  intro calls run failed
  refine ⟨⟨by decide +kernel, by decide +kernel, ?_⟩, by decide +kernel,
    ⟨Models.groupOfBrokenRule.key, Models.groupOfBrokenRule,
      by decide +kernel, by decide +kernel⟩, by decide +kernel⟩
  rintro ⟨owner, object, found, member⟩
  rcases World.exists_entry_of_stored found with ⟨entry, cached, _, held⟩
  have unowned : ∀ entry ∈ run.2.store.cache.entries,
      ∀ object ∈ entry.2.objs.entries.map Sigma.snd,
        (Models.node, "a") ∉ object.embeddedKeys := by
    decide +kernel
  exact unowned entry cached object held member

end Dragonflow
