import Mathlib.Data.List.Dedup
import Mathlib.Data.List.Perm.Basic
import Dragonflow.Db.Models
import Dragonflow.Db.ProxyCoherence

/-! # Updates that raise

`update` writes the indexes one after the other, then the object, then the
embedded objects, and undoes nothing when the keys for a later index cannot be
computed. Such a failure goes unnoticed only if everything written before it
was in the store already.
-/

namespace Dragonflow

open Program

variable {α : Type} [DecidableEq α]

namespace World

/-! ## Worlds that answer alike -/

def tree (world : World α) (model : Model) (index : Index) :
    RadixTree (Scalar α) Id index.length :=
  ((world.cacheOf model).indexes index).tree

/-- The keys under which an index finds an object. -/
def keySet (world : World α) (key : ObjectKey) (index : Index) : List (Key α) :=
  (world.recordedKeys key index).getD []

structure SameAnswers (before after : World α) : Prop where
  stored : ∀ key, after.stored key = before.stored key
  tree : ∀ model index, after.tree model index = before.tree model index
  keySet : ∀ key index element,
    element ∈ after.keySet key index ↔ element ∈ before.keySet key index
  resolve : after.resolve = before.resolve

namespace SameAnswers

omit [DecidableEq α]

theorem refl (world : World α) : SameAnswers world world :=
  ⟨fun _ => rfl, fun _ _ => rfl, fun _ _ _ => Iff.rfl, rfl⟩

theorem trans {first second third : World α} (left : SameAnswers first second)
    (right : SameAnswers second third) : SameAnswers first third :=
  ⟨fun key => (right.stored key).trans (left.stored key),
    fun model index => (right.tree model index).trans (left.tree model index),
    fun key index element =>
      (right.keySet key index element).trans (left.keySet key index element),
    right.resolve.trans left.resolve⟩

theorem of_alike {before after : World α} (alike : Alike before after) :
    SameAnswers before after where
  stored := alike.stored
  tree model index := by
    unfold World.tree
    rw [alike.cacheOf]
  keySet key index element := by
    unfold World.keySet
    rw [recordedKeys_alike alike]
  resolve := alike.resolve

variable [DecidableEq α]

/-- Recording the keys that are recorded already changes no answer. -/
theorem setKeys (world : World α) {key : ObjectKey} {index : Index}
    {newKeys : List (Key α)}
    (same : ∀ element, element ∈ world.keySet key index ↔ element ∈ newKeys) :
    SameAnswers world (world.setKeys key index newKeys) where
  stored := (Reindexed.setKeys world key index newKeys).stored
  tree model other := by
    unfold World.tree World.setKeys
    rw [cacheOf_modifyCache]
    split
    · next sameModel =>
        subst sameModel
        by_cases sameIndex : other = index
        · subst sameIndex
          rw [ModelCache.setIndex_same]
          exact IndexCache.update_tree same
        · rw [ModelCache.setIndex_other _ _ sameIndex]
    · rfl
  keySet other otherIndex element := by
    unfold World.keySet
    rw [recordedKeys_setKeys]
    split
    · next here =>
        rcases here with ⟨rfl, rfl⟩
        exact (same element).symm
    · exact Iff.rfl
  resolve := (Reindexed.setKeys world key index newKeys).resolve

omit [DecidableEq α]

/-- Neither does storing an object that is stored already. -/
theorem storeObject {world : World α} (coherent : world.Coherent)
    {object : Object α} (stored : world.stored object.key = some object) :
    SameAnswers world (world.storeObject object) := by
  have sameStored : ∀ key,
      (world.storeObject object).stored key = world.stored key := by
    intro key
    rw [stored_storeObject]
    split
    · next same => rw [same, stored]
    · rfl
  refine ⟨sameStored, fun model index => ?_, fun key index element => ?_, ?_⟩
  · unfold World.tree
    rw [indexes_storeObject]
  · unfold World.keySet
    rw [recordedKeys_storeObject]
  · funext proxy
    rw [coherent.storeObject object proxy, sameStored, coherent proxy]

end SameAnswers

/-! ## Writing what is there already -/

/-- The index has recorded for the object the keys that it has now. -/
def UpToDate (world : World α) (object : Object α) (index : Index) : Prop :=
  ∃ keys, world.keysAt object index = .ok keys ∧
    ∀ element, element ∈ world.keySet object.key index ↔ element ∈ keys

/-- The instance is stored, and all its indexes are up to date. -/
structure Settled (world : World α) (object : Object α) : Prop where
  stored : world.stored object.key = some object
  upToDate : ∀ index ∈ object.model.cachedIndexes, world.UpToDate object index

/-- The same for all embedded objects, and no embedded object is dropped. -/
def AllSettled (world : World α) : Nat → Object α → Prop
  | 0, _ => False
  | fuel + 1, object =>
      world.Settled object ∧
        (∀ key ∈ world.embeddedOf object.key, key ∈ object.embeddedKeys) ∧
        ∀ embedded ∈ object.iterateEmbeddedModelInstances,
          world.AllSettled fuel embedded

/-- The keys of some index cannot be computed, and the indexes before it are up
to date; or this is so for some embedded object, and everything that comes
before it is settled. -/
def FailsQuietly (world : World α) : Nat → Object α → Prop
  | 0, _ => False
  | fuel + 1, object =>
      (∃ before index rest error,
        object.model.cachedIndexes = before ++ index :: rest ∧
        (∀ earlier ∈ before, world.UpToDate object earlier) ∧
        world.keysAt object index = .error error) ∨
      (world.Settled object ∧ ∃ before embedded rest,
        object.iterateEmbeddedModelInstances = before ++ embedded :: rest ∧
        (∀ earlier ∈ before, world.AllSettled fuel earlier) ∧
        world.FailsQuietly fuel embedded)

/-- While only known things are written: the answers stay the same, and at most
the embedded objects of stored objects are written down again. -/
structure Quietly (before current : World α) : Prop where
  same : SameAnswers before current
  coherent : current.Coherent
  embedded : ∀ key, current.embeddedOf key = before.embeddedOf key ∨
    ∃ object, before.stored key = some object ∧
      current.embeddedOf key = object.embeddedKeys.dedup

namespace Quietly

variable {before current : World α}

omit [DecidableEq α] in
theorem step {after : World α} (quietly : Quietly before current)
    (same : SameAnswers current after) (coherent : after.Coherent)
    (embedded : after.embeddedOf = current.embeddedOf) :
    Quietly before after where
  same := quietly.same.trans same
  coherent := coherent
  embedded key := by
    rw [embedded]
    exact quietly.embedded key

omit [DecidableEq α] in
theorem alike {after : World α} (quietly : Quietly before current)
    (alike : Alike current after) : Quietly before after := by
  refine quietly.step (SameAnswers.of_alike alike)
    (quietly.coherent.reindexed (Reindexed.of_alike alike)) ?_
  funext key
  unfold World.embeddedOf
  rw [alike.objToEmbedded]

theorem updateIndex_leads {object : Object α} {index : Index}
    (quietly : Quietly before current) (upToDate : before.UpToDate object index) :
    Leads (ModelCache.updateIndex object index) current
      (fun _ after => Quietly before after) (fun _ _ => False) := by
  rcases upToDate with ⟨keys, computed, recorded⟩
  have computedNow : current.keysAt object index = .ok keys := by
    rw [keysAt_congr quietly.same.resolve, computed]
  refine ((IndexCache.getKeys_leads object index current).mono
    (fun _ _ found => found) ?_).bind ?_
  · rintro error _ ⟨raised, _⟩
    cases computedNow.symm.trans raised
  · rintro newKeys after ⟨found, alike⟩
    cases computedNow.symm.trans found
    have quietlyAfter := quietly.alike alike
    rw [leads_modify]
    refine quietlyAfter.step (SameAnswers.setKeys after fun element => ?_)
      (quietlyAfter.coherent.reindexed (Reindexed.setKeys after _ _ _)) rfl
    rw [quietlyAfter.same.keySet, recorded]

theorem updateIndex_raises {object : Object α} {index : Index} {error : PyError}
    (quietly : Quietly before current)
    (raised : before.keysAt object index = .error error) :
    Leads (ModelCache.updateIndex object index) current
      (fun _ _ => False) (fun _ after => Quietly before after) := by
  have raisedNow : current.keysAt object index = .error error := by
    rw [keysAt_congr quietly.same.resolve, raised]
  refine ((IndexCache.getKeys_leads object index current).mono
    (fun _ _ found => found) fun _ _ failed => quietly.alike failed.2).bind ?_
  rintro newKeys after ⟨found, _⟩
  cases raisedNow.symm.trans found

omit [DecidableEq α] in
theorem record (quietly : Quietly before current) (event : CacheEvent α) :
    Quietly before (current.record event) :=
  ⟨⟨quietly.same.stored, quietly.same.tree, quietly.same.keySet,
    quietly.same.resolve⟩, quietly.coherent, quietly.embedded⟩

theorem update_leads {object : Object α} (quietly : Quietly before current)
    (settled : before.Settled object) :
    Leads (ModelCache.update object) current
      (fun _ after => Quietly before after) (fun _ _ => False) := by
  unfold ModelCache.update
  rw [leads_bind, leads_modify]
  refine (Leads.loop_const (Quietly before) _ (fun index now declared holds =>
    holds.updateIndex_leads (settled.upToDate index declared))
    (quietly.record _)).bind ?_
  intro _ after holds
  rw [leads_modify]
  have stored : after.stored object.key = some object := by
    rw [holds.same.stored, settled.stored]
  refine holds.step (SameAnswers.storeObject holds.coherent stored)
    (holds.coherent.storeObject object) ?_
  funext key
  unfold World.embeddedOf
  rw [objToEmbedded_storeObject]

omit [DecidableEq α] in
theorem addRef_leads (quietly : Quietly before current)
    (owner embedded : ObjectKey) :
    Leads (DbStore.addRef owner embedded) current
      (fun _ after => Quietly before after) (fun _ _ => False) :=
  ⟨⟨quietly.same.stored, quietly.same.tree, quietly.same.keySet,
    quietly.same.resolve⟩, quietly.coherent, quietly.embedded⟩

omit [DecidableEq α] in
/-- Writing down again what a stored object embeds. -/
theorem setEmbedded (quietly : Quietly before current) {object : Object α}
    (stored : before.stored object.key = some object)
    {embedded : List ObjectKey}
    (known : embedded = current.embeddedOf object.key ∨
      embedded = object.embeddedKeys.dedup) :
    Quietly before (current.setEmbedded
      (current.store.objToEmbedded.insert object.key embedded)) where
  same := ⟨quietly.same.stored, quietly.same.tree, quietly.same.keySet,
    quietly.same.resolve⟩
  coherent := quietly.coherent
  embedded key := by
    have written : (current.setEmbedded (current.store.objToEmbedded.insert
        object.key embedded)).embeddedOf key =
          if key = object.key then embedded else current.embeddedOf key :=
      Dict.members_insert _ _ _ _
    rw [written]
    split
    · next same =>
        subst same
        rcases known with rfl | rfl
        · exact quietly.embedded object.key
        · exact Or.inr ⟨object, stored, rfl⟩
    · exact quietly.embedded key

theorem dropEmbedded_leads (order : SetOrder) {object : Object α}
    (quietly : Quietly before current)
    (stored : before.stored object.key = some object)
    (kept : ∀ key ∈ before.embeddedOf object.key, key ∈ object.embeddedKeys) :
    Leads (DbStore.dropEmbedded order object) current
      (fun _ after => Quietly before after) (fun _ _ => False) := by
  have nothing : (current.embeddedOf object.key).filter
      (· ∉ object.embeddedKeys.dedup) = [] := by
    rw [List.filter_eq_nil_iff]
    intro key member
    simp only [List.mem_dedup, decide_eq_true_eq, not_not]
    rcases quietly.embedded object.key with same | ⟨other, found, same⟩
    · exact kept key (same ▸ member)
    · cases stored.symm.trans found
      rw [same, List.mem_dedup] at member
      exact member
  unfold DbStore.dropEmbedded
  simp only [leads_bind, leads_get, leads_set, leads_modify, nothing,
    (order.perm []).eq_nil]
  exact (quietly.setEmbedded stored (Or.inl rfl)).setEmbedded stored (Or.inr rfl)

theorem allSettled_leads (order : SetOrder) (fuel : Nat) (object : Object α)
    (settled : before.AllSettled fuel object) (quietly : Quietly before current) :
    Leads (DbStore.updateWithin order fuel object) current
      (fun _ after => Quietly before after) (fun _ _ => False) := by
  induction fuel generalizing object current with
  | zero => exact settled.elim
  | succ fuel induction =>
      rcases settled with ⟨settledHere, kept, settledBelow⟩
      refine (getCache_leads object.model current).bind ?_
      intro _ created alike
      have holds := quietly.alike alike
      refine (holds.update_leads settledHere).bind ?_
      intro _ updated holds
      refine (Leads.loop_const (Quietly before) _ ?_ holds).bind ?_
      · intro embedded now member holds
        refine (induction embedded (settledBelow embedded member) holds).bind ?_
        intro _ after holds
        exact holds.addRef_leads _ _
      · intro _ after holds
        exact holds.dropEmbedded_leads order settledHere.stored kept

theorem failsQuietly_leads (order : SetOrder) (fuel : Nat) (object : Object α)
    (fails : before.FailsQuietly fuel object) (quietly : Quietly before current) :
    Leads (DbStore.updateWithin order fuel object) current
      (fun _ _ => False) (fun _ after => Quietly before after) := by
  induction fuel generalizing object current with
  | zero => exact fails.elim
  | succ fuel induction =>
      refine (getCache_leads object.model current).returning.bind ?_
      intro _ created alike
      have holds := quietly.alike alike
      rcases fails with ⟨earlier, index, rest, error, split, upToDate, raised⟩ |
        ⟨settled, earlier, embedded, rest, split, settledBefore, fails⟩
      · -- An own index fails.
        unfold ModelCache.update
        rw [split, List.forM_append, List.forM_cons]
        simp only [bind_assoc]
        rw [leads_bind, leads_modify]
        refine (Leads.loop_const (Quietly before) _
          (fun index now declared holds =>
            holds.updateIndex_leads (upToDate index declared))
          (holds.record _)).returning.bind ?_
        intro _ walked holds
        exact leads_bind.mpr (holds.updateIndex_raises raised).raising
      · -- An embedded object fails.
        refine (holds.update_leads settled).returning.bind ?_
        intro _ updated holds
        rw [split, List.forM_append, List.forM_cons]
        simp only [bind_assoc]
        refine (Leads.loop_const (Quietly before) _ ?_ holds).returning.bind ?_
        · intro settledEmbedded now member holds
          refine (allSettled_leads order fuel settledEmbedded
            (settledBefore settledEmbedded member) holds).bind ?_
          intro _ after holds
          exact holds.addRef_leads _ _
        · intro _ walked holds
          exact leads_bind.mpr (induction embedded fails holds).raising

end Quietly

end World

/-! ## Queries -/

/-- Everything that the answer to a query depends on. -/
def World.answers (world : World α) :
    (Proxy → Option (Object α)) × (ObjectKey → Option (Object α)) ×
      ((_ : Model) → (index : Index) → RadixTree (Scalar α) Id index.length) :=
  (world.resolve, world.stored, world.tree)

omit [DecidableEq α] in
theorem World.answers_alike {before after : World α}
    (alike : World.Alike before after) : after.answers = before.answers := by
  have same := World.SameAnswers.of_alike alike
  unfold World.answers
  rw [alike.resolve, funext same.stored,
    funext fun model => funext fun index => same.tree model index]

omit [DecidableEq α] in
theorem World.stored_of_answers {before after : World α}
    (same : after.answers = before.answers) : after.stored = before.stored :=
  congrArg (fun view => view.2.1) same

omit [DecidableEq α] in
theorem World.tree_of_answers {before after : World α}
    (same : after.answers = before.answers) : after.tree = before.tree :=
  congrArg (fun view => view.2.2) same

omit [DecidableEq α] in
theorem getCache_readsOnly (model : Model) :
    ReadsOnly World.answers (getCache model : Action α Unit) := by
  have returns (world : World α) : (exec (getCache model) world).1 = .ok () := by
    unfold getCache
    rw [exec_bind, exec_get]
    cases found : world.store.cache.lookup model <;> simp [found]
  intro world
  refine ⟨World.answers_alike (getCache_keeps model world), fun other _ => ?_⟩
  rw [returns, returns]

namespace ModelCache

theorem getKeys_readsOnly (object : Object α) (index : Index) :
    ReadsOnly World.answers (ModelCache.getKeys object (some index)) := by
  unfold ModelCache.getKeys
  simp only
  split
  · exact ReadsOnly.pure _
  · split
    · refine ReadsOnly.bind ((IndexCache.getKeys_readsOnly object index).refine
        (fun world => World.answers_alike
          (IndexCache.getKeys_keeps object index world))
        fun _ _ same => congrArg Prod.fst same) fun queries =>
        ReadsOnly.get_bind (fun _ => rfl) fun world other same => ?_
      have sameTree := congrFun (congrFun (World.tree_of_answers same)
        object.model) index
      unfold World.tree at sameTree
      simp only [exec_pure, IndexCache.getAll, sameTree]
    · exact ReadsOnly.throw _

omit [DecidableEq α] in
theorem getByIds_readsOnly (model : Model) (ids : List Id) :
    ReadsOnly World.answers (getByIds model ids : Action α _) := by
  induction ids with
  | nil => exact ReadsOnly.pure _
  | cons id ids induction =>
      refine ReadsOnly.bind (ReadsOnly.get_bind (fun world => ?_)
        fun world other same => ?_) fun _ =>
        ReadsOnly.bind induction fun _ => ReadsOnly.pure _
      · cases world.stored (model, id) <;> rfl
      · rw [World.stored_of_answers same]
        cases world.stored (model, id) <;> rfl

theorem getOne_readsOnly (object : Object α) (index : Option Index) :
    ReadsOnly World.answers (ModelCache.getOne object index) := by
  have looking (key : ObjectKey) : ReadsOnly World.answers
      (do let world ← get; return world.stored key : Action α _) :=
    ReadsOnly.get_bind (fun _ => rfl) fun world other same => by
      rw [World.stored_of_answers same]
      rfl
  unfold ModelCache.getOne
  split
  · exact looking object.key
  · next byIndex =>
      cases index with
      | none => exact absurd (Or.inl rfl) byIndex
      | some index =>
          refine ReadsOnly.bind (getKeys_readsOnly object index) fun ids => ?_
          rcases ids with _ | ⟨id, _ | _⟩
          · exact ReadsOnly.pure _
          · exact looking (object.model, id)
          · exact ReadsOnly.throw _

end ModelCache

namespace DbStore

theorem getKeys_none_leads (object : Object α) (world : World α) :
    Leads (DbStore.getKeys object none) world
      (fun ids after => ids = (world.cacheOf object.model).objs.keys ∧
        World.Alike world after)
      (fun _ _ => False) := by
  refine (getCache_leads object.model world).bind ?_
  intro _ created alike
  unfold ModelCache.getKeys
  rw [leads_bind, leads_get, leads_pure, alike.cacheOf]
  exact ⟨rfl, alike⟩

theorem getAll_none_leads (object : Object α) (world : World α) :
    Leads (DbStore.getAll object none) world
      (fun objects _ => (world.cacheOf object.model).objs.keys.map
        (fun id => world.stored (object.model, id)) = objects.map some)
      (fun _ _ => False) := by
  rw [DbStore.getAll_eq]
  refine (getKeys_none_leads object world).bind ?_
  rintro _ after ⟨rfl, alike⟩
  have sameStored : (fun id => after.stored (object.model, id)) =
      fun id => world.stored (object.model, id) :=
    funext fun id => alike.stored (object.model, id)
  rw [← sameStored]
  refine ModelCache.getByIds_leads object.model _ after fun id member => ?_
  rcases (Dict.mem_keys_iff _ id).mp member with ⟨found, lookup⟩
  rw [alike.stored]
  unfold World.stored
  simp [lookup]

end DbStore

/-- The calls that only ask. -/
def Call.IsQuery : Call α → Prop
  | .getOne _ _ => True
  | .getAll _ _ => True
  | .getKeys _ _ => True
  | _ => False

/-- The same answer; ids and objects come in no particular order. -/
def Answer.Same : Answer α → Answer α → Prop
  | .ids found, .ids others => found.Perm others
  | .objects found, .objects others => found.Perm others
  | answer, other => answer = other

def Answer.SameResult :
    Except PyError (Answer α) → Except PyError (Answer α) → Prop
  | .ok answer, .ok other => answer.Same other
  | .error error, .error other => error = other
  | _, _ => False

omit [DecidableEq α] in
theorem Answer.SameResult.refl (result : Except PyError (Answer α)) :
    Answer.SameResult result result := by
  cases result with
  | error error => exact rfl
  | ok answer =>
      cases answer with
      | ids found => exact List.Perm.refl found
      | objects found => exact List.Perm.refl found
      | _ => exact rfl

namespace World.SameAnswers

variable {before after : World α}

omit [DecidableEq α] in
theorem answers (same : SameAnswers before after) :
    after.answers = before.answers := by
  unfold World.answers
  rw [same.resolve, funext same.stored,
    funext fun model => funext fun index => same.tree model index]

omit [DecidableEq α] in
theorem keys_perm (same : SameAnswers before after) (model : Model) :
    ((before.cacheOf model).objs.keys).Perm ((after.cacheOf model).objs.keys) := by
  refine (List.perm_ext_iff_of_nodup (AList.keys_nodup _)
    (AList.keys_nodup _)).mpr fun id => ?_
  have sameObject := same.stored (model, id)
  unfold World.stored at sameObject
  rw [Dict.mem_keys_iff, Dict.mem_keys_iff, sameObject]

/-- Worlds that answer alike cannot be told apart by queries. -/
theorem query (same : SameAnswers before after) (order : SetOrder)
    {call : Call α} (asks : call.IsQuery) :
    Answer.SameResult (exec (call.run order) before).1
      (exec (call.run order) after).1 := by
  have reading : ReadsOnly World.answers (call.run order) →
      Answer.SameResult (exec (call.run order) before).1
        (exec (call.run order) after).1 := by
    intro reads
    rw [(reads before).2 after same.answers]
    exact Answer.SameResult.refl _
  cases call with
  | getOne object index =>
      exact reading (ReadsOnly.bind (ReadsOnly.bind (getCache_readsOnly _)
        fun _ => ModelCache.getOne_readsOnly object index)
        fun _ => ReadsOnly.pure _)
  | getKeys object index =>
      cases index with
      | some index =>
          exact reading (ReadsOnly.bind (ReadsOnly.bind (getCache_readsOnly _)
            fun _ => ModelCache.getKeys_readsOnly object index)
            fun _ => ReadsOnly.pure _)
      | none =>
          rcases (DbStore.getKeys_none_leads object before).returned with
            ⟨_, _, executed, rfl, _⟩
          rcases (DbStore.getKeys_none_leads object after).returned with
            ⟨_, _, executedAfter, rfl, _⟩
          simp only [Call.run, exec_bind, executed, executedAfter]
          exact same.keys_perm object.model
  | getAll object index =>
      cases index with
      | some index =>
          exact reading (ReadsOnly.bind (ReadsOnly.bind (getCache_readsOnly _)
            fun _ => ReadsOnly.bind (ModelCache.getKeys_readsOnly object index)
              fun _ => ModelCache.getByIds_readsOnly _ _)
            fun _ => ReadsOnly.pure _)
      | none =>
          rcases (DbStore.getAll_none_leads object before).returned with
            ⟨objects, _, executed, found⟩
          rcases (DbStore.getAll_none_leads object after).returned with
            ⟨objectsAfter, _, executedAfter, foundAfter⟩
          simp only [Call.run, exec_bind, executed, executedAfter]
          have sameStored : (fun id => after.stored (object.model, id)) =
              fun id => before.stored (object.model, id) :=
            funext fun id => same.stored (object.model, id)
          rw [sameStored] at foundAfter
          refine (List.map_perm_map_iff fun _ _ => Option.some.inj).mp ?_
          rw [← found, ← foundAfter]
          exact (same.keys_perm object.model).map _
  | _ => exact asks.elim

end World.SameAnswers

/-! ## Failing updates -/

/-- In every state of the store, an update that fails quietly raises and leaves
every later query with the answer that it would have had anyway. -/
theorem DbStore.update_fails_quietly (order : SetOrder)
    (stale : Address → Bool) (calls : List (Call α)) (world : World α)
    (reached : (trace (Call.run order) calls (World.initial stale)).2 = world)
    (object : Object α) (fails : world.FailsQuietly object.height object) :
    Leads (DbStore.update order object) world (fun _ _ => False)
      (fun _ after => ∀ call : Call α, call.IsQuery →
        Answer.SameResult (exec (call.run order) world).1
          (exec (call.run order) after).1) := by
  have coherent : world.Removable ∧ world.Coherent := by
    rw [← reached]
    exact trace_invariant calls (fun call _ => Call.run_coherent order call) _
      ⟨World.removable_initial stale, World.coherent_initial stale⟩
  have start : World.Quietly world world :=
    ⟨World.SameAnswers.refl world, coherent.2, fun _ => Or.inl rfl⟩
  refine (start.failsQuietly_leads order object.height object fails).mono
    (fun _ _ impossible => impossible) ?_
  intro _ after quietly call asks
  exact quietly.same.query order asks

/-- A stored port, whose switch is deleted later. -/
def Models.strandedPort : Object Unit :=
  attachedPort 0 "p" "t" 1 ⟨1, logicalSwitch, "s"⟩

def Models.stranding : List (Call Unit) :=
  [.update (switch 2 "s" "t" 5 1), .update strandedPort, .delete (switch 2 "s" "t" 5 1)]

def Models.strandedWorld : World Unit :=
  (trace (Call.run .insertion) stranding (World.initial fun _ => false)).2

/-- The port is updated to what it is. -/
theorem DbStore.update_fails_quietly_without_switch :
    Models.strandedWorld.stored Models.strandedPort.key = some Models.strandedPort ∧
      Leads (DbStore.update .insertion Models.strandedPort) Models.strandedWorld
        (fun _ _ => False) (fun _ after => ∀ call : Call Unit, call.IsQuery →
          Answer.SameResult (exec (call.run .insertion) Models.strandedWorld).1
            (exec (call.run .insertion) after).1) := by
  have indexes : Models.logicalPort.cachedIndexes =
      Models.logicalPort.cachedIndexes.dropLast ++
        [["lswitch", "unique_key"], ["device_owner"]] :: [] := by
    decide
  have upToDate : ∀ index ∈ Models.logicalPort.cachedIndexes.dropLast,
      Models.strandedWorld.keysAt Models.strandedPort index =
        .ok (Models.strandedWorld.keySet Models.strandedPort.key index) := by
    decide +kernel
  have fails : Models.strandedWorld.FailsQuietly Models.strandedPort.height
      Models.strandedPort :=
    Or.inl ⟨_, _, _, .referencedObjectNotFound, indexes,
      fun index member => ⟨_, upToDate index member, fun _ => Iff.rfl⟩, by decide +kernel⟩
  exact ⟨by decide +kernel, DbStore.update_fails_quietly .insertion (fun _ => false)
    Models.stranding Models.strandedWorld rfl Models.strandedPort fails⟩

/-- A port whose switch is not stored: the update raises, but the index by topic
finds the port afterwards, and `get_all` meets an id without an object. -/
theorem DbStore.update_fails_loudly :
    let world : World Unit := World.initial fun _ => false
    let port := Models.attachedPort 0 "p" "t" 1 ⟨1, Models.logicalSwitch, "s"⟩
    let query := Models.unboundPort 2 "" "t" 0
    let after := (exec (DbStore.update .insertion port) world).2
    (exec (DbStore.update .insertion port) world).1 =
        .error .referencedObjectNotFound ∧
      (exec (DbStore.getKeys query (some [["topic"]])) world).1 = .ok [] ∧
      (exec (DbStore.getKeys query (some [["topic"]])) after).1 = .ok ["p"] ∧
      (exec (DbStore.getAll query (some [["topic"]])) after).1 =
        .error .keyError := by
  decide +kernel

end Dragonflow
