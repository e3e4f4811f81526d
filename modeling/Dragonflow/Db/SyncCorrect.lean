import Dragonflow.Db.StoreCallbacks

/-! # The local store follows the northbound database

After a sync the registered models hold exactly what the subscriber wants.
Between syncs nothing is held of a topic without subscription, so that dropping
a topic leaves nothing of it behind.
-/

namespace Dragonflow

open Program

variable {α : Type} [DecidableEq α]

namespace Sync

/-- The topics of all stored objects can be read. -/
def Readable (sync : Sync α) (state : SyncState α) : Prop :=
  ∀ key object, key.1.is .topic = true → sync.held state.world key = some object →
    ∃ topic, object.topic? = some topic

/-- Nothing is stored of a topic without subscription. -/
def Tidy (sync : Sync α) (state : SyncState α) : Prop :=
  ∀ key object, key.1.is .topic = true → sync.held state.world key = some object →
    ∃ topic ∈ state.topics, object.topic? = some topic

/-- All stored instances of a model, each of them once. -/
structure Present (sync : Sync α) (model : Model) (state : SyncState α)
    (present : List (Object α)) : Prop where
  nodup : (present.map Object.key).Nodup
  mem : ∀ object, object ∈ present ↔
    object.model = model ∧ sync.held state.world object.key = some object

/-- The key of a stored instance of the model that nobody wants. -/
structure Stray (sync : Sync α) (nb : Northbound α) (model : Model)
    (state : SyncState α) (key : ObjectKey) : Prop where
  sameModel : key.1 = model
  isHeld : (sync.held state.world key).isSome
  unwanted : Unwanted Object.key (sync.Desired nb state.topics) key

/-- Under each key a desired object is stored, if there is one. -/
def Follows (sync : Sync α) (nb : Northbound α) (state : SyncState α) : Prop :=
  ∀ key, (∃ object, sync.Desired nb state.topics object ∧ object.key = key ∧
      sync.held state.world key = some object) ∨
    (Unwanted Object.key (sync.Desired nb state.topics) key ∧
      sync.held state.world key = none)

section

variable {sync : Sync α} {state : SyncState α} {nb : Northbound α}

theorem Present.groupByTopic {model : Model} {present : List (Object α)}
    (listed : Present sync model state present)
    (hasTopic : ∀ object ∈ present, ∃ topic, object.topic? = some topic) :
    ∃ groups, Sync.groupByTopic present ∅ = .ok groups ∧
      Grouped sync model state groups ∧
      ∀ topic object, object ∈ groups.members topic ↔
        object ∈ present ∧ object.topicKey = .ok topic := by
  have readable : ∀ object ∈ present, ∃ topic, object.topicKey = .ok topic := by
    intro object member
    rcases hasTopic object member with ⟨topic, isTopic⟩
    exact ⟨_, topicKey_of_topic isTopic⟩
  rcases groupByTopic_eq present ∅ readable with ⟨groups, computed, members⟩
  simp only [Dict.members_empty, List.nil_append] at members
  have mem_members (topic : Option (Scalar α)) (object : Object α) :
      object ∈ groups.members topic ↔
        object ∈ present ∧ object.topicKey = .ok topic := by
    rw [members, List.mem_filter, decide_eq_true_eq]
  refine ⟨groups, computed, ⟨?_, ?_, ?_⟩, mem_members⟩
  · intro topic object member
    exact ((mem_members topic object).mp member).2
  · intro topic object member
    exact (listed.mem object).mp ((mem_members topic object).mp member).1
  · intro topic
    rw [members]
    exact List.Nodup.sublist (List.filter_sublist.map Object.key) listed.nodup

omit [DecidableEq α]

theorem stray_congr {model : Model} {first second : SyncState α} {key : ObjectKey}
    (held : sync.held second.world key = sync.held first.world key)
    (topics : second.topics = first.topics) :
    Stray sync nb model second key ↔ Stray sync nb model first key := by
  constructor
  · intro stray
    rcases stray with ⟨sameModel, isHeld, unwanted⟩
    rw [held] at isHeld
    rw [topics] at unwanted
    exact ⟨sameModel, isHeld, unwanted⟩
  · intro stray
    rcases stray with ⟨sameModel, isHeld, unwanted⟩
    rw [← held] at isHeld
    rw [← topics] at unwanted
    exact ⟨sameModel, isHeld, unwanted⟩

theorem Tidy.readable (tidy : sync.Tidy state) : sync.Readable state := by
  intro key object topical found
  rcases tidy key object topical found with ⟨topic, _, hasTopic⟩
  exact ⟨topic, hasTopic⟩

theorem Follows.tidy (follows : sync.Follows nb state) : sync.Tidy state := by
  intro key object topical found
  rcases follows key with ⟨desired, isDesired, rfl, held⟩ | ⟨_, missing⟩
  · rw [found] at held
    cases held
    exact isDesired.2.2 topical
  · rw [found] at missing
    cases missing

theorem Follows.wanted (follows : sync.Follows nb state) {key : ObjectKey}
    (found : (sync.held state.world key).isSome) :
    ¬ Unwanted Object.key (sync.Desired nb state.topics) key := by
  intro unwanted
  rcases follows key with ⟨object, isDesired, sameKey, _⟩ | ⟨_, missing⟩
  · exact unwanted object isDesired sameKey
  · rw [missing] at found
    cases found

theorem Follows.isSome_iff (follows : sync.Follows nb state) (key : ObjectKey) :
    (sync.held state.world key).isSome ↔
      ∃ object, sync.Desired nb state.topics object ∧ object.key = key := by
  rcases follows key with ⟨object, isDesired, sameKey, found⟩ | ⟨unwanted, missing⟩
  · rw [found]
    exact ⟨fun _ => ⟨object, isDesired, sameKey⟩, fun _ => rfl⟩
  · rw [missing]
    constructor
    · intro impossible
      cases impossible
    · intro desired
      rcases desired with ⟨object, isDesired, sameKey⟩
      exact absurd sameKey (unwanted object isDesired)

theorem Follows.plain_ids {fits : Object α → Prop} (follows : sync.Follows nb state)
    (exact : nb.Exact sync.models fits) {model : Model}
    (registered : model ∈ sync.models) (untopical : model.is .topic = false)
    (id : Id) :
    (state.world.stored (model, id)).isSome ↔
      ∃ object ∈ nb.getAll model none, object.id = id := by
  have stored := follows.isSome_iff (model, id)
  rw [held_of_mem registered] at stored
  rw [stored]
  apply exists_congr
  intro object
  constructor
  · intro found
    rcases found with ⟨⟨_, member, _⟩, sameKey⟩
    have sameModel : object.model = model := congrArg Prod.fst sameKey
    rw [sameModel] at member
    exact ⟨member, congrArg Prod.snd sameKey⟩
  · intro found
    rcases found with ⟨member, sameId⟩
    have wanted : object.model = model ∧ sync.Desired nb state.topics object :=
      (desired_plain exact registered untopical).mpr member
    exact ⟨wanted.2, Prod.ext wanted.1 sameId⟩

theorem Follows.topic_ids {fits : Object α → Prop} (follows : sync.Follows nb state)
    (exact : nb.Exact sync.models fits) {model : Model}
    (registered : model ∈ sync.models) (topical : model.is .topic = true) (id : Id) :
    (state.world.stored (model, id)).isSome ↔
      ∃ object ∈ nb.getAll model none, object.id = id ∧
        ∃ topic ∈ state.topics, object.topic? = some topic := by
  have stored := follows.isSome_iff (model, id)
  rw [held_of_mem registered] at stored
  rw [stored]
  apply exists_congr
  intro object
  constructor
  · intro found
    rcases found with ⟨⟨_, member, subscribed⟩, sameKey⟩
    have sameModel : object.model = model := congrArg Prod.fst sameKey
    rw [sameModel] at member subscribed
    exact ⟨member, congrArg Prod.snd sameKey, subscribed topical⟩
  · intro found
    rcases found with ⟨member, sameId, subscribed⟩
    rcases exact.instances model registered object member with ⟨rfl, _⟩
    exact ⟨⟨registered, member, fun _ => subscribed⟩, Prod.ext rfl sameId⟩

end

/-! ## Reading the store -/

section Calls

variable {sync : Sync α} {order : SetOrder} {ready : World α → Prop}
  {fits : Object α → Prop} (callbacks : sync.Callbacks order ready fits)
  {state : SyncState α}

omit [DecidableEq α] in
/-- Looking at the store changes nothing that matters here. -/
theorem onStore_leads {action : Action α β} {returns : β → Prop}
    (keeps : Keeps World.Alike action)
    (maintains : Maintains ready (fun _ => True) action) (isReady : ready state.world)
    (leads : Leads action state.world (fun value _ => returns value)
      (fun _ _ => False)) :
    Leads (onStore action) state
      (fun value after => Removed sync ready (fun _ => False) state after ∧
        returns value)
      (fun _ _ => False) := by
  unfold onStore
  rw [leads_focus]
  refine (((keeps.leads state.world).and (maintains state.world isReady)).and
    leads).mono ?_ fun _ _ impossible => impossible.2
  intro value world read
  rcases read with ⟨⟨alike, isReadyAfter⟩, returned⟩
  refine ⟨⟨isReadyAfter, rfl, fun _ => rfl, ?_⟩, returned⟩
  have same : sync.held world = sync.held state.world := by
    funext key
    unfold held
    rw [alike.stored]
  rw [same]
  exact Trim.nothing (fun _ => id) _

include callbacks

theorem getAllInstances_leads (isReady : ready state.world) {model : Model}
    (registered : model ∈ sync.models) :
    Leads (onStore (DbStore.getAllInstances model)) state
      (fun present after => Removed sync ready (fun _ => False) state after ∧
        Present sync model state present)
      (fun _ _ => False) := by
  have consistent := (callbacks.served state.world isReady).consistent
  refine onStore_leads (DbStore.getAll_keeps _ _) (callbacks.read _ _) isReady ?_
  refine (consistent.getAllInstances_leads model).mono ?_
    fun _ _ impossible => impossible
  intro present _ listed
  refine ⟨listed.1, fun object => ?_⟩
  rw [listed.2]
  apply and_congr_right
  intro sameModel
  have isRegistered : object.key.1 ∈ sync.models := by
    rw [Object.key, sameModel]
    exact registered
  rw [held_of_mem isRegistered]

theorem key_of_held (isReady : ready state.world) {key : ObjectKey}
    {object : Object α} (found : sync.held state.world key = some object) :
    object.key = key :=
  (callbacks.served state.world isReady).consistent.key_of_stored
    (stored_of_held found).2

/-! ## Cleaning up one model -/

/-- The object under a key of the model is among the present ones. -/
theorem Present.of_held {model : Model} {present : List (Object α)}
    (listed : Present sync model state present) (isReady : ready state.world)
    {key : ObjectKey} (sameModel : key.1 = model)
    (isHeld : (sync.held state.world key).isSome) :
    ∃ object ∈ present, object.key = key := by
  rcases Option.isSome_iff_exists.mp isHeld with ⟨object, found⟩
  have sameKey := key_of_held callbacks isReady found
  refine ⟨object, (listed.mem object).mpr ⟨?_, ?_⟩, sameKey⟩
  · exact (congrArg Prod.fst sameKey).trans sameModel
  · rw [sameKey]
    exact found

variable {nb : Northbound α} (exact : nb.Exact sync.models fits) {model : Model}
  (registered : model ∈ sync.models)

include exact registered

theorem cleanupPlain_leads (untopical : model.is .topic = false)
    (isReady : ready state.world) {present : List (Object α)}
    (listed : Present sync model state present) :
    Leads (sync.cleanupObjects (nb.getAll model none) present) state
      (fun _ after => Removed sync ready (Stray sync nb model state) state after)
      (fun _ _ => False) := by
  have wanted : ∀ object ∈ nb.getAll model none, object.model = model :=
    fun object member => (exact.instances model registered object member).1
  refine (cleanupObjects_leads callbacks isReady wanted
    fun object => (listed.mem object).mp).mono ?_ fun _ _ impossible => impossible
  intro _ after removed
  refine removed.congr ?_
  intro key
  constructor
  · intro stray
    refine ⟨listed.of_held callbacks isReady stray.sameModel stray.isHeld, ?_⟩
    intro other member
    exact stray.unwanted other
      ((desired_plain exact registered untopical).mpr member).2
  · intro outdated
    rcases outdated with ⟨⟨object, member, rfl⟩, outdated⟩
    have held := (listed.mem object).mp member
    refine ⟨held.1, by simp [held.2], ?_⟩
    intro other isDesired sameKey
    have sameModel : other.model = model :=
      (congrArg Prod.fst sameKey).trans held.1
    exact outdated other
      ((desired_plain exact registered untopical).mp ⟨sameModel, isDesired⟩) sameKey

/-- What the cleanup of a topic model deletes: what its topic no longer has, and
everything of a topic without subscription. -/
theorem stray_iff (topical : model.is .topic = true) (isReady : ready state.world)
    (settled : Settled Object.key (sync.Desired nb state.topics)
      (sync.held state.world)) {present : List (Object α)}
    (listed : Present sync model state present)
    (hasTopic : ∀ object ∈ present, ∃ topic, object.topic? = some topic)
    {groups others : Groups α}
    (members : ∀ topic object, object ∈ groups.members topic ↔
      object ∈ present ∧ object.topicKey = .ok topic)
    (popped : ∀ topic, others.members topic =
      if ∃ name ∈ state.topics, topic = some (.str name) then []
      else groups.members topic) (key : ObjectKey) :
    Stray sync nb model state key ↔
      (∃ topic ∈ state.topics, Outdated nb model groups topic key) ∨
        ∃ topic, ∃ object ∈ others.members topic, object.key = key := by
  -- A present object that is not desired is stray, since the store is settled.
  have isStray (object : Object α) (topic : Option (Scalar α))
      (member : object ∈ groups.members topic)
      (undesired : ∀ name ∈ state.topics, object ∈ nb.getAll model (some name) →
        topic ≠ some (.str name)) : Stray sync nb model state object.key := by
    rcases (members topic object).mp member with ⟨isPresent, isTopic⟩
    have held := (listed.mem object).mp isPresent
    refine ⟨held.1, by simp [held.2], ?_⟩
    refine (settled object.key object held.2).resolve_left ?_
    intro isDesired
    rcases (desired_topical exact registered topical).mp ⟨held.1, isDesired⟩ with
      ⟨name, subscribed, isOther⟩
    rw [topicKey_of_topic ((exact.topic model name object).mp isOther).2] at isTopic
    exact undesired name subscribed isOther (Except.ok.inj isTopic).symm
  constructor
  · intro stray
    rcases listed.of_held callbacks isReady stray.sameModel stray.isHeld with
      ⟨object, member, rfl⟩
    rcases hasTopic object member with ⟨topic, isTopic⟩
    have grouped : object ∈ groups.members (some (.str topic)) :=
      (members _ object).mpr ⟨member, topicKey_of_topic isTopic⟩
    by_cases subscribed : topic ∈ state.topics
    · refine Or.inl ⟨topic, subscribed, ⟨object, grouped, rfl⟩, ?_⟩
      intro other isOther
      exact stray.unwanted other ((desired_topical exact registered topical).mpr
        ⟨topic, subscribed, isOther⟩).2
    · refine Or.inr ⟨some (.str topic), object, ?_, rfl⟩
      rw [popped, if_neg]
      · exact grouped
      · intro isSubscribed
        rcases isSubscribed with ⟨name, isName, same⟩
        cases same
        exact subscribed isName
  · intro deleted
    rcases deleted with ⟨topic, _, ⟨object, member, rfl⟩, outdated⟩ |
      ⟨topic, object, member, rfl⟩
    · refine isStray object _ member ?_
      intro name _ isOther same
      cases same
      exact outdated object isOther rfl
    · rw [popped] at member
      split at member
      · cases member
      · next unsubscribed =>
          refine isStray object topic member ?_
          intro name subscribed _ same
          exact unsubscribed ⟨name, subscribed, same⟩

theorem cleanupTopical_leads (topical : model.is .topic = true)
    (isReady : ready state.world) (readable : sync.Readable state)
    (settled : Settled Object.key (sync.Desired nb state.topics)
      (sync.held state.world)) {present : List (Object α)}
    (listed : Present sync model state present) :
    Leads (do
        let presentByTopic ← Program.ofExcept (groupByTopic present ∅)
        let state ← get
        let others ← sync.cleanupTopics nb model
          (sync.topicOrder.walk state.topics) presentByTopic
        forM (sync.groupOrder.walk others.keys) fun topic =>
          forM (others.members topic) sync.callDelete) state
      (fun _ after => Removed sync ready (Stray sync nb model state) state after)
      (fun _ _ => False) := by
  have hasTopic : ∀ object ∈ present, ∃ topic, object.topic? = some topic := by
    intro object member
    have held := (listed.mem object).mp member
    refine readable object.key object ?_ held.2
    rw [Object.key, held.1]
    exact topical
  rcases listed.groupByTopic hasTopic with ⟨groups, computed, grouped, members⟩
  have walked (topic : String) : topic ∈ sync.topicOrder.walk state.topics ↔
      topic ∈ state.topics := (sync.topicOrder.perm state.topics).mem_iff
  rw [leads_bind, computed, leads_ofExcept_ok, leads_bind, leads_get, leads_bind]
  refine (cleanupTopics_leads callbacks exact registered _ isReady grouped).mono ?_
    fun _ _ impossible => impossible
  intro others cleaned result
  rcases result with ⟨removed, groupedOthers, popped⟩
  simp only [walked] at removed popped
  refine (deleteGroups_leads callbacks removed.isReady groupedOthers).mono ?_
    fun _ _ impossible => impossible
  intro _ after removedOthers
  exact (removed.trans removedOthers).congr
    (stray_iff callbacks exact registered topical isReady settled listed hasTopic
      members popped)

theorem cleanupModel_leads (setting : sync.Selective) (isReady : ready state.world)
    (readable : sync.Readable state)
    (settled : Settled Object.key (sync.Desired nb state.topics)
      (sync.held state.world)) :
    Leads (sync.cleanupModel nb model) state
      (fun _ after => Removed sync ready (Stray sync nb model state) state after)
      (fun _ _ => False) := by
  unfold cleanupModel
  rw [leads_bind]
  refine (getAllInstances_leads callbacks isReady registered).mono ?_
    fun _ _ impossible => impossible
  intro present read result
  rcases result with ⟨same, listed⟩
  -- The store was only read, so what is known about it still holds.
  have sameHeld : sync.held read.world = sync.held state.world :=
    funext fun key => same.trim.kept key id
  have listedRead : Present sync model read present := by
    refine ⟨listed.nodup, ?_⟩
    rw [sameHeld]
    exact listed.mem
  have sameStray (key : ObjectKey) : Stray sync nb model state key ↔
      False ∨ Stray sync nb model read key := by
    rw [false_or, stray_congr (congrFun sameHeld key) same.topics]
  rw [setting.unselected_eq]
  cases topical : model.is .topic with
  | false =>
      rw [if_pos (by decide)]
      refine (cleanupPlain_leads callbacks exact registered topical same.isReady
        listedRead).mono ?_ fun _ _ impossible => impossible
      intro _ after removed
      exact (same.trans removed).congr sameStray
  | true =>
      rw [if_neg (by decide)]
      have readableRead : sync.Readable read := by
        unfold Readable
        rw [sameHeld]
        exact readable
      have settledRead : Settled Object.key (sync.Desired nb read.topics)
          (sync.held read.world) := by
        rw [sameHeld, same.topics]
        exact settled
      refine (cleanupTopical_leads callbacks exact registered topical same.isReady
        readableRead settledRead listedRead).mono ?_ fun _ _ impossible => impossible
      intro _ after removed
      exact (same.trans removed).congr sameStray

end Calls

/-! ## A whole sync -/

section Runs

variable {sync : Sync α} {order : SetOrder} {ready : World α → Prop}
  {fits : Object α → Prop} (callbacks : sync.Callbacks order ready fits)
  (setting : sync.Selective) {nb : Northbound α}
  (exact : nb.Exact sync.models fits) {state : SyncState α}

include callbacks setting exact

/-- The second loop of `sync`. -/
theorem cleanupModels_leads (isReady : ready state.world)
    (readable : sync.Readable state)
    (settled : Settled Object.key (sync.Desired nb state.topics)
      (sync.held state.world)) :
    Leads (forM sync.models.reverse (sync.cleanupModel nb)) state
      (fun _ after => Removed sync ready
        (fun key => (sync.held state.world key).isSome ∧
          Unwanted Object.key (sync.Desired nb state.topics) key) state after)
      (fun _ _ => False) := by
  refine (Leads.loop (fun done current => Removed sync ready
    (fun key => ∃ model ∈ done, Stray sync nb model state key) state current) _ ?_
    (Removed.nothing isReady (by simp))).mono ?_ fun _ _ impossible => impossible
  · intro done model rest current split progress
    have registered : model ∈ sync.models := by
      rw [← List.mem_reverse, split]
      exact List.mem_append_right _ List.mem_cons_self
    have readableNow : sync.Readable current := fun key object topical found =>
      readable key object topical (progress.trim.held_before found).2
    have settledNow := settled.trim progress.trim
    rw [← progress.topics] at settledNow
    refine (cleanupModel_leads callbacks exact registered setting progress.isReady
      readableNow settledNow).mono ?_ fun _ _ impossible => impossible
    intro _ after removed
    refine (progress.trans removed).congr ?_
    intro key
    simp only [List.mem_append, List.mem_singleton, or_and_right, exists_or,
      exists_eq_left]
    by_cases isDone : ∃ model ∈ done, Stray sync nb model state key
    · exact ⟨fun _ => Or.inl isDone, fun _ => Or.inl isDone⟩
    · apply or_congr_right
      exact (stray_congr (progress.trim.kept key isDone) progress.topics).symm
  · intro _ after removed
    refine removed.congr ?_
    intro key
    constructor
    · intro stray
      rcases Option.isSome_iff_exists.mp stray.1 with ⟨object, found⟩
      exact ⟨key.1, List.mem_reverse.mpr (stored_of_held found).1, rfl, stray.1,
        stray.2⟩
    · intro stray
      rcases stray with ⟨model, _, stray⟩
      exact ⟨stray.isHeld, stray.unwanted⟩

theorem sync_leads (isReady : ready state.world) (readable : sync.Readable state) :
    Leads (sync.sync nb) state
      (fun _ after => ready after.world ∧ after.topics = state.topics ∧
        sync.Follows nb after ∧
        (sync.Follows nb state → after.deleted = state.deleted))
      (fun _ _ => False) := by
  unfold Sync.sync
  rw [leads_bind]
  refine (updateModels_leads callbacks exact setting isReady).mono ?_
    fun _ _ impossible => impossible
  intro _ updated written
  have settled := written.overlay.settled
  rw [← written.topics] at settled
  have readableUpdated : sync.Readable updated := by
    intro key object topical found
    rcases written.overlay.cases key with
      ⟨other, isDesired, rfl, isWritten⟩ | ⟨_, same⟩
    · rw [found] at isWritten
      cases isWritten
      rcases isDesired.2.2 topical with ⟨topic, _, hasTopic⟩
      exact ⟨topic, hasTopic⟩
    · rw [same] at found
      exact readable key object topical found
  refine (cleanupModels_leads callbacks setting exact written.isReady readableUpdated
    settled).mono ?_ fun _ _ impossible => impossible
  intro _ after removed
  rw [written.topics] at removed
  have topics : after.topics = state.topics := removed.topics.trans written.topics
  refine ⟨removed.isReady, topics, ?_, ?_⟩
  · unfold Follows
    rw [topics]
    exact written.overlay.reconciled removed.trim
  · intro follows
    rw [← written.deleted]
    refine removed.idle ?_
    intro key stray
    rcases written.overlay.cases key with ⟨object, isDesired, sameKey, _⟩ | ⟨_, same⟩
    · exact stray.2 object isDesired sameKey
    · rw [same] at stray
      exact follows.wanted stray.1 stray.2

/-! ## Subscriptions -/

theorem addTopic_leads (isReady : ready state.world) (tidy : sync.Tidy state)
    (topic : String) :
    Leads (sync.addTopic nb topic) state
      (fun _ after => ready after.world ∧ sync.Tidy after) (fun _ _ => False) := by
  unfold Sync.addTopic
  rw [leads_bind, leads_get, setting.selective]
  by_cases subscribed : topic ∈ state.topics
  · rw [if_pos (by simp [subscribed])]
    exact ⟨isReady, tidy⟩
  · rw [if_neg (by simp [subscribed]), leads_bind]
    refine (sync_leads callbacks setting exact isReady tidy.readable).mono ?_
      fun _ _ impossible => impossible
    intro _ synced result
    rcases result with ⟨isReadySynced, topics, follows, _⟩
    rw [leads_bind]
    -- Everything that the loop stores has the new topic.
    refine (Leads.loop_const (fun current => ready current.world ∧
      current.topics = synced.topics ∧ ∀ key object, key.1.is .topic = true →
        sync.held current.world key = some object →
          (∃ name ∈ synced.topics, object.topic? = some name) ∨
            object.topic? = some topic) _ ?_
      ⟨isReadySynced, rfl, fun key object topical found =>
        Or.inl (follows.tidy key object topical found)⟩).mono ?_
      fun _ _ impossible => impossible
    · intro model current registered progress
      rcases progress with ⟨isReadyNow, sameTopics, tidyNow⟩
      cases topical : model.is .topic with
      | false => exact ⟨isReadyNow, sameTopics, tidyNow⟩
      | true =>
          rw [if_pos rfl]
          have isInstance (object : Object α)
              (member : object ∈ nb.getAll model (some topic)) :=
            exact.instances model registered object
              ((exact.topic model topic object).mp member).1
          refine (updateObjects_leads callbacks isReadyNow ?_).mono ?_
            fun _ _ impossible => impossible
          · intro object member
            rcases isInstance object member with ⟨rfl, fitting⟩
            exact ⟨registered, fitting⟩
          · intro _ after written
            refine ⟨written.isReady, written.topics.trans sameTopics, ?_⟩
            intro key object topical found
            rcases written.overlay.cases key with
              ⟨other, member, _, isWritten⟩ | ⟨_, same⟩
            · rw [found] at isWritten
              cases isWritten
              exact Or.inr ((exact.topic model topic object).mp member).2
            · rw [same] at found
              exact tidyNow key object topical found
    · intro _ current progress
      rcases progress with ⟨isReadyNow, sameTopics, tidyNow⟩
      refine ⟨isReadyNow, ?_⟩
      intro key object topical found
      rcases tidyNow key object topical found with ⟨name, member, hasTopic⟩ | hasTopic
      · rw [← sameTopics] at member
        exact ⟨name, List.mem_insert_of_mem member, hasTopic⟩
      · exact ⟨topic, List.mem_insert_self, hasTopic⟩

omit exact

omit setting in
/-- The cached objects of one topic. -/
theorem getAllByTopic_leads (isReady : ready state.world) {model : Model}
    (registered : model ∈ sync.models)
    (indexed : model.getIndex "topic" = some [["topic"]]) (topic : String) :
    Leads (onStore (DbStore.getAllByTopic model topic)) state
      (fun cached after => Removed sync ready (fun _ => False) state after ∧
        (cached.map Object.key).Nodup ∧
        (∀ object ∈ cached, sync.held state.world object.key = some object) ∧
        ∀ key object, key.1 = model → sync.held state.world key = some object →
          object.topic? = some topic → object ∈ cached)
      (fun _ _ => False) := by
  have isQuery : ∃ query index,
      DbStore.getAllByTopic model topic = (DbStore.getAll query index : Action α _) := by
    unfold DbStore.getAllByTopic
    split
    · rw [indexed]
      exact ⟨_, _, rfl⟩
    · exact ⟨_, _, rfl⟩
  have listed := (callbacks.served state.world isReady).getAllByTopic_leads topic indexed
  rcases isQuery with ⟨query, index, isQuery⟩
  rw [isQuery] at listed ⊢
  refine onStore_leads (DbStore.getAll_keeps _ _) (callbacks.read _ _) isReady
    (listed.mono ?_ fun _ _ impossible => impossible)
  intro cached _ found
  rcases found with ⟨nodup, stored, covers⟩
  refine ⟨nodup, ?_, ?_⟩
  · intro object member
    rcases stored object member with ⟨rfl, isStored⟩
    rw [held_of_mem registered]
    exact isStored
  · intro key object sameModel isHeld hasTopic
    have sameKey := key_of_held callbacks isReady isHeld
    subst sameKey
    exact covers object sameModel (stored_of_held isHeld).2 hasTopic

/-- The round of `remove_topic` for one model. -/
theorem dropTopic_leads (isReady : ready state.world) {model : Model}
    (registered : model ∈ sync.models) (topic : String) :
    Leads (if model.is .topic then do
          let cachedObjs ← onStore (DbStore.getAllByTopic model topic)
          forM cachedObjs sync.callDelete
        else pure ()) state
      (fun _ after => (∃ removed, Removed sync ready removed state after) ∧
        ∀ key object, key.1 = model → key.1.is .topic = true →
          sync.held after.world key = some object → object.topic? ≠ some topic)
      (fun _ _ => False) := by
  cases topical : model.is .topic with
  | false =>
      refine ⟨⟨fun _ => False, Removed.nothing isReady fun _ => id⟩, ?_⟩
      intro key object sameModel isTopical
      rw [sameModel, topical] at isTopical
      cases isTopical
  | true =>
      rw [if_pos rfl, leads_bind]
      refine (getAllByTopic_leads callbacks isReady registered
        (setting.indexed model registered topical) topic).mono ?_
        fun _ _ impossible => impossible
      intro cached read result
      rcases result with ⟨same, nodup, found, covers⟩
      have foundRead : ∀ object ∈ cached,
          sync.held read.world object.key = some object := by
        intro object member
        rw [same.trim.kept object.key id]
        exact found object member
      refine (deleteObjects_leads callbacks same.isReady nodup foundRead).mono ?_
        fun _ _ impossible => impossible
      intro _ after removed
      refine ⟨⟨_, same.trans removed⟩, ?_⟩
      intro key object sameModel _ isHeld hasTopic
      rcases (same.trans removed).trim.held_before isHeld with ⟨isKept, heldBefore⟩
      have member := covers key object sameModel heldBefore hasTopic
      exact isKept (Or.inr ⟨object, member, key_of_held callbacks isReady heldBefore⟩)

theorem removeTopic_leads (isReady : ready state.world) (tidy : sync.Tidy state)
    (topic : String) :
    Leads (sync.removeTopic topic) state
      (fun _ after => ready after.world ∧ sync.Tidy after ∧
        ∀ key object, key.1.is .topic = true →
          sync.held after.world key = some object → object.topic? ≠ some topic)
      (fun _ _ => False) := by
  unfold Sync.removeTopic
  rw [leads_bind, leads_get, setting.selective]
  by_cases subscribed : topic ∈ state.topics
  · rw [if_neg (by simp [subscribed]), leads_bind, leads_set]
    -- Nothing new is stored, and the models walked so far are free of the topic.
    refine (Leads.loop (fun done current => ready current.world ∧
      current.topics = state.topics.filter (· ≠ topic) ∧
      (∀ key object, sync.held current.world key = some object →
        sync.held state.world key = some object) ∧
      ∀ key object, key.1 ∈ done → key.1.is .topic = true →
        sync.held current.world key = some object → object.topic? ≠ some topic) _ ?_
      ⟨isReady, rfl, fun _ _ found => found, fun _ _ impossible =>
        absurd impossible List.not_mem_nil⟩).mono ?_ fun _ _ impossible => impossible
    · intro done model rest current split progress
      rcases progress with ⟨isReadyNow, topics, fewer, free⟩
      have registered : model ∈ sync.models := by
        rw [← List.mem_reverse, split]
        exact List.mem_append_right _ List.mem_cons_self
      refine (dropTopic_leads callbacks setting isReadyNow registered topic).mono ?_
        fun _ _ impossible => impossible
      intro _ after result
      rcases result with ⟨⟨_, removed⟩, freeOfModel⟩
      refine ⟨removed.isReady, removed.topics.trans topics, ?_, ?_⟩
      · intro key object found
        exact fewer key object (removed.trim.held_before found).2
      · intro key object member topical found
        rcases List.mem_append.mp member with isDone | isModel
        · exact free key object isDone topical (removed.trim.held_before found).2
        · exact freeOfModel key object (List.mem_singleton.mp isModel) topical found
    · intro _ after result
      rcases result with ⟨isReadyAfter, topics, fewer, free⟩
      have freeOf (key : ObjectKey) (object : Object α) (topical : key.1.is .topic = true)
          (found : sync.held after.world key = some object) :
          object.topic? ≠ some topic :=
        free key object (List.mem_reverse.mpr (stored_of_held found).1) topical found
      refine ⟨isReadyAfter, ?_, freeOf⟩
      intro key object topical found
      rcases tidy key object topical (fewer key object found) with
        ⟨name, member, hasTopic⟩
      refine ⟨name, ?_, hasTopic⟩
      rw [topics, List.mem_filter, decide_eq_true_eq]
      refine ⟨member, ?_⟩
      intro same
      subst same
      exact freeOf key object topical found hasTopic
  · rw [if_pos (by simp [subscribed])]
    refine ⟨isReady, tidy, ?_⟩
    intro key object topical found hasTopic
    rcases tidy key object topical found with ⟨name, member, isName⟩
    rw [hasTopic] at isName
    cases isName
    exact subscribed member

/-- What holds between the calls. -/
theorem run_leads (isReady : ready state.world) (tidy : sync.Tidy state)
    (round : SyncCall × Northbound α) (exact : round.2.Exact sync.models fits) :
    Leads (sync.run round) state
      (fun _ after => ready after.world ∧ sync.Tidy after) (fun _ _ => False) := by
  rcases round with ⟨call, nb⟩
  cases call with
  | addTopic topic => exact addTopic_leads callbacks setting exact isReady tidy topic
  | removeTopic topic =>
      refine (removeTopic_leads callbacks setting isReady tidy topic).mono ?_
        fun _ _ impossible => impossible
      intro _ after result
      exact ⟨result.1, result.2.1⟩
  | sync =>
      refine (sync_leads callbacks setting exact isReady tidy.readable).mono ?_
        fun _ _ impossible => impossible
      intro _ after result
      exact ⟨result.1, result.2.2.1.tidy⟩

end Runs

/-- Start with a store without instances of the topic models, and make any calls
with any contents of the northbound database. Nothing raises. Wherever a sync
starts then, it leaves the ids of the northbound instances, for a topic model of
those whose topic is subscribed to; a second sync deletes nothing; and removing
a topic leaves no stored instance of the topic. -/
theorem sync_follows (sync : Sync α) (order : SetOrder) (ready : World α → Prop)
    (fits : Object α → Prop) (callbacks : sync.Callbacks order ready fits)
    (setting : sync.Selective) (initial : SyncState α)
    (isReady : ready initial.world)
    (empty : ∀ key, key.1 ∈ sync.models → key.1.is .topic = true →
      initial.world.stored key = none)
    (rounds : List (SyncCall × Northbound α))
    (exact : ∀ round ∈ rounds, round.2.Exact sync.models fits)
    (results : List (Except PyError Unit)) (state : SyncState α)
    (run : trace sync.run rounds initial = (results, state)) :
    (∀ result ∈ results, result.isOk) ∧
    (∀ nb : Northbound α, nb.Exact sync.models fits →
      Leads (sync.sync nb) state
        (fun _ synced => synced.topics = state.topics ∧
          (∀ model ∈ sync.models, model.is .topic = false → ∀ id,
            (synced.world.stored (model, id)).isSome ↔
              ∃ object ∈ nb.getAll model none, object.id = id) ∧
          (∀ model ∈ sync.models, model.is .topic = true → ∀ id,
            (synced.world.stored (model, id)).isSome ↔
              ∃ object ∈ nb.getAll model none, object.id = id ∧
                ∃ topic ∈ synced.topics, object.topic? = some topic) ∧
          Leads (sync.sync nb) synced
            (fun _ again => again.deleted = synced.deleted) (fun _ _ => False))
        (fun _ _ => False)) ∧
    ∀ topic, Leads (sync.removeTopic topic) state
      (fun _ removed => ∀ model ∈ sync.models, model.is .topic = true →
        ∀ id object, removed.world.stored (model, id) = some object →
          object.topic? ≠ some topic)
      (fun _ _ => False) := by
  have tidyInitial : sync.Tidy initial := by
    intro key object topical found
    rcases stored_of_held found with ⟨registered, stored⟩
    rw [empty key registered topical] at stored
    cases stored
  have walked := trace_returns rounds
    (fun round member current holds => run_leads callbacks setting holds.1 holds.2
      round (exact round member)) initial (⟨isReady, tidyInitial⟩ :
        ready initial.world ∧ sync.Tidy initial)
  rw [run] at walked
  rcases walked with ⟨returned, isReadyNow, tidy⟩
  refine ⟨returned, ?_, ?_⟩
  · intro nb exactNow
    refine (sync_leads callbacks setting exactNow isReadyNow tidy.readable).mono ?_
      fun _ _ impossible => impossible
    intro _ synced result
    rcases result with ⟨isReadySynced, topics, follows, _⟩
    refine ⟨topics, ?_, ?_, ?_⟩
    · exact fun model registered untopical id =>
        follows.plain_ids exactNow registered untopical id
    · exact fun model registered topical id =>
        follows.topic_ids exactNow registered topical id
    · refine (sync_leads callbacks setting exactNow isReadySynced
        follows.tidy.readable).mono ?_ fun _ _ impossible => impossible
      intro _ again repeated
      exact repeated.2.2.2 follows
  · intro topic
    refine (removeTopic_leads callbacks setting isReadyNow tidy topic).mono ?_
      fun _ _ impossible => impossible
    intro _ removed result model registered topical id object stored
    refine result.2.2 (model, id) object topical ?_
    rw [held_of_mem registered]
    exact stored

/-! ## An object that moves to another topic -/

/-- A database that holds these objects. -/
def northboundOf (objects : List (Object α)) : Northbound α where
  getAll model topic := objects.filter fun object =>
    object.model = model ∧ (topic = none ∨ object.topic? = topic)

omit [DecidableEq α] in
theorem northboundOf_exact {objects : List (Object α)} {models : List Model}
    {fits : Object α → Prop} (fitting : ∀ object ∈ objects, fits object) :
    (northboundOf objects).Exact models fits := by
  constructor
  · intro model topic object
    simp [northboundOf, and_assoc]
  · intro model _ object member
    simp only [northboundOf, List.mem_filter, decide_eq_true_eq] at member
    exact ⟨member.2.1, fitting object member.1⟩

/-- A model without topics, and one with. -/
def topiclessModel : Model := ⟨"topicless", [], [], []⟩

def topicModel : Model := ⟨"topical", [.mandatory "topic"], [Models.topicIndex], [.topic]⟩

def topicalObject (address : Address) (id : Id) (topic : String) : Object Unit :=
  ⟨address, topicModel, id, .ofList [("topic", .scalar (.str topic))]⟩

def topiclessObject (address : Address) (id : Id) : Object Unit :=
  ⟨address, topiclessModel, id, .nil⟩

theorem leaf_topical (address : Address) (id : Id) (topic : String) :
    Leaf (topicalObject address id topic) := by
  refine ⟨rfl, ?_⟩
  intro world index declared
  have isTopic : index ∈ [[["topic"]]] := declared
  rw [List.mem_singleton.mp isTopic]
  exact ⟨_, world.keysAt_topic rfl⟩

theorem leaf_topicless (address : Address) (id : Id) :
    Leaf (topiclessObject address id) := by
  refine ⟨rfl, ?_⟩
  intro world index declared
  have isDeclared : index ∈ ([] : List Index) := declared
  cases isDeclared

def exampleSync : Sync Unit where
  updateCb := DbStore.update .insertion
  deleteCb := DbStore.delete .insertion
  selective := true
  models := [topiclessModel, topicModel]
  topicOrder := ⟨id, Iteration.id_perm⟩
  idOrder := ⟨id, Iteration.id_perm⟩
  groupOrder := ⟨id, Iteration.id_perm⟩

def wideContent : List (Object Unit) :=
  [topiclessObject 0 "a", topicalObject 1 "b" "t1", topicalObject 2 "c" "t2"]

/-- Meanwhile one object was removed, and one has moved to the other topic. -/
def movedContent : List (Object Unit) := [topicalObject 3 "b" "t2", topicalObject 4 "c" "t2"]

def movingRounds : List (SyncCall × Northbound Unit) :=
  [(.addTopic "t1", northboundOf wideContent),
    (.addTopic "t2", northboundOf wideContent),
    (.removeTopic "t1", northboundOf movedContent)]

def emptyState : SyncState Unit := ⟨World.initial fun _ => false, [], []⟩

theorem sync_follows_moved :
    Leads (exampleSync.sync (northboundOf movedContent))
      (trace exampleSync.run movingRounds emptyState).2
      (fun _ synced => ∀ id, (synced.world.stored (topicModel, id)).isSome ↔
        ∃ object ∈ (northboundOf movedContent).getAll topicModel none, object.id = id ∧
          ∃ topic ∈ synced.topics, object.topic? = some topic)
      (fun _ _ => False) := by
  have leavesBefore : ∀ object ∈ wideContent, Leaf object := by
    intro object member
    simp only [wideContent, List.mem_cons, List.not_mem_nil, or_false] at member
    rcases member with rfl | rfl | rfl
    · exact leaf_topicless _ _
    · exact leaf_topical _ _ _
    · exact leaf_topical _ _ _
  have leavesAfter : ∀ object ∈ movedContent, Leaf object := by
    intro object member
    simp only [movedContent, List.mem_cons, List.not_mem_nil, or_false] at member
    rcases member with rfl | rfl
    · exact leaf_topical _ _ _
    · exact leaf_topical _ _ _
  have exact : ∀ round ∈ movingRounds, round.2.Exact exampleSync.models Leaf := by
    intro round member
    simp only [movingRounds, List.mem_cons, List.not_mem_nil, or_false] at member
    rcases member with rfl | rfl | rfl
    · exact northboundOf_exact leavesBefore
    · exact northboundOf_exact leavesBefore
    · exact northboundOf_exact leavesAfter
  have setting : exampleSync.Selective := ⟨rfl, by decide⟩
  have reached : (World.initial fun _ => false : World Unit).Reached .insertion
      (fun _ => 0) (fun _ => True) := .initial _
  have flat : Flat .insertion emptyState.world := ⟨.initial _, reached.balanced⟩
  have callbacks : exampleSync.Callbacks .insertion (Flat .insertion) Leaf :=
    store_callbacks rfl rfl
  have follows := (sync_follows exampleSync .insertion (Flat .insertion) Leaf
    callbacks setting emptyState flat (fun _ _ _ => rfl) movingRounds exact _ _
    (Prod.eta _).symm).2.1 (northboundOf movedContent)
    (northboundOf_exact leavesAfter)
  refine follows.mono ?_ fun _ _ impossible => impossible
  intro _ synced result
  exact result.2.2.1 topicModel (by decide) rfl

end Sync

end Dragonflow
