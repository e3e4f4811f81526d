import Mathlib.Data.List.Induction
import Dragonflow.Foundation.Reconciliation
import Dragonflow.Db.Sync

/-! # The passes of a sync

A call of `sync` is the two passes of a reconciliation. The update pass writes
every object that is wanted, the cleanup pass deletes what is stored and has no
wanted object.
-/

namespace Dragonflow

open Program

variable {α : Type} [DecidableEq α]

/-! ## Assumptions -/

/-- `get_all` with a topic answers the objects of that topic, and the objects
are such that they can be stored. -/
structure Northbound.Exact (nb : Northbound α) (models : List Model)
    (fits : Object α → Prop) : Prop where
  topic : ∀ model topic object, object ∈ nb.getAll model (some topic) ↔
    object ∈ nb.getAll model none ∧ object.topic? = some topic
  instances : ∀ model ∈ models, ∀ object ∈ nb.getAll model none,
    object.model = model ∧ fits object

namespace Sync

/-- What the store holds of the registered models. -/
def held (sync : Sync α) (world : World α) (key : ObjectKey) : Option (Object α) :=
  if key.1 ∈ sync.models then world.stored key else none

/-- `update_cb` stores the objects that it is made for, `delete_cb` removes a
stored object by its id, and both leave the other registered objects alone. The
states in which they do so are states that the calls of the store lead to. -/
structure Callbacks (sync : Sync α) (order : SetOrder) (ready : World α → Prop)
    (fits : Object α → Prop) : Prop where
  served : ∀ world, ready world → world.Served order
  read : ∀ query index, Maintains ready (fun _ => True) (DbStore.getAll query index)
  update : ∀ world object, ready world → fits object → object.model ∈ sync.models →
    Leads (sync.updateCb object) world
      (fun _ after => ready after ∧ sync.held after =
        Function.update (sync.held world) object.key (some object))
      (fun _ _ => False)
  delete : ∀ world object, ready world → object.model ∈ sync.models →
    world.stored object.key = some object →
    Leads (sync.deleteCb object) world
      (fun _ after => ready after ∧ sync.held after =
        Function.update (sync.held world) object.key none)
      (fun _ _ => False)

/-- The models with topics inherit the index of the mixin. -/
structure Selective (sync : Sync α) : Prop where
  selective : sync.selective = true
  indexed : ∀ model ∈ sync.models, model.is .topic = true →
    model.getIndex "topic" = some [["topic"]]

omit [DecidableEq α] in
theorem Selective.unselected_eq {sync : Sync α} (setting : sync.Selective)
    (model : Model) : sync.unselected model = !model.is .topic := by
  simp [unselected, setting.selective]

/-- The objects that a subscriber to the topics wants. -/
def Desired (sync : Sync α) (nb : Northbound α) (topics : List String)
    (object : Object α) : Prop :=
  object.model ∈ sync.models ∧ object ∈ nb.getAll object.model none ∧
    (object.model.is .topic = true → ∃ topic ∈ topics, object.topic? = some topic)

section Desired

variable {sync : Sync α} {nb : Northbound α} {fits : Object α → Prop}
  (exact : nb.Exact sync.models fits) {model : Model}
  (registered : model ∈ sync.models) {topics : List String} {object : Object α}

include exact registered

omit [DecidableEq α]

theorem desired_plain (untopical : model.is .topic = false) :
    object.model = model ∧ sync.Desired nb topics object ↔
      object ∈ nb.getAll model none := by
  constructor
  · intro wanted
    rcases wanted with ⟨rfl, _, member, _⟩
    exact member
  · intro member
    rcases exact.instances model registered object member with ⟨rfl, _⟩
    refine ⟨rfl, registered, member, ?_⟩
    intro topical
    rw [untopical] at topical
    cases topical

theorem desired_topical (topical : model.is .topic = true) :
    object.model = model ∧ sync.Desired nb topics object ↔
      ∃ topic ∈ topics, object ∈ nb.getAll model (some topic) := by
  simp only [exact.topic]
  constructor
  · intro wanted
    rcases wanted with ⟨rfl, _, member, subscribed⟩
    rcases subscribed topical with ⟨topic, isSubscribed, hasTopic⟩
    exact ⟨topic, isSubscribed, member, hasTopic⟩
  · intro found
    rcases found with ⟨topic, isSubscribed, member, hasTopic⟩
    rcases exact.instances model registered object member with ⟨rfl, _⟩
    exact ⟨rfl, registered, member, fun _ => ⟨topic, isSubscribed, hasTopic⟩⟩

end Desired

/-! ## Passes over the store -/

/-- The objects were stored. -/
structure Written (sync : Sync α) (ready : World α → Prop)
    (written : Object α → Prop) (before after : SyncState α) : Prop where
  isReady : ready after.world
  topics : after.topics = before.topics
  deleted : after.deleted = before.deleted
  overlay : Overlay Object.key written (sync.held before.world)
    (sync.held after.world)

/-- The objects were deleted. -/
structure Removed (sync : Sync α) (ready : World α → Prop)
    (removed : ObjectKey → Prop) (before after : SyncState α) : Prop where
  isReady : ready after.world
  topics : after.topics = before.topics
  idle : (∀ key, ¬ removed key) → after.deleted = before.deleted
  trim : Trim removed (sync.held before.world) (sync.held after.world)

section Passes

variable {sync : Sync α} {ready : World α → Prop} {first second third : SyncState α}

omit [DecidableEq α]

theorem Written.nothing {written : Object α → Prop} (isReady : ready first.world)
    (none : ∀ object, ¬ written object) : Written sync ready written first first :=
  ⟨isReady, rfl, rfl, Overlay.nothing none _⟩

theorem Written.congr {written same : Object α → Prop}
    (pass : Written sync ready written first second)
    (equivalent : ∀ object, same object ↔ written object) :
    Written sync ready same first second :=
  ⟨pass.isReady, pass.topics, pass.deleted, pass.overlay.congr equivalent⟩

theorem Written.trans {written more : Object α → Prop}
    (pass : Written sync ready written first second)
    (next : Written sync ready more second third) :
    Written sync ready (fun object => written object ∨ more object) first third :=
  ⟨next.isReady, next.topics.trans pass.topics, next.deleted.trans pass.deleted,
    pass.overlay.trans next.overlay⟩

theorem Removed.nothing {removed : ObjectKey → Prop} (isReady : ready first.world)
    (none : ∀ key, ¬ removed key) : Removed sync ready removed first first :=
  ⟨isReady, rfl, fun _ => rfl, Trim.nothing none _⟩

theorem Removed.congr {removed same : ObjectKey → Prop}
    (pass : Removed sync ready removed first second)
    (equivalent : ∀ key, same key ↔ removed key) :
    Removed sync ready same first second where
  isReady := pass.isReady
  topics := pass.topics
  idle none := pass.idle fun key isRemoved => none key ((equivalent key).mpr isRemoved)
  trim := pass.trim.congr equivalent

theorem Removed.trans {removed more : ObjectKey → Prop}
    (pass : Removed sync ready removed first second)
    (next : Removed sync ready more second third) :
    Removed sync ready (fun key => removed key ∨ more key) first third where
  isReady := next.isReady
  topics := next.topics.trans pass.topics
  idle none :=
    (next.idle fun key isMore => none key (Or.inr isMore)).trans
      (pass.idle fun key isRemoved => none key (Or.inl isRemoved))
  trim := pass.trim.trans next.trim

theorem held_of_mem {world : World α} {key : ObjectKey}
    (registered : key.1 ∈ sync.models) : sync.held world key = world.stored key :=
  if_pos registered

theorem stored_of_held {world : World α} {key : ObjectKey} {object : Object α}
    (found : sync.held world key = some object) :
    key.1 ∈ sync.models ∧ world.stored key = some object := by
  unfold held at found
  split at found
  · next registered => exact ⟨registered, found⟩
  · cases found

end Passes

/-! ## The update pass -/

section Calls

variable {sync : Sync α} {order : SetOrder} {ready : World α → Prop}
  {fits : Object α → Prop} (callbacks : sync.Callbacks order ready fits)
  {state : SyncState α}

include callbacks

theorem callUpdate_leads (isReady : ready state.world) {object : Object α}
    (registered : object.model ∈ sync.models) (fitting : fits object) :
    Leads (sync.callUpdate object) state
      (fun _ after => Written sync ready (· = object) state after)
      (fun _ _ => False) := by
  unfold callUpdate onStore
  rw [leads_focus]
  refine (callbacks.update state.world object isReady fitting registered).mono ?_
    fun _ _ impossible => impossible
  intro _ world updated
  refine ⟨updated.1, rfl, rfl, ?_⟩
  rw [updated.2]
  exact Overlay.single object _

theorem updateObjects_leads (isReady : ready state.world)
    {desired : List (Object α)}
    (allowed : ∀ object ∈ desired, object.model ∈ sync.models ∧ fits object) :
    Leads (sync.updateObjects desired) state
      (fun _ after => Written sync ready (· ∈ desired) state after)
      (fun _ _ => False) := by
  unfold updateObjects
  refine Leads.loop (fun done current => Written sync ready (· ∈ done) state current)
    desired ?_ (Written.nothing isReady fun _ => List.not_mem_nil)
  intro done object rest current split progress
  have member : object ∈ desired := by simp [split]
  refine (callUpdate_leads callbacks progress.isReady (allowed object member).1
    (allowed object member).2).mono ?_ fun _ _ impossible => impossible
  intro _ after stepped
  refine (progress.trans stepped).congr ?_
  intro other
  rw [List.mem_append, List.mem_singleton]

variable {nb : Northbound α} (exact : nb.Exact sync.models fits)
  (setting : sync.Selective)

include exact setting

theorem updateModel_leads (isReady : ready state.world) {model : Model}
    (registered : model ∈ sync.models) :
    Leads (sync.updateModel nb model) state
      (fun _ after => Written sync ready
        (fun object => object.model = model ∧ sync.Desired nb state.topics object)
        state after)
      (fun _ _ => False) := by
  have allowed : ∀ object ∈ nb.getAll model none,
      object.model ∈ sync.models ∧ fits object := by
    intro object member
    rcases exact.instances model registered object member with ⟨rfl, fitting⟩
    exact ⟨registered, fitting⟩
  unfold updateModel
  rw [setting.unselected_eq]
  cases topical : model.is .topic with
  | false =>
      rw [if_pos (by decide)]
      refine (updateObjects_leads callbacks isReady allowed).mono ?_
        fun _ _ impossible => impossible
      intro _ after written
      exact written.congr fun object => desired_plain exact registered topical
  | true =>
      rw [if_neg (by decide), leads_bind, leads_get]
      have walked : ∀ topic, topic ∈ sync.topicOrder.walk state.topics ↔
          topic ∈ state.topics :=
        fun topic => (sync.topicOrder.perm state.topics).mem_iff
      refine (Leads.loop (fun done current => Written sync ready
        (fun object => ∃ topic ∈ done, object ∈ nb.getAll model (some topic))
        state current) _ ?_ (Written.nothing isReady (by simp))).mono ?_
        fun _ _ impossible => impossible
      · intro done topic rest current split progress
        refine (updateObjects_leads callbacks progress.isReady ?_).mono ?_
          fun _ _ impossible => impossible
        · intro object member
          exact allowed object ((exact.topic model topic object).mp member).1
        · intro _ after written
          refine (progress.trans written).congr ?_
          intro object
          simp only [List.mem_append, List.mem_singleton, or_and_right, exists_or,
            exists_eq_left]
      · intro _ after written
        refine written.congr ?_
        intro object
        simp only [walked]
        exact desired_topical exact registered topical

/-- The first loop of `sync`. -/
theorem updateModels_leads (isReady : ready state.world) :
    Leads (forM sync.models (sync.updateModel nb)) state
      (fun _ after => Written sync ready (sync.Desired nb state.topics) state after)
      (fun _ _ => False) := by
  refine (Leads.loop (fun done current => Written sync ready
    (fun object => object.model ∈ done ∧ sync.Desired nb state.topics object)
    state current) _ ?_ (Written.nothing isReady (by simp))).mono ?_
    fun _ _ impossible => impossible
  · intro done model rest current split progress
    have registered : model ∈ sync.models := by simp [split]
    refine (updateModel_leads callbacks exact setting progress.isReady
      registered).mono ?_ fun _ _ impossible => impossible
    intro _ after written
    rw [progress.topics] at written
    refine (progress.trans written).congr ?_
    intro object
    rw [List.mem_append, List.mem_singleton, or_and_right]
  · intro _ after written
    refine written.congr ?_
    intro object
    constructor
    · intro wanted
      exact ⟨wanted.1, wanted⟩
    · intro wanted
      exact wanted.2

end Calls

/-! ## The cleanup pass -/

section Dictionaries

omit [DecidableEq α]

theorem lookup_makeDict (objects : List (Object α)) (id : Id) :
    (∃ object ∈ objects, object.id = id ∧
      (makeDict objects).lookup id = some object) ∨
    ((∀ object ∈ objects, object.id ≠ id) ∧ (makeDict objects).lookup id = none) := by
  induction objects using List.reverseRecOn with
  | nil => exact Or.inr ⟨fun _ member => absurd member List.not_mem_nil, rfl⟩
  | append_singleton objects last induction =>
      have lookup : (makeDict (objects ++ [last])).lookup id =
          if id = last.id then some last else (makeDict objects).lookup id := by
        rw [makeDict, List.foldl_append]
        exact Dict.lookup_insert_eq _ _ _ _
      rw [lookup]
      by_cases same : id = last.id
      · rw [if_pos same]
        exact Or.inl ⟨last, by simp, same.symm, rfl⟩
      · rw [if_neg same]
        rcases induction with ⟨object, member, isId, found⟩ | ⟨different, missing⟩
        · exact Or.inl ⟨object, by simp [member], isId, found⟩
        · refine Or.inr ⟨?_, missing⟩
          intro object member
          rcases List.mem_append.mp member with member | member
          · exact different object member
          · rw [List.mem_singleton.mp member]
            exact fun isId => same isId.symm

theorem mem_keys_makeDict (objects : List (Object α)) (id : Id) :
    id ∈ (makeDict objects).keys ↔ ∃ object ∈ objects, object.id = id := by
  rw [Dict.mem_keys_iff]
  rcases lookup_makeDict objects id with
    ⟨object, member, isId, found⟩ | ⟨different, missing⟩
  · simp only [found]
    exact ⟨fun _ => ⟨object, member, isId⟩, fun _ => ⟨object, rfl⟩⟩
  · rw [missing]
    constructor
    · intro found
      rcases found with ⟨_, impossible⟩
      cases impossible
    · intro found
      rcases found with ⟨object, member, isId⟩
      exact absurd isId (different object member)

end Dictionaries

section Deletes

variable {sync : Sync α} {order : SetOrder} {ready : World α → Prop}
  {fits : Object α → Prop} (callbacks : sync.Callbacks order ready fits)
  {state : SyncState α}

include callbacks

theorem callDelete_leads (isReady : ready state.world) {object : Object α}
    (found : sync.held state.world object.key = some object) :
    Leads (sync.callDelete object) state
      (fun _ after => Removed sync ready (· = object.key) state after)
      (fun _ _ => False) := by
  rcases stored_of_held found with ⟨registered, stored⟩
  unfold callDelete onStore
  rw [leads_bind, leads_modify, leads_focus]
  refine (callbacks.delete state.world object isReady registered stored).mono ?_
    fun _ _ impossible => impossible
  intro _ world deleted
  refine ⟨deleted.1, rfl, fun none => absurd rfl (none object.key), ?_⟩
  rw [deleted.2]
  exact Trim.single object.key _

/-- Objects that are stored, under distinct keys, are deleted one by one. -/
theorem deleteObjects_leads (isReady : ready state.world)
    {objects : List (Object α)} (nodup : (objects.map Object.key).Nodup)
    (found : ∀ object ∈ objects, sync.held state.world object.key = some object) :
    Leads (forM objects sync.callDelete) state
      (fun _ after => Removed sync ready
        (fun key => ∃ object ∈ objects, object.key = key) state after)
      (fun _ _ => False) := by
  refine Leads.loop (fun done current => Removed sync ready
    (fun key => ∃ object ∈ done, object.key = key) state current) objects ?_
    (Removed.nothing isReady (by simp))
  intro done object rest current split progress
  have fresh : ¬ ∃ other ∈ done, other.key = object.key := by
    intro repeated
    rcases repeated with ⟨other, member, same⟩
    rw [split, List.map_append, List.map_cons, List.nodup_append] at nodup
    exact nodup.2.2 other.key (List.mem_map_of_mem member) object.key
      List.mem_cons_self same
  have stillFound : sync.held current.world object.key = some object := by
    rw [progress.trim.kept object.key fresh]
    exact found object (by simp [split])
  refine (callDelete_leads callbacks progress.isReady stillFound).mono ?_
    fun _ _ impossible => impossible
  intro _ after deleted
  refine (progress.trans deleted).congr ?_
  intro key
  simp only [List.mem_append, List.mem_singleton, or_and_right, exists_or,
    exists_eq_left]
  exact or_congr_right eq_comm

theorem cleanupObjects_leads (isReady : ready state.world) {model : Model}
    {desired present : List (Object α)}
    (wanted : ∀ object ∈ desired, object.model = model)
    (found : ∀ object ∈ present, object.model = model ∧
      sync.held state.world object.key = some object) :
    Leads (sync.cleanupObjects desired present) state
      (fun _ after => Removed sync ready
        (fun key => (∃ object ∈ present, object.key = key) ∧
          ∀ object ∈ desired, object.key ≠ key) state after)
      (fun _ _ => False) := by
  unfold cleanupObjects
  let deletedIds := (makeDict present).keys.filter (· ∉ (makeDict desired).keys)
  have walked := sync.idOrder.perm deletedIds
  have nodup : (sync.idOrder.walk deletedIds).Nodup :=
    walked.nodup_iff.mpr ((AList.keys_nodup _).filter _)
  have isDeleted (id : Id) : id ∈ sync.idOrder.walk deletedIds ↔
      (∃ object ∈ present, object.id = id) ∧ ∀ object ∈ desired, object.id ≠ id := by
    rw [walked.mem_iff, List.mem_filter, mem_keys_makeDict, decide_eq_true_eq,
      mem_keys_makeDict]
    simp only [not_exists, not_and, ne_eq]
  refine (Leads.loop (fun done current => Removed sync ready
    (fun key => key.1 = model ∧ key.2 ∈ done) state current)
    (sync.idOrder.walk deletedIds) ?_ (Removed.nothing isReady (by simp))).mono ?_
    fun _ _ impossible => impossible
  · intro done id rest current split progress
    have member : id ∈ sync.idOrder.walk deletedIds := by simp [split]
    have fresh : id ∉ done := by
      intro repeated
      rw [split, List.nodup_append] at nodup
      exact nodup.2.2 id repeated id List.mem_cons_self rfl
    rcases lookup_makeDict present id with
      ⟨object, isPresent, isId, lookup⟩ | ⟨different, _⟩
    · rw [lookup]
      have key : object.key = (model, id) :=
        Prod.ext (found object isPresent).1 isId
      have stillFound : sync.held current.world object.key = some object := by
        rw [progress.trim.kept object.key (by simp [key, fresh])]
        exact (found object isPresent).2
      refine (callDelete_leads callbacks progress.isReady stillFound).mono ?_
        fun _ _ impossible => impossible
      intro _ after deleted
      refine (progress.trans deleted).congr ?_
      intro other
      rw [key, Prod.ext_iff, List.mem_append, List.mem_singleton, and_or_left]
    · rcases ((isDeleted id).mp member).1 with ⟨object, isPresent, isId⟩
      exact absurd isId (different object isPresent)
  · intro _ after deleted
    refine deleted.congr ?_
    intro key
    rw [isDeleted]
    constructor
    · intro unwanted
      rcases unwanted with ⟨⟨object, isPresent, rfl⟩, none⟩
      refine ⟨(found object isPresent).1, ⟨object, isPresent, rfl⟩, ?_⟩
      intro other isDesired sameId
      exact none other isDesired
        (Prod.ext ((wanted other isDesired).trans (found object isPresent).1.symm) sameId)
    · intro unwanted
      rcases unwanted with ⟨sameModel, ⟨object, isPresent, sameId⟩, none⟩
      refine ⟨⟨object, isPresent, Prod.ext ?_ sameId⟩, ?_⟩
      · exact (found object isPresent).1.trans sameModel.symm
      · intro other isDesired same
        exact none other isDesired (congrArg Prod.snd same)

end Deletes

/-! ## Groups of one topic each -/

omit [DecidableEq α] in
theorem topicKey_of_topic {object : Object α} {topic : String}
    (hasTopic : object.topic? = some topic) :
    object.topicKey = .ok (some (.str topic)) := by
  rw [Object.topicKey, Object.read_topic hasTopic]
  rfl

theorem groupByTopic_eq (objects : List (Object α)) (groups : Groups α)
    (readable : ∀ object ∈ objects, ∃ topic, object.topicKey = .ok topic) :
    ∃ result, groupByTopic objects groups = .ok result ∧
      ∀ topic, result.members topic = groups.members topic ++
        objects.filter fun object => object.topicKey = .ok topic := by
  induction objects generalizing groups with
  | nil => exact ⟨groups, rfl, fun topic => (List.append_nil _).symm⟩
  | cons object objects induction =>
      rcases readable object List.mem_cons_self with ⟨own, isOwn⟩
      rcases induction (groups.insert own (groups.members own ++ [object]))
        (fun other member => readable other (List.mem_cons_of_mem _ member)) with
        ⟨result, grouped, members⟩
      refine ⟨result, ?_, ?_⟩
      · rw [groupByTopic, isOwn]
        exact grouped
      · intro topic
        rw [members, Dict.members_insert]
        by_cases same : topic = own
        · subst same
          simp [isOwn]
        · have different : object.topicKey ≠ .ok topic := by
            rw [isOwn]
            exact fun equal => same (Except.ok.inj equal).symm
          simp [same, different]

/-- Each group lists stored instances of the model that have its topic. -/
structure Grouped (sync : Sync α) (model : Model) (state : SyncState α)
    (groups : Groups α) : Prop where
  topic : ∀ topic, ∀ object ∈ groups.members topic, object.topicKey = .ok topic
  found : ∀ topic, ∀ object ∈ groups.members topic, object.model = model ∧
    sync.held state.world object.key = some object
  nodup : ∀ topic, ((groups.members topic).map Object.key).Nodup

section Grouped

variable {sync : Sync α} {ready : World α → Prop} {model : Model}
  {state after : SyncState α} {groups : Groups α}

/-- A stored object is in one group only. -/
theorem Grouped.separate (grouped : Grouped sync model state groups)
    {topic other : Option (Scalar α)} {object same : Object α}
    (member : object ∈ groups.members topic) (sameMember : same ∈ groups.members other)
    (sameKey : object.key = same.key) : topic = other := by
  have found := (grouped.found topic object member).2
  rw [sameKey, (grouped.found other same sameMember).2] at found
  cases found
  have sameTopic := grouped.topic topic object member
  rw [grouped.topic other object sameMember] at sameTopic
  exact (Except.ok.inj sameTopic).symm

/-- When some of a group is deleted, the other groups are still there. -/
theorem Grouped.kept (grouped : Grouped sync model state groups)
    {removed : ObjectKey → Prop} (pass : Removed sync ready removed state after)
    {other : Option (Scalar α)} {object : Object α}
    (member : object ∈ groups.members other)
    (elsewhere : ∀ key, removed key → ∃ topic, topic ≠ other ∧
      ∃ object ∈ groups.members topic, object.key = key) :
    sync.held after.world object.key = some object := by
  rw [pass.trim.kept]
  · exact (grouped.found other object member).2
  · intro isRemoved
    rcases elsewhere _ isRemoved with ⟨topic, different, same, sameMember, sameKey⟩
    exact different (grouped.separate sameMember member sameKey)

/-- `pop` -/
theorem Grouped.pop (grouped : Grouped sync model state groups)
    {removed : ObjectKey → Prop} (pass : Removed sync ready removed state after)
    {topic : Option (Scalar α)}
    (inside : ∀ key, removed key → ∃ object ∈ groups.members topic, object.key = key) :
    Grouped sync model after (groups.erase topic) := by
  have members (other : Option (Scalar α)) (object : Object α)
      (member : object ∈ Dict.members (groups.erase topic) other) :
      topic ≠ other ∧ object ∈ groups.members other := by
    rw [Dict.members_erase] at member
    split at member
    · cases member
    · next different => exact ⟨fun same => different same.symm, member⟩
  constructor
  · intro other object member
    exact grouped.topic other object (members other object member).2
  · intro other object member
    rcases members other object member with ⟨different, member⟩
    refine ⟨(grouped.found other object member).1, grouped.kept pass member ?_⟩
    intro key isRemoved
    exact ⟨topic, different, inside key isRemoved⟩
  · intro other
    rw [Dict.members_erase]
    split
    · exact List.nodup_nil
    · exact grouped.nodup other

end Grouped

/-- The key of a present object of the topic that is no longer desired. -/
def Outdated (nb : Northbound α) (model : Model) (groups : Groups α)
    (topic : String) (key : ObjectKey) : Prop :=
  (∃ object ∈ groups.members (some (.str topic)), object.key = key) ∧
    ∀ object ∈ nb.getAll model (some topic), object.key ≠ key

theorem outdated_erase {nb : Northbound α} {model : Model} {groups : Groups α}
    {topic name : String} {key : ObjectKey} (different : topic ≠ name) :
    Outdated nb model (groups.erase (some (.str name))) topic key ↔
      Outdated nb model groups topic key := by
  unfold Outdated
  rw [Dict.members_erase, if_neg]
  intro same
  cases same
  exact different rfl

section Cleanup

variable {sync : Sync α} {order : SetOrder} {ready : World α → Prop}
  {fits : Object α → Prop} (callbacks : sync.Callbacks order ready fits)
  {nb : Northbound α} (exact : nb.Exact sync.models fits) {model : Model}
  {state : SyncState α}

include callbacks

theorem cleanupTopics_leads (exact : nb.Exact sync.models fits)
    (registered : model ∈ sync.models) (topics : List String)
    (isReady : ready state.world) {groups : Groups α}
    (grouped : Grouped sync model state groups) :
    Leads (sync.cleanupTopics nb model topics groups) state
      (fun others after => Removed sync ready
          (fun key => ∃ topic ∈ topics, Outdated nb model groups topic key)
          state after ∧
        Grouped sync model after others ∧
        ∀ topic, others.members topic =
          if ∃ name ∈ topics, topic = some (.str name) then []
          else groups.members topic)
      (fun _ _ => False) := by
  induction topics generalizing state groups with
  | nil =>
      refine ⟨Removed.nothing isReady (by simp), grouped, ?_⟩
      intro topic
      simp
  | cons name topics induction =>
      rw [cleanupTopics, leads_bind]
      have wanted : ∀ object ∈ nb.getAll model (some name), object.model = model := by
        intro object member
        exact (exact.instances model registered object
          ((exact.topic model name object).mp member).1).1
      refine (cleanupObjects_leads callbacks isReady wanted
        (grouped.found (some (.str name)))).mono ?_ fun _ _ impossible => impossible
      intro _ cleaned removed
      have popped := grouped.pop removed fun key isRemoved => isRemoved.1
      refine (induction removed.isReady popped).mono ?_
        fun _ _ impossible => impossible
      intro others after rest
      rcases rest with ⟨removedRest, groupedRest, members⟩
      refine ⟨(removed.trans removedRest).congr ?_, groupedRest, ?_⟩
      · intro key
        rw [List.exists_mem_cons_iff]
        constructor
        · intro outdated
          rcases outdated with outdated | ⟨topic, member, outdated⟩
          · exact Or.inl outdated
          · by_cases same : topic = name
            · subst same
              exact Or.inl outdated
            · exact Or.inr ⟨topic, member, (outdated_erase same).mpr outdated⟩
        · intro outdated
          rcases outdated with outdated | ⟨topic, member, outdated⟩
          · exact Or.inl outdated
          · by_cases same : topic = name
            · subst same
              rcases outdated with ⟨⟨object, impossible, _⟩, _⟩
              rw [Dict.members_erase, if_pos rfl] at impossible
              cases impossible
            · exact Or.inr ⟨topic, member, (outdated_erase same).mp outdated⟩
      · intro topic
        rw [members, Dict.members_erase]
        by_cases same : topic = some (.str name) <;> simp [same]

/-- The groups of topics that nobody subscribes to are deleted. -/
theorem deleteGroups_leads (isReady : ready state.world) {groups : Groups α}
    (grouped : Grouped sync model state groups) :
    Leads (forM (sync.groupOrder.walk groups.keys) fun topic =>
        forM (groups.members topic) sync.callDelete) state
      (fun _ after => Removed sync ready
        (fun key => ∃ topic, ∃ object ∈ groups.members topic, object.key = key)
        state after)
      (fun _ _ => False) := by
  have walked := sync.groupOrder.perm groups.keys
  have nodup : (sync.groupOrder.walk groups.keys).Nodup :=
    walked.nodup_iff.mpr (AList.keys_nodup _)
  refine (Leads.loop (fun done current => Removed sync ready
    (fun key => ∃ topic ∈ done, ∃ object ∈ groups.members topic, object.key = key)
    state current) _ ?_ (Removed.nothing isReady (by simp))).mono ?_
    fun _ _ impossible => impossible
  · intro done topic rest current split progress
    have fresh : topic ∉ done := by
      intro repeated
      rw [split, List.nodup_append] at nodup
      exact nodup.2.2 topic repeated topic List.mem_cons_self rfl
    refine (deleteObjects_leads callbacks progress.isReady (grouped.nodup topic)
      ?_).mono ?_ fun _ _ impossible => impossible
    · intro object member
      refine grouped.kept progress member ?_
      intro key isRemoved
      rcases isRemoved with ⟨other, isDone, listed⟩
      refine ⟨other, ?_, listed⟩
      intro same
      subst same
      exact fresh isDone
    · intro _ after deleted
      refine (progress.trans deleted).congr ?_
      intro key
      simp only [List.mem_append, List.mem_singleton, or_and_right, exists_or,
        exists_eq_left]
  · intro _ after removed
    refine removed.congr ?_
    intro key
    constructor
    · intro listed
      rcases listed with ⟨topic, object, member, sameKey⟩
      rcases Dict.lookup_of_mem_members member with ⟨values, found⟩
      refine ⟨topic, walked.mem_iff.mpr ?_, object, member, sameKey⟩
      exact (Dict.mem_keys_iff groups topic).mpr ⟨values, found⟩
    · intro listed
      rcases listed with ⟨topic, _, listed⟩
      exact ⟨topic, listed⟩

end Cleanup

end Sync

end Dragonflow
