import Dragonflow.Controller.LocalController
import Dragonflow.Controller.UpdateOrder
import Mathlib.Logic.Relation

/-! # Updates that wait for their references

`_send_updates_for_object`, `_send_pending_events` and the part of
`_handle_db_change` about model instances
(`dragonflow/controller/df_local_controller.py`). What `update` and `delete` do
to the store is left open, and so is whether they raise.
-/

namespace Dragonflow

open Program LocalController Relation

variable {α : Type}

/-! ## The handlers -/

/-- What happened to the objects. A history variable: no operation reads it. -/
inductive Happening (α : Type)
  /-- The object was passed to `update`. -/
  | passed (object : Object α)
  /-- The object was put aside: the missing key was not among what could be found. -/
  | parked (object : Object α) (missing : ObjectKey)
      (find : ObjectKey → Option (Object α))
  /-- The object and its references were passed to `update`, and what waits for
  its id is taken up again. -/
  | arrived (key : ObjectKey)

structure PendingUpdates (α : Type) where
  world : World α
  database : NbDatabase α
  /-- `_pending_objects`, as the pairs of an id and one of its members. -/
  pendingObjects : List (Id × ObjectKey)
  /-- Oldest first. -/
  history : List (Happening α)

/-- `raised` is an exception of `update` or `delete`. -/
inductive UpdateError
  | raised (error : PyError)
  | attributeError
  | recursionError
  deriving DecidableEq, Repr

namespace PendingUpdates

abbrev Handler (α β : Type) := Program (PendingUpdates α) UpdateError β

/-- What `_dereference` finds now. -/
def find (state : PendingUpdates α) : ObjectKey → Option (Object α) :=
  state.world.find state.database

def references (state : PendingUpdates α) (object : Object α) :
    Except ReferenceError (List (Object α)) :=
  getModelReferencesDeep state.find
    (workload (state.world.catalogue state.database) ∅ [.object object] + 1) object

/-- The members of `_pending_objects[id]`. -/
def waiting (state : PendingUpdates α) (id : Id) : List ObjectKey :=
  (state.pendingObjects.filter fun entry => entry.1 = id).map Prod.snd

def record (state : PendingUpdates α) (happening : Happening α) : PendingUpdates α :=
  { state with history := state.history ++ [happening] }

def onWorld (action : Action α Unit) : Handler α Unit := do
  let state ← get
  match exec action state.world with
  | (.ok _, world) => set { state with world }
  | (.error error, world) => do
      set { state with world }
      throw (.raised error)

/-- `self._pending_objects[reference_id].add((model, obj.id))` -/
def park (object : Object α) (proxy : Proxy) : Handler α Unit :=
  modify fun state => { state with
    pendingObjects :=
      if (proxy.id, object.key) ∈ state.pendingObjects then state.pendingObjects
      else state.pendingObjects ++ [(proxy.id, object.key)]
    history := state.history ++ [.parked object proxy.key state.find] }

section Handlers

variable (order : SetOrder) (update : Object α → Action α Unit)
  (delete : ObjectKey → Action α Unit)

/-- The body of the loop of `_send_update_events`. -/
def sendUpdateEvent (object : Object α) : Handler α Unit := do
  modify fun state => state.record (.passed object)
  onWorld (update object)

/-- The body of the loop of `_send_pending_events`. An object that the database
no longer has is `None`, and has no id to start the search with. -/
def sendPendingObject (send : Object α → Handler α Unit) (key : ObjectKey) :
    Handler α Unit := do
  let state ← get
  match NbApi.get state.database key with
  | none => throw .attributeError
  | some item => send item

/-- `_send_pending_events`. `send` is `_send_updates_for_object`. -/
def sendPendingEvents (send : Object α → Handler α Unit) (object : Object α) :
    Handler α Unit := do
  let state ← get
  set { state with
    pendingObjects := state.pendingObjects.filter fun entry => entry.1 ≠ object.id
    history := state.history ++ [Happening.arrived object.key] }
  forM (order.walk (state.waiting object.id)) (sendPendingObject send)

/-- `_send_updates_for_object`. A nested call finds one pending object less,
which bounds the depth of the recursion. -/
def sendUpdatesForObject : Nat → Object α → Handler α Unit
  | 0, _ => throw .recursionError
  | fuel + 1, object => do
      let state ← get
      match state.references object with
      | .error .recursionError => throw .recursionError
      | .error (.referencedObjectNotFound proxy) => park object proxy
      | .ok references => do
          forM (references.reverse ++ [object]) (sendUpdateEvent update)
          sendPendingEvents order (sendUpdatesForObject fuel) object

end Handlers

/-- The database changes, or an event arrives. -/
inductive Input (α : Type)
  | write (object : Object α)
  | remove (key : ObjectKey)
  | updateEvent (object : Object α)
  | deleteEvent (key : ObjectKey)

/-- `_handle_db_change`, for the events of model instances. -/
def handle (order : SetOrder) (update : Object α → Action α Unit)
    (delete : ObjectKey → Action α Unit) : Input α → Handler α Unit
  | .write object => modify fun state =>
      { state with database := state.database.insert object.key ⟨object⟩ }
  | .remove key => modify fun state =>
      { state with database := state.database.erase key }
  | .updateEvent object => do
      let state ← get
      sendUpdatesForObject order update (state.pendingObjects.length + 1) object
  | .deleteEvent key => onWorld (delete key)

def initial (stale : Address → Bool) : PendingUpdates α :=
  ⟨World.initial stale, ∅, [], []⟩

/-! ## What should hold -/

end PendingUpdates

/-- The object was passed to `update`, or put aside once more. -/
def Happening.Examines (key : ObjectKey) : Happening α → Prop
  | .passed object => object.key = key
  | .parked object _ _ => object.key = key
  | .arrived _ => False

/-- An object was put aside for an id, and nothing with the id has arrived since. -/
def WaitsFor (history : List (Happening α)) (id : Id) (key : ObjectKey) : Prop :=
  ∃ before object missing find after,
    history = before ++ .parked object missing find :: after ∧
    object.key = key ∧ missing.2 = id ∧ ∀ other, .arrived other ∈ after → other.2 ≠ id

/-- When something arrives, all that waits for its id is examined again, except
for what is still owed. -/
def Resumed (owed : List ObjectKey) (history : List (Happening α)) : Prop :=
  ∀ before arrived after, history = before ++ .arrived arrived :: after →
    ∀ key, WaitsFor before arrived.2 key →
      key ∈ owed ∨ ∃ happening ∈ after, happening.Examines key

namespace PendingUpdates

/-- An object is only put aside while one of its references cannot be found;
`_pending_objects` has exactly the objects that wait; and what waits is examined
when the object that it waits for arrives. -/
structure NothingLost (state : PendingUpdates α) : Prop where
  justified : ∀ object missing find, .parked object missing find ∈ state.history →
    Referenced find object missing ∧ find missing = none
  pending : ∀ id key, (id, key) ∈ state.pendingObjects ↔ WaitsFor state.history id key
  resumed : Resumed [] state.history

/-- An object with the second id waits for the first. -/
def Awaited (state : PendingUpdates α) (id follower : Id) : Prop :=
  ∃ model, (id, (model, follower)) ∈ state.pendingObjects

/-- All objects that wait for the id, or for one that waits for it, are still in
the database. -/
def IntactFor (state : PendingUpdates α) (arriving : Id) : Prop :=
  ∀ id key, ReflTransGen state.Awaited arriving id → (id, key) ∈ state.pendingObjects →
    (NbApi.get state.database key).isSome

end PendingUpdates

/-! ## One happening after the other -/

theorem concat_eq_split {β : Type} {history before after : List β} {last middle : β} :
    history ++ [last] = before ++ middle :: after ↔
      (history = before ∧ last = middle ∧ after = []) ∨
      ∃ rest, after = rest ++ [last] ∧ history = before ++ middle :: rest := by
  constructor
  · intro split
    rcases List.eq_nil_or_concat after with rfl | ⟨rest, final, rfl⟩
    · rcases List.append_inj' split rfl with ⟨same, equal⟩
      cases equal
      exact Or.inl ⟨same, rfl, rfl⟩
    · rw [List.concat_eq_append, ← List.cons_append, ← List.append_assoc] at split
      rcases List.append_inj' split rfl with ⟨same, equal⟩
      cases equal
      exact Or.inr ⟨rest, List.concat_eq_append, same⟩
  · rintro (⟨rfl, rfl, rfl⟩ | ⟨rest, rfl, rfl⟩)
    · rfl
    · simp

section Histories

variable {history : List (Happening α)} {id : Id} {key : ObjectKey}

theorem waitsFor_passed {object : Object α} :
    WaitsFor (history ++ [.passed object]) id key ↔ WaitsFor history id key := by
  constructor
  · rintro ⟨before, waiting, missing, find, after, split, isKey, isId, silent⟩
    rcases concat_eq_split.mp split with ⟨_, impossible, _⟩ | ⟨rest, rfl, parts⟩
    · cases impossible
    · exact ⟨before, waiting, missing, find, rest, parts, isKey, isId,
        fun other member => silent other (List.mem_append_left _ member)⟩
  · rintro ⟨before, waiting, missing, find, after, rfl, isKey, isId, silent⟩
    refine ⟨before, waiting, missing, find, after ++ [.passed object], by simp, isKey, isId,
      fun other member => silent other ?_⟩
    simpa using member

theorem waitsFor_parked {object : Object α} {missing : ObjectKey}
    {find : ObjectKey → Option (Object α)} :
    WaitsFor (history ++ [.parked object missing find]) id key ↔
      WaitsFor history id key ∨ (id = missing.2 ∧ key = object.key) := by
  constructor
  · rintro ⟨before, waiting, absent, found, after, split, isKey, isId, silent⟩
    rcases concat_eq_split.mp split with ⟨_, same, _⟩ | ⟨rest, rfl, parts⟩
    · cases same
      exact Or.inr ⟨isId.symm, isKey.symm⟩
    · exact Or.inl ⟨before, waiting, absent, found, rest, parts, isKey, isId,
        fun other member => silent other (List.mem_append_left _ member)⟩
  · rintro (⟨before, waiting, absent, found, after, rfl, isKey, isId, silent⟩ | ⟨rfl, rfl⟩)
    · refine ⟨before, waiting, absent, found, after ++ [.parked object missing find],
        by simp, isKey, isId, fun other member => silent other ?_⟩
      simpa using member
    · exact ⟨history, object, missing, find, [], rfl, rfl, rfl, by simp⟩

theorem waitsFor_arrived {arrived : ObjectKey} :
    WaitsFor (history ++ [.arrived arrived]) id key ↔
      WaitsFor history id key ∧ arrived.2 ≠ id := by
  constructor
  · rintro ⟨before, waiting, missing, find, after, split, isKey, isId, silent⟩
    rcases concat_eq_split.mp split with ⟨_, impossible, _⟩ | ⟨rest, rfl, parts⟩
    · cases impossible
    · exact ⟨⟨before, waiting, missing, find, rest, parts, isKey, isId,
        fun other member => silent other (List.mem_append_left _ member)⟩,
        silent arrived (by simp)⟩
  · rintro ⟨⟨before, waiting, missing, find, after, rfl, isKey, isId, silent⟩, different⟩
    refine ⟨before, waiting, missing, find, after ++ [.arrived arrived], by simp, isKey, isId,
      fun other member => ?_⟩
    rcases List.mem_append.mp member with member | member
    · exact silent other member
    · cases List.mem_singleton.mp member
      exact different

/-- Examining an object pays what is owed to it. -/
theorem Resumed.examine {owed : List ObjectKey} {happening : Happening α}
    (resumed : Resumed (key :: owed) history) (examines : happening.Examines key) :
    Resumed owed (history ++ [happening]) := by
  intro before arrived after split other waits
  rcases concat_eq_split.mp split with ⟨_, rfl, _⟩ | ⟨rest, rfl, parts⟩
  · exact examines.elim
  · rcases resumed before arrived rest parts other waits with isOwed | ⟨found, member, holds⟩
    · rcases List.mem_cons.mp isOwed with rfl | isOwed
      · exact Or.inr ⟨happening, by simp, examines⟩
      · exact Or.inl isOwed
    · exact Or.inr ⟨found, List.mem_append_left _ member, holds⟩

theorem Resumed.mono {owed more : List ObjectKey} (resumed : Resumed owed history)
    (subset : ∀ key ∈ owed, key ∈ more) : Resumed more history := by
  intro before arrived after split other waits
  exact (resumed before arrived after split other waits).imp_left (subset other)

theorem Resumed.arrive {owed : List ObjectKey} {arrived : ObjectKey}
    (resumed : Resumed owed history)
    (waiting : ∀ key, WaitsFor history arrived.2 key → key ∈ owed) :
    Resumed owed (history ++ [.arrived arrived]) := by
  intro before other after split key waits
  rcases concat_eq_split.mp split with ⟨rfl, same, rfl⟩ | ⟨rest, rfl, parts⟩
  · cases same
    exact Or.inl (waiting key waits)
  · rcases resumed before other rest parts key waits with isOwed | ⟨found, member, holds⟩
    · exact Or.inl isOwed
    · exact Or.inr ⟨found, List.mem_append_left _ member, holds⟩

end Histories

/-! ## The handlers keep it -/

namespace PendingUpdates

/-- `NothingLost` while some objects have been taken out of `_pending_objects`
and not been examined yet. -/
structure Owing (owed : List ObjectKey) (state : PendingUpdates α) : Prop where
  justified : ∀ object missing find, .parked object missing find ∈ state.history →
    Referenced find object missing ∧ find missing = none
  pending : ∀ id key, (id, key) ∈ state.pendingObjects ↔ WaitsFor state.history id key
  resumed : Resumed owed state.history
  keyed : NbApi.Keyed state.database

/-- What waits for one of the ids is in the database, and its own id is one of them. -/
def ClosedOn (ids : Id → Prop) (state : PendingUpdates α) : Prop :=
  ∀ entry ∈ state.pendingObjects, ids entry.1 →
    (NbApi.get state.database entry.2).isSome ∧ ids entry.2.2

instance (ids : List Id) (state : PendingUpdates α) :
    Decidable (state.ClosedOn (· ∈ ids)) :=
  inferInstanceAs (Decidable (∀ entry ∈ state.pendingObjects, _ → _))

theorem intactFor_iff {state : PendingUpdates α} {arriving : Id} :
    state.IntactFor arriving ↔ ∃ ids, ids arriving ∧ state.ClosedOn ids := by
  constructor
  · intro intact
    refine ⟨ReflTransGen state.Awaited arriving, ReflTransGen.refl, ?_⟩
    rintro ⟨id, model, follower⟩ member reaches
    exact ⟨intact id (model, follower) reaches member, reaches.tail ⟨model, member⟩⟩
  · rintro ⟨ids, known, closed⟩ id key reaches member
    have among : ∀ {other}, ReflTransGen state.Awaited arriving other → ids other := by
      intro other path
      induction path with
      | refl => exact known
      | tail _ awaited induction =>
          rcases awaited with ⟨model, waits⟩
          exact (closed _ waits induction).2
    exact (closed _ member (among reaches)).1

theorem Owing.nothingLost {state : PendingUpdates α} (owing : state.Owing []) :
    state.NothingLost :=
  ⟨owing.justified, owing.pending, owing.resumed⟩

variable {state : PendingUpdates α} {owed : List ObjectKey} {object : Object α}

theorem Owing.mono {more : List ObjectKey} (owing : state.Owing owed)
    (subset : ∀ key ∈ owed, key ∈ more) : state.Owing more :=
  { owing with resumed := owing.resumed.mono subset }

/-- The store has no part in it. -/
theorem Owing.world (owing : state.Owing owed) (world : World α) :
    Owing owed { state with world } :=
  ⟨owing.justified, owing.pending, owing.resumed, owing.keyed⟩

theorem Owing.passed (owing : state.Owing (object.key :: owed)) :
    (state.record (.passed object)).Owing owed where
  justified waiting missing find member := by
    rcases List.mem_append.mp member with member | impossible
    · exact owing.justified waiting missing find member
    · cases List.mem_singleton.mp impossible
  pending id key := (owing.pending id key).trans waitsFor_passed.symm
  resumed := owing.resumed.examine rfl
  keyed := owing.keyed

theorem onWorld_leads (action : Action α Unit) (state : PendingUpdates α) :
    Leads (onWorld action) state
      (fun _ after => ∃ world, after = { state with world })
      (fun error after => (∃ raised, error = .raised raised) ∧
        ∃ world, after = { state with world }) := by
  unfold onWorld
  rw [leads_bind, leads_get]
  rcases exec action state.world with ⟨error | _, world⟩
  · exact ⟨⟨error, rfl⟩, world, rfl⟩
  · exact ⟨world, rfl⟩

/-- What a handler leaves alone. -/
structure SamePending (before after : PendingUpdates α) : Prop where
  database : after.database = before.database
  pendingObjects : after.pendingObjects = before.pendingObjects

theorem sendUpdateEvent_leads (update : Object α → Action α Unit)
    (owing : state.Owing (object.key :: owed)) :
    Leads (sendUpdateEvent update object) state
      (fun _ after => after.Owing owed ∧ SamePending state after)
      (fun error _ => ∃ raised, error = .raised raised) := by
  unfold sendUpdateEvent
  rw [leads_bind, leads_modify]
  refine (onWorld_leads (update object) _).mono ?_ fun _ _ raised => raised.1
  rintro _ after ⟨world, rfl⟩
  exact ⟨owing.passed.world world, rfl, rfl⟩

theorem sendUpdateEvents_leads (update : Object α → Action α Unit)
    (references : List (Object α)) (owing : state.Owing (object.key :: owed)) :
    Leads (forM (references ++ [object]) (sendUpdateEvent update)) state
      (fun _ after => after.Owing owed ∧ SamePending state after)
      (fun error _ => ∃ raised, error = .raised raised) := by
  induction references generalizing state with
  | nil =>
      rw [List.nil_append, List.forM_cons, List.forM_nil]
      exact (sendUpdateEvent_leads update owing).bind fun _ _ holds => holds
  | cons reference references induction =>
      rw [List.cons_append, List.forM_cons]
      have alsoOwing : state.Owing (reference.key :: object.key :: owed) :=
        owing.mono fun key member => List.mem_cons_of_mem _ member
      refine (sendUpdateEvent_leads update alsoOwing).bind ?_
      rintro _ after ⟨owingAfter, same⟩
      refine (induction owingAfter).mono ?_ fun _ _ raised => raised
      rintro _ final ⟨owingFinal, sameFinal⟩
      exact ⟨owingFinal, sameFinal.database.trans same.database,
        sameFinal.pendingObjects.trans same.pendingObjects⟩

/-- Putting an object aside. -/
def parked (state : PendingUpdates α) (object : Object α) (proxy : Proxy) :
    PendingUpdates α := { state with
  pendingObjects :=
    if (proxy.id, object.key) ∈ state.pendingObjects then state.pendingObjects
    else state.pendingObjects ++ [(proxy.id, object.key)]
  history := state.history ++ [.parked object proxy.key state.find] }

theorem mem_parked {proxy : Proxy} {entry : Id × ObjectKey} :
    entry ∈ (state.parked object proxy).pendingObjects ↔
      entry ∈ state.pendingObjects ∨ entry = (proxy.id, object.key) := by
  unfold parked
  split
  · next known =>
      constructor
      · exact Or.inl
      · rintro (member | rfl)
        · exact member
        · exact known
  · simp

theorem length_parked (state : PendingUpdates α) (object : Object α) (proxy : Proxy) :
    (state.parked object proxy).pendingObjects.length ≤
      state.pendingObjects.length + 1 := by
  unfold parked
  split <;> simp

theorem Owing.park {proxy : Proxy} (owing : state.Owing (object.key :: owed))
    (referenced : Referenced state.find object proxy.key)
    (missing : state.find proxy.key = none) :
    (state.parked object proxy).Owing owed where
  justified waiting absent find member := by
    rcases List.mem_append.mp member with member | new
    · exact owing.justified waiting absent find member
    · cases List.mem_singleton.mp new
      exact ⟨referenced, missing⟩
  pending id key := by
    rw [mem_parked, owing.pending id key]
    refine Iff.trans ?_ waitsFor_parked.symm
    rw [Prod.mk.injEq]
    rfl
  resumed := owing.resumed.examine rfl
  keyed := owing.keyed

/-- The pop of `_send_pending_events`. -/
def popped (state : PendingUpdates α) (object : Object α) : PendingUpdates α :=
  { state with
    pendingObjects := state.pendingObjects.filter fun entry => entry.1 ≠ object.id
    history := state.history ++ [.arrived object.key] }

theorem mem_waiting {id : Id} {key : ObjectKey} :
    key ∈ state.waiting id ↔ (id, key) ∈ state.pendingObjects := by
  unfold waiting
  rw [List.mem_map]
  constructor
  · rintro ⟨⟨other, same⟩, member, rfl⟩
    rw [List.mem_filter, decide_eq_true_eq] at member
    exact member.2 ▸ member.1
  · intro member
    exact ⟨(id, key), by simpa using member, rfl⟩

theorem length_popped (state : PendingUpdates α) (object : Object α) :
    (state.popped object).pendingObjects.length + (state.waiting object.id).length =
      state.pendingObjects.length := by
  unfold popped waiting
  rw [List.length_map, Nat.add_comm]
  have parts := List.length_eq_length_filter_add (l := state.pendingObjects)
    (fun entry => decide (entry.1 = object.id))
  rw [parts]
  simp

theorem Owing.pop (owing : state.Owing owed) :
    (state.popped object).Owing (state.waiting object.id ++ owed) where
  justified waiting missing find member := by
    rcases List.mem_append.mp member with member | impossible
    · exact owing.justified waiting missing find member
    · cases List.mem_singleton.mp impossible
  pending id key := by
    refine Iff.trans ?_ waitsFor_arrived.symm
    rw [← owing.pending id key]
    unfold popped
    rw [List.mem_filter, decide_eq_true_eq]
    exact and_congr_right fun _ => ne_comm
  resumed := by
    refine (owing.resumed.mono fun key member => List.mem_append_right _ member).arrive ?_
    intro key waits
    exact List.mem_append_left _ (mem_waiting.mpr ((owing.pending _ key).mpr waits))
  keyed := owing.keyed

/-- What `_send_updates_for_object` does with an object: it examines it, and all
that was taken out of `_pending_objects` meanwhile. -/
def Sends (ids : Id → Prop) (owed : List ObjectKey) (object : Object α)
    (state after : PendingUpdates α) : Prop :=
  after.Owing owed ∧ after.database = state.database ∧
    after.pendingObjects.length ≤ state.pendingObjects.length + 1 ∧
    ((NbApi.get state.database object.key).isSome → after.ClosedOn ids)

variable (order : SetOrder) (update : Object α → Action α Unit)

theorem sendPendingEvents_leads {fuel : Nat} {ids : Id → Prop}
    {send : Object α → Handler α Unit}
    (sends : ∀ (item : Object α) (current : PendingUpdates α) (owed : List ObjectKey),
      current.Owing (item.key :: owed) → current.ClosedOn ids → ids item.id →
      current.pendingObjects.length < fuel →
      Leads (send item) current (fun _ after => Sends ids owed item current after)
        (fun error _ => ∃ raised, error = .raised raised))
    (owing : state.Owing owed) (closed : state.ClosedOn ids) (known : ids object.id)
    (enough : state.pendingObjects.length ≤ fuel) :
    Leads (sendPendingEvents order send object) state
      (fun _ after => after.Owing owed ∧ after.database = state.database ∧
        after.pendingObjects.length ≤ state.pendingObjects.length ∧ after.ClosedOn ids)
      (fun error _ => ∃ raised, error = .raised raised) := by
  unfold sendPendingEvents
  rw [leads_bind, leads_get, leads_bind, leads_set]
  have walked := order.perm (state.waiting object.id)
  have lengths := length_popped state object
  have sameLength := walked.length_eq
  -- What was walked is paid; the others are still owed.
  refine (Leads.loop (fun done (current : PendingUpdates α) => ∃ rest,
    order.walk (state.waiting object.id) = done ++ rest ∧ current.Owing (rest ++ owed) ∧
    current.database = state.database ∧ current.ClosedOn ids ∧
    current.pendingObjects.length ≤ (state.popped object).pendingObjects.length +
      done.length) _ ?_ ?_).mono ?_ fun _ _ raised => raised
  · rintro done key rest current split ⟨_, sameSplit, owingNow, sameDatabase, closedNow, less⟩
    rw [split] at sameSplit
    rw [← List.append_cancel_left sameSplit, List.cons_append] at owingNow
    have isWaiting : key ∈ state.waiting object.id := by
      refine walked.mem_iff.mp ?_
      rw [split]
      exact List.mem_append_right _ List.mem_cons_self
    rcases closed _ (mem_waiting.mp isWaiting) known with ⟨present, alsoKnown⟩
    rcases Option.isSome_iff_exists.mp present with ⟨item, isItem⟩
    have itemKey : item.key = key := by
      rcases Option.map_eq_some_iff.mp isItem with ⟨json, lookup, rfl⟩
      exact owing.keyed key json lookup
    rw [← itemKey] at alsoKnown
    unfold sendPendingObject
    rw [leads_bind, leads_get, sameDatabase, isItem]
    have shorter : current.pendingObjects.length < fuel := by
      have total := congrArg List.length split
      rw [List.length_append, List.length_cons] at total
      omega
    refine (sends item current (rest ++ owed) (itemKey ▸ owingNow) closedNow alsoKnown
      shorter).mono ?_ fun _ _ raised => raised
    rintro _ after ⟨owingAfter, database, length, closedAfter⟩
    refine ⟨rest, by rw [split]; simp, owingAfter, database.trans sameDatabase,
      closedAfter ?_, ?_⟩
    · rw [sameDatabase, itemKey, isItem]
      rfl
    · rw [List.length_append, List.length_singleton]
      omega
  · refine ⟨_, rfl, ?_, rfl, ?_, by exact Nat.le_add_right _ _⟩
    · refine owing.pop.mono fun key member => ?_
      rcases List.mem_append.mp member with member | member
      · exact List.mem_append_left _ (walked.mem_iff.mpr member)
      · exact List.mem_append_right _ member
    · exact fun entry member => closed entry (List.mem_filter.mp member).1
  · rintro _ after ⟨rest, split, owingAfter, database, closedAfter, length⟩
    have isNil : rest = [] := by simpa using split
    subst isNil
    exact ⟨owingAfter, database, by omega, closedAfter⟩

theorem sendUpdatesForObject_leads {ids : Id → Prop} (fuel : Nat) (object : Object α)
    (state : PendingUpdates α) (owed : List ObjectKey)
    (owing : state.Owing (object.key :: owed)) (closed : state.ClosedOn ids)
    (known : ids object.id) (enough : state.pendingObjects.length < fuel) :
    Leads (sendUpdatesForObject order update fuel object) state
      (fun _ after => Sends ids owed object state after)
      (fun error _ => ∃ raised, error = .raised raised) := by
  induction fuel generalizing object state owed with
  | zero => omega
  | succ fuel induction =>
      rw [sendUpdatesForObject, leads_bind, leads_get]
      cases outcome : state.references object with
      | error error =>
          cases error with
          | recursionError =>
              exact absurd outcome (iterModelReferencesDeep_ends
                (state.world.catalogue_covers state.database) (Nat.lt_succ_self _))
          | referencedObjectNotFound proxy =>
              rcases getModelReferencesDeep_raises outcome with ⟨referenced, missing⟩
              refine ⟨owing.park referenced missing, rfl, length_parked state object proxy,
                fun present entry member among => ?_⟩
              rcases mem_parked.mp member with member | rfl
              · exact closed entry member among
              · exact ⟨present, known⟩
      | ok references =>
          simp only
          refine (sendUpdateEvents_leads update references.reverse owing).bind ?_
          rintro _ sent ⟨owingSent, same⟩
          have closedSent : sent.ClosedOn ids := by
            intro entry member
            rw [same.database]
            exact closed entry (same.pendingObjects ▸ member)
          refine (sendPendingEvents_leads order (fun item current owed => induction item current
            owed) owingSent closedSent known ?_).mono ?_ fun _ _ raised => raised
          · rw [same.pendingObjects]
            omega
          · rintro _ after ⟨owingAfter, database, length, closedAfter⟩
            refine ⟨owingAfter, database.trans same.database, ?_, fun _ => closedAfter⟩
            rw [same.pendingObjects] at length
            omega

/-! ## Whole runs -/

variable (delete : ObjectKey → Action α Unit)

/-- The id under which an update event finds the objects that wait. -/
def Input.arriving : Input α → Option Id
  | .updateEvent object => some object.id
  | _ => none

/-- An exception of `update` or `delete` came out of a handler. -/
def interrupted : Except UpdateError Unit → Bool
  | .error (.raised _) => true
  | _ => false

/-- Whenever an object is updated, all objects that wait for it, directly or
through one another, are still in the database, and no `update` or `delete`
raises. -/
def Undisturbed : List (Input α) → PendingUpdates α → Prop
  | [], _ => True
  | input :: inputs, state =>
      (∀ id ∈ input.arriving, state.IntactFor id) ∧
      interrupted (exec (handle order update delete input) state).1 = false ∧
      Undisturbed inputs (exec (handle order update delete input) state).2

/-- A check that the run is undisturbed when all that arrives has one of the ids. -/
def undisturbedOn (ids : List Id) : List (Input α) → PendingUpdates α → Bool
  | [], _ => true
  | input :: inputs, state =>
      decide (∀ id ∈ input.arriving, id ∈ ids) && decide (state.ClosedOn (· ∈ ids)) &&
        !interrupted (exec (handle order update delete input) state).1 &&
        undisturbedOn ids inputs (exec (handle order update delete input) state).2

theorem undisturbed_of_undisturbedOn (ids : List Id) (inputs : List (Input α))
    (state : PendingUpdates α) (checked : undisturbedOn order update delete ids inputs state) :
    Undisturbed order update delete inputs state := by
  induction inputs generalizing state with
  | nil => trivial
  | cons input inputs induction =>
      simp only [undisturbedOn, Bool.and_eq_true, decide_eq_true_eq,
        Bool.not_eq_true'] at checked
      rcases checked with ⟨⟨⟨known, closed⟩, calm⟩, later⟩
      refine ⟨fun id arrives => ?_, calm, induction _ later⟩
      exact intactFor_iff.mpr ⟨(· ∈ ids), known id arrives, closed⟩

theorem handle_leads {input : Input α} (owing : state.Owing [])
    (intact : ∀ id ∈ input.arriving, state.IntactFor id) :
    Leads (handle order update delete input) state (fun _ after => after.Owing [])
      (fun error _ => ∃ raised, error = .raised raised) := by
  cases input with
  | write object =>
      refine ⟨owing.justified, owing.pending, owing.resumed, fun key json found => ?_⟩
      rw [Dict.lookup_insert_eq] at found
      split at found
      · next same =>
          cases found
          exact same.symm
      · exact owing.keyed key json found
  | remove key =>
      refine ⟨owing.justified, owing.pending, owing.resumed, fun other json found => ?_⟩
      rw [Dict.lookup_erase_eq] at found
      split at found
      · cases found
      · exact owing.keyed other json found
  | updateEvent object =>
      rcases intactFor_iff.mp (intact object.id rfl) with ⟨ids, known, closed⟩
      rw [handle, leads_bind, leads_get]
      exact (sendUpdatesForObject_leads order update _ object state []
        (owing.mono fun _ member => absurd member List.not_mem_nil) closed known
        (Nat.lt_succ_self _)).mono (fun _ _ sent => sent.1) fun _ _ raised => raised
  | deleteEvent key =>
      refine (onWorld_leads (delete key) state).mono ?_ fun _ _ raised => raised.1
      rintro _ after ⟨world, rfl⟩
      exact owing.world world

theorem owing_initial (stale : Address → Bool) :
    (initial stale : PendingUpdates α).Owing [] where
  justified object missing find member := by cases member
  pending id key := by
    constructor
    · intro member
      cases member
    · rintro ⟨before, object, missing, find, after, split, _⟩
      exact absurd split.symm (by simp [initial])
  resumed before arrived after split := absurd split.symm (by simp [initial])
  keyed key json found := by cases found

theorem undisturbed_owing (inputs : List (Input α)) {state : PendingUpdates α}
    (owing : state.Owing []) (undisturbed : Undisturbed order update delete inputs state) :
    (∀ result ∈ (trace (handle order update delete) inputs state).1, result = .ok ()) ∧
      (trace (handle order update delete) inputs state).2.Owing [] := by
  induction inputs generalizing state with
  | nil => exact ⟨fun _ member => absurd member List.not_mem_nil, owing⟩
  | cons input inputs induction =>
      rcases undisturbed with ⟨intact, calm, later⟩
      have leads := handle_leads order update delete owing intact
      rcases executed : exec (handle order update delete input) state with
        ⟨error | ⟨⟩, after⟩
      · rcases leads.of_error executed with ⟨raised, rfl⟩
        rw [executed] at calm
        cases calm
      · rw [executed] at later
        have rest := induction (leads.of_ok executed) later
        simp only [trace, executed, List.mem_cons, forall_eq_or_imp]
        exact ⟨⟨trivial, rest.1⟩, rest.2⟩

/-- No update is lost in a run in which no object leaves the database while it
waits for one that arrives. -/
theorem pending_updates_kept (stale : Address → Bool) (inputs : List (Input α))
    (undisturbed : Undisturbed order update delete inputs (initial stale)) :
    let reached := trace (handle order update delete) inputs (initial stale)
    (∀ result ∈ reached.1, result = .ok ()) ∧ reached.2.NothingLost := by
  have kept := undisturbed_owing order update delete inputs (owing_initial stale) undisturbed
  exact ⟨kept.1, kept.2.nothingLost⟩

/-! ## Two ports that arrive before their switch -/

section Ports

open Models

/-- `update_model_object`, in a controller without applications. -/
def updateModelObject [DecidableEq α] (order : SetOrder) (object : Object α) :
    Action α Unit := do
  let original ← DbStore.getOne object none
  if ← Program.ofExcept (isNewer object original) then
    DbStore.update order object
  else
    pure ()

/-- `delete_model_object`, in a controller without applications. -/
def deleteModelObject [DecidableEq α] (order : SetOrder) (key : ObjectKey) :
    Action α Unit := do
  getCache key.1
  let world ← get
  match world.stored key with
  | none => pure ()
  | some object => DbStore.delete order object

def firstPort : Object Unit := attachedPort 1 "p" "t" 7 ⟨2, logicalSwitch, "s"⟩

def secondPort : Object Unit := attachedPort 3 "q" "t" 8 ⟨4, logicalSwitch, "s"⟩

def portsFirst : List (Input Unit) :=
  [.write firstPort, .updateEvent firstPort, .write secondPort, .updateEvent secondPort]

def switchArrives : List (Input Unit) :=
  [.write (switch 5 "s" "t" 1 1), .updateEvent (switch 5 "s" "t" 1 1)]

/-- A port of another switch, deleted while it waits. -/
def portGone : List (Input Unit) :=
  let port := attachedPort 6 "r" "t" 9 ⟨7, logicalSwitch, "other"⟩
  [.write port, .updateEvent port, .remove port.key, .deleteEvent port.key]

/-- Both ports wait for the switch, and are updated when it arrives; the port that
is gone waits for another. -/
theorem pending_updates_kept_two_ports :
    let reached := trace (handle .insertion (updateModelObject .insertion)
      (deleteModelObject .insertion)) (portsFirst ++ portGone ++ switchArrives)
      (initial fun _ => false)
    (∀ result ∈ reached.1, result = .ok ()) ∧ reached.2.NothingLost := by
  refine pending_updates_kept _ _ _ (fun _ => false) (portsFirst ++ portGone ++ switchArrives)
    (undisturbed_of_undisturbedOn _ _ _ ["p", "q", "r", "s"] _ _ ?_)
  decide +kernel

/-- The key of an examined object, and what it was put aside for; or the key of an
object that arrived. -/
def label : Happening α → (ObjectKey × Option ObjectKey) ⊕ ObjectKey
  | .passed object => .inl (object.key, none)
  | .parked object missing _ => .inl (object.key, some missing)
  | .arrived key => .inr key

theorem label_parked {happening : Happening α} {key missing : ObjectKey}
    (isParked : label happening = .inl (key, some missing)) :
    ∃ object find, happening = .parked object missing find ∧ object.key = key := by
  cases happening with
  | parked object absent find =>
      cases isParked
      exact ⟨object, find, rfl, rfl⟩
  | _ => cases isParked

theorem label_arrived {happening : Happening α} {key : ObjectKey}
    (hasArrived : label happening = .inr key) : happening = .arrived key := by
  cases happening <;> cases hasArrived
  rfl

/-- The first port is deleted while it waits. When the switch arrives, the second
port is lost. -/
theorem pending_updates_lost :
    let reached := trace (handle .insertion (updateModelObject .insertion)
      (deleteModelObject .insertion)) (portsFirst ++
        [.remove firstPort.key, .deleteEvent firstPort.key] ++ switchArrives)
      (initial fun _ => false)
    (NbApi.get reached.2.database secondPort.key).isSome ∧ ¬ reached.2.NothingLost := by
  intro reached
  have labels : reached.2.history.map label =
      [.inl (firstPort.key, some (logicalSwitch, "s")),
        .inl (secondPort.key, some (logicalSwitch, "s")),
        .inl ((logicalSwitch, "s"), none), .inr (logicalSwitch, "s")] := by decide +kernel
  refine ⟨by decide +kernel, fun nothingLost => ?_⟩
  rcases List.map_eq_cons_iff.mp labels with ⟨first, _, split, _, fromSecond⟩
  rcases List.map_eq_cons_iff.mp fromSecond with ⟨second, _, rfl, isSecond, fromThird⟩
  rcases List.map_eq_cons_iff.mp fromThird with ⟨third, _, rfl, isThird, fromFourth⟩
  rcases List.map_eq_cons_iff.mp fromFourth with ⟨fourth, rest, rfl, isFourth, noMore⟩
  rcases label_parked isSecond with ⟨port, find, rfl, isPort⟩
  rcases label_arrived isFourth with rfl
  have noRest : rest = [] := List.map_eq_nil_iff.mp noMore
  rw [noRest] at split
  have waits : WaitsFor [first, .parked port (logicalSwitch, "s") find, third] "s"
      secondPort.key := by
    refine ⟨[first], port, (logicalSwitch, "s"), find, [third], rfl, isPort, rfl, ?_⟩
    intro other member
    rw [← List.mem_singleton.mp member] at isThird
    cases isThird
  rcases nothingLost.resumed _ (logicalSwitch, "s") [] split secondPort.key waits with
    impossible | ⟨_, impossible, _⟩
  · cases impossible
  · cases impossible

end Ports

end PendingUpdates

end Dragonflow
