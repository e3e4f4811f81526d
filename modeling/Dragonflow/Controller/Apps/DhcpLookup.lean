import Dragonflow.Db.DistinctQueries
import Dragonflow.Db.ProxyCoherence

/-! # The DHCP server of a network

`_get_dhcp_port_by_network` of `dragonflow/controller/apps/dhcp.py`. The switch with the
key of the network is looked up first, and then the port that is a DHCP server on it. An
absent switch is a wildcard of the second query.
-/

namespace Dragonflow

open Program

variable {α : Type} [DecidableEq α]

/-! ## Where keys come from -/

namespace World

omit [DecidableEq α] in
/-- Every object that a proxy stands for was stored in an update of the history. -/
def FromHistory (world : World α) (history : List (CacheEvent α)) : Prop :=
  ∀ proxy target, world.resolve proxy = some target →
    target.key = (proxy.model, proxy.id) ∧ ∃ keys, .updated target keys ∈ history

/-- The keys of an update were computed where proxies stood for objects of the history. -/
def Grounded (world : World α) : Prop :=
  ∀ object keys, .updated object keys ∈ world.history → ∃ earlier : World α,
    keys = earlier.keysAt object ∧ earlier.FromHistory world.history

/-- The indexes, the proxies and the keys all come from the history. -/
structure Rooted (world : World α) : Prop where
  consistent : world.Consistent
  coherent : world.Coherent
  grounded : world.Grounded

theorem fromHistory {world : World α} (consistent : world.Consistent)
    (coherent : world.Coherent) : world.FromHistory world.history := by
  intro proxy target resolved
  rw [coherent, consistent.objects, Option.map_eq_some_iff] at resolved
  rcases resolved with ⟨⟨object, keys⟩, last, same⟩
  cases same
  rcases lastUpdate_eq_some last with ⟨isKey, member⟩
  exact ⟨isKey, keys, member⟩

omit [DecidableEq α] in
theorem FromHistory.mono {world : World α} {before after : List (CacheEvent α)}
    (fromHistory : world.FromHistory before) (kept : ∀ event ∈ before, event ∈ after) :
    world.FromHistory after := by
  intro proxy target resolved
  rcases fromHistory proxy target resolved with ⟨isKey, keys, member⟩
  exact ⟨isKey, keys, kept _ member⟩

theorem Grounded.congr {before after : World α} (grounded : before.Grounded)
    (history : after.history = before.history) : after.Grounded := by
  intro object keys member
  rw [history] at member ⊢
  exact grounded object keys member

theorem Grounded.push {before after : World α} {event : CacheEvent α}
    (grounded : before.Grounded) (history : after.history = event :: before.history)
    (isGrounded : ∀ object keys, event = .updated object keys →
      keys = before.keysAt object ∧ before.FromHistory before.history) :
    after.Grounded := by
  have kept : ∀ old ∈ before.history, old ∈ event :: before.history :=
    fun _ member => List.mem_cons_of_mem _ member
  intro object keys member
  rw [history] at member ⊢
  rcases List.mem_cons.mp member with same | member
  · rcases isGrounded object keys same.symm with ⟨isKeys, fromHistory⟩
    exact ⟨before, isKeys, fromHistory.mono kept⟩
  · rcases grounded object keys member with ⟨earlier, isKeys, fromHistory⟩
    exact ⟨earlier, isKeys, fromHistory.mono kept⟩

theorem rooted_invariant :
    StoreInvariant (World.Rooted : World α → Prop) (fun _ => True) where
  weaker _ _ := trivial
  alike before after alike rooted :=
    ⟨rooted.consistent.alike alike, coherent_invariant.alike _ _ alike rooted.coherent,
      rooted.grounded.congr alike.history⟩
  forget world proxy rooted :=
    ⟨rooted.consistent.congr (fun _ => rfl) rfl,
      coherent_invariant.forget world proxy rooted.coherent, rooted.grounded.congr rfl⟩
  setEmbedded _ _ rooted :=
    ⟨rooted.consistent.congr (fun _ => rfl) rfl, rooted.coherent,
      rooted.grounded.congr rfl⟩
  setRefs _ _ rooted :=
    ⟨rooted.consistent.congr (fun _ => rfl) rfl, rooted.coherent,
      rooted.grounded.congr rfl⟩
  update object := by
    intro world rooted
    have agreed := (ModelCache.update_maintains object world rooted.consistent).and
      (ModelCache.update_coherent object world rooted.coherent)
    refine (agreed.and (ModelCache.update_leads object world)).mono ?_ fun _ _ _ => trivial
    intro _ after both
    rcases both with ⟨⟨consistent, coherent⟩, middle, reindexed, isAfter⟩
    have history : after.history = .updated object (world.keysAt object) :: world.history := by
      rw [isAfter, history_storeObject, reindexed.history]
      rfl
    refine ⟨consistent, coherent, rooted.grounded.push history ?_⟩
    intro other keys same
    cases same
    exact ⟨rfl, World.fromHistory rooted.consistent rooted.coherent⟩
  delete key := by
    intro world rooted
    have agreed := (ModelCache.delete_maintains key world rooted.consistent).and
      (ModelCache.delete_coherent key world rooted.coherent)
    refine (agreed.and (ModelCache.delete_leads key world)).mono ?_ fun _ _ _ => trivial
    intro _ after both
    rcases both with ⟨⟨consistent, coherent⟩, middle, old, reindexed, _, isAfter⟩
    have history : after.history = .deleted key :: world.history := by
      rw [isAfter, history_dropObject, reindexed.history]
    refine ⟨consistent, coherent, rooted.grounded.push history ?_⟩
    intro other keys impossible
    cases impossible

theorem Served.rooted {order : SetOrder} {world : World α} (served : world.Served order) :
    world.Rooted := by
  refine rooted_invariant.served ?_ served
  intro stale
  refine ⟨consistent_initial stale, coherent_initial stale, ?_⟩
  intro object keys member
  cases member

end World

/-! ## Fields that hold values of their types -/

/-- A value of a field that can be unset. -/
def Value.ofOption : Option (Scalar α) → Value α
  | Option.none => .none
  | Option.some value => .scalar value

omit [DecidableEq α] in
/-- The keys of switches are integers, and a port has the name of its owner and refers to
its switch, where these are set. -/
structure Object.FieldsTyped (object : Object α) : Prop where
  uniqueKey : object.model = Models.logicalSwitch → ∃ uniqueKey : Option Int,
    object.read "unique_key" = .ok (Value.ofOption (uniqueKey.map .int))
  deviceOwner : object.model = Models.logicalPort → ∃ owner : Option String,
    object.read "device_owner" = .ok (Value.ofOption (owner.map .str))
  lswitch : object.model = Models.logicalPort → object.read "lswitch" = .ok .none ∨
    ∃ proxy, object.read "lswitch" = .ok (.proxy proxy) ∧
      proxy.model = Models.logicalSwitch

omit [DecidableEq α] in
/-- Whatever was stored had fields of the declared types. -/
def World.FieldsTyped (world : World α) : Prop :=
  ∀ object keys, .updated object keys ∈ world.history → object.FieldsTyped

omit [DecidableEq α] in
theorem World.FieldsTyped.congr {before after : World α} (typed : before.FieldsTyped)
    (history : after.history = before.history) : after.FieldsTyped := by
  intro object keys member
  rw [history] at member
  exact typed object keys member

namespace DHCPApp

/-- `LogicalSwitch.get_index('unique_key')` -/
def uniqueKeyIndex : Index := [["unique_key"]]

/-- `LogicalPort.get_index('switch,owner')` -/
def switchOwnerIndex : Index := [["lswitch", "unique_key"], ["device_owner"]]

/-- `DEVICE_OWNER_DHCP` -/
def deviceOwnerDhcp : String := "network:dhcp"

section Keys

variable {world : World α} {object : Object α} {key owner : Option (Scalar α)}

omit [DecidableEq α] in
theorem getattr_of_read {name : FieldName} {value : Value α}
    (read : object.read name = .ok value) :
    getattr (.object object) name = (pure value : Action α (Value α)) := by
  rw [getattr, read]
  rfl

theorem keysAt_of_leads {index : Index} {keys : List (Key α)}
    (leads : Leads (IndexCache.getKeys object index) world (fun found _ => found = keys)
      (fun _ _ => False)) : world.keysAt object index = .ok keys := by
  rcases leads.returned with ⟨found, after, executed, same⟩
  rw [World.keysAt, executed, same]

theorem getKeyElement_field {name : FieldName}
    (read : object.read name = .ok (Value.ofOption key)) :
    Leads (IndexCache.getKeyElement object [name]) world (fun element _ => element = [key])
      (fun _ _ => False) := by
  unfold IndexCache.getKeyElement IndexCache.walkPath IndexCache.advance
  rw [getattr_of_read read]
  cases key with
  | none => rfl
  | some value => rfl

theorem keysAt_uniqueKey (read : object.read "unique_key" = .ok (Value.ofOption key)) :
    world.keysAt object uniqueKeyIndex = .ok [[key]] := by
  apply keysAt_of_leads
  unfold IndexCache.getKeys uniqueKeyIndex IndexCache.getKeyElements
  simp only [leads_bind]
  refine (getKeyElement_field read).mono ?_ fun _ _ impossible => impossible
  intro element after isElement
  rw [isElement]
  rfl

/-- What the path of a port to the key of its switch gives. -/
def SwitchKey (world : World α) (port : Object α) (key : Option (Scalar α)) : Prop :=
  port.read "lswitch" = .ok .none ∧ key = none ∨
    ∃ proxy target, port.read "lswitch" = .ok (.proxy proxy) ∧
      world.resolve proxy = some target ∧
      target.read "unique_key" = .ok (Value.ofOption key)

theorem getKeyElement_switchKey (isKey : SwitchKey world object key) :
    Leads (IndexCache.getKeyElement object ["lswitch", "unique_key"]) world
      (fun element _ => element = [key]) (fun _ _ => False) := by
  unfold IndexCache.getKeyElement IndexCache.walkPath IndexCache.advance
  rcases isKey with ⟨read, isNone⟩ | ⟨proxy, target, read, resolved, targetRead⟩
  · rw [getattr_of_read read, isNone]
    rfl
  · have through : Leads (getattr (.proxy proxy) "unique_key") world
        (fun value _ => value = Value.ofOption key) (fun _ _ => False) := by
      rw [getattr, if_neg (by decide)]
      refine (proxy.getObject_leads world).bind fun found after isFound => ?_
      rw [isFound.1, resolved]
      simp only [targetRead]
      rfl
    rw [getattr_of_read read]
    simp only [leads_bind, leads_pure, IndexCache.advance, IndexCache.walkPath]
    refine through.mono ?_ fun _ _ impossible => impossible
    intro value after isValue
    rw [isValue]
    cases key with
    | none => rfl
    | some found => rfl

theorem keysAt_switchOwner (isKey : SwitchKey world object key)
    (isOwner : object.read "device_owner" = .ok (Value.ofOption owner)) :
    world.keysAt object switchOwnerIndex = .ok [[key, owner]] := by
  apply keysAt_of_leads
  unfold IndexCache.getKeys switchOwnerIndex IndexCache.getKeyElements
  simp only [leads_bind]
  refine (getKeyElement_switchKey isKey).mono ?_ fun _ _ impossible => impossible
  intro element after isElement
  rw [isElement]
  unfold IndexCache.getKeyElements
  simp only [leads_bind]
  refine (getKeyElement_field isOwner).mono ?_ fun _ _ impossible => impossible
  intro second last isSecond
  rw [isSecond]
  rfl

/-- A port whose switch is missing has no keys. -/
theorem keysAt_dangling {proxy : Proxy} (read : object.read "lswitch" = .ok (.proxy proxy))
    (missing : world.resolve proxy = none) (keys : List (Key α)) :
    world.keysAt object switchOwnerIndex ≠ .ok keys := by
  intro computed
  have raises : Leads (IndexCache.getKeys object switchOwnerIndex) world
      (fun _ _ => False) (fun _ _ => True) := by
    have through : Leads (getattr (.proxy proxy) "unique_key" : Action α (Value α)) world
        (fun _ _ => False) (fun _ _ => True) := by
      rw [getattr, if_neg (by decide)]
      refine (proxy.getObject_leads world).returning.bind fun found after isFound => ?_
      rw [isFound.1, missing]
      trivial
    unfold IndexCache.getKeys switchOwnerIndex IndexCache.getKeyElements
      IndexCache.getKeyElement IndexCache.walkPath IndexCache.advance
    rw [getattr_of_read read]
    simp only [leads_bind, leads_pure, IndexCache.advance, IndexCache.walkPath]
    exact through.mono (fun _ _ impossible => impossible.elim) fun _ _ _ => trivial
  unfold World.keysAt at computed
  rcases executed : exec (IndexCache.getKeys object switchOwnerIndex) world with
    ⟨result, after⟩
  rw [executed] at computed
  exact raises.of_ok (executed.trans (congrArg (·, after) computed))

end Keys

/-! ## What the indexes know of switches and ports -/

section Filed

variable {world : World α} {id : Id} {object : Object α}
  {keys : Index → Except PyError (List (Key α))}

theorem filed_switch (rooted : world.Rooted) (typed : world.FieldsTyped)
    (last : World.lastUpdate world.history (Models.logicalSwitch, id) = some (object, keys)) :
    ∃ uniqueKey : Option Int,
      object.read "unique_key" = .ok (Value.ofOption (uniqueKey.map .int)) ∧
      keys uniqueKeyIndex = .ok [[uniqueKey.map .int]] := by
  rcases World.lastUpdate_eq_some last with ⟨isKey, member⟩
  rcases rooted.grounded object keys member with ⟨earlier, isKeys, _⟩
  rcases (typed object keys member).uniqueKey (congrArg Prod.fst isKey) with
    ⟨uniqueKey, read⟩
  refine ⟨uniqueKey, read, ?_⟩
  rw [isKeys]
  exact keysAt_uniqueKey read

theorem filed_port (rooted : world.Rooted) (typed : world.FieldsTyped)
    (last : World.lastUpdate world.history (Models.logicalPort, id) = some (object, keys))
    {recorded : List (Key α)} (computed : keys switchOwnerIndex = .ok recorded) :
    ∃ (key : Option (Scalar α)) (owner : Option String),
      object.read "device_owner" = .ok (Value.ofOption (owner.map .str)) ∧
      recorded = [[key, owner.map .str]] := by
  rcases World.lastUpdate_eq_some last with ⟨isKey, member⟩
  rcases rooted.grounded object keys member with ⟨earlier, isKeys, fromHistory⟩
  have fields := typed object keys member
  have isPort : object.model = Models.logicalPort := congrArg Prod.fst isKey
  rcases fields.deviceOwner isPort with ⟨owner, ownerRead⟩
  rw [isKeys] at computed
  have switchKey : ∃ key, SwitchKey earlier object key := by
    rcases fields.lswitch isPort with unset | ⟨proxy, read, isProxy⟩
    · exact ⟨none, Or.inl ⟨unset, rfl⟩⟩
    · cases resolved : earlier.resolve proxy with
      | none => exact absurd computed (keysAt_dangling read resolved recorded)
      | some target =>
          rcases fromHistory proxy target resolved with ⟨isTarget, targetKeys, targetMember⟩
          have isSwitch : target.model = Models.logicalSwitch :=
            (congrArg Prod.fst isTarget).trans isProxy
          rcases (typed target targetKeys targetMember).uniqueKey isSwitch with
            ⟨uniqueKey, targetRead⟩
          exact ⟨_, Or.inr ⟨proxy, target, read, resolved, targetRead⟩⟩
  rcases switchKey with ⟨key, isSwitchKey⟩
  refine ⟨key, owner, ownerRead, ?_⟩
  have isRecorded := keysAt_switchOwner isSwitchKey ownerRead
  exact Except.ok.inj (computed.symm.trans isRecorded)

end Filed

/-! ## The lookup -/

/-- The switch as the value of a reference field. -/
def referTo (address : Address) : Option (Object α) → Action α (Value α)
  | none => return .none
  | some lswitch => do
      let proxy : Proxy := ⟨address, Models.logicalSwitch, lswitch.id⟩
      proxy.create true
      return .proxy proxy

def switchQuery (networkUniqueKey : Int) : Object α :=
  DbStore.query Models.logicalSwitch [("unique_key", .scalar (.int networkUniqueKey))]

def portQuery (lswitch : Value α) : Object α :=
  DbStore.query Models.logicalPort
    [("device_owner", .scalar (.str deviceOwnerDhcp)), ("lswitch", lswitch)]

/-- `_get_dhcp_port_by_network`, where the reference of the query gets the address. -/
def getDhcpPortByNetwork (address : Address) (networkUniqueKey : Int) :
    Action α (Option (Object α)) := do
  let lswitch ← DbStore.getOne (switchQuery networkUniqueKey) (some uniqueKeyIndex)
  let reference ← referTo address lswitch
  DbStore.getOne (portQuery reference) (some switchOwnerIndex)

section Outcomes

variable (world : World α) (networkUniqueKey : Int)

/-- A stored switch with the key. -/
def SwitchOf (lswitch : Object α) : Prop :=
  lswitch.model = Models.logicalSwitch ∧ world.stored lswitch.key = some lswitch ∧
    lswitch.read "unique_key" = .ok (.scalar (.int networkUniqueKey))

/-- A stored DHCP port of any network. -/
def DhcpPort (port : Object α) : Prop :=
  port.model = Models.logicalPort ∧ world.stored port.key = some port ∧
    port.read "device_owner" = .ok (.scalar (.str deviceOwnerDhcp))

/-- A stored DHCP port whose switch has the key. -/
def DhcpPortOf (port : Object α) : Prop :=
  DhcpPort world port ∧ ∃ proxy lswitch, port.read "lswitch" = .ok (.proxy proxy) ∧
    lswitch.key = (Models.logicalSwitch, proxy.id) ∧ SwitchOf world networkUniqueKey lswitch

/-- There are several DHCP ports whose switches have the key. -/
def SeveralPorts : Prop :=
  ∃ port other : Object α, port.id ≠ other.id ∧ DhcpPortOf world networkUniqueKey port ∧
    DhcpPortOf world networkUniqueKey other

/-- The lookup returns only a DHCP port of the network, and nothing if there is none, and
raises only if there are several. -/
def StaysWithin (address : Address) : Prop :=
  Leads (getDhcpPortByNetwork address networkUniqueKey) world
    (fun result _ => (∀ port, result = some port → DhcpPortOf world networkUniqueKey port) ∧
      ((∀ port, ¬DhcpPortOf world networkUniqueKey port) → result = none))
    (fun _ _ => SeveralPorts world networkUniqueKey)

/-- What the query for ports finds by a key of the switch, or by the wildcard. -/
def Filed (key : Option (Scalar α)) (id : Id) : Prop :=
  world.Finds Models.logicalPort switchOwnerIndex [[key, some (.str deviceOwnerDhcp)]] id

/-- What was found is nothing, or a port of the network, or it is several while several
ports are of the network. -/
def FiledSafely (filed : Id → Prop) : Prop :=
  (∀ id, ¬filed id) ∨
    (∃ port, DhcpPortOf world networkUniqueKey port ∧ ∀ id, filed id ↔ id = port.id) ∨
    (∃ id other, id ≠ other ∧ filed id ∧ filed other) ∧ SeveralPorts world networkUniqueKey

/-- No switch has the key and there is no DHCP port at all, or one switch has it and the
index files the right ports under it, or several switches and several ports have it. -/
def LookupSafe : Prop :=
  ((∀ lswitch, ¬SwitchOf world networkUniqueKey lswitch) ∧ ∀ port, ¬DhcpPort world port) ∨
    ((∃ lswitch, SwitchOf world networkUniqueKey lswitch ∧
        ∀ other, SwitchOf world networkUniqueKey other → other = lswitch) ∧
      FiledSafely world networkUniqueKey
        (Filed world (some (.int networkUniqueKey)))) ∨
    (∃ lswitch other, lswitch.id ≠ other.id ∧ SwitchOf world networkUniqueKey lswitch ∧
        SwitchOf world networkUniqueKey other) ∧
      SeveralPorts world networkUniqueKey

end Outcomes

/-! ## One answer, none, or several -/

theorem none_one_or_several (holds : Id → Prop) :
    (∀ id, ¬holds id) ∨ (∃ id, holds id ∧ ∀ other, holds other → other = id) ∨
      ∃ id other, id ≠ other ∧ holds id ∧ holds other := by
  by_cases isSome : ∃ id, holds id
  · rcases isSome with ⟨id, held⟩
    by_cases unique : ∀ other, holds other → other = id
    · exact Or.inr (Or.inl ⟨id, held, unique⟩)
    · simp only [not_forall] at unique
      rcases unique with ⟨other, otherHeld, different⟩
      exact Or.inr (Or.inr ⟨other, id, different, otherHeld, held⟩)
  · exact Or.inl fun id held => isSome ⟨id, held⟩

section Answers

variable {world : World α} {query : Object α} {index : Index}

theorem getOne_of_none (once : world.AnsweredOnce query index)
    (isNone : ∀ id, ¬world.Answers query index id) :
    Leads (DbStore.getOne query (some index)) world (fun result _ => result = none)
      (fun _ _ => False) := by
  refine once.getOne.mono ?_ ?_
  · intro result _ answered
    rcases answered with answered | ⟨id, _, _, _, answers, _⟩
    · exact answered.1
    · exact absurd answers (isNone id)
  · intro error _ raised
    rcases raised.2 with ⟨id, _, _, answers, _⟩
    exact isNone id answers

theorem getOne_of_one (once : world.AnsweredOnce query index) {id : Id}
    (answers : world.Answers query index id)
    (only : ∀ other, world.Answers query index other → other = id) :
    Leads (DbStore.getOne query (some index)) world
      (fun result _ => ∃ object, result = some object ∧
        world.stored (query.model, id) = some object)
      (fun _ _ => False) := by
  refine once.getOne.mono ?_ ?_
  · intro result _ answered
    rcases answered with answered | ⟨other, object, isResult, stored, otherAnswers, _⟩
    · exact absurd answers (answered.2 id)
    · rw [only other otherAnswers] at stored
      exact ⟨object, isResult, stored⟩
  · intro error _ raised
    rcases raised.2 with ⟨first, second, different, firstAnswers, secondAnswers⟩
    exact different ((only first firstAnswers).trans (only second secondAnswers).symm)

theorem getOne_of_several (once : world.AnsweredOnce query index) {id other : Id}
    (different : id ≠ other) (answers : world.Answers query index id)
    (otherAnswers : world.Answers query index other) :
    Leads (DbStore.getOne query (some index)) world (fun _ _ => False)
      (fun error _ => error = .valueError) := by
  refine once.getOne.mono ?_ fun _ _ raised => raised.1
  intro result _ answered
  rcases answered with answered | ⟨found, _, _, _, _, only⟩
  · exact answered.2 id answers
  · exact different ((only id answers).trans (only other otherAnswers).symm)

end Answers

/-! ## The two queries -/

section Queries

variable {world : World α} {networkUniqueKey : Int} {key : Option (Scalar α)} {id : Id}

omit [DecidableEq α] in
theorem metOnce_of_singletons {model : Model} {index : Index} {query : Key α}
    (single : ∀ id object keys recorded,
      World.lastUpdate world.history (model, id) = some (object, keys) →
      keys index = .ok recorded → ∃ key, recorded = [key]) :
    world.MetOnce model index [query] := by
  intro id object keys recorded last computed first isFirst second isSecond stored isStored
    other isOther _ _
  rcases single id object keys recorded last computed with ⟨key, isRecorded⟩
  rw [isRecorded] at isStored isOther
  rw [List.mem_singleton] at isFirst isSecond isStored isOther
  exact ⟨isFirst.trans isSecond.symm, isStored.trans isOther.symm⟩

theorem switchQuery_once (rooted : world.Rooted) (distinct : world.Distinct)
    (typed : world.FieldsTyped) :
    world.AnsweredOnce (switchQuery networkUniqueKey) uniqueKeyIndex := by
  have computed : world.keysAt (switchQuery networkUniqueKey) uniqueKeyIndex =
      .ok [[some (.int networkUniqueKey)]] := keysAt_uniqueKey rfl
  have declared : uniqueKeyIndex ∈ Models.logicalSwitch.cachedIndexes := by decide
  refine rooted.consistent.answeredOnce_of_metOnce distinct declared computed ?_
  refine metOnce_of_singletons fun id object keys recorded last isRecorded => ?_
  rcases filed_switch rooted typed last with ⟨uniqueKey, _, isKeys⟩
  exact ⟨_, Except.ok.inj (isRecorded.symm.trans isKeys)⟩

theorem switchQuery_answers (rooted : world.Rooted) (typed : world.FieldsTyped) :
    world.Answers (switchQuery networkUniqueKey) uniqueKeyIndex id ↔
      ∃ lswitch, SwitchOf world networkUniqueKey lswitch ∧ lswitch.id = id := by
  have computed : world.keysAt (switchQuery networkUniqueKey) uniqueKeyIndex =
      .ok [[some (.int networkUniqueKey)]] := keysAt_uniqueKey rfl
  rw [World.answers_key (by decide) computed]
  constructor
  · intro finds
    rcases finds with ⟨object, keys, recorded, stored, last, isRecorded, key, member, query,
      isQuery, matched⟩
    rcases filed_switch rooted typed last with ⟨uniqueKey, read, isKeys⟩
    cases isRecorded.symm.trans isKeys
    rw [List.mem_singleton.mp member, List.mem_singleton.mp isQuery] at matched
    have isKey : object.key = (Models.logicalSwitch, id) :=
      rooted.consistent.key_of_stored stored
    cases matched with
    | cons head _ =>
        have isUniqueKey := head.resolve_left (Option.some_ne_none _)
        rw [← isUniqueKey] at read
        refine ⟨object, ⟨congrArg Prod.fst isKey, ?_, read⟩, congrArg Prod.snd isKey⟩
        rw [isKey]
        exact stored
  · intro found
    rcases found with ⟨lswitch, ⟨isSwitch, stored, read⟩, isId⟩
    have isKey : lswitch.key = (Models.logicalSwitch, id) := Prod.ext isSwitch isId
    rw [isKey] at stored
    have objects := rooted.consistent.objects (Models.logicalSwitch, id)
    rw [stored, eq_comm, Option.map_eq_some_iff] at objects
    rcases objects with ⟨⟨object, keys⟩, last, same⟩
    cases same
    rcases filed_switch rooted typed last with ⟨uniqueKey, lastRead, isKeys⟩
    have isUniqueKey : uniqueKey = some networkUniqueKey := by
      cases uniqueKey with
      | none => cases read.symm.trans lastRead
      | some number =>
          cases read.symm.trans lastRead
          rfl
    refine ⟨object, keys, _, stored, last, isKeys, _, List.mem_singleton_self _, _,
      List.mem_singleton_self _, ?_⟩
    rw [isUniqueKey]
    exact List.Forall₂.cons (Or.inr rfl) List.Forall₂.nil

theorem portQuery_once (rooted : world.Rooted) (distinct : world.Distinct)
    (typed : world.FieldsTyped) {reference : Value α}
    (computed : world.keysAt (portQuery reference) switchOwnerIndex =
      .ok [[key, some (.str deviceOwnerDhcp)]]) :
    world.AnsweredOnce (portQuery reference) switchOwnerIndex := by
  have declared : switchOwnerIndex ∈ Models.logicalPort.cachedIndexes := by decide
  refine rooted.consistent.answeredOnce_of_metOnce distinct declared computed ?_
  refine metOnce_of_singletons fun id object keys recorded last isRecorded => ?_
  rcases filed_port rooted typed last isRecorded with ⟨filedKey, owner, _, isSingle⟩
  exact ⟨_, isSingle⟩

/-- The wildcard finds the DHCP ports of all networks. -/
theorem filed_wildcard (rooted : world.Rooted) (typed : world.FieldsTyped) :
    Filed world none id ↔ ∃ port, DhcpPort world port ∧ port.id = id := by
  constructor
  · intro filed
    rcases filed with ⟨object, keys, recorded, stored, last, isRecorded, found, member, query,
      isQuery, matched⟩
    rcases filed_port rooted typed last isRecorded with ⟨filedKey, owner, read, isSingle⟩
    rw [isSingle] at member
    rw [List.mem_singleton.mp member, List.mem_singleton.mp isQuery] at matched
    have isKey : object.key = (Models.logicalPort, id) :=
      rooted.consistent.key_of_stored stored
    cases matched with
    | cons _ rest =>
        cases rest with
        | cons head _ =>
            have isOwner := head.resolve_left (Option.some_ne_none _)
            rw [← isOwner] at read
            refine ⟨object, ⟨congrArg Prod.fst isKey, ?_, read⟩, congrArg Prod.snd isKey⟩
            rw [isKey]
            exact stored
  · intro found
    rcases found with ⟨port, ⟨isPort, stored, read⟩, isId⟩
    have isKey : port.key = (Models.logicalPort, id) := Prod.ext isPort isId
    rw [isKey] at stored
    have declared : switchOwnerIndex ∈ Models.logicalPort.cachedIndexes := by decide
    have recorded := (rooted.consistent.indexed _ _ declared).keys id
    have objects := rooted.consistent.objects (Models.logicalPort, id)
    rw [stored, eq_comm, Option.map_eq_some_iff] at objects
    rcases objects with ⟨⟨object, keys⟩, last, same⟩
    cases same
    rw [last, Option.map_some, Option.map_eq_some_iff] at recorded
    rcases recorded with ⟨filedKeys, _, isRecorded⟩
    rcases filed_port rooted typed last isRecorded.symm with ⟨filedKey, owner, lastRead, isSingle⟩
    have isOwner : owner = some deviceOwnerDhcp := by
      cases owner with
      | none => cases read.symm.trans lastRead
      | some name =>
          cases read.symm.trans lastRead
          rfl
    rw [isSingle, isOwner] at isRecorded
    exact ⟨object, keys, _, stored, last, isRecorded.symm, _, List.mem_singleton_self _, _,
      List.mem_singleton_self _, List.Forall₂.cons (Or.inl rfl)
        (List.Forall₂.cons (Or.inr rfl) List.Forall₂.nil)⟩

end Queries

/-! ## The whole lookup -/

section Lookup

variable {world after : World α} {networkUniqueKey : Int}

/-- What the second query finds decides how the lookup ends. -/
theorem portQuery_stays_iff (rooted : after.Rooted) (distinct : after.Distinct)
    (typed : after.FieldsTyped) (stored : ∀ key, after.stored key = world.stored key)
    (history : after.history = world.history) {reference : Value α}
    {key : Option (Scalar α)}
    (computed : after.keysAt (portQuery reference) switchOwnerIndex =
      .ok [[key, some (.str deviceOwnerDhcp)]]) :
    Leads (DbStore.getOne (portQuery reference) (some switchOwnerIndex)) after
      (fun result _ => (∀ port, result = some port → DhcpPortOf world networkUniqueKey port) ∧
        ((∀ port, ¬DhcpPortOf world networkUniqueKey port) → result = none))
      (fun _ _ => SeveralPorts world networkUniqueKey) ↔
    FiledSafely world networkUniqueKey (Filed world key) := by
  have once := portQuery_once rooted distinct typed computed
  have answers : ∀ id, after.Answers (portQuery reference) switchOwnerIndex id ↔
      Filed world key id := by
    intro id
    rw [World.answers_key (by decide) computed]
    unfold Filed World.Finds
    rw [history]
    simp only [stored]
    rfl
  rcases none_one_or_several (Filed world key) with
    isNone | ⟨id, isFiled, only⟩ | ⟨id, other, different, isFiled, otherFiled⟩
  · have found := getOne_of_none once fun id => (answers id).not.mpr (isNone id)
    refine iff_of_true (found.mono ?_ fun _ _ impossible => impossible.elim) (Or.inl isNone)
    intro result _ isResult
    rw [isResult]
    exact ⟨fun port impossible => absurd impossible (by simp), fun _ => rfl⟩
  · have found := getOne_of_one once ((answers id).mpr isFiled)
      fun other otherAnswers => only other ((answers other).mp otherAnswers)
    rcases found.returned with ⟨result, final, executed, port, isResult, portStored⟩
    have isKey : port.key = (Models.logicalPort, id) :=
      rooted.consistent.key_of_stored portStored
    have isId : port.id = id := congrArg Prod.snd isKey
    rw [leads_exec_ok executed, isResult]
    constructor
    · intro stays
      refine Or.inr (Or.inl ⟨port, stays.1 port rfl, fun other => ?_⟩)
      rw [isId]
      exact ⟨only other, fun same => same ▸ isFiled⟩
    · intro safe
      have isOf : DhcpPortOf world networkUniqueKey port := by
        rcases safe with isNone | ⟨given, isGiven, exactly⟩ |
          ⟨⟨first, second, different, firstFiled, secondFiled⟩, _⟩
        · exact absurd isFiled (isNone id)
        · have sameId : given.id = id := ((exactly id).mp isFiled).symm
          have givenKey : given.key = (Models.logicalPort, id) :=
            Prod.ext isGiven.1.1 sameId
          have givenStored := isGiven.1.2.1
          rw [givenKey, ← stored] at givenStored
          have same : given = port := Option.some.inj (givenStored.symm.trans portStored)
          rw [← same]
          exact isGiven
        · exact absurd ((only first firstFiled).trans (only second secondFiled).symm) different
      refine ⟨?_, fun noPort => absurd isOf (noPort port)⟩
      intro other same
      cases same
      exact isOf
  · have found := getOne_of_several once different ((answers id).mpr isFiled)
      ((answers other).mpr otherFiled)
    have several : ∃ id other, id ≠ other ∧ Filed world key id ∧ Filed world key other :=
      ⟨id, other, different, isFiled, otherFiled⟩
    constructor
    · intro stays
      refine Or.inr (Or.inr ⟨several, ?_⟩)
      rcases executed : exec (DbStore.getOne (portQuery reference) (some switchOwnerIndex))
        after with ⟨error | result, final⟩
      · exact stays.of_error executed
      · exact (found.of_ok executed).elim
    · intro safe
      have isSeveral : SeveralPorts world networkUniqueKey := by
        rcases safe with isNone | ⟨given, _, exactly⟩ | holds
        · exact absurd isFiled (isNone id)
        · exact absurd (((exactly id).mp isFiled).trans ((exactly other).mp otherFiled).symm)
            different
        · exact holds.2
      exact found.mono (fun _ _ impossible => impossible.elim) fun _ _ _ => isSeveral

/-- A switch that is found makes a reference that leads to it. -/
theorem referTo_leads (address : Address) (rooted : after.Rooted) (distinct : after.Distinct)
    (typed : after.FieldsTyped) {lswitch : Object α}
    (isOf : SwitchOf after networkUniqueKey lswitch) :
    Leads (referTo address (some lswitch)) after
      (fun reference final => (final.Rooted ∧ final.Distinct ∧ final.FieldsTyped) ∧
        (∀ key, final.stored key = after.stored key) ∧ final.history = after.history ∧
        final.keysAt (portQuery reference) switchOwnerIndex =
          .ok [[some (.int networkUniqueKey), some (.str deviceOwnerDhcp)]])
      (fun _ _ => False) := by
  let proxy : Proxy := ⟨address, Models.logicalSwitch, lswitch.id⟩
  unfold referTo Proxy.create
  rw [leads_bind, leads_bind, leads_modify, if_pos rfl, leads_pure, leads_pure]
  have finalRooted := World.rooted_invariant.forget after proxy rooted
  refine ⟨⟨finalRooted, World.distinct_invariant.forget after proxy distinct, typed⟩,
    fun _ => rfl, rfl, ?_⟩
  refine keysAt_switchOwner (Or.inr ⟨proxy, lswitch, rfl, ?_, isOf.2.2⟩) rfl
  rw [finalRooted.coherent]
  have isKey : lswitch.key = (proxy.model, proxy.id) := Prod.ext isOf.1 rfl
  rw [← isKey]
  exact isOf.2.1

theorem stays_iff_safe (address : Address) (rooted : world.Rooted) (distinct : world.Distinct)
    (typed : world.FieldsTyped) :
    StaysWithin world networkUniqueKey address ↔ LookupSafe world networkUniqueKey := by
  have once : world.AnsweredOnce (switchQuery networkUniqueKey) uniqueKeyIndex :=
    switchQuery_once rooted distinct typed
  have answers : ∀ id, world.Answers (switchQuery networkUniqueKey) uniqueKeyIndex id ↔
      ∃ lswitch, SwitchOf world networkUniqueKey lswitch ∧ lswitch.id = id :=
    fun id => switchQuery_answers rooted typed
  have alikeLeads := (DbStore.getOne_keeps (switchQuery networkUniqueKey)
    (some uniqueKeyIndex)).leads world
  unfold StaysWithin getDhcpPortByNetwork
  rw [leads_bind]
  rcases none_one_or_several fun id =>
      ∃ lswitch, SwitchOf world networkUniqueKey lswitch ∧ lswitch.id = id with
    isNone | ⟨id, ⟨lswitch, isOf, isId⟩, only⟩ |
    ⟨id, other, different, ⟨lswitch, isOf, isId⟩, ⟨otherSwitch, otherIsOf, otherIsId⟩⟩
  · have noSwitch : ∀ lswitch, ¬SwitchOf world networkUniqueKey lswitch :=
      fun lswitch isOf => isNone lswitch.id ⟨lswitch, isOf, rfl⟩
    have noPort : ∀ port, ¬DhcpPortOf world networkUniqueKey port := by
      intro port isPort
      rcases isPort.2 with ⟨_, lswitch, _, _, isOf⟩
      exact noSwitch lswitch isOf
    have found := getOne_of_none once fun id => (answers id).not.mpr (isNone id)
    rcases found.returned with ⟨result, after, executed, isResult⟩
    have alike := alikeLeads.of_ok executed
    rw [leads_exec_ok executed, isResult, leads_bind, referTo, leads_pure,
      portQuery_stays_iff (World.rooted_invariant.alike _ _ alike rooted)
        (World.distinct_invariant.alike _ _ alike distinct)
        (typed.congr alike.history) alike.stored alike.history
        (keysAt_switchOwner (Or.inl ⟨rfl, rfl⟩) rfl)]
    constructor
    · intro safe
      rcases safe with isEmpty | ⟨port, isPort, _⟩ | ⟨_, port, _, _, isPort, _⟩
      · refine Or.inl ⟨noSwitch, fun port isPort => ?_⟩
        exact isEmpty port.id ((filed_wildcard rooted typed).mpr ⟨port, isPort, rfl⟩)
      · exact absurd isPort (noPort port)
      · exact absurd isPort (noPort port)
    · intro safe
      rcases safe with isEmpty | ⟨⟨lswitch, isOf, _⟩, _⟩ | ⟨⟨lswitch, _, _, isOf, _⟩, _⟩
      · refine Or.inl fun id filed => ?_
        rcases (filed_wildcard rooted typed).mp filed with ⟨port, isPort, _⟩
        exact isEmpty.2 port isPort
      · exact absurd isOf (noSwitch lswitch)
      · exact absurd isOf (noSwitch lswitch)
  · have found := getOne_of_one once ((answers id).mpr ⟨lswitch, isOf, isId⟩)
      fun other otherAnswers => only other ((answers other).mp otherAnswers)
    rcases found.returned with ⟨result, after, executed, object, isResult, stored⟩
    have isKey : lswitch.key = (Models.logicalSwitch, id) := Prod.ext isOf.1 isId
    have isSwitch : object = lswitch := by
      have isStored := isOf.2.1
      rw [isKey] at isStored
      exact Option.some.inj (stored.symm.trans isStored)
    have alike := alikeLeads.of_ok executed
    have afterTyped := typed.congr alike.history
    have afterOf : SwitchOf after networkUniqueKey lswitch :=
      ⟨isOf.1, (alike.stored _).trans isOf.2.1, isOf.2.2⟩
    have refers := referTo_leads address (World.rooted_invariant.alike _ _ alike rooted)
      (World.distinct_invariant.alike _ _ alike distinct) afterTyped afterOf
    rcases refers.returned with
      ⟨reference, final, referred, ⟨finalRooted, finalDistinct, finalTyped⟩, finalStored,
        finalHistory, computed⟩
    rw [leads_exec_ok executed, isResult, isSwitch, leads_bind, leads_exec_ok referred,
      portQuery_stays_iff finalRooted finalDistinct finalTyped
        (fun key => (finalStored key).trans (alike.stored key))
        (finalHistory.trans alike.history) computed]
    have unique : ∀ other, SwitchOf world networkUniqueKey other → other = lswitch := by
      intro other otherIsOf
      have otherId := only other.id ⟨other, otherIsOf, rfl⟩
      have otherKey : other.key = lswitch.key :=
        Prod.ext (otherIsOf.1.trans isOf.1.symm) (otherId.trans isId.symm)
      have otherStored := otherIsOf.2.1
      rw [otherKey, isOf.2.1] at otherStored
      exact (Option.some.inj otherStored).symm
    constructor
    · intro safe
      exact Or.inr (Or.inl ⟨⟨lswitch, isOf, unique⟩, safe⟩)
    · intro safe
      rcases safe with ⟨noSwitch, _⟩ | ⟨_, safe⟩ |
        ⟨⟨first, second, different, firstIsOf, secondIsOf⟩, _⟩
      · exact absurd isOf (noSwitch lswitch)
      · exact safe
      · apply absurd _ different
        rw [unique first firstIsOf, unique second secondIsOf]
  · have found := getOne_of_several once different
      ((answers id).mpr ⟨lswitch, isOf, isId⟩)
      ((answers other).mpr ⟨otherSwitch, otherIsOf, otherIsId⟩)
    have switchesDiffer : lswitch.id ≠ otherSwitch.id := by
      rw [isId, otherIsId]
      exact different
    rcases executed : exec (DbStore.getOne (switchQuery networkUniqueKey)
      (some uniqueKeyIndex)) world with ⟨error | result, after⟩
    · rw [leads_exec_error executed]
      constructor
      · intro several
        exact Or.inr (Or.inr ⟨⟨lswitch, otherSwitch, switchesDiffer, isOf, otherIsOf⟩, several⟩)
      · intro safe
        rcases safe with ⟨noSwitch, _⟩ | ⟨⟨given, _, unique⟩, _⟩ | ⟨_, several⟩
        · exact absurd isOf (noSwitch lswitch)
        · apply absurd _ switchesDiffer
          rw [unique lswitch isOf, unique otherSwitch otherIsOf]
        · exact several
    · exact (found.of_ok executed).elim

/-- The lookup stays within the network just when it is safe. -/
theorem dhcp_lookup_stays_iff {order : SetOrder} (served : world.Served order)
    (typed : world.FieldsTyped) (address : Address) (networkUniqueKey : Int) :
    StaysWithin world networkUniqueKey address ↔ LookupSafe world networkUniqueKey :=
  stays_iff_safe address served.rooted served.distinct typed

end Lookup

/-! ## One network with a DHCP server -/

namespace Sample

def lswitch : Object Unit := Models.switch 1 "n" "t" 1 1

/-- The DHCP port of the network with key 1. -/
def dhcpPort : Object Unit :=
  ⟨0, Models.logicalPort, "p", .ofList
    [("device_owner", .scalar (.str "network:dhcp")),
      ("lswitch", .proxy ⟨2, Models.logicalSwitch, "n"⟩), ("topic", .scalar (.str "t")),
      ("unique_key", .scalar (.int 1))]⟩

def switchWorld : World Unit :=
  (exec ((Call.update lswitch).run .insertion) (World.initial fun _ => false)).2

def dhcpWorld : World Unit := (exec ((Call.update dhcpPort).run .insertion) switchWorld).2

theorem served_dhcpWorld : dhcpWorld.Served .insertion := by
  have switchReturned : (exec ((Call.update lswitch).run .insertion)
      (World.initial fun _ => false)).1 = .ok .unit := by decide +kernel
  have portReturned : (exec ((Call.update dhcpPort).run .insertion) switchWorld).1 =
      .ok .unit := by decide +kernel
  have served : switchWorld.Served .insertion :=
    .call (.initial fun _ => false) (by decide) (Prod.ext switchReturned rfl)
  exact .call served (by decide) (Prod.ext portReturned rfl)

/-- The object of an update. -/
def updated? : CacheEvent Unit → Option (Object Unit)
  | .updated object _ => some object
  | .deleted _ => none

theorem typed_dhcpWorld : dhcpWorld.FieldsTyped := by
  have history : dhcpWorld.history.map updated? = [some dhcpPort, some lswitch] := by
    decide +kernel
  intro object keys member
  have listed : some object ∈ dhcpWorld.history.map updated? :=
    List.mem_map.mpr ⟨_, member, rfl⟩
  rw [history] at listed
  rcases List.mem_cons.mp listed with same | listed
  · cases same
    exact ⟨fun impossible => absurd impossible (by decide),
      fun _ => ⟨some "network:dhcp", rfl⟩, fun _ => Or.inr ⟨_, rfl, rfl⟩⟩
  · rw [List.mem_singleton] at listed
    cases listed
    exact ⟨fun _ => ⟨some 1, rfl⟩, fun impossible => absurd impossible (by decide),
      fun impossible => absurd impossible (by decide)⟩

end Sample

theorem dhcp_lookup_stays_iff_sample :
    StaysWithin Sample.dhcpWorld 1 9 ↔ LookupSafe Sample.dhcpWorld 1 :=
  dhcp_lookup_stays_iff Sample.served_dhcpWorld Sample.typed_dhcpWorld 9 1

open Sample in
/-- No switch has the key, and the DHCP port of another network is returned. -/
theorem dhcp_port_of_another_network :
    dhcpWorld.Served .insertion ∧ dhcpWorld.FieldsTyped ∧
    (exec (getDhcpPortByNetwork 9 2) dhcpWorld).1 = .ok (some dhcpPort) ∧
    ¬StaysWithin dhcpWorld 2 9 := by
  have returned : (exec (getDhcpPortByNetwork 9 2) dhcpWorld).1 = .ok (some dhcpPort) := by
    decide +kernel
  have stored : dhcpWorld.stored (Models.logicalSwitch, "n") = some lswitch := by
    decide +kernel
  refine ⟨served_dhcpWorld, typed_dhcpWorld, returned, fun stays => ?_⟩
  rcases (stays.of_result returned).1 dhcpPort rfl with ⟨_, proxy, found, read, isKey, isOf⟩
  have isProxy : proxy = ⟨2, Models.logicalSwitch, "n"⟩ := by
    cases read
    rfl
  have isStored := isOf.2.1
  rw [isKey, isProxy, stored] at isStored
  have uniqueKey := isOf.2.2
  rw [← Option.some.inj isStored] at uniqueKey
  cases uniqueKey

end DHCPApp

end Dragonflow
