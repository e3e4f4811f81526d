import Dragonflow.Controller.Topology
import Dragonflow.Foundation.Steps

/-! # Subscriptions mirror the switch ports

A topic counts its logical ports as a set, so that the books only balance as long as
no two switch ports bring the same port, and as long as a switch port takes away what
it brought. This file says exactly when each handler keeps them balanced.
-/

namespace Dragonflow

open Program

namespace Topology

/-! ## Books -/

/-- Some switch port is mapped to the logical port. -/
def Held (mapping : Dict Id OvsLportMapping) (item : OvsLportMapping) : Prop :=
  ∃ port, mapping.lookup port = some item

/-- A switch port other than the given one is. -/
def HeldElsewhere (mapping : Dict Id OvsLportMapping) (port : Id)
    (item : OvsLportMapping) : Prop :=
  ∃ other, other ≠ port ∧ mapping.lookup other = some item

def Subscribed (topology : Topology) (item : OvsLportMapping) : Prop :=
  item.lportId ∈ Dict.members topology.topicSubscribed item.topic

/-- What holds after any event. -/
structure Tidy (topology : Topology) : Prop where
  sets : ∀ topic portIds, topology.topicSubscribed.lookup topic = some portIds →
    portIds ≠ [] ∧ portIds.Nodup
  registered : ∀ topic, topic ∈ topology.topicList ↔
    ∃ portIds, topology.topicSubscribed.lookup topic = some portIds
  distinct : topology.topicList.Nodup
  topics : ∀ port item, topology.ovsToLportMapping.lookup port = some item →
    item.topic ≠ ""

/-- `topic_subscribed` says what `ovs_to_lport_mapping` says. -/
def Mirrors (topology : Topology) : Prop :=
  ∀ item, topology.Subscribed item ↔ Held topology.ovsToLportMapping item

variable {config : TopologyConfig} {topology : Topology}

theorem tidy_initial : ({} : Topology).Tidy where
  sets _ _ found := nomatch found
  registered _ := by
    constructor
    · intro member
      cases member
    · rintro ⟨_, found⟩
      cases found
  distinct := List.nodup_nil
  topics _ _ found := nomatch found

theorem mirrors_initial : ({} : Topology).Mirrors := by
  intro item
  constructor
  · intro member
    cases member
  · rintro ⟨_, found⟩
    cases found

/-- Only the subscriptions change. -/
def SameMapping (topology after : Topology) : Prop :=
  after.ovsToLportMapping = topology.ovsToLportMapping

theorem Subscribed.lookup {item : OvsLportMapping} (subscribed : topology.Subscribed item) :
    ∃ portIds, topology.topicSubscribed.lookup item.topic = some portIds ∧
      item.lportId ∈ portIds := by
  rcases Dict.lookup_of_mem_members subscribed with ⟨portIds, found⟩
  refine ⟨portIds, found, ?_⟩
  unfold Subscribed Dict.members at subscribed
  rwa [found] at subscribed

/-! ## Adding and deleting one port -/

/-- The sets after `topic` was given other ones. -/
theorem tidy_insert (tidy : topology.Tidy) {topic : String} {portIds : List Id}
    {topicList : List String} (isSet : portIds ≠ [] ∧ portIds.Nodup)
    (distinct : topicList.Nodup)
    (registered : ∀ other, other ∈ topicList ↔ other = topic ∨ other ∈ topology.topicList) :
    ({ topology with
        topicSubscribed := topology.topicSubscribed.insert topic portIds
        topicList } : Topology).Tidy where
  sets other found isFound := by
    change (topology.topicSubscribed.insert topic portIds).lookup other = _ at isFound
    rw [Dict.lookup_insert_eq] at isFound
    split at isFound
    · rw [← Option.some.inj isFound]
      exact isSet
    · exact tidy.sets other found isFound
  registered other := by
    change other ∈ topicList ↔
      ∃ found, (topology.topicSubscribed.insert topic portIds).lookup other = some found
    rw [registered other, Dict.lookup_insert_eq, tidy.registered other]
    split
    · next same => simp [same]
    · next different => simp [different]
  distinct := distinct
  topics := tidy.topics

theorem subscribed_insert {topic : String} {portIds : List Id} {after : Topology}
    (isAfter : after.topicSubscribed = topology.topicSubscribed.insert topic portIds)
    (item : OvsLportMapping) :
    after.Subscribed item ↔
      if item.topic = topic then item.lportId ∈ portIds else topology.Subscribed item := by
  unfold Subscribed
  rw [isAfter, Dict.members_insert]
  split <;> rfl

theorem addToTopicSubscribed_leads (selective : config.enableSelectiveTopoDist = true)
    (tidy : topology.Tidy) {topic : String} (hasTopic : topic ≠ "") (lportId : Id) :
    Leads (addToTopicSubscribed config topic lportId) topology
      (fun _ after => after.Tidy ∧ SameMapping topology after ∧
        ∀ item, after.Subscribed item ↔
          topology.Subscribed item ∨ item = ⟨lportId, topic⟩)
      (fun _ _ => False) := by
  have isOn : (!config.enableSelectiveTopoDist || decide (topic = "")) = false := by
    simp [selective, hasTopic]
  rw [addToTopicSubscribed]
  simp only [isOn, Bool.false_eq_true, if_false, leads_bind, leads_get]
  cases found : topology.topicSubscribed.lookup topic with
  | none =>
      have isNew : topic ∉ topology.topicList := by
        rw [tidy.registered topic, found]
        simp
      simp only [registerTopic, leads_bind, leads_modify, if_neg isNew]
      refine ⟨tidy_insert tidy ⟨by simp, List.nodup_singleton _⟩ ?_ ?_, rfl, ?_⟩
      · exact List.nodup_append.mpr ⟨tidy.distinct, List.nodup_singleton _, by
          intro other member another isLast same
          rw [List.mem_singleton.mp isLast] at same
          exact isNew (same ▸ member)⟩
      · intro other
        simp [or_comm]
      · intro item
        rw [subscribed_insert rfl item]
        have noneYet : item.topic = topic → ¬ topology.Subscribed item := by
          intro same subscribed
          rcases subscribed.lookup with ⟨portIds, foundToo, _⟩
          rw [same, found] at foundToo
          cases foundToo
        split
        · next same =>
            simp only [List.mem_singleton, noneYet same, false_or]
            constructor
            · intro sameId
              rcases item with ⟨id, itemTopic⟩
              simp_all
            · rintro rfl
              rfl
        · next different =>
            constructor
            · exact Or.inl
            · rintro (subscribed | rfl)
              · exact subscribed
              · exact absurd rfl different
  | some portIds =>
      have isSet := tidy.sets topic portIds found
      have isRegistered : topic ∈ topology.topicList :=
        (tidy.registered topic).mpr ⟨portIds, found⟩
      simp only [leads_set]
      refine ⟨tidy_insert tidy ⟨?_, isSet.2.insert⟩ tidy.distinct ?_, rfl, ?_⟩
      · exact List.ne_nil_of_mem List.mem_insert_self
      · intro other
        constructor
        · exact Or.inr
        · rintro (rfl | member)
          · exact isRegistered
          · exact member
      · intro item
        rw [subscribed_insert rfl item]
        split
        · next same =>
            have isMember : topology.Subscribed item ↔ item.lportId ∈ portIds := by
              unfold Subscribed Dict.members
              rw [same, found]
              rfl
            rw [isMember, List.mem_insert_iff, or_comm]
            rcases item with ⟨id, itemTopic⟩
            simp_all
        · next different =>
            constructor
            · exact Or.inl
            · rintro (subscribed | rfl)
              · exact subscribed
              · exact absurd rfl different

theorem tidy_erase (tidy : topology.Tidy) {topic : String} :
    ({ topology with
        topicSubscribed := topology.topicSubscribed.erase topic
        topicList := topology.topicList.erase topic } : Topology).Tidy where
  sets other found isFound := by
    change (topology.topicSubscribed.erase topic).lookup other = _ at isFound
    rw [Dict.lookup_erase_eq] at isFound
    split at isFound
    · cases isFound
    · exact tidy.sets other found isFound
  registered other := by
    change other ∈ topology.topicList.erase topic ↔
      ∃ found, (topology.topicSubscribed.erase topic).lookup other = some found
    rw [tidy.distinct.mem_erase_iff, Dict.lookup_erase_eq, tidy.registered other]
    split
    · next same => simp [same]
    · next different => simp [different]
  distinct := tidy.distinct.erase topic
  topics := tidy.topics

theorem subscribed_erase {topic : String} {after : Topology}
    (isAfter : after.topicSubscribed = topology.topicSubscribed.erase topic)
    (item : OvsLportMapping) :
    after.Subscribed item ↔ item.topic ≠ topic ∧ topology.Subscribed item := by
  unfold Subscribed
  rw [isAfter, Dict.members_erase]
  split
  · next same => simp [same]
  · next different => simp [different]

theorem delFromTopicSubscribed_leads (selective : config.enableSelectiveTopoDist = true)
    (tidy : topology.Tidy) {topic : String} (hasTopic : topic ≠ "") (lportId : Id) :
    Leads (delFromTopicSubscribed config topic lportId) topology
      (fun _ after => topology.Subscribed ⟨lportId, topic⟩ ∧ after.Tidy ∧
        SameMapping topology after ∧
        ∀ item, after.Subscribed item ↔
          topology.Subscribed item ∧ item ≠ ⟨lportId, topic⟩)
      (fun _ _ => ¬ topology.Subscribed ⟨lportId, topic⟩) := by
  have isOn : (!config.enableSelectiveTopoDist || decide (topic = "")) = false := by
    simp [selective, hasTopic]
  rw [delFromTopicSubscribed]
  simp only [isOn, Bool.false_eq_true, if_false, leads_bind, leads_get]
  cases found : topology.topicSubscribed.lookup topic with
  | none =>
      intro subscribed
      rcases subscribed.lookup with ⟨portIds, foundToo, _⟩
      rw [found] at foundToo
      cases foundToo
  | some portIds =>
      have isMember : ∀ item : OvsLportMapping, item.topic = topic →
          (topology.Subscribed item ↔ item.lportId ∈ portIds) := by
        intro item same
        unfold Subscribed Dict.members
        rw [same, found]
        rfl
      have isSet := tidy.sets topic portIds found
      by_cases isIn : lportId ∈ portIds
      · simp only [not_not.mpr isIn, if_false]
        have subscribed : topology.Subscribed ⟨lportId, topic⟩ :=
          (isMember ⟨lportId, topic⟩ rfl).mpr isIn
        -- What the erased set says about the ports of the topic.
        have remaining : ∀ item : OvsLportMapping, item.topic = topic →
            (item.lportId ∈ portIds.erase lportId ↔
              topology.Subscribed item ∧ item ≠ ⟨lportId, topic⟩) := by
          intro item same
          rw [isSet.2.mem_erase_iff, isMember item same]
          rcases item with ⟨id, itemTopic⟩
          simp_all [and_comm]
        have others : ∀ item : OvsLportMapping, item.topic ≠ topic →
            item ≠ ⟨lportId, topic⟩ := by
          rintro item different rfl
          exact different rfl
        split
        · next isEmpty =>
            have isRegistered : topic ∈ topology.topicList :=
              (tidy.registered topic).mpr ⟨portIds, found⟩
            simp only [leads_bind, leads_set, unregisterTopic, leads_get, if_pos isRegistered]
            refine ⟨subscribed, tidy_erase tidy, rfl, ?_⟩
            intro item
            rw [subscribed_erase rfl item]
            by_cases same : item.topic = topic
            · have noneLeft := remaining item same
              rw [isEmpty] at noneLeft
              simp only [List.not_mem_nil, false_iff] at noneLeft
              simp only [same, ne_eq, not_true_eq_false, false_and, false_iff]
              exact noneLeft
            · simp only [ne_eq, same, not_false_eq_true, true_and]
              exact (and_iff_left (others item same)).symm
        · next isLeft =>
            simp only [leads_set]
            refine ⟨subscribed, ?_, rfl, ?_⟩
            · refine tidy_insert tidy ⟨isLeft, isSet.2.erase lportId⟩ tidy.distinct ?_
              intro other
              constructor
              · exact Or.inr
              · rintro (rfl | member)
                · exact (tidy.registered _).mpr ⟨portIds, found⟩
                · exact member
            · intro item
              rw [subscribed_insert rfl item]
              split
              · next same => exact remaining item same
              · next different => exact (and_iff_left (others item different)).symm
      · simp only [if_pos isIn, leads_bind, leads_throw]
        rw [isMember ⟨lportId, topic⟩ rfl]
        exact isIn

/-! ## A port comes or changes -/

/-- The handler can say where the port is bound, and who owns it if not here. -/
def Placed (config : TopologyConfig) (lport : LogicalPort) : Prop :=
  ∃ chassis, lport.binding = some (.chassis chassis) ∧
    (chassis ≠ config.chassisName → lport.deviceOwner ≠ none)

theorem portOnline_leads (switchPort : SwitchPort) (lport : LogicalPort)
    (start : Topology) :
    Leads (portOnline config switchPort lport) start
      (fun _ after => Placed config lport ∧ ∃ calls, after = { start with calls })
      (fun _ _ => ¬ Placed config lport) := by
  have sameState : ∃ calls, start = { start with calls } := ⟨start.calls, rfl⟩
  unfold portOnline
  cases bound : lport.binding with
  | none =>
      rintro ⟨chassis, isBound, _⟩
      rw [bound] at isBound
      cases isBound
  | some binding =>
      cases binding with
      | vtep address =>
          rintro ⟨chassis, isBound, _⟩
          rw [bound] at isBound
          cases isBound
      | chassis chassis =>
          by_cases isElsewhere : chassis ≠ config.chassisName
          · simp only [if_pos isElsewhere]
            cases owner : lport.deviceOwner with
            | none =>
                rintro ⟨other, isBound, hasOwner⟩
                rw [bound, Option.some.injEq, PortBinding.chassis.injEq] at isBound
                exact hasOwner (isBound ▸ isElsewhere) owner
            | some deviceOwner =>
                have placed : Placed config lport := ⟨chassis, bound, fun _ => by simp [owner]⟩
                simp only
                split
                · exact ⟨placed, _, rfl⟩
                · exact ⟨placed, sameState⟩
          · have placed : Placed config lport :=
              ⟨chassis, bound, fun different => absurd different isElsewhere⟩
            simp only [if_neg isElsewhere]
            cases switchPort.lport.bind LportReference.stored with
            | none => exact ⟨placed, _, rfl⟩
            | some stored => exact ⟨placed, sameState⟩

theorem Tidy.withCalls (tidy : topology.Tidy) (calls : List TopologyCall) :
    ({ topology with calls } : Topology).Tidy :=
  ⟨tidy.sets, tidy.registered, tidy.distinct, tidy.topics⟩

theorem Tidy.withMapping (tidy : topology.Tidy) {mapping : Dict Id OvsLportMapping}
    (topics : ∀ port item, mapping.lookup port = some item → item.topic ≠ "") :
    ({ topology with ovsToLportMapping := mapping } : Topology).Tidy :=
  ⟨tidy.sets, tidy.registered, tidy.distinct, topics⟩

/-- What a port that is mapped does. -/
structure Maps (topology : Topology) (port : Id) (item : OvsLportMapping)
    (after : Topology) : Prop where
  tidy : after.Tidy
  mapping : after.ovsToLportMapping = topology.ovsToLportMapping.insert port item
  subscribed : ∀ other, after.Subscribed other ↔ topology.Subscribed other ∨ other = item

/-- What the books say after a port was mapped to something. -/
theorem Maps.mirrors_iff {port : Id} {item : OvsLportMapping} {after : Topology}
    (maps : Maps topology port item after) (mirrors : topology.Mirrors) :
    after.Mirrors ↔ ∀ old, topology.ovsToLportMapping.lookup port = some old →
      old = item ∨ HeldElsewhere topology.ovsToLportMapping port old := by
  have held : ∀ other, Held after.ovsToLportMapping other ↔
      other = item ∨ HeldElsewhere topology.ovsToLportMapping port other := by
    intro other
    unfold Held HeldElsewhere
    rw [maps.mapping]
    constructor
    · rintro ⟨key, found⟩
      rw [Dict.lookup_insert_eq] at found
      split at found
      · exact Or.inl (Option.some.inj found).symm
      · next different => exact Or.inr ⟨key, different, found⟩
    · rintro (rfl | ⟨key, different, found⟩)
      · exact ⟨port, by rw [Dict.lookup_insert_eq, if_pos rfl]⟩
      · exact ⟨key, by rw [Dict.lookup_insert_eq, if_neg different]; exact found⟩
  constructor
  · intro mirrorsAfter old found
    have subscribed := (maps.subscribed old).mpr (Or.inl ((mirrors old).mpr ⟨port, found⟩))
    exact (held old).mp ((mirrorsAfter old).mp subscribed)
  · intro kept other
    rw [maps.subscribed other, held other, mirrors other]
    constructor
    · rintro (⟨key, found⟩ | isItem)
      · by_cases same : key = port
        · exact kept other (same ▸ found)
        · exact Or.inr ⟨key, same, found⟩
      · exact Or.inl isItem
    · rintro (isItem | ⟨key, _, found⟩)
      · exact Or.inr isItem
      · exact Or.inl ⟨key, found⟩

/-- The port that the switch port is to be mapped to. -/
def Wants (switchPort : SwitchPort) (lport : LogicalPort) : Prop :=
  getLport switchPort = some lport ∧ lport.topic ≠ ""

theorem Wants.unique {switchPort : SwitchPort} {lport other : LogicalPort}
    (wants : Wants switchPort lport) (wantsOther : Wants switchPort other) :
    lport = other := by
  have same := wants.1.symm.trans wantsOther.1
  exact Option.some.inj same

theorem computePortUpdated_none {switchPort : SwitchPort}
    (wantsNone : ∀ lport, ¬ Wants switchPort lport) :
    exec (computePortUpdated config switchPort) topology = (.ok (), topology) := by
  unfold computePortUpdated
  cases found : getLport switchPort with
  | none => rfl
  | some lport =>
      have noTopic : lport.topic = "" := by
        by_contra hasTopic
        exact wantsNone lport ⟨found, hasTopic⟩
      simp only [if_pos noTopic]
      rfl

theorem computePortUpdated_leads (selective : config.enableSelectiveTopoDist = true)
    (tidy : topology.Tidy) {switchPort : SwitchPort} {lport : LogicalPort}
    (wants : Wants switchPort lport) :
    Leads (computePortUpdated config switchPort) topology
      (fun _ after => Placed config lport ∧
        Maps topology switchPort.id ⟨lport.id, lport.topic⟩ after)
      (fun _ _ => ¬ Placed config lport) := by
  unfold computePortUpdated
  rw [wants.1]
  simp only [if_neg wants.2, leads_bind, leads_modify]
  refine (addToTopicSubscribed_leads selective tidy wants.2 lport.id).mono ?_
    fun _ _ impossible => impossible.elim
  rintro _ added ⟨addedTidy, sameMapping, subscribed⟩
  have isTidy : ({ added with
      ovsToLportMapping := added.ovsToLportMapping.insert switchPort.id
        ⟨lport.id, lport.topic⟩ } : Topology).Tidy := by
    apply addedTidy.withMapping
    intro port item found
    rw [Dict.lookup_insert_eq] at found
    split at found
    · rw [← Option.some.inj found]
      exact wants.2
    · exact addedTidy.topics port item found
  refine (portOnline_leads switchPort lport _).mono ?_ fun _ _ isNotPlaced => isNotPlaced
  rintro _ after ⟨placed, calls, rfl⟩
  refine ⟨placed, isTidy.withCalls calls, ?_, subscribed⟩
  change added.ovsToLportMapping.insert _ _ = _
  rw [sameMapping]

/-! ## A port goes -/

theorem deleteMapping_leads (port : Id) (start : Topology) :
    Leads (deleteMapping port) start
      (fun _ after => (∃ item, start.ovsToLportMapping.lookup port = some item) ∧
        after = { start with ovsToLportMapping := start.ovsToLportMapping.erase port })
      (fun _ _ => start.ovsToLportMapping.lookup port = none) := by
  rw [deleteMapping]
  simp only [leads_bind, leads_get]
  split
  · next isIn => exact ⟨(Dict.mem_keys_iff _ _).mp isIn, rfl⟩
  · next isNotIn => exact AList.lookup_eq_none.mpr isNotIn

theorem held_erase {mapping : Dict Id OvsLportMapping} {port : Id}
    (item : OvsLportMapping) :
    Held (mapping.erase port) item ↔ HeldElsewhere mapping port item := by
  unfold Held HeldElsewhere
  constructor
  · rintro ⟨key, found⟩
    rw [Dict.lookup_erase_eq] at found
    split at found
    · cases found
    · next different => exact ⟨key, different, found⟩
  · rintro ⟨key, different, found⟩
    exact ⟨key, by rw [Dict.lookup_erase_eq, if_neg different]; exact found⟩

/-- What a switch port that goes does: its mapping is erased, and `removed` is taken out
of its topic. -/
structure Unmaps (topology : Topology) (port : Id) (removed : OvsLportMapping → Prop)
    (after : Topology) : Prop where
  tidy : after.Tidy
  mapping : after.ovsToLportMapping = topology.ovsToLportMapping.erase port
  subscribed : ∀ other, after.Subscribed other ↔
    topology.Subscribed other ∧ ¬ removed other

theorem Unmaps.isGone {port : Id} {removed : OvsLportMapping → Prop} {after : Topology}
    (unmaps : Unmaps topology port removed after) :
    after.ovsToLportMapping.lookup port = none := by
  rw [unmaps.mapping, Dict.lookup_erase_eq, if_pos rfl]

theorem tidy_eraseMapping (tidy : topology.Tidy) (port : Id) :
    ({ topology with
        ovsToLportMapping := topology.ovsToLportMapping.erase port } : Topology).Tidy := by
  apply tidy.withMapping
  intro other item found
  rw [Dict.lookup_erase_eq] at found
  split at found
  · cases found
  · exact tidy.topics other item found

/-- The books after a switch port went whose mapping was `item`. -/
theorem Unmaps.mirrors_iff {port : Id} {item : OvsLportMapping}
    {removed : OvsLportMapping → Prop} {after : Topology}
    (unmaps : Unmaps topology port removed after) (mirrors : topology.Mirrors)
    (found : topology.ovsToLportMapping.lookup port = some item)
    (subscribed : ∀ other, removed other → topology.Subscribed other) :
    after.Mirrors ↔ (removed item ↔ ¬ HeldElsewhere topology.ovsToLportMapping port item) ∧
      ∀ other, removed other → other = item := by
  have held : ∀ other, topology.Subscribed other ↔
      other = item ∨ HeldElsewhere topology.ovsToLportMapping port other := by
    intro other
    rw [mirrors other]
    constructor
    · rintro ⟨key, foundKey⟩
      by_cases same : key = port
      · rw [same, found, Option.some.injEq] at foundKey
        exact Or.inl foundKey.symm
      · exact Or.inr ⟨key, same, foundKey⟩
    · rintro (rfl | ⟨key, _, foundKey⟩)
      · exact ⟨port, found⟩
      · exact ⟨key, foundKey⟩
  have mirrorsAfter : after.Mirrors ↔ ∀ other,
      topology.Subscribed other ∧ ¬ removed other ↔
        HeldElsewhere topology.ovsToLportMapping port other := by
    unfold Mirrors
    rw [unmaps.mapping]
    exact forall_congr' fun other => by rw [unmaps.subscribed other, held_erase]
  rw [mirrorsAfter]
  constructor
  · intro balanced
    refine ⟨?_, ?_⟩
    · have isSubscribed : topology.Subscribed item := (held item).mpr (Or.inl rfl)
      have isBalanced := balanced item
      tauto
    · intro other isRemoved
      rcases (held other).mp (subscribed other isRemoved) with same | isHeld
      · exact same
      · exact absurd isRemoved ((balanced other).mpr isHeld).2
  · rintro ⟨isRemoved, only⟩ other
    rw [held other]
    constructor
    · rintro ⟨same | isHeld, isNotRemoved⟩
      · rw [same] at isNotRemoved ⊢
        by_contra isNotHeld
        exact isNotRemoved (isRemoved.mpr isNotHeld)
      · exact isHeld
    · intro isHeld
      refine ⟨Or.inr isHeld, ?_⟩
      intro isRemovedToo
      have same := only other isRemovedToo
      rw [same] at isRemovedToo isHeld
      exact isRemoved.mp isRemovedToo isHeld

/-! ## When the handlers keep the books -/

/-- A handler of an event of a switch port that returns just when the books are balanced
after it, and that raises otherwise, or leaves them unbalanced. -/
def Settles (handler : Action Unit) (topology : Topology) (post : Topology → Prop)
    (condition : Prop) : Prop :=
  Leads handler topology
    (fun _ after => after.Tidy ∧ (after.Mirrors ∧ post after ↔ condition))
    (fun _ _ => ¬ condition)

/-- A switch port that is mapped to another port leaves the old one to another switch
port. -/
def UpdateKept (config : TopologyConfig) (topology : Topology) (switchPort : SwitchPort) :
    Prop :=
  ∀ lport, Wants switchPort lport → Placed config lport ∧
    ∀ old, topology.ovsToLportMapping.lookup switchPort.id = some old →
      old = ⟨lport.id, lport.topic⟩ ∨
        HeldElsewhere topology.ovsToLportMapping switchPort.id old

theorem computePortUpdated_settles (selective : config.enableSelectiveTopoDist = true)
    (tidy : topology.Tidy) (mirrors : topology.Mirrors) (switchPort : SwitchPort) :
    Settles (computePortUpdated config switchPort) topology (fun _ => True)
      (UpdateKept config topology switchPort) := by
  by_cases wantsSome : ∃ lport, Wants switchPort lport
  · rcases wantsSome with ⟨lport, wants⟩
    have isKept : UpdateKept config topology switchPort ↔ Placed config lport ∧
        ∀ old, topology.ovsToLportMapping.lookup switchPort.id = some old →
          old = ⟨lport.id, lport.topic⟩ ∨
            HeldElsewhere topology.ovsToLportMapping switchPort.id old := by
      constructor
      · intro kept
        exact kept lport wants
      · intro kept other wantsOther
        rw [← wants.unique wantsOther]
        exact kept
    refine (computePortUpdated_leads selective tidy wants).mono ?_ ?_
    · rintro _ after ⟨placed, maps⟩
      refine ⟨maps.tidy, ?_⟩
      rw [isKept, maps.mirrors_iff mirrors, and_true]
      exact (and_iff_right placed).symm
    · intro _ _ isNotPlaced kept
      exact isNotPlaced (isKept.mp kept).1
  · have wantsNone : ∀ lport, ¬ Wants switchPort lport := not_exists.mp wantsSome
    unfold Settles
    rw [leads_exec_ok (computePortUpdated_none wantsNone)]
    refine ⟨tidy, fun _ lport wants => absurd wants (wantsNone lport), fun _ => ⟨mirrors, trivial⟩⟩

theorem call_leads (topologyCall : TopologyCall) (start : Topology) :
    Leads (call topologyCall) start
      (fun _ after => ∃ calls, after = { start with calls }) (fun _ _ => False) :=
  ⟨_, rfl⟩

theorem computePortAdded_settles (selective : config.enableSelectiveTopoDist = true)
    (tidy : topology.Tidy) (mirrors : topology.Mirrors) (switchPort : SwitchPort) :
    Settles (computePortAdded config switchPort) topology (fun _ => True)
      (UpdateKept config topology switchPort) := by
  unfold Settles
  rw [computePortAdded]
  refine (computePortUpdated_settles selective tidy mirrors switchPort).bind ?_
  rintro _ middle ⟨middleTidy, isKept⟩
  exact ⟨middleTidy.withCalls _, isKept⟩

/-- A switch port that goes is the only one of its logical port, and the store still
knows the port with the topic it was mapped with, or not at all. -/
def DeleteKept (topology : Topology) (switchPort : SwitchPort) (hasMigration : Bool) :
    Prop :=
  ∃ reference, switchPort.lport = some reference ∧
    match reference.stored with
    | none => ∀ item, topology.ovsToLportMapping.lookup switchPort.id = some item →
        ¬ HeldElsewhere topology.ovsToLportMapping switchPort.id item
    | some lport => hasMigration = false ∧
        ∃ item, topology.ovsToLportMapping.lookup switchPort.id = some item ∧
          if lport.topic = "" then
            HeldElsewhere topology.ovsToLportMapping switchPort.id item
          else
            item = ⟨reference.id, lport.topic⟩ ∧
              ¬ HeldElsewhere topology.ovsToLportMapping switchPort.id item

theorem delFromTopicSubscribed_noTopic (lportId : Id) :
    exec (delFromTopicSubscribed config "" lportId) topology = (.ok (), topology) := by
  rw [delFromTopicSubscribed]
  simp only [decide_true, Bool.or_true, if_true]
  rfl

/-- Erase the mapping of a port, then take something out of its topic. -/
theorem deleteMapping_delFrom_leads (selective : config.enableSelectiveTopoDist = true)
    (tidy : topology.Tidy) (port : Id) (removed : OvsLportMapping) :
    Leads (deleteMapping port >>= fun _ =>
        delFromTopicSubscribed config removed.topic removed.lportId) topology
      (fun _ after => (∃ item, topology.ovsToLportMapping.lookup port = some item) ∧
        (removed.topic ≠ "" → topology.Subscribed removed) ∧
        Unmaps topology port (fun other => other = removed ∧ removed.topic ≠ "") after)
      (fun _ _ => topology.ovsToLportMapping.lookup port = none ∨
        removed.topic ≠ "" ∧ ¬ topology.Subscribed removed) := by
  rw [leads_bind]
  refine (deleteMapping_leads port topology).mono ?_ fun _ _ isNone => Or.inl isNone
  rintro _ erased ⟨isMapped, rfl⟩
  have erasedTidy := tidy_eraseMapping tidy port
  by_cases hasTopic : removed.topic = ""
  · rw [hasTopic, leads_exec_ok (delFromTopicSubscribed_noTopic removed.lportId)]
    refine ⟨isMapped, fun different => absurd rfl different, erasedTidy, rfl, ?_⟩
    intro other
    change topology.Subscribed other ↔ _
    simp
  · refine (delFromTopicSubscribed_leads selective erasedTidy hasTopic removed.lportId).mono
      ?_ ?_
    · rintro _ after ⟨subscribed, afterTidy, sameMapping, remaining⟩
      refine ⟨isMapped, fun _ => subscribed, afterTidy, sameMapping, ?_⟩
      intro other
      rw [remaining other]
      simp only [ne_eq, hasTopic, not_false_eq_true, and_true]
      rfl
    · intro _ _ isNotSubscribed
      exact Or.inr ⟨hasTopic, isNotSubscribed⟩

/-- A switch port whose logical port is not in the store. -/
theorem deleted_unstored_settles (selective : config.enableSelectiveTopoDist = true)
    (tidy : topology.Tidy) (mirrors : topology.Mirrors) {switchPort : SwitchPort}
    {reference : LportReference} (refers : switchPort.lport = some reference)
    (notStored : reference.stored = none) (hasMigration : Bool) :
    Settles (computePortDeleted config switchPort hasMigration) topology
      (fun after => after.ovsToLportMapping.lookup switchPort.id = none)
      (∀ item, topology.ovsToLportMapping.lookup switchPort.id = some item →
        ¬ HeldElsewhere topology.ovsToLportMapping switchPort.id item) := by
  unfold Settles computePortDeleted
  simp only [refers, notStored, leads_bind, leads_get]
  cases found : topology.ovsToLportMapping.lookup switchPort.id with
  | none =>
      refine ⟨tidy, fun _ item impossible => ?_, fun _ => ⟨mirrors, found⟩⟩
      cases impossible
  | some item =>
      have hasTopic := tidy.topics switchPort.id item found
      have isSubscribed : topology.Subscribed item := (mirrors item).mpr ⟨_, found⟩
      have isCondition : (∀ other, some item = some other →
          ¬ HeldElsewhere topology.ovsToLportMapping switchPort.id other) ↔
          ¬ HeldElsewhere topology.ovsToLportMapping switchPort.id item := by simp
      rw [isCondition]
      have unmapped := deleteMapping_delFrom_leads selective tidy switchPort.id item
      refine unmapped.mono ?_ ?_
      · rintro _ after ⟨_, _, unmaps⟩
        refine ⟨unmaps.tidy, ?_⟩
        rw [and_iff_left unmaps.isGone, unmaps.mirrors_iff mirrors found]
        · simp [hasTopic]
        · rintro other ⟨rfl, _⟩
          exact isSubscribed
      · rintro _ _ (isNone | ⟨_, isNotSubscribed⟩)
        · rw [found] at isNone
          cases isNone
        · exact absurd isSubscribed isNotSubscribed

/-- A switch port whose logical port is in the store. -/
theorem deleted_stored_settles (selective : config.enableSelectiveTopoDist = true)
    (tidy : topology.Tidy) (mirrors : topology.Mirrors) {switchPort : SwitchPort}
    {reference : LportReference} (refers : switchPort.lport = some reference)
    {lport : LogicalPort} (stored : reference.stored = some lport) (hasMigration : Bool) :
    Settles (computePortDeleted config switchPort hasMigration) topology
      (fun after => after.ovsToLportMapping.lookup switchPort.id = none)
      (hasMigration = false ∧
        ∃ item, topology.ovsToLportMapping.lookup switchPort.id = some item ∧
          if lport.topic = "" then
            HeldElsewhere topology.ovsToLportMapping switchPort.id item
          else
            item = ⟨reference.id, lport.topic⟩ ∧
              ¬ HeldElsewhere topology.ovsToLportMapping switchPort.id item) := by
  unfold Settles computePortDeleted portOffline
  simp only [refers, stored, leads_bind]
  refine (call_leads _ topology).mono ?_ fun _ _ impossible => impossible.elim
  rintro _ first ⟨calls, rfl⟩
  refine (call_leads _ _).mono ?_ fun _ _ impossible => impossible.elim
  rintro _ second ⟨moreCalls, rfl⟩
  cases hasMigration with
  | true =>
      rintro ⟨impossible, _⟩
      cases impossible
  | false =>
      simp only [Bool.false_eq_true, if_false, true_and]
      have unmapped := deleteMapping_delFrom_leads selective (tidy.withCalls moreCalls)
        switchPort.id ⟨reference.id, lport.topic⟩
      refine unmapped.mono ?_ ?_
      · rintro _ after ⟨⟨item, found⟩, subscribed, unmaps⟩
        refine ⟨unmaps.tidy, ?_⟩
        rw [and_iff_left unmaps.isGone, unmaps.mirrors_iff mirrors found]
        · have sameItem : ∀ {property : OvsLportMapping → Prop}, (∃ other,
              topology.ovsToLportMapping.lookup switchPort.id = some other ∧ property other) ↔
              property item := by
            intro property
            rw [found]
            simp
          rw [sameItem]
          by_cases hasTopic : lport.topic = ""
          · simp [hasTopic]
          · simp only [hasTopic, ne_eq, not_false_eq_true, and_true, if_false, forall_eq]
            constructor
            · rintro ⟨isSame, same⟩
              exact ⟨same.symm, isSame.mp same.symm⟩
            · rintro ⟨same, isNotHeld⟩
              exact ⟨iff_of_true same isNotHeld, same.symm⟩
        · rintro other ⟨rfl, hasTopic⟩
          exact subscribed hasTopic
      · rintro _ _ (isNone | ⟨hasTopic, isNotSubscribed⟩)
        · rintro ⟨item, found, _⟩
          rw [isNone] at found
          cases found
        · rintro ⟨item, found, kept⟩
          rw [if_neg hasTopic] at kept
          rw [← kept.1] at isNotSubscribed
          exact isNotSubscribed ((mirrors item).mpr ⟨_, found⟩)

theorem computePortDeleted_settles (selective : config.enableSelectiveTopoDist = true)
    (tidy : topology.Tidy) (mirrors : topology.Mirrors) (switchPort : SwitchPort)
    (hasMigration : Bool) :
    Settles (computePortDeleted config switchPort hasMigration) topology
      (fun after => after.ovsToLportMapping.lookup switchPort.id = none)
      (DeleteKept topology switchPort hasMigration) := by
  cases refers : switchPort.lport with
  | none =>
      unfold Settles computePortDeleted
      simp only [refers, leads_throw]
      rintro ⟨reference, impossible, _⟩
      rw [refers] at impossible
      cases impossible
  | some reference =>
      have isReference : DeleteKept topology switchPort hasMigration ↔
          match reference.stored with
          | none => ∀ item, topology.ovsToLportMapping.lookup switchPort.id = some item →
              ¬ HeldElsewhere topology.ovsToLportMapping switchPort.id item
          | some lport => hasMigration = false ∧
              ∃ item, topology.ovsToLportMapping.lookup switchPort.id = some item ∧
                if lport.topic = "" then
                  HeldElsewhere topology.ovsToLportMapping switchPort.id item
                else
                  item = ⟨reference.id, lport.topic⟩ ∧
                    ¬ HeldElsewhere topology.ovsToLportMapping switchPort.id item := by
        unfold DeleteKept
        rw [refers]
        simp only [Option.some.injEq, exists_eq_left']
      rw [isReference]
      cases stored : reference.stored with
      | none => exact deleted_unstored_settles selective tidy mirrors refers stored hasMigration
      | some lport =>
          exact deleted_stored_settles selective tidy mirrors refers stored hasMigration

end Topology

end Dragonflow
