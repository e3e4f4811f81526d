import Dragonflow.Controller.TopologyMirror

/-! # The recheck, and whole runs

`check_topology_info` compares the mapping with the switch ports of the store, port by
port. With the handlers of single ports this gives the exact condition under which a run
keeps the topics in step with the switch ports.
-/

namespace Dragonflow

open Program

namespace Topology

variable {config : TopologyConfig} {topology : Topology}

/-! ## The three dictionaries -/

/-- A switch port of the store is to be mapped to the logical port. -/
def Present (ports : List SwitchPort) (port : Id) (item : OvsLportMapping) : Prop :=
  ∃ switchPort ∈ ports, switchPort.id = port ∧ mappingOf switchPort = some item

/-- What the loop has found in some of the ports. -/
structure Rechecked (mapping : Dict Id OvsLportMapping) (ports : List SwitchPort)
    (recheck : Recheck) : Prop where
  new : ∀ port item, recheck.new.lookup port = some item ↔ Present ports port item
  add : ∀ port, recheck.add.lookup port =
    if (mapping.lookup port).isSome then none else recheck.new.lookup port
  delete : ∀ port, recheck.delete.lookup port =
    if (recheck.new.lookup port).isSome then none else mapping.lookup port

theorem rechecked_nil (mapping : Dict Id OvsLportMapping) :
    Rechecked mapping [] ⟨∅, ∅, mapping⟩ where
  new port item := by
    constructor
    · intro found
      cases found
    · rintro ⟨switchPort, member, _⟩
      cases member
  add port := by
    split <;> rfl
  delete port := rfl

theorem Rechecked.port {mapping : Dict Id OvsLportMapping} {ports : List SwitchPort}
    {recheck : Recheck} {switchPort : SwitchPort}
    (rechecked : Rechecked mapping ports recheck)
    (isNew : switchPort.id ∉ ports.map SwitchPort.id) :
    Rechecked mapping (ports ++ [switchPort]) (recheckPort recheck switchPort) := by
  have present : ∀ port item, Present (ports ++ [switchPort]) port item ↔
      Present ports port item ∨ switchPort.id = port ∧ mappingOf switchPort = some item := by
    intro port item
    unfold Present
    simp only [List.mem_append, List.mem_singleton, or_and_right, exists_or, exists_eq_left]
  have notYet : recheck.new.lookup switchPort.id = none := by
    cases found : recheck.new.lookup switchPort.id with
    | none => rfl
    | some item =>
        rcases (rechecked.new _ item).mp found with ⟨other, member, same, _⟩
        exact absurd (List.mem_map.mpr ⟨other, member, same⟩) isNew
  unfold recheckPort
  cases wanted : mappingOf switchPort with
  | none =>
      refine ⟨?_, rechecked.add, rechecked.delete⟩
      intro port item
      rw [present port item, wanted, rechecked.new port item]
      simp
  | some item =>
      have isMapped : switchPort.id ∈ recheck.delete ↔
          (mapping.lookup switchPort.id).isSome := by
        rw [← AList.lookup_isSome, rechecked.delete, notYet]
        rfl
      refine ⟨?_, ?_, ?_⟩
      · intro port other
        rw [present port other, wanted, Dict.lookup_insert_eq, ← rechecked.new port other]
        split
        · next same =>
            rw [same, notYet]
            simp
        · next different => simp [Ne.symm different]
      · intro port
        simp only [isMapped, Dict.lookup_insert_eq]
        by_cases same : port = switchPort.id
        · rw [same]
          have noAdd := rechecked.add switchPort.id
          rw [notYet, ite_self] at noAdd
          split
          · exact noAdd
          · rw [Dict.lookup_insert_eq, if_pos rfl, if_pos rfl]
        · rw [if_neg same, ← rechecked.add port]
          split
          · rfl
          · rw [Dict.lookup_insert_eq, if_neg same]
      · intro port
        simp only [Dict.lookup_insert_eq, Dict.lookup_erase_eq]
        split
        · rfl
        · exact rechecked.delete port

theorem rechecked_all (mapping : Dict Id OvsLportMapping) (ports : List SwitchPort)
    (distinct : (ports.map SwitchPort.id).Nodup) :
    Rechecked mapping ports (ports.foldl recheckPort ⟨∅, ∅, mapping⟩) := by
  induction ports using List.reverseRecOn with
  | nil => exact rechecked_nil mapping
  | append_singleton ports switchPort induction =>
      rw [List.map_append, List.nodup_append] at distinct
      rw [List.foldl_append]
      apply (induction distinct.1).port
      intro member
      exact distinct.2.2 _ member _ (List.mem_singleton_self _) rfl

/-! ## The two loops -/

theorem addAll_leads (selective : config.enableSelectiveTopoDist = true)
    (tidy : topology.Tidy) (items : List OvsLportMapping)
    (topics : ∀ item ∈ items, item.topic ≠ "") :
    Leads (items.forM fun item => addToTopicSubscribed config item.topic item.lportId)
      topology
      (fun _ after => after.Tidy ∧ SameMapping topology after ∧
        ∀ item, after.Subscribed item ↔ topology.Subscribed item ∨ item ∈ items)
      (fun _ _ => False) := by
  refine Leads.loop (fun done (after : Topology) => after.Tidy ∧ SameMapping topology after ∧
    ∀ item, after.Subscribed item ↔ topology.Subscribed item ∨ item ∈ done) items ?_
    ⟨tidy, rfl, by simp⟩
  rintro done item rest current isSplit ⟨currentTidy, sameMapping, subscribed⟩
  have hasTopic : item.topic ≠ "" := topics item (by simp [isSplit])
  refine (addToTopicSubscribed_leads selective currentTidy hasTopic item.lportId).mono ?_
    fun _ _ impossible => impossible
  rintro _ after ⟨afterTidy, sameMappingToo, subscribedToo⟩
  refine ⟨afterTidy, sameMappingToo.trans sameMapping, ?_⟩
  intro other
  rw [subscribedToo other, subscribed other, List.mem_append, List.mem_singleton, or_assoc]

/-- A list of deletions goes through if everything on it is subscribed and nothing is on
it twice. -/
theorem delAll_leads (selective : config.enableSelectiveTopoDist = true)
    (tidy : topology.Tidy) (items : List OvsLportMapping)
    (topics : ∀ item ∈ items, item.topic ≠ "") :
    Leads (items.forM fun item => delFromTopicSubscribed config item.topic item.lportId)
      topology
      (fun _ after => (items.Nodup ∧ ∀ item ∈ items, topology.Subscribed item) ∧
        after.Tidy ∧ SameMapping topology after ∧
        ∀ item, after.Subscribed item ↔ topology.Subscribed item ∧ item ∉ items)
      (fun _ _ => ¬ (items.Nodup ∧ ∀ item ∈ items, topology.Subscribed item)) := by
  induction items generalizing topology with
  | nil => exact ⟨by simp, tidy, rfl, by simp⟩
  | cons first items induction =>
      rw [List.forM_eq_forM, List.forM_cons]
      have hasTopic := topics first List.mem_cons_self
      simp only [leads_bind, List.nodup_cons, List.forall_mem_cons]
      refine (delFromTopicSubscribed_leads selective tidy hasTopic first.lportId).mono ?_ ?_
      · rintro _ middle ⟨firstSubscribed, middleTidy, sameMapping, subscribed⟩
        refine (induction middleTidy fun item member =>
          topics item (List.mem_cons_of_mem _ member)).mono ?_ ?_
        · rintro _ after ⟨⟨distinct, allSubscribed⟩, afterTidy, sameMappingToo, remaining⟩
          have isOther : ∀ item ∈ items, topology.Subscribed item ∧ item ≠ first :=
            fun item member => (subscribed item).mp (allSubscribed item member)
          refine ⟨⟨⟨fun member => (isOther first member).2 rfl, distinct⟩, firstSubscribed,
            fun item member => (isOther item member).1⟩, afterTidy,
            sameMappingToo.trans sameMapping, ?_⟩
          intro item
          rw [remaining item, subscribed item, List.mem_cons, not_or, and_assoc]
        · rintro _ _ fails ⟨⟨isNew, distinct⟩, _, allSubscribed⟩
          apply fails
          refine ⟨distinct, ?_⟩
          intro item member
          apply (subscribed item).mpr
          refine ⟨allSubscribed item member, ?_⟩
          rintro rfl
          exact isNew member
      · rintro _ _ isNotSubscribed ⟨_, firstSubscribed, _⟩
        exact isNotSubscribed firstSubscribed

/-! ## The recheck -/

/-- A mapped switch port that is not there any more, or not with a logical port. -/
def Vanished (mapping : Dict Id OvsLportMapping) (ports : List SwitchPort) (port : Id)
    (item : OvsLportMapping) : Prop :=
  mapping.lookup port = some item ∧ ∀ other, ¬ Present ports port other

/-- A switch port that has no mapping yet. -/
def Appeared (mapping : Dict Id OvsLportMapping) (ports : List SwitchPort) (port : Id)
    (item : OvsLportMapping) : Prop :=
  Present ports port item ∧ mapping.lookup port = none

/-- The logical port of a switch port that vanished belongs to no other one, and the
ports of the switch ports that stay are the same ones, counted together. -/
structure RecheckKept (mapping : Dict Id OvsLportMapping) (ports : List SwitchPort) :
    Prop where
  vanishedOnce : ∀ port other item, Vanished mapping ports port item →
    Vanished mapping ports other item → port = other
  vanishedGone : ∀ port other item, Vanished mapping ports port item →
    ¬ Present ports other item
  stayingOld : ∀ port old new, mapping.lookup port = some old → Present ports port new →
    (∃ other, Present ports other old) ∨ ∃ other, Vanished mapping ports other old
  stayingNew : ∀ port old new, mapping.lookup port = some old → Present ports port new →
    Held mapping new ∨ ∃ other, Appeared mapping ports other new

theorem topic_of_present {ports : List SwitchPort} {port : Id} {item : OvsLportMapping}
    (present : Present ports port item) : item.topic ≠ "" := by
  rcases present with ⟨switchPort, _, _, wanted⟩
  unfold mappingOf at wanted
  split at wanted
  · rw [Option.bind_eq_some_iff] at wanted
    rcases wanted with ⟨lport, _, isItem⟩
    split at isItem
    · cases isItem
    · next hasTopic =>
        rw [← Option.some.inj isItem]
        exact hasTopic
  · cases wanted

section Recheck

variable {mapping : Dict Id OvsLportMapping} {ports : List SwitchPort} {recheck : Recheck}

theorem Rechecked.lookup_add (rechecked : Rechecked mapping ports recheck) (port : Id)
    (item : OvsLportMapping) :
    recheck.add.lookup port = some item ↔ Appeared mapping ports port item := by
  rw [rechecked.add port, Appeared, ← rechecked.new port item]
  cases mapping.lookup port <;> simp

theorem Rechecked.lookup_delete (rechecked : Rechecked mapping ports recheck) (port : Id)
    (item : OvsLportMapping) :
    recheck.delete.lookup port = some item ↔ Vanished mapping ports port item := by
  have isAbsent : (∀ other, ¬ Present ports port other) ↔
      recheck.new.lookup port = none := by
    simp only [← rechecked.new port]
    exact (Option.eq_none_iff_forall_ne_some).symm
  rw [rechecked.delete port, Vanished, isAbsent]
  cases recheck.new.lookup port <;> simp

theorem Rechecked.mem_add (rechecked : Rechecked mapping ports recheck)
    (item : OvsLportMapping) :
    item ∈ valuesOf recheck.add ↔ ∃ port, Appeared mapping ports port item := by
  unfold valuesOf
  rw [Dict.mem_values_iff]
  exact exists_congr fun port => rechecked.lookup_add port item

theorem Rechecked.mem_delete (rechecked : Rechecked mapping ports recheck)
    (item : OvsLportMapping) :
    item ∈ valuesOf recheck.delete ↔ ∃ port, Vanished mapping ports port item := by
  unfold valuesOf
  rw [Dict.mem_values_iff]
  exact exists_congr fun port => rechecked.lookup_delete port item

theorem Rechecked.nodup_delete (rechecked : Rechecked mapping ports recheck) :
    (valuesOf recheck.delete).Nodup ↔ ∀ port other item,
      Vanished mapping ports port item → Vanished mapping ports other item →
        port = other := by
  unfold valuesOf
  rw [Dict.nodup_values_iff]
  simp only [rechecked.lookup_delete]

/-- The topics after the recheck say what the store says just when the recheck is kept. -/
theorem recheckKept_iff (once : ∀ port other item, Vanished mapping ports port item →
      Vanished mapping ports other item → port = other) :
    (∀ item, (Held mapping item ∨ ∃ port, Appeared mapping ports port item) ∧
        (¬ ∃ port, Vanished mapping ports port item) ↔
          ∃ port, Present ports port item) ↔
      RecheckKept mapping ports := by
  constructor
  · intro balanced
    refine ⟨once, ?_, ?_, ?_⟩
    · intro port other item vanished present
      exact ((balanced item).mpr ⟨other, present⟩).2 ⟨port, vanished⟩
    · intro port old new found present
      by_cases isVanished : ∃ other, Vanished mapping ports other old
      · exact Or.inr isVanished
      · exact Or.inl ((balanced old).mp ⟨Or.inl ⟨port, found⟩, isVanished⟩)
    · intro port old new found present
      exact ((balanced new).mpr ⟨port, present⟩).1
  · intro kept item
    constructor
    · rintro ⟨⟨port, found⟩ | ⟨port, appeared⟩, isNotVanished⟩
      · by_cases stays : ∃ new, Present ports port new
        · rcases stays with ⟨new, present⟩
          rcases kept.stayingOld port item new found present with isPresent | isVanished
          · exact isPresent
          · exact absurd isVanished isNotVanished
        · exact absurd ⟨port, found, not_exists.mp stays⟩ isNotVanished
      · exact ⟨port, appeared.1⟩
    · rintro ⟨port, present⟩
      refine ⟨?_, ?_⟩
      · cases found : mapping.lookup port with
        | none => exact Or.inr ⟨port, present, found⟩
        | some old => exact kept.stayingNew port old item found present
      · rintro ⟨other, vanished⟩
        exact kept.vanishedGone other port item vanished present

end Recheck

theorem checkTopologyInfo_settles (selective : config.enableSelectiveTopoDist = true)
    (tidy : topology.Tidy) (mirrors : topology.Mirrors) (switchPorts : SwitchPorts) :
    Settles (checkTopologyInfo config switchPorts) topology (fun _ => True)
      (RecheckKept topology.ovsToLportMapping switchPorts.ports) := by
  have rechecked := rechecked_all topology.ovsToLportMapping switchPorts.ports
    switchPorts.distinct
  unfold Settles checkTopologyInfo
  simp only [leads_bind, leads_get, leads_set]
  generalize switchPorts.ports.foldl recheckPort ⟨∅, ∅, topology.ovsToLportMapping⟩ =
    recheck at rechecked
  have newTidy : ({ topology with ovsToLportMapping := recheck.new } : Topology).Tidy := by
    apply tidy.withMapping
    intro port item found
    exact topic_of_present ((rechecked.new port item).mp found)
  have addTopics : ∀ item ∈ valuesOf recheck.add, item.topic ≠ "" := by
    intro item member
    rcases (rechecked.mem_add item).mp member with ⟨port, appeared⟩
    exact topic_of_present appeared.1
  have deleteTopics : ∀ item ∈ valuesOf recheck.delete, item.topic ≠ "" := by
    intro item member
    rcases (rechecked.mem_delete item).mp member with ⟨port, vanished⟩
    exact tidy.topics port item vanished.1
  refine (addAll_leads selective newTidy _ addTopics).mono ?_
    fun _ _ impossible => impossible.elim
  rintro _ middle ⟨middleTidy, sameMapping, added⟩
  have allSubscribed : ∀ item ∈ valuesOf recheck.delete, middle.Subscribed item := by
    intro item member
    rcases (rechecked.mem_delete item).mp member with ⟨port, vanished⟩
    exact (added item).mpr (Or.inl ((mirrors item).mpr ⟨port, vanished.1⟩))
  refine (delAll_leads selective middleTidy _ deleteTopics).mono ?_ ?_
  · rintro _ after ⟨⟨distinct, _⟩, afterTidy, sameMappingToo, remaining⟩
    refine ⟨afterTidy, ?_⟩
    rw [and_true, ← recheckKept_iff (rechecked.nodup_delete.mp distinct)]
    apply forall_congr'
    intro item
    have isHeld : Held after.ovsToLportMapping item ↔
        ∃ port, Present switchPorts.ports port item := by
      unfold Held
      rw [sameMappingToo, sameMapping]
      exact exists_congr fun port => rechecked.new port item
    rw [remaining item, added item, rechecked.mem_delete item, rechecked.mem_add item, isHeld]
    exact iff_congr (and_congr_left' (or_congr_left (mirrors item))) Iff.rfl
  · intro _ _ fails kept
    exact fails ⟨rechecked.nodup_delete.mpr kept.vanishedOnce, allSubscribed⟩

/-! ## Runs -/

/-- What is asked of the state after an event. -/
def Wanted (event : TopologyEvent) (after : Topology) : Prop :=
  match event with
  | .deleted switchPort _ => after.ovsToLportMapping.lookup switchPort.id = none
  | _ => True

/-- The handler returns, the topics are those of the mapped ports, the controller is
registered for them, and a deleted switch port has no mapping. -/
def EventFaithful (config : TopologyConfig) (topology : Topology) (event : TopologyEvent) :
    Prop :=
  Leads (handle config event) topology
    (fun _ after =>
      (∀ topic lportId, lportId ∈ Dict.members after.topicSubscribed topic ↔
        ∃ port, after.ovsToLportMapping.lookup port = some ⟨lportId, topic⟩) ∧
      (∀ topic, topic ∈ after.topicList ↔ topic ∈ after.topicSubscribed.keys) ∧
      Wanted event after)
    (fun _ _ => False)

/-- The condition on an event, in the state in which it comes. -/
def EventKept (config : TopologyConfig) (topology : Topology) : TopologyEvent → Prop
  | .created switchPort => UpdateKept config topology switchPort
  | .updated switchPort => UpdateKept config topology switchPort
  | .deleted switchPort hasMigration => DeleteKept topology switchPort hasMigration
  | .checkTopologyInfo switchPorts =>
      RecheckKept topology.ovsToLportMapping switchPorts.ports

/-- An exception of a handler is logged, and the next event comes. -/
def step (config : TopologyConfig) (topology : Topology) (event : TopologyEvent) :
    Option Topology :=
  some (exec (handle config event) topology).2

theorem handle_settles (selective : config.enableSelectiveTopoDist = true)
    (tidy : topology.Tidy) (mirrors : topology.Mirrors) (event : TopologyEvent) :
    Settles (handle config event) topology (Wanted event)
      (EventKept config topology event) := by
  cases event with
  | created switchPort => exact computePortAdded_settles selective tidy mirrors switchPort
  | updated switchPort => exact computePortUpdated_settles selective tidy mirrors switchPort
  | deleted switchPort hasMigration =>
      exact computePortDeleted_settles selective tidy mirrors switchPort hasMigration
  | checkTopologyInfo switchPorts =>
      exact checkTopologyInfo_settles selective tidy mirrors switchPorts

theorem Tidy.mem_topicList (tidy : topology.Tidy) (topic : String) :
    topic ∈ topology.topicList ↔ topic ∈ topology.topicSubscribed.keys := by
  rw [tidy.registered topic, Dict.mem_keys_iff]

theorem mirrors_iff (topology : Topology) :
    topology.Mirrors ↔ ∀ topic lportId,
      lportId ∈ Dict.members topology.topicSubscribed topic ↔
        ∃ port, topology.ovsToLportMapping.lookup port = some ⟨lportId, topic⟩ :=
  ⟨fun mirrors topic lportId => mirrors ⟨lportId, topic⟩,
    fun faithful item => faithful item.topic item.lportId⟩

theorem eventFaithful_iff (selective : config.enableSelectiveTopoDist = true)
    (tidy : topology.Tidy) (mirrors : topology.Mirrors) (event : TopologyEvent) :
    EventFaithful config topology event ↔ EventKept config topology event := by
  refine (handle_settles selective tidy mirrors event).succeeds_iff ?_
    fun _ _ fails => fails
  rintro _ after ⟨afterTidy, settled⟩
  rw [← settled, mirrors_iff after]
  constructor
  · rintro ⟨faithful, _, wanted⟩
    exact ⟨faithful, wanted⟩
  · rintro ⟨faithful, wanted⟩
    exact ⟨faithful, afterTidy.mem_topicList, wanted⟩

theorem step_balanced (selective : config.enableSelectiveTopoDist = true)
    (tidy : topology.Tidy) (mirrors : topology.Mirrors) {event : TopologyEvent}
    (kept : EventKept config topology event) :
    (exec (handle config event) topology).2.Tidy ∧
      (exec (handle config event) topology).2.Mirrors := by
  have settles := handle_settles selective tidy mirrors event
  rcases executed : exec (handle config event) topology with ⟨error | value, after⟩
  · exact absurd kept (settles.of_error executed)
  · rcases settles.of_ok executed with ⟨afterTidy, settled⟩
    exact ⟨afterTidy, (settled.mpr kept).1⟩

/-- Whatever the events of a run, the topics follow the switch ports at each of them if
and only if each of them is kept. -/
theorem topics_mirror_ports_iff (config : TopologyConfig)
    (selective : config.enableSelectiveTopoDist = true) (events : List TopologyEvent) :
    Throughout (step config) (EventFaithful config) events {} ↔
      Throughout (step config) (EventKept config) events {} := by
  suffices general : ∀ topology : Topology, topology.Tidy → topology.Mirrors →
      (Throughout (step config) (EventFaithful config) events topology ↔
        Throughout (step config) (EventKept config) events topology) by
    exact general {} tidy_initial mirrors_initial
  induction events with
  | nil =>
      intro topology _ _
      exact Iff.rfl
  | cons event events induction =>
      intro topology tidy mirrors
      have isKept := eventFaithful_iff selective tidy mirrors event
      constructor
      · rintro ⟨faithful, later⟩
        have kept := isKept.mp faithful
        have balanced := step_balanced selective tidy mirrors kept
        exact ⟨kept, (induction _ balanced.1 balanced.2).mp later⟩
      · rintro ⟨kept, later⟩
        have balanced := step_balanced selective tidy mirrors kept
        exact ⟨isKept.mpr kept, (induction _ balanced.1 balanced.2).mpr later⟩

/-! ### One port that comes and goes -/

def hostConfig : TopologyConfig := { enableSelectiveTopoDist := true, chassisName := "host" }

/-- A port of an instance on this host. -/
def instanceLport : LogicalPort :=
  { id := "lport", topic := "tenant", binding := some (.chassis "host"),
    deviceOwner := some "compute:nova" }

def instancePort : SwitchPort :=
  { id := "tap"
    lport := some
      { id := "lport"
        stored := some instanceLport
        northbound := some instanceLport
        storedId := fun lport found => by rw [← Option.some.inj found]; rfl
        northboundId := fun lport found => by rw [← Option.some.inj found]; rfl } }

theorem topics_mirror_ports_of_instance :
    Throughout (step hostConfig) (EventFaithful hostConfig)
      [.created instancePort, .deleted instancePort false] {} := by
  apply (topics_mirror_ports_iff hostConfig rfl _).mpr
  refine ⟨?_, ?_, trivial⟩
  · intro lport wants
    have isInstance : instanceLport = lport := Option.some.inj wants.1
    rw [← isInstance]
    refine ⟨⟨"host", rfl, fun different => absurd rfl different⟩, ?_⟩
    intro old found
    cases found
  · refine ⟨_, rfl, rfl, ⟨"lport", "tenant"⟩, rfl, ?_⟩
    rw [if_neg (by decide)]
    refine ⟨rfl, ?_⟩
    rintro ⟨other, different, found⟩
    have isMapping : (exec (handle hostConfig (.created instancePort)) {}).2.ovsToLportMapping =
        (∅ : Dict Id OvsLportMapping).insert instancePort.id ⟨"lport", "tenant"⟩ := rfl
    change (exec (handle hostConfig (.created instancePort)) {}).2.ovsToLportMapping.lookup
      other = _ at found
    rw [isMapping, Dict.lookup_insert_eq, if_neg different] at found
    cases found

/-- The port goes while a migration of it is under way. -/
theorem migration_leaves_mapping :
    ¬ Throughout (step hostConfig) (EventFaithful hostConfig)
      [.created instancePort, .deleted instancePort true] {} := by
  rintro ⟨_, faithful, _⟩
  have raised : (exec (handle hostConfig (.deleted instancePort true))
      (exec (handle hostConfig (.created instancePort)) {}).2).1.isOk = false := by
    decide +kernel
  rcases Leads.returned faithful with ⟨_, _, executed, _⟩
  rw [executed] at raised
  cases raised

end Topology

end Dragonflow
