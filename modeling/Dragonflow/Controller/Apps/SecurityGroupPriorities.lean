import Dragonflow.Controller.Apps.SecurityGroupFlows
import Dragonflow.Db.Drivers.UniqueKeys
import Mathlib.Data.List.Induction

/-! # The priorities of security groups

The flows of a group have the group's unique key, moved by an offset, as their priority.
The key is the next number of a counter in etcd, which is never given out again.
-/

namespace Dragonflow

/-- `PRIORITY_CT_STATE` -/
def Const.priorityCtState : Nat := 65534

/-- `SecurityGroup.table_name` -/
def secgroupTable : String := "secgroup"

/-! ## The provisioning of groups -/

/-- The clients of etcd, the keys that were used, and the groups that exist. -/
structure Provisioning (ι : Type) where
  clients : Clients (EtcdStore Int) ι String EtcdDriver.Phase Int
  usedKeys : List Int := []
  secgroups : Dict Id SecurityGroup := ∅

inductive ProvisioningEvent (ι : Type)
  /-- A client allocates keys, of this table or another. -/
  | allocation (event : ClientEvent ι String)
  /-- A group is stored with the key that was allocated for it. -/
  | create (id : Id) (rules : List SecurityGroupRule) (uniqueKey : Int)
  | delete (id : Id)
  deriving DecidableEq

namespace Provisioning

variable {ι : Type}

/-- Each key that was given out is used for one group, or for none. -/
def step [DecidableEq ι] (provisioning : Provisioning ι) : ProvisioningEvent ι → Option (Provisioning ι)
  | .allocation event =>
      (provisioning.clients.step EtcdDriver.allocateUniqueKey event).map fun clients =>
        { provisioning with clients := clients }
  | .create id rules uniqueKey =>
      if uniqueKey ∈ resultsOf provisioning.clients.log secgroupTable ∧
          uniqueKey ∉ provisioning.usedKeys then
        some { provisioning with
          usedKeys := uniqueKey :: provisioning.usedKeys
          secgroups := provisioning.secgroups.insert id ⟨id, uniqueKey.toNat, rules⟩ }
      else none
  | .delete id => some { provisioning with secgroups := provisioning.secgroups.erase id }

/-- Nothing was allocated yet. -/
def initial (store : EtcdStore Int) : Provisioning ι := { clients := { store := store } }

/-- The store of a controller has the groups that exist. -/
def HeldBy (provisioning : Provisioning ι) (store : SGApp.Store) : Prop :=
  ∀ id, store.secgroups id = provisioning.secgroups.lookup id

/-- The priority of a group fits in 16 bits, is not that of another group, and lies between
the flows that drop by default and those of connection tracking. -/
def PrioritiesValid (provisioning : Provisioning ι) : Prop :=
  ∀ store, provisioning.HeldBy store → ∀ id ∈ provisioning.secgroups,
    ∃ conjId priority, SGApp.getSecgroupConjIdAndPriority store id = .ok (conjId, priority) ∧
      priority < 2 ^ 16 ∧ Const.priorityDefault < priority ∧
      priority < Const.priorityCtState ∧
      ∀ other otherConjId otherPriority, other ≠ id →
        SGApp.getSecgroupConjIdAndPriority store other = .ok (otherConjId, otherPriority) →
        otherPriority ≠ priority

/-! ## The keys of the groups that exist -/

/-- Groups have keys of their own, which the counter gave out. -/
structure Numbered (provisioning : Provisioning ι) : Prop where
  counted : provisioning.clients.Sound (Counted EtcdDriver.Shows) fun _ _ _ => True
  allocated : ∀ uniqueKey ∈ provisioning.usedKeys,
    uniqueKey ∈ resultsOf provisioning.clients.log secgroupTable
  used : ∀ id secgroup, provisioning.secgroups.lookup id = some secgroup →
    (secgroup.uniqueKey : Int) ∈ provisioning.usedKeys
  distinct : ∀ id other secgroup otherGroup,
    provisioning.secgroups.lookup id = some secgroup →
    provisioning.secgroups.lookup other = some otherGroup →
    secgroup.uniqueKey = otherGroup.uniqueKey → id = other

variable {provisioning after : Provisioning ι} {store : EtcdStore Int}

theorem numbered_initial (noCounters : EtcdDriver.NoCounters store) :
    (initial store : Provisioning ι).Numbered where
  counted := ⟨fun table => ⟨0, noCounters table, rfl⟩,
    fun _ _ _ impossible => by cases impossible⟩
  allocated _ impossible := by cases impossible
  used _ _ impossible := by cases impossible
  distinct _ _ _ _ impossible := by cases impossible

theorem Numbered.positive (numbered : provisioning.Numbered) {uniqueKey : Int}
    (given : uniqueKey ∈ resultsOf provisioning.clients.log secgroupTable) :
    0 < uniqueKey := by
  rcases numbered.counted.known secgroupTable with ⟨count, _, results⟩
  rw [results] at given
  rcases List.mem_map.mp given with ⟨index, _, isNext⟩
  rw [← isNext]
  omega

/-! ## When the priorities are valid -/

/-- The greatest key whose priority is below that of connection tracking. -/
def greatestKey : Nat := Const.priorityCtState - 1 - SGApp.sgPriorityOffset

/-- The keys of the groups that exist leave room for the flows of connection tracking. -/
def Bounded (provisioning : Provisioning ι) : Prop :=
  ∀ id secgroup, provisioning.secgroups.lookup id = some secgroup →
    secgroup.uniqueKey ≤ greatestKey

theorem priority_eq {store : SGApp.Store} (heldBy : provisioning.HeldBy store) {id : Id}
    {secgroup : SecurityGroup} (found : provisioning.secgroups.lookup id = some secgroup) :
    SGApp.getSecgroupConjIdAndPriority store id =
      .ok (secgroup.uniqueKey, SGApp.sgPriorityOffset + secgroup.uniqueKey) :=
  SGApp.getSecgroupConjIdAndPriority_eq ((heldBy id).trans found)

theorem Numbered.prioritiesValid (numbered : provisioning.Numbered)
    (bounded : provisioning.Bounded) : provisioning.PrioritiesValid := by
  intro store heldBy id isMember
  rcases Option.isSome_iff_exists.mp (AList.lookup_isSome.mpr isMember) with ⟨secgroup, found⟩
  have isUsed := numbered.used id secgroup found
  have positive := numbered.positive (numbered.allocated _ isUsed)
  have small := bounded id secgroup found
  have isGreatest : greatestKey = 65531 := rfl
  have isOffset : SGApp.sgPriorityOffset = 2 := rfl
  refine ⟨_, _, priority_eq heldBy found, ?_, ?_, ?_, ?_⟩
  · omega
  · show 1 < SGApp.sgPriorityOffset + secgroup.uniqueKey
    omega
  · show SGApp.sgPriorityOffset + secgroup.uniqueKey < 65534
    omega
  · intro other otherConjId otherPriority different given same
    cases otherFound : provisioning.secgroups.lookup other with
    | none =>
        unfold SGApp.getSecgroupConjIdAndPriority at given
        rw [heldBy other, otherFound] at given
        cases given
    | some otherGroup =>
        rw [priority_eq heldBy otherFound] at given
        cases given
        apply different
        exact numbered.distinct other id otherGroup secgroup otherFound found (by omega)

theorem bounded_of_prioritiesValid (valid : provisioning.PrioritiesValid) :
    provisioning.Bounded := by
  intro id secgroup found
  have isMember : id ∈ provisioning.secgroups :=
    AList.lookup_isSome.mp (Option.isSome_iff_exists.mpr ⟨secgroup, found⟩)
  let store : SGApp.Store :=
    ⟨provisioning.secgroups.lookup, fun _ => none, ⟨fun _ => none, fun _ => none⟩⟩
  rcases valid store (fun _ => rfl) id isMember with
    ⟨conjId, priority, given, _, _, below, _⟩
  rw [priority_eq (fun _ => rfl) found] at given
  cases given
  have isGreatest : greatestKey = 65531 := rfl
  have isOffset : SGApp.sgPriorityOffset = 2 := rfl
  have isLimit : Const.priorityCtState = 65534 := rfl
  omega

end Provisioning

/-- A group is created while the counter leaves room below connection tracking. -/
def ProvisioningEvent.Early {ι : Type} : ProvisioningEvent ι → Prop
  | .create _ _ uniqueKey => uniqueKey ≤ Provisioning.greatestKey
  | _ => True

namespace Provisioning

variable {ι : Type} {provisioning after : Provisioning ι} {store : EtcdStore Int}

/-! ## Runs -/

variable [DecidableEq ι]

theorem Numbered.allocation (numbered : provisioning.Numbered) {event : ClientEvent ι String}
    (stepped : provisioning.step (.allocation event) = some after) : after.Numbered := by
  rcases Option.map_eq_some_iff.mp stepped with ⟨clients, clientsStepped, isAfter⟩
  rw [← isAfter]
  rcases Clients.log_of_step clientsStepped with ⟨added, isLog⟩
  have starts : ∀ (table : String) (store : EtcdStore Int), True := fun _ _ => trivial
  refine ⟨?_, ?_, numbered.used, numbered.distinct⟩
  · refine numbered.counted.step starts ?_ clientsStepped
    intro _ table phase _ _ _ counted
    exact EtcdDriver.allocateUniqueKey_kept table phase _ _ counted
  · intro uniqueKey isUsed
    have given := numbered.allocated uniqueKey isUsed
    show uniqueKey ∈ resultsOf clients.log secgroupTable
    rw [isLog]
    unfold resultsOf at given ⊢
    rw [List.filterMap_append]
    exact List.mem_append_left _ given

theorem Numbered.create (numbered : provisioning.Numbered) {id : Id}
    {rules : List SecurityGroupRule} {uniqueKey : Int}
    (stepped : provisioning.step (.create id rules uniqueKey) = some after) :
    after.Numbered := by
  change (if uniqueKey ∈ resultsOf provisioning.clients.log secgroupTable ∧
      uniqueKey ∉ provisioning.usedKeys then _ else none) = some after at stepped
  split at stepped
  · next possible =>
      cases stepped
      have isNatural : ((uniqueKey.toNat : Nat) : Int) = uniqueKey :=
        Int.toNat_of_nonneg (Int.le_of_lt (numbered.positive possible.1))
      -- a group that exists has a key that was used before
      have isNew : ∀ old secgroup, provisioning.secgroups.lookup old = some secgroup →
          secgroup.uniqueKey ≠ uniqueKey.toNat := by
        intro old secgroup found same
        apply possible.2
        rw [← isNatural, ← same]
        exact numbered.used old secgroup found
      refine ⟨numbered.counted, ?_, ?_, ?_⟩
      · intro key isUsed
        cases isUsed with
        | head => exact possible.1
        | tail _ earlier => exact numbered.allocated key earlier
      · intro other secgroup found
        rw [Dict.lookup_insert_eq] at found
        split at found
        · cases found
          show ((uniqueKey.toNat : Nat) : Int) ∈ _
          rw [isNatural]
          exact List.mem_cons_self
        · exact List.mem_cons_of_mem _ (numbered.used other secgroup found)
      · intro first second firstGroup secondGroup firstFound secondFound same
        rw [Dict.lookup_insert_eq] at firstFound secondFound
        split at firstFound <;> split at secondFound
        · next isFirst isSecond => exact isFirst.trans isSecond.symm
        · cases firstFound
          exact absurd same.symm (isNew second secondGroup secondFound)
        · cases secondFound
          exact absurd same (isNew first firstGroup firstFound)
        · exact numbered.distinct first second firstGroup secondGroup firstFound secondFound
            same
  · cases stepped

theorem lookup_of_erase {id other : Id} {secgroup : SecurityGroup}
    {secgroups : Dict Id SecurityGroup}
    (found : (secgroups.erase id).lookup other = some secgroup) :
    secgroups.lookup other = some secgroup := by
  rw [Dict.lookup_erase_eq] at found
  split at found
  · cases found
  · exact found

theorem Numbered.step (numbered : provisioning.Numbered) {event : ProvisioningEvent ι}
    (stepped : provisioning.step event = some after) : after.Numbered := by
  cases event with
  | allocation event => exact numbered.allocation stepped
  | create id rules uniqueKey => exact numbered.create stepped
  | delete id =>
      cases stepped
      refine ⟨numbered.counted, numbered.allocated, ?_, ?_⟩
      · intro other secgroup found
        exact numbered.used other secgroup (lookup_of_erase found)
      · intro first second firstGroup secondGroup firstFound secondFound
        exact numbered.distinct first second firstGroup secondGroup
          (lookup_of_erase firstFound) (lookup_of_erase secondFound)

theorem numbered_of_steps (noCounters : EtcdDriver.NoCounters store)
    {events : List (ProvisioningEvent ι)}
    (reached : steps step events (initial store) = some after) : after.Numbered :=
  steps_invariant Numbered (fun _ _ _ numbered stepped => numbered.step stepped)
    (numbered_initial noCounters) reached

/-- The run has the events before an event, the event, and the others. -/
theorem steps_of_mem {events : List (ProvisioningEvent ι)} {event : ProvisioningEvent ι}
    (reached : steps step events provisioning = some after) (member : event ∈ events) :
    ∃ done before next, done ++ [event] <+: events ∧
      steps step done provisioning = some before ∧ before.step event = some next ∧
      steps step (done ++ [event]) provisioning = some next := by
  rcases List.append_of_mem member with ⟨done, rest, isRun⟩
  rw [isRun, steps_append_eq, Option.bind_eq_some_iff] at reached
  rcases reached with ⟨before, isBefore, isRest⟩
  rw [steps_cons_eq_some] at isRest
  rcases isRest with ⟨next, stepped, _⟩
  refine ⟨done, before, next, ?_, isBefore, stepped, ?_⟩
  · rw [isRun]
    exact ⟨rest, by rw [List.append_assoc]; rfl⟩
  · exact steps_append isBefore (steps_cons_eq_some.mpr ⟨next, stepped, rfl⟩)

theorem Bounded.step (bounded : provisioning.Bounded) {event : ProvisioningEvent ι}
    (early : event.Early) (stepped : provisioning.step event = some after) :
    after.Bounded := by
  cases event with
  | allocation event =>
      rcases Option.map_eq_some_iff.mp stepped with ⟨clients, _, isAfter⟩
      rw [← isAfter]
      exact bounded
  | create id rules uniqueKey =>
      change (if uniqueKey ∈ resultsOf provisioning.clients.log secgroupTable ∧
          uniqueKey ∉ provisioning.usedKeys then _ else none) = some after at stepped
      split at stepped
      · cases stepped
        intro other secgroup found
        rw [Dict.lookup_insert_eq] at found
        split at found
        · cases found
          exact Int.toNat_le.mpr early
        · exact bounded other secgroup found
      · cases stepped
  | delete id =>
      cases stepped
      intro other secgroup found
      exact bounded other secgroup (lookup_of_erase found)

theorem early_of_bounded {event : ProvisioningEvent ι}
    (stepped : provisioning.step event = some after) (bounded : after.Bounded) :
    event.Early := by
  cases event with
  | allocation event => trivial
  | delete id => trivial
  | create id rules uniqueKey =>
      change (if uniqueKey ∈ resultsOf provisioning.clients.log secgroupTable ∧
          uniqueKey ∉ provisioning.usedKeys then _ else none) = some after at stepped
      split at stepped
      · cases stepped
        have small := bounded id ⟨id, uniqueKey.toNat, rules⟩ (AList.lookup_insert _)
        exact Int.toNat_le.mp small
      · cases stepped

/-- The priorities are valid in all states of a run just when every group gets one of the
keys that leave room below connection tracking. -/
theorem priorities_valid_iff_early (noCounters : EtcdDriver.NoCounters store)
    {events : List (ProvisioningEvent ι)}
    (possible : steps step events (initial store) = some after) :
    (∀ done reached, done <+: events → steps step done (initial store) = some reached →
      reached.PrioritiesValid) ↔ ∀ event ∈ events, event.Early := by
  constructor
  · intro valid event member
    rcases steps_of_mem possible member with
      ⟨done, before, next, isPrefix, _, stepped, isNext⟩
    have bounded := bounded_of_prioritiesValid (valid _ next isPrefix isNext)
    exact early_of_bounded stepped bounded
  · intro early done reached isPrefix isReached
    apply (numbered_of_steps noCounters isReached).prioritiesValid
    have doneEarly : ∀ event ∈ done, event.Early :=
      fun event member => early event (isPrefix.subset member)
    clear isPrefix
    induction done using List.reverseRecOn generalizing reached with
    | nil =>
        cases isReached
        intro id secgroup impossible
        cases impossible
    | append_singleton done event induction =>
        rw [steps_append_eq, Option.bind_eq_some_iff] at isReached
        rcases isReached with ⟨before, isBefore, isRest⟩
        rw [steps_cons_eq_some] at isRest
        rcases isRest with ⟨next, stepped, same⟩
        cases same
        have bounded := induction before isBefore fun other member =>
          doneEarly other (List.mem_append_left _ member)
        exact bounded.step (doneEarly event (by simp)) stepped

/-- One client allocates a key, and stores a group with it. -/
def firstGroup : List (ProvisioningEvent Unit) :=
  [.allocation (.call () secgroupTable), .allocation (.access ()),
    .allocation (.access ()), .create "group" [] 1]

theorem priorities_valid_iff_early_first :
    ∃ after, steps step firstGroup (initial ∅) = some after ∧
      ((∀ done reached, done <+: firstGroup → steps step done (initial ∅) = some reached →
        reached.PrioritiesValid) ↔ ∀ event ∈ firstGroup, event.Early) := by
  have isPossible : (steps step firstGroup (initial ∅)).isSome := by decide +kernel
  rcases Option.isSome_iff_exists.mp isPossible with ⟨after, possible⟩
  exact ⟨after, possible, priorities_valid_iff_early (fun _ => rfl) possible⟩

/-! ## When the counter has gone on for long -/

/-- A client is idle, and has had all the keys up to the count. -/
structure HasHad (count : Nat) (provisioning : Provisioning Unit) : Prop where
  idle : provisioning.clients.calls () = none
  shows : EtcdDriver.Shows provisioning.clients.store secgroupTable count
  results : resultsOf provisioning.clients.log secgroupTable = firstNumbers count
  unused : provisioning.usedKeys = []

/-- The events of one allocation without others between them. -/
def oneAllocation : List (ProvisioningEvent Unit) :=
  [.allocation (.call () secgroupTable), .allocation (.access ()), .allocation (.access ())]

theorem HasHad.next {count : Nat} {provisioning : Provisioning Unit}
    (hasHad : HasHad count provisioning) :
    ∃ after, steps step oneAllocation provisioning = some after ∧ HasHad (count + 1) after := by
  rcases provisioning with ⟨⟨store, calls, log⟩, usedKeys, secgroups⟩
  rcases hasHad with ⟨idle, isShown, results, unused⟩
  let key := EtcdDriver.makeKey uniqueKeyTable secgroupTable
  have idleCall : calls () = none := idle
  have found : store.lookup key = if count = 0 then none else some (count : Int) := isShown
  refine ⟨⟨⟨store.insert key (count + 1), fun _ => none,
    log ++ [(secgroupTable, (count + 1 : Int))]⟩, usedKeys, secgroups⟩, ?_, ?_⟩
  · have noCalls : ∀ calls : Unit → Option (String × EtcdDriver.Phase),
        Function.update calls () none = fun _ => none := by
      intro calls
      funext client
      exact Function.update_self () none calls
    cases count with
    | zero =>
        simp [oneAllocation, steps, step, Clients.step, EtcdDriver.allocateUniqueKey,
          EtcdDriver.getRawKey, EtcdStore.create, idleCall, found, key, noCalls]
    | succ earlier =>
        simp [oneAllocation, steps, step, Clients.step, EtcdDriver.allocateUniqueKey,
          EtcdDriver.getRawKey, EtcdStore.replace, idleCall, found, key, noCalls]
  · refine ⟨rfl, EtcdDriver.shows_insert count, ?_, unused⟩
    show resultsOf (log ++ [(secgroupTable, (count + 1 : Int))]) secgroupTable = _
    have earlier : resultsOf log secgroupTable = firstNumbers count := results
    rw [resultsOf_append, if_pos rfl, firstNumbers_succ, earlier]

theorem hasHad_count (count : Nat) :
    ∃ events provisioning, steps step events (initial ∅) = some provisioning ∧
      HasHad count provisioning := by
  induction count with
  | zero => exact ⟨[], initial ∅, rfl, rfl, rfl, rfl, rfl⟩
  | succ count induction =>
      rcases induction with ⟨events, provisioning, reached, hasHad⟩
      rcases hasHad.next with ⟨after, isAfter, hasHadNext⟩
      exact ⟨_, after, steps_append reached isAfter, hasHadNext⟩

/-- The counter has given out so many keys that a group gets the priority of the flows of
connection tracking. -/
theorem priority_meets_connection_tracking :
    ¬∀ (events : List (ProvisioningEvent Unit)) provisioning,
      steps step events (initial ∅) = some provisioning → provisioning.PrioritiesValid := by
  intro valid
  rcases hasHad_count (greatestKey + 1) with ⟨events, provisioning, reached, hasHad⟩
  have given : ((greatestKey + 1 : Nat) : Int) ∈
      resultsOf provisioning.clients.log secgroupTable := by
    rw [hasHad.results, firstNumbers_succ]
    exact List.mem_append_right _ (List.mem_singleton.mpr rfl)
  have stepped : provisioning.step (.create "group" [] (greatestKey + 1 : Nat)) =
      some { provisioning with
        usedKeys := ((greatestKey + 1 : Nat) : Int) :: provisioning.usedKeys
        secgroups := provisioning.secgroups.insert "group" ⟨"group", greatestKey + 1, []⟩ } :=
    if_pos ⟨given, by rw [hasHad.unused]; exact List.not_mem_nil⟩
  have created := steps_append reached
    (steps_cons_eq_some.mpr ⟨_, stepped, steps_nil _⟩)
  have bounded := bounded_of_prioritiesValid (valid _ _ created)
  have small := bounded "group" ⟨"group", greatestKey + 1, []⟩ (AList.lookup_insert _)
  exact absurd small (Nat.not_succ_le_self greatestKey)

end Provisioning

end Dragonflow
