import Dragonflow.Controller.Apps.SecurityGroupCidrs

/-! # New versions of a security group

A new version of a group is compared with the old one rule by rule. Rules that are only
in the new version are added first, and then rules that are only in the old one are
removed. A rule that changed under its id is both.
-/

namespace Dragonflow
namespace SGApp

open Program

/-- The rules of a new version that the old one does not have. -/
def addedRules (newRules oldRules : List SecurityGroupRule) : List SecurityGroupRule :=
  newRules.filter fun rule => rule ∉ oldRules

/-- The rules of an old version that the new one does not have. -/
def removedRules (newRules oldRules : List SecurityGroupRule) : List SecurityGroupRule :=
  oldRules.filter fun rule => rule ∉ newRules

section Rules

variable {netaddr : Netaddr} {store : Store} {state : State} {ids : Finset Id}
  {secgroup : SecurityGroup} {book : AddressBook} {present : List SecurityGroupRule}
  {rule : SecurityGroupRule} {direction : Direction} {pattern : OFPMatch}

/-- The loops add what is new and then remove what is old. -/
theorem updateRules_eq (newId oldId : Id) {newRules oldRules : List SecurityGroupRule}
    (newDistinct : newRules.Nodup) (oldDistinct : oldRules.Nodup) :
    updateRules netaddr store newId oldId newRules oldRules = (do
      forM (addedRules newRules oldRules) (addSecurityGroupRule netaddr store newId)
      forM (removedRules newRules oldRules) (removeSecurityGroupRule store oldId)) := by
  induction newRules generalizing oldRules with
  | nil =>
      have everything : removedRules [] oldRules = oldRules := by simp [removedRules]
      rw [everything]
      rfl
  | cons newRule newRules induction =>
      rcases List.nodup_cons.mp newDistinct with ⟨notAgain, distinct⟩
      unfold updateRules
      split
      · next old =>
          rw [induction distinct (oldDistinct.erase newRule)]
          have sameAdded : addedRules newRules (oldRules.erase newRule) =
              addedRules (newRule :: newRules) oldRules := by
            unfold addedRules
            rw [List.filter_cons_of_neg (by simpa using old)]
            apply List.filter_congr
            intro rule member
            have different : rule ≠ newRule := fun same => notAgain (same ▸ member)
            simp [List.mem_erase_of_ne different]
          have sameRemoved : removedRules newRules (oldRules.erase newRule) =
              removedRules (newRule :: newRules) oldRules := by
            unfold removedRules
            rw [oldDistinct.erase_eq_filter, List.filter_filter]
            apply List.filter_congr
            intro rule _
            by_cases same : rule = newRule <;> simp [same]
          rw [sameAdded, sameRemoved]
      · next notOld =>
          rw [induction distinct oldDistinct]
          have addedFirst : addedRules (newRule :: newRules) oldRules =
              newRule :: addedRules newRules oldRules := by
            unfold addedRules
            rw [List.filter_cons_of_pos (by simpa using notOld)]
          have sameRemoved : removedRules (newRule :: newRules) oldRules =
              removedRules newRules oldRules := by
            unfold removedRules
            apply List.filter_congr
            intro rule member
            have different : rule ≠ newRule := fun same => notOld (same ▸ member)
            simp [different]
          rw [addedFirst, sameRemoved, List.forM_cons, bind_assoc]

/-! ## Adding rules -/

/-- The matches of the rule can be made. -/
def Makeable (netaddr : Netaddr) (rule : SecurityGroupRule) : Prop :=
  ∃ matchList, getRuleFlowsMatchExceptNetAddresses netaddr rule = .ok matchList

/-- The entry that rules have under a remote group. -/
def entryOf (rules : List SecurityGroupRule) (remote id : Id) : Option SecurityGroupRule :=
  rules.find? fun rule => rule.id = id ∧ rule.remoteGroupId = some remote

/-- What adding a rule does besides installing its flows. -/
structure Added (netaddr : Netaddr) (before : State) (rules : List SecurityGroupRule)
    (after : State) : Prop where
  made : ∀ rule ∈ rules, Makeable netaddr rule
  mapped : ∀ rule ∈ rules, ∃ ruleId, after.secgroupRuleMappings.lookup rule.id = some ruleId
  mappedStill : ∀ other ruleId, before.secgroupRuleMappings.lookup other = some ruleId →
    after.secgroupRuleMappings.lookup other = some ruleId
  entries : ∀ remote id, after.remoteRule remote id =
    (entryOf rules remote id).or (before.remoteRule remote id)
  ports : after.secgroupAssociateLocalPorts = before.secgroupAssociateLocalPorts

theorem Added.nil : Added netaddr state [] state where
  made _ member := absurd member List.not_mem_nil
  mapped _ member := absurd member List.not_mem_nil
  mappedStill _ _ found := found
  entries _ _ := rfl
  ports := rfl

theorem remoteRule_congr {before after : State}
    (same : after.remoteSecgroupRef = before.remoteSecgroupRef) (remote id : Id) :
    after.remoteRule remote id = before.remoteRule remote id := by
  unfold State.remoteRule
  rw [same]

/-- Adding a rule raises just when its matches cannot be made. -/
theorem leads_added (numbered : Numbered ids state) (known : rule.id ∈ ids)
    (few : ids.card < 2 ^ 32) (stored : store.secgroups secgroup.id = some secgroup)
    (associated : state.associated secgroup.id = true) :
    Leads (addSecurityGroupRule netaddr store secgroup.id rule) state
      (fun _ after => Added netaddr state [rule] after)
      (fun _ _ => ¬ Makeable netaddr rule) := by
  have remembered := state.remembering_eq rule
  have numberedNow : Numbered ids (state.remembering rule) := by
    rw [remembered]
    exact ⟨numbered.known, numbered.counted, numbered.injective⟩
  unfold addSecurityGroupRule installSecurityGroupRuleFlows
  rw [leads_bind, leads_get, if_pos associated, leads_bind,
    leads_exec_ok (exec_rememberRemoteRule state rule), leads_bind,
    getSecgroupConjIdAndPriority_eq stored, leads_ofExcept_ok, leads_bind]
  refine (numberedNow.getSecurityRuleMapping known few).mono ?_
    fun _ _ impossible => impossible.elim
  intro ruleId current facts
  rcases facts with ⟨small, -, mapped, mappedStill, sameCurrent⟩
  rw [leads_bind]
  cases matched : getRuleFlowsMatchExceptNetAddresses netaddr rule with
  | error error =>
      intro makeable
      rcases makeable with ⟨matchList, made⟩
      rw [matched] at made
      cases made
  | ok matchList =>
      rw [leads_ofExcept_ok, leads_bind, leads_get]
      refine (leads_installFlows rule _ small _ _).mono ?_
        fun _ _ impossible => impossible.elim
      intro _ after installed
      have mappings : after.secgroupRuleMappings = current.secgroupRuleMappings := by
        rw [installed.1]
      have refs : after.remoteSecgroupRef = (state.remembering rule).remoteSecgroupRef := by
        rw [installed.1, sameCurrent]
      have ports : after.secgroupAssociateLocalPorts =
          (state.remembering rule).secgroupAssociateLocalPorts := by
        rw [installed.1, sameCurrent]
      constructor
      · intro other member
        rw [List.mem_singleton.mp member]
        exact ⟨matchList, matched⟩
      · intro other member
        rw [List.mem_singleton.mp member, mappings]
        exact ⟨ruleId, mapped⟩
      · intro other number found
        rw [mappings]
        apply mappedStill
        rw [remembered]
        exact found
      · intro remote id
        rw [remoteRule_congr refs, remoteRule_remembering]
        unfold entryOf
        rw [List.find?_singleton]
        by_cases isEntry : rule.id = id ∧ rule.remoteGroupId = some remote
        · simp [isEntry.1, isEntry.2]
        · have notEntry : ¬ (rule.remoteGroupId = some remote ∧ id = rule.id) :=
            fun both => isEntry ⟨both.2.symm, both.1⟩
          rw [if_neg notEntry]
          simp [isEntry]
      · rw [ports, remembered]

/-- Adding several rules with different ids. -/
theorem Added.snoc {before middle after : State} {rules : List SecurityGroupRule}
    (first : Added netaddr before rules middle) (second : Added netaddr middle [rule] after)
    (fresh : ∀ other ∈ rules, other.id ≠ rule.id) :
    Added netaddr before (rules ++ [rule]) after where
  made other member := by
    rcases List.mem_append.mp member with isFirst | isSecond
    · exact first.made other isFirst
    · exact second.made other isSecond
  mapped other member := by
    rcases List.mem_append.mp member with isFirst | isSecond
    · rcases first.mapped other isFirst with ⟨ruleId, found⟩
      exact ⟨ruleId, second.mappedStill _ _ found⟩
    · exact second.mapped other isSecond
  mappedStill other ruleId found := second.mappedStill _ _ (first.mappedStill _ _ found)
  entries remote id := by
    rw [second.entries, first.entries]
    unfold entryOf
    rw [List.find?_append]
    by_cases isEntry : rule.id = id ∧ rule.remoteGroupId = some remote
    · have none : rules.find? (fun other =>
          other.id = id ∧ other.remoteGroupId = some remote) = none := by
        rw [List.find?_eq_none]
        intro other member both
        have sameId : other.id = id := (of_decide_eq_true both).1
        exact fresh other member (sameId.trans isEntry.1.symm)
      rw [none, Option.none_or, Option.none_or]
    · have none : [rule].find? (fun other =>
          other.id = id ∧ other.remoteGroupId = some remote) = none := by
        simp only [List.find?_singleton, isEntry, decide_false, Bool.false_eq_true, if_false]
      rw [none, Option.none_or, Option.or_none]
  ports := second.ports.trans first.ports

theorem leads_addAll {rules : List SecurityGroupRule}
    (installed : Installed netaddr secgroup ids book present state)
    (stored : store.secgroups secgroup.id = some secgroup) (few : ids.card < 2 ^ 32)
    (known : ∀ rule ∈ rules, rule.id ∈ ids) (distinct : (rules.map (·.id)).Nodup)
    (fresh : ∀ rule ∈ rules, rule ∉ present) :
    Leads (forM rules (addSecurityGroupRule netaddr store secgroup.id)) state
      (fun _ after => Added netaddr state rules after ∧
        Installed netaddr secgroup ids book (present ++ rules) after)
      (fun _ _ => ¬ ∀ rule ∈ rules, Makeable netaddr rule) := by
  refine Leads.loop (fun done current => Added netaddr state done current ∧
    Installed netaddr secgroup ids book (present ++ done) current) rules ?_ ?_
  · intro done rule rest current split holds
    have member : rule ∈ rules := by
      rw [split]
      simp
    have newId : ∀ other ∈ done, other.id ≠ rule.id := by
      intro other isDone same
      rw [split, List.map_append, List.map_cons] at distinct
      have apart := (List.nodup_append.mp distinct).2.2 other.id
        (List.mem_map_of_mem isDone) rule.id List.mem_cons_self
      exact apart same
    have notPresent : rule ∉ present ++ done := by
      intro either
      rcases List.mem_append.mp either with isOld | isDone
      · exact fresh rule member isOld
      · exact newId rule isDone rfl
    have next := (leads_added holds.2.numbered (known rule member) few stored
      holds.2.associated).and (holds.2.add stored (known rule member) few)
    refine next.mono ?_ ?_
    · intro _ after both
      refine ⟨holds.1.snoc both.1 newId, ?_⟩
      have installedAfter := both.2
      rw [List.erase_of_not_mem notPresent, List.append_assoc] at installedAfter
      exact installedAfter
    · intro _ _ both all
      exact both.1 (all rule member)
  · rw [List.append_nil]
    exact ⟨Added.nil, installed⟩

/-! ## Flows of the second clause -/

/-- There is a flow of the second clause of the group with the cookie of the rule. -/
def ClauseFlow (conjId : Nat) (state : State) (id : Id) (direction : Direction)
    (pattern : OFPMatch) : Prop :=
  ∃ ruleId, state.secgroupRuleMappings.lookup id = some ruleId ∧
    state.flows (securityGroupTable direction) (sgPriorityOffset + conjId) pattern =
      some ⟨ruleId <<< 32, ruleInstructions conjId⟩

/-- The flow of a combination is that of the last rule that needs it. -/
theorem Installed.clauseFlow_iff (installed : Installed netaddr secgroup ids book present state)
    {id : Id} : ClauseFlow secgroup.uniqueKey state id direction pattern ↔
      ∃ last, lastNeeding netaddr book present direction pattern = some last ∧
        last.id = id := by
  have served := installed.served direction pattern
  unfold Served at served
  constructor
  · intro flow
    rcases flow with ⟨ruleId, mapped, found⟩
    cases isLast : lastNeeding netaddr book present direction pattern with
    | none =>
        rw [isLast] at served
        exact absurd rfl (served _ found)
    | some last =>
        rw [isLast] at served
        rcases served with ⟨number, mappedLast, foundLast⟩
        rw [found] at foundLast
        simp only [Option.some.injEq, FlowEntry.mk.injEq, and_true] at foundLast
        rw [cookie_inj foundLast] at mapped
        exact ⟨last, rfl, installed.numbered.injective _ _ _ mappedLast mapped⟩
  · intro needed
    rcases needed with ⟨last, isLast, rfl⟩
    rw [isLast] at served
    exact served

/-- No two rules have a match in common. -/
def Apart (netaddr : Netaddr) (book : AddressBook) (rules : List SecurityGroupRule) : Prop :=
  ∀ first ∈ rules, ∀ second ∈ rules, ∀ direction pattern,
    Needs netaddr book direction pattern first →
    Needs netaddr book direction pattern second → first = second

theorem lastNeeding_eq (needed : ∃ other ∈ present, Needs netaddr book direction pattern other)
    (unique : ∀ other ∈ present, Needs netaddr book direction pattern other →
      other = rule) :
    lastNeeding netaddr book present direction pattern = some rule := by
  cases isLast : lastNeeding netaddr book present direction pattern with
  | none =>
      rcases needed with ⟨other, member, needs⟩
      have empty := List.getLast?_eq_none_iff.mp isLast
      have among : other ∈ present.filter (Needs netaddr book direction pattern) := by
        simp [member, needs]
      rw [empty] at among
      cases among
  | some last =>
      rcases lastNeeding_mem isLast with ⟨member, needs⟩
      rw [unique last member needs]

/-! ## Removing rules -/

/-- The rule can be removed without an exception. -/
structure Removes (state : State) (store : Store) (secgroup : Id)
    (rule : SecurityGroupRule) : Prop where
  owner : rule.securityGroupId = some secgroup
  mapped : ∃ ruleId, state.secgroupRuleMappings.lookup rule.id = some ruleId
  remembers : Remembers state rule

/-- What is left after rules are removed. -/
structure Removed (conjId : Nat) (before : State) (rules : List SecurityGroupRule)
    (after : State) : Prop where
  mappings : after.secgroupRuleMappings = before.secgroupRuleMappings
  ports : after.secgroupAssociateLocalPorts = before.secgroupAssociateLocalPorts
  numbers : after.nextSecgroupRuleId = before.nextSecgroupRuleId
  entries : ∀ remote id, after.remoteRule remote id =
    if ∃ rule ∈ rules, rule.id = id ∧ rule.remoteGroupId = some remote then none
    else before.remoteRule remote id
  flows : ∀ id direction pattern, ClauseFlow conjId after id direction pattern ↔
    ClauseFlow conjId before id direction pattern ∧
      ¬ ∃ rule ∈ rules, rule.id = id ∧ rule.direction = direction

theorem Removed.nil {conjId : Nat} : Removed conjId state [] state where
  mappings := rfl
  ports := rfl
  numbers := rfl
  entries := by simp
  flows := by simp

/-- Deleting by a cookie takes the flows of one rule in one direction. -/
theorem clauseFlow_deleteByCookie {conjId ruleId : Nat} {after : State}
    (numbered : Numbered ids state) (few : ids.card < 2 ^ 32)
    (mapped : state.secgroupRuleMappings.lookup rule.id = some ruleId)
    (mappings : after.secgroupRuleMappings = state.secgroupRuleMappings)
    (flows : after.flows = state.flows.apply
      { command := .delete, table := securityGroupTable rule.direction, priority := 0xff,
        pattern := {}, cookie := ruleId <<< 32, cookieMask := ruleCookieMask })
    (id : Id) (direction : Direction) (pattern : OFPMatch) :
    ClauseFlow conjId after id direction pattern ↔
      ClauseFlow conjId state id direction pattern ∧
        ¬ (rule.id = id ∧ rule.direction = direction) := by
  have small : ∀ other number, state.secgroupRuleMappings.lookup other = some number →
      number < 2 ^ 32 := by
    intro other number found
    have below := (numbered.known other number found).2
    have bound := numbered.next_le
    omega
  unfold ClauseFlow
  rw [mappings, flows]
  simp only [apply_deleteByCookie, Option.filter_eq_some_iff]
  constructor
  · intro flow
    rcases flow with ⟨number, found, entry, kept⟩
    refine ⟨⟨number, found, entry⟩, fun same => ?_⟩
    rcases same with ⟨rfl, rfl⟩
    rw [found] at mapped
    cases mapped
    simp at kept
  · intro both
    rcases both with ⟨⟨number, found, entry⟩, different⟩
    refine ⟨number, found, entry, ?_⟩
    by_cases sameTable : direction = rule.direction
    · have otherNumber : number ≠ ruleId := by
        intro same
        rw [same] at found
        exact different ⟨numbered.injective _ _ _ mapped found, sameTable.symm⟩
      rw [cookie_and_mask (small _ _ found), cookie_and_mask (small _ _ mapped)]
      have otherCookie : number <<< 32 ≠ ruleId <<< 32 := fun same => otherNumber (cookie_inj same)
      simp [otherCookie]
    · have otherTable : securityGroupTable direction ≠ securityGroupTable rule.direction :=
        fun same => sameTable (securityGroupTable_inj same)
      simp [otherTable]

theorem Removed.of_fields {conjId ruleId : Nat} {after : State}
    (numbered : Numbered ids state) (few : ids.card < 2 ^ 32)
    (mapped : state.secgroupRuleMappings.lookup rule.id = some ruleId)
    (mappings : after.secgroupRuleMappings = state.secgroupRuleMappings)
    (ports : after.secgroupAssociateLocalPorts = state.secgroupAssociateLocalPorts)
    (numbers : after.nextSecgroupRuleId = state.nextSecgroupRuleId)
    (refs : after.remoteSecgroupRef = (state.forgetting rule).remoteSecgroupRef)
    (flows : after.flows = state.flows.apply
      { command := .delete, table := securityGroupTable rule.direction, priority := 0xff,
        pattern := {}, cookie := ruleId <<< 32, cookieMask := ruleCookieMask }) :
    Removed conjId state [rule] after where
  mappings := mappings
  ports := ports
  numbers := numbers
  entries remote id := by
    rw [remoteRule_congr refs, remoteRule_forgetting]
    by_cases isEntry : rule.id = id ∧ rule.remoteGroupId = some remote
    · simp [isEntry.1, isEntry.2]
    · have notEntry : ¬ (rule.remoteGroupId = some remote ∧ id = rule.id) :=
        fun both => isEntry ⟨both.2.symm, both.1⟩
      rw [if_neg notEntry, if_neg]
      simpa using isEntry
  flows id direction pattern := by
    rw [clauseFlow_deleteByCookie numbered few mapped mappings flows]
    simp

theorem associatingPortsInfo_ok (portsStored : PortsStored store
      state.secgroupAssociateLocalPorts) (owner : rule.securityGroupId = some secgroup.id)
    (associated : state.associated secgroup.id = true) :
    ∃ infos, associatingPortsInfo store state.secgroupAssociateLocalPorts rule =
      .ok infos := by
  rcases Option.isSome_iff_exists.mp associated with ⟨members, found⟩
  rcases mapM_ok (portsStored secgroup.id members found) with ⟨infos, made⟩
  refine ⟨infos, ?_⟩
  unfold associatingPortsInfo
  rw [owner, Option.bind_some, found]
  exact made

theorem leads_removed (conjId : Nat) (numbered : Numbered ids state) (few : ids.card < 2 ^ 32)
    (stored : store.secgroups secgroup.id = some secgroup)
    (associated : state.associated secgroup.id = true)
    (portsStored : PortsStored store state.secgroupAssociateLocalPorts)
    (removes : Removes state store secgroup.id rule) :
    Leads (removeSecurityGroupRule store secgroup.id rule) state
      (fun _ after => Removed conjId state [rule] after) (fun _ _ => False) := by
  rcases removes.mapped with ⟨ruleId, mapped⟩
  have small : ruleId < 2 ^ 32 := by
    have below := (numbered.known _ _ mapped).2
    have bound := numbered.next_le
    omega
  have forgets : exec (forgetRemoteRule rule) state = (.ok (), state.forgetting rule) := by
    rcases exec_forgetRemoteRule state rule with forgets | ⟨_, absent⟩
    · exact forgets
    · exact absurd removes.remembers absent
  have forgotten := state.forgetting_eq rule
  have mappedNow : (state.forgetting rule).secgroupRuleMappings.lookup rule.id =
      some ruleId := by
    rw [forgotten]
    exact mapped
  unfold removeSecurityGroupRule uninstallSecurityGroupRuleFlows
  simp only [leads_bind]
  rw [leads_get, if_pos associated]
  simp only [leads_bind]
  rw [getSecgroupConjIdAndPriority_eq stored, leads_ofExcept_ok, leads_exec_ok forgets,
    leads_exec_ok (exec_mapped mappedNow), getRuleCookie_eq small, leads_ofExcept_ok, modFlow,
    leads_modify]
  rcases associatingPortsInfo_ok portsStored removes.owner associated with ⟨infos, made⟩
  have ports : (state.forgetting rule).secgroupAssociateLocalPorts =
      state.secgroupAssociateLocalPorts := by
    rw [forgotten]
  unfold deleteConntrackEntriesByRule deleteConntrackEntriesProcess
  simp only [leads_bind, leads_get, ports, made, leads_ofExcept_ok, leads_modify]
  have sameFlows : (state.forgetting rule).flows = state.flows := by rw [forgotten]
  have sameMappings : (state.forgetting rule).secgroupRuleMappings =
      state.secgroupRuleMappings := by
    rw [forgotten]
  have sameNumbers : (state.forgetting rule).nextSecgroupRuleId =
      state.nextSecgroupRuleId := by
    rw [forgotten]
  apply Removed.of_fields numbered few mapped
  · exact sameMappings
  · rfl
  · exact sameNumbers
  · rfl
  · dsimp only
    rw [sameFlows]

theorem Removed.snoc {conjId : Nat} {before middle after : State}
    {rules : List SecurityGroupRule} (first : Removed conjId before rules middle)
    (second : Removed conjId middle [rule] after) :
    Removed conjId before (rules ++ [rule]) after where
  mappings := second.mappings.trans first.mappings
  ports := second.ports.trans first.ports
  numbers := second.numbers.trans first.numbers
  entries remote id := by
    rw [second.entries, first.entries]
    simp only [List.mem_append, List.mem_singleton, or_and_right, exists_or, exists_eq_left]
    by_cases isRule : rule.id = id ∧ rule.remoteGroupId = some remote
    · rw [if_pos isRule, if_pos (Or.inr isRule)]
    · rw [if_neg isRule]
      congr 1
      exact propext ⟨Or.inl, fun either => either.resolve_right isRule⟩
  flows id direction pattern := by
    rw [second.flows, first.flows]
    simp only [List.mem_append, List.mem_singleton, or_and_right, exists_or, exists_eq_left,
      not_or, and_assoc]

theorem Removed.numbered {conjId : Nat} {before after : State}
    {rules : List SecurityGroupRule} (removed : Removed conjId before rules after)
    (numbered : Numbered ids before) : Numbered ids after := by
  constructor
  · rw [removed.mappings, removed.numbers]
    exact numbered.known
  · rw [removed.mappings, removed.numbers]
    exact numbered.counted
  · rw [removed.mappings]
    exact numbered.injective

/-- Rules with different ids can be removed one after the other. -/
theorem leads_removeAll (conjId : Nat) {rules : List SecurityGroupRule}
    (numbered : Numbered ids state) (few : ids.card < 2 ^ 32)
    (stored : store.secgroups secgroup.id = some secgroup)
    (associated : state.associated secgroup.id = true)
    (portsStored : PortsStored store state.secgroupAssociateLocalPorts)
    (distinct : (rules.map (·.id)).Nodup)
    (removes : ∀ rule ∈ rules, Removes state store secgroup.id rule) :
    Leads (forM rules (removeSecurityGroupRule store secgroup.id)) state
      (fun _ after => Removed conjId state rules after) (fun _ _ => False) := by
  apply Leads.loop (fun done current => Removed conjId state done current) rules
  · intro done rule rest current split removed
    have removable := removes rule (by rw [split]; simp)
    have otherIds : ∀ other ∈ done, other.id ≠ rule.id := by
      intro other isDone same
      rw [split, List.map_append, List.map_cons] at distinct
      exact (List.nodup_append.mp distinct).2.2 other.id (List.mem_map_of_mem isDone)
        rule.id List.mem_cons_self same
    have associatedNow : current.associated secgroup.id = true := by
      unfold State.associated
      rw [removed.ports]
      exact associated
    have removableNow : Removes current store secgroup.id rule := by
      refine ⟨removable.owner, ?_, ?_⟩
      · rw [removed.mappings]
        exact removable.mapped
      · intro remote about
        rw [removed.entries, if_neg]
        · exact removable.remembers remote about
        · intro some
          rcases some with ⟨other, isDone, same, -⟩
          exact otherIds other isDone same
    refine (leads_removed conjId (removed.numbered numbered) few stored associatedNow
      (removed.ports ▸ portsStored) removableNow).mono ?_ fun _ _ impossible => impossible
    intro _ after next
    exact removed.snoc next
  · exact Removed.nil

/-! ## What the two versions need -/

/-- The second clause of the group and the book of remote rules are the same for the rules
with these ids. -/
structure SameRules (conjId : Nat) (groupIds : List Id) (state other : State) : Prop where
  flows : ∀ id ∈ groupIds, ∀ direction pattern,
    ClauseFlow conjId state id direction pattern ↔
      ClauseFlow conjId other id direction pattern
  entries : ∀ id ∈ groupIds, ∀ remote, state.remoteRule remote id = other.remoteRule remote id

/-- The ids of the rules of both versions. -/
def groupIds (newRules oldRules : List SecurityGroupRule) : List Id :=
  (newRules ++ oldRules).map (·.id)

/-- None of the rules of the group is there, but a port of the group is. -/
structure Bare (secgroup : SecurityGroup) (ids : Finset Id) (rules : List Id)
    (state : State) : Prop where
  associated : state.associated secgroup.id = true
  numbered : Numbered ids state
  clean : ∀ direction pattern entry,
    state.flows (securityGroupTable direction) (sgPriorityOffset + secgroup.uniqueKey)
      pattern = some entry → entry.instructions ≠ ruleInstructions secgroup.uniqueKey
  forgotten : ∀ remote, ∀ id ∈ rules, state.remoteRule remote id = none

/-- Two versions of a group. -/
structure Versions (netaddr : Netaddr) (book : AddressBook) (ids : Finset Id)
    (newSecgroup oldSecgroup : SecurityGroup) : Prop where
  sameId : oldSecgroup.id = newSecgroup.id
  newDistinct : (newSecgroup.rules.map (·.id)).Nodup
  oldDistinct : (oldSecgroup.rules.map (·.id)).Nodup
  newApart : Apart netaddr book newSecgroup.rules
  oldApart : Apart netaddr book oldSecgroup.rules
  owner : ∀ rule ∈ oldSecgroup.rules, rule.securityGroupId = some oldSecgroup.id
  known : ∀ id ∈ groupIds newSecgroup.rules oldSecgroup.rules, id ∈ ids
  oldMade : ∀ rule ∈ oldSecgroup.rules, Makeable netaddr rule

/-- A rule that changed under its id has no flow to lose in the table of its old
version. -/
def KeepsFlows (netaddr : Netaddr) (book : AddressBook)
    (newRules oldRules : List SecurityGroupRule) : Prop :=
  ∀ newRule ∈ addedRules newRules oldRules, ∀ oldRule ∈ removedRules newRules oldRules,
    oldRule.id = newRule.id → oldRule.direction = newRule.direction →
      combinations netaddr book newRule = []

/-- A rule that changed under its id is not about the remote group of its old version. -/
def KeepsEntries (newRules oldRules : List SecurityGroupRule) : Prop :=
  ∀ newRule ∈ addedRules newRules oldRules, ∀ oldRule ∈ removedRules newRules oldRules,
    oldRule.id = newRule.id →
      newRule.remoteGroupId = none ∨ oldRule.remoteGroupId ≠ newRule.remoteGroupId

/-- When the new version can take the place of the old one. -/
structure Replaceable (netaddr : Netaddr) (book : AddressBook)
    (newRules oldRules : List SecurityGroupRule) : Prop where
  made : ∀ rule ∈ addedRules newRules oldRules, Makeable netaddr rule
  flows : KeepsFlows netaddr book newRules oldRules
  entries : KeepsEntries newRules oldRules

/-! ### Entries -/

theorem entryOf_eq_some {rules : List SecurityGroupRule}
    (distinct : (rules.map (·.id)).Nodup) {remote id : Id} :
    entryOf rules remote id = some rule ↔
      rule ∈ rules ∧ rule.id = id ∧ rule.remoteGroupId = some remote := by
  unfold entryOf
  constructor
  · intro found
    exact ⟨List.mem_of_find?_eq_some found, by simpa using List.find?_some found⟩
  · intro facts
    rcases facts with ⟨member, sameId, about⟩
    cases found : rules.find? fun other =>
        other.id = id ∧ other.remoteGroupId = some remote with
    | none =>
        have absent := List.find?_eq_none.mp found rule member
        exact absurd (decide_eq_true ⟨sameId, about⟩) absent
    | some other =>
        have isOther : other.id = id ∧ other.remoteGroupId = some remote := by
          simpa using List.find?_some found
        have same := List.inj_on_of_nodup_map distinct (List.mem_of_find?_eq_some found)
          member (isOther.1.trans sameId.symm)
        rw [same]

theorem entryOf_eq_none {rules : List SecurityGroupRule} {remote id : Id} :
    entryOf rules remote id = none ↔
      ∀ rule ∈ rules, ¬ (rule.id = id ∧ rule.remoteGroupId = some remote) := by
  unfold entryOf
  rw [List.find?_eq_none]
  simp only [decide_eq_true_eq]

section Compared

variable {newRules oldRules : List SecurityGroupRule}

theorem mem_addedRules : rule ∈ addedRules newRules oldRules ↔
    rule ∈ newRules ∧ rule ∉ oldRules := by
  simp [addedRules]

theorem mem_removedRules : rule ∈ removedRules newRules oldRules ↔
    rule ∈ oldRules ∧ rule ∉ newRules := by
  simp [removedRules]

/-- What is kept under a remote group after an update is what the new rules need, if no
rule that changed under its id was and is about that group. -/
theorem entries_iff (newDistinct : (newRules.map (·.id)).Nodup)
    (oldDistinct : (oldRules.map (·.id)).Nodup) :
    (∀ id ∈ groupIds newRules oldRules, ∀ remote,
      (if ∃ rule ∈ removedRules newRules oldRules,
          rule.id = id ∧ rule.remoteGroupId = some remote then none
        else (entryOf (addedRules newRules oldRules) remote id).or
          (entryOf oldRules remote id)) = entryOf newRules remote id) ↔
      KeepsEntries newRules oldRules := by
  have addedDistinct : ((addedRules newRules oldRules).map (·.id)).Nodup :=
    newDistinct.sublist (List.filter_sublist.map _)
  constructor
  · intro same newRule isAdded oldRule isRemoved sameId
    by_contra neither
    rw [not_or, not_not] at neither
    rcases Option.ne_none_iff_exists'.mp neither.1 with ⟨remote, about⟩
    have isNew := (mem_addedRules.mp isAdded).1
    have listed : newRule.id ∈ groupIds newRules oldRules :=
      List.mem_map_of_mem (List.mem_append_left _ isNew)
    have entry := same newRule.id listed remote
    rw [if_pos ⟨oldRule, isRemoved, sameId, neither.2.trans about⟩,
      (entryOf_eq_some newDistinct).mpr ⟨isNew, rfl, about⟩] at entry
    cases entry
  · intro condition id _ remote
    split
    · next some =>
        rcases some with ⟨oldRule, isRemoved, sameId, about⟩
        symm
        rw [entryOf_eq_none]
        intro newRule isNew both
        rcases mem_removedRules.mp isRemoved with ⟨isOld, notNew⟩
        by_cases kept : newRule ∈ oldRules
        · have same := List.inj_on_of_nodup_map oldDistinct kept isOld
            (both.1.trans sameId.symm)
          exact notNew (same ▸ isNew)
        · rcases condition newRule (mem_addedRules.mpr ⟨isNew, kept⟩) oldRule isRemoved
            (sameId.trans both.1.symm) with unset | different
          · rw [unset] at both
            cases both.2
          · exact different (about.trans both.2.symm)
    · next nobody =>
        cases entry : entryOf newRules remote id with
        | some newRule =>
            rcases (entryOf_eq_some newDistinct).mp entry with ⟨isNew, sameId, about⟩
            by_cases kept : newRule ∈ oldRules
            · have notAdded : entryOf (addedRules newRules oldRules) remote id = none := by
                rw [entryOf_eq_none]
                intro other isAdded both
                rcases mem_addedRules.mp isAdded with ⟨otherNew, otherNotOld⟩
                have same := List.inj_on_of_nodup_map newDistinct otherNew isNew
                  (both.1.trans sameId.symm)
                exact otherNotOld (same ▸ kept)
              rw [notAdded, Option.none_or]
              exact (entryOf_eq_some oldDistinct).mpr ⟨kept, sameId, about⟩
            · have isAdded : entryOf (addedRules newRules oldRules) remote id =
                  some newRule :=
                (entryOf_eq_some addedDistinct).mpr
                  ⟨mem_addedRules.mpr ⟨isNew, kept⟩, sameId, about⟩
              rw [isAdded, Option.some_or]
        | none =>
            have nothing := entryOf_eq_none.mp entry
            have notAdded : entryOf (addedRules newRules oldRules) remote id = none := by
              rw [entryOf_eq_none]
              intro other isAdded
              exact nothing other (mem_addedRules.mp isAdded).1
            rw [notAdded, Option.none_or, entryOf_eq_none]
            intro other isOld both
            by_cases kept : other ∈ newRules
            · exact nothing other kept both
            · exact nobody ⟨other, mem_removedRules.mpr ⟨isOld, kept⟩, both⟩

/-- The rule that a flow is for after an update is the one of the new version. -/
theorem lastNeeding_added (newApart : Apart netaddr book newRules)
    (oldApart : Apart netaddr book oldRules) (isNew : rule ∈ newRules)
    (needs : Needs netaddr book direction pattern rule) :
    lastNeeding netaddr book (oldRules ++ addedRules newRules oldRules) direction pattern =
      some rule := by
  unfold lastNeeding
  rw [List.filter_append]
  by_cases kept : rule ∈ oldRules
  · have noneAdded : (addedRules newRules oldRules).filter
        (Needs netaddr book direction pattern) = [] := by
      rw [List.filter_eq_nil_iff]
      intro other isAdded otherNeeds
      rcases mem_addedRules.mp isAdded with ⟨otherNew, notOld⟩
      have same := newApart other otherNew rule isNew direction pattern
        (of_decide_eq_true otherNeeds) needs
      exact notOld (same ▸ kept)
    rw [noneAdded, List.append_nil]
    exact lastNeeding_eq ⟨rule, kept, needs⟩ fun other isOld otherNeeds =>
      oldApart other isOld rule kept direction pattern otherNeeds needs
  · have isLast : lastNeeding netaddr book (addedRules newRules oldRules) direction
        pattern = some rule :=
      lastNeeding_eq ⟨rule, mem_addedRules.mpr ⟨isNew, kept⟩, needs⟩
        fun other isAdded otherNeeds => newApart other (mem_addedRules.mp isAdded).1 rule
          isNew direction pattern otherNeeds needs
    unfold lastNeeding at isLast
    rw [List.getLast?_append, isLast, Option.some_or]

/-- The flows after an update are those that the new rules need, if no rule that changed
under its id lost its new flows together with the old ones. -/
theorem flows_iff (oldDistinct : (oldRules.map (·.id)).Nodup)
    (newApart : Apart netaddr book newRules) (oldApart : Apart netaddr book oldRules) :
    (∀ id ∈ groupIds newRules oldRules, ∀ direction pattern,
      ((∃ last, lastNeeding netaddr book (oldRules ++ addedRules newRules oldRules) direction
          pattern = some last ∧ last.id = id) ∧
        ¬ ∃ rule ∈ removedRules newRules oldRules,
          rule.id = id ∧ rule.direction = direction) ↔
      ∃ last, lastNeeding netaddr book newRules direction pattern = some last ∧
        last.id = id) ↔ KeepsFlows netaddr book newRules oldRules := by
  have served : ∀ {rule direction pattern}, rule ∈ newRules →
      Needs netaddr book direction pattern rule →
        lastNeeding netaddr book newRules direction pattern = some rule :=
    fun isNew needs => lastNeeding_eq ⟨_, isNew, needs⟩ fun other otherNew otherNeeds =>
      newApart other otherNew _ isNew _ _ otherNeeds needs
  constructor
  · intro same newRule isAdded oldRule isRemoved sameId sameDirection
    rw [List.eq_nil_iff_forall_not_mem]
    intro pattern isCombination
    have isNew := (mem_addedRules.mp isAdded).1
    have listed : newRule.id ∈ groupIds newRules oldRules :=
      List.mem_map_of_mem (List.mem_append_left _ isNew)
    have kept := (same newRule.id listed newRule.direction pattern).mpr
      ⟨newRule, served isNew ⟨rfl, isCombination⟩, rfl⟩
    exact kept.2 ⟨oldRule, isRemoved, sameId, sameDirection⟩
  · intro condition id _ direction pattern
    constructor
    · intro flow
      rcases flow with ⟨⟨last, isLast, sameId⟩, notRemoved⟩
      rcases lastNeeding_mem isLast with ⟨member, needs⟩
      have isNew : last ∈ newRules := by
        rcases List.mem_append.mp member with isOld | isAdded
        · by_contra notNew
          exact notRemoved ⟨last, mem_removedRules.mpr ⟨isOld, notNew⟩, sameId, needs.1⟩
        · exact (mem_addedRules.mp isAdded).1
      exact ⟨last, served isNew needs, sameId⟩
    · intro flow
      rcases flow with ⟨newRule, isLast, sameId⟩
      rcases lastNeeding_mem isLast with ⟨isNew, needs⟩
      refine ⟨⟨newRule, lastNeeding_added newApart oldApart isNew needs, sameId⟩, ?_⟩
      intro some
      rcases some with ⟨oldRule, isRemoved, oldId, sameDirection⟩
      rcases mem_removedRules.mp isRemoved with ⟨isOld, notNew⟩
      have ids : oldRule.id = newRule.id := oldId.trans sameId.symm
      by_cases kept : newRule ∈ oldRules
      · have same := List.inj_on_of_nodup_map oldDistinct isOld kept ids
        exact notNew (same ▸ isNew)
      · have nothing := condition newRule (mem_addedRules.mpr ⟨isNew, kept⟩) oldRule
          isRemoved ids (sameDirection.trans needs.1.symm)
        have isCombination := needs.2
        rw [nothing] at isCombination
        cases isCombination

end Compared

/-! ## Updates -/

/-- The state after each of the rules is added once. -/
def addAll (netaddr : Netaddr) (store : Store) (secgroup : Id)
    (rules : List SecurityGroupRule) (state : State) : State :=
  (exec (forM rules (addSecurityGroupRule netaddr store secgroup)) state).2

/-- Rules with different ids are added to a state without them. -/
theorem exec_addAll (stored : store.secgroups secgroup.id = some secgroup)
    (few : ids.card < 2 ^ 32) {rules : List SecurityGroupRule}
    (installed : Installed netaddr secgroup ids state.book present state)
    (known : ∀ rule ∈ rules, rule.id ∈ ids) (distinct : (rules.map (·.id)).Nodup)
    (fresh : ∀ rule ∈ rules, rule ∉ present) (made : ∀ rule ∈ rules, Makeable netaddr rule) :
    exec (forM rules (addSecurityGroupRule netaddr store secgroup.id)) state =
        (.ok (), addAll netaddr store secgroup.id rules state) ∧
      Added netaddr state rules (addAll netaddr store secgroup.id rules state) ∧
      Installed netaddr secgroup ids state.book (present ++ rules)
        (addAll netaddr store secgroup.id rules state) := by
  have leads := leads_addAll installed stored few known distinct fresh
  unfold addAll
  rcases executed : exec (forM rules (addSecurityGroupRule netaddr store secgroup.id)) state
    with ⟨error | value, after⟩
  · rw [leads_exec_error executed] at leads
    exact absurd made leads
  · rw [leads_exec_ok executed] at leads
    exact ⟨rfl, leads⟩

theorem Bare.installed {rules : List Id} (bare : Bare secgroup ids rules state) :
    Installed netaddr secgroup ids state.book [] state where
  sameBook := rfl
  associated := bare.associated
  numbered := bare.numbered
  distinct := List.nodup_nil
  remembers _ member := absurd member List.not_mem_nil
  served := bare.clean

theorem mem_groupIds_old {newRules oldRules : List SecurityGroupRule}
    (member : rule ∈ oldRules) : rule.id ∈ groupIds newRules oldRules :=
  List.mem_map_of_mem (List.mem_append_right _ member)

theorem mem_groupIds_new {newRules oldRules : List SecurityGroupRule}
    (member : rule ∈ newRules) : rule.id ∈ groupIds newRules oldRules :=
  List.mem_map_of_mem (List.mem_append_left _ member)

/-- The rules of both versions compared with those of the new one alone. -/
theorem sameRules_iff {newRules oldRules : List SecurityGroupRule}
    {bare old middle after reference : State}
    (forgotten : ∀ remote, ∀ id ∈ groupIds newRules oldRules, bare.remoteRule remote id = none)
    (newDistinct : (newRules.map (·.id)).Nodup) (oldDistinct : (oldRules.map (·.id)).Nodup)
    (newApart : Apart netaddr book newRules) (oldApart : Apart netaddr book oldRules)
    (addedOld : Added netaddr bare oldRules old)
    (addedNew : Added netaddr old (addedRules newRules oldRules) middle)
    (installed : Installed netaddr secgroup ids book
      (oldRules ++ addedRules newRules oldRules) middle)
    (removed : Removed secgroup.uniqueKey middle (removedRules newRules oldRules) after)
    (addedReference : Added netaddr bare newRules reference)
    (installedReference : Installed netaddr secgroup ids book newRules reference) :
    SameRules secgroup.uniqueKey (groupIds newRules oldRules) after reference ↔
      Replaceable netaddr book newRules oldRules := by
  have flowsSame : (∀ id ∈ groupIds newRules oldRules, ∀ direction pattern,
      ClauseFlow secgroup.uniqueKey after id direction pattern ↔
        ClauseFlow secgroup.uniqueKey reference id direction pattern) ↔
      KeepsFlows netaddr book newRules oldRules := by
    simp only [removed.flows, installed.clauseFlow_iff, installedReference.clauseFlow_iff]
    exact flows_iff oldDistinct newApart oldApart
  have entriesSame : (∀ id ∈ groupIds newRules oldRules, ∀ remote,
      after.remoteRule remote id = reference.remoteRule remote id) ↔
      KeepsEntries newRules oldRules := by
    refine Iff.trans ?_ (entries_iff newDistinct oldDistinct)
    apply forall_congr'
    intro id
    apply forall_congr'
    intro listed
    apply forall_congr'
    intro remote
    rw [removed.entries, addedNew.entries, addedOld.entries, addedReference.entries,
      forgotten remote id listed, Option.or_none, Option.or_none]
  constructor
  · intro same
    exact ⟨addedNew.made, flowsSame.mp same.flows, entriesSame.mp same.entries⟩
  · intro replaceable
    exact ⟨flowsSame.mpr replaceable.flows, entriesSame.mpr replaceable.entries⟩

end Rules

/-- Updating a group returns and leaves just what adding the rules of the new version to a
state without the group leaves, unless a rule changed under its id in a way that takes its
new flows or its new entry along with the old ones, or the matches of a new rule cannot be
made. -/
theorem update_reinstalls_iff (netaddr : Netaddr) (store : Store)
    (newSecgroup oldSecgroup : SecurityGroup)
    (stored : store.secgroups newSecgroup.id = some newSecgroup) {ids : Finset Id}
    (few : ids.card < 2 ^ 32) (bare : State)
    (versions : Versions netaddr bare.book ids newSecgroup oldSecgroup)
    (isBare : Bare newSecgroup ids (groupIds newSecgroup.rules oldSecgroup.rules) bare)
    (portsStored : PortsStored store bare.secgroupAssociateLocalPorts) :
    Leads (updateSecurityGroup netaddr store newSecgroup oldSecgroup)
      (addAll netaddr store oldSecgroup.id oldSecgroup.rules bare)
      (fun _ after => SameRules newSecgroup.uniqueKey
        (groupIds newSecgroup.rules oldSecgroup.rules) after
        (addAll netaddr store newSecgroup.id newSecgroup.rules bare))
      (fun _ _ => False) ↔
    Replaceable netaddr bare.book newSecgroup.rules oldSecgroup.rules := by
  have oldKnown : ∀ rule ∈ oldSecgroup.rules, rule.id ∈ ids :=
    fun rule member => versions.known _ (mem_groupIds_old member)
  have newKnown : ∀ rule ∈ newSecgroup.rules, rule.id ∈ ids :=
    fun rule member => versions.known _ (mem_groupIds_new member)
  have addedDistinct :
      ((addedRules newSecgroup.rules oldSecgroup.rules).map (·.id)).Nodup :=
    versions.newDistinct.sublist (List.filter_sublist.map _)
  have removedDistinct :
      ((removedRules newSecgroup.rules oldSecgroup.rules).map (·.id)).Nodup :=
    versions.oldDistinct.sublist (List.filter_sublist.map _)
  have notPresent : ∀ rule : SecurityGroupRule, rule ∉ ([] : List SecurityGroupRule) :=
    fun _ => List.not_mem_nil
  rcases exec_addAll stored few isBare.installed oldKnown versions.oldDistinct
    (fun rule _ => notPresent rule) versions.oldMade with ⟨-, addedOld, installedOld⟩
  rw [versions.sameId]
  generalize addAll netaddr store newSecgroup.id oldSecgroup.rules bare = old
    at addedOld installedOld ⊢
  rw [List.nil_append] at installedOld
  unfold updateSecurityGroup
  rw [versions.sameId, updateRules_eq _ _ versions.newDistinct.of_map
    versions.oldDistinct.of_map, leads_bind]
  have installedNow : Installed netaddr newSecgroup ids old.book oldSecgroup.rules old :=
    installedOld.sameBook.symm ▸ installedOld
  by_cases made : ∀ rule ∈ addedRules newSecgroup.rules oldSecgroup.rules,
      Makeable netaddr rule
  · rcases exec_addAll stored few installedNow
      (fun rule member => newKnown rule (mem_addedRules.mp member).1) addedDistinct
      (fun rule member => (mem_addedRules.mp member).2) made with
      ⟨executed, addedNew, installedMiddle⟩
    rw [leads_exec_ok executed]
    generalize addAll netaddr store newSecgroup.id
      (addedRules newSecgroup.rules oldSecgroup.rules) old = middle
      at addedNew installedMiddle ⊢
    rw [installedOld.sameBook] at installedMiddle
    have ports : middle.secgroupAssociateLocalPorts = bare.secgroupAssociateLocalPorts :=
      addedNew.ports.trans addedOld.ports
    have removes : ∀ rule ∈ removedRules newSecgroup.rules oldSecgroup.rules,
        Removes middle store newSecgroup.id rule := by
      intro rule member
      have isOld := (mem_removedRules.mp member).1
      refine ⟨versions.sameId ▸ versions.owner rule isOld, ?_,
        installedMiddle.remembers rule (List.mem_append_left _ isOld)⟩
      rcases addedOld.mapped rule isOld with ⟨ruleId, mapped⟩
      exact ⟨ruleId, addedNew.mappedStill _ _ mapped⟩
    rcases (leads_removeAll newSecgroup.uniqueKey installedMiddle.numbered few stored
      installedMiddle.associated (ports ▸ portsStored) removedDistinct removes).returned with
      ⟨_, after, executedRemoval, removed⟩
    rw [leads_exec_ok executedRemoval]
    have newMade : ∀ rule ∈ newSecgroup.rules, Makeable netaddr rule := by
      intro rule isNew
      by_cases isOld : rule ∈ oldSecgroup.rules
      · exact versions.oldMade rule isOld
      · exact made rule (mem_addedRules.mpr ⟨isNew, isOld⟩)
    rcases exec_addAll stored few isBare.installed newKnown versions.newDistinct
      (fun rule _ => notPresent rule) newMade with
      ⟨-, addedReference, installedReference⟩
    rw [List.nil_append] at installedReference
    exact sameRules_iff isBare.forgotten versions.newDistinct versions.oldDistinct
      versions.newApart versions.oldApart addedOld addedNew installedMiddle removed
      addedReference installedReference
  · have raises := leads_addAll installedNow stored few
      (fun rule member => newKnown rule (mem_addedRules.mp member).1) addedDistinct
      fun rule member => (mem_addedRules.mp member).2
    constructor
    · intro returns
      rcases executed : exec (forM (addedRules newSecgroup.rules oldSecgroup.rules)
        (addSecurityGroupRule netaddr store newSecgroup.id)) old with ⟨error | value, after⟩
      · rw [leads_exec_error executed] at returns
        exact returns.elim
      · rw [leads_exec_ok executed] at raises
        exact absurd raises.1.made made
    · intro replaceable
      exact absurd replaceable.made made

namespace Sample

/-- TCP to a few ports. -/
def portsRule (direction : Direction) (first last : Nat) : SecurityGroupRule :=
  { tcpRule "tcp" first last with direction }

def version (rule : SecurityGroupRule) : SecurityGroup := ⟨"web", 5, [rule]⟩

/-- The port that is in the group. -/
def port : LogicalPort :=
  { id := "port", uniqueKey := 2, lswitch := some "net", macs := [0xfa163e000002]
    ips := [.v4 0x0a000002] }

def storeOf (secgroup : SecurityGroup) : Store where
  secgroups := fun id => if id = "web" then some secgroup else none
  lports := fun _ => some port
  inventory := ⟨fun _ => none, fun _ => some ⟨"net", 3, none, none⟩⟩

theorem apart_singleton {book : AddressBook} (rule : SecurityGroupRule) :
    Apart Netaddr.sample book [rule] := by
  intro first isFirst second isSecond _ _ _ _
  rw [List.mem_singleton.mp isFirst, List.mem_singleton.mp isSecond]

theorem versions_of (newRule oldRule : SecurityGroupRule) (isNew : newRule.id = "tcp")
    (isOld : oldRule.id = "tcp") (owner : oldRule.securityGroupId = some "web")
    (made : Makeable Netaddr.sample oldRule) (book : AddressBook) :
    Versions Netaddr.sample book {"tcp"} (version newRule) (version oldRule) where
  sameId := rfl
  newDistinct := List.nodup_singleton _
  oldDistinct := List.nodup_singleton _
  newApart := apart_singleton newRule
  oldApart := apart_singleton oldRule
  owner rule member := by
    rw [List.mem_singleton.mp member]
    exact owner
  known id member := by
    simp only [groupIds, version, List.singleton_append, List.map_cons, List.map_nil,
      List.mem_cons, List.not_mem_nil, or_false, isNew, isOld, or_self] at member
    rw [member]
    exact Finset.mem_singleton_self _
  oldMade rule member := by
    rw [List.mem_singleton.mp member]
    exact made

theorem webState_bare (rules : List Id) (rule : SecurityGroupRule) :
    Bare (version rule) {"tcp"} rules webState where
  associated := rfl
  numbered := by
    refine ⟨?_, rfl, ?_⟩
    · intro rule ruleId found
      cases found
    · intro first second ruleId found
      cases found
  clean := by
    intro direction pattern entry found
    cases found
  forgotten _ _ _ := rfl

theorem webState_portsStored (secgroup : SecurityGroup) :
    PortsStored (storeOf secgroup) webState.secgroupAssociateLocalPorts :=
  fun _ _ _ _ _ => ⟨_, rfl⟩

theorem turned_replaceable (book : AddressBook) :
    Replaceable Netaddr.sample book [portsRule .ingress 80 82]
      [portsRule .egress 80 82] where
  made rule member := by
    rw [List.mem_singleton.mp (List.mem_filter.mp member).1]
    exact ⟨_, rfl⟩
  flows newRule isNew oldRule isOld _ same := by
    rw [List.mem_singleton.mp (List.mem_filter.mp isNew).1,
      List.mem_singleton.mp (List.mem_filter.mp isOld).1] at same
    cases same
  entries newRule isNew _ _ _ := by
    rw [List.mem_singleton.mp (List.mem_filter.mp isNew).1]
    exact Or.inl rfl

end Sample

open Sample in
/-- A rule that turns around is replaced. -/
theorem turned_rule_reinstalled :
    Leads (updateSecurityGroup Netaddr.sample (storeOf (version (portsRule .ingress 80 82)))
        (version (portsRule .ingress 80 82)) (version (portsRule .egress 80 82)))
      (addAll Netaddr.sample (storeOf (version (portsRule .ingress 80 82))) "web"
        [portsRule .egress 80 82] webState)
      (fun _ after => SameRules 5 ["tcp", "tcp"] after
        (addAll Netaddr.sample (storeOf (version (portsRule .ingress 80 82))) "web"
          [portsRule .ingress 80 82] webState))
      (fun _ _ => False) :=
  (update_reinstalls_iff Netaddr.sample (storeOf (version (portsRule .ingress 80 82)))
    (version (portsRule .ingress 80 82)) (version (portsRule .egress 80 82)) rfl
    (by decide : ({"tcp"} : Finset Id).card < 2 ^ 32) webState
    (versions_of _ _ rfl rfl rfl ⟨_, rfl⟩ _) (webState_bare _ _)
    (webState_portsStored _)).mpr (turned_replaceable _)

open Sample in
/-- A rule that is narrowed under its id loses its flow. -/
theorem narrowed_rule_lost :
    let store := storeOf (version (portsRule .ingress 82 82))
    let updated := exec (updateSecurityGroup Netaddr.sample store
      (version (portsRule .ingress 82 82)) (version (portsRule .ingress 80 82)))
      (addAll Netaddr.sample store "web" [portsRule .ingress 80 82] webState)
    let reference := addAll Netaddr.sample store "web" [portsRule .ingress 82 82] webState
    updated.1.isOk = true ∧
    ∃ pattern ∈ combinations Netaddr.sample webState.book (portsRule .ingress 82 82),
      reference.flows (securityGroupTable .ingress) (sgPriorityOffset + 5) pattern =
        some ⟨1 <<< 32, ruleInstructions 5⟩ ∧
      updated.2.flows (securityGroupTable .ingress) (sgPriorityOffset + 5) pattern =
        none := by
  decide +kernel

end SGApp
end Dragonflow
