import Dragonflow.Controller.Apps.SecurityGroupFlows

/-! # Rules of a security group

The flows of all rules of a group have the same priority, and a rule is removed
by its cookie. Two rules that need the same flow overwrite it with their
cookies, so that removing the later one takes it from both.
-/

namespace Dragonflow
namespace SGApp

open Program

/-! ## Combinations -/

/-- The matches of a rule, one for each port match and address. A rule of which
no match can be made has none. -/
def combinations (netaddr : Netaddr) (book : AddressBook) (rule : SecurityGroupRule) :
    List OFPMatch :=
  match getRuleFlowsMatchExceptNetAddresses netaddr rule with
  | .ok matchList =>
      matchesOfAddressList rule (addressesOf netaddr book rule) matchList
  | .error _ => []

/-- The rule needs a flow in the table of the direction. -/
def Needs (netaddr : Netaddr) (book : AddressBook) (direction : Direction)
    (pattern : OFPMatch) (rule : SecurityGroupRule) : Prop :=
  rule.direction = direction ∧ pattern ∈ combinations netaddr book rule

instance (netaddr : Netaddr) (book : AddressBook) (direction : Direction)
    (pattern : OFPMatch) : DecidablePred (Needs netaddr book direction pattern) :=
  fun _ => inferInstanceAs (Decidable (_ ∧ _))

theorem securityGroupTable_inj {first second : Direction}
    (same : securityGroupTable first = securityGroupTable second) : first = second := by
  cases first <;> cases second
  · rfl
  · exact absurd same (by decide)
  · exact absurd same (by decide)
  · rfl

/-! ## Cookies -/

theorem cookie_inj {first second : Nat} (same : first <<< 32 = second <<< 32) :
    first = second := by
  rw [Nat.shiftLeft_eq, Nat.shiftLeft_eq] at same
  omega

variable {netaddr : Netaddr} {store : Store} {state : State} {ids : Finset Id}

/-- Adding the flows of a rule overwrites what was there. -/
theorem leads_installFlows (rule : SecurityGroupRule) (priority : Nat) {ruleId : Nat}
    (small : ruleId < 2 ^ 32) (instructions : List Instruction)
    (patterns : List OFPMatch) :
    Leads (installFlowsFromAddressList .add rule priority ruleId instructions patterns)
      state
      (fun _ after => after = { state with flows := after.flows } ∧
        ∀ table level pattern, after.flows table level pattern =
          if table = securityGroupTable rule.direction ∧ level = priority ∧
              pattern ∈ patterns then
            some ⟨ruleId <<< 32, instructions⟩
          else state.flows table level pattern)
      (fun _ _ => False) := by
  unfold installFlowsFromAddressList
  refine Leads.loop (fun done (current : State) => current = { state with flows := current.flows } ∧
    ∀ table level pattern, current.flows table level pattern =
      if table = securityGroupTable rule.direction ∧ level = priority ∧ pattern ∈ done then
        some ⟨ruleId <<< 32, instructions⟩
      else state.flows table level pattern) patterns ?_ ⟨rfl, by simp⟩
  rintro done item rest current - ⟨same, flows⟩
  rw [leads_bind, getRuleCookie_eq small, leads_ofExcept_ok, modFlow, leads_modify]
  refine ⟨by rw [same], fun table level pattern => ?_⟩
  dsimp only
  rw [FlowTable.apply_add rfl, flows]
  unfold FlowMod.identifies
  dsimp only
  by_cases isItem : pattern = item
  · subst isItem
    by_cases isTable : table = securityGroupTable rule.direction <;>
      by_cases isLevel : level = priority <;> simp [isTable, isLevel]
  · simp [isItem]

/-- Removing the flows of a rule takes those with its cookie. -/
theorem apply_deleteByCookie (flows : Flows) (direction : Direction) (ruleId : Nat)
    (table level : Nat) (pattern : OFPMatch) :
    flows.apply
      { command := .delete, table := securityGroupTable direction, priority := 0xff,
        pattern := {}, cookie := ruleId <<< 32, cookieMask := ruleCookieMask }
      table level pattern =
      (flows table level pattern).filter fun entry =>
        !(decide (table = securityGroupTable direction) &&
          decide (entry.cookie &&& ruleCookieMask = ruleId <<< 32 &&& ruleCookieMask)) := by
  have covered : Pattern.covers ({} : OFPMatch) pattern = true := rfl
  rw [FlowTable.apply_delete rfl]
  unfold FlowMod.selects
  simp only [covered, Bool.and_true]

/-! ## Calls -/

inductive RuleChange
  | add (rule : SecurityGroupRule)
  | remove (rule : SecurityGroupRule)
  deriving DecidableEq, Repr

namespace RuleChange

def rule : RuleChange → SecurityGroupRule
  | .add rule => rule
  | .remove rule => rule

def call (netaddr : Netaddr) (store : Store) (secgroup : Id) : RuleChange → Action
  | .add rule => addSecurityGroupRule netaddr store secgroup rule
  | .remove rule => removeSecurityGroupRule store secgroup rule

/-- The rules that are added and not removed, in the order in which they were
added last. -/
def apply (present : List SecurityGroupRule) : RuleChange → List SecurityGroupRule
  | .add rule => present.erase rule ++ [rule]
  | .remove rule => present.erase rule

end RuleChange

/-- The rule that needs a flow and was added last. -/
def lastNeeding (netaddr : Netaddr) (book : AddressBook)
    (present : List SecurityGroupRule) (direction : Direction) (pattern : OFPMatch) :
    Option SecurityGroupRule :=
  (present.filter (Needs netaddr book direction pattern)).getLast?

/-- The flow of a combination is that of the last rule that needs it. A flow
that no rule needs is not one of the group. -/
def Served (netaddr : Netaddr) (book : AddressBook) (conjId : Nat) (state : State)
    (present : List SecurityGroupRule) (direction : Direction) (pattern : OFPMatch) :
    Prop :=
  match lastNeeding netaddr book present direction pattern with
  | some rule => ∃ ruleId, state.secgroupRuleMappings.lookup rule.id = some ruleId ∧
      state.flows (securityGroupTable direction) (sgPriorityOffset + conjId) pattern =
        some ⟨ruleId <<< 32, ruleInstructions conjId⟩
  | none => ∀ entry,
      state.flows (securityGroupTable direction) (sgPriorityOffset + conjId) pattern =
        some entry → entry.instructions ≠ ruleInstructions conjId

structure Installed (netaddr : Netaddr) (secgroup : SecurityGroup) (ids : Finset Id)
    (book : AddressBook) (present : List SecurityGroupRule) (state : State) : Prop where
  sameBook : state.book = book
  associated : state.associated secgroup.id = true
  numbered : Numbered ids state
  distinct : present.Nodup
  remembers : ∀ rule ∈ present, Remembers state rule
  served : ∀ direction pattern,
    Served netaddr book secgroup.uniqueKey state present direction pattern

variable {secgroup : SecurityGroup} {book : AddressBook} {present : List SecurityGroupRule} {rule : SecurityGroupRule} {direction : Direction}
  {pattern : OFPMatch}

theorem lastNeeding_add (needs : Needs netaddr book direction pattern rule) :
    lastNeeding netaddr book (present.erase rule ++ [rule]) direction pattern =
      some rule := by
  unfold lastNeeding
  rw [List.filter_append]
  simp [needs]

/-- A rule that does not need a flow makes no difference. -/
theorem filter_erase_of_not_needs (needless : ¬Needs netaddr book direction pattern rule) :
    (present.erase rule).filter (Needs netaddr book direction pattern) =
      present.filter (Needs netaddr book direction pattern) := by
  rw [← List.erase_filter, List.erase_of_not_mem]
  simp [needless]

theorem lastNeeding_add_of_not (needless : ¬Needs netaddr book direction pattern rule) :
    lastNeeding netaddr book (present.erase rule ++ [rule]) direction pattern =
      lastNeeding netaddr book present direction pattern := by
  unfold lastNeeding
  rw [List.filter_append, filter_erase_of_not_needs needless]
  simp [needless]

theorem lastNeeding_mem {last : SecurityGroupRule}
    (isLast : lastNeeding netaddr book present direction pattern = some last) :
    last ∈ present ∧ Needs netaddr book direction pattern last := by
  have member := List.mem_of_getLast? isLast
  simpa using member

/-- A flow goes with the last rule that needs it, so it has to be the only
one. -/
def Removable (netaddr : Netaddr) (book : AddressBook)
    (present : List SecurityGroupRule) : RuleChange → Prop
  | .add _ => True
  | .remove rule => ∀ pattern ∈ combinations netaddr book rule,
      lastNeeding netaddr book present rule.direction pattern = some rule →
      present.filter (Needs netaddr book rule.direction pattern) = [rule]

instance (netaddr : Netaddr) (book : AddressBook) (present : List SecurityGroupRule)
    (change : RuleChange) : Decidable (Removable netaddr book present change) :=
  match change with
  | .add _ => isTrue trivial
  | .remove _ => inferInstanceAs (Decidable (∀ pattern ∈ _, _ → _))

theorem lastNeeding_remove_of_ne {last : SecurityGroupRule}
    (isLast : lastNeeding netaddr book present direction pattern = some last)
    (different : last ≠ rule) :
    lastNeeding netaddr book (present.erase rule) direction pattern = some last := by
  unfold lastNeeding at isLast ⊢
  rw [← List.erase_filter]
  rcases List.getLast?_eq_some_iff.mp isLast with ⟨initial, split⟩
  rw [split, List.erase_append]
  split
  · exact List.getLast?_concat
  · rw [List.erase_cons_tail (by simpa using different)]
    simp

/-- A flow that is left as it is stays with the rule that it is of. -/
theorem Served.of_eq {conjId : Nat} {after : State} {next : List SecurityGroupRule}
    (served : Served netaddr book conjId state present direction pattern)
    (same : lastNeeding netaddr book next direction pattern =
      lastNeeding netaddr book present direction pattern)
    (mapped : ∀ other number, state.secgroupRuleMappings.lookup other = some number →
      after.secgroupRuleMappings.lookup other = some number)
    (flows : after.flows (securityGroupTable direction) (sgPriorityOffset + conjId)
      pattern = state.flows (securityGroupTable direction) (sgPriorityOffset + conjId)
      pattern) :
    Served netaddr book conjId after next direction pattern := by
  unfold Served at served ⊢
  rw [same, flows]
  split at served
  · rcases served with ⟨ruleId, found, entry⟩
    exact ⟨ruleId, mapped _ _ found, entry⟩
  · exact served

theorem nodup_add (distinct : present.Nodup) (rule : SecurityGroupRule) :
    (present.erase rule ++ [rule]).Nodup := by
  rw [List.nodup_append]
  refine ⟨distinct.erase rule, List.nodup_singleton rule, ?_⟩
  intro other member last isLast same
  rw [same, List.mem_singleton.mp isLast] at member
  exact distinct.not_mem_erase member

theorem Installed.add (installed : Installed netaddr secgroup ids book present state)
    (stored : store.secgroups secgroup.id = some secgroup) (known : rule.id ∈ ids)
    (few : ids.card < 2 ^ 32) :
    Leads (addSecurityGroupRule netaddr store secgroup.id rule) state
      (fun _ after => Installed netaddr secgroup ids book (present.erase rule ++ [rule])
        after)
      (fun _ after => Installed netaddr secgroup ids book (present.erase rule ++ [rule])
        after) := by
  have remembered := state.remembering_eq rule
  have numbered : Numbered ids (state.remembering rule) := by
    rw [remembered]
    exact ⟨installed.numbered.known, installed.numbered.counted,
      installed.numbered.injective⟩
  unfold addSecurityGroupRule installSecurityGroupRuleFlows
  rw [leads_bind, leads_get, if_pos installed.associated, leads_bind,
    leads_exec_ok (exec_rememberRemoteRule state rule), leads_bind,
    getSecgroupConjIdAndPriority_eq stored, leads_ofExcept_ok, leads_bind]
  refine (numbered.getSecurityRuleMapping known few).mono ?_
    fun _ _ impossible => impossible.elim
  rintro ruleId current ⟨small, numberedCurrent, mapped, mappedStill, sameCurrent⟩
  have stillMapped : ∀ other number,
      state.secgroupRuleMappings.lookup other = some number →
      current.secgroupRuleMappings.lookup other = some number := by
    intro other number found
    apply mappedStill
    rw [remembered]
    exact found
  have fields : current.book = book ∧ current.associated secgroup.id = true ∧
      current.flows = state.flows ∧
      ∀ other, Remembers (state.remembering rule) other → Remembers current other := by
    refine ⟨?_, ?_, ?_, ?_⟩
    · rw [sameCurrent, remembered]
      exact installed.sameBook
    · rw [sameCurrent, remembered]
      exact installed.associated
    · rw [sameCurrent, remembered]
    · rw [sameCurrent]
      exact fun _ remembers => remembers
  rcases fields with ⟨sameBook, associated, sameFlows, stillRemembered⟩
  have remembers : ∀ other ∈ present.erase rule ++ [rule], Remembers current other := by
    intro other member
    apply stillRemembered
    rcases List.mem_append.mp member with before | isRule
    · exact (installed.remembers other (List.mem_of_mem_erase before)).remembering rule
    · rw [List.mem_singleton.mp isRule]
      exact remembers_remembering state rule
  rw [leads_bind]
  cases made : getRuleFlowsMatchExceptNetAddresses netaddr rule with
  | error error =>
      -- Without matches the rule needs no flows.
      refine ⟨sameBook, associated, numberedCurrent, nodup_add installed.distinct rule,
        remembers, fun direction pattern => ?_⟩
      have needless : ¬Needs netaddr book direction pattern rule := by
        unfold Needs combinations
        rw [made]
        simp
      exact (installed.served direction pattern).of_eq (lastNeeding_add_of_not needless)
        stillMapped (by rw [sameFlows])
  | ok matchList =>
      rw [leads_ofExcept_ok, leads_bind, leads_get]
      refine (leads_installFlows rule _ small _ _).mono ?_
        fun _ _ impossible => impossible.elim
      rintro _ after ⟨sameAfter, flows⟩
      rw [sameBook] at flows
      have isCombination : combinations netaddr book rule =
          matchesOfAddressList rule (addressesOf netaddr book rule) matchList := by
        unfold combinations
        rw [made]
      rw [← isCombination, sameFlows] at flows
      refine ⟨?_, ?_, ?_, nodup_add installed.distinct rule, ?_, fun direction pattern => ?_⟩
      · rw [sameAfter]
        exact sameBook
      · rw [sameAfter]
        exact associated
      · rw [sameAfter]
        exact ⟨numberedCurrent.known, numberedCurrent.counted, numberedCurrent.injective⟩
      · rw [sameAfter]
        exact remembers
      · have afterMapped : after.secgroupRuleMappings = current.secgroupRuleMappings := by
          rw [sameAfter]
        by_cases needs : Needs netaddr book direction pattern rule
        · unfold Served
          rw [lastNeeding_add needs, flows, if_pos ⟨by rw [needs.1], rfl, needs.2⟩,
            afterMapped]
          exact ⟨ruleId, mapped, rfl⟩
        · refine (installed.served direction pattern).of_eq
            (lastNeeding_add_of_not needs) (by rw [afterMapped]; exact stillMapped) ?_
          rw [flows, if_neg]
          rintro ⟨sameTable, _, member⟩
          exact needs ⟨(securityGroupTable_inj sameTable).symm, member⟩

/-- Deleting from the connection tracker can raise, but it changes nothing
else. -/
theorem leads_deleteConntrackEntriesByRule (store : Store) (rule : SecurityGroupRule)
    (remoteAddresses : List IPAddress) :
    Leads (deleteConntrackEntriesByRule store rule remoteAddresses) state
      (fun _ after => after = { state with conntrack := after.conntrack })
      (fun _ after => after = { state with conntrack := after.conntrack }) := by
  unfold deleteConntrackEntriesByRule
  rw [leads_bind, leads_get, leads_bind]
  cases associatingPortsInfo store state.secgroupAssociateLocalPorts rule with
  | error error => rfl
  | ok infos => rfl

/-- The flows that are left when those with the cookie of a rule are gone. -/
theorem Served.removed {conjId ruleId : Nat} {after : State}
    (served : Served netaddr book conjId state present direction pattern)
    (numbered : Numbered ids after) (few : ids.card < 2 ^ 32)
    (mapped : after.secgroupRuleMappings.lookup rule.id = some ruleId)
    (mappedStill : ∀ other number, state.secgroupRuleMappings.lookup other = some number →
      after.secgroupRuleMappings.lookup other = some number)
    (flows : ∀ table level pattern, after.flows table level pattern =
      (state.flows table level pattern).filter fun entry =>
        !(decide (table = securityGroupTable rule.direction) &&
          decide (entry.cookie &&& ruleCookieMask = ruleId <<< 32 &&& ruleCookieMask)))
    (unique : ∀ other ∈ present, other.id = rule.id → other = rule)
    (removable : Removable netaddr book present (.remove rule)) :
    Served netaddr book conjId after (present.erase rule) direction pattern := by
  have small : ∀ other number, after.secgroupRuleMappings.lookup other = some number →
      number < 2 ^ 32 := by
    intro other number found
    have below := (numbered.known other number found).2
    have bound := numbered.next_le
    omega
  unfold Served at served
  cases isLast : lastNeeding netaddr book present direction pattern with
  | none =>
      rw [isLast] at served
      have empty : present.filter (Needs netaddr book direction pattern) = [] :=
        List.getLast?_eq_none_iff.mp isLast
      have stillEmpty : lastNeeding netaddr book (present.erase rule) direction pattern =
          none := by
        unfold lastNeeding
        rw [← List.erase_filter, empty]
        rfl
      unfold Served
      rw [stillEmpty]
      intro entry found
      rw [flows, Option.filter_eq_some_iff] at found
      exact served entry found.1
  | some last =>
      rw [isLast] at served
      rcases served with ⟨number, foundNumber, entry⟩
      rcases lastNeeding_mem isLast with ⟨member, needs⟩
      have foundAfter := mappedStill _ _ foundNumber
      by_cases isRule : last = rule
      · -- The only rule that needs the flow takes it away.
        subst isRule
        rw [foundAfter] at mapped
        have sameNumber := Option.some.inj mapped
        subst sameNumber
        have alone := removable pattern needs.2 (needs.1.symm ▸ isLast)
        rw [needs.1] at alone
        have nobody : lastNeeding netaddr book (present.erase last) direction pattern =
            none := by
          unfold lastNeeding
          rw [← List.erase_filter, alone]
          simp
        unfold Served
        rw [nobody]
        intro other found
        rw [flows, entry, Option.filter_eq_some_iff] at found
        rcases found with ⟨same, kept⟩
        rw [← Option.some.inj same, needs.1] at kept
        simp only [decide_true, Bool.and_self, Bool.not_true, Bool.false_eq_true] at kept
      · have differentIds : last.id ≠ rule.id := fun same => isRule (unique last member same)
        have differentNumbers : number ≠ ruleId := by
          rintro rfl
          exact differentIds (numbered.injective _ _ _ foundAfter mapped)
        unfold Served
        rw [lastNeeding_remove_of_ne isLast isRule]
        refine ⟨number, foundAfter, ?_⟩
        rw [flows, entry, Option.filter_eq_some_iff]
        refine ⟨rfl, ?_⟩
        rw [cookie_and_mask (small _ _ foundAfter), cookie_and_mask (small _ _ mapped)]
        have differentCookies : number <<< 32 ≠ ruleId <<< 32 :=
          fun same => differentNumbers (cookie_inj same)
        simp [differentCookies]

theorem Installed.remove (installed : Installed netaddr secgroup ids book present state)
    (stored : store.secgroups secgroup.id = some secgroup) (known : rule.id ∈ ids)
    (few : ids.card < 2 ^ 32) (unique : ∀ other ∈ present, other.id = rule.id → other = rule)
    (removable : Removable netaddr book present (.remove rule)) :
    Leads (removeSecurityGroupRule store secgroup.id rule) state
      (fun _ after => Installed netaddr secgroup ids book (present.erase rule) after)
      (fun _ after => Installed netaddr secgroup ids book (present.erase rule) after) := by
  unfold removeSecurityGroupRule
  rw [leads_bind, leads_get, if_pos installed.associated, leads_bind,
    getSecgroupConjIdAndPriority_eq stored, leads_ofExcept_ok, leads_bind]
  rcases exec_forgetRemoteRule state rule with forgets | ⟨raises, absent⟩
  · rw [leads_exec_ok forgets, leads_bind]
    have forgotten := state.forgetting_eq rule
    have numbered : Numbered ids (state.forgetting rule) := by
      rw [forgotten]
      exact ⟨installed.numbered.known, installed.numbered.counted,
        installed.numbered.injective⟩
    unfold uninstallSecurityGroupRuleFlows
    rw [leads_bind]
    refine (numbered.getSecurityRuleMapping known few).mono ?_
      fun _ _ impossible => impossible.elim
    rintro ruleId current ⟨small, numberedCurrent, mapped, mappedStill, sameCurrent⟩
    rw [leads_bind, getRuleCookie_eq small, leads_ofExcept_ok, modFlow, leads_modify]
    -- What is deleted from the connection tracker makes no difference.
    have final : ∀ after : State,
        after = { current with
          flows := current.flows.apply
            { command := .delete, table := securityGroupTable rule.direction,
              priority := 0xff, pattern := {}, cookie := ruleId <<< 32,
              cookieMask := ruleCookieMask }
          conntrack := after.conntrack } →
        Installed netaddr secgroup ids book (present.erase rule) after := by
      intro after same
      have flows : after.flows = state.flows.apply
          { command := .delete, table := securityGroupTable rule.direction,
            priority := 0xff, pattern := {}, cookie := ruleId <<< 32,
            cookieMask := ruleCookieMask } := by
        rw [same, sameCurrent, forgotten]
      have mappings : after.secgroupRuleMappings = current.secgroupRuleMappings := by
        rw [same]
      have numberedAfter : Numbered ids after := by
        rw [same]
        exact ⟨numberedCurrent.known, numberedCurrent.counted, numberedCurrent.injective⟩
      refine ⟨?_, ?_, numberedAfter, installed.distinct.erase rule, ?_, ?_⟩
      · rw [same, sameCurrent, forgotten]
        exact installed.sameBook
      · rw [same, sameCurrent, forgotten]
        exact installed.associated
      · intro other member
        have different : other.id ≠ rule.id := by
          intro sameId
          have isRule := unique other (List.mem_of_mem_erase member) sameId
          rw [isRule] at member
          exact installed.distinct.not_mem_erase member
        have remembers := (installed.remembers other
          (List.mem_of_mem_erase member)).forgetting different
        rw [same, sameCurrent]
        exact remembers
      · intro direction pattern
        refine (installed.served direction pattern).removed numberedAfter few
          (mappings ▸ mapped) ?_ ?_ unique removable
        · intro other number found
          rw [mappings]
          apply mappedStill
          rw [forgotten]
          exact found
        · intro table level pattern
          rw [flows]
          exact apply_deleteByCookie _ _ _ _ _ _
    refine (leads_deleteConntrackEntriesByRule store rule []).mono ?_ ?_
    · intro _ after same
      exact final after same
    · intro _ after same
      exact final after same
  · -- A rule that is not kept under its remote group was not added.
    rw [leads_exec_error raises]
    have notPresent : rule ∉ present :=
      fun member => absent (installed.remembers rule member)
    rw [List.erase_of_not_mem notPresent]
    exact installed

/-! ## Every sequence of calls -/

/-- Every removal of a sequence takes only flows that no other rule needs. -/
def RemovableAlong (netaddr : Netaddr) (book : AddressBook) :
    List SecurityGroupRule → List RuleChange → Prop
  | _, [] => True
  | present, change :: calls =>
      Removable netaddr book present change ∧
        RemovableAlong netaddr book (change.apply present) calls

theorem mem_apply {change : RuleChange} {other : SecurityGroupRule}
    (member : other ∈ change.apply present) : other ∈ present ∨ other = change.rule := by
  cases change with
  | add rule =>
      rcases List.mem_append.mp member with before | isRule
      · exact .inl (List.mem_of_mem_erase before)
      · exact .inr (List.mem_singleton.mp isRule)
  | remove rule => exact .inl (List.mem_of_mem_erase member)

theorem Installed.call (installed : Installed netaddr secgroup ids book present state)
    (stored : store.secgroups secgroup.id = some secgroup) {change : RuleChange}
    (known : change.rule.id ∈ ids) (few : ids.card < 2 ^ 32)
    (unique : ∀ other ∈ present, other.id = change.rule.id → other = change.rule)
    (removable : Removable netaddr book present change) :
    Installed netaddr secgroup ids book (change.apply present)
      (exec (change.call netaddr store secgroup.id) state).2 := by
  have leads : Leads (change.call netaddr store secgroup.id) state
      (fun _ after => Installed netaddr secgroup ids book (change.apply present) after)
      (fun _ after => Installed netaddr secgroup ids book (change.apply present) after) := by
    cases change with
    | add rule => exact installed.add stored known few
    | remove rule => exact installed.remove stored known few unique removable
  rcases executed : exec (change.call netaddr store secgroup.id) state with
    ⟨error | value, after⟩
  · exact leads.of_error executed
  · exact leads.of_ok executed

theorem Installed.calls (stored : store.secgroups secgroup.id = some secgroup)
    (few : ids.card < 2 ^ 32) {calls : List RuleChange}
    (known : ∀ change ∈ calls, change.rule.id ∈ ids)
    (unique : ∀ first ∈ calls, ∀ second ∈ calls,
      first.rule.id = second.rule.id → first.rule = second.rule)
    (installed : Installed netaddr secgroup ids book present state)
    (uniquePresent : ∀ rule ∈ present, ∀ change ∈ calls,
      rule.id = change.rule.id → rule = change.rule)
    (removable : RemovableAlong netaddr book present calls) :
    Installed netaddr secgroup ids book (calls.foldl RuleChange.apply present)
      (trace (RuleChange.call netaddr store secgroup.id) calls state).2 := by
  induction calls generalizing present state with
  | nil => exact installed
  | cons change calls induction =>
      have isFirst : change ∈ change :: calls := List.mem_cons_self
      have later : ∀ other ∈ calls, other ∈ change :: calls :=
        fun other member => List.mem_cons_of_mem _ member
      rw [List.foldl_cons]
      simp only [trace]
      apply induction (fun other member => known other (later other member))
        (fun first isFirst second isSecond =>
          unique first (later first isFirst) second (later second isSecond))
      · exact installed.call stored (known change isFirst) few
          (fun other member => uniquePresent other member change isFirst) removable.1
      · intro rule member other isOther
        rcases mem_apply member with before | same
        · exact uniquePresent rule before other (later other isOther)
        · rw [same]
          exact unique change isFirst other (later other isOther)
      · exact removable.2

/-- In every sequence of calls in which a removed rule is the only one that
needs the flows of which it is the last owner, the group has a flow for each
combination of its rules, and none for a combination of removed rules alone. -/
theorem rules_exact (netaddr : Netaddr) (store : Store) (secgroup : SecurityGroup)
    (stored : store.secgroups secgroup.id = some secgroup) {ids : Finset Id}
    (few : ids.card < 2 ^ 32) (initial : State)
    (associated : initial.associated secgroup.id = true)
    (numbered : Numbered ids initial)
    (clean : ∀ direction pattern entry,
      initial.flows (securityGroupTable direction) (sgPriorityOffset + secgroup.uniqueKey)
        pattern = some entry →
      entry.instructions ≠ ruleInstructions secgroup.uniqueKey)
    (calls : List RuleChange) (known : ∀ change ∈ calls, change.rule.id ∈ ids)
    (unique : ∀ first ∈ calls, ∀ second ∈ calls,
      first.rule.id = second.rule.id → first.rule = second.rule)
    (removable : RemovableAlong netaddr initial.book [] calls) :
    let state := (trace (RuleChange.call netaddr store secgroup.id) calls initial).2
    let present := calls.foldl RuleChange.apply []
    (∀ rule ∈ present, ∀ pattern ∈ combinations netaddr state.book rule,
      ∃ cookie, state.flows (securityGroupTable rule.direction)
        (sgPriorityOffset + secgroup.uniqueKey) pattern =
          some ⟨cookie, ruleInstructions secgroup.uniqueKey⟩) ∧
    ∀ change ∈ calls, ∀ pattern ∈ combinations netaddr state.book change.rule,
      (∀ rule ∈ present, rule.direction = change.rule.direction →
        pattern ∉ combinations netaddr state.book rule) →
      ∀ entry, state.flows (securityGroupTable change.rule.direction)
          (sgPriorityOffset + secgroup.uniqueKey) pattern = some entry →
        entry.instructions ≠ ruleInstructions secgroup.uniqueKey := by
  intro state present
  have start : Installed netaddr secgroup ids initial.book [] initial :=
    ⟨rfl, associated, numbered, List.nodup_nil,
      fun _ member => absurd member List.not_mem_nil, clean⟩
  have installed : Installed netaddr secgroup ids initial.book present state :=
    start.calls stored few known unique
      (fun _ member => absurd member List.not_mem_nil) removable
  rw [installed.sameBook]
  constructor
  · intro rule member pattern isCombination
    have served := installed.served rule.direction pattern
    unfold Served at served
    split at served
    · rcases served with ⟨ruleId, _, entry⟩
      exact ⟨_, entry⟩
    · next nobody =>
        have empty := List.getLast?_eq_none_iff.mp nobody
        have needing : rule ∈
            present.filter (Needs netaddr initial.book rule.direction pattern) := by
          simp [member, Needs, isCombination]
        rw [empty] at needing
        cases needing
  · intro change _ pattern _ unneeded entry found
    have served := installed.served change.rule.direction pattern
    unfold Served at served
    split at served
    · next rule isLast =>
        rcases lastNeeding_mem isLast with ⟨member, needs⟩
        exact absurd needs.2 (unneeded rule member needs.1)
    · exact served entry found

/-! ## Two overlapping rules -/

def tcpRule (id : Id) (first last : Nat) : SecurityGroupRule :=
  { id, direction := .ingress, ethertype := .ipv4, protocol := some protoNumTcp,
    portRangeMin := some first, portRangeMax := some last,
    securityGroupId := some "web" }

def webGroup : SecurityGroup := ⟨"web", 5, []⟩

def webStore : Store where
  secgroups := fun _ => some webGroup
  lports := fun _ => none
  inventory := ⟨fun _ => none, fun _ => none⟩

/-- The group has a port, but no rule yet. -/
def webState : State :=
  { State.initial with
    secgroupAssociateLocalPorts := (∅ : Dict Id (List Id)).insert "web" ["port"] }

/-- Removing the rule that was added first is safe. -/
theorem rules_exact_first_removed :
    let calls := [.add (tcpRule "wide" 80 82), .add (tcpRule "narrow" 82 82),
      .remove (tcpRule "wide" 80 82)]
    let state := (trace (RuleChange.call Netaddr.sample webStore "web") calls webState).2
    ∀ pattern ∈ combinations Netaddr.sample state.book (tcpRule "narrow" 82 82),
      ∃ cookie, state.flows (securityGroupTable .ingress) (sgPriorityOffset + 5) pattern =
        some ⟨cookie, ruleInstructions 5⟩ := by
  intro calls state
  have numbered : Numbered {"wide", "narrow"} webState := by
    refine ⟨?_, rfl, ?_⟩
    · intro rule ruleId found
      cases found
    · intro first second ruleId found
      cases found
  have clean : ∀ direction pattern entry,
      webState.flows (securityGroupTable direction) (sgPriorityOffset + 5) pattern =
        some entry → entry.instructions ≠ ruleInstructions 5 := by
    intro direction pattern entry found
    cases found
  exact (rules_exact Netaddr.sample webStore webGroup rfl (by decide) webState rfl numbered
    clean calls (by decide) (by decide) ⟨trivial, trivial, by decide +kernel, trivial⟩).1
    (tcpRule "narrow" 82 82) (by decide)

/-- Removing the rule that was added last takes a flow that the other one still
needs. -/
theorem rules_clobbered :
    let calls := [.add (tcpRule "wide" 80 82), .add (tcpRule "narrow" 82 82),
      .remove (tcpRule "narrow" 82 82)]
    let state := (trace (RuleChange.call Netaddr.sample webStore "web") calls webState).2
    calls.foldl RuleChange.apply [] = [tcpRule "wide" 80 82] ∧
    ∃ pattern ∈ combinations Netaddr.sample state.book (tcpRule "wide" 80 82),
      state.flows (securityGroupTable .ingress) (sgPriorityOffset + 5) pattern = none := by
  decide +kernel

end SGApp
end Dragonflow
