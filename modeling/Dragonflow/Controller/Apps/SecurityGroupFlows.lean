import Dragonflow.Controller.Apps.SecurityGroups
import Mathlib.Data.Finset.Card

/-! # Programming the flows of security groups

The flows of a group are programmed without raising as long as the store has
the group, and its rules are such that flows can be made of them.
-/

namespace Dragonflow
namespace SGApp

open Program

/-! ## Numbers of rules -/

theorem cookie_and_mask {ruleId : Nat} (small : ruleId < 2 ^ 32) :
    ruleId <<< 32 &&& ruleCookieMask = ruleId <<< 32 := by
  unfold ruleCookieMask
  rw [← Nat.shiftLeft_and_distrib]
  congr 1
  exact (Nat.and_two_pow_sub_one_eq_mod ruleId 32).trans (Nat.mod_eq_of_lt small)

theorem getRuleCookie_eq {ruleId : Nat} (small : ruleId < 2 ^ 32) :
    getRuleCookie ruleId = .ok (ruleId <<< 32) := by
  unfold getRuleCookie
  simp only [cookie_and_mask small, if_true]

/-- The rules with a number are among `ids`, and they are numbered from one. -/
structure Numbered (ids : Finset Id) (state : State) : Prop where
  known : ∀ rule ruleId, state.secgroupRuleMappings.lookup rule = some ruleId →
    rule ∈ ids ∧ ruleId ≤ state.nextSecgroupRuleId
  counted : state.nextSecgroupRuleId = state.secgroupRuleMappings.entries.length
  injective : ∀ first second ruleId,
    state.secgroupRuleMappings.lookup first = some ruleId →
    state.secgroupRuleMappings.lookup second = some ruleId → first = second

theorem Numbered.next_le {ids : Finset Id} {state : State}
    (numbered : Numbered ids state) : state.nextSecgroupRuleId ≤ ids.card := by
  have distinct : state.secgroupRuleMappings.keys.Nodup :=
    state.secgroupRuleMappings.nodupKeys
  have included : state.secgroupRuleMappings.keys.toFinset ⊆ ids := by
    intro rule member
    rcases (Dict.mem_keys_iff _ _).mp (List.mem_toFinset.mp member) with ⟨ruleId, found⟩
    exact (numbered.known rule ruleId found).1
  have counted : state.secgroupRuleMappings.keys.length =
      state.secgroupRuleMappings.entries.length := by
    simp [AList.keys, List.keys]
  rw [numbered.counted, ← counted, ← List.toFinset_card_of_nodup distinct]
  exact Finset.card_le_card included

theorem Numbered.initial (ids : Finset Id) : Numbered ids State.initial where
  known := by
    intro rule ruleId found
    cases found
  counted := rfl
  injective := by
    intro first second ruleId found
    cases found

/-- A state that differs from another one in the flows, in what was deleted
from the connection tracker and in the numbers of rules. -/
structure Like (ids : Finset Id) (base state : State) : Prop where
  book : state.book = base.book
  remote : state.remoteSecgroupRef = base.remoteSecgroupRef
  ports : state.secgroupAssociateLocalPorts = base.secgroupAssociateLocalPorts
  numbered : Numbered ids state

theorem Like.refl {ids : Finset Id} {state : State} (numbered : Numbered ids state) :
    Like ids state state :=
  ⟨rfl, rfl, rfl, numbered⟩

theorem Like.associated {ids : Finset Id} {base state : State}
    (like : Like ids base state) (secgroup : Id) :
    state.associated secgroup = base.associated secgroup := by
  unfold State.associated
  rw [like.ports]

variable {ids : Finset Id} {base state : State}

/-- `Like` only asks for these parts of the state. -/
theorem Like.of_eq (like : Like ids base state) {next : State}
    (book : next.book = state.book)
    (remote : next.remoteSecgroupRef = state.remoteSecgroupRef)
    (ports : next.secgroupAssociateLocalPorts = state.secgroupAssociateLocalPorts)
    (mappings : next.secgroupRuleMappings = state.secgroupRuleMappings)
    (number : next.nextSecgroupRuleId = state.nextSecgroupRuleId) :
    Like ids base next where
  book := book.trans like.book
  remote := remote.trans like.remote
  ports := ports.trans like.ports
  numbered :=
    { known := by
        rw [mappings, number]
        exact like.numbered.known
      counted := by
        rw [mappings, number]
        exact like.numbered.counted
      injective := by
        rw [mappings]
        exact like.numbered.injective }

theorem Like.modFlow (like : Like ids base state) (message : OFPFlowMod) :
    Leads (SGApp.modFlow message) state (fun _ after => Like ids base after)
      (fun _ _ => False) :=
  like.of_eq rfl rfl rfl rfl rfl

/-- A rule keeps the number that it has, or gets a new one. -/
theorem Numbered.getSecurityRuleMapping (numbered : Numbered ids state) {rule : Id}
    (known : rule ∈ ids) (few : ids.card < 2 ^ 32) :
    Leads (SGApp.getSecurityRuleMapping rule) state
      (fun ruleId after => ruleId < 2 ^ 32 ∧ Numbered ids after ∧
        after.secgroupRuleMappings.lookup rule = some ruleId ∧
        (∀ other number, state.secgroupRuleMappings.lookup other = some number →
          after.secgroupRuleMappings.lookup other = some number) ∧
        after = { state with
          nextSecgroupRuleId := after.nextSecgroupRuleId
          secgroupRuleMappings := after.secgroupRuleMappings })
      (fun _ _ => False) := by
  have bound := numbered.next_le
  unfold SGApp.getSecurityRuleMapping
  rw [leads_bind, leads_get]
  cases mapped : state.secgroupRuleMappings.lookup rule with
  | some ruleId =>
      have small := (numbered.known rule ruleId mapped).2
      exact ⟨by omega, numbered, mapped, fun _ _ found => found, rfl⟩
  | none =>
      have absent : rule ∉ state.secgroupRuleMappings := by
        intro member
        rw [← AList.lookup_isSome, mapped] at member
        cases member
      have next : Numbered ids
          { state with
            nextSecgroupRuleId := state.nextSecgroupRuleId + 1
            secgroupRuleMappings :=
              state.secgroupRuleMappings.insert rule (state.nextSecgroupRuleId + 1) } := by
        constructor
        · intro other ruleId found
          rw [Dict.lookup_insert_eq] at found
          split at found
          · next same =>
              cases found
              exact ⟨same ▸ known, Nat.le_refl _⟩
          · have old := numbered.known other ruleId found
            exact ⟨old.1, Nat.le_succ_of_le old.2⟩
        · simp only [AList.insert_of_notMem absent, List.length_cons, numbered.counted]
        · intro first second ruleId foundFirst foundSecond
          rw [Dict.lookup_insert_eq] at foundFirst foundSecond
          split at foundFirst <;> split at foundSecond
          · simp_all
          · cases foundFirst
            have old := (numbered.known second _ foundSecond).2
            omega
          · cases foundSecond
            have old := (numbered.known first _ foundFirst).2
            omega
          · exact numbered.injective first second ruleId foundFirst foundSecond
      have small := next.next_le
      rw [leads_bind, leads_set, leads_pure]
      refine ⟨by simp only at small; omega, next, AList.lookup_insert _, ?_, rfl⟩
      intro other number found
      rw [Dict.lookup_insert_eq, if_neg]
      · exact found
      · intro same
        rw [same, mapped] at found
        cases found

theorem Like.getSecurityRuleMapping (like : Like ids base state) {rule : Id}
    (known : rule ∈ ids) (few : ids.card < 2 ^ 32) :
    Leads (SGApp.getSecurityRuleMapping rule) state
      (fun ruleId after => ruleId < 2 ^ 32 ∧ Like ids base after)
      (fun _ _ => False) := by
  refine (like.numbered.getSecurityRuleMapping known few).mono ?_
    fun _ _ impossible => impossible
  rintro ruleId after ⟨small, numbered, _, _, same⟩
  refine ⟨small, ?_, ?_, ?_, numbered⟩
  · rw [same]
    exact like.book
  · rw [same]
    exact like.remote
  · rw [same]
    exact like.ports

theorem Like.installFlowsFromAddressList (like : Like ids base state)
    (command : FlowCommand) (rule : SecurityGroupRule) (priority : Nat) {ruleId : Nat}
    (small : ruleId < 2 ^ 32) (instructions : List Instruction)
    (patterns : List OFPMatch) :
    Leads (SGApp.installFlowsFromAddressList command rule priority ruleId instructions
        patterns) state
      (fun _ after => Like ids base after) (fun _ _ => False) := by
  unfold SGApp.installFlowsFromAddressList
  refine Leads.loop_const (Like ids base) patterns ?_ like
  intro pattern current _ likeCurrent
  rw [leads_bind, getRuleCookie_eq small, leads_ofExcept_ok]
  exact likeCurrent.modFlow _

theorem Like.installIpv4Ipv6Rules (like : Like ids base state) (message : OFPFlowMod) :
    Leads (SGApp.installIpv4Ipv6Rules message) state
      (fun _ after => Like ids base after) (fun _ _ => False) := by
  unfold SGApp.installIpv4Ipv6Rules
  refine Leads.loop_const (Like ids base) _ ?_ like
  intro version current _ likeCurrent
  exact likeCurrent.modFlow _

theorem Like.deleteConntrackEntriesProcess (like : Like ids base state)
    (rule : SecurityGroupRule) (remoteAddresses : List IPAddress)
    (infos : List PortInfo) :
    Leads (SGApp.deleteConntrackEntriesProcess rule remoteAddresses infos) state
      (fun _ after => Like ids base after) (fun _ _ => False) :=
  like.of_eq rfl rfl rfl rfl rfl

/-! ## Groups and their rules -/

def IsRule (secgroups : Id → Option SecurityGroup) (secgroup : Id)
    (rule : SecurityGroupRule) : Prop :=
  ∃ found, secgroups secgroup = some found ∧ rule ∈ found.rules

/-- Flows can be made of every rule of the stored groups, and there are enough
numbers for all of them. -/
structure WellFormed (netaddr : Netaddr) (secgroups : Id → Option SecurityGroup)
    (ids : Finset Id) : Prop where
  owner : ∀ secgroup rule, IsRule secgroups secgroup rule →
    rule.securityGroupId = some secgroup
  matchable : ∀ secgroup rule, IsRule secgroups secgroup rule →
    ∃ matchList, getRuleFlowsMatchExceptNetAddresses netaddr rule = .ok matchList
  distinct : ∀ secgroup found, secgroups secgroup = some found →
    (found.rules.map SecurityGroupRule.id).Nodup
  unique : ∀ secgroup rule other another, IsRule secgroups secgroup rule →
    IsRule secgroups other another → rule.id = another.id → rule = another
  known : ∀ secgroup rule, IsRule secgroups secgroup rule → rule.id ∈ ids
  few : ids.card < 2 ^ 32

variable {netaddr : Netaddr} {store : Store}

theorem getSecgroupConjIdAndPriority_eq {secgroup : Id} {found : SecurityGroup}
    (stored : store.secgroups secgroup = some found) :
    getSecgroupConjIdAndPriority store secgroup =
      .ok (found.uniqueKey, sgPriorityOffset + found.uniqueKey) := by
  unfold getSecgroupConjIdAndPriority
  rw [stored]

theorem Like.updateFlowsOf (like : Like ids base state)
    (wellFormed : WellFormed netaddr store.secgroups ids) {secgroup : Id}
    {rule : SecurityGroupRule} (isRule : IsRule store.secgroups secgroup rule)
    (change : AddressChange) :
    Leads (SGApp.updateFlowsOf netaddr store change rule) state
      (fun _ after => Like ids base after) (fun _ _ => False) := by
  rcases isRule with ⟨found, stored, member⟩
  have isRule : IsRule store.secgroups secgroup rule := ⟨found, stored, member⟩
  rcases wellFormed.matchable _ _ isRule with ⟨matchList, made⟩
  unfold SGApp.updateFlowsOf updateSecurityGroupRuleFlowsByAddresses
  rw [wellFormed.owner _ _ isRule]
  simp only
  rw [leads_bind, leads_get]
  split
  · rw [leads_bind, getSecgroupConjIdAndPriority_eq stored, leads_ofExcept_ok, leads_bind]
    refine (like.getSecurityRuleMapping (wellFormed.known _ _ isRule)
      wellFormed.few).mono ?_ fun _ _ impossible => impossible
    rintro ruleId after ⟨small, likeAfter⟩
    rw [leads_bind, made, leads_ofExcept_ok]
    refine (likeAfter.installFlowsFromAddressList _ _ _ small _ _).bind ?_
    intro _ final likeFinal
    exact likeFinal.installFlowsFromAddressList _ _ _ small _ _
  · exact like

/-- What connection tracking has to know about the ports of the groups. -/
def PortsStored (store : Store) (ports : Dict Id (List Id)) : Prop :=
  ∀ secgroup members, ports.lookup secgroup = some members →
    ∀ id ∈ members, ∃ info, storedPortInfo store id = .ok info

theorem mapM_ok {infos : Id → Except PyError PortInfo} {members : List Id}
    (each : ∀ id ∈ members, ∃ info, infos id = .ok info) :
    ∃ found, members.mapM infos = .ok found := by
  induction members with
  | nil => exact ⟨[], rfl⟩
  | cons head tail induction =>
      rcases each head List.mem_cons_self with ⟨info, isInfo⟩
      rcases induction fun id member => each id (List.mem_cons_of_mem _ member) with
        ⟨rest, isRest⟩
      refine ⟨info :: rest, ?_⟩
      rw [List.mapM_cons, isInfo, isRest]
      rfl

theorem Like.deleteConntrackEntriesByRule (like : Like ids base state)
    (portsStored : PortsStored store base.secgroupAssociateLocalPorts)
    {secgroup : Id} {rule : SecurityGroupRule}
    (owner : rule.securityGroupId = some secgroup)
    (associated : base.associated secgroup = true) (remoteAddresses : List IPAddress) :
    Leads (SGApp.deleteConntrackEntriesByRule store rule remoteAddresses) state
      (fun _ after => Like ids base after) (fun _ _ => False) := by
  rcases Option.isSome_iff_exists.mp associated with ⟨members, found⟩
  rcases mapM_ok (portsStored secgroup members found) with ⟨infos, made⟩
  have info : associatingPortsInfo store state.secgroupAssociateLocalPorts rule =
      .ok infos := by
    unfold associatingPortsInfo
    rw [like.ports, owner, Option.bind_some, found]
    exact made
  unfold SGApp.deleteConntrackEntriesByRule
  rw [leads_bind, leads_get, leads_bind, info, leads_ofExcept_ok]
  exact like.deleteConntrackEntriesProcess _ _ _

theorem Like.deleteConntrackEntriesByLocalPortInfo (like : Like ids base state)
    {lport : LogicalPort} {lswitch : LogicalSwitch}
    (onSwitch : store.inventory.lswitch lport = .ok lswitch)
    (original : Option LogicalPort) (secgroup : Id) :
    Leads (SGApp.deleteConntrackEntriesByLocalPortInfo store lport original secgroup)
      state (fun _ after => Like ids base after) (fun _ _ => False) := by
  have info : portInfo store lport (removedIps lport original) =
      .ok ⟨removedIps lport original, lswitch.uniqueKey⟩ := by
    unfold portInfo
    rw [onSwitch]
    rfl
  unfold SGApp.deleteConntrackEntriesByLocalPortInfo
  rw [leads_bind, info, leads_ofExcept_ok]
  split
  · exact like
  · refine Leads.loop_const (Like ids base) _ ?_ like
    intro rule current _ likeCurrent
    exact likeCurrent.deleteConntrackEntriesProcess _ _ _

/-! ## Remembering the rules about a remote group -/

/-- The rule that is kept under a remote group with an id. -/
def State.remoteRule (state : State) (remote id : Id) : Option SecurityGroupRule :=
  (state.remoteSecgroupRef.lookup remote).bind fun rules => rules.lookup id

/-- The rules that are kept under a remote group are about it, and they are
rules of groups with local ports. The ports of these groups are members. -/
structure Healthy (secgroups : Id → Option SecurityGroup) (members : Id → Id → Prop)
    (state : State) : Prop where
  serving : ∀ remote id rule, state.remoteRule remote id = some rule →
    rule.id = id ∧ rule.remoteGroupId = some remote ∧
      ∃ secgroup, IsRule secgroups secgroup rule ∧ state.associated secgroup = true
  stored : ∀ secgroup, state.associated secgroup = true →
    ∃ found, secgroups secgroup = some found
  ports : ∀ secgroup ports,
    state.secgroupAssociateLocalPorts.lookup secgroup = some ports →
    ports.Nodup ∧ ∀ id ∈ ports, members secgroup id

/-- A rule about a remote group is kept under it. -/
def Remembers (state : State) (rule : SecurityGroupRule) : Prop :=
  ∀ remote, rule.remoteGroupId = some remote → state.remoteRule remote rule.id ≠ none

structure Sound (secgroups : Id → Option SecurityGroup) (ids : Finset Id)
    (members : Id → Id → Prop) (state : State) : Prop where
  healthy : Healthy secgroups members state
  numbered : Numbered ids state
  remembers : ∀ secgroup rule, state.associated secgroup = true →
    IsRule secgroups secgroup rule → Remembers state rule

variable {secgroups : Id → Option SecurityGroup} {members : Id → Id → Prop}

theorem Healthy.of_eq (healthy : Healthy secgroups members base)
    (remote : state.remoteSecgroupRef = base.remoteSecgroupRef)
    (ports : state.secgroupAssociateLocalPorts = base.secgroupAssociateLocalPorts) :
    Healthy secgroups members state := by
  have associated : ∀ secgroup,
      state.associated secgroup = base.associated secgroup := by
    intro secgroup
    unfold State.associated
    rw [ports]
  constructor
  · unfold State.remoteRule
    rw [remote]
    simp only [associated]
    exact healthy.serving
  · simp only [associated]
    exact healthy.stored
  · rw [ports]
    exact healthy.ports

theorem Healthy.mono {wider : Id → Id → Prop} (healthy : Healthy secgroups members state)
    (included : ∀ secgroup id, members secgroup id → wider secgroup id) :
    Healthy secgroups wider state :=
  ⟨healthy.serving, healthy.stored, fun secgroup ports found =>
    ⟨(healthy.ports secgroup ports found).1, fun id member =>
      included secgroup id ((healthy.ports secgroup ports found).2 id member)⟩⟩

theorem Sound.mono {wider : Id → Id → Prop} (sound : Sound secgroups ids members state)
    (included : ∀ secgroup id, members secgroup id → wider secgroup id) :
    Sound secgroups ids wider state :=
  ⟨sound.healthy.mono included, sound.numbered, sound.remembers⟩

theorem Sound.of_like (sound : Sound secgroups ids members base)
    (like : Like ids base state) : Sound secgroups ids members state where
  healthy := sound.healthy.of_eq like.remote like.ports
  numbered := like.numbered
  remembers := by
    intro secgroup rule associated isRule
    rw [like.associated] at associated
    unfold Remembers State.remoteRule
    rw [like.remote]
    exact sound.remembers secgroup rule associated isRule

theorem Sound.withBook (sound : Sound secgroups ids members state) (book : AddressBook) :
    Sound secgroups ids members { state with book } where
  healthy := sound.healthy.of_eq rfl rfl
  numbered := ⟨sound.numbered.known, sound.numbered.counted, sound.numbered.injective⟩
  remembers := sound.remembers

theorem Sound.initial (secgroups : Id → Option SecurityGroup) (ids : Finset Id)
    (members : Id → Id → Prop) : Sound secgroups ids members State.initial where
  healthy :=
    { serving := by
        intro remote id rule found
        cases found
      stored := by
        intro secgroup associated
        cases associated
      ports := by
        intro secgroup ports found
        cases found }
  numbered := Numbered.initial ids
  remembers := by
    intro secgroup rule associated
    cases associated

theorem Healthy.mem_rulesAbout (healthy : Healthy secgroups members state)
    {secgroup : Id} {rule : SecurityGroupRule}
    (member : rule ∈ rulesAbout state secgroup) :
    ∃ owner, IsRule secgroups owner rule ∧ state.associated owner = true := by
  unfold rulesAbout at member
  split at member
  · cases member
  · next rules found =>
      rcases (Dict.mem_values_iff rules rule).mp member with ⟨id, kept⟩
      have isKept : state.remoteRule secgroup id = some rule := by
        unfold State.remoteRule
        rw [found]
        exact kept
      exact (healthy.serving _ _ _ isKept).2.2

/-! ## Addresses that change -/

theorem Sound.associateSecgroupLportAddresses
    (sound : Sound store.secgroups ids members state)
    (wellFormed : WellFormed netaddr store.secgroups ids) (secgroup : Id)
    (lport : LogicalPort) :
    Leads (SGApp.associateSecgroupLportAddresses netaddr store secgroup lport) state
      (fun _ after =>
        Like ids { state with book := (state.book.associate secgroup lport).2 } after)
      (fun _ _ => False) := by
  unfold SGApp.associateSecgroupLportAddresses setBook
  rw [leads_bind, leads_get]
  simp only [leads_bind, leads_modify]
  have like := Like.refl (sound.withBook (state.book.associate secgroup lport).2).numbered
  refine Leads.loop_const _ _ ?_ like
  intro rule current member likeCurrent
  rcases sound.healthy.mem_rulesAbout member with ⟨owner, isRule, _⟩
  exact likeCurrent.updateFlowsOf wellFormed isRule _

theorem Sound.updateFlowsAndConntrack
    (sound : Sound store.secgroups ids members state)
    (wellFormed : WellFormed netaddr store.secgroups ids)
    (portsStored : PortsStored store state.secgroupAssociateLocalPorts) (secgroup : Id)
    (change : AddressChange) :
    Leads (SGApp.updateFlowsAndConntrack netaddr store secgroup change) state
      (fun _ after => Like ids state after) (fun _ _ => False) := by
  unfold SGApp.updateFlowsAndConntrack
  rw [leads_bind, leads_get]
  refine Leads.loop_const _ _ ?_ (Like.refl sound.numbered)
  intro rule current member likeCurrent
  rcases sound.healthy.mem_rulesAbout member with ⟨owner, isRule, associated⟩
  refine (likeCurrent.updateFlowsOf wellFormed isRule change).bind ?_
  intro _ after likeAfter
  exact likeAfter.deleteConntrackEntriesByRule portsStored
    (wellFormed.owner _ _ isRule) associated _

theorem Sound.disassociateSecgroupLportAddresses
    (sound : Sound store.secgroups ids members state)
    (wellFormed : WellFormed netaddr store.secgroups ids)
    (portsStored : PortsStored store state.secgroupAssociateLocalPorts) (secgroup : Id)
    (lport : LogicalPort) :
    Leads (SGApp.disassociateSecgroupLportAddresses netaddr store secgroup lport) state
      (fun _ after =>
        Like ids { state with book := (state.book.disassociate secgroup lport).2 } after)
      (fun _ _ => False) := by
  unfold SGApp.disassociateSecgroupLportAddresses setBook
  rw [leads_bind, leads_get]
  simp only [leads_bind, leads_modify]
  have soundAfter := sound.withBook (state.book.disassociate secgroup lport).2
  split
  · exact Like.refl soundAfter.numbered
  · exact soundAfter.updateFlowsAndConntrack wellFormed portsStored secgroup _

theorem Sound.updatePortAddressesProcess
    (sound : Sound store.secgroups ids members state)
    (wellFormed : WellFormed netaddr store.secgroups ids)
    (portsStored : PortsStored store state.secgroupAssociateLocalPorts)
    (lport original : LogicalPort) (secgroup : Id) :
    Leads (SGApp.updatePortAddressesProcess netaddr store lport original secgroup) state
      (fun _ after =>
        Like ids { state with book := (state.book.update secgroup lport original).2 }
          after)
      (fun _ _ => False) := by
  unfold SGApp.updatePortAddressesProcess setBook
  rw [leads_bind, leads_get]
  simp only [leads_bind, leads_modify]
  have soundAfter := sound.withBook (state.book.update secgroup lport original).2
  exact soundAfter.updateFlowsAndConntrack wellFormed portsStored secgroup _

/-! ## Adding and removing the rules of a group -/

/-- A rule is not kept under any group. -/
def Forgotten (state : State) (rule : SecurityGroupRule) : Prop :=
  ∀ remote, state.remoteRule remote rule.id = none

/-- What adding and removing rules leaves alone. -/
structure Advances (secgroups : Id → Option SecurityGroup) (ids : Finset Id)
    (members : Id → Id → Prop) (state after : State) : Prop where
  healthy : Healthy secgroups members after
  book : after.book = state.book
  ports : after.secgroupAssociateLocalPorts = state.secgroupAssociateLocalPorts
  numbered : Numbered ids after

theorem Advances.associated {after : State}
    (advances : Advances secgroups ids members state after) (secgroup : Id) :
    after.associated secgroup = state.associated secgroup := by
  unfold State.associated
  rw [advances.ports]

theorem Advances.trans {second third : State}
    (left : Advances secgroups ids members state second)
    (right : Advances secgroups ids members second third) :
    Advances secgroups ids members state third :=
  ⟨right.healthy, right.book.trans left.book, right.ports.trans left.ports,
    right.numbered⟩

theorem Advances.like {second third : State}
    (left : Advances secgroups ids members state second)
    (right : Like ids second third) : Advances secgroups ids members state third :=
  ⟨left.healthy.of_eq right.remote right.ports, right.book.trans left.book,
    right.ports.trans left.ports, right.numbered⟩

theorem Remembers.of_like {rule : SecurityGroupRule} (remembers : Remembers base rule)
    (like : Like ids base state) : Remembers state rule := by
  unfold Remembers State.remoteRule
  rw [like.remote]
  exact remembers

theorem Forgotten.of_like {rule : SecurityGroupRule} (forgotten : Forgotten base rule)
    (like : Like ids base state) : Forgotten state rule := by
  unfold Forgotten State.remoteRule
  rw [like.remote]
  exact forgotten

/-- What `rememberRemoteRule` leaves behind. -/
def State.remembering (state : State) (rule : SecurityGroupRule) : State :=
  match rule.remoteGroupId with
  | none => state
  | some remote =>
      { state with
        remoteSecgroupRef := state.remoteSecgroupRef.insert remote
          (((state.remoteSecgroupRef.lookup remote).getD ∅).insert rule.id rule) }

theorem exec_rememberRemoteRule (state : State) (rule : SecurityGroupRule) :
    exec (rememberRemoteRule rule) state = (.ok (), state.remembering rule) := by
  unfold rememberRemoteRule State.remembering
  rw [exec_bind_ok (exec_get state)]
  cases rule.remoteGroupId <;> rfl

theorem State.remembering_eq (state : State) (rule : SecurityGroupRule) :
    state.remembering rule =
      { state with remoteSecgroupRef := (state.remembering rule).remoteSecgroupRef } := by
  unfold State.remembering
  cases rule.remoteGroupId <;> rfl

theorem remoteRule_remembering (state : State) (rule : SecurityGroupRule)
    (remote id : Id) :
    (state.remembering rule).remoteRule remote id =
      if rule.remoteGroupId = some remote ∧ id = rule.id then some rule
      else state.remoteRule remote id := by
  unfold State.remembering State.remoteRule
  cases about : rule.remoteGroupId with
  | none => simp
  | some target =>
      dsimp only
      rw [Dict.lookup_insert_eq]
      by_cases isTarget : remote = target
      · subst isTarget
        rw [if_pos rfl, Option.bind_some, Dict.lookup_insert_eq]
        cases state.remoteSecgroupRef.lookup remote <;> simp
      · have different : ¬target = remote := fun same => isTarget same.symm
        simp [isTarget, different]

theorem remembers_remembering (state : State) (rule : SecurityGroupRule) :
    Remembers (state.remembering rule) rule := by
  intro remote about
  rw [remoteRule_remembering, if_pos ⟨about, rfl⟩]
  exact Option.some_ne_none rule

theorem Remembers.remembering {other : SecurityGroupRule} (remembers : Remembers state other)
    (rule : SecurityGroupRule) : Remembers (state.remembering rule) other := by
  intro remote about
  rw [remoteRule_remembering]
  split
  · exact Option.some_ne_none rule
  · exact remembers remote about

theorem Healthy.remembering (healthy : Healthy secgroups members state) {secgroup : Id}
    {rule : SecurityGroupRule} (isRule : IsRule secgroups secgroup rule)
    (associated : state.associated secgroup = true) :
    Healthy secgroups members (state.remembering rule) := by
  have ports : (state.remembering rule).secgroupAssociateLocalPorts =
      state.secgroupAssociateLocalPorts := by
    rw [state.remembering_eq]
  constructor
  · intro remote id kept found
    rw [remoteRule_remembering] at found
    unfold State.associated
    rw [ports]
    split at found
    · next isNew =>
        cases found
        exact ⟨isNew.2.symm, isNew.1, secgroup, isRule, associated⟩
    · exact healthy.serving remote id kept found
  · unfold State.associated
    rw [ports]
    exact healthy.stored
  · rw [ports]
    exact healthy.ports

/-- What `forgetRemoteRule` leaves behind. -/
def State.forgetting (state : State) (rule : SecurityGroupRule) : State :=
  match rule.remoteGroupId with
  | none => state
  | some remote =>
      match state.remoteSecgroupRef.lookup remote with
      | none => state
      | some rules =>
          { state with
            remoteSecgroupRef :=
              if (rules.erase rule.id).entries = [] then
                state.remoteSecgroupRef.erase remote
              else state.remoteSecgroupRef.insert remote (rules.erase rule.id) }

theorem State.forgetting_eq (state : State) (rule : SecurityGroupRule) :
    state.forgetting rule =
      { state with remoteSecgroupRef := (state.forgetting rule).remoteSecgroupRef } := by
  unfold State.forgetting
  cases rule.remoteGroupId with
  | none => rfl
  | some remote =>
      dsimp only
      cases state.remoteSecgroupRef.lookup remote <;> rfl

/-- Forgetting raises only if the rule is not there. -/
theorem exec_forgetRemoteRule (state : State) (rule : SecurityGroupRule) :
    exec (forgetRemoteRule rule) state = (.ok (), state.forgetting rule) ∨
      exec (forgetRemoteRule rule) state = (.error .keyError, state) ∧
        ¬Remembers state rule := by
  unfold forgetRemoteRule State.forgetting Remembers State.remoteRule
  rw [exec_bind_ok (exec_get state)]
  cases about : rule.remoteGroupId with
  | none => exact .inl rfl
  | some remote =>
      dsimp only
      cases found : state.remoteSecgroupRef.lookup remote with
      | none => exact .inl rfl
      | some rules =>
          dsimp only
          cases kept : rules.lookup rule.id with
          | none =>
              refine .inr ⟨rfl, fun remembers => remembers remote rfl ?_⟩
              rw [found]
              exact kept
          | some _ =>
              dsimp only
              split <;> exact .inl rfl

theorem remoteRule_forgetting (state : State) (rule : SecurityGroupRule)
    (remote id : Id) :
    (state.forgetting rule).remoteRule remote id =
      if rule.remoteGroupId = some remote ∧ id = rule.id then none
      else state.remoteRule remote id := by
  unfold State.forgetting State.remoteRule
  cases about : rule.remoteGroupId with
  | none => simp
  | some target =>
      dsimp only
      by_cases isTarget : remote = target
      · subst isTarget
        cases found : state.remoteSecgroupRef.lookup remote with
        | none => simp [found]
        | some rules =>
            dsimp only
            have erased : (rules.erase rule.id).lookup id =
                if id = rule.id then none else rules.lookup id :=
              Dict.lookup_erase_eq rules rule.id id
            split
            · next emptied =>
                have nothing : (rules.erase rule.id).lookup id = none := by
                  cases isKept : (rules.erase rule.id).lookup id with
                  | none => rfl
                  | some kept =>
                      have member := AList.mem_lookup_iff.mp isKept
                      rw [emptied] at member
                      cases member
                rw [Dict.lookup_erase_eq, if_pos rfl, Option.bind_none,
                  Option.bind_some]
                simpa [nothing] using erased
            · rw [Dict.lookup_insert_eq, if_pos rfl, Option.bind_some, erased]
              simp
      · have different : ¬target = remote := fun same => isTarget same.symm
        cases state.remoteSecgroupRef.lookup target with
        | none => simp [different]
        | some rules =>
            dsimp only
            split
            · rw [Dict.lookup_erase_eq, if_neg isTarget]
              simp [different]
            · rw [Dict.lookup_insert_eq, if_neg isTarget]
              simp [different]

theorem Forgotten.forgetting {other : SecurityGroupRule} (forgotten : Forgotten state other)
    (rule : SecurityGroupRule) : Forgotten (state.forgetting rule) other := by
  intro remote
  rw [remoteRule_forgetting]
  split
  · rfl
  · exact forgotten remote

theorem Remembers.forgetting {other rule : SecurityGroupRule}
    (remembers : Remembers state other) (different : other.id ≠ rule.id) :
    Remembers (state.forgetting rule) other := by
  intro remote about
  rw [remoteRule_forgetting, if_neg fun both => different both.2]
  exact remembers remote about

theorem Healthy.forgetting (healthy : Healthy secgroups members state)
    (rule : SecurityGroupRule) : Healthy secgroups members (state.forgetting rule) := by
  have ports : (state.forgetting rule).secgroupAssociateLocalPorts =
      state.secgroupAssociateLocalPorts := by
    rw [state.forgetting_eq]
  constructor
  · intro remote id kept found
    rw [remoteRule_forgetting] at found
    unfold State.associated
    rw [ports]
    split at found
    · cases found
    · exact healthy.serving remote id kept found
  · unfold State.associated
    rw [ports]
    exact healthy.stored
  · rw [ports]
    exact healthy.ports

/-- Whoever is kept under the id of a rule is the rule itself. -/
theorem Healthy.forgotten_forgetting (healthy : Healthy secgroups members state)
    (wellFormed : WellFormed netaddr secgroups ids) {secgroup : Id}
    {rule : SecurityGroupRule} (isRule : IsRule secgroups secgroup rule) :
    Forgotten (state.forgetting rule) rule := by
  intro remote
  rw [remoteRule_forgetting]
  split
  · rfl
  · next elsewhere =>
      cases found : state.remoteRule remote rule.id with
      | none => rfl
      | some kept =>
          rcases healthy.serving remote rule.id kept found with
            ⟨sameId, about, owner, ownerRule, _⟩
          have equal := wellFormed.unique _ _ _ _ isRule ownerRule sameId.symm
          exact absurd ⟨equal ▸ about, rfl⟩ elsewhere

theorem leads_addSecurityGroupRule (healthy : Healthy store.secgroups members state)
    (numbered : Numbered ids state) (wellFormed : WellFormed netaddr store.secgroups ids)
    {secgroup : Id} {rule : SecurityGroupRule}
    (isRule : IsRule store.secgroups secgroup rule)
    (associated : state.associated secgroup = true) :
    Leads (addSecurityGroupRule netaddr store secgroup rule) state
      (fun _ after => Advances store.secgroups ids members state after ∧
        Remembers after rule ∧ ∀ other, Remembers state other → Remembers after other)
      (fun _ _ => False) := by
  unfold addSecurityGroupRule
  rw [leads_bind, leads_get, if_pos associated]
  rw [leads_bind, leads_exec_ok (exec_rememberRemoteRule state rule)]
  have advances : Advances store.secgroups ids members state (state.remembering rule) := by
    refine ⟨healthy.remembering isRule associated, ?_, ?_, ?_⟩
    · rw [state.remembering_eq]
    · rw [state.remembering_eq]
    · rw [state.remembering_eq]
      exact ⟨numbered.known, numbered.counted, numbered.injective⟩
  rcases wellFormed.matchable _ _ isRule with ⟨matchList, made⟩
  rcases isRule with ⟨found, stored, member⟩
  unfold installSecurityGroupRuleFlows
  rw [leads_bind, getSecgroupConjIdAndPriority_eq stored, leads_ofExcept_ok, leads_bind]
  refine ((Like.refl advances.numbered).getSecurityRuleMapping
    (wellFormed.known _ _ ⟨found, stored, member⟩) wellFormed.few).mono ?_
    fun _ _ impossible => impossible
  rintro ruleId current ⟨small, likeCurrent⟩
  rw [leads_bind, made, leads_ofExcept_ok, leads_bind, leads_get]
  refine (likeCurrent.installFlowsFromAddressList _ _ _ small _ _).mono ?_
    fun _ _ impossible => impossible
  intro _ after likeAfter
  exact ⟨advances.like likeAfter, (remembers_remembering state rule).of_like likeAfter,
    fun other kept => (kept.remembering rule).of_like likeAfter⟩

theorem leads_removeSecurityGroupRule (healthy : Healthy store.secgroups members state)
    (numbered : Numbered ids state) (wellFormed : WellFormed netaddr store.secgroups ids)
    (portsStored : PortsStored store state.secgroupAssociateLocalPorts)
    {secgroup : Id} {rule : SecurityGroupRule}
    (isRule : IsRule store.secgroups secgroup rule)
    (associated : state.associated secgroup = true) (remembers : Remembers state rule) :
    Leads (removeSecurityGroupRule store secgroup rule) state
      (fun _ after => Advances store.secgroups ids members state after ∧
        Forgotten after rule ∧
        (∀ other, Forgotten state other → Forgotten after other) ∧
        ∀ other, other.id ≠ rule.id → Remembers state other → Remembers after other)
      (fun _ _ => False) := by
  rcases healthy.stored secgroup associated with ⟨found, stored⟩
  unfold removeSecurityGroupRule
  rw [leads_bind, leads_get, if_pos associated, leads_bind,
    getSecgroupConjIdAndPriority_eq stored, leads_ofExcept_ok]
  have executed : exec (forgetRemoteRule rule) state = (.ok (), state.forgetting rule) := by
    rcases exec_forgetRemoteRule state rule with forgets | ⟨_, absent⟩
    · exact forgets
    · exact absurd remembers absent
  have advances : Advances store.secgroups ids members state (state.forgetting rule) := by
    refine ⟨healthy.forgetting rule, ?_, ?_, ?_⟩
    · rw [state.forgetting_eq]
    · rw [state.forgetting_eq]
    · rw [state.forgetting_eq]
      exact ⟨numbered.known, numbered.counted, numbered.injective⟩
  rw [leads_bind, leads_exec_ok executed]
  unfold uninstallSecurityGroupRuleFlows
  simp only [leads_bind]
  refine ((Like.refl advances.numbered).getSecurityRuleMapping
    (wellFormed.known _ _ isRule) wellFormed.few).mono ?_ fun _ _ impossible => impossible
  rintro ruleId current ⟨small, likeCurrent⟩
  rw [getRuleCookie_eq small, leads_ofExcept_ok]
  refine (likeCurrent.modFlow _).mono ?_ fun _ _ impossible => impossible
  intro _ next likeNext
  refine (likeNext.deleteConntrackEntriesByRule (advances.ports ▸ portsStored)
    (wellFormed.owner _ _ isRule) ((advances.associated secgroup).trans associated)
    []).mono ?_ fun _ _ impossible => impossible
  intro _ after likeAfter
  exact ⟨advances.like likeAfter,
    (healthy.forgotten_forgetting wellFormed isRule).of_like likeAfter,
    fun other isForgotten => (isForgotten.forgetting rule).of_like likeAfter,
    fun other different kept => (kept.forgetting different).of_like likeAfter⟩

/-! ## The flows of a group and of its ports -/

theorem Like.installSecurityGroupPermitFlowByDirection (like : Like ids base state)
    {secgroup : Id} {found : SecurityGroup}
    (stored : store.secgroups secgroup = some found) (direction : Direction) :
    Leads (SGApp.installSecurityGroupPermitFlowByDirection store secgroup direction) state
      (fun _ after => Like ids base after) (fun _ _ => False) := by
  unfold SGApp.installSecurityGroupPermitFlowByDirection
  rw [leads_bind, leads_get]
  split
  · rw [leads_bind, getSecgroupConjIdAndPriority_eq stored, leads_ofExcept_ok]
    exact like.installIpv4Ipv6Rules _
  · exact like

theorem Like.uninstallSecurityGroupPermitFlowByDirection (like : Like ids base state)
    {secgroup : Id} {found : SecurityGroup}
    (stored : store.secgroups secgroup = some found) (direction : Direction) :
    Leads (SGApp.uninstallSecurityGroupPermitFlowByDirection store secgroup direction)
      state (fun _ after => Like ids base after) (fun _ _ => False) := by
  unfold SGApp.uninstallSecurityGroupPermitFlowByDirection
  rw [leads_bind, leads_get]
  split
  · rw [leads_bind, getSecgroupConjIdAndPriority_eq stored, leads_ofExcept_ok]
    exact like.installIpv4Ipv6Rules _
  · exact like

theorem Like.installAssociatingFlows (like : Like ids base state) {secgroup : Id}
    {found : SecurityGroup} (stored : store.secgroups secgroup = some found)
    (lport : LogicalPort) :
    Leads (SGApp.installAssociatingFlows store secgroup lport) state
      (fun _ after => Like ids base after) (fun _ _ => False) := by
  have byDirection : ∀ direction current, Like ids base current →
      Leads (installAssociatingFlowByDirection store secgroup lport direction) current
        (fun _ after => Like ids base after) (fun _ _ => False) := by
    intro direction current likeCurrent
    unfold installAssociatingFlowByDirection
    rw [leads_bind, leads_get]
    split
    · rw [leads_bind, getSecgroupConjIdAndPriority_eq stored, leads_ofExcept_ok]
      exact likeCurrent.modFlow _
    · exact likeCurrent
  unfold SGApp.installAssociatingFlows
  exact (byDirection .ingress state like).bind fun _ current likeCurrent =>
    byDirection .egress current likeCurrent

theorem Like.uninstallAssociatingFlows (like : Like ids base state) {secgroup : Id}
    (stored : state.associated secgroup = true →
      ∃ found, store.secgroups secgroup = some found)
    (lport : LogicalPort) :
    Leads (SGApp.uninstallAssociatingFlows store secgroup lport) state
      (fun _ after => Like ids base after) (fun _ _ => False) := by
  have byDirection : ∀ direction current, Like ids base current →
      Leads (uninstallAssociatingFlowByDirection store secgroup lport direction) current
        (fun _ after => Like ids base after) (fun _ _ => False) := by
    intro direction current likeCurrent
    unfold uninstallAssociatingFlowByDirection
    rw [leads_bind, leads_get]
    split
    · next associated =>
        rw [likeCurrent.associated, ← like.associated] at associated
        rcases stored associated with ⟨found, isFound⟩
        rw [leads_bind, getSecgroupConjIdAndPriority_eq isFound, leads_ofExcept_ok]
        exact likeCurrent.modFlow _
    · exact likeCurrent
  unfold SGApp.uninstallAssociatingFlows
  exact (byDirection .ingress state like).bind fun _ current likeCurrent =>
    byDirection .egress current likeCurrent

theorem Like.installConnectionTrackFlows (like : Like ids base state)
    (lport : LogicalPort) :
    Leads (SGApp.installConnectionTrackFlows lport) state
      (fun _ after => Like ids base after) (fun _ _ => False) := by
  unfold SGApp.installConnectionTrackFlows
  exact (like.installIpv4Ipv6Rules _).bind fun _ _ likeCurrent =>
    likeCurrent.installIpv4Ipv6Rules _

theorem Like.uninstallConnectionTrackFlows (like : Like ids base state)
    (lport : LogicalPort) :
    Leads (SGApp.uninstallConnectionTrackFlows lport) state
      (fun _ after => Like ids base after) (fun _ _ => False) := by
  unfold SGApp.uninstallConnectionTrackFlows
  exact (like.installIpv4Ipv6Rules _).bind fun _ _ likeCurrent =>
    likeCurrent.installIpv4Ipv6Rules _

/-! ## Ports that join and leave a group -/

theorem associated_insert (state : State) (secgroup : Id) (ports : List Id)
    (other : Id) :
    ({ state with
      secgroupAssociateLocalPorts :=
        state.secgroupAssociateLocalPorts.insert secgroup ports }).associated other =
      (decide (other = secgroup) || state.associated other) := by
  unfold State.associated
  dsimp only
  rw [Dict.lookup_insert_eq]
  split
  · next same => simp [same]
  · next different => simp [different]

/-- The flows of a group are installed when it gets its first local port. -/
theorem leads_installSecurityGroupFlows (healthy : Healthy store.secgroups members state)
    (numbered : Numbered ids state) (wellFormed : WellFormed netaddr store.secgroups ids)
    {secgroup : Id} (associated : state.associated secgroup = true)
    (remembers : ∀ other rule, other ≠ secgroup → state.associated other = true →
      IsRule store.secgroups other rule → Remembers state rule) :
    Leads (installSecurityGroupFlows netaddr store secgroup) state
      (fun _ after => Sound store.secgroups ids members after ∧
        Advances store.secgroups ids members state after)
      (fun _ _ => False) := by
  rcases healthy.stored secgroup associated with ⟨found, stored⟩
  unfold installSecurityGroupFlows
  refine ((Like.refl numbered).installSecurityGroupPermitFlowByDirection stored
    .ingress).bind ?_
  intro _ first likeFirst
  refine (likeFirst.installSecurityGroupPermitFlowByDirection stored .egress).bind ?_
  intro _ second likeSecond
  simp only [stored]
  have advances : Advances store.secgroups ids members state second :=
    Advances.like ⟨healthy, rfl, rfl, numbered⟩ likeSecond
  refine (Leads.loop (fun done current =>
      Advances store.secgroups ids members state current ∧
      (∀ rule ∈ done, Remembers current rule) ∧
      ∀ rule, Remembers state rule → Remembers current rule) found.rules ?_
    ⟨advances, fun _ member => absurd member List.not_mem_nil, fun rule kept =>
      kept.of_like likeSecond⟩).mono ?_
    fun _ _ impossible => impossible
  · rintro done rule rest current split ⟨advancesCurrent, doneKept, oldKept⟩
    have isRule : IsRule store.secgroups secgroup rule :=
      ⟨found, stored, by simp [split]⟩
    refine (leads_addSecurityGroupRule advancesCurrent.healthy advancesCurrent.numbered
      wellFormed isRule ((advancesCurrent.associated secgroup).trans associated)).mono ?_
      fun _ _ impossible => impossible
    rintro _ after ⟨advancesAfter, kept, others⟩
    refine ⟨advancesCurrent.trans advancesAfter, ?_, fun other before =>
      others other (oldKept other before)⟩
    intro other member
    rcases List.mem_append.mp member with before | isRule
    · exact others other (doneKept other before)
    · rw [List.mem_singleton.mp isRule]
      exact kept
  · rintro _ after ⟨advancesAfter, ruleKept, oldKept⟩
    refine ⟨⟨advancesAfter.healthy, advancesAfter.numbered, ?_⟩, advancesAfter⟩
    intro other rule isAssociated isRule
    by_cases same : other = secgroup
    · subst same
      rcases isRule with ⟨again, storedAgain, member⟩
      rw [stored] at storedAgain
      cases storedAgain
      exact ruleKept rule member
    · rw [advancesAfter.associated] at isAssociated
      exact oldKept rule (remembers other rule same isAssociated isRule)

/-- A local port is noted as one of the ports of a group. -/
theorem Sound.recordAssociatedPort (sound : Sound store.secgroups ids members state)
    (wellFormed : WellFormed netaddr store.secgroups ids) {secgroup : Id}
    {found : SecurityGroup} (stored : store.secgroups secgroup = some found)
    {lport : LogicalPort} (isMember : members secgroup lport.id) :
    Leads (SGApp.recordAssociatedPort netaddr store lport secgroup) state
      (fun _ after => Sound store.secgroups ids members after ∧ after.book = state.book)
      (fun _ _ => False) := by
  have healthy := sound.healthy
  -- The group that the port joins is stored, so it can have local ports.
  have joined : ∀ ports : List Id, ports.Nodup → (∀ id ∈ ports, members secgroup id) →
      Healthy store.secgroups members
        { state with
          secgroupAssociateLocalPorts :=
            state.secgroupAssociateLocalPorts.insert secgroup ports } := by
    intro ports distinct areMembers
    constructor
    · intro remote id rule found
      rcases healthy.serving remote id rule found with
        ⟨sameId, about, owner, isRule, associated⟩
      refine ⟨sameId, about, owner, isRule, ?_⟩
      rw [associated_insert, associated, Bool.or_true]
    · intro other associated
      rw [associated_insert] at associated
      by_cases same : other = secgroup
      · exact ⟨found, same ▸ stored⟩
      · exact healthy.stored other (by simpa [same] using associated)
    · intro other members isMembers
      rw [Dict.lookup_insert_eq] at isMembers
      split at isMembers
      · next same =>
          cases isMembers
          exact ⟨distinct, same ▸ areMembers⟩
      · exact healthy.ports other members isMembers
  unfold SGApp.recordAssociatedPort
  rw [leads_bind, leads_get]
  cases associated : state.secgroupAssociateLocalPorts.lookup secgroup with
  | none =>
      rw [leads_bind, leads_set]
      refine (leads_installSecurityGroupFlows
        (joined [lport.id] (List.nodup_singleton _) (by simpa using isMember))
        ⟨sound.numbered.known, sound.numbered.counted, sound.numbered.injective⟩
        wellFormed (by simp [associated_insert]) ?_).mono ?_
        fun _ _ impossible => impossible
      · intro other rule different isAssociated isRule
        rw [associated_insert] at isAssociated
        exact sound.remembers other rule (by simpa [different] using isAssociated) isRule
      · rintro _ after ⟨soundAfter, advances⟩
        exact ⟨soundAfter, advances.book⟩
  | some ports =>
      simp only
      split
      · exact ⟨sound, rfl⟩
      · next absent =>
          rw [leads_set]
          have old := healthy.ports secgroup ports associated
          have wasAssociated : state.associated secgroup = true := by
            unfold State.associated
            rw [associated]
            rfl
          refine ⟨⟨joined _ ?_ ?_, ⟨sound.numbered.known, sound.numbered.counted,
            sound.numbered.injective⟩, ?_⟩, rfl⟩
          · rw [List.nodup_append]
            refine ⟨old.1, List.nodup_singleton _, ?_⟩
            intro id member other isOther
            rw [List.mem_singleton.mp isOther]
            intro same
            exact absent (same ▸ member)
          · intro id member
            rcases List.mem_append.mp member with before | isPort
            · exact old.2 id before
            · rw [List.mem_singleton.mp isPort]
              exact isMember
          · intro other rule isAssociated isRule
            rw [associated_insert] at isAssociated
            by_cases same : other = secgroup
            · exact sound.remembers other rule (same ▸ wasAssociated) isRule
            · exact sound.remembers other rule (by simpa [same] using isAssociated) isRule

/-- The rules of a group are removed when its last local port leaves. Then no
rule of the group is kept under a remote group any more. -/
theorem leads_uninstallSecurityGroupFlow
    (sound : Sound store.secgroups ids members state)
    (wellFormed : WellFormed netaddr store.secgroups ids)
    (portsStored : PortsStored store state.secgroupAssociateLocalPorts) {secgroup : Id}
    (associated : state.associated secgroup = true) :
    Leads (uninstallSecurityGroupFlow store secgroup) state
      (fun _ after => Advances store.secgroups ids members state after ∧
        (∀ rule, IsRule store.secgroups secgroup rule → Forgotten after rule) ∧
        ∀ other rule, other ≠ secgroup → state.associated other = true →
          IsRule store.secgroups other rule → Remembers after rule)
      (fun _ _ => False) := by
  rcases sound.healthy.stored secgroup associated with ⟨found, stored⟩
  unfold uninstallSecurityGroupFlow
  refine ((Like.refl sound.numbered).uninstallSecurityGroupPermitFlowByDirection stored
    .ingress).bind ?_
  intro _ first likeFirst
  refine (likeFirst.uninstallSecurityGroupPermitFlowByDirection stored .egress).bind ?_
  intro _ second likeSecond
  simp only [stored]
  have advances : Advances store.secgroups ids members state second :=
    Advances.like ⟨sound.healthy, rfl, rfl, sound.numbered⟩ likeSecond
  have distinct := wellFormed.distinct secgroup found stored
  refine (Leads.loop (fun done current =>
      Advances store.secgroups ids members state current ∧
      (∀ rule ∈ done, Forgotten current rule) ∧
      ∀ other rule, state.associated other = true → IsRule store.secgroups other rule →
        (∀ removed ∈ done, rule.id ≠ removed.id) → Remembers current rule)
    found.rules ?_ ⟨advances, fun _ member => absurd member List.not_mem_nil,
      fun other rule isAssociated isRule _ => (sound.remembers other rule isAssociated isRule).of_like likeSecond⟩).mono ?_
    fun _ _ impossible => impossible
  · rintro done rule rest current split ⟨advancesCurrent, forgotten, kept⟩
    have isRule : IsRule store.secgroups secgroup rule :=
      ⟨found, stored, by simp [split]⟩
    have fresh : ∀ removed ∈ done, rule.id ≠ removed.id := by
      rw [split, List.map_append, List.map_cons, List.nodup_append] at distinct
      intro removed member same
      exact distinct.2.2 removed.id (List.mem_map_of_mem member) rule.id
        List.mem_cons_self same.symm
    refine (leads_removeSecurityGroupRule advancesCurrent.healthy advancesCurrent.numbered
      wellFormed (advancesCurrent.ports ▸ portsStored) isRule
      ((advancesCurrent.associated secgroup).trans associated)
      (kept secgroup rule associated isRule fresh)).mono ?_ fun _ _ impossible => impossible
    rintro _ after ⟨advancesAfter, ruleForgotten, stillForgotten, stillKept⟩
    refine ⟨advancesCurrent.trans advancesAfter, ?_, ?_⟩
    · intro other member
      rcases List.mem_append.mp member with before | isLast
      · exact stillForgotten other (forgotten other before)
      · rw [List.mem_singleton.mp isLast]
        exact ruleForgotten
    · intro other another isAssociated isAnother different
      exact stillKept another (different rule (by simp))
        (kept other another isAssociated isAnother fun removed member =>
          different removed (by simp [member]))
  · rintro _ after ⟨advancesAfter, forgotten, kept⟩
    refine ⟨advancesAfter, ?_, ?_⟩
    · rintro rule ⟨again, storedAgain, member⟩
      rw [stored] at storedAgain
      cases storedAgain
      exact forgotten rule member
    · intro other rule different isAssociated isRule
      apply kept other rule isAssociated isRule
      intro removed member same
      have isRemoved : IsRule store.secgroups secgroup removed := ⟨found, stored, member⟩
      have equal := wellFormed.unique _ _ _ _ isRule isRemoved same
      subst equal
      have owner := wellFormed.owner _ _ isRule
      rw [wellFormed.owner _ _ isRemoved] at owner
      exact different (Option.some.inj owner).symm

theorem Healthy.portsStored (healthy : Healthy secgroups members state)
    (stored : ∀ secgroup id, members secgroup id →
      ∃ info, storedPortInfo store id = .ok info) :
    PortsStored store state.secgroupAssociateLocalPorts :=
  fun secgroup ports found id member =>
    stored secgroup id ((healthy.ports secgroup ports found).2 id member)

/-- A local port is no more one of the ports of a group. -/
theorem Sound.removeAssociatedPort (sound : Sound store.secgroups ids members state)
    (wellFormed : WellFormed netaddr store.secgroups ids)
    (stored : ∀ secgroup id, members secgroup id →
      ∃ info, storedPortInfo store id = .ok info)
    {lport : LogicalPort} {lswitch : LogicalSwitch}
    (onSwitch : store.inventory.lswitch lport = .ok lswitch) (secgroup : Id) :
    Leads (SGApp.removeAssociatedPort store lport secgroup) state
      (fun _ after =>
        Sound store.secgroups ids
          (fun group id => members group id ∧ ¬(group = secgroup ∧ id = lport.id)) after ∧
        after.book = state.book)
      (fun _ _ => False) := by
  have healthy := sound.healthy
  -- Without the port in the list of the group there is nothing to do.
  have absent : (∀ ports, state.secgroupAssociateLocalPorts.lookup secgroup = some ports →
      lport.id ∉ ports) →
      Sound store.secgroups ids
        (fun group id => members group id ∧ ¬(group = secgroup ∧ id = lport.id)) state := by
    intro isAbsent
    refine ⟨⟨healthy.serving, healthy.stored, ?_⟩, sound.numbered, sound.remembers⟩
    intro group ports found
    refine ⟨(healthy.ports group ports found).1, fun id member =>
      ⟨(healthy.ports group ports found).2 id member, ?_⟩⟩
    rintro ⟨rfl, rfl⟩
    exact isAbsent ports found member
  unfold SGApp.removeAssociatedPort
  rw [leads_bind, leads_get]
  cases associated : state.secgroupAssociateLocalPorts.lookup secgroup with
  | none =>
      refine ⟨absent ?_, rfl⟩
      intro ports found
      rw [associated] at found
      cases found
  | some ports =>
      simp only
      split
      · next isPort =>
          have old := healthy.ports secgroup ports associated
          have wasAssociated : state.associated secgroup = true := by
            unfold State.associated
            rw [associated]
            rfl
          have associatedStill : ∀ other,
              ({ state with
                secgroupAssociateLocalPorts :=
                  state.secgroupAssociateLocalPorts.insert secgroup
                    (ports.erase lport.id) }).associated other =
                state.associated other := by
            intro other
            rw [associated_insert]
            by_cases same : other = secgroup
            · rw [same, wasAssociated, Bool.or_true]
            · simp [same]
          have shorter : Sound store.secgroups ids
              (fun group id => members group id ∧ ¬(group = secgroup ∧ id = lport.id))
              { state with
                secgroupAssociateLocalPorts :=
                  state.secgroupAssociateLocalPorts.insert secgroup
                    (ports.erase lport.id) } := by
            refine ⟨⟨?_, ?_, ?_⟩, ⟨sound.numbered.known, sound.numbered.counted,
              sound.numbered.injective⟩, ?_⟩
            · simp only [associatedStill]
              exact healthy.serving
            · simp only [associatedStill]
              exact healthy.stored
            · intro group members found
              rw [Dict.lookup_insert_eq] at found
              split at found
              · next same =>
                  cases found
                  refine ⟨old.1.erase _, fun id member => ⟨?_, ?_⟩⟩
                  · exact same ▸ old.2 id (List.mem_of_mem_erase member)
                  · rintro ⟨_, rfl⟩
                    exact old.1.not_mem_erase member
              · next different =>
                  refine ⟨(healthy.ports group members found).1, fun id member =>
                    ⟨(healthy.ports group members found).2 id member, ?_⟩⟩
                  exact fun same => different same.1
            · simp only [associatedStill]
              exact sound.remembers
          rw [leads_bind, leads_set, leads_bind]
          refine ((Like.refl shorter.numbered).deleteConntrackEntriesByLocalPortInfo
            onSwitch none secgroup).mono ?_ fun _ _ impossible => impossible
          intro _ current likeCurrent
          have soundCurrent := shorter.of_like likeCurrent
          split
          · next emptied =>
              refine (leads_uninstallSecurityGroupFlow soundCurrent wellFormed
                (soundCurrent.healthy.portsStored fun group id member =>
                  stored group id member.1) ?_).bind ?_
              · rw [likeCurrent.associated, associatedStill]
                exact wasAssociated
              · rintro _ after ⟨advances, forgotten, kept⟩
                rw [leads_modify]
                have stillThere : ∀ other,
                    ({ after with
                      secgroupAssociateLocalPorts :=
                        after.secgroupAssociateLocalPorts.erase secgroup }).associated
                        other = true ↔
                      other ≠ secgroup ∧ after.associated other = true := by
                  intro other
                  unfold State.associated
                  dsimp only
                  rw [Dict.lookup_erase_eq]
                  split <;> simp_all
                refine ⟨⟨⟨?_, ?_, ?_⟩, ⟨advances.numbered.known,
                  advances.numbered.counted, advances.numbered.injective⟩, ?_⟩,
                  advances.book.trans likeCurrent.book⟩
                · intro remote id rule found
                  rcases advances.healthy.serving remote id rule found with
                    ⟨sameId, about, owner, isRule, isAssociated⟩
                  refine ⟨sameId, about, owner, isRule, (stillThere owner).mpr
                    ⟨?_, isAssociated⟩⟩
                  rintro rfl
                  have gone : after.remoteRule remote rule.id = none :=
                    forgotten rule isRule remote
                  rw [sameId] at gone
                  have contradiction := found.symm.trans gone
                  cases contradiction
                · intro other isAssociated
                  exact advances.healthy.stored other ((stillThere other).mp isAssociated).2
                · intro group members found
                  rw [Dict.lookup_erase_eq] at found
                  split at found
                  · cases found
                  · exact advances.healthy.ports group members found
                · intro other rule isAssociated isRule
                  rcases (stillThere other).mp isAssociated with ⟨different, was⟩
                  rw [advances.associated] at was
                  exact kept other rule different was isRule
          · exact ⟨soundCurrent, likeCurrent.book⟩
      · next isAbsent =>
          refine ⟨absent ?_, rfl⟩
          intro members found
          rw [associated] at found
          cases found
          exact isAbsent

end SGApp
end Dragonflow
