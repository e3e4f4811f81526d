import Dragonflow.Controller.Apps.SecurityGroupRules

/-! # The flows of a remote group follow its addresses

A rule with a remote group has a flow for every network that the addresses of the group
make up. When addresses come or go, networks merge and split; only the flows of the
networks that are new or gone are touched.
-/

namespace Dragonflow

open Program

namespace IPNetwork

/-- The network has no bits outside of its mask. -/
def Canonical : IPNetwork → Prop
  | .v4 address length =>
      address.toNat &&& (2 ^ 32 - 2 ^ (32 - length.val)) = address.toNat
  | .v6 address length =>
      address.toNat &&& (2 ^ 128 - 2 ^ (128 - length.val)) = address.toNat

/-- The mask tells the length. -/
theorem length_of_mask {width first second : Nat} (firstFits : first ≤ width)
    (secondFits : second ≤ width)
    (same : 2 ^ width - 2 ^ (width - first) = 2 ^ width - 2 ^ (width - second)) :
    first = second := by
  have firstSmall : 2 ^ (width - first) ≤ 2 ^ width :=
    Nat.pow_le_pow_right (by omega) (by omega)
  have secondSmall : 2 ^ (width - second) ≤ 2 ^ width :=
    Nat.pow_le_pow_right (by omega) (by omega)
  have powers : 2 ^ (width - first) = 2 ^ (width - second) := by omega
  have exponents := Nat.pow_right_injective (le_refl 2) powers
  omega

/-- Networks without further bits are told apart by their matches. -/
theorem networkAndMask_inj {ethertype : Ethertype} {first second : IPNetwork}
    (firstIs : ethertype.hasNetwork first = true)
    (secondIs : ethertype.hasNetwork second = true) (firstCanonical : first.Canonical)
    (secondCanonical : second.Canonical)
    (same : first.networkAndMask = second.networkAndMask) : first = second := by
  cases first with
  | v4 address length =>
      cases second with
      | v4 other otherLength =>
          simp only [Canonical] at firstCanonical secondCanonical
          simp only [networkAndMask, FieldMatch.masked.injEq, firstCanonical,
            secondCanonical] at same
          have lengths := length_of_mask (by omega) (by omega) same.2
          rw [BitVec.eq_of_toNat_eq same.1, Fin.ext lengths]
      | v6 other otherLength => cases ethertype <;> simp [Ethertype.hasNetwork] at firstIs secondIs
  | v6 address length =>
      cases second with
      | v4 other otherLength => cases ethertype <;> simp [Ethertype.hasNetwork] at firstIs secondIs
      | v6 other otherLength =>
          simp only [Canonical] at firstCanonical secondCanonical
          simp only [networkAndMask, FieldMatch.masked.injEq, firstCanonical,
            secondCanonical] at same
          have lengths := length_of_mask (by omega) (by omega) same.2
          rw [BitVec.eq_of_toNat_eq same.1, Fin.ext lengths]

end IPNetwork

namespace SGApp

/-! ## Changes of an address set -/

section Changes

variable (netaddr : Netaddr) (cidrSet : Finset IPAddress)

/-- `_get_cidr_changes_after_adding_addresses` -/
def getCidrChangesAfterAddingAddresses (addressList : List IPAddress) :
    Finset IPAddress × List IPNetwork × List IPNetwork :=
  let newCidrSet := cidrSet ∪ addressList.toFinset
  (newCidrSet, getCidrDifference netaddr ⟨cidrSet, newCidrSet, []⟩)

/-- `_get_cidr_changes_after_removing_addresses` -/
def getCidrChangesAfterRemovingAddresses (addressList : List IPAddress) :
    Finset IPAddress × List IPNetwork × List IPNetwork :=
  let newCidrSet := cidrSet \ addressList.toFinset
  (newCidrSet, getCidrDifference netaddr ⟨cidrSet, newCidrSet, []⟩)

/-- `_get_cidr_changes_after_updating_addresses` -/
def getCidrChangesAfterUpdatingAddresses (addressesToAdd addressesToRemove : List IPAddress) :
    Finset IPAddress × List IPNetwork × List IPNetwork :=
  let newCidrSet := (cidrSet ∪ addressesToAdd.toFinset) \ addressesToRemove.toFinset
  (newCidrSet, getCidrDifference netaddr ⟨cidrSet, newCidrSet, []⟩)

end Changes

inductive AddressStep
  | adding (addresses : List IPAddress)
  | removing (addresses : List IPAddress)
  | updating (addressesToAdd addressesToRemove : List IPAddress)
  deriving DecidableEq, Repr

def AddressStep.changes (netaddr : Netaddr) (cidrSet : Finset IPAddress) :
    AddressStep → Finset IPAddress × List IPNetwork × List IPNetwork
  | .adding addresses => getCidrChangesAfterAddingAddresses netaddr cidrSet addresses
  | .removing addresses => getCidrChangesAfterRemovingAddresses netaddr cidrSet addresses
  | .updating toAdd toRemove =>
      getCidrChangesAfterUpdatingAddresses netaddr cidrSet toAdd toRemove

/-- Give a remote group its new addresses, and update the flows of one of the rules that
name it. -/
def processAddresses (netaddr : Netaddr) (store : Store) (secgroup : Id)
    (rule : SecurityGroupRule) (remote : Id) (step : AddressStep) : Action := do
  let state ← get
  let (newCidrSet, added, removed) :=
    step.changes netaddr (readSet state.book.secgroupAggregateAddresses remote)
  set { state with book := state.book.setAddresses remote newCidrSet }
  updateSecurityGroupRuleFlowsByAddresses netaddr store secgroup rule added removed

/-- Each kind of step gives the difference to the set that it ends with. -/
theorem AddressStep.changes_eq (netaddr : Netaddr) (cidrSet : Finset IPAddress)
    (step : AddressStep) :
    (step.changes netaddr cidrSet).2 =
      getCidrDifference netaddr ⟨cidrSet, (step.changes netaddr cidrSet).1, []⟩ := by
  cases step with
  | adding addresses => rfl
  | removing addresses => rfl
  | updating toAdd toRemove => rfl

/-! ## Matches of networks -/

section Flows

variable {netaddr : Netaddr} {store : Store} {state : State} {rule : SecurityGroupRule}
  {matchList : List OFPMatch} {pattern : OFPMatch} {cidrs : List IPNetwork}

theorem mem_matchesOfAddressList :
    pattern ∈ matchesOfAddressList rule (cidrs.map some) matchList ↔
      ∃ cidr ∈ cidrs, rule.ethertype.hasNetwork cidr = true ∧ ∃ base ∈ matchList,
        withAddress rule.ethertype rule.direction cidr.networkAndMask base = pattern := by
  unfold matchesOfAddressList
  simp only [List.mem_flatMap, List.mem_filter, List.mem_map]
  constructor
  · intro found
    rcases found with ⟨address, ⟨⟨cidr, member, rfl⟩, version⟩, base, isBase, same⟩
    exact ⟨cidr, member, version, base, isBase, same⟩
  · intro found
    rcases found with ⟨cidr, member, version, base, isBase, same⟩
    exact ⟨some cidr, ⟨⟨cidr, member, rfl⟩, version⟩, base, isBase, same⟩

/-- The networks of the other version are left out anyway. -/
theorem matchesOfAddressList_filter :
    matchesOfAddressList rule ((cidrs.filter rule.ethertype.hasNetwork).map some)
      matchList = matchesOfAddressList rule (cidrs.map some) matchList := by
  unfold matchesOfAddressList
  congr 1
  rw [List.filter_map, List.filter_map, List.filter_filter]
  congr 1
  apply List.filter_congr
  intro cidr _
  simp

theorem withAddress_inj {ethertype : Ethertype} {direction : Direction}
    {first second : FieldMatch} {base other : OFPMatch}
    (same : withAddress ethertype direction first base =
      withAddress ethertype direction second other) : first = second := by
  cases ethertype with
  | ipv4 =>
      cases direction with
      | ingress => exact Option.some.inj (congrArg OFPMatch.ipv4Src same)
      | egress => exact Option.some.inj (congrArg OFPMatch.ipv4Dst same)
  | ipv6 =>
      cases direction with
      | ingress => exact Option.some.inj (congrArg OFPMatch.ipv6Src same)
      | egress => exact Option.some.inj (congrArg OFPMatch.ipv6Dst same)

/-- What is used of the networks that `IPSet.iter_cidrs` gives. -/
structure CanonicalCidrs (netaddr : Netaddr) : Prop where
  canonical : ∀ addresses, ∀ cidr ∈ netaddr.iterCidrs addresses, cidr.Canonical
  empty : netaddr.iterCidrs ∅ = []

/-- The matches of the networks of a set. -/
abbrev matchesOf (netaddr : Netaddr) (rule : SecurityGroupRule) (matchList : List OFPMatch)
    (addresses : Finset IPAddress) : List OFPMatch :=
  matchesOfAddressList rule ((netaddr.iterCidrs addresses).map some) matchList

section Difference

variable (change : AddressChange)

/-- Two networks with a common match are the same. -/
theorem cidr_unique (cidrs : CanonicalCidrs netaddr) {first second : Finset IPAddress}
    {cidr other : IPNetwork} (member : cidr ∈ netaddr.iterCidrs first)
    (isOther : other ∈ netaddr.iterCidrs second)
    (version : rule.ethertype.hasNetwork cidr = true)
    (otherVersion : rule.ethertype.hasNetwork other = true) {base another : OFPMatch}
    (same : withAddress rule.ethertype rule.direction cidr.networkAndMask base =
      withAddress rule.ethertype rule.direction other.networkAndMask another) :
    cidr = other :=
  IPNetwork.networkAndMask_inj version otherVersion (cidrs.canonical _ _ member)
    (cidrs.canonical _ _ isOther) (withAddress_inj same)

theorem not_mem_matchesOf_after (cidrs : CanonicalCidrs netaddr)
    (removed : pattern ∈ matchesOfAddressList rule
      ((getCidrDifference netaddr change).2.map some) matchList) :
    pattern ∉ matchesOf netaddr rule matchList change.after := by
  intro still
  rcases mem_matchesOfAddressList.mp removed with ⟨cidr, gone, version, base, -, made⟩
  rcases mem_matchesOfAddressList.mp still with
    ⟨other, present, otherVersion, another, -, madeOther⟩
  rcases List.mem_filter.mp gone with ⟨before, notAfter⟩
  have same := cidr_unique cidrs before present version otherVersion
    (made.trans madeOther.symm)
  rw [same] at notAfter
  exact absurd present (of_decide_eq_true notAfter)

theorem mem_matchesOf_after (cidrs : CanonicalCidrs netaddr) :
    pattern ∈ matchesOf netaddr rule matchList change.after ↔
      pattern ∈ matchesOfAddressList rule
        ((getCidrDifference netaddr change).1.map some) matchList ∨
      (pattern ∈ matchesOf netaddr rule matchList change.before ∧
        pattern ∉ matchesOfAddressList rule
          ((getCidrDifference netaddr change).2.map some) matchList) := by
  constructor
  · intro present
    rcases mem_matchesOfAddressList.mp present with
      ⟨cidr, member, version, base, isBase, made⟩
    by_cases old : cidr ∈ netaddr.iterCidrs change.before
    · refine Or.inr ⟨mem_matchesOfAddressList.mpr
        ⟨cidr, old, version, base, isBase, made⟩, fun removed => ?_⟩
      exact not_mem_matchesOf_after change cidrs removed present
    · exact Or.inl (mem_matchesOfAddressList.mpr
        ⟨cidr, List.mem_filter.mpr ⟨member, decide_eq_true old⟩, version, base, isBase,
          made⟩)
  · intro either
    rcases either with added | ⟨before, notRemoved⟩
    · rcases mem_matchesOfAddressList.mp added with
        ⟨cidr, member, version, base, isBase, made⟩
      exact mem_matchesOfAddressList.mpr
        ⟨cidr, (List.mem_filter.mp member).1, version, base, isBase, made⟩
    · rcases mem_matchesOfAddressList.mp before with
        ⟨cidr, member, version, base, isBase, made⟩
      by_cases still : cidr ∈ netaddr.iterCidrs change.after
      · exact mem_matchesOfAddressList.mpr ⟨cidr, still, version, base, isBase, made⟩
      · exact absurd (mem_matchesOfAddressList.mpr
          ⟨cidr, List.mem_filter.mpr ⟨member, decide_eq_true still⟩, version, base, isBase,
            made⟩) notRemoved

end Difference

/-! ## The flows of a rule -/

/-- The flows that carry the number of a rule. -/
def State.flowsOf (state : State) (ruleId : Nat) : Flows :=
  fun table level pattern => (state.flows table level pattern).filter fun entry =>
    entry.cookie &&& ruleCookieMask = ruleId <<< 32 &&& ruleCookieMask

/-- The number that a rule has or gets next. -/
def State.numberOf (state : State) (rule : Id) : Nat :=
  (state.secgroupRuleMappings.lookup rule).getD (state.nextSecgroupRuleId + 1)

/-- The matches of the flows that a rule needs. There are none if a match or the cookie
cannot be made. -/
def neededBy (netaddr : Netaddr) (rule : SecurityGroupRule) (ruleId : Nat)
    (addresses : Finset IPAddress) : List OFPMatch :=
  match getRuleCookie ruleId, getRuleFlowsMatchExceptNetAddresses netaddr rule with
  | .ok _, .ok matchList => matchesOf netaddr rule matchList addresses
  | _, _ => []

theorem small_of_getRuleCookie {ruleId cookie : Nat}
    (made : getRuleCookie ruleId = .ok cookie) : ruleId < 2 ^ 32 := by
  unfold getRuleCookie ruleCookieMask at made
  dsimp only at made
  rw [← Nat.shiftLeft_and_distrib] at made
  split at made
  · next fits =>
      have low : ruleId &&& 0xffffffff = ruleId := cookie_inj fits
      have isMod : ruleId &&& 0xffffffff = ruleId % 2 ^ 32 :=
        Nat.and_two_pow_sub_one_eq_mod ruleId 32
      rw [low] at isMod
      omega
  · cases made

/-- A strict delete with the cookie of a rule takes one of its flows. -/
theorem flowsOf_deleteStrict (state : State) (direction : Direction) (priority ruleId : Nat)
    (item : OFPMatch) (table level : Nat) (pattern : OFPMatch) :
    State.flowsOf
      { state with
        flows := state.flows.apply
          { command := .deleteStrict, table := securityGroupTable direction, priority,
            pattern := item, instructions := [], cookie := ruleId <<< 32,
            cookieMask := ruleCookieMask } } ruleId table level pattern =
      if table = securityGroupTable direction ∧ level = priority ∧ pattern = item then none
      else state.flowsOf ruleId table level pattern := by
  unfold State.flowsOf FlowTable.apply FlowMod.selects
  dsimp only
  rw [Option.filter_filter]
  by_cases isItem : table = securityGroupTable direction ∧ level = priority ∧ pattern = item
  · rw [if_pos isItem]
    rcases isItem with ⟨rfl, rfl, rfl⟩
    rw [Option.filter_eq_none_iff]
    intro entry _
    simp [OFPMatch.covers_self]
  · rw [if_neg isItem]
    congr 1
    funext entry
    by_cases isTable : table = securityGroupTable direction
    · by_cases both : level = priority ∧ pattern = item
      · exact absurd ⟨isTable, both⟩ isItem
      · simp [both]
    · simp [isTable]

/-- Deleting the flows of a rule leaves those of other rules. -/
theorem leads_deleteFlows (rule : SecurityGroupRule) (priority : Nat) {ruleId : Nat}
    (small : ruleId < 2 ^ 32) (patterns : List OFPMatch) :
    Leads (installFlowsFromAddressList .deleteStrict rule priority ruleId [] patterns)
      state
      (fun _ after => after = { state with flows := after.flows } ∧
        ∀ table level pattern, after.flowsOf ruleId table level pattern =
          if table = securityGroupTable rule.direction ∧ level = priority ∧
              pattern ∈ patterns then none
          else state.flowsOf ruleId table level pattern)
      (fun _ _ => False) := by
  unfold installFlowsFromAddressList
  refine Leads.loop (fun done (current : State) =>
    current = { state with flows := current.flows } ∧
    ∀ table level pattern, current.flowsOf ruleId table level pattern =
      if table = securityGroupTable rule.direction ∧ level = priority ∧ pattern ∈ done then
        none
      else state.flowsOf ruleId table level pattern) patterns ?_ ⟨rfl, by simp⟩
  intro done item rest current _ holds
  rcases holds with ⟨same, flows⟩
  rw [leads_bind, getRuleCookie_eq small, leads_ofExcept_ok, modFlow, leads_modify]
  refine ⟨by rw [same], fun table level pattern => ?_⟩
  rw [flowsOf_deleteStrict, flows table level pattern]
  by_cases isItem : pattern = item
  · subst isItem
    by_cases isTable : table = securityGroupTable rule.direction <;>
      by_cases isLevel : level = priority <;> simp [isTable, isLevel]
  · simp [isItem]

theorem leads_addFlows (rule : SecurityGroupRule) (priority : Nat) {ruleId : Nat}
    (small : ruleId < 2 ^ 32) (instructions : List Instruction)
    (patterns : List OFPMatch) :
    Leads (installFlowsFromAddressList .add rule priority ruleId instructions patterns)
      state
      (fun _ after => after = { state with flows := after.flows } ∧
        ∀ table level pattern, after.flowsOf ruleId table level pattern =
          if table = securityGroupTable rule.direction ∧ level = priority ∧
              pattern ∈ patterns then
            some ⟨ruleId <<< 32, instructions⟩
          else state.flowsOf ruleId table level pattern)
      (fun _ _ => False) := by
  refine (leads_installFlows rule priority small instructions patterns).mono ?_
    fun _ _ impossible => impossible.elim
  intro _ after added
  refine ⟨added.1, fun table level pattern => ?_⟩
  unfold State.flowsOf
  rw [added.2]
  split
  · simp
  · rfl

/-! ## A rule follows its remote group -/

/-- The flows of the rule are those of the addresses. -/
structure Follows (netaddr : Netaddr) (secgroup : SecurityGroup) (rule : SecurityGroupRule)
    (remote : Id) (ruleId : Nat) (addresses : Finset IPAddress) (state : State) : Prop where
  mapped : state.secgroupRuleMappings.lookup rule.id = some ruleId
  associated : state.associated secgroup.id = true
  aggregated : readSet state.book.secgroupAggregateAddresses remote = addresses
  flows : ∀ table level pattern, state.flowsOf ruleId table level pattern =
    if table = securityGroupTable rule.direction ∧
        level = sgPriorityOffset + secgroup.uniqueKey ∧
        pattern ∈ neededBy netaddr rule ruleId addresses then
      some ⟨ruleId <<< 32, ruleInstructions secgroup.uniqueKey⟩
    else none

/-- No flow carries the number of the rule. -/
def Unmarked (rule : SecurityGroupRule) (state : State) : Prop :=
  ∀ table level pattern, state.flowsOf (state.numberOf rule.id) table level pattern = none

variable {secgroup : SecurityGroup} {remote : Id} {ruleId : Nat}
  {addresses : Finset IPAddress}

theorem neededBy_of_error {error : PyError}
    (raised : getRuleFlowsMatchExceptNetAddresses netaddr rule = .error error) :
    neededBy netaddr rule ruleId addresses = [] := by
  unfold neededBy
  rw [raised]
  split
  · next impossible => cases impossible
  · rfl

theorem neededBy_of_ok {cookie : Nat} (made : getRuleCookie ruleId = .ok cookie)
    (matched : getRuleFlowsMatchExceptNetAddresses netaddr rule = .ok matchList) :
    neededBy netaddr rule ruleId addresses = matchesOf netaddr rule matchList addresses := by
  unfold neededBy
  rw [made, matched]

theorem neededBy_of_overflow {error : PyError} (raised : getRuleCookie ruleId = .error error) :
    neededBy netaddr rule ruleId addresses = [] := by
  unfold neededBy
  rw [raised]

/-- Without a cookie nothing is sent. -/
theorem leads_overflow (command : FlowCommand) (rule : SecurityGroupRule) (priority : Nat)
    (instructions : List Instruction) (patterns : List OFPMatch) {error : PyError}
    (raised : getRuleCookie ruleId = .error error) :
    Leads (installFlowsFromAddressList command rule priority ruleId instructions patterns)
      state (fun _ after => after = state) (fun _ after => after = state) := by
  unfold installFlowsFromAddressList
  cases patterns with
  | nil => exact rfl
  | cons pattern patterns =>
      rw [List.forM_cons, leads_bind, leads_bind, raised]
      exact rfl

theorem exec_mapped {rule : Id} (mapped : state.secgroupRuleMappings.lookup rule =
    some ruleId) : exec (getSecurityRuleMapping rule) state = (.ok ruleId, state) := by
  unfold getSecurityRuleMapping
  rw [exec_bind_ok (exec_get state), mapped]
  rfl

theorem leads_numbering (rule : Id) :
    Leads (getSecurityRuleMapping rule) state
      (fun ruleId after => ruleId = state.numberOf rule ∧
        after.secgroupRuleMappings.lookup rule = some ruleId ∧
        after = { state with
          nextSecgroupRuleId := after.nextSecgroupRuleId
          secgroupRuleMappings := after.secgroupRuleMappings })
      (fun _ _ => False) := by
  unfold getSecurityRuleMapping State.numberOf
  rw [leads_bind, leads_get]
  cases mapped : state.secgroupRuleMappings.lookup rule with
  | some ruleId => exact ⟨rfl, mapped, rfl⟩
  | none =>
      simp only [leads_bind, leads_set, leads_pure]
      exact ⟨rfl, AList.lookup_insert _, trivial⟩

/-- The addresses of the flows of a rule with a remote group are those of the group. -/
theorem matches_addressesOf (cidrs : CanonicalCidrs netaddr) {book : AddressBook}
    (isRemote : rule.remoteGroupId = some remote) :
    matchesOfAddressList rule (addressesOf netaddr book rule) matchList =
      matchesOf netaddr rule matchList
        (readSet book.secgroupAggregateAddresses remote) := by
  unfold addressesOf readSet
  rw [isRemote]
  dsimp only
  cases book.secgroupAggregateAddresses.lookup remote with
  | none => rw [Option.getD_none, matchesOf, cidrs.empty, List.map_nil]
  | some addresses => exact matchesOfAddressList_filter

theorem flowsOf_congr {before after : State} (same : after.flows = before.flows) :
    after.flowsOf ruleId = before.flowsOf ruleId := by
  unfold State.flowsOf
  rw [same]

/-- Installing the flows of a rule that has none. -/
theorem Follows.install (cidrs : CanonicalCidrs netaddr)
    (stored : store.secgroups secgroup.id = some secgroup)
    (isRemote : rule.remoteGroupId = some remote)
    (associated : state.associated secgroup.id = true) (unmarked : Unmarked rule state) :
    Leads (installSecurityGroupRuleFlows netaddr store secgroup.id rule) state
      (fun _ after => Follows netaddr secgroup rule remote (state.numberOf rule.id)
        (readSet state.book.secgroupAggregateAddresses remote) after)
      (fun _ after => Follows netaddr secgroup rule remote (state.numberOf rule.id)
        (readSet state.book.secgroupAggregateAddresses remote) after) := by
  unfold installSecurityGroupRuleFlows
  rw [leads_bind, getSecgroupConjIdAndPriority_eq stored, leads_ofExcept_ok, leads_bind]
  refine (leads_numbering rule.id).mono ?_ fun _ _ impossible => impossible.elim
  intro ruleId numbered facts
  rcases facts with ⟨isNumber, mapped, same⟩
  have unmarkedNow : ∀ table level pattern,
      numbered.flowsOf ruleId table level pattern = none := by
    intro table level pattern
    have sameFlows : numbered.flows = state.flows := by rw [same]
    rw [flowsOf_congr sameFlows, isNumber]
    exact unmarked table level pattern
  have associatedNow : numbered.associated secgroup.id = true := by
    rw [same]
    exact associated
  have sameBook : numbered.book = state.book := by rw [same]
  have without : neededBy netaddr rule ruleId
        (readSet state.book.secgroupAggregateAddresses remote) = [] →
      Follows netaddr secgroup rule remote ruleId
        (readSet state.book.secgroupAggregateAddresses remote) numbered := by
    intro nothing
    refine ⟨mapped, associatedNow, by rw [sameBook], fun table level pattern => ?_⟩
    rw [unmarkedNow, nothing]
    simp
  rw [← isNumber, leads_bind]
  cases matched : getRuleFlowsMatchExceptNetAddresses netaddr rule with
  | error error => exact without (neededBy_of_error matched)
  | ok matchList =>
      rw [leads_ofExcept_ok, leads_bind, leads_get]
      cases made : getRuleCookie ruleId with
      | error error =>
          have nothing := without (neededBy_of_overflow made)
          refine (leads_overflow .add rule _ _ _ made).mono ?_ ?_
          · intro _ after sameAfter
            rw [sameAfter]
            exact nothing
          · intro _ after sameAfter
            rw [sameAfter]
            exact nothing
      | ok cookie =>
          refine (leads_addFlows rule _ (small_of_getRuleCookie made) _ _).mono ?_
            fun _ _ impossible => impossible.elim
          intro _ after added
          refine ⟨?_, ?_, ?_, fun table level pattern => ?_⟩
          · rw [added.1]
            exact mapped
          · rw [added.1]
            exact associatedNow
          · rw [added.1, ← sameBook]
          · rw [added.2, unmarkedNow, neededBy_of_ok made matched, sameBook,
              matches_addressesOf cidrs isRemote]

/-- Changing the addresses of the remote group. -/
theorem Follows.process (cidrs : CanonicalCidrs netaddr)
    (stored : store.secgroups secgroup.id = some secgroup)
    (follows : Follows netaddr secgroup rule remote ruleId addresses state)
    (step : AddressStep) :
    Leads (processAddresses netaddr store secgroup.id rule remote step) state
      (fun _ after => Follows netaddr secgroup rule remote ruleId
        (step.changes netaddr addresses).1 after)
      (fun _ after => Follows netaddr secgroup rule remote ruleId
        (step.changes netaddr addresses).1 after) := by
  rcases changed : step.changes netaddr addresses with ⟨newCidrSet, added, removed⟩
  have difference := step.changes_eq netaddr addresses
  rw [changed] at difference
  have addedIs : added =
      (getCidrDifference netaddr ⟨addresses, newCidrSet, []⟩).1 :=
    congrArg Prod.fst difference
  have removedIs : removed =
      (getCidrDifference netaddr ⟨addresses, newCidrSet, []⟩).2 :=
    congrArg Prod.snd difference
  unfold processAddresses updateSecurityGroupRuleFlowsByAddresses
  rw [leads_bind, leads_get, follows.aggregated, changed]
  dsimp only
  rw [leads_bind, leads_set, leads_bind, leads_get]
  generalize told : ({ state with
    book := state.book.setAddresses remote newCidrSet } : State) = current
  have mapped : current.secgroupRuleMappings.lookup rule.id = some ruleId := by
    rw [← told]
    exact follows.mapped
  have associated : current.associated secgroup.id = true := by
    rw [← told]
    exact follows.associated
  have aggregated : readSet current.book.secgroupAggregateAddresses remote = newCidrSet := by
    rw [← told]
    exact congrArg (Option.getD · ∅) (AList.lookup_insert _)
  have sameFlows : current.flowsOf ruleId = state.flowsOf ruleId := by
    rw [← told]
    rfl
  rw [if_pos associated, leads_bind, getSecgroupConjIdAndPriority_eq stored,
    leads_ofExcept_ok, leads_bind, leads_exec_ok (exec_mapped mapped), leads_bind]
  have without : (∀ other, neededBy netaddr rule ruleId other = []) →
      Follows netaddr secgroup rule remote ruleId newCidrSet current := by
    intro nothing
    refine ⟨mapped, associated, aggregated, fun table level pattern => ?_⟩
    rw [sameFlows, follows.flows, nothing, nothing]
  cases matched : getRuleFlowsMatchExceptNetAddresses netaddr rule with
  | error error => exact without fun other => neededBy_of_error matched
  | ok matchList =>
      rw [leads_ofExcept_ok, leads_bind]
      cases made : getRuleCookie ruleId with
      | error error =>
          have nothing := without fun other => neededBy_of_overflow made
          refine (leads_overflow .add rule _ _ _ made).mono ?_ ?_
          · intro _ after sameAfter
            rw [sameAfter]
            refine (leads_overflow .deleteStrict rule _ _ _ made).mono ?_ ?_
            · intro _ final sameFinal
              rw [sameFinal]
              exact nothing
            · intro _ final sameFinal
              rw [sameFinal]
              exact nothing
          · intro _ after sameAfter
            rw [sameAfter]
            exact nothing
      | ok cookie =>
          have small := small_of_getRuleCookie made
          refine (leads_addFlows rule _ small _ _).mono ?_
            fun _ _ impossible => impossible.elim
          intro _ middle afterAdding
          refine (leads_deleteFlows rule _ small _).mono ?_
            fun _ _ impossible => impossible.elim
          intro _ after afterDeleting
          refine ⟨?_, ?_, ?_, fun table level pattern => ?_⟩
          · rw [afterDeleting.1, afterAdding.1]
            exact mapped
          · rw [afterDeleting.1, afterAdding.1]
            exact associated
          · rw [afterDeleting.1, afterAdding.1]
            exact aggregated
          · have gone : pattern ∈ matchesOfAddressList rule (removed.map some) matchList →
                pattern ∉ matchesOf netaddr rule matchList newCidrSet := by
              rw [removedIs]
              exact not_mem_matchesOf_after ⟨addresses, newCidrSet, []⟩ cidrs
            have remains : pattern ∈ matchesOf netaddr rule matchList newCidrSet ↔
                pattern ∈ matchesOfAddressList rule (added.map some) matchList ∨
                (pattern ∈ matchesOf netaddr rule matchList addresses ∧
                  pattern ∉ matchesOfAddressList rule (removed.map some) matchList) := by
              rw [addedIs, removedIs]
              exact mem_matchesOf_after ⟨addresses, newCidrSet, []⟩ cidrs
            rw [afterDeleting.2, afterAdding.2, sameFlows, follows.flows,
              neededBy_of_ok made matched, neededBy_of_ok made matched]
            by_cases isPlace : table = securityGroupTable rule.direction ∧
                level = sgPriorityOffset + secgroup.uniqueKey
            · rcases isPlace with ⟨isTable, isLevel⟩
              simp only [isTable, isLevel, true_and]
              by_cases deleted : pattern ∈
                  matchesOfAddressList rule (removed.map some) matchList
              · rw [if_pos deleted, if_neg (gone deleted)]
              · rw [if_neg deleted]
                by_cases isAdded : pattern ∈
                    matchesOfAddressList rule (added.map some) matchList
                · rw [if_pos isAdded, if_pos (remains.mpr (Or.inl isAdded))]
                · rw [if_neg isAdded]
                  congr 1
                  exact propext ⟨fun before => remains.mpr (Or.inr ⟨before, deleted⟩),
                    fun now => ((remains.mp now).resolve_left isAdded).1⟩
            · have elsewhere : ∀ patterns : List OFPMatch,
                  ¬ (table = securityGroupTable rule.direction ∧
                    level = sgPriorityOffset + secgroup.uniqueKey ∧
                    pattern ∈ patterns) :=
                fun patterns place => isPlace ⟨place.1, place.2.1⟩
              rw [if_neg (elsewhere _), if_neg (elsewhere _), if_neg (elsewhere _),
                if_neg (elsewhere _)]

/-! ## Whole histories -/

/-- The addresses of the remote group after the steps. -/
def finalAddresses (netaddr : Netaddr) (addresses : Finset IPAddress)
    (steps : List AddressStep) : Finset IPAddress :=
  steps.foldl (fun current step => (step.changes netaddr current).1) addresses

theorem Follows.trace (cidrs : CanonicalCidrs netaddr)
    (stored : store.secgroups secgroup.id = some secgroup) (steps : List AddressStep)
    (follows : Follows netaddr secgroup rule remote ruleId addresses state) :
    Follows netaddr secgroup rule remote ruleId (finalAddresses netaddr addresses steps)
      (Program.trace (processAddresses netaddr store secgroup.id rule remote) steps
        state).2 := by
  induction steps generalizing addresses state with
  | nil => exact follows
  | cons step steps induction =>
      have next := follows.process cidrs stored step
      rcases executed : exec (processAddresses netaddr store secgroup.id rule remote step)
        state with ⟨error | value, after⟩
      · rw [leads_exec_error executed] at next
        simp only [Program.trace, executed]
        exact induction next
      · rw [leads_exec_ok executed] at next
        simp only [Program.trace, executed]
        exact induction next

theorem Follows.installed (cidrs : CanonicalCidrs netaddr)
    (stored : store.secgroups secgroup.id = some secgroup)
    (isRemote : rule.remoteGroupId = some remote)
    (associated : state.associated secgroup.id = true) (unmarked : Unmarked rule state) :
    Follows netaddr secgroup rule remote (state.numberOf rule.id)
      (readSet state.book.secgroupAggregateAddresses remote)
      (exec (installSecurityGroupRuleFlows netaddr store secgroup.id rule) state).2 := by
  have leads := Follows.install cidrs stored isRemote associated unmarked
  rcases executed : exec (installSecurityGroupRuleFlows netaddr store secgroup.id rule)
    state with ⟨error | value, after⟩
  · rwa [leads_exec_error executed] at leads
  · rwa [leads_exec_ok executed] at leads

section Histories

variable (netaddr : Netaddr) (store : Store) (secgroup : Id) (rule : SecurityGroupRule)
  (remote : Id)

/-- Install the flows of the rule, and then let the addresses come and go. -/
def maintained (steps : List AddressStep) (state : State) : State :=
  (Program.trace (processAddresses netaddr store secgroup rule remote) steps
    (exec (installSecurityGroupRuleFlows netaddr store secgroup rule) state).2).2

/-- Install the flows of the rule for a set of addresses. -/
def reinstalled (addresses : Finset IPAddress) (state : State) : State :=
  (exec (installSecurityGroupRuleFlows netaddr store secgroup rule)
    { state with book := state.book.setAddresses remote addresses }).2

end Histories

end Flows

/-- Whatever the addresses of the remote group went through, the flows of the rule are
those that it would get now. -/
theorem remote_flows_follow_addresses (netaddr : Netaddr) (cidrs : CanonicalCidrs netaddr)
    (store : Store) (secgroup : SecurityGroup)
    (stored : store.secgroups secgroup.id = some secgroup) (rule : SecurityGroupRule)
    (remote : Id) (isRemote : rule.remoteGroupId = some remote) (state : State)
    (associated : state.associated secgroup.id = true) (unmarked : Unmarked rule state)
    (steps : List AddressStep) :
    (maintained netaddr store secgroup.id rule remote steps state).flowsOf
        (state.numberOf rule.id) =
      (reinstalled netaddr store secgroup.id rule remote
        (finalAddresses netaddr (readSet state.book.secgroupAggregateAddresses remote) steps)
        state).flowsOf (state.numberOf rule.id) := by
  have before := (Follows.installed cidrs stored isRemote associated unmarked).trace cidrs
    stored steps
  generalize finalAddresses netaddr (readSet state.book.secgroupAggregateAddresses remote)
    steps = addresses at before ⊢
  have associatedThen : State.associated
      { state with book := state.book.setAddresses remote addresses } secgroup.id = true :=
    associated
  have afresh := Follows.installed cidrs stored isRemote associatedThen unmarked
  have aggregated : readSet (state.book.setAddresses remote
      addresses).secgroupAggregateAddresses remote = addresses :=
    congrArg (Option.getD · ∅) (AList.lookup_insert _)
  rw [aggregated] at afresh
  funext table level pattern
  exact (before.flows table level pattern).trans (afresh.flows table level pattern).symm

namespace Sample

/-- TCP to port 80 from whoever is in the group. -/
def peerRule : SecurityGroupRule :=
  { id := "peers", direction := .ingress, ethertype := .ipv4, protocol := some protoNumTcp
    portRangeMin := some 80, portRangeMax := some 82, remoteGroupId := some "web"
    securityGroupId := some "web" }

def web : SecurityGroup := ⟨"web", 7, [peerRule]⟩

def store : Store where
  secgroups := fun id => if id = "web" then some web else none
  lports := fun _ => none
  inventory := ⟨fun _ => none, fun _ => none⟩

/-- A port of the group is here. -/
def associatedState : State :=
  { State.initial with
    secgroupAssociateLocalPorts :=
      (∅ : Dict Id (List Id)).insert "web" ["port"] }

theorem sample_cidrs : CanonicalCidrs Netaddr.sample where
  canonical := by
    intro addresses cidr member
    simp only [Netaddr.sample, List.mem_map, List.mem_filter, List.mem_cons,
      List.not_mem_nil, or_false] at member
    rcases member with ⟨bits, ⟨rfl | rfl, -⟩, rfl⟩
    · change _ &&& _ = _
      decide
    · change _ &&& _ = _
      decide
  empty := by simp [Netaddr.sample]

def history : List AddressStep :=
  [.adding [.v4 0x0a000001], .removing [.v4 0x0a000001],
    .updating [.v4 0x0a000001, .v4 0x0a000002] [.v4 0x0a000001]]

end Sample

open Sample in
theorem peer_flows_follow_addresses :
    (maintained Netaddr.sample store "web" peerRule "web" history
      associatedState).flowsOf 1 =
    (reinstalled Netaddr.sample store "web" peerRule "web"
      (finalAddresses Netaddr.sample ∅ history) associatedState).flowsOf 1 :=
  remote_flows_follow_addresses Netaddr.sample sample_cidrs store web rfl peerRule "web" rfl
    associatedState rfl (fun _ _ _ => rfl) history

end SGApp

end Dragonflow
