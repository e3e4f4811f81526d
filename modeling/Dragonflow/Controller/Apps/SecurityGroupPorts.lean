import Dragonflow.Controller.Apps.SecurityGroupBook
import Dragonflow.Controller.Apps.SecurityGroupFlows

/-! # Ports in security groups

What the events of a port do to the addresses of its groups, and when the book
tells the addresses of the bound ports after an event if it did before.
-/

namespace Dragonflow
namespace SGApp

open Program

/-! ## Groups that a port joins and leaves -/

section Ports

variable {netaddr : Netaddr} {store : Store} {ids : Finset Id}
  {members : Id → Id → Prop} {state : State} {holdings : Holdings Id Id IPAddress}
  {lport original : LogicalPort}

/-- The flow side is in order, and the book tells who has which addresses. -/
structure Accurate (secgroups : Id → Option SecurityGroup) (ids : Finset Id)
    (members : Id → Id → Prop) (holdings : Holdings Id Id IPAddress) (state : State) :
    Prop where
  sound : Sound secgroups ids members state
  tells : state.book.ledger.Tells holdings

/-- A loop over groups that changes what each of them has through one port. -/
theorem Accurate.loop {secgroups : Id → Option SecurityGroup} {body : Id → Action}
    {groups : List Id} (id : Id) (change : Set IPAddress → Set IPAddress)
    (remaining : List Id → Id → Id → Prop)
    (idempotent : ∀ items, change (change items) = change items)
    (step : ∀ done group rest current (before : Holdings Id Id IPAddress),
      groups = done ++ group :: rest →
      Accurate secgroups ids (remaining done) before current →
      Leads (body group) current
        (fun _ after => Accurate secgroups ids (remaining (done ++ [group]))
          (before.set group id (change (before group id))) after) (fun _ _ => False))
    (accurate : Accurate secgroups ids (remaining []) holdings state) :
    Leads (forM groups body) state
      (fun _ after => Accurate secgroups ids (remaining groups)
        (holdings.mapAll groups id change) after) (fun _ _ => False) := by
  refine Leads.loop (fun done current => Accurate secgroups ids (remaining done)
    (holdings.mapAll done id change) current) groups ?_ ?_
  · intro done group rest current split holds
    rw [Holdings.mapAll_concat _ _ _ _ idempotent]
    exact step done group rest current _ split holds
  · rw [Holdings.mapAll_nil]
    exact accurate

theorem Accurate.of_like {secgroups : Id → Option SecurityGroup} {after : State}
    (accurate : Accurate secgroups ids members holdings state) (like : Like ids state after) :
    Accurate secgroups ids members holdings after :=
  ⟨accurate.sound.of_like like, like.book ▸ accurate.tells⟩

/-- What the handlers of one event can rely on. -/
structure Context (netaddr : Netaddr) (store : Store) (ids : Finset Id)
    (members : Id → Id → Prop) : Prop where
  wellFormed : WellFormed netaddr store.secgroups ids
  stored : ∀ secgroup id, members secgroup id →
    ∃ info, storedPortInfo store id = .ok info

theorem Accurate.addRemotePortAssociating (context : Context netaddr store ids members)
    (accurate : Accurate store.secgroups ids members holdings state) (secgroup : Id) :
    Leads (SGApp.addRemotePortAssociating netaddr store lport secgroup) state
      (fun _ after => Accurate store.secgroups ids members
        (holdings.set secgroup lport.id (holdings secgroup lport.id ∪ lport.allIps)) after)
      (fun _ _ => False) := by
  refine (accurate.sound.associateSecgroupLportAddresses context.wellFormed secgroup
    lport).mono ?_ fun _ _ impossible => impossible
  intro _ after like
  refine ⟨(accurate.sound.withBook _).of_like like, ?_⟩
  rw [like.book, AddressBook.ledger_associate]
  exact accurate.tells.join secgroup lport.id lport.allIps

theorem Accurate.removeRemotePortAssociating (context : Context netaddr store ids members)
    (accurate : Accurate store.secgroups ids members holdings state) (secgroup : Id) :
    Leads (SGApp.removeRemotePortAssociating netaddr store lport secgroup) state
      (fun _ after => Accurate store.secgroups ids members
        (holdings.set secgroup lport.id (holdings secgroup lport.id \ lport.allIps)) after)
      (fun _ _ => False) := by
  refine (accurate.sound.disassociateSecgroupLportAddresses context.wellFormed
    (accurate.sound.healthy.portsStored context.stored) secgroup lport).mono ?_
    fun _ _ impossible => impossible
  intro _ after like
  refine ⟨(accurate.sound.withBook _).of_like like, ?_⟩
  rw [like.book, AddressBook.ledger_disassociate accurate.tells]
  exact accurate.tells.leave secgroup lport.id lport.allIps

/-- What an address change does to the addresses of a port in a group. -/
def readdress (lport original : LogicalPort) (addresses : Set IPAddress) :
    Set IPAddress :=
  (addresses ∪ ↑(lport.allIps \ original.allIps)) \ ↑(original.allIps \ lport.allIps)

theorem Accurate.updatePortAddressesProcess (context : Context netaddr store ids members)
    (accurate : Accurate store.secgroups ids members holdings state) (secgroup : Id) :
    Leads (SGApp.updatePortAddressesProcess netaddr store lport original secgroup) state
      (fun _ after => Accurate store.secgroups ids members
        (holdings.set secgroup lport.id
          (readdress lport original (holdings secgroup lport.id))) after)
      (fun _ _ => False) := by
  refine (accurate.sound.updatePortAddressesProcess context.wellFormed
    (accurate.sound.healthy.portsStored context.stored) lport original secgroup).mono ?_
    fun _ _ impossible => impossible
  intro _ after like
  refine ⟨(accurate.sound.withBook _).of_like like, ?_⟩
  have told := (accurate.tells.join secgroup lport.id
    (lport.allIps \ original.allIps)).leave secgroup lport.id
    (original.allIps \ lport.allIps)
  rw [Holdings.set_same, Holdings.set_set] at told
  rw [like.book, AddressBook.ledger_update]
  exact told

theorem Accurate.addLocalPortAssociating (context : Context netaddr store ids members)
    (accurate : Accurate store.secgroups ids members holdings state) {secgroup : Id}
    {found : SecurityGroup} (listed : store.secgroups secgroup = some found)
    (isMember : members secgroup lport.id) :
    Leads (SGApp.addLocalPortAssociating netaddr store lport secgroup) state
      (fun _ after => Accurate store.secgroups ids members
        (holdings.set secgroup lport.id (holdings secgroup lport.id ∪ lport.allIps)) after)
      (fun _ _ => False) := by
  unfold SGApp.addLocalPortAssociating
  refine (accurate.addRemotePortAssociating context secgroup).bind ?_
  intro _ first accurateFirst
  refine (accurateFirst.sound.recordAssociatedPort context.wellFormed listed isMember).bind ?_
  rintro _ second ⟨soundSecond, sameBook⟩
  refine ((Like.refl soundSecond.numbered).installAssociatingFlows listed lport).mono ?_
    fun _ _ impossible => impossible
  intro _ after like
  exact Accurate.of_like ⟨soundSecond, sameBook ▸ accurateFirst.tells⟩ like

theorem Accurate.removeLocalPortAssociating (context : Context netaddr store ids members)
    (accurate : Accurate store.secgroups ids members holdings state)
    {lswitch : LogicalSwitch} (onSwitch : store.inventory.lswitch lport = .ok lswitch)
    (secgroup : Id) :
    Leads (SGApp.removeLocalPortAssociating netaddr store lport secgroup) state
      (fun _ after => Accurate store.secgroups ids
        (fun group id => members group id ∧ ¬(group = secgroup ∧ id = lport.id))
        (holdings.set secgroup lport.id (holdings secgroup lport.id \ lport.allIps)) after)
      (fun _ _ => False) := by
  unfold SGApp.removeLocalPortAssociating
  refine ((Like.refl accurate.sound.numbered).uninstallAssociatingFlows
    (accurate.sound.healthy.stored secgroup) lport).bind ?_
  intro _ first likeFirst
  refine ((accurate.of_like likeFirst).removeRemotePortAssociating context secgroup).bind ?_
  intro _ second accurateSecond
  refine (accurateSecond.sound.removeAssociatedPort context.wellFormed context.stored
    onSwitch secgroup).mono ?_ fun _ _ impossible => impossible
  rintro _ after ⟨soundAfter, sameBook⟩
  exact ⟨soundAfter, sameBook ▸ accurateSecond.tells⟩

end Ports

/-! ## Which groups change -/

/-- Groups that are listed more often than before are joined, and groups that
are listed less often are left. -/
theorem secgroupChange (secgroups original : List Id) (group : Id) :
    let change := getAddedAndRemovedAndUnchangedSecgroups secgroups original
    (group ∈ change.added ↔ original.count group < secgroups.count group) ∧
    (group ∈ change.removed ↔ secgroups.count group < original.count group) ∧
    (group ∈ change.unchanged ↔ group ∈ secgroups ∧ group ∈ original) := by
  unfold getAddedAndRemovedAndUnchangedSecgroups
  suffices general : ∀ change : SecgroupChange,
      let final := secgroups.foldl (fun change item =>
        if item ∈ change.removed then
          { change with
            removed := change.removed.erase item
            unchanged := change.unchanged ++ [item] }
        else { change with added := change.added ++ [item] }) change
      (group ∈ final.added ↔
        group ∈ change.added ∨ change.removed.count group < secgroups.count group) ∧
      final.removed.count group =
        change.removed.count group - secgroups.count group ∧
      (group ∈ final.unchanged ↔
        group ∈ change.unchanged ∨ group ∈ secgroups ∧ group ∈ change.removed) by
    rcases general ⟨[], original, []⟩ with ⟨added, removed, unchanged⟩
    refine ⟨by simpa using added, ?_, by simpa using unchanged⟩
    rw [← List.count_pos_iff, removed]
    dsimp only
    omega
  induction secgroups with
  | nil => simp
  | cons head tail induction =>
      intro change
      simp only [List.foldl_cons]
      by_cases listed : head ∈ change.removed
      · rw [if_pos listed]
        rcases induction { change with
          removed := change.removed.erase head
          unchanged := change.unchanged ++ [head] } with ⟨added, removed, unchanged⟩
        have present := List.count_pos_iff.mpr listed
        refine ⟨added.trans ?_, removed.trans ?_, unchanged.trans ?_⟩
        · by_cases same : group = head
          · subst same
            rw [List.count_erase_self, List.count_cons_self]
            have : change.removed.count group - 1 < tail.count group ↔
                change.removed.count group < tail.count group + 1 := by omega
            simp only [this]
          · rw [List.count_erase_of_ne same, List.count_cons_of_ne (Ne.symm same)]
        · by_cases same : group = head
          · subst same
            rw [List.count_erase_self, List.count_cons_self]
            omega
          · rw [List.count_erase_of_ne same, List.count_cons_of_ne (Ne.symm same)]
        · by_cases same : group = head
          · subst same
            simp [listed]
          · simp [same, List.mem_erase_of_ne same]
      · rw [if_neg listed]
        rcases induction { change with added := change.added ++ [head] } with
          ⟨added, removed, unchanged⟩
        have absent := List.count_eq_zero_of_not_mem listed
        refine ⟨added.trans ?_, removed.trans ?_, unchanged.trans ?_⟩
        · by_cases same : group = head
          · subst same
            simp [absent]
          · simp [same, Ne.symm same]
        · by_cases same : group = head
          · subst same
            dsimp only
            omega
          · rw [List.count_cons_of_ne (Ne.symm same)]
        · by_cases same : group = head
          · subst same
            simp [listed]
          · simp [same]

/-! ## Histories of port events -/

/-- The bound ports in their current versions. -/
abbrev BoundPorts := Id → Option (Locality × LogicalPort)

/-- What the bound ports bring to the groups that they list. -/
def BoundPorts.holdings (bound : BoundPorts) : Holdings Id Id IPAddress :=
  fun group id => { ip | ∃ kind lport, bound id = some (kind, lport) ∧
    group ∈ lport.securityGroups ∧ ip ∈ lport.allIps }

/-- The local ports of a group. -/
def BoundPorts.members (bound : BoundPorts) (group id : Id) : Prop :=
  ∃ lport, bound id = some (.here, lport) ∧ group ∈ lport.securityGroups

/-- An event of a port, with the store at that time. -/
structure Delivery where
  store : Store
  event : PortEvent
  lport : LogicalPort

/-- The bound ports after an event. Ports are bound and unbound in turn, with
the same kind, and an event carries the current version of the port. -/
def follow (bound : BoundPorts) (delivery : Delivery) : Option BoundPorts :=
  let lport := delivery.lport
  match delivery.event with
  | .bind kind =>
      if bound lport.id = none then
        some (Function.update bound lport.id (some (kind, lport)))
      else none
  | .unbind kind =>
      if bound lport.id = some (kind, lport) then
        some (Function.update bound lport.id none)
      else none
  | .updated kind original =>
      if bound lport.id = some (kind, original) then
        some (Function.update bound lport.id (some (kind, lport)))
      else none

/-- The store has what the flows and the connection tracker need. -/
structure Provided (secgroups : Id → Option SecurityGroup) (bound : BoundPorts)
    (delivery : Delivery) : Prop where
  groups : delivery.store.secgroups = secgroups
  listed : ∀ group ∈ delivery.lport.securityGroups, ∃ found, secgroups group = some found
  stored : ∀ id, bound id ≠ none ∨ id = delivery.lport.id →
    ∃ info, storedPortInfo delivery.store id = .ok info
  onSwitch : ∃ lswitch, delivery.store.inventory.lswitch delivery.lport = .ok lswitch
  wasOnSwitch : ∀ kind original, delivery.event = .updated kind original →
    ∃ lswitch, delivery.store.inventory.lswitch original = .ok lswitch

/-- The updates that the book survives: a remote port that leaves a group keeps
its addresses, and a port that lists a group less often than before, but still
lists it, changes all its addresses. -/
def Traceable (delivery : Delivery) : Prop :=
  match delivery.event with
  | .updated kind original =>
      (kind = .elsewhere → ∀ group ∈ original.securityGroups,
        group ∉ delivery.lport.securityGroups →
        original.allIps ⊆ delivery.lport.allIps) ∧
      ∀ group ∈ delivery.lport.securityGroups,
        delivery.lport.securityGroups.count group < original.securityGroups.count group →
        Disjoint original.allIps delivery.lport.allIps
  | _ => True

def Keyed (bound : BoundPorts) : Prop :=
  ∀ id kind lport, bound id = some (kind, lport) → lport.id = id

/-- The addresses of one port in one group after an update. -/
theorem readdressed {lport original : LogicalPort} {leaving : Finset IPAddress}
    {group : Id} {addresses : Set IPAddress}
    (brought : addresses = { ip | group ∈ original.securityGroups ∧ ip ∈ original.allIps })
    (left : group ∈ original.securityGroups → group ∉ lport.securityGroups →
      original.allIps ⊆ leaving)
    (shrunk : group ∈ lport.securityGroups →
      lport.securityGroups.count group < original.securityGroups.count group →
      Disjoint original.allIps lport.allIps)
    (known : leaving = original.allIps ∨ leaving = lport.allIps) :
    let change := getAddedAndRemovedAndUnchangedSecgroups lport.securityGroups
      original.securityGroups
    let joined := if group ∈ change.added then addresses ∪ ↑lport.allIps else addresses
    let remaining := if group ∈ change.removed then joined \ ↑leaving else joined
    (if group ∈ change.unchanged then readdress lport original remaining else remaining) =
      { ip | group ∈ lport.securityGroups ∧ ip ∈ lport.allIps } := by
  intro change joined remaining
  rcases secgroupChange lport.securityGroups original.securityGroups group with
    ⟨added, removed, unchanged⟩
  simp only [change, joined, remaining, added, removed, unchanged]
  by_cases new : group ∈ lport.securityGroups <;>
    by_cases old : group ∈ original.securityGroups
  · -- The group stays; listing it less often is leaving it for a moment.
    rw [if_pos ⟨new, old⟩]
    by_cases less : lport.securityGroups.count group < original.securityGroups.count group
    · have apart := shrunk new less
      have notMore :
          ¬original.securityGroups.count group < lport.securityGroups.count group := by
        omega
      rw [if_pos less, if_neg notMore, brought]
      ext ip
      have disjoint : ip ∈ original.allIps → ip ∉ lport.allIps :=
        fun was => Finset.disjoint_left.mp apart was
      by_cases was : ip ∈ original.allIps
      · have isNot := disjoint was
        rcases known with rfl | rfl <;> simp [readdress, old, new, was, isNot]
      · rcases known with rfl | rfl <;> simp [readdress, old, new, was]
    · rw [if_neg less, brought]
      ext ip
      by_cases was : ip ∈ original.allIps <;> by_cases isNow : ip ∈ lport.allIps <;>
        split <;> simp [readdress, old, new, was, isNow]
  · have unlisted : original.securityGroups.count group = 0 :=
      List.count_eq_zero_of_not_mem old
    have listed := List.count_pos_iff.mpr new
    rw [if_neg (by simp [old]), if_neg (by omega), if_pos (by omega), brought]
    ext ip
    simp [old, new]
  · have unlisted : lport.securityGroups.count group = 0 :=
      List.count_eq_zero_of_not_mem new
    have listed := List.count_pos_iff.mpr old
    have included := left old new
    rw [if_neg (by simp [new]), if_pos (by omega), if_neg (by omega), brought]
    ext ip
    have was : ip ∈ original.allIps → ip ∈ leaving := fun member => included member
    simpa [old, new] using was
  · have unlisted : lport.securityGroups.count group = 0 :=
      List.count_eq_zero_of_not_mem new
    have neverListed : original.securityGroups.count group = 0 :=
      List.count_eq_zero_of_not_mem old
    rw [if_neg (by simp [new]), if_neg (by omega), if_neg (by omega), brought]
    ext ip
    simp [old, new]

namespace BoundPorts

variable {bound : BoundPorts} {id group : Id}

theorem holdings_some {kind : Locality} {lport : LogicalPort}
    (isBound : bound id = some (kind, lport)) :
    bound.holdings group id =
      { ip | group ∈ lport.securityGroups ∧ ip ∈ lport.allIps } := by
  ext ip
  constructor
  · rintro ⟨_, _, found, holds⟩
    rw [isBound] at found
    cases found
    exact holds
  · intro holds
    exact ⟨kind, lport, isBound, holds⟩

theorem holdings_none (isFree : bound id = none) : bound.holdings group id = ∅ := by
  ext ip
  constructor
  · rintro ⟨_, _, found, _⟩
    rw [isFree] at found
    cases found
  · exact fun impossible => absurd impossible (Set.notMem_empty ip)

theorem holdings_update_ne {other : Id} (value : Option (Locality × LogicalPort))
    (different : other ≠ id) :
    BoundPorts.holdings (Function.update bound id value) group other =
      bound.holdings group other := by
  unfold holdings
  rw [Function.update_of_ne different]

theorem members_update_ne {other : Id} (value : Option (Locality × LogicalPort))
    (different : other ≠ id) :
    BoundPorts.members (Function.update bound id value) group other ↔
      bound.members group other := by
  unfold members
  rw [Function.update_of_ne different]

end BoundPorts

section Handlers

variable {netaddr : Netaddr} {secgroups : Id → Option SecurityGroup} {ids : Finset Id}
  {state : State} {bound : BoundPorts} {store : Store} {lport original : LogicalPort}

/-- The local ports while an event of a port is handled. -/
def membersDuring (bound : BoundPorts) (lport : LogicalPort) (group id : Id) : Prop :=
  bound.members group id ∨ id = lport.id ∧ group ∈ lport.securityGroups

theorem union_idempotent (addresses items : Set IPAddress) :
    items ∪ addresses ∪ addresses = items ∪ addresses := by
  rw [Set.union_assoc, Set.union_self]

theorem diff_idempotent (addresses items : Set IPAddress) :
    (items \ addresses) \ addresses = items \ addresses := by
  rw [sdiff_sdiff, sup_idem]

theorem readdress_idempotent (lport original : LogicalPort) (items : Set IPAddress) :
    readdress lport original (readdress lport original items) =
      readdress lport original items := by
  ext ip
  by_cases was : ip ∈ original.allIps <;> by_cases isNow : ip ∈ lport.allIps <;>
    simp [readdress, was, isNow]

/-- A port joins all its groups. -/
theorem joined_all (isFree : bound lport.id = none) (kind : Locality) :
    bound.holdings.mapAll lport.securityGroups lport.id (fun items =>
      items ∪ ↑lport.allIps) =
      BoundPorts.holdings (Function.update bound lport.id (some (kind, lport))) := by
  funext group id
  unfold Holdings.mapAll
  by_cases isPort : id = lport.id
  · subst isPort
    rw [BoundPorts.holdings_some (Function.update_self ..),
      BoundPorts.holdings_none isFree]
    ext ip
    split <;> simp_all
  · rw [if_neg fun both => isPort both.1, BoundPorts.holdings_update_ne _ isPort]

/-- A port leaves all its groups. -/
theorem left_all {kind : Locality} (isBound : bound lport.id = some (kind, lport)) :
    bound.holdings.mapAll lport.securityGroups lport.id (fun items =>
      items \ ↑lport.allIps) =
      BoundPorts.holdings (Function.update bound lport.id none) := by
  funext group id
  unfold Holdings.mapAll
  by_cases isPort : id = lport.id
  · subst isPort
    rw [BoundPorts.holdings_none (Function.update_self ..),
      BoundPorts.holdings_some isBound]
    ext ip
    split <;> simp_all
  · rw [if_neg fun both => isPort both.1, BoundPorts.holdings_update_ne _ isPort]

/-- A port changes. -/
theorem changed_all {kind : Locality} {leaving : Finset IPAddress}
    (isBound : bound lport.id = some (kind, original))
    (left : ∀ group ∈ original.securityGroups, group ∉ lport.securityGroups →
      original.allIps ⊆ leaving)
    (shrunk : ∀ group ∈ lport.securityGroups,
      lport.securityGroups.count group < original.securityGroups.count group →
      Disjoint original.allIps lport.allIps)
    (known : leaving = original.allIps ∨ leaving = lport.allIps) :
    let change := getAddedAndRemovedAndUnchangedSecgroups lport.securityGroups
      original.securityGroups
    (((bound.holdings.mapAll change.added lport.id (fun items =>
        items ∪ ↑lport.allIps)).mapAll change.removed lport.id (fun items =>
        items \ ↑leaving)).mapAll change.unchanged lport.id
        (readdress lport original)) =
      BoundPorts.holdings (Function.update bound lport.id (some (kind, lport))) := by
  intro change
  funext group id
  by_cases isPort : id = lport.id
  · subst isPort
    rw [BoundPorts.holdings_some (Function.update_self ..)]
    simp only [Holdings.mapAll, true_and]
    exact readdressed (BoundPorts.holdings_some isBound) (left group) (shrunk group) known
  · simp only [Holdings.mapAll, isPort, false_and, if_false]
    rw [BoundPorts.holdings_update_ne _ isPort]

theorem members_of_joined (isFree : bound lport.id = none) {group id : Id}
    (member : membersDuring bound lport group id) :
    BoundPorts.members (Function.update bound lport.id (some (.here, lport))) group id := by
  rcases member with before | ⟨rfl, listed⟩
  · have different : id ≠ lport.id := by
      rintro rfl
      rcases before with ⟨_, found, _⟩
      rw [isFree] at found
      cases found
    exact (BoundPorts.members_update_ne _ different).mpr before
  · exact ⟨lport, Function.update_self .., listed⟩

theorem addLocalPort_leads (accurate : Accurate store.secgroups ids bound.members
      bound.holdings state)
    (context : Context netaddr store ids (membersDuring bound lport))
    (listed : ∀ group ∈ lport.securityGroups, ∃ found, store.secgroups group = some found)
    (isFree : bound lport.id = none) :
    Leads (addLocalPort netaddr store lport) state
      (fun _ after => Accurate store.secgroups ids
        (BoundPorts.members (Function.update bound lport.id (some (.here, lport))))
        (BoundPorts.holdings (Function.update bound lport.id (some (.here, lport)))) after)
      (fun _ _ => False) := by
  have wide : Accurate store.secgroups ids (membersDuring bound lport) bound.holdings
      state :=
    ⟨accurate.sound.mono fun group id member => .inl member, accurate.tells⟩
  rw [← joined_all isFree]
  unfold addLocalPort
  split
  · next isEmpty =>
      rw [isEmpty, Holdings.mapAll_nil]
      exact ⟨wide.sound.mono fun group id => members_of_joined isFree, wide.tells⟩
  · refine (Accurate.loop lport.id (fun items => items ∪ ↑lport.allIps)
      (fun _ => membersDuring bound lport) (fun items => union_idempotent _ items) ?_ wide).bind ?_
    · intro done group rest current before split holds
      have member : group ∈ lport.securityGroups := by simp [split]
      rcases listed group member with ⟨found, isFound⟩
      exact holds.addLocalPortAssociating context isFound (.inr ⟨rfl, member⟩)
    · intro _ current holds
      refine ((Like.refl holds.sound.numbered).installConnectionTrackFlows lport).mono ?_
        fun _ _ impossible => impossible
      intro _ after like
      have final := holds.of_like like
      exact ⟨final.sound.mono fun group id => members_of_joined isFree, final.tells⟩

theorem addRemotePort_leads (accurate : Accurate store.secgroups ids bound.members
      bound.holdings state)
    (context : Context netaddr store ids bound.members)
    (isFree : bound lport.id = none) :
    Leads (addRemotePort netaddr store lport) state
      (fun _ after => Accurate store.secgroups ids
        (BoundPorts.members (Function.update bound lport.id (some (.elsewhere, lport))))
        (BoundPorts.holdings (Function.update bound lport.id (some (.elsewhere, lport))))
        after)
      (fun _ _ => False) := by
  rw [← joined_all isFree]
  unfold addRemotePort
  refine (Accurate.loop lport.id (fun items => items ∪ ↑lport.allIps) (fun _ => bound.members)
    (fun items => union_idempotent _ items) ?_ accurate).mono ?_
    fun _ _ impossible => impossible
  · intro done group rest current before split holds
    exact holds.addRemotePortAssociating context group
  · intro _ after holds
    refine ⟨holds.sound.mono fun group id member => ?_, holds.tells⟩
    have different : id ≠ lport.id := by
      rintro rfl
      rcases member with ⟨_, found, _⟩
      rw [isFree] at found
      cases found
    exact (BoundPorts.members_update_ne _ different).mpr member

theorem removeLocalPort_leads (accurate : Accurate store.secgroups ids bound.members
      bound.holdings state)
    (context : Context netaddr store ids bound.members) {lswitch : LogicalSwitch}
    (onSwitch : store.inventory.lswitch lport = .ok lswitch)
    (isBound : bound lport.id = some (.here, lport)) :
    Leads (removeLocalPort netaddr store lport) state
      (fun _ after => Accurate store.secgroups ids
        (BoundPorts.members (Function.update bound lport.id none))
        (BoundPorts.holdings (Function.update bound lport.id none)) after)
      (fun _ _ => False) := by
  have gone : ∀ group id, (bound.members group id ∧
      ¬(group ∈ lport.securityGroups ∧ id = lport.id)) →
      BoundPorts.members (Function.update bound lport.id none) group id := by
    rintro group id ⟨member, notLeft⟩
    have different : id ≠ lport.id := by
      rintro rfl
      rcases member with ⟨_, found, isListed⟩
      rw [isBound] at found
      cases found
      exact notLeft ⟨isListed, rfl⟩
    exact (BoundPorts.members_update_ne _ different).mpr member
  rw [← left_all isBound]
  unfold removeLocalPort
  split
  · next isEmpty =>
      rw [isEmpty, Holdings.mapAll_nil]
      refine ⟨accurate.sound.mono fun group id member => gone group id ⟨member, ?_⟩,
        accurate.tells⟩
      rw [isEmpty]
      exact fun impossible => List.not_mem_nil impossible.1
  · refine ((Like.refl accurate.sound.numbered).uninstallConnectionTrackFlows lport).bind ?_
    intro _ first like
    refine (Accurate.loop lport.id (fun items => items \ ↑lport.allIps) (fun done group id =>
        bound.members group id ∧ ¬(group ∈ done ∧ id = lport.id))
      (fun items => diff_idempotent _ items) ?_
      ⟨(accurate.of_like like).sound.mono fun group id member => ⟨member, by simp⟩,
        (accurate.of_like like).tells⟩).mono ?_ fun _ _ impossible => impossible
    · intro done group rest current before split holds
      refine (holds.removeLocalPortAssociating
        ⟨context.wellFormed, fun other id member => context.stored other id member.1⟩
        onSwitch group).mono ?_ fun _ _ impossible => impossible
      intro _ after final
      refine ⟨final.sound.mono ?_, final.tells⟩
      rintro other id ⟨⟨member, notDone⟩, notNow⟩
      refine ⟨member, ?_⟩
      rintro ⟨listed, isPort⟩
      rcases List.mem_append.mp listed with before | now
      · exact notDone ⟨before, isPort⟩
      · exact notNow ⟨List.mem_singleton.mp now, isPort⟩
    · intro _ after holds
      exact ⟨holds.sound.mono gone, holds.tells⟩

theorem removeRemotePort_leads (accurate : Accurate store.secgroups ids bound.members
      bound.holdings state)
    (context : Context netaddr store ids bound.members)
    (isBound : bound lport.id = some (.elsewhere, lport)) :
    Leads (removeRemotePort netaddr store lport) state
      (fun _ after => Accurate store.secgroups ids
        (BoundPorts.members (Function.update bound lport.id none))
        (BoundPorts.holdings (Function.update bound lport.id none)) after)
      (fun _ _ => False) := by
  rw [← left_all isBound]
  unfold removeRemotePort
  refine (Accurate.loop lport.id (fun items => items \ ↑lport.allIps) (fun _ => bound.members)
    (fun items => diff_idempotent _ items) ?_ accurate).mono ?_
    fun _ _ impossible => impossible
  · intro done group rest current before split holds
    exact holds.removeRemotePortAssociating context group
  · intro _ after holds
    refine ⟨holds.sound.mono fun group id member => ?_, holds.tells⟩
    have different : id ≠ lport.id := by
      rintro rfl
      rcases member with ⟨_, found, _⟩
      rw [isBound] at found
      cases found
    exact (BoundPorts.members_update_ne _ different).mpr member

theorem members_of_changed {kind : Locality}
    (isBound : bound lport.id = some (kind, original)) {group id : Id}
    (member : membersDuring bound lport group id)
    (notLeft : ¬(group ∈ (getAddedAndRemovedAndUnchangedSecgroups lport.securityGroups
      original.securityGroups).removed ∧ id = lport.id)) :
    BoundPorts.members (Function.update bound lport.id (some (.here, lport))) group id := by
  by_cases isPort : id = lport.id
  · subst isPort
    refine ⟨lport, Function.update_self .., ?_⟩
    rcases member with ⟨found, isFound, listed⟩ | ⟨_, listed⟩
    · rw [isBound] at isFound
      cases isFound
      have listedBefore := List.count_pos_iff.mpr listed
      rw [(secgroupChange _ _ group).2.1] at notLeft
      apply List.count_pos_iff.mp
      by_contra unlisted
      exact notLeft ⟨by omega, rfl⟩
    · exact listed
  · rcases member with before | ⟨isPort', _⟩
    · exact (BoundPorts.members_update_ne _ isPort).mpr before
    · exact absurd isPort' isPort

theorem updateLocalPort_leads (accurate : Accurate store.secgroups ids bound.members
      bound.holdings state)
    (context : Context netaddr store ids (membersDuring bound lport))
    (listed : ∀ group ∈ lport.securityGroups, ∃ found, store.secgroups group = some found)
    {lswitch before : LogicalSwitch}
    (onSwitch : store.inventory.lswitch lport = .ok lswitch)
    (wasOnSwitch : store.inventory.lswitch original = .ok before)
    (isBound : bound lport.id = some (.here, original)) (same : original.id = lport.id)
    (shrunk : ∀ group ∈ lport.securityGroups,
      lport.securityGroups.count group < original.securityGroups.count group →
      Disjoint original.allIps lport.allIps) :
    Leads (updateLocalPort netaddr store lport original) state
      (fun _ after => Accurate store.secgroups ids
        (BoundPorts.members (Function.update bound lport.id (some (.here, lport))))
        (BoundPorts.holdings (Function.update bound lport.id (some (.here, lport)))) after)
      (fun _ _ => False) := by
  have tracking : ∀ current : State, Numbered ids current →
      Leads (stopTracking lport original) current
        (fun _ after => Like ids current after) (fun _ _ => False) ∧
      Leads (startTracking lport original) current
        (fun _ after => Like ids current after) (fun _ _ => False) := by
    intro current numbered
    unfold stopTracking startTracking
    constructor
    · split
      · exact (Like.refl numbered).uninstallConnectionTrackFlows lport
      · exact Like.refl numbered
    · split
      · exact (Like.refl numbered).installConnectionTrackFlows lport
      · exact Like.refl numbered
  have wide : Accurate store.secgroups ids (membersDuring bound lport) bound.holdings
      state :=
    ⟨accurate.sound.mono fun group id member => .inl member, accurate.tells⟩
  rw [← changed_all isBound (fun _ _ _ => Finset.Subset.refl _) shrunk (.inl rfl)]
  unfold updateLocalPort
  dsimp only
  refine ((tracking state wide.sound.numbered).1).bind ?_
  intro _ first like
  refine (Accurate.loop lport.id (fun items => items ∪ ↑lport.allIps)
    (fun _ => membersDuring bound lport) (fun items => union_idempotent _ items) ?_
    (wide.of_like like)).bind ?_
  · intro done group rest current before split holds
    have isListed : group ∈ lport.securityGroups := by
      have more := (secgroupChange lport.securityGroups original.securityGroups group).1.mp
        (by rw [split]; simp)
      exact List.count_pos_iff.mp (by omega)
    rcases listed group isListed with ⟨found, isFound⟩
    exact holds.addLocalPortAssociating context isFound (.inr ⟨rfl, isListed⟩)
  intro _ second holdsSecond
  refine (Accurate.loop lport.id (fun items => items \ ↑original.allIps)
    (fun done group id =>
      membersDuring bound lport group id ∧ ¬(group ∈ done ∧ id = lport.id))
    (fun items => diff_idempotent _ items) ?_
    ⟨holdsSecond.sound.mono fun group id member => ⟨member, by simp⟩,
      holdsSecond.tells⟩).bind ?_
  · intro done group rest current before split holds
    rw [← same]
    refine (holds.removeLocalPortAssociating
      ⟨context.wellFormed, fun other id member => context.stored other id member.1⟩
      wasOnSwitch group).mono ?_ fun _ _ impossible => impossible
    intro _ after final
    refine ⟨final.sound.mono ?_, final.tells⟩
    rintro other id ⟨⟨member, notDone⟩, notNow⟩
    refine ⟨member, ?_⟩
    rintro ⟨isListed, isPort⟩
    rcases List.mem_append.mp isListed with before | now
    · exact notDone ⟨before, isPort.trans same⟩
    · exact notNow ⟨List.mem_singleton.mp now, isPort⟩
  intro _ third holdsThird
  have narrow := holdsThird.sound.mono fun group id member =>
    members_of_changed isBound member.1 member.2
  refine (Accurate.loop lport.id (readdress lport original) (fun _ => _)
    (readdress_idempotent lport original) ?_ ⟨narrow, holdsThird.tells⟩).bind ?_
  · intro done group rest current before split holds
    refine (holds.updatePortAddressesProcess ⟨context.wellFormed, ?_⟩ group).bind ?_
    · intro other id member
      by_cases isPort : id = lport.id
      · subst isPort
        rcases member with ⟨found, isFound, isListed⟩
        rw [Function.update_self] at isFound
        cases isFound
        exact context.stored other _ (.inr ⟨rfl, isListed⟩)
      · exact context.stored other id
          (.inl ((BoundPorts.members_update_ne _ isPort).mp member))
    · intro _ after final
      refine ((Like.refl final.sound.numbered).deleteConntrackEntriesByLocalPortInfo
        onSwitch (some original) group).mono ?_ fun _ _ impossible => impossible
      intro _ last likeLast
      exact final.of_like likeLast
  intro _ fourth holdsFourth
  refine ((tracking fourth holdsFourth.sound.numbered).2).mono ?_
    fun _ _ impossible => impossible
  intro _ after likeAfter
  exact holdsFourth.of_like likeAfter

theorem updateRemotePort_leads (accurate : Accurate store.secgroups ids bound.members
      bound.holdings state)
    (context : Context netaddr store ids bound.members)
    (isBound : bound lport.id = some (.elsewhere, original))
    (left : ∀ group ∈ original.securityGroups, group ∉ lport.securityGroups →
      original.allIps ⊆ lport.allIps)
    (shrunk : ∀ group ∈ lport.securityGroups,
      lport.securityGroups.count group < original.securityGroups.count group →
      Disjoint original.allIps lport.allIps) :
    Leads (updateRemotePort netaddr store lport original) state
      (fun _ after => Accurate store.secgroups ids
        (BoundPorts.members (Function.update bound lport.id (some (.elsewhere, lport))))
        (BoundPorts.holdings (Function.update bound lport.id (some (.elsewhere, lport))))
        after)
      (fun _ _ => False) := by
  rw [← changed_all isBound left shrunk (.inr rfl)]
  unfold updateRemotePort
  dsimp only
  refine (Accurate.loop lport.id (fun items => items ∪ ↑lport.allIps)
    (fun _ => bound.members) (fun items => union_idempotent _ items) ?_ accurate).bind ?_
  · intro done group rest current before split holds
    exact holds.addRemotePortAssociating context group
  intro _ first holdsFirst
  refine (Accurate.loop lport.id (fun items => items \ ↑lport.allIps)
    (fun _ => bound.members) (fun items => diff_idempotent _ items) ?_ holdsFirst).bind ?_
  · intro done group rest current before split holds
    exact holds.removeRemotePortAssociating context group
  intro _ second holdsSecond
  refine (Accurate.loop lport.id (readdress lport original) (fun _ => bound.members)
    (readdress_idempotent lport original) ?_ holdsSecond).mono ?_
    fun _ _ impossible => impossible
  · intro done group rest current before split holds
    exact holds.updatePortAddressesProcess context group
  · intro _ after holds
    refine ⟨holds.sound.mono fun group id member => ?_, holds.tells⟩
    have different : id ≠ lport.id := by
      rintro rfl
      rcases member with ⟨_, found, _⟩
      rw [isBound] at found
      cases found
    exact (BoundPorts.members_update_ne _ different).mpr member

end Handlers

end SGApp
end Dragonflow
