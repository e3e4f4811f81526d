import Dragonflow.Controller.Common.LogicalNetworks
import Dragonflow.Controller.Node
import Dragonflow.Controller.OpenFlow

/-! # Histories of ports

What an application has in its caches after a history of bind and unbind events, and when
two caches lead to the same decisions.
-/

namespace Dragonflow

open Program

/-! ## Caches that answer alike -/

namespace PortsNetCache

/-- The lists of a network that are not empty. -/
def live (cache : PortsNetCache) (networkId : Nat) : List ((_ : Option String) × List Id) :=
  ((cache.lookup networkId).getD ∅).entries.filter fun entry => entry.2 ≠ []

/-- The caches differ in empty lists at most. -/
def Same (cache other : PortsNetCache) : Prop :=
  ∀ networkId, cache.live networkId = other.live networkId

theorem filter_kerase {entries : List ((_ : Option String) × List Id)}
    (nodup : entries.NodupKeys) (networkType : Option String) :
    (entries.kerase networkType).filter (fun entry => entry.2 ≠ []) =
      (entries.filter fun entry => entry.2 ≠ []).kerase networkType := by
  induction entries with
  | nil => rfl
  | cons entry entries induction =>
      rcases List.nodupKeys_cons.mp nodup with ⟨notMember, nodupTail⟩
      by_cases isKey : networkType = entry.1
      · have notLive : networkType ∉ (entries.filter fun entry => entry.2 ≠ []).keys := by
          intro member
          rcases List.exists_of_mem_keys member with ⟨ports, isEntry⟩
          have inTail := List.mem_keys_of_mem (List.mem_of_mem_filter isEntry)
          rw [isKey] at inTail
          exact notMember inTail
        rw [List.kerase_cons_eq isKey, List.filter_cons]
        split
        · rw [List.kerase_cons_eq isKey]
        · rw [List.kerase_of_notMem_keys notLive]
      · rw [List.kerase_cons_ne isKey, List.filter_cons, List.filter_cons, induction nodupTail]
        split
        · rw [List.kerase_cons_ne isKey]
        · rfl

theorem dlookup_filter {entries : List ((_ : Option String) × List Id)}
    (nodup : entries.NodupKeys) (networkType : Option String) :
    (entries.dlookup networkType).getD [] =
      ((entries.filter fun entry => entry.2 ≠ []).dlookup networkType).getD [] := by
  induction entries with
  | nil => rfl
  | cons entry entries induction =>
      rcases List.nodupKeys_cons.mp nodup with ⟨notMember, nodupTail⟩
      rcases entry with ⟨key, ports⟩
      by_cases isKey : networkType = key
      · rw [← isKey, List.dlookup_cons_eq, List.filter_cons]
        split
        · rw [List.dlookup_cons_eq]
        · rename_i isEmpty
          have noPorts : ports = [] := by simpa using isEmpty
          rw [← isKey] at notMember
          rw [← induction nodupTail, List.dlookup_eq_none.mpr notMember, noPorts]
          rfl
      · rw [List.dlookup_cons_ne _ _ isKey, List.filter_cons]
        split
        · rw [List.dlookup_cons_ne _ _ isKey, induction nodupTail]
        · exact induction nodupTail

theorem portList_eq_live (cache : PortsNetCache) (networkId : Nat)
    (networkType : Option String) :
    cache.portList networkId networkType =
      ((cache.live networkId).dlookup networkType).getD [] := by
  rw [portList, live]
  cases cache.lookup networkId with
  | none => rfl
  | some networkPorts => exact dlookup_filter networkPorts.nodupKeys networkType

theorem live_setPortList (cache : PortsNetCache) (networkId other : Nat)
    (networkType : Option String) (ports : List Id) :
    (cache.setPortList networkId networkType ports).live other =
      if other = networkId then
        (if ports = [] then [] else [⟨networkType, ports⟩]) ++
          (cache.live networkId).kerase networkType
      else cache.live other := by
  rw [live, setPortList, Dict.lookup_insert_eq]
  split
  · rw [Option.getD_some, AList.entries_insert, List.filter_cons, live,
      filter_kerase (AList.nodupKeys _)]
    by_cases isEmpty : ports = []
    · simp [isEmpty]
    · simp [isEmpty]
  · rfl

namespace Same

variable {cache other : PortsNetCache} (same : Same cache other)

include same

theorem portList (networkId : Nat) (networkType : Option String) :
    cache.portList networkId networkType = other.portList networkId networkType := by
  rw [portList_eq_live, portList_eq_live, same networkId]

theorem setPortList (networkId : Nat) (networkType : Option String) (ports : List Id) :
    Same (cache.setPortList networkId networkType ports)
      (other.setPortList networkId networkType ports) := by
  intro network
  rw [live_setPortList, live_setPortList, same networkId, same network]

theorem addPort (portId : Id) (networkId : Nat) (networkType : Option String) :
    Same (cache.addPort portId networkId networkType)
      (other.addPort portId networkId networkType) := by
  rw [PortsNetCache.addPort, PortsNetCache.addPort, same.portList]
  exact same.setPortList networkId networkType _

theorem removePort (portId : Id) (networkId : Nat) (networkType : Option String) :
    Same (cache.removePort portId networkId networkType)
      (other.removePort portId networkId networkType) := by
  rw [PortsNetCache.removePort, PortsNetCache.removePort, same.portList]
  split
  · exact same.setPortList networkId networkType _
  · exact same

end Same

theorem sum_live (entries : List ((_ : Option String) × List Id)) :
    (entries.map fun entry => entry.2.length).sum =
      ((entries.filter fun entry => entry.2 ≠ []).map fun entry => entry.2.length).sum := by
  induction entries with
  | nil => rfl
  | cons entry entries induction =>
      rw [List.filter_cons]
      split
      · rw [List.map_cons, List.map_cons, List.sum_cons, List.sum_cons, induction]
      · rename_i isEmpty
        have noPorts : entry.2 = [] := by simpa using isEmpty
        rw [List.map_cons, List.sum_cons, noPorts, List.length_nil, Nat.zero_add, induction]

theorem flatMap_live (entries : List ((_ : Option String) × List Id)) :
    entries.flatMap Sigma.snd =
      (entries.filter fun entry => entry.2 ≠ []).flatMap Sigma.snd := by
  induction entries with
  | nil => rfl
  | cons entry entries induction =>
      rw [List.filter_cons]
      split
      · rw [List.flatMap_cons, List.flatMap_cons, induction]
      · rename_i isEmpty
        have noPorts : entry.2 = [] := by simpa using isEmpty
        rw [List.flatMap_cons, noPorts, List.nil_append, induction]

/-- What is counted depends on the lists that are not empty. -/
theorem getPortCount_eq_live (cache : PortsNetCache) (networkId : Nat)
    (networkType : Option String) :
    cache.getPortCount networkId networkType =
      if allTypes networkType then
        ((cache.live networkId).map fun entry => entry.2.length).sum
      else (cache.portList networkId networkType).length := by
  split
  · rename_i isAll
    rw [getPortCount, live]
    cases cache.lookup networkId with
    | none => rfl
    | some networkPorts =>
        dsimp only
        split
        · rename_i isEmpty
          rw [Option.getD_some, List.isEmpty_iff.mp isEmpty]
          rfl
        · rw [sum_live]
          rfl
  · rename_i oneType
    exact getPortCount_eq_length cache networkId oneType

theorem getPorts_eq_live {cache : PortsNetCache} {networkId : Nat}
    {networkType : Option String}
    (someCount : cache.getPortCount networkId networkType ≠ 0) :
    cache.getPorts networkId none = some ((cache.live networkId).flatMap Sigma.snd) := by
  rw [getPortCount] at someCount
  rw [getPorts, live]
  cases isFound : cache.lookup networkId with
  | none =>
      rw [isFound] at someCount
      exact absurd rfl someCount
  | some networkPorts =>
      rw [isFound] at someCount
      dsimp only at someCount ⊢
      by_cases isEmpty : networkPorts.entries.isEmpty = true
      · rw [if_pos isEmpty] at someCount
        exact absurd rfl someCount
      · rw [if_neg isEmpty, if_pos (show allTypes none from Or.inl rfl), flatMap_live]
        rfl

theorem Same.getPortCount {cache other : PortsNetCache} (same : Same cache other)
    (networkId : Nat) (networkType : Option String) :
    cache.getPortCount networkId networkType = other.getPortCount networkId networkType := by
  rw [getPortCount_eq_live, getPortCount_eq_live, same networkId, same.portList]

theorem Same.getPorts {cache other : PortsNetCache} (same : Same cache other)
    {networkId : Nat} {networkType : Option String}
    (someCount : cache.getPortCount networkId networkType ≠ 0) :
    cache.getPorts networkId none = other.getPorts networkId none := by
  have otherCount := someCount
  rw [same.getPortCount] at otherCount
  rw [getPorts_eq_live someCount, getPorts_eq_live otherCount, same networkId]

/-- A cache without ports answers like a new one. -/
theorem same_empty {cache : PortsNetCache}
    (noPorts : ∀ networkId networkType, cache.portList networkId networkType = []) :
    Same cache ∅ := by
  intro networkId
  have isEmpty : cache.live networkId = [] := by
    apply List.eq_nil_iff_forall_not_mem.mpr
    rintro ⟨networkType, ports⟩ member
    have nodup : (cache.live networkId).NodupKeys :=
      (AList.nodupKeys _).sublist List.filter_sublist
    have isPorts := noPorts networkId networkType
    rw [portList_eq_live, List.mem_dlookup_iff nodup |>.mpr member] at isPorts
    have isLive : decide (ports ≠ []) = true := (List.mem_filter.mp member).2
    exact of_decide_eq_true isLive isPorts
  rw [isEmpty]
  rfl

/-! ## Which ports a cache lists -/

/-- A port is listed at most once, for a network that it belongs to, and only while it is a
member. -/
def Lists (belongs : Id → Nat → Option String → Prop) (members : Id → Prop)
    (cache : PortsNetCache) : Prop :=
  ∀ networkId networkType, (cache.portList networkId networkType).Nodup ∧
    ∀ portId ∈ cache.portList networkId networkType,
      members portId ∧ belongs portId networkId networkType

namespace Lists

variable {belongs : Id → Nat → Option String → Prop} {members other : Id → Prop}
  {cache : PortsNetCache} {portId : Id} {networkId : Nat} {networkType : Option String}

theorem mono (lists : Lists belongs members cache)
    (weaker : ∀ portId, members portId → other portId) : Lists belongs other cache :=
  fun networkId networkType => ⟨(lists networkId networkType).1, fun portId member =>
    ⟨weaker portId ((lists networkId networkType).2 portId member).1,
      ((lists networkId networkType).2 portId member).2⟩⟩

theorem empty : Lists belongs members ∅ :=
  fun _ _ => ⟨List.nodup_nil, fun _ member => absurd member List.not_mem_nil⟩

theorem addPort (lists : Lists belongs members cache) (isNew : ¬members portId)
    (isNetwork : belongs portId networkId networkType) :
    Lists belongs (fun id => members id ∨ id = portId)
      (cache.addPort portId networkId networkType) := by
  intro network type
  rw [portList_addPort]
  split
  · rename_i isSame
    rcases isSame with ⟨rfl, rfl⟩
    have listed := lists network type
    constructor
    · apply List.nodup_append.mpr
      refine ⟨listed.1, List.nodup_singleton _, ?_⟩
      intro id member same isPort isId
      rw [List.mem_singleton] at isPort
      rw [isId, isPort] at member
      exact isNew (listed.2 portId member).1
    · intro id member
      rcases List.mem_append.mp member with before | added
      · exact ⟨Or.inl (listed.2 id before).1, (listed.2 id before).2⟩
      · rw [List.mem_singleton.mp added]
        exact ⟨Or.inr rfl, isNetwork⟩
  · exact lists.mono (fun _ => Or.inl) network type

theorem removePort (lists : Lists belongs members cache)
    (only : ∀ network type, belongs portId network type →
      network = networkId ∧ type = networkType) :
    Lists belongs (fun id => members id ∧ id ≠ portId)
      (cache.removePort portId networkId networkType) := by
  intro network type
  have listed := lists network type
  rw [portList_removePort]
  split
  · rename_i isSame
    rcases isSame with ⟨rfl, rfl⟩
    refine ⟨listed.1.erase portId, ?_⟩
    intro id member
    rcases (listed.1.mem_erase_iff).mp member with ⟨different, before⟩
    exact ⟨⟨(listed.2 id before).1, different⟩, (listed.2 id before).2⟩
  · rename_i isOther
    refine ⟨listed.1, ?_⟩
    intro id member
    refine ⟨⟨(listed.2 id member).1, ?_⟩, (listed.2 id member).2⟩
    intro isPort
    rw [isPort] at member
    exact isOther (only network type (listed.2 portId member).2)

/-- A port of no network is not listed. -/
theorem without (lists : Lists belongs members cache)
    (nowhere : ∀ network type, ¬belongs portId network type) :
    Lists belongs (fun id => members id ∧ id ≠ portId) cache := by
  intro network type
  have listed := lists network type
  refine ⟨listed.1, ?_⟩
  intro id member
  refine ⟨⟨(listed.2 id member).1, ?_⟩, (listed.2 id member).2⟩
  intro isPort
  rw [isPort] at member
  exact nowhere network type (listed.2 portId member).2

/-- Where no member belongs to a network, the cache answers like a new one. -/
theorem same_empty (lists : Lists belongs members cache)
    (noMember : ∀ portId networkId networkType, members portId →
      ¬belongs portId networkId networkType) : Same cache ∅ := by
  apply PortsNetCache.same_empty
  intro networkId networkType
  apply List.eq_nil_iff_forall_not_mem.mpr
  intro portId member
  have listed := (lists networkId networkType).2 portId member
  exact noMember portId networkId networkType listed.1 listed.2

end Lists

end PortsNetCache

namespace LogicalNetworks

structure Same (networks twin : LogicalNetworks) : Prop where
  here : networks.localPortsNetCache.Same twin.localPortsNetCache
  elsewhere : networks.remotePortsNetCache.Same twin.remotePortsNetCache

namespace Same

variable {networks twin : LogicalNetworks} (same : networks.Same twin)

include same

theorem addLocalPort (portId : Id) (networkId : Nat) (networkType : Option String) :
    (networks.addLocalPort portId networkId networkType).Same
      (twin.addLocalPort portId networkId networkType) :=
  ⟨same.here.addPort portId networkId networkType, same.elsewhere⟩

theorem removeLocalPort (portId : Id) (networkId : Nat) (networkType : Option String) :
    (networks.removeLocalPort portId networkId networkType).Same
      (twin.removeLocalPort portId networkId networkType) :=
  ⟨same.here.removePort portId networkId networkType, same.elsewhere⟩

theorem addRemotePort (portId : Id) (networkId : Nat) (networkType : Option String) :
    (networks.addRemotePort portId networkId networkType).Same
      (twin.addRemotePort portId networkId networkType) :=
  ⟨same.here, same.elsewhere.addPort portId networkId networkType⟩

theorem removeRemotePort (portId : Id) (networkId : Nat) (networkType : Option String) :
    (networks.removeRemotePort portId networkId networkType).Same
      (twin.removeRemotePort portId networkId networkType) :=
  ⟨same.here, same.elsewhere.removePort portId networkId networkType⟩

theorem getLocalPortCount (networkId : Nat) (networkType : Option String) :
    networks.getLocalPortCount networkId networkType =
      twin.getLocalPortCount networkId networkType :=
  same.here.getPortCount networkId networkType

theorem getRemotePortCount (networkId : Nat) (networkType : Option String) :
    networks.getRemotePortCount networkId networkType =
      twin.getRemotePortCount networkId networkType :=
  same.elsewhere.getPortCount networkId networkType

end Same

end LogicalNetworks

/-! ## Histories of ports -/

/-- An event of a port, with the store and the overrides that are there when it is
handled. -/
structure PortDelivery where
  lports : Dict Id LogicalPort := ∅
  locations : Locations := ∅
  event : PortEvent
  lport : LogicalPort

def QuietApp.deliver {τ : Type} (app : QuietApp τ) (delivery : PortDelivery) :
    Program τ PyError Unit :=
  app delivery.lports delivery.locations delivery.event delivery.lport

namespace PortDelivery

/-- The sessions of the ports, as told by the events. -/
def sessions (deliveries : List PortDelivery) : List (Id × SessionEvent Locality) :=
  deliveries.map fun delivery => (delivery.lport.id, delivery.event.session)

/-- The port is bound as a port of this kind. -/
def Bound (deliveries : List PortDelivery) (kind : Locality) (portId : Id) : Prop :=
  session (sessions deliveries) portId = some (some kind)

/-- Binding and unbinding take turns, and a port stays in its network. -/
structure InTurn {σ : Type} (lswitchOf : LogicalPort → Except PyError σ)
    (network : Id → Except PyError σ) (deliveries : List PortDelivery) : Prop where
  inOrder : ∀ portId, session (sessions deliveries) portId ≠ none
  stays : ∀ delivery ∈ deliveries,
    lswitchOf delivery.lport = network delivery.lport.id

theorem sessions_concat (deliveries : List PortDelivery) (delivery : PortDelivery)
    (portId : Id) :
    session (sessions (deliveries ++ [delivery])) portId =
      if portId = delivery.lport.id then
        (session (sessions deliveries) delivery.lport.id).bind fun status =>
          SessionEvent.follow status delivery.event.session
      else session (sessions deliveries) portId := by
  rw [sessions, List.map_append, List.map_singleton, ← sessions, session_concat]

section Turns

variable {σ : Type} {lswitchOf : LogicalPort → Except PyError σ}
  {network : Id → Except PyError σ} {deliveries : List PortDelivery}
  {delivery : PortDelivery}

theorem InTurn.before (inTurn : InTurn lswitchOf network (deliveries ++ [delivery])) :
    InTurn lswitchOf network deliveries := by
  constructor
  · intro portId isNone
    apply inTurn.inOrder portId
    rw [sessions_concat]
    split
    · rename_i isPort
      rw [← isPort, isNone]
      rfl
    · exact isNone
  · intro other member
    exact inTurn.stays other (List.mem_append_left _ member)

theorem InTurn.last (inTurn : InTurn lswitchOf network (deliveries ++ [delivery])) :
    lswitchOf delivery.lport = network delivery.lport.id :=
  inTurn.stays delivery (List.mem_append_right _ (List.mem_singleton_self _))

/-- The step that the session of the port takes. -/
theorem InTurn.step (inTurn : InTurn lswitchOf network (deliveries ++ [delivery])) :
    ∃ status next, session (sessions deliveries) delivery.lport.id = some status ∧
      SessionEvent.follow status delivery.event.session = some next ∧
      session (sessions (deliveries ++ [delivery])) delivery.lport.id = some next := by
  have isSome := inTurn.inOrder delivery.lport.id
  rw [sessions_concat, if_pos rfl] at isSome ⊢
  cases before : session (sessions deliveries) delivery.lport.id with
  | none =>
      rw [before] at isSome
      exact absurd rfl isSome
  | some status =>
      rw [before, Option.bind_some] at isSome
      rw [Option.bind_some]
      rcases Option.ne_none_iff_exists'.mp isSome with ⟨next, isNext⟩
      exact ⟨status, next, rfl, isNext, isNext⟩

theorem bound_concat_of_ne {kind : Locality} {portId : Id}
    (different : portId ≠ delivery.lport.id) :
    Bound (deliveries ++ [delivery]) kind portId ↔ Bound deliveries kind portId := by
  rw [Bound, sessions_concat, if_neg different]
  rfl

theorem InTurn.bound_kept (inTurn : InTurn lswitchOf network (deliveries ++ [delivery]))
    {kind : Locality} (stays : delivery.event ≠ .unbind kind) {portId : Id}
    (bound : Bound deliveries kind portId) :
    Bound (deliveries ++ [delivery]) kind portId := by
  by_cases isPort : portId = delivery.lport.id
  · rw [isPort] at bound ⊢
    rcases inTurn.step with ⟨status, next, before, follows, after⟩
    rw [Bound, before, Option.some.injEq] at bound
    rw [Bound, after]
    cases isEvent : delivery.event with
    | bind other =>
        rw [isEvent, PortEvent.session, SessionEvent.follow_opened, bound] at follows
        cases follows.1
    | unbind other =>
        rw [isEvent, PortEvent.session, SessionEvent.follow_closed, bound] at follows
        cases follows.1
        exact absurd isEvent stays
    | updated other original =>
        rw [isEvent, PortEvent.session, SessionEvent.follow_used, bound] at follows
        rw [follows.2, follows.1]
  · rwa [bound_concat_of_ne isPort]

theorem InTurn.bind (inTurn : InTurn lswitchOf network (deliveries ++ [delivery]))
    {kind : Locality} (isBind : delivery.event = .bind kind) :
    ¬Bound deliveries kind delivery.lport.id ∧
      Bound (deliveries ++ [delivery]) kind delivery.lport.id := by
  rcases inTurn.step with ⟨status, next, before, follows, after⟩
  rw [isBind, PortEvent.session, SessionEvent.follow_opened] at follows
  rw [Bound, Bound, before, after, follows.1, follows.2]
  simp

end Turns

/-! ## Caches of the ports that are bound -/

section Caches

variable {σ : Type} (toLswitch : σ → LogicalSwitch) (supported : σ → Prop)
  (network : Id → Except PyError σ)

/-- The port is in this network, and the application supports the network. -/
def Belongs (portId : Id) (networkId : Nat) (networkType : Option String) : Prop :=
  ∃ lswitch, network portId = .ok lswitch ∧ supported lswitch ∧
    (toLswitch lswitch).uniqueKey = networkId ∧
    (toLswitch lswitch).networkType = networkType

/-- The port is added to the list of its network, or nothing happens. -/
def Enters (read : Except PyError σ) (portId : Id) (before after : PortsNetCache) : Prop :=
  after = before ∨ ∃ lswitch, read = .ok lswitch ∧ supported lswitch ∧
    after = before.addPort portId (toLswitch lswitch).uniqueKey
      (toLswitch lswitch).networkType

/-- The port is removed from the list of its network, if the network is supported. -/
def Departs (read : Except PyError σ) (portId : Id) (before after : PortsNetCache) : Prop :=
  (after = before ∧ ∀ lswitch, read = .ok lswitch → ¬supported lswitch) ∨
    ∃ lswitch, read = .ok lswitch ∧ supported lswitch ∧
      after = before.removePort portId (toLswitch lswitch).uniqueKey
        (toLswitch lswitch).networkType

/-- The lists of a cache are those of ports that are bound. -/
def Caches (deliveries : List PortDelivery) (kind : Locality) (cache : PortsNetCache) :
    Prop :=
  cache.Lists (Belongs toLswitch supported network) (Bound deliveries kind)

variable {toLswitch supported network} {lswitchOf : LogicalPort → Except PyError σ}
  {deliveries : List PortDelivery} {delivery : PortDelivery} {kind : Locality}
  {cache after : PortsNetCache}

theorem Caches.kept (caches : Caches toLswitch supported network deliveries kind cache)
    (inTurn : InTurn lswitchOf network (deliveries ++ [delivery]))
    (stays : delivery.event ≠ .unbind kind) :
    Caches toLswitch supported network (deliveries ++ [delivery]) kind cache :=
  caches.mono fun _ => inTurn.bound_kept stays

theorem Caches.enters (caches : Caches toLswitch supported network deliveries kind cache)
    (inTurn : InTurn lswitchOf network (deliveries ++ [delivery]))
    (isBind : delivery.event = .bind kind)
    (enters : Enters toLswitch supported (lswitchOf delivery.lport) delivery.lport.id cache
      after) :
    Caches toLswitch supported network (deliveries ++ [delivery]) kind after := by
  have stays : delivery.event ≠ .unbind kind := by
    rw [isBind]
    exact PortEvent.noConfusion
  rcases enters with rfl | ⟨lswitch, read, isSupported, rfl⟩
  · exact caches.kept inTurn stays
  · rw [inTurn.last] at read
    rcases inTurn.bind isBind with ⟨wasUnbound, isBound⟩
    have added := PortsNetCache.Lists.addPort caches wasUnbound
      ⟨lswitch, read, isSupported, rfl, rfl⟩
    apply added.mono
    intro portId isMember
    rcases isMember with before | rfl
    · exact inTurn.bound_kept stays before
    · exact isBound

theorem Caches.departs (caches : Caches toLswitch supported network deliveries kind cache)
    (inTurn : InTurn lswitchOf network (deliveries ++ [delivery]))
    (departs : Departs toLswitch supported (lswitchOf delivery.lport) delivery.lport.id
      cache after) :
    Caches toLswitch supported network (deliveries ++ [delivery]) kind after := by
  rw [inTurn.last] at departs
  suffices others : after.Lists (Belongs toLswitch supported network)
      fun portId => Bound deliveries kind portId ∧ portId ≠ delivery.lport.id by
    apply others.mono
    intro portId isMember
    exact (bound_concat_of_ne isMember.2).mpr isMember.1
  rcases departs with ⟨rfl, unsupported⟩ | ⟨lswitch, read, _, rfl⟩
  · apply PortsNetCache.Lists.without caches
    rintro networkId networkType ⟨lswitch, read, isSupported, _⟩
    exact unsupported lswitch read isSupported
  · apply PortsNetCache.Lists.removePort caches
    rintro networkId networkType ⟨other, readOther, _, isNetwork, isType⟩
    rw [read] at readOther
    cases readOther
    exact ⟨isNetwork.symm, isType.symm⟩

theorem Caches.same_empty (caches : Caches toLswitch supported network deliveries kind cache)
    (noPorts : ∀ portId lswitch, Bound deliveries kind portId →
      network portId = .ok lswitch → ¬supported lswitch) :
    cache.Same ∅ := by
  apply PortsNetCache.Lists.same_empty caches
  rintro portId networkId networkType isBound ⟨lswitch, read, isSupported, _⟩
  exact noPorts portId lswitch isBound read isSupported

end Caches

end PortDelivery

/-- The flows that an application has after it lost its connection and got a new one are
those that a new application has after the same events. -/
def Rebuilds {τ : Type} (app : QuietApp τ) (flows : τ → Flows) (connect reconnect : τ → τ)
    (new : τ) (before after : List PortDelivery) : Prop :=
  flows (trace app.deliver after (reconnect (trace app.deliver before (connect new)).2)).2 =
    flows (trace app.deliver after (reconnect new)).2

end Dragonflow
