import Dragonflow.Controller.BgpService
import Mathlib.Data.List.Nodup

/-! # The driver mirrors the northbound database

What a sync does to the driver, and when the driver has exactly the speakers, peers and
routes of the northbound database after it.
-/

namespace Dragonflow

open Program

namespace BGPService

variable {service current : BGPService} {localAs : Nat}

/-! ## Changes of one speaker -/

theorem edit_edit (service : BGPService) (first second : SpeakerState → SpeakerState) :
    (service.edit localAs first).edit localAs second =
      service.edit localAs (second ∘ first) := by
  unfold edit
  simp only [Function.update_self, Option.map_map, Function.update_idem]

theorem edit_id (service : BGPService) : service.edit localAs (fun state => state) = service := by
  unfold edit
  rw [Option.map_id', Function.update_eq_self]

theorem edit_driver {change : SpeakerState → SpeakerState} {state : SpeakerState}
    (found : service.driver localAs = some state) :
    service.edit localAs change =
      { service with driver := Function.update service.driver localAs (some (change state)) } := by
  unfold edit
  rw [found]
  rfl

/-- A loop in which every item changes the speaker. -/
theorem exec_edits {β : Type} (items : List β) {action : β → Action Unit}
    (change : β → SpeakerState → SpeakerState)
    (each : ∀ item ∈ items, ∀ current : BGPService, current.peers = service.peers →
      exec (action item) current = (.ok (), current.edit localAs (change item))) :
    exec (forM items action) service = (.ok ⟨⟩, service.edit localAs fun state =>
      items.foldl (fun state item => change item state) state) := by
  induction items generalizing service with
  | nil =>
      simp only [List.foldl_nil, edit_id]
      rfl
  | cons item items induction =>
      have first := each item List.mem_cons_self service rfl
      have later : ∀ other ∈ items, ∀ current : BGPService,
          current.peers = (service.edit localAs (change item)).peers →
          exec (action other) current = (.ok (), current.edit localAs (change other)) :=
        fun other member => each other (List.mem_cons_of_mem _ member)
      rw [List.forM_cons, exec_bind_ok first, induction later, edit_edit]
      rfl

/-! ## What the loops do to a speaker -/

/-- The peers of a speaker that are deleted, and those that are added. -/
def deletePeers (peers : Dict Id BGPPeer) (new : List Id) (state : SpeakerState) (id : Id) :
    SpeakerState :=
  if id ∉ new then (peers.lookup id).elim state fun peer => state.deleteBgpPeer peer.peerIp
  else state

def addPeers (peers : Dict Id BGPPeer) (old : List Id) (state : SpeakerState) (id : Id) :
    SpeakerState :=
  if id ∉ old then
    (peers.lookup id).elim state fun peer => state.addBgpPeer peer.peerIp peer.remoteAs
  else state

def withdrawRoutes (new : List BGPRoute) (state : SpeakerState) (route : BGPRoute) :
    SpeakerState :=
  if route ∉ new then state.withdrawRoute route.destination else state

def advertiseRoutes (old : List BGPRoute) (state : SpeakerState) (route : BGPRoute) :
    SpeakerState :=
  if route ∉ old then state.advertiseRoute route else state

/-- All that an update does to a speaker. -/
def updated (peers : Dict Id BGPPeer) (oldPeers : List Id) (oldRoutes : List BGPRoute)
    (speaker : BGPSpeaker) (state : SpeakerState) : SpeakerState :=
  speaker.routes.foldl (advertiseRoutes oldRoutes)
    (oldRoutes.foldl (withdrawRoutes speaker.routes)
      (speaker.peers.foldl (addPeers peers oldPeers)
        (oldPeers.foldl (deletePeers peers speaker.peers) state)))

/-- The reference is not dangling. -/
def Found (peers : Dict Id BGPPeer) (id : Id) : Prop := ∃ peer, peers.lookup id = some peer

theorem exec_readPeer {id : Id} {peer : BGPPeer} (found : service.peers.lookup id = some peer) :
    exec (readPeer id) service = (.ok peer, service) := by
  unfold readPeer
  rw [exec_bind_ok (exec_get service), found]
  rfl

theorem exec_deletePeers {oldPeers new : List Id}
    (found : ∀ id ∈ oldPeers, Found service.peers id) :
    exec (forM oldPeers fun id =>
      if id ∉ new then do
        let peer ← readPeer id
        onSpeaker localAs fun state => state.deleteBgpPeer peer.peerIp
      else pure ()) service =
      (.ok ⟨⟩, service.edit localAs fun state =>
        oldPeers.foldl (deletePeers service.peers new) state) := by
  refine exec_edits oldPeers (fun id state => deletePeers service.peers new state id) ?_
  intro id member current samePeers
  rcases found id member with ⟨peer, isPeer⟩
  unfold deletePeers
  by_cases isNew : id ∉ new
  · simp only [if_pos isNew, isPeer]
    rw [exec_bind_ok (exec_readPeer (samePeers ▸ isPeer))]
    rfl
  · simp only [if_neg isNew, edit_id]
    rfl

theorem exec_addPeers {oldPeers new : List Id} (found : ∀ id ∈ new, Found service.peers id) :
    exec (forM new fun id =>
      if id ∉ oldPeers then do
        let peer ← readPeer id
        onSpeaker localAs fun state => state.addBgpPeer peer.peerIp peer.remoteAs
      else pure ()) service =
      (.ok ⟨⟩, service.edit localAs fun state =>
        new.foldl (addPeers service.peers oldPeers) state) := by
  refine exec_edits new (fun id state => addPeers service.peers oldPeers state id) ?_
  intro id member current samePeers
  rcases found id member with ⟨peer, isPeer⟩
  unfold addPeers
  by_cases isNew : id ∉ oldPeers
  · simp only [if_pos isNew, isPeer]
    rw [exec_bind_ok (exec_readPeer (samePeers ▸ isPeer))]
    rfl
  · simp only [if_neg isNew, edit_id]
    rfl

theorem exec_withdrawRoutes (old new : List BGPRoute) (service : BGPService) :
    exec (forM old fun route =>
      if route ∉ new then
        onSpeaker localAs fun state => state.withdrawRoute route.destination
      else pure ()) service =
      (.ok ⟨⟩, service.edit localAs fun state => old.foldl (withdrawRoutes new) state) := by
  refine exec_edits old (fun route state => withdrawRoutes new state route) ?_
  intro route _ current _
  unfold withdrawRoutes
  by_cases isStale : route ∉ new
  · simp only [if_pos isStale]
    rfl
  · simp only [if_neg isStale, edit_id]
    rfl

theorem exec_advertiseRoutes (old new : List BGPRoute) (service : BGPService) :
    exec (forM new fun route =>
      if route ∉ old then onSpeaker localAs fun state => state.advertiseRoute route
      else pure ()) service =
      (.ok ⟨⟩, service.edit localAs fun state => new.foldl (advertiseRoutes old) state) := by
  refine exec_edits new (fun route state => advertiseRoutes old state route) ?_
  intro route _ current _
  unfold advertiseRoutes
  by_cases isNew : route ∉ old
  · simp only [if_pos isNew]
    rfl
  · simp only [if_neg isNew, edit_id]
    rfl

/-! ## Peers of a speaker -/

theorem mem_deletePeers (peers : Dict Id BGPPeer) (new ids : List Id) (state : SpeakerState)
    (entry : IPAddress × Nat) :
    entry ∈ (ids.foldl (deletePeers peers new) state).peers ↔
      entry ∈ state.peers ∧ ∀ id ∈ ids, id ∉ new →
        ∀ peer, peers.lookup id = some peer → entry.1 ≠ peer.peerIp := by
  induction ids generalizing state with
  | nil => simp
  | cons id ids induction =>
      have first : entry ∈ (deletePeers peers new state id).peers ↔
          entry ∈ state.peers ∧ (id ∉ new →
            ∀ peer, peers.lookup id = some peer → entry.1 ≠ peer.peerIp) := by
        unfold deletePeers
        split
        · next isOld =>
            cases found : peers.lookup id with
            | none => simp
            | some peer =>
                simp only [Option.elim_some, SpeakerState.deleteBgpPeer, List.mem_filter,
                  decide_eq_true_eq, Option.some.injEq, forall_eq', isOld, not_false_eq_true,
                  true_imp_iff]
        · next isNew => simp [not_not.mp isNew]
      rw [List.foldl_cons, induction, first, List.forall_mem_cons, and_assoc]

theorem mem_addPeers (peers : Dict Id BGPPeer) (old ids : List Id) (state : SpeakerState)
    (entry : IPAddress × Nat) :
    entry ∈ (ids.foldl (addPeers peers old) state).peers ↔
      entry ∈ state.peers ∨ ∃ id ∈ ids, id ∉ old ∧
        ∃ peer, peers.lookup id = some peer ∧ entry = (peer.peerIp, peer.remoteAs) := by
  induction ids generalizing state with
  | nil => simp
  | cons id ids induction =>
      have first : entry ∈ (addPeers peers old state id).peers ↔
          entry ∈ state.peers ∨ (id ∉ old ∧
            ∃ peer, peers.lookup id = some peer ∧ entry = (peer.peerIp, peer.remoteAs)) := by
        unfold addPeers
        split
        · next isNew =>
            cases found : peers.lookup id with
            | none => simp
            | some peer =>
                simp only [Option.elim_some, SpeakerState.addBgpPeer, List.mem_insert_iff,
                  Option.some.injEq, exists_eq_left', isNew, not_false_eq_true, true_and]
                exact or_comm
        · next isOld => simp [not_not.mp isOld]
      rw [List.foldl_cons, induction, first]
      simp only [List.mem_cons, exists_eq_or_imp]
      exact or_assoc

theorem routes_deletePeers (peers : Dict Id BGPPeer) (new ids : List Id)
    (state : SpeakerState) :
    (ids.foldl (deletePeers peers new) state).routes = state.routes := by
  induction ids generalizing state with
  | nil => rfl
  | cons id ids induction =>
      rw [List.foldl_cons, induction]
      unfold deletePeers
      split
      · cases peers.lookup id with
        | none => rfl
        | some peer => rfl
      · rfl

theorem routes_addPeers (peers : Dict Id BGPPeer) (old ids : List Id)
    (state : SpeakerState) :
    (ids.foldl (addPeers peers old) state).routes = state.routes := by
  induction ids generalizing state with
  | nil => rfl
  | cons id ids induction =>
      rw [List.foldl_cons, induction]
      unfold addPeers
      split
      · cases peers.lookup id with
        | none => rfl
        | some peer => rfl
      · rfl

/-! ## Routes of a speaker -/

def withdrawals (old new : List BGPRoute) : List (Write IPNetwork IPAddress) :=
  (old.filter (· ∉ new)).map fun route => ⟨route.destination, none⟩

def advertisements (old new : List BGPRoute) : List (Write IPNetwork IPAddress) :=
  (new.filter (· ∉ old)).map fun route => ⟨route.destination, some route.nexthop⟩

theorem withdrawRoutes_eq (old new : List BGPRoute) (state : SpeakerState) :
    (old.foldl (withdrawRoutes new) state) =
      { state with routes := Write.applyAll state.routes (withdrawals old new) } := by
  induction old generalizing state with
  | nil => rfl
  | cons route old induction =>
      rw [List.foldl_cons, induction]
      unfold withdrawRoutes withdrawals
      by_cases isStale : route ∉ new
      · rw [if_pos isStale, List.filter_cons_of_pos (by simpa using isStale), List.map_cons]
        rfl
      · rw [if_neg isStale, List.filter_cons_of_neg (by simpa using isStale)]

theorem advertiseRoutes_eq (old new : List BGPRoute) (state : SpeakerState) :
    (new.foldl (advertiseRoutes old) state) =
      { state with routes := Write.applyAll state.routes (advertisements old new) } := by
  induction new generalizing state with
  | nil => rfl
  | cons route new induction =>
      rw [List.foldl_cons, induction]
      unfold advertiseRoutes advertisements
      by_cases isNew : route ∉ old
      · rw [if_pos isNew, List.filter_cons_of_pos (by simpa using isNew), List.map_cons]
        rfl
      · rw [if_neg isNew, List.filter_cons_of_neg (by simpa using isNew)]

/-! ## The update of a speaker -/

theorem deletePeers_self (peers : Dict Id BGPPeer) (new ids : List Id) (state : SpeakerState)
    (kept : ∀ id ∈ ids, id ∈ new) : ids.foldl (deletePeers peers new) state = state := by
  induction ids with
  | nil => rfl
  | cons id ids induction =>
      have first : deletePeers peers new state id = state :=
        if_neg (not_not.mpr (kept id List.mem_cons_self))
      rw [List.foldl_cons, first]
      exact induction fun other member => kept other (List.mem_cons_of_mem _ member)

theorem addPeers_self (peers : Dict Id BGPPeer) (old ids : List Id) (state : SpeakerState)
    (kept : ∀ id ∈ ids, id ∈ old) : ids.foldl (addPeers peers old) state = state := by
  induction ids with
  | nil => rfl
  | cons id ids induction =>
      have first : addPeers peers old state id = state :=
        if_neg (not_not.mpr (kept id List.mem_cons_self))
      rw [List.foldl_cons, first]
      exact induction fun other member => kept other (List.mem_cons_of_mem _ member)

/-- A speaker that is the same as before is not changed. -/
theorem updated_self (peers : Dict Id BGPPeer) (speaker : BGPSpeaker) (state : SpeakerState) :
    updated peers speaker.peers speaker.routes speaker state = state := by
  have noWithdrawals : withdrawals speaker.routes speaker.routes = [] := by
    unfold withdrawals
    rw [List.filter_eq_nil_iff.mpr (by simp), List.map_nil]
  have noAdvertisements : advertisements speaker.routes speaker.routes = [] := by
    unfold advertisements
    rw [List.filter_eq_nil_iff.mpr (by simp), List.map_nil]
  unfold updated
  rw [deletePeers_self _ _ _ _ fun _ member => member,
    addPeers_self _ _ _ _ fun _ member => member, withdrawRoutes_eq, advertiseRoutes_eq,
    noWithdrawals, noAdvertisements]
  rfl

theorem exec_changeSpeaker {speaker : BGPSpeaker} {oldPeers : List Id}
    {oldRoutes : List BGPRoute} {state : SpeakerState}
    (foundOld : ∀ id ∈ oldPeers, Found service.peers id)
    (foundNew : ∀ id ∈ speaker.peers, Found service.peers id)
    (isState : service.driver speaker.localAs = some state) :
    exec (changeSpeaker speaker oldPeers oldRoutes) service =
      (.ok (), { service with
        driver := Function.update service.driver speaker.localAs
          (some (updated service.peers oldPeers oldRoutes speaker state)) }) := by
  have afterDelete : ∀ id ∈ speaker.peers, Found (service.edit speaker.localAs fun state =>
      oldPeers.foldl (deletePeers service.peers speaker.peers) state).peers id := foundNew
  unfold changeSpeaker
  rw [exec_bind_ok (exec_deletePeers foundOld), exec_bind_ok (exec_addPeers afterDelete),
    exec_bind_ok (exec_withdrawRoutes _ _ _), exec_advertiseRoutes, edit_edit, edit_edit,
    edit_edit, edit_driver isState]
  rfl

/-- The driver after the update of a speaker that it has. -/
theorem exec_updateKnown {speaker old : BGPSpeaker} {state : SpeakerState}
    (foundOld : ∀ id ∈ old.peers, Found service.peers id)
    (foundNew : ∀ id ∈ speaker.peers, Found service.peers id)
    (isState : service.driver speaker.localAs = some state) :
    exec (updateBgpSpeaker speaker (some old)) service =
      (.ok (), { service with
        driver := Function.update service.driver speaker.localAs
          (some (updated service.peers old.peers old.routes speaker state)) }) := by
  unfold updateBgpSpeaker
  by_cases same : old = speaker
  · rw [if_pos (by rw [same]), same, updated_self, ← isState, Function.update_eq_self]
    rfl
  · rw [if_neg fun isSame => same (Option.some.inj isSame)]
    exact exec_changeSpeaker foundOld foundNew isState

/-- The driver after a new speaker. -/
theorem exec_updateNew {speaker : BGPSpeaker}
    (foundNew : ∀ id ∈ speaker.peers, Found service.peers id)
    (isNew : service.driver speaker.localAs = none) :
    exec (updateBgpSpeaker speaker none) service =
      (.ok (), { service with
        driver := Function.update service.driver speaker.localAs
          (some (updated service.peers [] [] speaker {})) }) := by
  have added : exec (addBgpSpeaker speaker.localAs) service =
      (.ok (), { service with
        driver := Function.update service.driver speaker.localAs (some {}) }) := by
    unfold addBgpSpeaker
    rw [exec_modify, isNew]
    rfl
  let begun : BGPService := { service with
    driver := Function.update service.driver speaker.localAs (some {}) }
  have isState : begun.driver speaker.localAs = some {} := Function.update_self _ _ _
  have noPeers : ∀ id ∈ ([] : List Id), Found begun.peers id := by simp
  have changed : exec (changeSpeaker speaker [] []) begun = _ :=
    exec_changeSpeaker noPeers foundNew isState
  unfold updateBgpSpeaker
  rw [if_neg (by simp)]
  simp only
  rw [exec_bind_ok added, changed]
  simp only [begun, Function.update_idem]

/-! ## What the driver has to show -/

/-- The driver has the peers and the routes of the speaker. -/
structure Shows (peers : Dict Id BGPPeer) (speaker : BGPSpeaker) (state : SpeakerState) :
    Prop where
  peers : ∀ entry, entry ∈ state.peers ↔ ∃ id ∈ speaker.peers, ∃ peer,
    peers.lookup id = some peer ∧ entry = (peer.peerIp, peer.remoteAs)
  routes : ∀ destination nexthop, state.routes destination = some nexthop ↔
    ⟨destination, nexthop⟩ ∈ speaker.routes

/-- No destination has two routes. -/
def DistinctRoutes (routes : List BGPRoute) : Prop :=
  (routes.map BGPRoute.destination).Nodup

theorem DistinctRoutes.eq {routes : List BGPRoute} (distinct : DistinctRoutes routes)
    {route other : BGPRoute} (member : route ∈ routes) (otherMember : other ∈ routes)
    (same : route.destination = other.destination) : route = other :=
  List.inj_on_of_nodup_map distinct member otherMember same

theorem touch_withdrawals {old new : List BGPRoute} {destination : IPNetwork} :
    Write.Touch (withdrawals old new) destination ↔
      ∃ route ∈ old, route ∉ new ∧ route.destination = destination := by
  unfold withdrawals
  simp only [Write.touch_map, List.mem_filter, decide_eq_true_eq, and_assoc]

theorem touch_advertisements {old new : List BGPRoute} {destination : IPNetwork} :
    Write.Touch (advertisements old new) destination ↔
      ∃ route ∈ new, route ∉ old ∧ route.destination = destination := by
  unfold advertisements
  simp only [Write.touch_map, List.mem_filter, decide_eq_true_eq, and_assoc]

/-- Stale routes are withdrawn before new ones are advertised, so that a route can get
another next hop. -/
theorem routes_updated {old new : List BGPRoute} {store : IPNetwork → Option IPAddress}
    (oldDistinct : DistinctRoutes old) (newDistinct : DistinctRoutes new)
    (shown : ∀ destination nexthop, store destination = some nexthop ↔
      ⟨destination, nexthop⟩ ∈ old) (destination : IPNetwork) (nexthop : IPAddress) :
    Write.applyAll (Write.applyAll store (withdrawals old new)) (advertisements old new)
        destination = some nexthop ↔ ⟨destination, nexthop⟩ ∈ new := by
  by_cases advertised : Write.Touch (advertisements old new) destination
  · rcases touch_advertisements.mp advertised with ⟨route, isNew, _, rfl⟩
    have isNexthop : Write.applyAll (Write.applyAll store (withdrawals old new))
        (advertisements old new) route.destination = some route.nexthop := by
      refine Write.applyAll_agreed advertised ?_
      intro write member isKey
      unfold advertisements at member
      rcases List.mem_map.mp member with ⟨other, isOther, rfl⟩
      rw [newDistinct.eq (List.mem_filter.mp isOther).1 isNew isKey]
    rw [isNexthop, Option.some.injEq]
    constructor
    · rintro rfl
      exact isNew
    · intro member
      rw [newDistinct.eq isNew member rfl]
  · rw [Write.applyAll_untouched advertised]
    have isOld : ∀ nexthop, ⟨destination, nexthop⟩ ∈ new → ⟨destination, nexthop⟩ ∈ old := by
      intro other member
      by_contra absent
      exact advertised (touch_advertisements.mpr ⟨_, member, absent, rfl⟩)
    by_cases withdrawn : Write.Touch (withdrawals old new) destination
    · have isNone : Write.applyAll store (withdrawals old new) destination = none := by
        refine Write.applyAll_agreed withdrawn ?_
        intro write member _
        unfold withdrawals at member
        rcases List.mem_map.mp member with ⟨other, _, rfl⟩
        rfl
      rw [isNone]
      refine iff_of_false (by simp) fun member => ?_
      rcases touch_withdrawals.mp withdrawn with ⟨route, wasOld, isStale, rfl⟩
      rw [oldDistinct.eq wasOld (isOld nexthop member) rfl] at isStale
      exact isStale member
    · rw [Write.applyAll_untouched withdrawn, shown]
      refine ⟨fun member => ?_, isOld nexthop⟩
      by_contra absent
      exact withdrawn (touch_withdrawals.mpr ⟨_, member, absent, rfl⟩)

/-- The peers that the speaker keeps are the same as before. Those that it loses still have
the address that they had, which is not that of a peer that it keeps. -/
structure SteadyPeers (before after : Dict Id BGPPeer) (old new : List Id) : Prop where
  kept : ∀ id ∈ old, id ∈ new → ∀ was peer, before.lookup id = some was →
    after.lookup id = some peer → was.peerIp = peer.peerIp ∧ was.remoteAs = peer.remoteAs
  removed : ∀ id ∈ old, id ∉ new → ∀ was peer, before.lookup id = some was →
    after.lookup id = some peer → was.peerIp = peer.peerIp
  apart : ∀ id ∈ old, id ∉ new → ∀ other ∈ old, other ∈ new → ∀ was otherWas,
    before.lookup id = some was → before.lookup other = some otherWas →
    was.peerIp ≠ otherWas.peerIp

theorem Shows.updated {before after : Dict Id BGPPeer} {old speaker : BGPSpeaker}
    {state : SpeakerState} (shown : Shows before old state)
    (steady : SteadyPeers before after old.peers speaker.peers)
    (oldDistinct : DistinctRoutes old.routes) (newDistinct : DistinctRoutes speaker.routes)
    (foundBefore : ∀ id ∈ old.peers, Found before id)
    (foundAfter : ∀ id ∈ old.peers, Found after id) :
    Shows after speaker (updated after old.peers old.routes speaker state) where
  routes destination nexthop := by
    unfold BGPService.updated
    rw [advertiseRoutes_eq, withdrawRoutes_eq, routes_addPeers, routes_deletePeers]
    exact routes_updated oldDistinct newDistinct shown.routes destination nexthop
  peers entry := by
    unfold BGPService.updated
    rw [advertiseRoutes_eq, withdrawRoutes_eq]
    simp only
    rw [mem_addPeers, mem_deletePeers, shown.peers]
    constructor
    · rintro (⟨⟨id, isOld, was, isWas, rfl⟩, notDeleted⟩ | ⟨id, isNew, _, peer, isPeer, rfl⟩)
      · rcases foundAfter id isOld with ⟨peer, isPeer⟩
        by_cases isNew : id ∈ speaker.peers
        · rcases steady.kept id isOld isNew was peer isWas isPeer with ⟨sameIp, sameAs⟩
          exact ⟨id, isNew, peer, isPeer, by rw [sameIp, sameAs]⟩
        · exact absurd (steady.removed id isOld isNew was peer isWas isPeer)
            (notDeleted id isOld isNew peer isPeer)
      · exact ⟨id, isNew, peer, isPeer, rfl⟩
    · rintro ⟨id, isNew, peer, isPeer, rfl⟩
      by_cases isOld : id ∈ old.peers
      · rcases foundBefore id isOld with ⟨was, isWas⟩
        rcases steady.kept id isOld isNew was peer isWas isPeer with ⟨sameIp, sameAs⟩
        refine Or.inl ⟨⟨id, isOld, was, isWas, by rw [sameIp, sameAs]⟩, ?_⟩
        intro other otherOld isRemoved otherPeer isOtherPeer
        rcases foundBefore other otherOld with ⟨otherWas, isOtherWas⟩
        have differs := steady.apart other otherOld isRemoved id isOld isNew otherWas was
          isOtherWas isWas
        rw [← steady.removed other otherOld isRemoved otherWas otherPeer isOtherWas
          isOtherPeer, ← sameIp]
        exact differs.symm
      · exact Or.inr ⟨id, isNew, isOld, peer, isPeer, rfl⟩

/-- A new speaker. -/
theorem shows_new {peers : Dict Id BGPPeer} {speaker : BGPSpeaker}
    (distinct : DistinctRoutes speaker.routes) :
    Shows peers speaker (BGPService.updated peers [] [] speaker {}) := by
  let empty : BGPSpeaker := { speaker with peers := [], hostRoutes := [], prefixRoutes := [] }
  have shown : Shows peers empty {} := ⟨by simp [empty], by simp [empty, BGPSpeaker.routes]⟩
  have steady : SteadyPeers peers peers empty.peers speaker.peers :=
    ⟨by simp [empty], by simp [empty], by simp [empty]⟩
  exact shown.updated steady List.nodup_nil distinct (by simp [empty]) (by simp [empty])

/-! ## The passes of a sync -/

theorem exec_updatePeers (peers : List BGPPeer) (service : BGPService) :
    exec (forM peers updatePeer) service =
      (.ok ⟨⟩, { service with
        peers := peers.foldl (fun stored peer => stored.insert peer.id peer) service.peers }) := by
  induction peers generalizing service with
  | nil => rfl
  | cons peer peers induction =>
      have first : exec (updatePeer peer) service =
          (.ok (), { service with peers := service.peers.insert peer.id peer }) := rfl
      rw [List.forM_cons, exec_bind_ok first, induction]
      rfl

theorem lookup_updatePeers {peers : List BGPPeer} (distinct : (peers.map BGPPeer.id).Nodup)
    (stored : Dict Id BGPPeer) :
    (∀ peer ∈ peers, (peers.foldl (fun stored peer => stored.insert peer.id peer)
      stored).lookup peer.id = some peer) ∧
    ∀ id, id ∉ peers.map BGPPeer.id → (peers.foldl (fun stored peer =>
      stored.insert peer.id peer) stored).lookup id = stored.lookup id := by
  induction peers generalizing stored with
  | nil => exact ⟨by simp, fun _ _ => rfl⟩
  | cons peer peers induction =>
      rw [List.map_cons, List.nodup_cons] at distinct
      rcases induction distinct.2 (stored.insert peer.id peer) with ⟨written, kept⟩
      constructor
      · refine List.forall_mem_cons.mpr ⟨?_, written⟩
        rw [List.foldl_cons, kept peer.id distinct.1, AList.lookup_insert]
      · intro id absent
        rw [List.map_cons, List.mem_cons, not_or] at absent
        rw [List.foldl_cons, kept id absent.2, AList.lookup_insert_ne absent.1]

end BGPService

end Dragonflow
