import Dragonflow.Controller.BgpMirror

/-! # Runs of syncs

The driver mirrors the northbound database as long as peers and speakers are not edited in
ways that the differences do not show.
-/

namespace Dragonflow

open Program

/-- What the northbound database gives: objects have ids of their own, references are not
dangling, and neither local ASes nor the destinations of a speaker repeat. -/
structure BGPNorthbound.WellFormed (nb : BGPNorthbound) : Prop where
  peerIds : (nb.peers.map BGPPeer.id).Nodup
  speakerIds : (nb.speakers.map BGPSpeaker.id).Nodup
  localAses : (nb.speakers.map BGPSpeaker.localAs).Nodup
  references : ∀ speaker ∈ nb.speakers, ∀ id ∈ speaker.peers, id ∈ nb.peers.map BGPPeer.id
  destinations : ∀ speaker ∈ nb.speakers, BGPService.DistinctRoutes speaker.routes

namespace BGPService

/-- The driver has exactly the local ASes of the speakers, with their peers and routes. -/
structure Mirrors (nb : BGPNorthbound) (driver : Nat → Option SpeakerState) : Prop where
  localAses : ∀ localAs, driver localAs ≠ none ↔
    ∃ speaker ∈ nb.speakers, speaker.localAs = localAs
  speakers : ∀ speaker ∈ nb.speakers, ∃ state, driver speaker.localAs = some state ∧
    (∀ entry, entry ∈ state.peers ↔ ∃ id ∈ speaker.peers, ∃ peer ∈ nb.peers,
      peer.id = id ∧ entry = (peer.peerIp, peer.remoteAs)) ∧
    ∀ destination nexthop, state.routes destination = some nexthop ↔
      ⟨destination, nexthop⟩ ∈ speaker.routes

/-! ## The condition -/

/-- A speaker has the local AS that it had, and no other speaker had it. -/
def KeepsLocalAs (service : BGPService) (nb : BGPNorthbound) : Prop :=
  ∀ speaker ∈ nb.speakers, ∀ entry ∈ service.speakers.entries,
    entry.2.localAs = speaker.localAs ↔ entry.1 = speaker.id

/-- The peers that a speaker had are not edited. Its former peers may get another AS, but
not another address. -/
def KeepsPeers (service : BGPService) (nb : BGPNorthbound) : Prop :=
  ∀ speaker ∈ nb.speakers, ∀ old ∈ service.speakers.lookup speaker.id, ∀ id ∈ old.peers,
    ∀ was ∈ service.peers.lookup id, ∀ peer ∈ nb.peers, peer.id = id →
      was.peerIp = peer.peerIp ∧ (id ∈ speaker.peers → was.remoteAs = peer.remoteAs)

/-- A speaker does not lose a peer with the address of one that it keeps. -/
def KeepsAddresses (service : BGPService) (nb : BGPNorthbound) : Prop :=
  ∀ speaker ∈ nb.speakers, ∀ old ∈ service.speakers.lookup speaker.id, ∀ id ∈ old.peers,
    id ∉ speaker.peers → ∀ other ∈ old.peers, other ∈ speaker.peers →
      ∀ was ∈ service.peers.lookup id, ∀ otherWas ∈ service.peers.lookup other,
        was.peerIp ≠ otherWas.peerIp

/-- The changes are those that the service sees. -/
def Steady (service : BGPService) (nb : BGPNorthbound) : Prop :=
  service.KeepsLocalAs nb ∧ service.KeepsPeers nb ∧ service.KeepsAddresses nb

instance (service : BGPService) (nb : BGPNorthbound) : Decidable (service.KeepsLocalAs nb) :=
  inferInstanceAs (Decidable (∀ speaker ∈ nb.speakers, _))

instance (service : BGPService) (nb : BGPNorthbound) : Decidable (service.KeepsPeers nb) :=
  inferInstanceAs (Decidable (∀ speaker ∈ nb.speakers, _))

instance (service : BGPService) (nb : BGPNorthbound) : Decidable (service.KeepsAddresses nb) :=
  inferInstanceAs (Decidable (∀ speaker ∈ nb.speakers, _))

instance (service : BGPService) (nb : BGPNorthbound) : Decidable (service.Steady nb) :=
  inferInstanceAs (Decidable (_ ∧ _))

/-! ## Between syncs -/

/-- The store has what the last sync has found, and the driver shows it. -/
structure Settled (nb : BGPNorthbound) (service : BGPService) : Prop where
  peers : ∀ id peer, service.peers.lookup id = some peer ↔ peer ∈ nb.peers ∧ peer.id = id
  speakers : ∀ id speaker, service.speakers.lookup id = some speaker ↔
    speaker ∈ nb.speakers ∧ speaker.id = id
  shown : ∀ speaker ∈ nb.speakers, ∃ state, service.driver speaker.localAs = some state ∧
    Shows service.peers speaker state
  known : ∀ localAs, service.driver localAs ≠ none →
    ∃ speaker ∈ nb.speakers, speaker.localAs = localAs

variable {service before current : BGPService} {nb last : BGPNorthbound}

theorem Settled.found (settled : Settled nb service) (wellFormed : nb.WellFormed)
    {speaker : BGPSpeaker} (member : speaker ∈ nb.speakers) :
    ∀ id ∈ speaker.peers, Found service.peers id := by
  intro id isPeer
  rcases List.mem_map.mp (wellFormed.references speaker member id isPeer) with
    ⟨peer, isMember, isId⟩
  exact ⟨peer, (settled.peers id peer).mpr ⟨isMember, isId⟩⟩

theorem Settled.mirrors (settled : Settled nb service) : Mirrors nb service.driver where
  localAses localAs := by
    refine ⟨settled.known localAs, ?_⟩
    rintro ⟨speaker, member, rfl⟩
    rcases settled.shown speaker member with ⟨state, isState, _⟩
    rw [isState]
    exact Option.some_ne_none _
  speakers speaker member := by
    rcases settled.shown speaker member with ⟨state, isState, shown⟩
    refine ⟨state, isState, fun entry => ?_, shown.routes⟩
    rw [shown.peers]
    refine exists_congr fun id => and_congr_right fun _ => exists_congr fun peer => ?_
    rw [settled.peers, and_assoc]

/-! ## Writing the wanted speakers -/

/-- The stored peers when the speakers are updated: those that are not wanted are still
there. -/
def overlaid (stored : Dict Id BGPPeer) (nb : BGPNorthbound) : Dict Id BGPPeer :=
  nb.peers.foldl (fun stored peer => stored.insert peer.id peer) stored

theorem lookup_overlaid (wellFormed : nb.WellFormed) {stored : Dict Id BGPPeer} {id : Id}
    {peer : BGPPeer} (found : (overlaid stored nb).lookup id = some peer) :
    (peer ∈ nb.peers ∧ peer.id = id) ∨
      (id ∉ nb.peers.map BGPPeer.id ∧ stored.lookup id = some peer) := by
  rcases lookup_updatePeers wellFormed.peerIds stored with ⟨written, kept⟩
  by_cases isWanted : id ∈ nb.peers.map BGPPeer.id
  · rcases List.mem_map.mp isWanted with ⟨wanted, member, rfl⟩
    have same : some wanted = some peer := (written wanted member).symm.trans found
    rw [← Option.some.inj same]
    exact Or.inl ⟨member, rfl⟩
  · exact Or.inr ⟨isWanted, (kept id isWanted).symm.trans found⟩

theorem overlaid_found (wellFormed : nb.WellFormed) {stored : Dict Id BGPPeer} {id : Id}
    (found : Found stored id ∨ id ∈ nb.peers.map BGPPeer.id) :
    Found (overlaid stored nb) id := by
  rcases lookup_updatePeers wellFormed.peerIds stored with ⟨written, kept⟩
  by_cases isWanted : id ∈ nb.peers.map BGPPeer.id
  · rcases List.mem_map.mp isWanted with ⟨wanted, member, rfl⟩
    exact ⟨wanted, written wanted member⟩
  · rcases found.resolve_right isWanted with ⟨peer, isPeer⟩
    exact ⟨peer, (kept id isWanted).trans isPeer⟩

theorem steadyPeers_of_steady (wellFormed : nb.WellFormed) (steady : service.Steady nb)
    {speaker old : BGPSpeaker} (member : speaker ∈ nb.speakers)
    (isOld : service.speakers.lookup speaker.id = some old) :
    SteadyPeers service.peers (overlaid service.peers nb) old.peers speaker.peers := by
  have same : ∀ id ∈ old.peers, ∀ was peer, service.peers.lookup id = some was →
      (overlaid service.peers nb).lookup id = some peer →
      was.peerIp = peer.peerIp ∧ (id ∈ speaker.peers → was.remoteAs = peer.remoteAs) := by
    intro id isPeer was peer isWas isNow
    rcases lookup_overlaid wellFormed isNow with ⟨wanted, isId⟩ | ⟨_, unchanged⟩
    · exact steady.2.1 speaker member old isOld id isPeer was isWas peer wanted isId
    · rw [isWas] at unchanged
      cases unchanged
      exact ⟨rfl, fun _ => rfl⟩
  constructor
  · intro id isPeer isNew was peer isWas isNow
    rcases same id isPeer was peer isWas isNow with ⟨sameIp, sameAs⟩
    exact ⟨sameIp, sameAs isNew⟩
  · intro id isPeer _ was peer isWas isNow
    exact (same id isPeer was peer isWas isNow).1
  · intro id isPeer isRemoved other isOther isKept was otherWas isWas isOtherWas
    exact steady.2.2 speaker member old isOld id isPeer isRemoved other isOther isKept was
      isWas otherWas isOtherWas

/-- Some of the wanted speakers are written. -/
structure Midway (before : BGPService) (peers : Dict Id BGPPeer) (done : List BGPSpeaker)
    (current : BGPService) : Prop where
  samePeers : current.peers = peers
  written : ∀ speaker ∈ done, current.speakers.lookup speaker.id = some speaker
  kept : ∀ id, id ∉ done.map BGPSpeaker.id →
    current.speakers.lookup id = before.speakers.lookup id
  shown : ∀ speaker ∈ done, ∃ state, current.driver speaker.localAs = some state ∧
    Shows peers speaker state
  others : ∀ localAs, localAs ∉ done.map BGPSpeaker.localAs →
    current.driver localAs = before.driver localAs

/-- One more speaker is written. -/
theorem Midway.append {peers : Dict Id BGPPeer} {done : List BGPSpeaker}
    {speaker : BGPSpeaker} {state : SpeakerState} (midway : Midway before peers done current)
    (newId : speaker.id ∉ done.map BGPSpeaker.id)
    (newAs : speaker.localAs ∉ done.map BGPSpeaker.localAs)
    (shown : Shows peers speaker state) :
    Midway before peers (done ++ [speaker])
      { current with
        driver := Function.update current.driver speaker.localAs (some state)
        speakers := current.speakers.insert speaker.id speaker } where
  samePeers := midway.samePeers
  written other member := by
    simp only
    rw [Dict.lookup_insert_eq]
    rcases List.mem_append.mp member with isDone | isNew
    · have different : other.id ≠ speaker.id :=
        fun same => newId (same ▸ List.mem_map_of_mem isDone)
      rw [if_neg different]
      exact midway.written other isDone
    · rw [List.mem_singleton.mp isNew, if_pos rfl]
  kept id absent := by
    rw [List.map_append, List.mem_append, not_or] at absent
    simp only
    rw [AList.lookup_insert_ne fun same => absent.2 (by simp [same])]
    exact midway.kept id absent.1
  shown other member := by
    simp only
    rcases List.mem_append.mp member with isDone | isNew
    · have different : other.localAs ≠ speaker.localAs :=
        fun same => newAs (same ▸ List.mem_map_of_mem isDone)
      rw [Function.update_of_ne different]
      exact midway.shown other isDone
    · rw [List.mem_singleton.mp isNew, Function.update_self]
      exact ⟨state, rfl, shown⟩
  others localAs absent := by
    rw [List.map_append, List.mem_append, not_or] at absent
    simp only
    rw [Function.update_of_ne fun same => absent.2 (by simp [same])]
    exact midway.others localAs absent.1

/-- The update of a wanted speaker. -/
theorem Midway.updateSpeaker {done : List BGPSpeaker} {speaker : BGPSpeaker}
    (midway : Midway before (overlaid before.peers nb) done current)
    (settled : Settled last before) (lastWellFormed : last.WellFormed)
    (wellFormed : nb.WellFormed) (steady : before.Steady nb)
    (member : speaker ∈ nb.speakers) (newId : speaker.id ∉ done.map BGPSpeaker.id)
    (newAs : speaker.localAs ∉ done.map BGPSpeaker.localAs) :
    ∃ after, exec (BGPService.updateSpeaker speaker) current = (.ok (), after) ∧
      Midway before (overlaid before.peers nb) (done ++ [speaker]) after := by
  have foundNew : ∀ id ∈ speaker.peers, Found current.peers id := by
    intro id isPeer
    rw [midway.samePeers]
    exact overlaid_found wellFormed (Or.inr (wellFormed.references speaker member id isPeer))
  have isOriginal := midway.kept speaker.id newId
  have isDriver := midway.others speaker.localAs newAs
  unfold BGPService.updateSpeaker
  rw [exec_bind_ok (exec_get current), isOriginal]
  cases original : before.speakers.lookup speaker.id with
  | none =>
      have isNew : current.driver speaker.localAs = none := by
        rw [isDriver]
        by_contra isKnown
        rcases settled.known speaker.localAs isKnown with ⟨old, isOld, sameAs⟩
        have stored := (settled.speakers old.id old).mpr ⟨isOld, rfl⟩
        have sameId := (steady.1 speaker member ⟨old.id, old⟩
          (AList.mem_lookup_iff.mp stored)).mp sameAs
        rw [← sameId, stored] at original
        cases original
      rw [exec_bind_ok (exec_updateNew foundNew isNew)]
      refine ⟨_, rfl, midway.append newId newAs ?_⟩
      rw [midway.samePeers]
      exact shows_new (wellFormed.destinations speaker member)
  | some old =>
      rcases (settled.speakers speaker.id old).mp original with ⟨isOld, sameId⟩
      have sameAs : old.localAs = speaker.localAs :=
        (steady.1 speaker member ⟨speaker.id, old⟩ (AList.mem_lookup_iff.mp original)).mpr rfl
      rcases settled.shown old isOld with ⟨state, isState, shown⟩
      rw [sameAs, ← isDriver] at isState
      have foundBefore := settled.found lastWellFormed isOld
      have foundOld : ∀ id ∈ old.peers, Found (overlaid before.peers nb) id :=
        fun id isPeer => overlaid_found wellFormed (Or.inl (foundBefore id isPeer))
      have foundNow : ∀ id ∈ old.peers, Found current.peers id := by
        rw [midway.samePeers]
        exact foundOld
      rw [exec_bind_ok (exec_updateKnown foundNow foundNew isState)]
      refine ⟨_, rfl, midway.append newId newAs ?_⟩
      rw [midway.samePeers]
      exact shown.updated (steadyPeers_of_steady wellFormed steady member original)
        (lastWellFormed.destinations old isOld) (wellFormed.destinations speaker member)
        foundBefore foundOld

theorem exec_updateSpeakers (settled : Settled last before)
    (lastWellFormed : last.WellFormed) (wellFormed : nb.WellFormed)
    (steady : before.Steady nb) :
    ∃ after, exec (forM nb.speakers updateSpeaker)
        { before with peers := overlaid before.peers nb } = (.ok ⟨⟩, after) ∧
      Midway before (overlaid before.peers nb) nb.speakers after := by
  have walked : ∀ rest done current, nb.speakers = done ++ rest →
      Midway before (overlaid before.peers nb) done current →
      ∃ after, exec (forM rest updateSpeaker) current = (.ok ⟨⟩, after) ∧
        Midway before (overlaid before.peers nb) nb.speakers after := by
    intro rest
    induction rest with
    | nil =>
        intro done current split midway
        rw [List.append_nil] at split
        exact ⟨current, rfl, split ▸ midway⟩
    | cons speaker rest induction =>
        intro done current split midway
        have member : speaker ∈ nb.speakers := by simp [split]
        have newId : speaker.id ∉ done.map BGPSpeaker.id := by
          have distinct := wellFormed.speakerIds
          rw [split, List.map_append, List.nodup_append] at distinct
          exact fun isDone => distinct.2.2 _ isDone _ List.mem_cons_self rfl
        have newAs : speaker.localAs ∉ done.map BGPSpeaker.localAs := by
          have distinct := wellFormed.localAses
          rw [split, List.map_append, List.nodup_append] at distinct
          exact fun isDone => distinct.2.2 _ isDone _ List.mem_cons_self rfl
        rcases midway.updateSpeaker settled lastWellFormed wellFormed steady member newId
          newAs with ⟨next, executed, nextMidway⟩
        rw [List.forM_cons, exec_bind_ok executed]
        exact induction (done ++ [speaker]) next (by simp [split]) nextMidway
  refine walked nb.speakers [] _ rfl ⟨rfl, by simp, fun _ _ => rfl, by simp, fun _ _ => rfl⟩

/-! ## Removing what is not wanted -/

theorem exec_deleteSpeaker {speaker : BGPSpeaker}
    (found : ∀ id ∈ speaker.peers, Found service.peers id) :
    exec (deleteSpeaker speaker) service =
      (.ok (), { service with
        driver := Function.update service.driver speaker.localAs none
        speakers := service.speakers.erase speaker.id }) := by
  have each : ∀ id ∈ speaker.peers, ∀ current : BGPService, current.peers = service.peers →
      exec (do
        let peer ← readPeer id
        onSpeaker speaker.localAs fun state => state.deleteBgpPeer peer.peerIp) current =
      (.ok (), current.edit speaker.localAs fun state =>
        deletePeers service.peers [] state id) := by
    intro id member current samePeers
    rcases found id member with ⟨peer, isPeer⟩
    unfold deletePeers
    simp only [List.not_mem_nil, not_false_eq_true, if_true, isPeer]
    rw [exec_bind_ok (exec_readPeer (samePeers ▸ isPeer))]
    rfl
  have deleted := exec_edits speaker.peers
    (fun id state => deletePeers service.peers [] state id) each
  have removed : exec (removeBgpSpeaker speaker) service = (.ok (), { service with
      driver := Function.update service.driver speaker.localAs none }) := by
    unfold removeBgpSpeaker
    rw [exec_bind_ok deleted]
    unfold deleteBgpSpeaker edit
    rw [exec_modify]
    simp only [Function.update_idem]
  unfold deleteSpeaker
  rw [exec_bind_ok removed]
  rfl

/-- Some of the speakers are removed. -/
structure Trimmed (before : BGPService) (gone : List Id) (current : BGPService) : Prop where
  samePeers : current.peers = before.peers
  speakers : ∀ id, current.speakers.lookup id =
    if id ∈ gone then none else before.speakers.lookup id
  kept : ∀ localAs, (∀ id ∈ gone, ∀ old, before.speakers.lookup id = some old →
    old.localAs ≠ localAs) → current.driver localAs = before.driver localAs
  removed : ∀ id ∈ gone, ∀ old, before.speakers.lookup id = some old →
    current.driver old.localAs = none

theorem Trimmed.append {gone : List Id} {id : Id} {old : BGPSpeaker}
    (trimmed : Trimmed before gone current) (isOld : before.speakers.lookup id = some old)
    (isId : old.id = id) :
    Trimmed before (gone ++ [id])
      { current with
        driver := Function.update current.driver old.localAs none
        speakers := current.speakers.erase old.id } where
  samePeers := trimmed.samePeers
  speakers other := by
    simp only [List.mem_append, List.mem_singleton]
    rw [Dict.lookup_erase_eq, isId, trimmed.speakers other]
    by_cases same : other = id
    · rw [if_pos same, if_pos (Or.inr same)]
    · simp only [same, if_false, or_false]
  kept localAs different := by
    have isOther : localAs ≠ old.localAs :=
      (different id (by simp) old isOld).symm
    simp only
    rw [Function.update_of_ne isOther]
    exact trimmed.kept localAs fun other member =>
      different other (List.mem_append_left _ member)
  removed other member otherOld isOther := by
    simp only
    rw [Function.update_apply]
    split
    · rfl
    · next different =>
        rcases List.mem_append.mp member with isGone | isNew
        · exact trimmed.removed other isGone otherOld isOther
        · rw [List.mem_singleton.mp isNew, isOld] at isOther
          cases isOther
          exact absurd rfl different

theorem exec_deleteSpeakers {ids : List Id}
    (stored : ∀ id ∈ ids, ∃ old, before.speakers.lookup id = some old ∧ old.id = id ∧
      ∀ peer ∈ old.peers, Found before.peers peer) :
    ∃ after, exec (forM ids (deletePresent before.speakers)) before = (.ok ⟨⟩, after) ∧
      Trimmed before ids after := by
  have walked : ∀ rest gone current, ids = gone ++ rest → Trimmed before gone current →
      ∃ after, exec (forM rest (deletePresent before.speakers)) current = (.ok ⟨⟩, after) ∧
        Trimmed before ids after := by
    intro rest
    induction rest with
    | nil =>
        intro gone current split trimmed
        rw [List.append_nil] at split
        exact ⟨current, rfl, split ▸ trimmed⟩
    | cons id rest induction =>
        intro gone current split trimmed
        rcases stored id (by simp [split]) with ⟨old, isOld, isId, found⟩
        have foundNow : ∀ peer ∈ old.peers, Found current.peers peer := by
          rw [trimmed.samePeers]
          exact found
        have executed := exec_deleteSpeaker foundNow
        have isDelete : deletePresent before.speakers id = deleteSpeaker old := by
          unfold deletePresent
          rw [isOld]
        rw [List.forM_cons, isDelete, exec_bind_ok executed]
        exact induction (gone ++ [id]) _ (by simp [split]) (trimmed.append isOld isId)
  exact walked ids [] before rfl ⟨rfl, by simp, fun _ _ => rfl, by simp⟩

theorem exec_deletePeerIds (ids : List Id) (service : BGPService) :
    exec (forM ids deletePeer) service =
      (.ok ⟨⟩, { service with
        peers := ids.foldl (fun stored id => stored.erase id) service.peers }) := by
  induction ids generalizing service with
  | nil => rfl
  | cons id ids induction =>
      have first : exec (deletePeer id) service =
          (.ok (), { service with peers := service.peers.erase id }) := rfl
      rw [List.forM_cons, exec_bind_ok first, induction]
      rfl

theorem lookup_deletePeerIds (ids : List Id) (stored : Dict Id BGPPeer) (id : Id) :
    (ids.foldl (fun stored id => stored.erase id) stored).lookup id =
      if id ∈ ids then none else stored.lookup id := by
  induction ids generalizing stored with
  | nil => simp
  | cons first ids induction =>
      rw [List.foldl_cons, induction, Dict.lookup_erase_eq]
      by_cases isLater : id ∈ ids
      · simp [isLater]
      · simp [isLater]

theorem mem_unwanted {β : Type} {present : Dict Id β} {desired : List Id} {id : Id} :
    id ∈ unwanted present desired ↔ (∃ value, present.lookup id = some value) ∧
      id ∉ desired := by
  unfold unwanted
  rw [List.mem_filter, decide_eq_true_eq, Dict.mem_keys_iff]

theorem mem_walk_unwanted {β : Type} (order : Iteration Id) {present : Dict Id β}
    {desired : List Id} {id : Id} :
    id ∈ order.walk (unwanted present desired) ↔
      (∃ value, present.lookup id = some value) ∧ id ∉ desired :=
  (order.perm _).mem_iff.trans mem_unwanted

/-- Of the stored peers those that are wanted are left. -/
theorem lookup_wantedPeers (order : Iteration Id) (stored : Dict Id BGPPeer)
    (desired : List Id) (id : Id) :
    ((order.walk (unwanted stored desired)).foldl (fun stored id => stored.erase id)
      stored).lookup id = if id ∈ desired then stored.lookup id else none := by
  rw [lookup_deletePeerIds]
  by_cases isWanted : id ∈ desired
  · rw [if_pos isWanted, if_neg fun isGone =>
      ((mem_walk_unwanted order).mp isGone).2 isWanted]
  · rw [if_neg isWanted]
    cases found : stored.lookup id with
    | none => exact ite_self _
    | some peer => exact if_pos ((mem_walk_unwanted order).mpr ⟨⟨peer, found⟩, isWanted⟩)

/-! ## Whole syncs -/

section Passes

variable {middle after : BGPService} {order : Iteration Id}

/-- The local AS of a speaker that is removed is not that of a wanted one. -/
theorem Midway.removed_localAs
    (midway : Midway before (overlaid before.peers nb) nb.speakers middle)
    (steady : before.Steady nb) {speaker old : BGPSpeaker} {id : Id}
    (member : speaker ∈ nb.speakers) (absent : id ∉ nb.speakers.map BGPSpeaker.id)
    (isOld : middle.speakers.lookup id = some old) : old.localAs ≠ speaker.localAs := by
  intro sameAs
  rw [midway.kept id absent] at isOld
  have sameId : id = speaker.id :=
    (steady.1 speaker member ⟨id, old⟩ (AList.mem_lookup_iff.mp isOld)).mp sameAs
  exact absent (sameId ▸ List.mem_map_of_mem member)

/-- The stored speakers are the wanted ones. -/
theorem Midway.speakers (midway : Midway before (overlaid before.peers nb) nb.speakers middle)
    (trimmed : Trimmed middle
      (order.walk (unwanted middle.speakers (nb.speakers.map BGPSpeaker.id))) after)
    (id : Id) (speaker : BGPSpeaker) :
    after.speakers.lookup id = some speaker ↔ speaker ∈ nb.speakers ∧ speaker.id = id := by
  rw [trimmed.speakers]
  constructor
  · intro found
    split at found
    · cases found
    · next isKept =>
        by_cases isWanted : id ∈ nb.speakers.map BGPSpeaker.id
        · rcases List.mem_map.mp isWanted with ⟨wanted, member, rfl⟩
          have same := (midway.written wanted member).symm.trans found
          rw [← Option.some.inj same]
          exact ⟨member, rfl⟩
        · exact absurd ((mem_walk_unwanted order).mpr ⟨⟨speaker, found⟩, isWanted⟩) isKept
  · rintro ⟨member, rfl⟩
    rw [if_neg fun isGone => ((mem_walk_unwanted order).mp isGone).2
      (List.mem_map_of_mem member)]
    exact midway.written speaker member

/-- The driver has no other speakers. -/
theorem Midway.known (midway : Midway before (overlaid before.peers nb) nb.speakers middle)
    (settled : Settled last before) (steady : before.Steady nb)
    (trimmed : Trimmed middle
      (order.walk (unwanted middle.speakers (nb.speakers.map BGPSpeaker.id))) after)
    {localAs : Nat} (isKnown : after.driver localAs ≠ none) :
    ∃ speaker ∈ nb.speakers, speaker.localAs = localAs := by
  by_contra absent
  have notWanted : localAs ∉ nb.speakers.map BGPSpeaker.localAs := by
    intro isWanted
    rcases List.mem_map.mp isWanted with ⟨speaker, member, sameAs⟩
    exact absent ⟨speaker, member, sameAs⟩
  have notRemoved : ∀ id ∈ order.walk (unwanted middle.speakers
      (nb.speakers.map BGPSpeaker.id)), ∀ old, middle.speakers.lookup id = some old →
        old.localAs ≠ localAs := by
    rintro id member old isOld rfl
    exact isKnown (trimmed.removed id member old isOld)
  have wasKnown : before.driver localAs ≠ none := by
    rw [← midway.others localAs notWanted, ← trimmed.kept localAs notRemoved]
    exact isKnown
  rcases settled.known localAs wasKnown with ⟨old, isLast, sameAs⟩
  have stored := (settled.speakers old.id old).mpr ⟨isLast, rfl⟩
  by_cases isWanted : old.id ∈ nb.speakers.map BGPSpeaker.id
  · rcases List.mem_map.mp isWanted with ⟨speaker, member, sameId⟩
    have same : old.localAs = speaker.localAs :=
      (steady.1 speaker member ⟨old.id, old⟩ (AList.mem_lookup_iff.mp stored)).mpr sameId.symm
    exact absent ⟨speaker, member, same.symm.trans sameAs⟩
  · have isStill := (midway.kept old.id isWanted).trans stored
    exact notRemoved old.id ((mem_walk_unwanted order).mpr ⟨⟨old, isStill⟩, isWanted⟩) old
      isStill sameAs

/-- What is left after all passes. -/
theorem Midway.settled
    (midway : Midway before (overlaid before.peers nb) nb.speakers middle)
    (settled : Settled last before) (wellFormed : nb.WellFormed) (steady : before.Steady nb)
    (trimmed : Trimmed middle
      (order.walk (unwanted middle.speakers (nb.speakers.map BGPSpeaker.id))) after) :
    Settled nb { after with
      peers := (order.walk (unwanted after.peers (nb.peers.map BGPPeer.id))).foldl
        (fun stored id => stored.erase id) after.peers } := by
  have isOverlaid : after.peers = overlaid before.peers nb :=
    trimmed.samePeers.trans midway.samePeers
  constructor
  · intro id peer
    simp only
    rw [lookup_wantedPeers, isOverlaid]
    constructor
    · intro found
      split at found
      · next isWanted =>
          rcases lookup_overlaid wellFormed found with isPeer | ⟨absent, _⟩
          · exact isPeer
          · exact absurd isWanted absent
      · cases found
    · rintro ⟨member, rfl⟩
      rw [if_pos (List.mem_map_of_mem member)]
      exact (lookup_updatePeers wellFormed.peerIds before.peers).1 peer member
  · intro id speaker
    simp only
    exact midway.speakers trimmed id speaker
  · intro speaker member
    rcases midway.shown speaker member with ⟨state, isState, shown⟩
    refine ⟨state, ?_, fun entry => ?_, shown.routes⟩
    · rw [← isState]
      refine trimmed.kept speaker.localAs fun id isGone old isOld => ?_
      exact midway.removed_localAs steady member ((mem_walk_unwanted order).mp isGone).2 isOld
    · rw [shown.peers]
      refine exists_congr fun id => and_congr_right fun isPeer => exists_congr fun peer => ?_
      simp only
      rw [lookup_wantedPeers, if_pos (wellFormed.references speaker member id isPeer),
        isOverlaid]
  · exact fun localAs isKnown => midway.known settled steady trimmed isKnown

end Passes

/-- One sync. -/
theorem syncStep_settled (order : Iteration Id) (settled : Settled last before)
    (lastWellFormed : last.WellFormed) (wellFormed : nb.WellFormed)
    (steady : before.Steady nb) :
    ∃ after, syncStep order before nb = some after ∧ Settled nb after := by
  rcases exec_updateSpeakers settled lastWellFormed wellFormed steady with
    ⟨middle, updated, midway⟩
  have stored : ∀ id ∈ order.walk (unwanted middle.speakers (nb.speakers.map BGPSpeaker.id)),
      ∃ old, middle.speakers.lookup id = some old ∧ old.id = id ∧
        ∀ peer ∈ old.peers, Found middle.peers peer := by
    intro id member
    rcases (mem_walk_unwanted order).mp member with ⟨⟨old, isOld⟩, absent⟩
    have wasOld := isOld
    rw [midway.kept id absent] at wasOld
    rcases (settled.speakers id old).mp wasOld with ⟨isLast, isId⟩
    refine ⟨old, isOld, isId, fun peer isPeer => ?_⟩
    rw [midway.samePeers]
    exact overlaid_found wellFormed (Or.inl (settled.found lastWellFormed isLast peer isPeer))
  rcases exec_deleteSpeakers stored with ⟨after, deleted, trimmed⟩
  have begun : exec (forM nb.peers updatePeer) before =
      (.ok ⟨⟩, { before with peers := overlaid before.peers nb }) := exec_updatePeers _ _
  refine ⟨_, ?_, midway.settled settled wellFormed steady trimmed⟩
  unfold syncStep sync
  rw [exec_bind_ok begun, exec_bind_ok updated,
    exec_bind_ok (exec_get middle), exec_bind_ok deleted, exec_bind_ok (exec_get after),
    exec_deletePeerIds]

theorem wellFormed_empty : BGPNorthbound.WellFormed {} :=
  ⟨List.nodup_nil, List.nodup_nil, List.nodup_nil, by simp, by simp⟩

theorem settled_empty : Settled {} {} where
  peers _ _ := by simp
  speakers _ _ := by simp
  shown _ impossible := by cases impossible
  known _ isKnown := absurd rfl isKnown

theorem syncs_settled (order : Iteration Id) {nbs : List BGPNorthbound}
    (settled : Settled last before) (lastWellFormed : last.WellFormed)
    (wellFormed : ∀ nb ∈ nbs, nb.WellFormed)
    (steady : Throughout (syncStep order) Steady nbs before) :
    ∃ after, steps (syncStep order) nbs before = some after ∧
      Settled (nbs.getLast?.getD last) after := by
  induction nbs generalizing last before with
  | nil => exact ⟨before, rfl, settled⟩
  | cons nb nbs induction =>
      rcases steady with ⟨isSteady, later⟩
      rcases syncStep_settled order settled lastWellFormed (wellFormed nb List.mem_cons_self)
        isSteady with ⟨middle, stepped, middleSettled⟩
      rw [stepped] at later
      rcases induction middleSettled (wellFormed nb List.mem_cons_self)
        (fun other member => wellFormed other (List.mem_cons_of_mem _ member)) later with
        ⟨after, walked, afterSettled⟩
      refine ⟨after, steps_cons_eq_some.mpr ⟨middle, stepped, walked⟩, ?_⟩
      rw [List.getLast?_cons]
      exact afterSettled

/-- Walk a set in the order in which it was made. -/
def asMade : Iteration Id := ⟨id, fun _ => List.Perm.refl _⟩

/-- A speaker is replaced by another one with its local AS. -/
def replacedSpeaker : List BGPNorthbound :=
  [{ speakers := [{ id := "speaker1", localAs := 1234 }] },
    { speakers := [{ id := "speaker2", localAs := 1234 }] }]

/-- One peer and one speaker. The peer gets another address. -/
def editedPeer : List BGPNorthbound :=
  [{ peers := [⟨"peer1", .v4 1, 4321⟩]
     speakers := [{ id := "speaker1", localAs := 1234, peers := ["peer1"] }] },
    { peers := [⟨"peer1", .v4 2, 4321⟩]
      speakers := [{ id := "speaker1", localAs := 1234, peers := ["peer1"] }] }]

/-- The new speaker is removed together with the old one, and the driver still peers with
the old address. -/
theorem bgp_changes_missed :
    (¬ ∃ after, steps (syncStep asMade) replacedSpeaker {} = some after ∧
      ∀ nb, replacedSpeaker.getLast? = some nb → Mirrors nb after.driver) ∧
    ¬ ∃ after, steps (syncStep asMade) editedPeer {} = some after ∧
      ∀ nb, editedPeer.getLast? = some nb → Mirrors nb after.driver := by
  constructor
  · rintro ⟨after, reached, mirrors⟩
    have ran : (steps (syncStep asMade) replacedSpeaker {}).map (fun after =>
        (after.driver 1234).isNone) = some true := by decide +kernel
    rw [reached, Option.map_some, Option.some.injEq, Option.isNone_iff_eq_none] at ran
    rcases (mirrors _ rfl).speakers _ List.mem_cons_self with ⟨state, isState, _⟩
    rw [ran] at isState
    cases isState
  · rintro ⟨after, reached, mirrors⟩
    have ran : (steps (syncStep asMade) editedPeer {}).map (fun after =>
        (after.driver 1234).map SpeakerState.peers) = some (some [(.v4 1, 4321)]) := by
      decide +kernel
    rw [reached, Option.map_some, Option.some.injEq, Option.map_eq_some_iff] at ran
    rcases ran with ⟨state, isState, isPeers⟩
    rcases (mirrors _ rfl).speakers _ List.mem_cons_self with ⟨shown, isShown, peers, _⟩
    rw [isState] at isShown
    cases isShown
    have isNew : (IPAddress.v4 2, 4321) ∈ state.peers :=
      (peers _).mpr ⟨"peer1", List.mem_cons_self, _, List.mem_cons_self, rfl, rfl⟩
    rw [isPeers] at isNew
    exact absurd isNew (by decide)

/-- In every run of syncs in which local ASes and the peers of speakers are not edited, no
sync raises, and the driver mirrors the northbound database after each of them. -/
theorem bgp_syncs_mirror (order : Iteration Id) (nbs : List BGPNorthbound)
    (wellFormed : ∀ nb ∈ nbs, nb.WellFormed)
    (steady : Throughout (syncStep order) Steady nbs {}) :
    ∃ after, steps (syncStep order) nbs {} = some after ∧
      ∀ nb, nbs.getLast? = some nb → Mirrors nb after.driver := by
  rcases syncs_settled order settled_empty wellFormed_empty wellFormed steady with
    ⟨after, reached, settled⟩
  refine ⟨after, reached, fun nb isLast => ?_⟩
  rw [isLast] at settled
  exact settled.mirrors

/-- A route gets another next hop, a peer is replaced by one with its address, and at last
the speaker is removed. -/
def steadyRun : List BGPNorthbound :=
  [{ peers := [⟨"peer1", .v4 1, 4321⟩]
     speakers := [{ id := "speaker1", localAs := 1234, peers := ["peer1"],
                    prefixRoutes := [⟨.v4 0x0a000000 24, .v4 7⟩] }] },
    { peers := [⟨"peer2", .v4 1, 4322⟩]
      speakers := [{ id := "speaker1", localAs := 1234, peers := ["peer2"],
                     prefixRoutes := [⟨.v4 0x0a000000 24, .v4 8⟩] }] },
    {}]

theorem bgp_syncs_mirror_steady :
    (∃ after, steps (syncStep asMade) steadyRun {} = some after ∧
      ∀ nb, steadyRun.getLast? = some nb → Mirrors nb after.driver) ∧
    ∃ after, steps (syncStep asMade) (steadyRun.take 2) {} = some after ∧
      ∀ nb, (steadyRun.take 2).getLast? = some nb → Mirrors nb after.driver := by
  have wellFormed : ∀ nb ∈ steadyRun, nb.WellFormed := by
    intro nb member
    simp only [steadyRun, List.mem_cons, List.not_mem_nil, or_false] at member
    rcases member with rfl | rfl | rfl
    · exact ⟨by decide, by decide, by decide, by decide, by unfold DistinctRoutes; decide⟩
    · exact ⟨by decide, by decide, by decide, by decide, by unfold DistinctRoutes; decide⟩
    · exact wellFormed_empty
  exact ⟨bgp_syncs_mirror asMade steadyRun wellFormed (by decide +kernel),
    bgp_syncs_mirror asMade (steadyRun.take 2)
      (fun nb member => wellFormed nb (List.mem_of_mem_take member)) (by decide +kernel)⟩

end BGPService

end Dragonflow
