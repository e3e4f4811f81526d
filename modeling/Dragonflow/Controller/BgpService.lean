import Dragonflow.Db.Ports
import Dragonflow.Db.Sync
import Dragonflow.Foundation.Steps
import Dragonflow.Foundation.Writes

/-! # The BGP service

`dragonflow/controller/df_bgp_service.py`: peers and speakers of the northbound database
are handed to a driver, as changes to what was handed to it before.
-/

namespace Dragonflow

open Program

/-- The fields of `bgp.BGPPeer` that the service reads. -/
structure BGPPeer where
  id : Id
  peerIp : IPAddress
  remoteAs : Nat
  deriving DecidableEq, Repr

/-- A route of a speaker. Destinations are compared as networks, so the address of the
destination is that of the network. -/
structure BGPRoute where
  destination : IPNetwork
  nexthop : IPAddress
  deriving DecidableEq, Repr

/-- `bgp.BGPSpeaker`. The references to peers are kept as ids, which is how they are
compared. -/
structure BGPSpeaker where
  id : Id
  topic : String := ""
  name : Option String := none
  localAs : Nat
  peers : List Id := []
  hostRoutes : List BGPRoute := []
  prefixRoutes : List BGPRoute := []
  ipVersion : Nat := 4
  deriving DecidableEq, Repr

namespace BGPSpeaker

def routes (speaker : BGPSpeaker) : List BGPRoute := speaker.hostRoutes ++ speaker.prefixRoutes

end BGPSpeaker

/-- What the driver has for a local AS: its peers, with address and AS, and the next hops
of its routes. -/
structure SpeakerState where
  peers : List (IPAddress × Nat) := []
  routes : IPNetwork → Option IPAddress := fun _ => none

namespace SpeakerState

def deleteBgpPeer (state : SpeakerState) (peerIp : IPAddress) : SpeakerState :=
  { state with peers := state.peers.filter fun peer => peer.1 ≠ peerIp }

def addBgpPeer (state : SpeakerState) (peerIp : IPAddress) (remoteAs : Nat) : SpeakerState :=
  { state with peers := state.peers.insert (peerIp, remoteAs) }

def withdrawRoute (state : SpeakerState) (destination : IPNetwork) : SpeakerState :=
  { state with routes := Write.apply state.routes ⟨destination, none⟩ }

def advertiseRoute (state : SpeakerState) (route : BGPRoute) : SpeakerState :=
  { state with routes := Write.apply state.routes ⟨route.destination, some route.nexthop⟩ }

end SpeakerState

/-- The service, with its part of the store and the driver. -/
structure BGPService where
  peers : Dict Id BGPPeer := ∅
  speakers : Dict Id BGPSpeaker := ∅
  driver : Nat → Option SpeakerState := fun _ => none

/-- What `get_all` returns for the two models during a sync. -/
structure BGPNorthbound where
  peers : List BGPPeer := []
  speakers : List BGPSpeaker := []
  deriving DecidableEq, Repr

namespace BGPService

abbrev Action (β : Type) := Program BGPService PyError β

/-! ## The driver -/

def addBgpSpeaker (localAs : Nat) : Action Unit :=
  modify fun service =>
    { service with
      driver := Function.update service.driver localAs
        (some ((service.driver localAs).getD {})) }

def deleteBgpSpeaker (localAs : Nat) : Action Unit :=
  modify fun service =>
    { service with
      driver := Function.update service.driver localAs none }

/-- Change what the driver has for a local AS. -/
def edit (service : BGPService) (localAs : Nat) (change : SpeakerState → SpeakerState) :
    BGPService :=
  { service with
    driver := Function.update service.driver localAs
      ((service.driver localAs).map change) }

def onSpeaker (localAs : Nat) (change : SpeakerState → SpeakerState) : Action Unit :=
  modify fun service => service.edit localAs change

/-! ## The handlers -/

/-- Read through a reference. -/
def readPeer (id : Id) : Action BGPPeer := do
  let service ← get
  match service.peers.lookup id with
  | none => throw .referencedObjectNotFound
  | some peer => pure peer

/-- The loops of `update_bgp_speaker`. -/
def changeSpeaker (speaker : BGPSpeaker) (oldPeers : List Id) (oldRoutes : List BGPRoute) :
    Action Unit := do
  forM oldPeers fun id =>
    if id ∉ speaker.peers then do
      let peer ← readPeer id
      onSpeaker speaker.localAs fun state => state.deleteBgpPeer peer.peerIp
    else pure ()
  forM speaker.peers fun id =>
    if id ∉ oldPeers then do
      let peer ← readPeer id
      onSpeaker speaker.localAs fun state => state.addBgpPeer peer.peerIp peer.remoteAs
    else pure ()
  forM oldRoutes fun route =>
    if route ∉ speaker.routes then
      onSpeaker speaker.localAs fun state => state.withdrawRoute route.destination
    else pure ()
  forM speaker.routes fun route =>
    if route ∉ oldRoutes then
      onSpeaker speaker.localAs fun state => state.advertiseRoute route
    else pure ()

def updateBgpSpeaker (speaker : BGPSpeaker) (originalSpeaker : Option BGPSpeaker) :
    Action Unit := do
  if originalSpeaker = some speaker then
    return
  else
    match originalSpeaker with
    | none => do
        addBgpSpeaker speaker.localAs
        changeSpeaker speaker [] []
    | some original => changeSpeaker speaker original.peers original.routes

/-- `delete_bgp_speaker` -/
def removeBgpSpeaker (speaker : BGPSpeaker) : Action Unit := do
  forM speaker.peers fun id => do
    let peer ← readPeer id
    onSpeaker speaker.localAs fun state => state.deleteBgpPeer peer.peerIp
  deleteBgpSpeaker speaker.localAs

/-- `update_model_object` for a peer. -/
def updatePeer (peer : BGPPeer) : Action Unit :=
  modify fun service => { service with peers := service.peers.insert peer.id peer }

/-- `update_model_object` for a speaker. -/
def updateSpeaker (speaker : BGPSpeaker) : Action Unit := do
  let service ← get
  updateBgpSpeaker speaker (service.speakers.lookup speaker.id)
  modify fun service => { service with speakers := service.speakers.insert speaker.id speaker }

/-- `delete_model_object` for a peer. -/
def deletePeer (id : Id) : Action Unit :=
  modify fun service => { service with peers := service.peers.erase id }

/-- `delete_model_object` for a speaker. -/
def deleteSpeaker (speaker : BGPSpeaker) : Action Unit := do
  removeBgpSpeaker speaker
  modify fun service => { service with speakers := service.speakers.erase speaker.id }

/-! ## Syncs -/

/-- The ids of stored objects that are not wanted. -/
def unwanted {β : Type} (present : Dict Id β) (desired : List Id) : List Id :=
  present.keys.filter (· ∉ desired)

/-- `self._delete_cb(present[deleted_id])` -/
def deletePresent (present : Dict Id BGPSpeaker) (id : Id) : Action Unit :=
  match present.lookup id with
  | none => throw .keyError
  | some speaker => deleteSpeaker speaker

/-- `sync_data_from_nb_db`. The ids that are deleted form a set, which is walked in some
order. -/
def sync (order : Iteration Id) (nb : BGPNorthbound) : Action Unit := do
  forM nb.peers updatePeer
  forM nb.speakers updateSpeaker
  let service ← get
  forM (order.walk (unwanted service.speakers (nb.speakers.map BGPSpeaker.id)))
    (deletePresent service.speakers)
  let service ← get
  forM (order.walk (unwanted service.peers (nb.peers.map BGPPeer.id))) deletePeer

/-- A sync that does not raise. -/
def syncStep (order : Iteration Id) (service : BGPService) (nb : BGPNorthbound) :
    Option BGPService :=
  match exec (sync order nb) service with
  | (.ok _, after) => some after
  | (.error _, _) => none

end BGPService

end Dragonflow
