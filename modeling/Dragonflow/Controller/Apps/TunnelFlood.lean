import Dragonflow.Controller.Apps.Tunneling

/-! # Broadcasts through tunnels

The flow for broadcast and multicast packets reaches every chassis that has a port of the
network, each of them once. All networks write the same flow, so there can be one of them.
-/

namespace Dragonflow

open Program

namespace PortsNetCache

/-- The cache has the ports of a network, all of them under one type. -/
def Holds (cache : PortsNetCache) (networkId : Nat) (networkType : Option String)
    (ports : List Id) : Prop :=
  ∃ networkPorts, cache.lookup networkId = some networkPorts ∧
    networkPorts.entries = [⟨networkType, ports⟩]

variable {cache : PortsNetCache} {networkId other : Nat}
  {networkType : Option String} {ports : List Id}

theorem Holds.portList (holds : Holds cache networkId networkType ports) :
    cache.portList networkId networkType = ports := by
  rcases holds with ⟨networkPorts, found, entries⟩
  unfold PortsNetCache.portList
  rw [found, Option.bind_some, AList.lookup, entries]
  simp

theorem portList_absent (absent : cache.lookup networkId = none) :
    cache.portList networkId networkType = [] := by
  simp [PortsNetCache.portList, absent]

theorem Holds.getPorts (holds : Holds cache networkId networkType ports) :
    cache.getPorts networkId none = some ports := by
  rcases holds with ⟨networkPorts, found, entries⟩
  simp [PortsNetCache.getPorts, found, entries, allTypes]

theorem Holds.getPortCount (holds : Holds cache networkId networkType ports) :
    cache.getPortCount networkId networkType = ports.length := by
  have listed := holds.portList
  rcases holds with ⟨networkPorts, found, entries⟩
  simp [PortsNetCache.getPortCount, found, entries, listed]

theorem Holds.setPortList {replaced : List Id}
    (known : cache.lookup networkId = none ∨ Holds cache networkId networkType replaced) :
    Holds (cache.setPortList networkId networkType ports) networkId networkType ports := by
  rcases known with absent | ⟨networkPorts, found, entries⟩
  · refine ⟨_, AList.lookup_insert _, ?_⟩
    rw [absent]
    rfl
  · refine ⟨_, AList.lookup_insert _, ?_⟩
    rw [found, Option.getD_some, AList.entries_insert, entries]
    simp

end PortsNetCache

namespace TunnelingApp

/-- The flow for broadcast and multicast packets of a network. -/
def flood (app : TunnelingApp) (networkId : Nat) : Option (FlowEntry Instruction) :=
  app.flows Const.egressTable Const.priorityLow (makeBumMatch networkId)

variable {config : Config} {lports : Dict Id LogicalPort} {locations : Locations}
  {lswitch : LogicalSwitch} {segmentationId : Nat} {peer : Id → BitVec 32}
  {ports : List Id} {app : TunnelingApp} {command : FlowCommand} {networkId : Nat}

/-- The port is stored, on the network and at the ip. -/
def StoredAt (config : Config) (lports : Dict Id LogicalPort) (locations : Locations)
    (lswitch : LogicalSwitch) (ip : Option IPAddress) (id : Id) : Prop :=
  ∃ lport, lports.lookup id = some lport ∧ remoteIp config locations lport = .ok ip ∧
    config.lswitch lport = .ok lswitch

/-- The loop yields every ip once that was not seen before. -/
theorem bumPeers_eq (portIds : List Id) (seen : List (BitVec 32))
    (stored : ∀ id ∈ portIds,
      StoredAt config lports locations lswitch (some (.v4 (peer id))) id) :
    ∃ peers : List (BitVec 32),
      bumPeers config lports locations portIds (seen.map fun ip => some (.v4 ip)) =
        .ok (peers.map fun ip => (some (.v4 ip), config.vtpOfport lswitch.networkType)) ∧
      peers.Nodup ∧
      ∀ ip, ip ∈ peers ↔ ip ∉ seen ∧ ∃ id ∈ portIds, peer id = ip := by
  induction portIds generalizing seen with
  | nil => exact ⟨[], rfl, List.nodup_nil, by simp⟩
  | cons portId portIds induction =>
      rcases stored portId List.mem_cons_self with ⟨lport, found, located, read⟩
      have rest := fun id member => stored id (List.mem_cons_of_mem _ member)
      have seen_iff : some (IPAddress.v4 (peer portId)) ∈
          seen.map (fun ip => some (IPAddress.v4 ip)) ↔ peer portId ∈ seen := by
        simp
      unfold bumPeers
      rw [found]
      simp only [located, read, bind, Except.bind, pure, Except.pure]
      by_cases isSeen : peer portId ∈ seen
      · rcases induction seen rest with ⟨peers, yielded, nodup, members⟩
        refine ⟨peers, ?_, nodup, ?_⟩
        · rw [if_pos (seen_iff.mpr isSeen), yielded]
        · intro ip
          rw [members]
          constructor
          · rintro ⟨fresh, id, member, same⟩
            exact ⟨fresh, id, List.mem_cons_of_mem _ member, same⟩
          · rintro ⟨fresh, id, member, same⟩
            rcases List.mem_cons.mp member with rfl | member
            · exact absurd (same ▸ isSeen) fresh
            · exact ⟨fresh, id, member, same⟩
      · rcases induction (peer portId :: seen) rest with ⟨peers, yielded, nodup, members⟩
        rw [List.map_cons] at yielded
        refine ⟨peer portId :: peers, ?_, ?_, ?_⟩
        · rw [if_neg (fun member => isSeen (seen_iff.mp member)), yielded]
          rfl
        · apply List.nodup_cons.mpr
          refine ⟨?_, nodup⟩
          intro member
          exact ((members _).mp member).1 List.mem_cons_self
        · intro ip
          rw [List.mem_cons, members]
          constructor
          · rintro (rfl | ⟨fresh, id, member, same⟩)
            · exact ⟨isSeen, portId, List.mem_cons_self, rfl⟩
            · exact ⟨fun old => fresh (List.mem_cons_of_mem _ old), id,
                List.mem_cons_of_mem _ member, same⟩
          · rintro ⟨fresh, id, member, same⟩
            by_cases first : ip = peer portId
            · exact Or.inl first
            · right
              refine ⟨?_, ?_⟩
              · intro old
                rcases List.mem_cons.mp old with old | old
                · exact first old
                · exact fresh old
              · rcases List.mem_cons.mp member with rfl | member
                · exact absurd same.symm first
                · exact ⟨id, member, same⟩

theorem bumFlowActions_eq (segmentationId portNum : Nat) (peers : List (BitVec 32)) :
    bumFlowActions (some segmentationId) (peers.map fun ip => (some (.v4 ip), portNum)) =
      .ok (peers.flatMap (peerActions segmentationId portNum)) := by
  induction peers with
  | nil => rfl
  | cons ip peers induction =>
      rw [List.map_cons, bumFlowActions, induction]
      rfl

/-! ## The flow of a network -/

/-- The entry that sends to the peers on a network. -/
def floodEntry (config : Config) (lswitch : LogicalSwitch) (segmentationId : Nat)
    (peers : List (BitVec 32)) : FlowEntry Instruction :=
  ⟨0, [.applyActions (peers.flatMap
    (peerActions segmentationId (config.vtpOfport lswitch.networkType)))]⟩

/-- The entry of a network with the given ports elsewhere. -/
def FloodEntry (config : Config) (lswitch : LogicalSwitch) (segmentationId : Nat)
    (peer : Id → BitVec 32) (ports : List Id) : Option (FlowEntry Instruction) → Prop
  | none => ports = []
  | some entry => ports ≠ [] ∧ ∃ peers : List (BitVec 32),
      peers.Nodup ∧ (∀ ip, ip ∈ peers ↔ ∃ id ∈ ports, peer id = ip) ∧
      entry = floodEntry config lswitch segmentationId peers

theorem evalFlowActions_eq (command : FlowCommand)
    (hasId : lswitch.segmentationId = some segmentationId)
    (holds : PortsNetCache.Holds app.localNetworks.remotePortsNetCache
      lswitch.uniqueKey lswitch.networkType ports)
    (stored : ∀ id ∈ ports,
      StoredAt config lports locations lswitch (some (.v4 (peer id))) id)
    (inhabited : ports ≠ []) :
    ∃ peers : List (BitVec 32), peers.Nodup ∧
      (∀ ip, ip ∈ peers ↔ ∃ id ∈ ports, peer id = ip) ∧
      evalFlowActions config lports locations app.localNetworks lswitch.uniqueKey
        lswitch.segmentationId ports.length command =
          .ok ((floodEntry config lswitch segmentationId peers).instructions,
            if ports.length ≠ 1 then .modify else command) := by
  rcases bumPeers_eq ports [] stored with ⟨peers, yielded, nodup, members⟩
  refine ⟨peers, nodup, ?_, ?_⟩
  · intro ip
    rw [members]
    simp
  · unfold evalFlowActions makeBumFlowActions LogicalNetworks.getRemotePorts
    rw [List.map_nil] at yielded
    rw [holds.getPorts, if_neg (by simpa using inhabited)]
    simp only [yielded, hasId, bind, Except.bind, bumFlowActions_eq]
    rfl

/-- The message that `_modify_egress_bum_flow` sends. -/
def bumFlow (lswitch : LogicalSwitch) (command : FlowCommand)
    (instructions : List Instruction) : OFPFlowMod where
  command := command
  table := Const.egressTable
  priority := Const.priorityLow
  pattern := makeBumMatch lswitch.uniqueKey
  instructions := instructions

theorem covers_bumFlow {instructions : List Instruction} :
    Pattern.covers (bumFlow lswitch command instructions).pattern
      (bumFlow lswitch command instructions).pattern = true :=
  OFPMatch.covers_self _

/-- Adding, or modifying what is there, sets the entry. -/
theorem flood_bumFlow {instructions : List Instruction}
    (present : command = .add ∨
      command = .modify ∧ ∃ old, app.flood lswitch.uniqueKey = some ⟨0, old⟩) :
    (app.flows.apply (bumFlow lswitch command instructions)) Const.egressTable
        Const.priorityLow (makeBumMatch lswitch.uniqueKey) = some ⟨0, instructions⟩ := by
  rcases present with rfl | ⟨rfl, old, isThere⟩
  · exact FlowTable.apply_add_self rfl
  · exact FlowTable.apply_modify_self rfl covers_bumFlow rfl isThere

theorem flood_bumFlow_delete :
    (app.flows.apply (bumFlow lswitch .delete [])) Const.egressTable
        Const.priorityLow (makeBumMatch lswitch.uniqueKey) = none :=
  FlowTable.apply_delete_self rfl covers_bumFlow rfl

/-- If the entry is there where it is not added, it is exact afterwards. -/
theorem modifyEgressBumFlow_leads
    (hasId : lswitch.segmentationId = some segmentationId)
    (holds : PortsNetCache.Holds app.localNetworks.remotePortsNetCache
      lswitch.uniqueKey lswitch.networkType ports)
    (stored : ∀ id ∈ ports,
      StoredAt config lports locations lswitch (some (.v4 (peer id))) id)
    (present : ports = [] ∨ command = .add ∧ ports.length = 1 ∨
      command ∈ [.add, .modify] ∧
        ∃ old, app.flood lswitch.uniqueKey = some ⟨0, old⟩) :
    Leads (modifyEgressBumFlow config lports locations lswitch command) app
      (fun _ after => after.localNetworks = app.localNetworks ∧
        FloodEntry config lswitch segmentationId peer ports (after.flood lswitch.uniqueKey))
      (fun _ _ => False) := by
  unfold modifyEgressBumFlow
  rw [leads_bind, leads_get]
  have count : app.localNetworks.getRemotePortCount lswitch.uniqueKey
      lswitch.networkType = ports.length := holds.getPortCount
  simp only [count]
  by_cases empty : ports = []
  · subst empty
    rw [List.length_nil, evalFlowActions, if_pos rfl, leads_bind, leads_ofExcept_ok]
    refine ⟨rfl, ?_⟩
    change FloodEntry config lswitch segmentationId peer []
      (app.flows.apply (bumFlow lswitch .delete []) _ _ _)
    rw [flood_bumFlow_delete]
    rfl
  · rcases evalFlowActions_eq command hasId holds stored empty with
      ⟨peers, nodup, members, evaluated⟩
    rw [evaluated, leads_bind, leads_ofExcept_ok]
    refine ⟨rfl, ?_⟩
    change FloodEntry config lswitch segmentationId peer ports
      (app.flows.apply (bumFlow lswitch _ _) _ _ _)
    rw [flood_bumFlow]
    · exact ⟨empty, peers, nodup, members, rfl⟩
    · rcases present with none | ⟨isAdd, single⟩ | ⟨known, isThere⟩
      · exact absurd none empty
      · rw [if_neg (by simpa using single)]
        exact Or.inl isAdd
      · split
        · exact Or.inr ⟨rfl, isThere⟩
        · rcases List.mem_pair.mp known with rfl | rfl
          · exact Or.inl rfl
          · exact Or.inr ⟨rfl, isThere⟩

/-! ## The handlers of remote ports -/

variable {lport : LogicalPort}

theorem flood_egressDispatch (message : OFPFlowMod)
    (priority : message.priority = Const.priorityMedium)
    (pattern : message.pattern = dispatchMatch lport) :
    app.flows.apply message Const.egressTable Const.priorityLow
      (makeBumMatch networkId) = app.flood networkId := by
  apply FlowTable.apply_other
  · intro identified
    have same := identified.2.1
    rw [priority] at same
    cases same
  · intro _
    rw [pattern]
    rfl

theorem addRemotePort_leads
    (read : config.lswitch lport = .ok lswitch) (isTunnelled : tunnelled config lswitch)
    (hasId : lswitch.segmentationId = some segmentationId)
    (located : remoteIp config locations lport = .ok (some (.v4 (peer lport.id))))
    (known : app.localNetworks.remotePortsNetCache.lookup lswitch.uniqueKey = none ∧
        ports = [] ∨
      PortsNetCache.Holds app.localNetworks.remotePortsNetCache
        lswitch.uniqueKey lswitch.networkType ports)
    (exact : FloodEntry config lswitch segmentationId peer ports (app.flood lswitch.uniqueKey))
    (stored : ∀ id ∈ ports ++ [lport.id],
      StoredAt config lports locations lswitch (some (.v4 (peer id))) id) :
    Leads (addRemotePort config lports locations lport) app
      (fun _ after =>
        PortsNetCache.Holds after.localNetworks.remotePortsNetCache lswitch.uniqueKey
          lswitch.networkType (ports ++ [lport.id]) ∧
        FloodEntry config lswitch segmentationId peer (ports ++ [lport.id])
          (after.flood lswitch.uniqueKey))
      (fun _ _ => False) := by
  have listed : app.localNetworks.remotePortsNetCache.portList lswitch.uniqueKey
      lswitch.networkType = ports := by
    rcases known with ⟨absent, rfl⟩ | holds
    · exact PortsNetCache.portList_absent absent
    · exact holds.portList
  have isEncoded : tunnelIp config locations lport = .ok (peer lport.id) := by
    unfold tunnelIp
    rw [located]
    rfl
  unfold addRemotePort
  rw [read, leads_bind, leads_ofExcept_ok, if_pos isTunnelled]
  unfold addEgressDispatchFlow
  rw [isEncoded, hasId, leads_bind, leads_bind, leads_ofExcept_ok, encoded, leads_bind,
    leads_ofExcept_ok]
  unfold modFlow
  rw [leads_modify, leads_bind]
  unfold onNetworks
  rw [leads_modify]
  have flooded : (⟨app.localNetworks.addRemotePort lport.id lswitch.uniqueKey
      lswitch.networkType, app.flows.apply
        (egressDispatchFlow config lport lswitch (peer lport.id) segmentationId)⟩ :
          TunnelingApp).flood = app.flood := by
    funext networkId
    exact flood_egressDispatch
      (egressDispatchFlow config lport lswitch (peer lport.id) segmentationId) rfl rfl
  have added : PortsNetCache.Holds (app.localNetworks.addRemotePort lport.id
      lswitch.uniqueKey lswitch.networkType).remotePortsNetCache lswitch.uniqueKey
        lswitch.networkType (ports ++ [lport.id]) := by
    unfold LogicalNetworks.addRemotePort PortsNetCache.addPort
    rw [listed]
    apply PortsNetCache.Holds.setPortList
    exact known.imp And.left id
  refine (modifyEgressBumFlow_leads hasId added stored ?_).mono ?_
    fun _ _ impossible => impossible
  · right
    rw [flooded]
    cases entry : app.flood lswitch.uniqueKey with
    | none =>
        rw [entry] at exact
        left
        rw [exact]
        exact ⟨rfl, rfl⟩
    | some value =>
        rw [entry] at exact
        rcases exact with ⟨_, peers, _, _, isEntry⟩
        exact Or.inr ⟨List.mem_cons_self, _, congrArg some isEntry⟩
  · intro _ after holds
    exact ⟨holds.1 ▸ added, holds.2⟩

theorem removeRemotePort_leads
    (read : config.lswitch lport = .ok lswitch) (isTunnelled : tunnelled config lswitch)
    (hasId : lswitch.segmentationId = some segmentationId)
    (holds : PortsNetCache.Holds app.localNetworks.remotePortsNetCache
        lswitch.uniqueKey lswitch.networkType ports)
    (member : lport.id ∈ ports)
    (exact : FloodEntry config lswitch segmentationId peer ports (app.flood lswitch.uniqueKey))
    (stored : ∀ id ∈ ports.erase lport.id,
      StoredAt config lports locations lswitch (some (.v4 (peer id))) id) :
    Leads (removeRemotePort config lports locations lport) app
      (fun _ after =>
        PortsNetCache.Holds after.localNetworks.remotePortsNetCache lswitch.uniqueKey
          lswitch.networkType (ports.erase lport.id) ∧
        FloodEntry config lswitch segmentationId peer (ports.erase lport.id)
          (after.flood lswitch.uniqueKey))
      (fun _ _ => False) := by
  unfold removeRemotePort
  rw [read, leads_bind, leads_ofExcept_ok, if_pos isTunnelled]
  unfold removeEgressDispatchFlow modFlow
  rw [leads_bind, leads_modify, leads_bind]
  unfold onNetworks
  rw [leads_modify]
  have flooded : (⟨app.localNetworks.removeRemotePort lport.id lswitch.uniqueKey
      lswitch.networkType, app.flows.apply (egressDispatchRemoval lport)⟩ :
        TunnelingApp).flood = app.flood := by
    funext networkId
    exact flood_egressDispatch (egressDispatchRemoval lport) rfl rfl
  have remaining : PortsNetCache.Holds (app.localNetworks.removeRemotePort lport.id
      lswitch.uniqueKey lswitch.networkType).remotePortsNetCache lswitch.uniqueKey
        lswitch.networkType (ports.erase lport.id) := by
    unfold LogicalNetworks.removeRemotePort PortsNetCache.removePort
    rw [holds.portList, if_pos member]
    exact PortsNetCache.Holds.setPortList (Or.inr holds)
  refine (modifyEgressBumFlow_leads hasId remaining stored ?_).mono ?_
    fun _ _ impossible => impossible
  · right; right
    rw [flooded]
    cases entry : app.flood lswitch.uniqueKey with
    | none =>
        rw [entry] at exact
        rw [exact] at member
        cases member
    | some value =>
        rw [entry] at exact
        rcases exact with ⟨_, peers, _, _, isEntry⟩
        exact ⟨by decide, _, congrArg some isEntry⟩
  · intro _ after result
    exact ⟨result.1 ▸ remaining, result.2⟩

/-! ## Every sequence of remote ports -/

/-- A bind or unbind event of a remote port, with the store and the overrides
that are there when it is handled. -/
structure Delivery where
  lports : Dict Id LogicalPort
  locations : Locations
  binds : Bool
  lport : LogicalPort

namespace Delivery

def event (delivery : Delivery) : PortEvent :=
  if delivery.binds then .bind .elsewhere else .unbind .elsewhere

/-- The ports that are bound after an event. -/
def bound (delivery : Delivery) (bound : Finset Id) : Finset Id :=
  if delivery.binds then insert delivery.lport.id bound
  else bound.erase delivery.lport.id

/-- Bind and unbind take turns, and the ports that are bound are stored with
their network and their ip. -/
structure InOrder (config : Config) (network : Id → LogicalSwitch)
    (peer : Id → Option IPAddress) (bound : Finset Id) (delivery : Delivery) :
    Prop where
  alternates : delivery.lport.id ∈ bound ↔ delivery.binds = false
  read : config.lswitch delivery.lport = .ok (network delivery.lport.id)
  located : delivery.binds = true →
    remoteIp config delivery.locations delivery.lport = .ok (peer delivery.lport.id)
  stored : ∀ id ∈ delivery.bound bound,
    StoredAt config delivery.lports delivery.locations (network id) (peer id) id

end Delivery

def InOrder (config : Config) (network : Id → LogicalSwitch)
    (peer : Id → Option IPAddress) : Finset Id → List Delivery → Prop
  | _, [] => True
  | bound, delivery :: deliveries =>
      delivery.InOrder config network peer bound ∧
        InOrder config network peer (delivery.bound bound) deliveries

/-- The ports that are bound after a sequence of events. -/
def boundAfter (deliveries : List Delivery) : Finset Id :=
  deliveries.foldl (fun bound delivery => delivery.bound bound) ∅

def deliver (config : Config) (delivery : Delivery) : Action Unit :=
  TunnelingApp.app config delivery.lports delivery.locations delivery.event
    delivery.lport

/-- The network has a flow for broadcasts exactly if it has a port elsewhere, and
that flow sends to each ip of such a port once. -/
def FloodExact (config : Config) (network : Id → LogicalSwitch)
    (peer : Id → Option IPAddress) (bound : Finset Id) (app : TunnelingApp)
    (lswitch : LogicalSwitch) : Prop :=
  ((app.flood lswitch.uniqueKey).isSome ↔ ∃ id ∈ bound, network id = lswitch) ∧
  ∀ entry, app.flood lswitch.uniqueKey = some entry →
    ∃ (peers : List (BitVec 32)) (segmentationId : Nat), peers.Nodup ∧
      (∀ ip, (∃ id ∈ bound, network id = lswitch ∧ peer id = ip) ↔
        ∃ address ∈ peers, ip = some (.v4 address)) ∧
      lswitch.segmentationId = some segmentationId ∧
      entry.instructions = [.applyActions (peers.flatMap fun address =>
        [.setField (.tunIpv4Dst address), .setField (.tunnelId segmentationId),
          .output (config.vtpOfport lswitch.networkType)])]

/-! ## One network -/

/-- What the application knows of a network, and the flow that it keeps. -/
def Flooding (config : Config) (lswitch : LogicalSwitch) (segmentationId : Nat)
    (address : Id → BitVec 32) (bound : Finset Id) (app : TunnelingApp) : Prop :=
  ∃ ports : List Id, ports.Nodup ∧ (∀ id, id ∈ ports ↔ id ∈ bound) ∧
    (app.localNetworks.remotePortsNetCache.lookup lswitch.uniqueKey = none ∧
        ports = [] ∨
      PortsNetCache.Holds app.localNetworks.remotePortsNetCache
        lswitch.uniqueKey lswitch.networkType ports) ∧
    FloodEntry config lswitch segmentationId address ports (app.flood lswitch.uniqueKey)

variable {network : Id → LogicalSwitch} {ips : Id → Option IPAddress}
  {address : Id → BitVec 32} {bound : Finset Id}

theorem Flooding.deliver {delivery : Delivery} (only : ∀ id, network id = lswitch)
    (isTunnelled : tunnelled config lswitch)
    (hasId : lswitch.segmentationId = some segmentationId)
    (isIpv4 : ∀ id ∈ delivery.bound bound, ips id = some (.v4 (address id)))
    (flooding : Flooding config lswitch segmentationId address bound app)
    (inOrder : delivery.InOrder config network ips bound) :
    Leads (TunnelingApp.deliver config delivery) app
      (fun _ after => Flooding config lswitch segmentationId address (delivery.bound bound) after)
      (fun _ _ => False) := by
  rcases flooding with ⟨ports, nodup, members, known, exact⟩
  have read : config.lswitch delivery.lport = .ok lswitch := by
    rw [inOrder.read, only]
  have stored : ∀ id ∈ delivery.bound bound,
      StoredAt config delivery.lports delivery.locations lswitch
        (some (.v4 (address id))) id := by
    intro id member
    rw [← isIpv4 id member, ← only id]
    exact inOrder.stored id member
  unfold TunnelingApp.deliver Delivery.event
  cases binds : delivery.binds with
  | true =>
      have after : delivery.bound bound = insert delivery.lport.id bound := by
        rw [Delivery.bound, binds, if_pos rfl]
      have isFree : delivery.lport.id ∉ bound := by
        intro isBound
        have isUnbind := inOrder.alternates.mp isBound
        rw [binds] at isUnbind
        cases isUnbind
      have isMember : ∀ id, id ∈ ports ++ [delivery.lport.id] ↔ id ∈ delivery.bound bound := by
        intro id
        rw [after, List.mem_append, members, List.mem_singleton, Finset.mem_insert, or_comm]
      have located : remoteIp config delivery.locations delivery.lport =
          .ok (some (.v4 (address delivery.lport.id))) := by
        rw [← isIpv4 _ ((isMember _).mp (by simp))]
        exact inOrder.located binds
      refine (addRemotePort_leads read isTunnelled hasId located known exact
        fun id member => stored id ((isMember id).mp member)).mono ?_
          fun _ _ impossible => impossible
      intro _ after holds
      refine ⟨ports ++ [delivery.lport.id], ?_, isMember, Or.inr holds.1, holds.2⟩
      apply List.nodup_append.mpr
      refine ⟨nodup, List.nodup_singleton _, ?_⟩
      intro one isPort other isNew same
      rw [List.mem_singleton.mp isNew] at same
      exact isFree (same ▸ (members one).mp isPort)
  | false =>
      have after : delivery.bound bound = bound.erase delivery.lport.id := by
        rw [Delivery.bound, binds, if_neg Bool.false_ne_true]
      have isPort : delivery.lport.id ∈ ports :=
        (members _).mpr (inOrder.alternates.mpr binds)
      have holds : PortsNetCache.Holds app.localNetworks.remotePortsNetCache
          lswitch.uniqueKey lswitch.networkType ports := by
        rcases known with ⟨_, rfl⟩ | holds
        · cases isPort
        · exact holds
      have isMember : ∀ id, id ∈ ports.erase delivery.lport.id ↔
          id ∈ delivery.bound bound := by
        intro id
        rw [after, nodup.mem_erase_iff, members, Finset.mem_erase]
      refine (removeRemotePort_leads read isTunnelled hasId holds isPort exact
        fun id member => stored id ((isMember id).mp member)).mono ?_
          fun _ _ impossible => impossible
      intro _ after result
      exact ⟨ports.erase delivery.lport.id, nodup.erase _, isMember, Or.inr result.1,
        result.2⟩

theorem Flooding.exact {id : Id} (only : ∀ id, network id = lswitch)
    (hasId : lswitch.segmentationId = some segmentationId)
    (isIpv4 : ∀ id ∈ bound, ips id = some (.v4 (address id)))
    (flooding : Flooding config lswitch segmentationId address bound app) :
    FloodExact config network ips bound app (network id) := by
  rcases flooding with ⟨ports, _, members, _, exact⟩
  rw [only id]
  cases flood : app.flood lswitch.uniqueKey with
  | none =>
      rw [flood] at exact
      refine ⟨?_, ?_⟩
      · rw [flood]
        constructor
        · intro impossible
          cases impossible
        · intro inhabited
          rcases inhabited with ⟨other, isBound, _⟩
          have member := (members other).mpr isBound
          rw [exact] at member
          cases member
      · intro entry found
        rw [flood] at found
        cases found
  | some value =>
      rw [flood] at exact
      rcases exact with ⟨inhabited, peers, nodup, peersIff, isEntry⟩
      rcases List.exists_mem_of_ne_nil ports inhabited with ⟨other, member⟩
      refine ⟨?_, ?_⟩
      · rw [flood]
        exact ⟨fun _ => ⟨other, (members other).mp member, only other⟩, fun _ => rfl⟩
      · intro entry found
        rw [flood] at found
        cases found
        refine ⟨peers, segmentationId, nodup, ?_, hasId,
          congrArg FlowEntry.instructions isEntry⟩
        intro ip
        constructor
        · intro isPeer
          rcases isPeer with ⟨port, isBound, _, rfl⟩
          exact ⟨address port, (peersIff _).mpr ⟨port, (members port).mpr isBound, rfl⟩,
            isIpv4 port isBound⟩
        · intro isPeer
          rcases isPeer with ⟨_, isMember, rfl⟩
          rcases (peersIff _).mp isMember with ⟨port, isPort, rfl⟩
          have isBound := (members port).mp isPort
          exact ⟨port, isBound, only port, isIpv4 port isBound⟩

theorem InOrder.append {before after : List Delivery}
    (inOrder : InOrder config network ips bound (before ++ after)) :
    InOrder config network ips bound before := by
  induction before generalizing bound with
  | nil => trivial
  | cons delivery before induction => exact ⟨inOrder.1, induction inOrder.2⟩

theorem Delivery.mem_bound {delivery : Delivery} {id : Id}
    (isBound : id ∈ delivery.bound bound) :
    (delivery.binds = true ∧ id = delivery.lport.id) ∨ id ∈ bound := by
  unfold Delivery.bound at isBound
  split at isBound
  · rename_i binds
    exact (Finset.mem_insert.mp isBound).imp (fun same => ⟨binds, same⟩) fun wasBound => wasBound
  · exact Or.inr (Finset.mem_of_mem_erase isBound)

/-- A run on one network whose ports are bound to IPv4 addresses. -/
theorem Flooding.run {deliveries : List Delivery} (only : ∀ id, network id = lswitch)
    (isTunnelled : tunnelled config lswitch)
    (hasId : lswitch.segmentationId = some segmentationId)
    (binding : ∀ delivery ∈ deliveries, delivery.binds = true →
      ips delivery.lport.id = some (.v4 (address delivery.lport.id)))
    (isIpv4 : ∀ id ∈ bound, ips id = some (.v4 (address id)))
    (flooding : Flooding config lswitch segmentationId address bound app)
    (inOrder : InOrder config network ips bound deliveries) :
    let after := deliveries.foldl (fun bound delivery => delivery.bound bound) bound
    (∀ id ∈ after, ips id = some (.v4 (address id))) ∧
      Flooding config lswitch segmentationId address after
        (trace (TunnelingApp.deliver config) deliveries app).2 := by
  induction deliveries generalizing bound app with
  | nil => exact ⟨isIpv4, flooding⟩
  | cons delivery deliveries induction =>
      have stillIpv4 : ∀ id ∈ delivery.bound bound, ips id = some (.v4 (address id)) := by
        intro id isBound
        rcases Delivery.mem_bound isBound with ⟨binds, rfl⟩ | wasBound
        · exact binding delivery List.mem_cons_self binds
        · exact isIpv4 id wasBound
      rcases (flooding.deliver only isTunnelled hasId stillIpv4 inOrder.1).returned with
        ⟨value, after, executed, floodingAfter⟩
      simp only [List.foldl_cons, trace, executed]
      exact induction (fun other member => binding other (List.mem_cons_of_mem _ member))
        stillIpv4 floodingAfter inOrder.2

/-- The first event binds a port. -/
theorem InOrder.head {delivery : Delivery} {deliveries : List Delivery}
    (inOrder : InOrder config network ips ∅ (delivery :: deliveries)) :
    delivery.binds = true := by
  cases binds : delivery.binds with
  | true => rfl
  | false => exact absurd (inOrder.1.alternates.mpr binds) (Finset.notMem_empty _)

/-- Every port that is bound elsewhere is on the one network that there is, which has a
segmentation id, and at an IPv4 address. -/
def OneNetwork (network : Id → LogicalSwitch) (peer : Id → Option IPAddress)
    (deliveries : List Delivery) : Prop :=
  (∀ id other, network id = network other) ∧
    (∀ id, (network id).segmentationId.isSome) ∧
    ∀ delivery ∈ deliveries, delivery.binds = true →
      ∃ address, peer delivery.lport.id = some (.v4 address)

/-- The flow of every network is exact after each event if and only if there is one network,
with a segmentation id, and its ports are bound to IPv4 addresses. -/
theorem flood_exact_iff (config : Config) (network : Id → LogicalSwitch)
    (peer : Id → Option IPAddress)
    (isTunnelled : ∀ id, tunnelled config (network id))
    (deliveries : List Delivery)
    (inOrder : InOrder config network peer ∅ deliveries) :
    (∀ before after, deliveries = before ++ after → ∀ id,
      FloodExact config network peer (boundAfter before)
        (trace (deliver config) before {}).2 (network id)) ↔
      deliveries = [] ∨ OneNetwork network peer deliveries := by
  constructor
  · intro exact
    cases deliveries with
    | nil => exact Or.inl rfl
    | cons first later =>
        have bindsFirst := inOrder.head
        have isAlone : boundAfter [first] = {first.lport.id} := by
          unfold boundAfter
          rw [List.foldl_cons, List.foldl_nil, Delivery.bound, if_pos bindsFirst]
          rfl
        have afterFirst := exact [first] later rfl
        rw [isAlone] at afterFirst
        -- the entry of the first network is the entry of every other one
        have isThere := (afterFirst first.lport.id).1.mpr
          ⟨_, Finset.mem_singleton_self _, rfl⟩
        have only : ∀ id, network first.lport.id = network id := by
          intro id
          rcases (afterFirst id).1.mp isThere with ⟨other, isBound, same⟩
          rw [← Finset.mem_singleton.mp isBound]
          exact same
        refine Or.inr ⟨fun id other => (only id).symm.trans (only other), fun id => ?_, ?_⟩
        · rcases Option.isSome_iff_exists.mp isThere with ⟨entry, found⟩
          rcases (afterFirst first.lport.id).2 entry found with ⟨_, _, _, _, hasId, _⟩
          rw [← only id, hasId]
          rfl
        · intro delivery member binds
          rcases List.append_of_mem member with ⟨before, after, isSplit⟩
          have atOnce := exact (before ++ [delivery]) after (by rw [isSplit]; simp)
            delivery.lport.id
          have isBound : delivery.lport.id ∈ boundAfter (before ++ [delivery]) := by
            unfold boundAfter
            rw [List.foldl_append, List.foldl_cons, List.foldl_nil, Delivery.bound, if_pos binds]
            exact Finset.mem_insert_self _ _
          rcases Option.isSome_iff_exists.mp (atOnce.1.mpr ⟨_, isBound, rfl⟩) with
            ⟨entry, found⟩
          rcases atOnce.2 entry found with ⟨peers, _, _, members, _⟩
          rcases (members _).mp ⟨_, isBound, rfl, rfl⟩ with ⟨address, _, isIpv4⟩
          exact ⟨address, isIpv4⟩
  · intro condition before after isSplit id
    rcases condition with none | ⟨oneNetwork, hasIds, atIpv4⟩
    · have isEmpty : before = [] := (List.append_eq_nil_iff.mp (isSplit.symm.trans none)).1
      rw [isEmpty]
      refine ⟨?_, ?_⟩
      · constructor
        · intro impossible
          cases impossible
        · intro impossible
          rcases impossible with ⟨_, isBound, _⟩
          cases isBound
      · intro entry impossible
        cases impossible
    · have only : ∀ other, network other = network id := fun other => oneNetwork other id
      rcases Option.isSome_iff_exists.mp (hasIds id) with ⟨segmentationId, hasId⟩
      rw [isSplit] at inOrder atIpv4
      have binding : ∀ delivery ∈ before, delivery.binds = true → peer delivery.lport.id =
          some (.v4 ((encodedIpv4 (peer delivery.lport.id)).toOption.getD 0)) := by
        intro delivery member binds
        rcases atIpv4 delivery (List.mem_append_left _ member) binds with ⟨address, isIpv4⟩
        rw [isIpv4]
        rfl
      have start : Flooding config (network id) segmentationId
          (fun id => (encodedIpv4 (peer id)).toOption.getD 0) ∅ {} :=
        ⟨[], List.nodup_nil, by simp, Or.inl ⟨rfl, rfl⟩, rfl⟩
      rcases start.run only (isTunnelled id) hasId binding (by simp) inOrder.append with
        ⟨isIpv4, flooding⟩
      exact flooding.exact only hasId isIpv4

namespace Sample

def onN : LogicalSwitch := ⟨"n", 5, some "vxlan", some 100⟩

def onM : LogicalSwitch := ⟨"m", 6, some "vxlan", some 200⟩

def twoNetworks : Config where
  toInventory := { threeChassis.toInventory with
    lswitches id := if id = "n" then some onN else if id = "m" then some onM else none }
  tunnelTypes := ["vxlan"]
  vtpOfport _ := 9

def port (id network chassis : Id) : LogicalPort :=
  { id, lswitch := some network, binding := some (.chassis chassis) }

def first : LogicalPort := port "p" "n" "c2"

def second (lswitch : LogicalSwitch) : LogicalPort := port "q" lswitch.id "c3"

def oneStored : Dict Id LogicalPort := (∅ : Dict Id LogicalPort).insert "p" first

def bothStored (lswitch : LogicalSwitch) : Dict Id LogicalPort :=
  oneStored.insert "q" (second lswitch)

/-- Two ports come, and the first of them goes. -/
def twoPorts (lswitch : LogicalSwitch) : List Delivery :=
  [⟨oneStored, ∅, true, first⟩, ⟨bothStored lswitch, ∅, true, second lswitch⟩,
    ⟨bothStored lswitch, ∅, false, first⟩]

def networks (lswitch : LogicalSwitch) (id : Id) : LogicalSwitch :=
  if id = "q" then lswitch else onN

def peers (id : Id) : Option IPAddress :=
  if id = "p" then some (.v4 0x0a000002) else some (.v4 0x0a000003)

theorem twoPorts_inOrder (lswitch : LogicalSwitch)
    (read : twoNetworks.lswitch (second lswitch) = .ok lswitch) :
    InOrder twoNetworks (networks lswitch) peers ∅ (twoPorts lswitch) := by
  have firstStored : StoredAt twoNetworks (bothStored lswitch) ∅ onN (peers "p") "p" :=
    ⟨first, rfl, rfl, rfl⟩
  have secondStored : StoredAt twoNetworks (bothStored lswitch) ∅ lswitch (peers "q") "q" :=
    ⟨second lswitch, rfl, rfl, read⟩
  refine ⟨⟨by decide, rfl, fun _ => rfl, ?_⟩, ⟨?_, read, fun _ => rfl, ?_⟩,
    ⟨?_, rfl, ?_, ?_⟩, trivial⟩
  · intro id member
    have isFirst : id = "p" := by simpa [Delivery.bound, first, port] using member
    subst isFirst
    exact ⟨first, rfl, rfl, rfl⟩
  · simp [Delivery.bound, first, second, port]
  · intro id member
    have isEither : id = "q" ∨ id = "p" := by
      simpa [Delivery.bound, first, second, port] using member
    rcases isEither with rfl | rfl
    · exact secondStored
    · exact firstStored
  · simp [Delivery.bound, first, second, port]
  · intro impossible
    cases impossible
  · intro id member
    have isLast : id = "q" := by
      simp [Delivery.bound, first, second, port] at member
      grind
    subst isLast
    exact secondStored

end Sample

open Sample in
/-- On one network. -/
theorem flood_exact_iff_one_network :
    FloodExact twoNetworks (networks onN) peers (boundAfter (twoPorts onN))
      (trace (deliver twoNetworks) (twoPorts onN) {}).2 (networks onN "q") := by
  have only : ∀ id, networks onN id = onN := by
    intro id
    unfold networks
    split <;> rfl
  apply (flood_exact_iff twoNetworks (networks onN) peers ?_ (twoPorts onN)
    (twoPorts_inOrder onN rfl)).mpr (Or.inr ⟨?_, ?_, ?_⟩) (twoPorts onN) [] ?_ "q"
  · intro id
    rw [only]
    decide
  · intro id other
    rw [only, only]
  · intro id
    rw [only]
    rfl
  · intro delivery _ _
    unfold peers
    split
    · exact ⟨_, rfl⟩
    · exact ⟨_, rfl⟩
  · rw [List.append_nil]

open Sample in
/-- On two networks, the last port of one of them takes the flow of the other one away. -/
theorem flood_lost :
    InOrder twoNetworks (networks onM) peers ∅ (twoPorts onM) ∧
      ¬FloodExact twoNetworks (networks onM) peers (boundAfter (twoPorts onM))
        (trace (deliver twoNetworks) (twoPorts onM) {}).2 onM := by
  refine ⟨twoPorts_inOrder onM rfl, ?_⟩
  intro exact
  have isBound : "q" ∈ boundAfter (twoPorts onM) := by decide +kernel
  have isThere := exact.1.mpr ⟨"q", isBound, rfl⟩
  exact absurd isThere (by decide +kernel)

end TunnelingApp

end Dragonflow
