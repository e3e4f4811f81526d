import Dragonflow.Controller.Apps.PortBindingEvents
import Dragonflow.Controller.Apps.Tunneling

/-! # Tunnels follow the ports

What `PortBindingApp` and `TunnelingApp` together make of the versions of a
port: the flow that sends its packets to another chassis.
-/

namespace Dragonflow

open Program

namespace TunnelingApp

/-- The flow for the packets of a port that is elsewhere. -/
def dispatch (app : TunnelingApp) (key : Nat) : Option (FlowEntry Instruction) :=
  app.flows Const.egressTable Const.priorityMedium { reg7 := some (.exact key) }

/-! ## What leaves the flows of remote ports alone -/

def SameDispatch (before after : TunnelingApp) : Prop :=
  after.dispatch = before.dispatch

instance : IsPreorder TunnelingApp SameDispatch where
  refl _ := rfl
  trans _ _ _ first second := second.trans first

theorem onNetworks_keeps (change : LogicalNetworks → LogicalNetworks) :
    Keeps SameDispatch (onNetworks change) :=
  fun _ => rfl

theorem modFlow_keeps {message : OFPFlowMod}
    (elsewhere : message.table = Const.egressTable →
      message.priority ≠ Const.priorityMedium ∧
      ∀ key, Pattern.covers message.pattern
        ({ reg7 := some (.exact key) } : OFPMatch) = false) :
    Keeps SameDispatch (modFlow message) := by
  intro app
  funext key
  apply FlowTable.apply_other
  · intro identified
    exact (elsewhere identified.1.symm).1 identified.2.1.symm
  · intro sameTable
    exact (elsewhere sameTable.symm).2 key

variable (config : Config) (lports : Dict Id LogicalPort) (locations : Locations)

theorem modFlowOfEmpty_keeps (lswitch : LogicalSwitch) {message : Nat → OFPFlowMod}
    (table : ∀ id, (message id).table = Const.ingressClassificationDispatchTable) :
    Keeps SameDispatch (modFlowOfEmpty lswitch message) := by
  refine Keeps.bind Keeps.get fun app => ?_
  split
  · refine Keeps.bind (Keeps.ofExcept _) fun segmentationId => ?_
    apply modFlow_keeps
    intro isEgress
    rw [table] at isEgress
    cases isEgress
  · exact Keeps.pure _

theorem addLocalPort_keeps (lport : LogicalPort) :
    Keeps SameDispatch (addLocalPort config lport) := by
  refine Keeps.bind (Keeps.ofExcept _) fun lswitch => ?_
  split
  · exact Keeps.bind (modFlowOfEmpty_keeps lswitch fun _ => rfl) fun _ => onNetworks_keeps _
  · exact Keeps.pure _

theorem removeLocalPort_keeps (lport : LogicalPort) :
    Keeps SameDispatch (removeLocalPort config lport) := by
  refine Keeps.bind (Keeps.ofExcept _) fun lswitch => ?_
  split
  · exact Keeps.bind (onNetworks_keeps _) fun _ =>
      modFlowOfEmpty_keeps lswitch fun _ => rfl
  · exact Keeps.pure _

theorem modifyEgressBumFlow_keeps (lswitch : LogicalSwitch) (command : FlowCommand) :
    Keeps SameDispatch
      (modifyEgressBumFlow config lports locations lswitch command) := by
  refine Keeps.bind Keeps.get fun app => ?_
  refine Keeps.bind (Keeps.ofExcept _) fun evaluated => ?_
  apply modFlow_keeps
  intro _
  exact ⟨(by decide : Const.priorityLow ≠ Const.priorityMedium), fun _ => rfl⟩

/-- The part of the handlers of remote ports that is about their network. -/
theorem network_keeps (change : LogicalNetworks → LogicalNetworks)
    (lswitch : LogicalSwitch) (command : FlowCommand) :
    Keeps SameDispatch (do
      onNetworks change
      modifyEgressBumFlow config lports locations lswitch command) :=
  Keeps.bind (onNetworks_keeps _) fun _ =>
    modifyEgressBumFlow_keeps config lports locations lswitch command

/-! ## The events of a port -/

/-- The entry that sends packets to a peer. -/
def peerEntry (lswitch : LogicalSwitch) (peerIp : BitVec 32) (segmentationId : Nat) :
    FlowEntry Instruction :=
  ⟨0, [.applyActions (peerActions segmentationId
    (config.vtpOfport lswitch.networkType) peerIp)]⟩

/-- The entry that sends packets to where a port is. -/
def route (lport : LogicalPort) : Option (FlowEntry Instruction) :=
  match config.lswitch lport, tunnelIp config locations lport with
  | .ok lswitch, .ok peerIp => lswitch.segmentationId.map (peerEntry config lswitch peerIp)
  | _, _ => none

/-- The entry of a port after an event. -/
def rerouted (entry : Option (FlowEntry Instruction)) :
    PortEvent × LogicalPort → Option (FlowEntry Instruction)
  | (.bind .elsewhere, lport) => route config locations lport
  | (.unbind .elsewhere, _) => none
  | _ => entry

/-- The port is attached to a switch that uses tunnels. -/
def OnTunnel (lport : LogicalPort) : Prop :=
  ∃ lswitch, config.lswitch lport = .ok lswitch ∧ tunnelled config lswitch

/-- The flow of the port can be encoded: its chassis has an IPv4 address and its network a
segmentation id. -/
def Located (lport : LogicalPort) : Prop :=
  (∃ peerIp, tunnelIp config locations lport = .ok peerIp) ∧
    ∃ lswitch segmentationId, config.lswitch lport = .ok lswitch ∧
      lswitch.segmentationId = some segmentationId

variable {config lports locations} {lport : LogicalPort} {app : TunnelingApp}

theorem addEgressDispatchFlow_dispatch (lswitch : LogicalSwitch)
    {peerIp : BitVec 32} {segmentationId : Nat}
    (found : tunnelIp config locations lport = .ok peerIp)
    (hasId : lswitch.segmentationId = some segmentationId) :
    Leads (addEgressDispatchFlow config locations lport lswitch) app
      (fun _ after => after.dispatch = Function.update app.dispatch lport.uniqueKey
        (some (peerEntry config lswitch peerIp segmentationId)))
      (fun _ _ => False) := by
  unfold addEgressDispatchFlow
  rw [found, hasId, leads_bind, leads_ofExcept_ok, encoded, leads_bind, leads_ofExcept_ok]
  funext key
  change app.flows.apply (egressDispatchFlow config lport lswitch peerIp segmentationId)
    _ _ _ = _
  rw [FlowTable.apply_add rfl, Function.update_apply]
  simp [FlowMod.identifies, egressDispatchFlow, dispatchMatch, dispatch, peerEntry]

theorem removeEgressDispatchFlow_dispatch :
    Leads (removeEgressDispatchFlow lport) app
      (fun _ after => after.dispatch =
        Function.update app.dispatch lport.uniqueKey none)
      (fun _ _ => False) := by
  funext key
  change app.flows.apply (egressDispatchRemoval lport) _ _ _ = _
  rw [FlowTable.apply_delete rfl, Function.update_apply]
  by_cases same : key = lport.uniqueKey
  · cases found : app.flows Const.egressTable Const.priorityMedium
        { reg7 := some (.exact key) } <;>
      simp [FlowMod.selects, Pattern.covers, FieldMatch.coversField,
        FieldMatch.covers, egressDispatchRemoval, dispatchMatch, same]
  · cases found : app.flows Const.egressTable Const.priorityMedium
        { reg7 := some (.exact key) } <;>
      simp [FlowMod.selects, Pattern.covers, FieldMatch.coversField,
        FieldMatch.covers, egressDispatchRemoval, dispatchMatch, dispatch, same, Ne.symm same, found]

theorem dispatch_addRemotePort (onTunnel : OnTunnel config lport)
    (located : Located config locations lport) :
    ((exec (addRemotePort config lports locations lport) app).2).dispatch =
      Function.update app.dispatch lport.uniqueKey
        (route config locations lport) := by
  rcases onTunnel with ⟨lswitch, read, isTunnelled⟩
  rcases located with ⟨⟨peerIp, found⟩, other, segmentationId, readOther, hasId⟩
  cases read.symm.trans readOther
  rcases (addEgressDispatchFlow_dispatch lswitch found hasId).returned with
    ⟨_, middle, executed, dispatched⟩
  unfold addRemotePort route
  rw [read, Program.ofExcept, exec_bind_ok (exec_pure lswitch app),
    if_pos isTunnelled, exec_bind_ok executed, found]
  simp only [hasId, Option.map_some]
  exact (network_keeps config lports locations _ lswitch .add middle).trans dispatched

theorem dispatch_removeRemotePort (onTunnel : OnTunnel config lport) :
    ((exec (removeRemotePort config lports locations lport) app).2).dispatch =
      Function.update app.dispatch lport.uniqueKey none := by
  rcases onTunnel with ⟨lswitch, read, isTunnelled⟩
  rcases removeEgressDispatchFlow_dispatch.returned with
    ⟨_, middle, executed, dispatched⟩
  unfold removeRemotePort
  rw [read, Program.ofExcept, exec_bind_ok (exec_pure lswitch app),
    if_pos isTunnelled, exec_bind_ok executed]
  exact (network_keeps config lports locations _ lswitch .modify middle).trans dispatched

theorem dispatch_app {event : PortEvent} (onTunnel : OnTunnel config lport)
    (located : event = .bind .elsewhere → Located config locations lport) :
    ((exec (TunnelingApp.app config lports locations event lport) app).2).dispatch =
      Function.update app.dispatch lport.uniqueKey
        (rerouted config locations (app.dispatch lport.uniqueKey) (event, lport)) := by
  rcases event with kind | kind | ⟨kind, original⟩
  · cases kind
    · simp only [rerouted, Function.update_eq_self]
      exact addLocalPort_keeps config lport app
    · exact dispatch_addRemotePort onTunnel (located rfl)
  · cases kind
    · simp only [rerouted, Function.update_eq_self]
      exact removeLocalPort_keeps config lport app
    · exact dispatch_removeRemotePort onTunnel
  · simp only [rerouted, Function.update_eq_self]
    rfl

/-- Events of a port change its own flow only. -/
theorem dispatch_runEvents {events : List (PortEvent × LogicalPort)} {key : Nat}
    (onTunnel : ∀ entry ∈ events, OnTunnel config entry.2)
    (ofPort : ∀ entry ∈ events, entry.2.uniqueKey = key)
    (located : ∀ entry ∈ events, entry.1 = .bind .elsewhere →
      Located config locations entry.2) :
    (QuietApp.runEvents [TunnelingApp.app config] lports locations events app).dispatch =
      Function.update app.dispatch key
        (events.foldl (rerouted config locations) (app.dispatch key)) := by
  unfold QuietApp.runEvents
  induction events generalizing app with
  | nil => simp
  | cons entry events induction =>
      have first : (QuietApp.runAll [TunnelingApp.app config] lports locations
          entry.1 entry.2 app).dispatch = Function.update app.dispatch key
            (rerouted config locations (app.dispatch key) entry) := by
        rw [← ofPort entry List.mem_cons_self, QuietApp.runAll_singleton]
        exact dispatch_app (onTunnel entry List.mem_cons_self)
          (located entry List.mem_cons_self)
      rw [List.foldl_cons, List.foldl_cons,
        induction (fun other member => onTunnel other (List.mem_cons_of_mem _ member))
          (fun other member => ofPort other (List.mem_cons_of_mem _ member))
          (fun other member => located other (List.mem_cons_of_mem _ member)),
        first, Function.update_idem, Function.update_self]

/-! ## One change of a port -/

/-- The entry that a version of a port asks for. -/
def expected (config : Config) (host : Id) (lport : LogicalPort) :
    Option (FlowEntry Instruction) :=
  if lport.boundAs host = some .elsewhere then route config ∅ lport else none

theorem boundAs_elsewhere {host : Id} {lport : LogicalPort} :
    lport.boundAs host = some .elsewhere ↔
      lport.Up ∧ ∃ binding, lport.binding = some binding ∧
        binding.isLocal host = false := by
  simp only [LogicalPort.boundAs, PortBinding.locality, Option.ite_none_right_eq_some,
    Option.map_eq_some_iff]
  grind

theorem remoteIp_free (config : Config) {lport : LogicalPort} {binding : PortBinding}
    (bound : lport.binding = some binding) :
    remoteIp config ∅ lport = binding.ip config.chassis := by
  unfold remoteIp PortLocator.getPortBinding
  rw [AList.lookup_empty, Option.getD_none, bound]

theorem tunnelIp_free (config : Config) {lport : LogicalPort} {binding : PortBinding}
    {peerIp : BitVec 32} (bound : lport.binding = some binding)
    (found : binding.ip config.chassis = .ok (some (.v4 peerIp))) :
    tunnelIp config ∅ lport = .ok peerIp := by
  unfold tunnelIp
  rw [remoteIp_free config bound, found]
  rfl

/-- A port that is bound elsewhere is so at an IPv4 address, on a network that has a
segmentation id. -/
def Encodable (config : Config) (host : Id) (lport : LogicalPort) : Prop :=
  lport.boundAs host = some .elsewhere →
    (∃ peerIp, lport.binding.map (PortBinding.ip config.chassis) =
      some (.ok (some (.v4 peerIp)))) ∧
    ∃ lswitch segmentationId, config.lswitch lport = .ok lswitch ∧
      lswitch.segmentationId = some segmentationId

theorem Encodable.found {host : Id} {binding : PortBinding} {lswitch : LogicalSwitch}
    (encodable : Encodable config host lport) (up : lport.Up)
    (bound : lport.binding = some binding) (isRemote : binding.isLocal host = false)
    (read : config.lswitch lport = .ok lswitch) :
    ∃ peerIp segmentationId, binding.ip config.chassis = .ok (some (.v4 peerIp)) ∧
      lswitch.segmentationId = some segmentationId := by
  rcases encodable (boundAs_elsewhere.mpr ⟨up, binding, bound, isRemote⟩) with
    ⟨⟨peerIp, isIp⟩, other, segmentationId, readOther, hasId⟩
  rw [bound] at isIp
  cases read.symm.trans readOther
  exact ⟨peerIp, segmentationId, Option.some.inj isIp, hasId⟩

theorem Encodable.located {host : Id} (encodable : Encodable config host lport)
    (elsewhere : lport.boundAs host = some .elsewhere) : Located config ∅ lport := by
  rcases boundAs_elsewhere.mp elsewhere with ⟨up, binding, bound, isRemote⟩
  rcases encodable elsewhere with ⟨⟨peerIp, isIp⟩, onNetwork⟩
  rw [bound] at isIp
  exact ⟨⟨peerIp, tunnelIp_free config bound (Option.some.inj isIp)⟩, onNetwork⟩

theorem foldl_arrival (config : Config) (host : Id) (lport : LogicalPort) :
    (PortBindingApp.arrival host lport).foldl (rerouted config ∅) none =
      expected config host lport := by
  unfold PortBindingApp.arrival expected
  rcases lport.boundAs host with _ | _ | _ <;> rfl

theorem foldl_departure (config : Config) (host : Id) (lport : LogicalPort) :
    (PortBindingApp.departure host lport).foldl (rerouted config ∅)
      (expected config host lport) = none := by
  unfold PortBindingApp.departure expected
  rcases lport.boundAs host with _ | _ | _ <;> rfl

/-- `TunnelingApp` does not hear of a port that is updated in place. -/
theorem foldl_transition (config : Config) (host : Id) {original lport : LogicalPort}
    (stays : original.boundAs host = some .elsewhere →
      lport.boundAs host = some .elsewhere →
      route config ∅ original = route config ∅ lport) :
    (PortBindingApp.transition host original lport).foldl (rerouted config ∅)
      (expected config host original) = expected config host lport := by
  unfold PortBindingApp.transition expected
  rcases wasBound : original.boundAs host with _ | _ | _ <;>
    rcases isBound : lport.boundAs host with _ | _ | _ <;> try rfl
  exact stays wasBound isBound

/-- Every stored port has the entry that it asks for, and there are no others. -/
structure Routed (config : Config) (host : Id) (lports : Dict Id LogicalPort)
    (app : TunnelingApp) : Prop where
  placed : ∀ id lport, lports.lookup id = some lport →
    OnTunnel config lport ∧ Encodable config host lport
  distinct : ∀ id lport other otherPort, lports.lookup id = some lport →
    lports.lookup other = some otherPort →
    otherPort.uniqueKey = lport.uniqueKey → other = id
  entry : ∀ id lport, lports.lookup id = some lport →
    app.dispatch lport.uniqueKey = expected config host lport
  rest : ∀ key, (∀ id lport, lports.lookup id = some lport → lport.uniqueKey ≠ key) →
    app.dispatch key = none

/-- What holds of the ports of tunnelled networks: a port keeps its key and its
network, and no two ports have the same key. -/
def WellPlaced (config : Config) (lports : Dict Id LogicalPort) : PortChange → Prop
  | .update lport =>
      OnTunnel config lport ∧
      (∀ original, lports.lookup lport.id = some original →
        original.uniqueKey = lport.uniqueKey ∧ original.lswitch = lport.lswitch) ∧
      (∀ id other, lports.lookup id = some other →
        other.uniqueKey = lport.uniqueKey → id = lport.id)
  | .delete _ => True

/-- The flow of a port that is bound elsewhere can be encoded, and leads to the same
address if the port was elsewhere already. -/
def StaysPut (config : Config) (host : Id) (lports : Dict Id LogicalPort) :
    PortChange → Prop
  | .update lport =>
      Encodable config host lport ∧ ∀ original, lports.lookup lport.id = some original →
        original.boundAs host = some .elsewhere →
        lport.boundAs host = some .elsewhere →
        original.binding.map (PortBinding.ip config.chassis) =
          lport.binding.map (PortBinding.ip config.chassis)
  | .delete _ => True

theorem route_congr {host : Id} {original lport : LogicalPort}
    (sameSwitch : original.lswitch = lport.lswitch)
    (wasElsewhere : original.boundAs host = some .elsewhere)
    (isElsewhere : lport.boundAs host = some .elsewhere)
    (sameIp : original.binding.map (PortBinding.ip config.chassis) =
      lport.binding.map (PortBinding.ip config.chassis)) :
    route config ∅ original = route config ∅ lport := by
  rcases boundAs_elsewhere.mp wasElsewhere with ⟨_, wasBinding, wasBound, _⟩
  rcases boundAs_elsewhere.mp isElsewhere with ⟨_, binding, bound, _⟩
  rw [wasBound, bound, Option.map_some, Option.map_some, Option.some.injEq] at sameIp
  have sameRead : config.lswitch original = config.lswitch lport := by
    unfold Inventory.lswitch
    rw [sameSwitch]
  unfold route tunnelIp
  rw [sameRead, remoteIp_free config wasBound, remoteIp_free config bound, sameIp]

section Step

variable {host : Id}

theorem Routed.update (routed : Routed config host lports app)
    (wellPlaced : WellPlaced config lports (.update lport))
    (staysPut : StaysPut config host lports (.update lport)) :
    Routed config host (lports.insert lport.id lport)
      (QuietApp.runEvents [TunnelingApp.app config] (lports.insert lport.id lport) ∅
        ((PortChange.update lport).events host lports) app) := by
  rcases wellPlaced with ⟨onTunnel, keepsKey, unique⟩
  rcases staysPut with ⟨encodable, sameIp⟩
  have dispatched : (QuietApp.runEvents [TunnelingApp.app config]
      (lports.insert lport.id lport) ∅ ((PortChange.update lport).events host lports)
      app).dispatch =
        Function.update app.dispatch lport.uniqueKey (expected config host lport) := by
    have before : ((PortChange.update lport).events host lports).foldl
        (rerouted config ∅) (app.dispatch lport.uniqueKey) =
          expected config host lport := by
      cases stored : lports.lookup lport.id with
      | none =>
          have unrouted : app.dispatch lport.uniqueKey = none := by
            apply routed.rest
            intro id other found same
            rw [unique id other found same, stored] at found
            cases found
          rw [PortChange.events, stored, unrouted]
          exact foldl_arrival config host lport
      | some original =>
          rcases keepsKey original stored with ⟨sameKey, sameSwitch⟩
          rw [PortChange.events, stored, ← sameKey, routed.entry lport.id original stored]
          apply foldl_transition config host
          intro wasElsewhere isElsewhere
          exact route_congr sameSwitch wasElsewhere isElsewhere
            (sameIp original stored wasElsewhere isElsewhere)
    rw [← before]
    apply dispatch_runEvents
    · intro entry member
      rcases (PortChange.mem_events_update member).1 with same | stored
      · rw [same]
        exact onTunnel
      · exact (routed.placed _ _ stored).1
    · intro entry member
      rcases (PortChange.mem_events_update member).1 with same | stored
      · rw [same]
      · exact (keepsKey entry.2 stored).1
    · intro entry member isBind
      rcases (PortChange.mem_events_update member).2 _ isBind with ⟨same, elsewhere⟩
      rw [same]
      exact encodable.located elsewhere
  constructor
  · intro id stored found
    rw [Dict.lookup_insert_eq] at found
    split at found
    · cases found
      exact ⟨onTunnel, encodable⟩
    · exact routed.placed id stored found
  · intro id stored other otherStored found foundOther same
    rw [Dict.lookup_insert_eq] at found foundOther
    split at found <;> split at foundOther
    · next isPort isPortToo => exact isPortToo.trans isPort.symm
    · next isPort _ =>
        cases found
        exact (unique other otherStored foundOther same).trans isPort.symm
    · next _ isPort =>
        cases foundOther
        exact isPort.trans (unique id stored found same.symm).symm
    · exact routed.distinct id stored other otherStored found foundOther same
  · intro id stored found
    rw [dispatched, Function.update_apply]
    rw [Dict.lookup_insert_eq] at found
    split at found
    · cases found
      rw [if_pos rfl]
    · next different =>
        rw [if_neg fun same => different (unique id stored found same)]
        exact routed.entry id stored found
  · intro key unowned
    have different : key ≠ lport.uniqueKey := by
      intro same
      exact unowned lport.id lport (AList.lookup_insert _) same.symm
    rw [dispatched, Function.update_of_ne different]
    apply routed.rest
    intro id stored found same
    by_cases isPort : id = lport.id
    · subst isPort
      exact different (same.symm.trans (keepsKey stored found).1)
    · exact unowned id stored ((AList.lookup_insert_ne isPort).trans found) same

theorem Routed.delete {id : Id} (routed : Routed config host lports app) :
    Routed config host (lports.erase id)
      (QuietApp.runEvents [TunnelingApp.app config] lports ∅
        ((PortChange.delete id).events host lports) app) := by
  have kept : ∀ other stored, (lports.erase id).lookup other = some stored →
      other ≠ id ∧ lports.lookup other = some stored := by
    intro other stored found
    rw [Dict.lookup_erase_eq] at found
    split at found
    · cases found
    · next different => exact ⟨different, found⟩
  have dispatched : (QuietApp.runEvents [TunnelingApp.app config] lports ∅
      ((PortChange.delete id).events host lports) app).dispatch =
        (lports.lookup id).elim app.dispatch fun lport =>
          Function.update app.dispatch lport.uniqueKey none := by
    cases stored : lports.lookup id with
    | none =>
        rw [PortChange.events, stored]
        rfl
    | some lport =>
        rw [PortChange.events, stored, ← foldl_departure config host lport,
          ← routed.entry id lport stored]
        apply dispatch_runEvents
        · intro entry member
          rw [(PortBindingApp.mem_departure member).1]
          exact (routed.placed id lport stored).1
        · intro entry member
          rw [(PortBindingApp.mem_departure member).1]
        · intro entry member isBind
          exact absurd isBind ((PortBindingApp.mem_departure member).2 _)
  constructor
  · intro other stored found
    exact routed.placed other stored (kept other stored found).2
  · intro one stored other otherStored found foundOther same
    exact routed.distinct one stored other otherStored (kept one stored found).2
      (kept other otherStored foundOther).2 same
  · intro other stored found
    rcases kept other stored found with ⟨different, foundBefore⟩
    rw [dispatched]
    cases storedId : lports.lookup id with
    | none => exact routed.entry other stored foundBefore
    | some lport =>
        have otherKey : stored.uniqueKey ≠ lport.uniqueKey := fun same =>
          different (routed.distinct id lport other stored storedId foundBefore same)
        rw [Option.elim_some, Function.update_of_ne otherKey]
        exact routed.entry other stored foundBefore
  · intro key unowned
    rw [dispatched]
    have erased : ∀ other stored, lports.lookup other = some stored → other ≠ id →
        stored.uniqueKey ≠ key := by
      intro other stored found different
      exact unowned other stored ((AList.lookup_erase_ne different).trans found)
    cases storedId : lports.lookup id with
    | none =>
        apply routed.rest
        intro other stored found
        apply erased other stored found
        intro same
        rw [same, storedId] at found
        cases found
    | some lport =>
        rw [Option.elim_some, Function.update_apply]
        split
        · rfl
        · next different =>
            apply routed.rest
            intro other stored found same
            by_cases isPort : other = id
            · rw [isPort, storedId] at found
              cases found
              exact different same.symm
            · exact erased other stored found isPort same

theorem Routed.empty (config : Config) (host : Id) : Routed config host ∅ {} where
  placed := by
    intro id lport found
    cases found
  distinct := by
    intro id lport other otherPort found
    cases found
  entry := by
    intro id lport found
    cases found
  rest := fun _ _ => rfl

theorem Routed.change (routed : Routed config host lports app) (event : PortChange)
    (wellPlaced : WellPlaced config lports event)
    (staysPut : StaysPut config host lports event) :
    Routed config host (event.apply lports)
      (QuietApp.runEvents [TunnelingApp.app config] (event.during lports) ∅
        (event.events host lports) app) := by
  cases event with
  | update lport => exact routed.update wellPlaced staysPut
  | delete id => exact routed.delete

end Step

/-! ## Every history of ports -/

/-- There is a flow for a key exactly if the port of that key is enabled and
bound elsewhere, and it leads to the ip of the binding in the port's network. -/
structure Dispatched (config : Config) (host : Id) (lports : Dict Id LogicalPort)
    (app : TunnelingApp) : Prop where
  present : ∀ key, (app.dispatch key).isSome ↔
    ∃ id lport binding, lports.lookup id = some lport ∧ lport.uniqueKey = key ∧
      lport.Up ∧ lport.binding = some binding ∧ binding.isLocal host = false
  destination : ∀ id lport binding lswitch peerIp, lports.lookup id = some lport →
    lport.Up → lport.binding = some binding → binding.isLocal host = false →
    config.lswitch lport = .ok lswitch → binding.ip config.chassis = .ok peerIp →
    ∃ address segmentationId, peerIp = some (.v4 address) ∧
      lswitch.segmentationId = some segmentationId ∧
      app.dispatch lport.uniqueKey = some ⟨0, [.applyActions [
        .setField (.tunIpv4Dst address), .setField (.tunnelId segmentationId),
        .output (config.vtpOfport lswitch.networkType)]]⟩

theorem expected_elsewhere {host : Id} {binding : PortBinding}
    {lswitch : LogicalSwitch} {peerIp : BitVec 32} {segmentationId : Nat} (up : lport.Up)
    (bound : lport.binding = some binding) (isRemote : binding.isLocal host = false)
    (read : config.lswitch lport = .ok lswitch)
    (found : binding.ip config.chassis = .ok (some (.v4 peerIp)))
    (hasId : lswitch.segmentationId = some segmentationId) :
    expected config host lport =
      some (peerEntry config lswitch peerIp segmentationId) := by
  unfold expected route
  rw [if_pos (boundAs_elsewhere.mpr ⟨up, binding, bound, isRemote⟩), read,
    tunnelIp_free config bound found]
  simp only [hasId, Option.map_some]

theorem Routed.dispatched {host : Id} (routed : Routed config host lports app) :
    Dispatched config host lports app where
  present := by
    intro key
    constructor
    · intro isThere
      by_contra unowned
      have absent : app.dispatch key = none := by
        by_cases owned : ∃ id lport, lports.lookup id = some lport ∧
            lport.uniqueKey = key
        · rcases owned with ⟨id, lport, found, rfl⟩
          rw [routed.entry id lport found, expected, if_neg]
          intro elsewhere
          rcases boundAs_elsewhere.mp elsewhere with ⟨up, binding, bound, isRemote⟩
          exact unowned ⟨id, lport, binding, found, rfl, up, bound, isRemote⟩
        · apply routed.rest
          intro id lport found same
          exact owned ⟨id, lport, found, same⟩
      rw [absent] at isThere
      cases isThere
    · intro owned
      rcases owned with ⟨id, lport, binding, found, rfl, up, bound, isRemote⟩
      rcases routed.placed id lport found with ⟨⟨lswitch, read, _⟩, encodable⟩
      rcases encodable.found up bound isRemote read with ⟨peerIp, _, located, hasId⟩
      rw [routed.entry id lport found,
        expected_elsewhere up bound isRemote read located hasId]
      rfl
  destination := by
    intro id lport binding lswitch peerIp found up bound isRemote read located
    rcases (routed.placed id lport found).2.found up bound isRemote read with
      ⟨address, segmentationId, isIp, hasId⟩
    cases located.symm.trans isIp
    refine ⟨address, segmentationId, rfl, hasId, ?_⟩
    rw [routed.entry id lport found]
    exact expected_elsewhere up bound isRemote read isIp hasId

/-- As long as the flows can be encoded, and no port goes from one chassis straight to
another one, the flows of the ports lead to where they are. -/
theorem dispatch_follows_ports (config : Config) (host : Id)
    (before after : List (QuietApp TunnelingApp))
    (registered : before ++ after = [TunnelingApp.app config]) (depth : Nat)
    (history : List PortChange)
    (wellPlaced : PortBindingApp.Admissible (WellPlaced config) ∅ history)
    (staysPut : PortBindingApp.Admissible (StaysPut config host) ∅ history) :
    let node := PortBindingApp.run host before after depth {} history
    Dispatched config host node.lports node.apps := by
  apply Routed.dispatched
  apply PortBindingApp.run_invariant (Routed config host) depth ?_
    (Routed.empty config host) (wellPlaced.and staysPut)
  intro lports app event _ allowed routed
  rw [registered]
  exact routed.change event allowed.1 allowed.2

/-! ## A port that moves -/

def portAt (chassis : Id) : LogicalPort where
  id := "p"
  uniqueKey := 7
  lswitch := some "n"
  binding := some (.chassis chassis)

theorem journey_wellPlaced (journey : List Id)
    (lports : Dict Id LogicalPort)
    (stored : ∀ id lport, lports.lookup id = some lport →
      id = "p" ∧ lport.uniqueKey = 7 ∧ lport.lswitch = some "n") :
    PortBindingApp.Admissible (WellPlaced threeChassis) lports
      (journey.map fun chassis => .update (portAt chassis)) := by
  induction journey generalizing lports with
  | nil => trivial
  | cons chassis journey induction =>
      refine ⟨⟨⟨⟨"n", 5, some "vxlan", some 100⟩, rfl, by decide⟩, ?_, ?_⟩, ?_⟩
      · intro original found
        exact (stored _ _ found).2
      · intro id other found _
        exact (stored id other found).1
      · apply induction
        intro id lport found
        rw [PortChange.apply, Dict.lookup_insert_eq] at found
        split at found
        · next same =>
            cases found
            exact ⟨same, rfl, rfl⟩
        · exact stored id lport found

/-- Through the own chassis, a port can go to any other one. -/
theorem dispatch_follows_ports_homecoming :
    let history := ["c2", "c1", "c3"].map fun chassis => PortChange.update (portAt chassis)
    let node := PortBindingApp.run "c1" [] [TunnelingApp.app threeChassis] 0 {} history
    Dispatched threeChassis "c1" node.lports node.apps := by
  apply dispatch_follows_ports threeChassis "c1" [] [TunnelingApp.app threeChassis] rfl 0
  · apply journey_wellPlaced
    intro id lport found
    cases found
  · refine ⟨⟨fun _ => ⟨⟨0x0a000002, rfl⟩, _, 100, rfl, rfl⟩, ?_⟩, ⟨?_, ?_⟩,
      ⟨fun _ => ⟨⟨0x0a000003, rfl⟩, _, 100, rfl, rfl⟩, ?_⟩, trivial⟩
    · intro original found
      cases found
    · intro isElsewhere
      cases isElsewhere
    · intro original found _ isElsewhere
      cases isElsewhere
    · intro original found wasElsewhere
      cases found
      cases wasElsewhere

/-- The flow of a port that goes from one chassis to another one leads to the
first. -/
theorem dispatch_stale_after_move :
    let history := ["c2", "c3"].map fun chassis => PortChange.update (portAt chassis)
    let node := PortBindingApp.run "c1" [] [TunnelingApp.app threeChassis] 0 {} history
    PortBindingApp.Admissible (WellPlaced threeChassis) ∅ history ∧
      ¬Dispatched threeChassis "c1" node.lports node.apps := by
  refine ⟨?_, ?_⟩
  · apply journey_wellPlaced
    intro id lport found
    cases found
  · intro dispatched
    rcases dispatched.destination "p" (portAt "c3") (.chassis "c3")
      ⟨"n", 5, some "vxlan", some 100⟩ (some (.v4 0x0a000003)) rfl (by decide) rfl rfl
      rfl rfl with ⟨address, segmentationId, isAddress, isId, destination⟩
    cases isAddress
    cases isId
    revert destination
    decide +kernel

end TunnelingApp

end Dragonflow
