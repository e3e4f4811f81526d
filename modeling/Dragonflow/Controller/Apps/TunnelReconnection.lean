import Dragonflow.Controller.Apps.Tunneling
import Dragonflow.Controller.Common.PortHistories
import Dragonflow.Foundation.Simulation

/-! # Tunnels after a reconnection

`TunnelingApp` keeps its caches when the switch comes back without flows.
-/

namespace Dragonflow

open Program

namespace TunnelingApp

/-- `switch_features_handler`. The ports of the tunnels are created; the application
itself is not changed. -/
def switchFeaturesHandler : Action Unit := pure ()

/-- The switch comes back without flows. -/
def reconnected (app : TunnelingApp) : TunnelingApp :=
  (exec switchFeaturesHandler { app with flows := FlowTable.empty }).2

/-! ## Applications that install the same flows -/

/-- The applications have the same flows and will install the same flows. -/
structure Alike (app twin : TunnelingApp) : Prop where
  flows : app.flows = twin.flows
  networks : app.localNetworks.Same twin.localNetworks

variable {config : Config} {lports : Dict Id LogicalPort} {locations : Locations}

theorem modFlow_alike (message : OFPFlowMod) :
    Simulates Alike (modFlow message) (modFlow message) :=
  Simulates.modify fun _ _ alike =>
    ⟨congrArg (fun flows => FlowTable.apply flows message) alike.flows, alike.networks⟩

theorem onNetworks_alike {change : LogicalNetworks → LogicalNetworks}
    (closed : ∀ networks twin, networks.Same twin → (change networks).Same (change twin)) :
    Simulates Alike (onNetworks change) (onNetworks change) :=
  Simulates.modify fun _ _ alike => ⟨alike.flows, closed _ _ alike.networks⟩

theorem modFlowOfEmpty_alike (lswitch : LogicalSwitch) (message : Nat → OFPFlowMod) :
    Simulates Alike (modFlowOfEmpty lswitch message) (modFlowOfEmpty lswitch message) := by
  intro app twin alike
  unfold modFlowOfEmpty
  rw [coupled_get_bind, alike.networks.getLocalPortCount]
  split
  · exact Simulates.bind (Simulates.ofExcept _) (fun _ => modFlow_alike _) app twin alike
  · exact coupled_pure.mpr alike

theorem addLocalPort_alike (lport : LogicalPort) :
    Simulates Alike (addLocalPort config lport) (addLocalPort config lport) := by
  apply Simulates.bind (Simulates.ofExcept _)
  intro lswitch
  split
  · apply Simulates.bind (modFlowOfEmpty_alike lswitch _)
    intro _
    exact onNetworks_alike fun networks twin same => same.addLocalPort _ _ _
  · exact Simulates.pure _

theorem removeLocalPort_alike (lport : LogicalPort) :
    Simulates Alike (removeLocalPort config lport) (removeLocalPort config lport) := by
  apply Simulates.bind (Simulates.ofExcept _)
  intro lswitch
  split
  · apply Simulates.bind
      (onNetworks_alike fun networks twin same => same.removeLocalPort _ _ _)
    intro _
    exact modFlowOfEmpty_alike lswitch _
  · exact Simulates.pure _

theorem evalFlowActions_same {networks twin : LogicalNetworks} (same : networks.Same twin)
    (networkId : Nat) (networkType : Option String) (segmentationId : Option Nat)
    (command : FlowCommand) :
    evalFlowActions config lports locations networks networkId segmentationId
        (networks.getRemotePortCount networkId networkType) command =
      evalFlowActions config lports locations twin networkId segmentationId
        (twin.getRemotePortCount networkId networkType) command := by
  rw [evalFlowActions, evalFlowActions, ← same.getRemotePortCount]
  split
  · rfl
  · rename_i someCount
    have samePorts : networks.getRemotePorts networkId none =
        twin.getRemotePorts networkId none := same.elsewhere.getPorts someCount
    rw [makeBumFlowActions, makeBumFlowActions, samePorts]

theorem modifyEgressBumFlow_alike (lswitch : LogicalSwitch) (command : FlowCommand) :
    Simulates Alike (modifyEgressBumFlow config lports locations lswitch command)
      (modifyEgressBumFlow config lports locations lswitch command) := by
  intro app twin alike
  unfold modifyEgressBumFlow
  rw [coupled_get_bind]
  dsimp only
  rw [evalFlowActions_same alike.networks]
  exact Simulates.bind (Simulates.ofExcept _) (fun _ => modFlow_alike _) app twin alike

theorem addRemotePort_alike (lport : LogicalPort) :
    Simulates Alike (addRemotePort config lports locations lport)
      (addRemotePort config lports locations lport) := by
  apply Simulates.bind (Simulates.ofExcept _)
  intro lswitch
  split
  · apply Simulates.bind (Simulates.bind (Simulates.ofExcept _) fun _ =>
      Simulates.bind (Simulates.ofExcept _) fun _ => modFlow_alike _)
    intro _
    apply Simulates.bind
      (onNetworks_alike fun networks twin same => same.addRemotePort _ _ _)
    intro _
    exact modifyEgressBumFlow_alike lswitch _
  · exact Simulates.pure _

theorem removeRemotePort_alike (lport : LogicalPort) :
    Simulates Alike (removeRemotePort config lports locations lport)
      (removeRemotePort config lports locations lport) := by
  apply Simulates.bind (Simulates.ofExcept _)
  intro lswitch
  split
  · apply Simulates.bind (modFlow_alike _)
    intro _
    apply Simulates.bind
      (onNetworks_alike fun networks twin same => same.removeRemotePort _ _ _)
    intro _
    exact modifyEgressBumFlow_alike lswitch _
  · exact Simulates.pure _

theorem deliver_alike (delivery : PortDelivery) :
    Simulates Alike ((app config).deliver delivery) ((app config).deliver delivery) := by
  unfold QuietApp.deliver app
  cases delivery.event with
  | bind kind =>
      cases kind with
      | here => exact addLocalPort_alike _
      | elsewhere => exact addRemotePort_alike _
  | unbind kind =>
      cases kind with
      | here => exact removeLocalPort_alike _
      | elsewhere => exact removeRemotePort_alike _
  | updated kind original => exact Simulates.pure _

/-! ## What the application remembers -/

theorem networks_modFlowOfEmpty (lswitch : LogicalSwitch) (message : Nat → OFPFlowMod)
    (app : TunnelingApp) :
    (exec (modFlowOfEmpty lswitch message) app).2.localNetworks = app.localNetworks := by
  rw [modFlowOfEmpty, exec_bind, exec_get]
  dsimp only
  split
  · cases lswitch.segmentationId <;> rfl
  · rfl

theorem networks_modifyEgressBumFlow (lswitch : LogicalSwitch) (command : FlowCommand)
    (app : TunnelingApp) :
    (exec (modifyEgressBumFlow config lports locations lswitch command) app).2.localNetworks =
      app.localNetworks := by
  rw [modifyEgressBumFlow, exec_bind, exec_get]
  dsimp only
  generalize evalFlowActions config lports locations _ _ _ _ _ = evaluated
  cases evaluated <;> rfl

/-- The networks after local ports are added and removed. -/
theorem networks_addLocalPort (lport : LogicalPort) (app : TunnelingApp) :
    let after := (exec (addLocalPort config lport) app).2.localNetworks
    PortDelivery.Enters id (tunnelled config) (config.lswitch lport) lport.id
        app.localNetworks.localPortsNetCache after.localPortsNetCache ∧
      after.remotePortsNetCache = app.localNetworks.remotePortsNetCache := by
  rw [addLocalPort]
  cases read : config.lswitch lport with
  | error error => exact ⟨Or.inl rfl, rfl⟩
  | ok lswitch =>
      rw [exec_bind, exec_ofExcept_ok]
      dsimp only
      split
      · rename_i isTunnelled
        have kept := networks_modFlowOfEmpty lswitch (newNetworkIngressFlow config lswitch) app
        rw [exec_bind]
        rcases executed : exec (modFlowOfEmpty lswitch (newNetworkIngressFlow config lswitch))
          app with ⟨error | value, after⟩
        · rw [executed] at kept
          dsimp only at kept ⊢
          rw [kept]
          exact ⟨Or.inl rfl, rfl⟩
        · rw [executed] at kept
          dsimp only [onNetworks, exec_modify] at kept ⊢
          rw [kept]
          exact ⟨Or.inr ⟨lswitch, rfl, isTunnelled, rfl⟩, rfl⟩
      · exact ⟨Or.inl rfl, rfl⟩

theorem networks_removeLocalPort (lport : LogicalPort) (app : TunnelingApp) :
    let after := (exec (removeLocalPort config lport) app).2.localNetworks
    PortDelivery.Departs id (tunnelled config) (config.lswitch lport) lport.id
        app.localNetworks.localPortsNetCache after.localPortsNetCache ∧
      after.remotePortsNetCache = app.localNetworks.remotePortsNetCache := by
  rw [removeLocalPort]
  cases read : config.lswitch lport with
  | error error => exact ⟨Or.inl ⟨rfl, fun _ impossible => nomatch impossible⟩, rfl⟩
  | ok lswitch =>
      rw [exec_bind, exec_ofExcept_ok]
      dsimp only
      split
      · rename_i isTunnelled
        rw [exec_bind, onNetworks, exec_modify]
        dsimp only
        rw [networks_modFlowOfEmpty]
        exact ⟨Or.inr ⟨lswitch, rfl, isTunnelled, rfl⟩, rfl⟩
      · rename_i unsupported
        refine ⟨Or.inl ⟨rfl, ?_⟩, rfl⟩
        intro other isOther
        cases isOther
        exact unsupported

/-- The networks after remote ports are added and removed. -/
theorem networks_addRemotePort (lport : LogicalPort) (app : TunnelingApp) :
    let after := (exec (addRemotePort config lports locations lport) app).2.localNetworks
    PortDelivery.Enters id (tunnelled config) (config.lswitch lport) lport.id
        app.localNetworks.remotePortsNetCache after.remotePortsNetCache ∧
      after.localPortsNetCache = app.localNetworks.localPortsNetCache := by
  rw [addRemotePort]
  cases read : config.lswitch lport with
  | error error => exact ⟨Or.inl rfl, rfl⟩
  | ok lswitch =>
      rw [exec_bind, exec_ofExcept_ok]
      dsimp only
      split
      · rename_i isTunnelled
        rw [exec_bind, addEgressDispatchFlow]
        cases tunnelIp config locations lport with
        | error error => exact ⟨Or.inl rfl, rfl⟩
        | ok peerIp =>
            rw [exec_bind, exec_ofExcept_ok]
            dsimp only
            cases encoded lswitch.segmentationId with
            | error error => exact ⟨Or.inl rfl, rfl⟩
            | ok segmentationId =>
                rw [exec_bind, exec_ofExcept_ok]
                dsimp only
                rw [modFlow, exec_modify]
                dsimp only
                rw [exec_bind, onNetworks, exec_modify]
                dsimp only
                rw [networks_modifyEgressBumFlow]
                exact ⟨Or.inr ⟨lswitch, rfl, isTunnelled, rfl⟩, rfl⟩
      · exact ⟨Or.inl rfl, rfl⟩

theorem networks_removeRemotePort (lport : LogicalPort) (app : TunnelingApp) :
    let after := (exec (removeRemotePort config lports locations lport) app).2.localNetworks
    PortDelivery.Departs id (tunnelled config) (config.lswitch lport) lport.id
        app.localNetworks.remotePortsNetCache after.remotePortsNetCache ∧
      after.localPortsNetCache = app.localNetworks.localPortsNetCache := by
  rw [removeRemotePort]
  cases read : config.lswitch lport with
  | error error => exact ⟨Or.inl ⟨rfl, fun _ impossible => nomatch impossible⟩, rfl⟩
  | ok lswitch =>
      rw [exec_bind, exec_ofExcept_ok]
      dsimp only
      split
      · rename_i isTunnelled
        rw [exec_bind, removeEgressDispatchFlow, modFlow, exec_modify]
        dsimp only
        rw [exec_bind, onNetworks, exec_modify]
        dsimp only
        rw [networks_modifyEgressBumFlow]
        exact ⟨Or.inr ⟨lswitch, rfl, isTunnelled, rfl⟩, rfl⟩
      · rename_i unsupported
        refine ⟨Or.inl ⟨rfl, ?_⟩, rfl⟩
        intro other isOther
        cases isOther
        exact unsupported

/-! ## Histories -/

/-- The caches hold ports that are bound. -/
structure Cached (config : Config) (network : Id → Except PyError LogicalSwitch)
    (deliveries : List PortDelivery) (networks : LogicalNetworks) : Prop where
  here : PortDelivery.Caches id (tunnelled config) network deliveries .here
    networks.localPortsNetCache
  elsewhere : PortDelivery.Caches id (tunnelled config) network deliveries .elsewhere
    networks.remotePortsNetCache

theorem Cached.deliver {network : Id → Except PyError LogicalSwitch}
    {deliveries : List PortDelivery} {delivery : PortDelivery} {state : TunnelingApp}
    (cached : Cached config network deliveries state.localNetworks)
    (inTurn : PortDelivery.InTurn config.lswitch network (deliveries ++ [delivery])) :
    Cached config network (deliveries ++ [delivery])
      (exec ((app config).deliver delivery) state).2.localNetworks := by
  unfold QuietApp.deliver app
  cases isEvent : delivery.event with
  | bind kind =>
      cases kind with
      | here =>
          rcases networks_addLocalPort delivery.lport state with ⟨enters, same⟩
          refine ⟨cached.here.enters inTurn isEvent enters, ?_⟩
          dsimp only
          rw [same]
          exact cached.elsewhere.kept inTurn (by simp [isEvent])
      | elsewhere =>
          rcases networks_addRemotePort delivery.lport state with ⟨enters, same⟩
          refine ⟨?_, cached.elsewhere.enters inTurn isEvent enters⟩
          dsimp only
          rw [same]
          exact cached.here.kept inTurn (by simp [isEvent])
  | unbind kind =>
      cases kind with
      | here =>
          rcases networks_removeLocalPort delivery.lport state with ⟨departs, same⟩
          refine ⟨cached.here.departs inTurn departs, ?_⟩
          dsimp only
          rw [same]
          exact cached.elsewhere.kept inTurn (by simp [isEvent])
      | elsewhere =>
          rcases networks_removeRemotePort delivery.lport state with ⟨departs, same⟩
          refine ⟨?_, cached.elsewhere.departs inTurn departs⟩
          dsimp only
          rw [same]
          exact cached.here.kept inTurn (by simp [isEvent])
  | updated kind original =>
      exact ⟨cached.here.kept inTurn (by simp [isEvent]),
        cached.elsewhere.kept inTurn (by simp [isEvent])⟩

theorem cached {network : Id → Except PyError LogicalSwitch}
    {deliveries : List PortDelivery}
    (inTurn : PortDelivery.InTurn config.lswitch network deliveries) :
    Cached config network deliveries
      (trace (app config).deliver deliveries (reconnected {})).2.localNetworks := by
  induction deliveries using List.reverseRecOn with
  | nil => exact ⟨PortsNetCache.Lists.empty, PortsNetCache.Lists.empty⟩
  | append_singleton deliveries delivery induction =>
      rw [trace_append]
      exact (induction inTurn.before).deliver inTurn

/-- After a reconnection without tunnelled ports the flows are those of a new
application. -/
theorem rebuilds {network : Id → Except PyError LogicalSwitch}
    {before : List PortDelivery} (after : List PortDelivery)
    (inTurn : PortDelivery.InTurn config.lswitch network before)
    (noPorts : ∀ kind portId lswitch, PortDelivery.Bound before kind portId →
      network portId = .ok lswitch → ¬tunnelled config lswitch) :
    Rebuilds (app config) flows reconnected reconnected {} before after := by
  have caches := cached inTurn
  have alike : Alike
      (reconnected (trace (app config).deliver before (reconnected {})).2)
      (reconnected {}) :=
    ⟨rfl, caches.here.same_empty (noPorts .here),
      caches.elsewhere.same_empty (noPorts .elsewhere)⟩
  exact (trace_related after (fun delivery _ => deliver_alike delivery) alike).flows

end TunnelingApp

end Dragonflow
