import Dragonflow.Controller.Apps.L2
import Dragonflow.Controller.Apps.ProviderReconnection
import Dragonflow.Controller.Apps.TunnelReconnection

/-! # Reconnecting to an empty switch

When the switch comes back it has lost its flows, and `switch_features_handler` of each
application is called. What an application remembers of the ports decides which flows it
installs when the ports are bound again.
-/

namespace Dragonflow

open Program

/-! ## L2 -/

namespace L2App

/-- `add_flow_go_to_table` -/
def addFlowGoToTable (table priority target : Nat) (pattern : OFPMatch) : Action Unit :=
  modFlow { table, priority, pattern, instructions := goToTable table target }

/-- `switch_features_handler` -/
def switchFeaturesHandler : Action Unit := do
  addFlowGoToTable Const.servicesClassificationTable Const.priorityDefault
    Const.l2LookupTable {}
  addFlowGoToTable Const.arpTable Const.priorityDefault Const.l2LookupTable {}
  addFlowGoToTable Const.ipv6NdTable Const.priorityDefault Const.l2LookupTable {}
  addFlowGoToTable Const.servicesClassificationTable Const.priorityMedium Const.arpTable
    { ethType := some (.exact 0x0806) }
  addFlowGoToTable Const.servicesClassificationTable Const.priorityMedium Const.ipv6NdTable
    { ethType := some (.exact 0x86dd), ipProto := some (.exact 58) }
  addFlowGoToTable Const.egressConntrackTable Const.priorityDefault
    Const.servicesClassificationTable {}
  addFlowGoToTable Const.ingressConntrackTable Const.priorityDefault
    Const.ingressDispatchTable {}
  modify fun app => { app with localNetworks := ∅ }

/-- The switch comes back without flows. -/
def reconnected (app : L2App) : L2App :=
  (exec switchFeaturesHandler { app with flows := FlowTable.empty }).2

theorem reconnected_eq (app : L2App) : app.reconnected = reconnected {} := rfl

end L2App

/-! ## All applications -/

theorem flows_rebuilt (l2Config : L2App.Config) (config : TunnelingApp.Config)
    (mappings : BridgeMappings) (bridges newBridges : ProviderApp.Bridges)
    (store : ProviderApp.Store) (network : Id → Except PyError LogicalSwitch)
    (providerNetwork : Id → Except PyError ProviderSwitch)
    (before after : List PortDelivery) :
    Rebuilds (L2App.app l2Config) L2App.flows L2App.reconnected L2App.reconnected {} before
        after ∧
      (PortDelivery.InTurn config.lswitch network before →
        (∀ kind portId lswitch, PortDelivery.Bound before kind portId →
          network portId = .ok lswitch → ¬TunnelingApp.tunnelled config lswitch) →
        Rebuilds (TunnelingApp.app config) TunnelingApp.flows TunnelingApp.reconnected
          TunnelingApp.reconnected {} before after) ∧
      (PortDelivery.InTurn (ProviderApp.portLswitch store) providerNetwork before →
        (∀ portId lswitch, PortDelivery.Bound before .here portId →
          providerNetwork portId = .ok lswitch → ¬ProviderApp.isProvider lswitch) →
        Rebuilds (ProviderApp.app store) ProviderApp.flows
          (ProviderApp.reconnected mappings bridges)
          (ProviderApp.reconnected mappings newBridges) {} before after) := by
  refine ⟨?_, fun inTurn noTunnelled => TunnelingApp.rebuilds after inTurn noTunnelled,
    fun inTurn noProvider => ProviderApp.rebuilds bridges newBridges after inTurn noProvider⟩
  rw [Rebuilds, L2App.reconnected_eq]

/-- A port of the tunnelled network of `TunnelingApp.threeChassis`. -/
def tunnelledPort : LogicalPort := { id := "a", lswitch := some "n" }

def noMappings : BridgeMappings :=
  ⟨∅, by
    intro _ _ _ found
    cases found⟩

def noBridges : ProviderApp.Bridges := ⟨fun _ => 0, fun _ => none⟩

theorem flows_rebuilt_unboundPort :
    let network := LogicalSwitch.mk "n" 5 (some "vxlan") (some 100)
    let store : ProviderApp.Store := [⟨network, none⟩]
    let before : List PortDelivery :=
      [{ event := .bind .here, lport := tunnelledPort },
        { event := .unbind .here, lport := tunnelledPort }]
    let after : List PortDelivery := [{ event := .bind .here, lport := tunnelledPort }]
    Rebuilds (L2App.app ⟨fun _ => none, true⟩) L2App.flows L2App.reconnected
        L2App.reconnected {} before after ∧
      Rebuilds (TunnelingApp.app TunnelingApp.threeChassis) TunnelingApp.flows
        TunnelingApp.reconnected TunnelingApp.reconnected {} before after ∧
      Rebuilds (ProviderApp.app store) ProviderApp.flows
        (ProviderApp.reconnected noMappings noBridges)
        (ProviderApp.reconnected noMappings noBridges) {} before after := by
  intro network store before after
  have noSession (portId : Id) : session (PortDelivery.sessions before) portId = some none := by
    by_cases isPort : "a" = portId
    · subst isPort
      rfl
    · simp [before, PortDelivery.sessions, session, tunnelledPort, isPort]
  have unbound (kind : Locality) (portId : Id) : ¬PortDelivery.Bound before kind portId := by
    rw [PortDelivery.Bound, noSession]
    simp
  have inOrder (portId : Id) : session (PortDelivery.sessions before) portId ≠ none := by
    rw [noSession]
    simp
  have providerInTurn : PortDelivery.InTurn (ProviderApp.portLswitch store)
      (fun _ => .ok ⟨network, none⟩) before := by
    refine ⟨inOrder, ?_⟩
    intro delivery member
    simp only [before, List.mem_cons, List.not_mem_nil, or_false] at member
    rcases member with rfl | rfl <;> rfl
  have inTurn : PortDelivery.InTurn TunnelingApp.threeChassis.lswitch (fun _ => .ok network)
      before := by
    refine ⟨inOrder, ?_⟩
    intro delivery member
    simp only [before, List.mem_cons, List.not_mem_nil, or_false] at member
    rcases member with rfl | rfl <;> rfl
  rcases flows_rebuilt ⟨fun _ => none, true⟩ TunnelingApp.threeChassis noMappings noBridges
    noBridges store _ _ before after with ⟨l2, tunnelling, provider⟩
  exact ⟨l2, tunnelling inTurn fun kind portId _ isBound => absurd isBound (unbound kind portId),
    provider providerInTurn fun portId _ isBound => absurd isBound (unbound .here portId)⟩

/-- The network still has a port in the cache, so that no flow is installed when the port
is bound again. -/
theorem reconnected_without_ingress :
    let network := LogicalSwitch.mk "n" 5 (some "vxlan") (some 100)
    let flow := TunnelingApp.newNetworkIngressFlow TunnelingApp.threeChassis network 100
    let ingress (app : TunnelingApp) := app.flows flow.table flow.priority flow.pattern
    let deliver := (TunnelingApp.app TunnelingApp.threeChassis).deliver
    let bind : PortDelivery := { event := .bind .here, lport := tunnelledPort }
    let app := (trace deliver [bind] (TunnelingApp.reconnected {})).2
    PortDelivery.InTurn TunnelingApp.threeChassis.lswitch (fun _ => .ok network) [bind] ∧
      (ingress (trace deliver [bind] (TunnelingApp.reconnected {})).2).isSome ∧
      (ingress (trace deliver [bind] app.reconnected).2) = none := by
  refine ⟨⟨?_, ?_⟩, ?_, ?_⟩
  · intro portId
    by_cases isPort : "a" = portId
    · subst isPort
      decide
    · simp [PortDelivery.sessions, session, tunnelledPort, isPort]
  · intro delivery member
    rw [List.mem_singleton.mp member]
    rfl
  · decide +kernel
  · decide +kernel

end Dragonflow
