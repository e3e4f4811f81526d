import Dragonflow.Controller.Apps.PortSec
import Dragonflow.Controller.Apps.Provider
import Dragonflow.Controller.Common.PortHistories
import Dragonflow.Foundation.Simulation

/-! # Provider networks after a reconnection

`ProviderApp` links its bridges again, but it keeps its cache of ports.
-/

namespace Dragonflow

open Program

namespace ProviderApp

/-- What `ProviderApp` registers for ports. -/
def app (store : Store) : QuietApp ProviderApp := fun _ _ event lport =>
  match event with
  | .bind .here => addLocalPort store lport
  | .unbind .here => removeLocalPort store lport
  | .bind .elsewhere => pure ()
  | .unbind .elsewhere => pure ()
  | .updated _ _ => pure ()

/-- `switch_features_handler` -/
def switchFeaturesHandler (mappings : BridgeMappings) (bridges : Bridges) :
    Action Unit := do
  setupPhysicalBridges mappings bridges
  modFlow {
    table := Const.externalIngressDetectSourceTable
    priority := Const.priorityDefault
    pattern := {}
    instructions := goToTable Const.externalIngressDetectSourceTable Const.l2LookupTable }

/-- The switch comes back without flows. -/
def reconnected (mappings : BridgeMappings) (bridges : Bridges) (app : ProviderApp) :
    ProviderApp :=
  (exec (switchFeaturesHandler mappings bridges)
    { app with flows := FlowTable.empty }).2

/-! ## Applications that install the same flows -/

/-- Both know the same about the bridge of a physical network. -/
def AgreeAt (key : String) (app twin : ProviderApp) : Prop :=
  app.intOfports.lookup key = twin.intOfports.lookup key ∧
    app.bridgeMacs.lookup key = twin.bridgeMacs.lookup key

/-- The applications have the same flows and will install the same flows. -/
structure Alike (app twin : ProviderApp) : Prop where
  flows : app.flows = twin.flows
  here : app.logicalNetworks.localPortsNetCache.Same
    twin.logicalNetworks.localPortsNetCache
  bridges : ∀ key, AgreeAt key app twin

theorem byPhysicalNetwork_congr {ν : Type} {dict other : Dict String ν}
    (same : ∀ key, dict.lookup key = other.lookup key) (lswitch : ProviderSwitch) :
    byPhysicalNetwork dict lswitch = byPhysicalNetwork other lswitch := by
  have sameBind : lswitch.physicalNetwork.bind dict.lookup =
      lswitch.physicalNetwork.bind other.lookup := by
    cases lswitch.physicalNetwork with
    | none => rfl
    | some network => exact same network
  rw [byPhysicalNetwork, byPhysicalNetwork, sameBind]

section Alike

variable {app twin : ProviderApp} {store : Store}

theorem Alike.ofport (alike : Alike app twin) (lswitch : ProviderSwitch) :
    byPhysicalNetwork app.intOfports lswitch = byPhysicalNetwork twin.intOfports lswitch :=
  byPhysicalNetwork_congr (fun key => (alike.bridges key).1) lswitch

theorem Alike.mac (alike : Alike app twin) (lswitch : ProviderSwitch) :
    byPhysicalNetwork app.bridgeMacs lswitch = byPhysicalNetwork twin.bridgeMacs lswitch :=
  byPhysicalNetwork_congr (fun key => (alike.bridges key).2) lswitch

theorem modFlow_alike (message : OFPFlowMod) :
    Simulates Alike (modFlow message) (modFlow message) :=
  Simulates.modify fun _ _ alike =>
    ⟨congrArg (fun flows => FlowTable.apply flows message) alike.flows, alike.here,
      alike.bridges⟩

theorem egressPlaceholderFlow_alike (lswitch : ProviderSwitch) :
    Simulates Alike (egressPlaceholderFlow lswitch) (egressPlaceholderFlow lswitch) := by
  intro app twin alike
  unfold egressPlaceholderFlow
  rw [coupled_get_bind, alike.ofport, alike.mac]
  exact Simulates.bind (Simulates.ofExcept _)
    (fun _ => Simulates.bind (Simulates.ofExcept _) fun _ =>
      Simulates.bind (Simulates.ofExcept _) fun _ => modFlow_alike _) app twin alike

theorem classificationMatch_alike (lswitch : ProviderSwitch) :
    Simulates Alike (classificationMatch lswitch) (classificationMatch lswitch) := by
  apply Simulates.bind (Simulates.ofExcept _)
  intro vid app twin alike
  rw [coupled_get_bind, alike.ofport]
  exact Simulates.bind (Simulates.ofExcept _) (fun _ => Simulates.pure _) app twin alike

theorem egressFlow_alike (lswitch : ProviderSwitch) :
    Simulates Alike (egressFlow lswitch) (egressFlow lswitch) :=
  Simulates.bind (Simulates.ofExcept _) fun _ =>
    Simulates.bind (modFlow_alike _) fun _ => modFlow_alike _

theorem egressExternalFlow_alike (lswitch : ProviderSwitch) :
    Simulates Alike (egressExternalFlow lswitch) (egressExternalFlow lswitch) := by
  intro app twin alike
  have sameMac : lswitch.physicalNetwork.bind app.bridgeMacs.lookup =
      lswitch.physicalNetwork.bind twin.bridgeMacs.lookup := by
    cases lswitch.physicalNetwork with
    | none => rfl
    | some network => exact (alike.bridges network).2
  unfold egressExternalFlow
  rw [coupled_get_bind, alike.ofport, sameMac]
  refine Simulates.bind (Simulates.ofExcept _) (fun _ =>
    Simulates.bind (modFlow_alike _) fun _ => ?_) app twin alike
  split
  · exact egressPlaceholderFlow_alike lswitch
  · exact Simulates.pure _

theorem newNetworkFlow_alike (lswitch : ProviderSwitch) :
    Simulates Alike (newNetworkFlow lswitch) (newNetworkFlow lswitch) := by
  apply Simulates.bind
  · exact Simulates.bind (classificationMatch_alike lswitch) fun _ => modFlow_alike _
  intro _
  apply Simulates.bind (modFlow_alike _)
  intro _
  apply Simulates.bind (egressFlow_alike lswitch)
  intro _
  exact egressExternalFlow_alike lswitch

theorem removeNetworkFlow_alike (lswitch : ProviderSwitch) :
    Simulates Alike (removeNetworkFlow lswitch) (removeNetworkFlow lswitch) := by
  apply Simulates.bind
  · exact Simulates.bind (classificationMatch_alike lswitch) fun _ => modFlow_alike _
  intro _
  apply Simulates.bind (modFlow_alike _)
  intro _
  apply Simulates.bind (modFlow_alike _)
  intro _
  exact modFlow_alike _

theorem whenEmpty_alike {lswitch : ProviderSwitch} {action : Action Unit}
    (simulates : Simulates Alike action action) :
    Simulates Alike (whenEmpty lswitch action) (whenEmpty lswitch action) := by
  intro app twin alike
  have sameCount : app.logicalNetworks.getLocalPortCount lswitch.uniqueKey
        lswitch.networkType =
      twin.logicalNetworks.getLocalPortCount lswitch.uniqueKey lswitch.networkType :=
    alike.here.getPortCount _ _
  unfold whenEmpty
  rw [coupled_get_bind, sameCount]
  split
  · exact simulates app twin alike
  · exact coupled_pure.mpr alike

theorem addLocalPort_alike (lport : LogicalPort) :
    Simulates Alike (addLocalPort store lport) (addLocalPort store lport) := by
  apply Simulates.bind (Simulates.ofExcept _)
  intro lswitch
  split
  · apply Simulates.bind (whenEmpty_alike (newNetworkFlow_alike lswitch))
    intro _
    exact Simulates.modify fun _ _ alike =>
      ⟨alike.flows, alike.here.addPort _ _ _, alike.bridges⟩
  · exact Simulates.pure _

theorem removeLocalPort_alike (lport : LogicalPort) :
    Simulates Alike (removeLocalPort store lport) (removeLocalPort store lport) := by
  apply Simulates.bind (Simulates.ofExcept _)
  intro lswitch
  split
  · apply Simulates.bind
    · exact Simulates.modify fun _ _ alike =>
        ⟨alike.flows, alike.here.removePort _ _ _, alike.bridges⟩
    · intro _
      exact whenEmpty_alike (removeNetworkFlow_alike lswitch)
  · exact Simulates.pure _

theorem deliver_alike (delivery : PortDelivery) :
    Simulates Alike ((ProviderApp.app store).deliver delivery)
      ((ProviderApp.app store).deliver delivery) := by
  unfold QuietApp.deliver ProviderApp.app
  cases delivery.event with
  | bind kind =>
      cases kind with
      | here => exact addLocalPort_alike _
      | elsewhere => exact Simulates.pure _
  | unbind kind =>
      cases kind with
      | here => exact removeLocalPort_alike _
      | elsewhere => exact Simulates.pure _
  | updated kind original => exact Simulates.pure _

end Alike

/-! ## What the application remembers -/

structure FlowsOnly (before after : ProviderApp) : Prop where
  networks : after.logicalNetworks = before.logicalNetworks
  intOfports : after.intOfports = before.intOfports
  bridgeMacs : after.bridgeMacs = before.bridgeMacs

instance : IsPreorder ProviderApp FlowsOnly where
  refl _ := ⟨rfl, rfl, rfl⟩
  trans _ _ _ first second :=
    ⟨second.networks.trans first.networks, second.intOfports.trans first.intOfports,
      second.bridgeMacs.trans first.bridgeMacs⟩

theorem modFlow_flowsOnly (message : OFPFlowMod) : Keeps FlowsOnly (modFlow message) :=
  Keeps.modify fun _ => ⟨rfl, rfl, rfl⟩

theorem egressPlaceholderFlow_flowsOnly (lswitch : ProviderSwitch) :
    Keeps FlowsOnly (egressPlaceholderFlow lswitch) :=
  Keeps.bind Keeps.get fun _ => Keeps.bind (Keeps.ofExcept _) fun _ =>
    Keeps.bind (Keeps.ofExcept _) fun _ => Keeps.bind (Keeps.ofExcept _) fun _ =>
      modFlow_flowsOnly _

theorem classificationMatch_flowsOnly (lswitch : ProviderSwitch) :
    Keeps FlowsOnly (classificationMatch lswitch) :=
  Keeps.bind (Keeps.ofExcept _) fun _ => Keeps.bind Keeps.get fun _ =>
    Keeps.bind (Keeps.ofExcept _) fun _ => Keeps.pure _

theorem egressFlow_flowsOnly (lswitch : ProviderSwitch) :
    Keeps FlowsOnly (egressFlow lswitch) :=
  Keeps.bind (Keeps.ofExcept _) fun _ =>
    Keeps.bind (modFlow_flowsOnly _) fun _ => modFlow_flowsOnly _

theorem egressExternalFlow_flowsOnly (lswitch : ProviderSwitch) :
    Keeps FlowsOnly (egressExternalFlow lswitch) := by
  refine Keeps.bind Keeps.get fun app => Keeps.bind (Keeps.ofExcept _) fun _ =>
    Keeps.bind (modFlow_flowsOnly _) fun _ => ?_
  split
  · exact egressPlaceholderFlow_flowsOnly lswitch
  · exact Keeps.pure _

theorem newNetworkFlow_flowsOnly (lswitch : ProviderSwitch) :
    Keeps FlowsOnly (newNetworkFlow lswitch) :=
  Keeps.bind (Keeps.bind (classificationMatch_flowsOnly lswitch) fun _ =>
      modFlow_flowsOnly _) fun _ =>
    Keeps.bind (modFlow_flowsOnly _) fun _ =>
      Keeps.bind (egressFlow_flowsOnly lswitch) fun _ =>
        egressExternalFlow_flowsOnly lswitch

theorem removeNetworkFlow_flowsOnly (lswitch : ProviderSwitch) :
    Keeps FlowsOnly (removeNetworkFlow lswitch) :=
  Keeps.bind (Keeps.bind (classificationMatch_flowsOnly lswitch) fun _ =>
      modFlow_flowsOnly _) fun _ =>
    Keeps.bind (modFlow_flowsOnly _) fun _ =>
      Keeps.bind (modFlow_flowsOnly _) fun _ => modFlow_flowsOnly _

theorem whenEmpty_flowsOnly (lswitch : ProviderSwitch) {action : Action Unit}
    (keeps : Keeps FlowsOnly action) : Keeps FlowsOnly (whenEmpty lswitch action) := by
  refine Keeps.bind Keeps.get fun app => ?_
  split
  · exact keeps
  · exact Keeps.pure _

theorem caches_addLocalPort (store : Store) (lport : LogicalPort) (app : ProviderApp) :
    let after := (exec (addLocalPort store lport) app).2
    PortDelivery.Enters ProviderSwitch.toLogicalSwitch isProvider (portLswitch store lport)
        lport.id app.logicalNetworks.localPortsNetCache
        after.logicalNetworks.localPortsNetCache ∧
      after.intOfports = app.intOfports ∧ after.bridgeMacs = app.bridgeMacs := by
  rw [addLocalPort]
  cases read : portLswitch store lport with
  | error error => exact ⟨Or.inl rfl, rfl, rfl⟩
  | ok lswitch =>
      rw [exec_bind, exec_ofExcept_ok]
      dsimp only
      split
      · rename_i provider
        have kept := whenEmpty_flowsOnly lswitch (newNetworkFlow_flowsOnly lswitch) app
        rw [exec_bind]
        rcases executed : exec (whenEmpty lswitch (newNetworkFlow lswitch)) app with
          ⟨error | value, after⟩
        · rw [executed] at kept
          dsimp only at kept ⊢
          rw [kept.networks]
          exact ⟨Or.inl rfl, kept.intOfports, kept.bridgeMacs⟩
        · rw [executed] at kept
          dsimp only [onNetworks, exec_modify] at kept ⊢
          rw [kept.networks]
          exact ⟨Or.inr ⟨lswitch, rfl, provider, rfl⟩, kept.intOfports, kept.bridgeMacs⟩
      · exact ⟨Or.inl rfl, rfl, rfl⟩

theorem caches_removeLocalPort (store : Store) (lport : LogicalPort) (app : ProviderApp) :
    let after := (exec (removeLocalPort store lport) app).2
    PortDelivery.Departs ProviderSwitch.toLogicalSwitch isProvider (portLswitch store lport)
        lport.id app.logicalNetworks.localPortsNetCache
        after.logicalNetworks.localPortsNetCache ∧
      after.intOfports = app.intOfports ∧ after.bridgeMacs = app.bridgeMacs := by
  rw [removeLocalPort]
  cases read : portLswitch store lport with
  | error error => exact ⟨Or.inl ⟨rfl, fun _ impossible => nomatch impossible⟩, rfl, rfl⟩
  | ok lswitch =>
      rw [exec_bind, exec_ofExcept_ok]
      dsimp only
      split
      · rename_i provider
        rw [exec_bind, onNetworks, exec_modify]
        dsimp only
        have kept := whenEmpty_flowsOnly lswitch (removeNetworkFlow_flowsOnly lswitch)
          { app with
            logicalNetworks := app.logicalNetworks.removeLocalPort lport.id
              lswitch.uniqueKey lswitch.networkType }
        rw [kept.networks, kept.intOfports, kept.bridgeMacs]
        exact ⟨Or.inr ⟨lswitch, rfl, provider, rfl⟩, rfl, rfl⟩
      · rename_i unsupported
        refine ⟨Or.inl ⟨rfl, ?_⟩, rfl, rfl⟩
        intro other isOther
        cases isOther
        exact unsupported

/-! ## Bridges that are linked again -/

/-- A pass of the loop of `setupPhysicalBridges`. -/
def link (bridges : Bridges) (app : ProviderApp) (entry : (_ : String) × String) :
    ProviderApp :=
  { app with
    intOfports := app.intOfports.insert entry.1 (bridges.ofport entry.2)
    bridgeMacs := app.bridgeMacs.insert entry.1 (bridges.macInUse entry.2) }

theorem exec_setupEntries (bridges : Bridges) (entries : List ((_ : String) × String))
    (app : ProviderApp) :
    exec (forM entries fun entry => modify fun app => link bridges app entry : Action Unit)
      app = (.ok ⟨⟩, entries.foldl (link bridges) app) := by
  induction entries generalizing app with
  | nil => rfl
  | cons entry entries induction =>
      rw [List.forM_cons, exec_bind_ok (exec_modify _ _)]
      exact induction _

variable {bridges : Bridges} {app twin : ProviderApp} {key : String}

theorem link_agreeAt {entry : (_ : String) × String}
    (agree : key ≠ entry.1 → AgreeAt key app twin) :
    AgreeAt key (link bridges app entry) (link bridges twin entry) := by
  rw [AgreeAt, link, link]
  dsimp only
  rw [Dict.lookup_insert_eq, Dict.lookup_insert_eq, Dict.lookup_insert_eq,
    Dict.lookup_insert_eq]
  split
  · exact ⟨rfl, rfl⟩
  · rename_i different
    exact agree different

/-- What was known of other physical networks is the only thing that can differ. -/
theorem foldl_link_agreeAt (entries : List ((_ : String) × String))
    (agree : key ∉ entries.keys → AgreeAt key app twin) :
    AgreeAt key (entries.foldl (link bridges) app) (entries.foldl (link bridges) twin) := by
  induction entries generalizing app twin with
  | nil => exact agree List.not_mem_nil
  | cons entry entries induction =>
      apply induction
      intro absent
      apply link_agreeAt
      intro different
      apply agree
      rw [List.keys_cons, List.mem_cons]
      exact fun isKey => isKey.elim different absent

theorem foldl_link_other {entries : List ((_ : String) × String)}
    (absent : key ∉ entries.keys) :
    AgreeAt key (entries.foldl (link bridges) app) app := by
  induction entries generalizing app with
  | nil => exact ⟨rfl, rfl⟩
  | cons entry entries induction =>
      rw [List.keys_cons, List.mem_cons, not_or] at absent
      have rest : AgreeAt key (entries.foldl (link bridges) (link bridges app entry))
          (link bridges app entry) := induction absent.2
      unfold AgreeAt at rest ⊢
      rw [List.foldl_cons]
      nth_rewrite 2 [link] at rest
      nth_rewrite 3 [link] at rest
      dsimp only at rest
      rw [Dict.lookup_insert_eq, Dict.lookup_insert_eq, if_neg absent.1,
        if_neg absent.1] at rest
      exact rest

theorem foldl_link_networks (entries : List ((_ : String) × String)) :
    (entries.foldl (link bridges) app).logicalNetworks = app.logicalNetworks := by
  induction entries generalizing app with
  | nil => rfl
  | cons entry entries induction => exact induction

theorem foldl_link_flows (entries : List ((_ : String) × String)) :
    (entries.foldl (link bridges) app).flows = app.flows := by
  induction entries generalizing app with
  | nil => rfl
  | cons entry entries induction => exact induction

theorem reconnected_alike {mappings : BridgeMappings}
    (here : app.logicalNetworks.localPortsNetCache.Same
      twin.logicalNetworks.localPortsNetCache)
    (known : ∀ key, key ∉ mappings.bridges.entries.keys → AgreeAt key app twin) :
    Alike (reconnected mappings bridges app) (reconnected mappings bridges twin) := by
  have executed (start : ProviderApp) : exec (setupPhysicalBridges mappings bridges) start =
      (.ok ⟨⟩, mappings.bridges.entries.foldl (link bridges) start) :=
    exec_setupEntries bridges mappings.bridges.entries start
  rw [reconnected, reconnected, switchFeaturesHandler, exec_bind_ok (executed _),
    exec_bind_ok (executed _)]
  refine (modFlow_alike _ _ _ ⟨?_, ?_, ?_⟩).2
  · rw [foldl_link_flows, foldl_link_flows]
  · rw [foldl_link_networks, foldl_link_networks]
    exact here
  · intro key
    exact foldl_link_agreeAt mappings.bridges.entries (known key)

/-! ## Histories -/

/-- The cache holds ports that are bound, and only mapped networks have bridges. -/
structure Cached (mappings : BridgeMappings) (network : Id → Except PyError ProviderSwitch)
    (deliveries : List PortDelivery) (app : ProviderApp) : Prop where
  here : PortDelivery.Caches ProviderSwitch.toLogicalSwitch isProvider network deliveries
    .here app.logicalNetworks.localPortsNetCache
  known : ∀ key, key ∉ mappings.bridges.entries.keys → AgreeAt key app {}

theorem cached_reconnected (mappings : BridgeMappings) (bridges : Bridges)
    (network : Id → Except PyError ProviderSwitch) :
    Cached mappings network [] (reconnected mappings bridges {}) := by
  have executed : exec (setupPhysicalBridges mappings bridges) {} =
      (.ok ⟨⟩, mappings.bridges.entries.foldl (link bridges) {}) :=
    exec_setupEntries bridges mappings.bridges.entries {}
  rw [reconnected, switchFeaturesHandler, exec_bind_ok executed, modFlow, exec_modify]
  constructor
  · dsimp only
    rw [foldl_link_networks]
    exact PortsNetCache.Lists.empty
  · intro key absent
    exact foldl_link_other absent

theorem Cached.deliver {mappings : BridgeMappings} {store : Store}
    {network : Id → Except PyError ProviderSwitch} {deliveries : List PortDelivery}
    {delivery : PortDelivery}
    (cached : Cached mappings network deliveries app)
    (inTurn : PortDelivery.InTurn (portLswitch store) network (deliveries ++ [delivery])) :
    Cached mappings network (deliveries ++ [delivery])
      (exec ((ProviderApp.app store).deliver delivery) app).2 := by
  unfold QuietApp.deliver ProviderApp.app
  cases isEvent : delivery.event with
  | bind kind =>
      cases kind with
      | here =>
          rcases caches_addLocalPort store delivery.lport app with
            ⟨enters, sameOfports, sameMacs⟩
          refine ⟨cached.here.enters inTurn isEvent enters, ?_⟩
          dsimp only
          unfold AgreeAt
          rw [sameOfports, sameMacs]
          exact cached.known
      | elsewhere => exact ⟨cached.here.kept inTurn (by simp [isEvent]), cached.known⟩
  | unbind kind =>
      cases kind with
      | here =>
          rcases caches_removeLocalPort store delivery.lport app with
            ⟨departs, sameOfports, sameMacs⟩
          refine ⟨cached.here.departs inTurn departs, ?_⟩
          dsimp only
          unfold AgreeAt
          rw [sameOfports, sameMacs]
          exact cached.known
      | elsewhere => exact ⟨cached.here.kept inTurn (by simp [isEvent]), cached.known⟩
  | updated kind original =>
      exact ⟨cached.here.kept inTurn (by simp [isEvent]), cached.known⟩

theorem cached {mappings : BridgeMappings} {store : Store}
    {network : Id → Except PyError ProviderSwitch} {deliveries : List PortDelivery}
    (bridges : Bridges)
    (inTurn : PortDelivery.InTurn (portLswitch store) network deliveries) :
    Cached mappings network deliveries
      (trace (ProviderApp.app store).deliver deliveries
        (reconnected mappings bridges {})).2 := by
  induction deliveries using List.reverseRecOn with
  | nil => exact cached_reconnected mappings bridges network
  | append_singleton deliveries delivery induction =>
      rw [trace_append]
      exact (induction inTurn.before).deliver inTurn

/-- After a reconnection without local ports of provider networks the flows are those of a
new application. The bridges may have changed. -/
theorem rebuilds {mappings : BridgeMappings} {store : Store}
    {network : Id → Except PyError ProviderSwitch} {before : List PortDelivery}
    (bridges newBridges : Bridges) (after : List PortDelivery)
    (inTurn : PortDelivery.InTurn (portLswitch store) network before)
    (noPorts : ∀ portId lswitch, PortDelivery.Bound before .here portId →
      network portId = .ok lswitch → ¬isProvider lswitch) :
    Rebuilds (ProviderApp.app store) flows (reconnected mappings bridges)
      (reconnected mappings newBridges) {} before after := by
  have caches : Cached mappings network before _ := cached bridges inTurn
  have noMember := caches.here.same_empty noPorts
  have alike : Alike (reconnected mappings newBridges _) (reconnected mappings newBridges {}) :=
    reconnected_alike noMember caches.known
  exact (trace_related after (fun delivery _ => deliver_alike delivery) alike).flows

end ProviderApp

end Dragonflow
