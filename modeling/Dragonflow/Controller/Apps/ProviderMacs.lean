import Dragonflow.Controller.Apps.Provider
import Dragonflow.Foundation.FlowSet

/-! # The MACs of provider bridges

The flow that replaces the placeholder MAC is that of the bridge as long as no bridge gets
a MAC that it did not have.
-/

namespace Dragonflow

open Program

namespace ProviderApp

/-! ## Histories -/

/-- Networks come and go in the store; the networks of the bound ports and the MACs of the
bridges are what the events told. -/
structure World where
  lswitches : Store := []
  ports : Dict Id Id := ∅
  macs : String → Option MacAddress
  app : ProviderApp := {}
  errors : List PyError := []

inductive Event
  | networkStored (lswitch : ProviderSwitch)
  | networkRemoved (id : Id)
  | bridgeUpdated (switchPort : SwitchPort)
  | bridgeDeleted (switchPort : SwitchPort)
  | bindLocal (lport : LogicalPort)
  | unbindLocal (lport : LogicalPort)

/-- A provider network has what its type needs, and its physical network has a bridge. -/
def Ready (mappings : BridgeMappings) (lswitch : ProviderSwitch) : Prop :=
  isProvider lswitch →
    (lswitch.networkType = some netVlan → lswitch.segmentationId.isSome = true) ∧
      (lswitch.physicalNetwork.bind mappings.bridges.lookup).isSome = true

instance (mappings : BridgeMappings) (lswitch : ProviderSwitch) :
    Decidable (Ready mappings lswitch) :=
  inferInstanceAs (Decidable (_ → _ ∧ _))

namespace World

def WellFormed (mappings : BridgeMappings) (world : World) : Event → Prop
  | .networkStored lswitch => ∀ other ∈ world.lswitches,
      other.id ≠ lswitch.id ∧ other.uniqueKey ≠ lswitch.uniqueKey
  | .networkRemoved id => ∀ entry ∈ world.ports.entries, entry.2 ≠ id
  | .bridgeUpdated _ => True
  | .bridgeDeleted _ => True
  | .bindLocal lport => world.ports.lookup lport.id = none ∧
      ∃ lswitch ∈ world.lswitches,
        lport.lswitch = some lswitch.id ∧ Ready mappings lswitch
  | .unbindLocal lport =>
      world.ports.lookup lport.id = lport.lswitch ∧ lport.lswitch.isSome = true

instance (mappings : BridgeMappings) (world : World) (event : Event) :
    Decidable (world.WellFormed mappings event) :=
  match event with
  | .networkStored _ => inferInstanceAs (Decidable (∀ other ∈ world.lswitches, _ ∧ _))
  | .networkRemoved _ => inferInstanceAs (Decidable (∀ entry ∈ world.ports.entries, _))
  | .bridgeUpdated _ => isTrue trivial
  | .bridgeDeleted _ => isTrue trivial
  | .bindLocal _ => inferInstanceAs (Decidable (_ ∧ ∃ lswitch ∈ world.lswitches, _))
  | .unbindLocal _ => inferInstanceAs (Decidable (_ ∧ _))

def handle (mappings : BridgeMappings) (store : Store) : Event → Action Unit
  | .networkStored _ => pure ()
  | .networkRemoved _ => pure ()
  | .bridgeUpdated switchPort => ProviderApp.bridgeUpdated mappings store switchPort
  | .bridgeDeleted switchPort => ProviderApp.bridgeDeleted mappings store switchPort
  | .bindLocal lport => addLocalPort store lport
  | .unbindLocal lport => removeLocalPort store lport

def tell (world : World) : Event → World
  | .networkStored lswitch => { world with lswitches := world.lswitches ++ [lswitch] }
  | .networkRemoved id =>
      { world with lswitches := world.lswitches.filter fun lswitch => lswitch.id ≠ id }
  | .bridgeUpdated switchPort =>
      { world with macs := Function.update world.macs switchPort.name switchPort.macInUse }
  | .bridgeDeleted switchPort =>
      { world with macs := Function.update world.macs switchPort.name none }
  | .bindLocal lport =>
      match lport.lswitch with
      | none => world
      | some id => { world with ports := world.ports.insert lport.id id }
  | .unbindLocal lport => { world with ports := world.ports.erase lport.id }

def raised : Except PyError Unit → List PyError
  | .ok _ => []
  | .error error => [error]

/-- One event. What its handler raises is logged. -/
def step (mappings : BridgeMappings) (world : World) (event : Event) : Option World :=
  if world.WellFormed mappings event then
    let (result, app) := exec (handle mappings world.lswitches event) world.app
    some { world.tell event with app, errors := world.errors ++ raised result }
  else none

/-- The bridges were set up, and there are no networks yet. -/
def initial (mappings : BridgeMappings) (bridges : Bridges) : World where
  macs := bridges.macInUse
  app := (exec (setupPhysicalBridges mappings bridges) {}).2

end World

/-! ## The flow of the placeholder -/

def placeholder (app : ProviderApp) (networkId : Nat) : Option (FlowEntry Instruction) :=
  app.flows Const.egressExternalTable Const.priorityHigh (placeholderMatch networkId)

variable {mappings : BridgeMappings} {bridges : Bridges} {world : World}

/-- A port of the network is bound. -/
def HasPorts (world : World) (lswitch : ProviderSwitch) : Prop :=
  ∃ port, world.ports.lookup port = some lswitch.id

/-- The flow that sends packets to the MAC that the bridge of a network has. -/
def wanted (mappings : BridgeMappings) (bridges : Bridges) (world : World)
    (lswitch : ProviderSwitch) : Option (FlowEntry Instruction) :=
  (lswitch.physicalNetwork.bind mappings.bridges.lookup).bind fun bridge =>
    (world.macs bridge).map fun mac =>
      (placeholderFlow lswitch.uniqueKey (some mac) (bridges.ofport bridge)).flow.entry

/-- Networks with local ports have the flow for the current MAC of their bridge, there is
no other such flow, and no event raised an error. -/
structure Current (mappings : BridgeMappings) (bridges : Bridges) (world : World) :
    Prop where
  errors : world.errors = []
  used : ∀ lswitch ∈ world.lswitches, isProvider lswitch → HasPorts world lswitch →
    world.app.placeholder lswitch.uniqueKey = wanted mappings bridges world lswitch
  unused : ∀ networkId, (∀ lswitch ∈ world.lswitches, isProvider lswitch →
      lswitch.uniqueKey = networkId → ¬HasPorts world lswitch) →
    world.app.placeholder networkId = none

/-- The networks on a physical network. -/
def networksOn (world : World) (physicalNetwork : String) : List ProviderSwitch :=
  world.lswitches.filter fun lswitch => lswitch.physicalNetwork = some physicalNetwork

/-- The bridge is none of the mapped ones, or its MAC does not change, or it loses its MAC
and its physical network has exactly one network. -/
def MacHarmless (mappings : BridgeMappings) (world : World) (bridge : String)
    (mac : Option MacAddress) : Prop :=
  (mappings.reverse bridge).elim True fun physicalNetwork => world.macs bridge = mac ∨
    (mac = none ∧ (networksOn world physicalNetwork).length = 1)

def Harmless (mappings : BridgeMappings) (world : World) : Event → Prop
  | .bridgeUpdated switchPort =>
      MacHarmless mappings world switchPort.name switchPort.macInUse
  | .bridgeDeleted switchPort => MacHarmless mappings world switchPort.name none
  | _ => True

instance MacHarmless.decidable (mappings : BridgeMappings) (world : World)
    (bridge : String) (mac : Option MacAddress) :
    Decidable (MacHarmless mappings world bridge mac) :=
  have decided : Decidable ((mappings.reverse bridge).elim True fun physicalNetwork =>
      world.macs bridge = mac ∨
        (mac = none ∧ (networksOn world physicalNetwork).length = 1)) :=
    match mappings.reverse bridge with
    | none => isTrue trivial
    | some _ => inferInstanceAs (Decidable (_ ∨ _ ∧ _))
  decided

instance (mappings : BridgeMappings) (world : World) (event : Event) :
    Decidable (Harmless mappings world event) :=
  match event with
  | .networkStored _ => isTrue trivial
  | .networkRemoved _ => isTrue trivial
  | .bridgeUpdated _ => inferInstanceAs (Decidable (MacHarmless _ _ _ _))
  | .bridgeDeleted _ => inferInstanceAs (Decidable (MacHarmless _ _ _ _))
  | .bindLocal _ => isTrue trivial
  | .unbindLocal _ => isTrue trivial

/-! ## What the handlers write -/

def sent (app : ProviderApp) (messages : List OFPFlowMod) : ProviderApp :=
  { app with flows := app.flows.applyAll messages }

variable {app after : ProviderApp} {lswitch : ProviderSwitch} {networkId : Nat}

theorem placeholder_sent (app : ProviderApp) (message : OFPFlowMod) :
    (app.sent [message]).placeholder networkId =
      app.flows.apply message Const.egressExternalTable Const.priorityHigh
        (placeholderMatch networkId) := rfl

theorem placeholder_elsewhere (app : ProviderApp) {message : OFPFlowMod}
    (elsewhere : Const.egressExternalTable ≠ message.table) :
    (app.sent [message]).placeholder networkId = app.placeholder networkId :=
  FlowTable.apply_other_table elsewhere

theorem placeholderMatch_inj {first second : Nat} :
    placeholderMatch first = placeholderMatch second ↔ first = second := by
  constructor
  · intro same
    exact FieldMatch.exact.inj (Option.some.inj (congrArg OFPMatch.metadata same))
  · exact congrArg placeholderMatch

theorem placeholder_add (app : ProviderApp) (key : Nat) (mac : Option MacAddress)
    (portNum : Nat) :
    (app.sent [placeholderFlow key mac portNum]).placeholder networkId =
      if networkId = key then some (placeholderFlow key mac portNum).flow.entry
      else app.placeholder networkId := by
  rw [placeholder_sent, FlowTable.apply_add rfl]
  by_cases same : networkId = key
  · rw [if_pos same, if_pos ⟨rfl, rfl, congrArg placeholderMatch same⟩]
    rfl
  · rw [if_neg same, if_neg fun identified => same (placeholderMatch_inj.mp identified.2.2)]
    rfl

/-- The delete of the placeholder, or of all that leaves a network. -/
theorem placeholder_delete (app : ProviderApp) (key : Nat) {message : OFPFlowMod}
    (isDelete : message.command = .delete) (anyCookie : message.cookieMask = 0)
    (inTable : message.table = Const.egressExternalTable)
    (covers : Pattern.covers message.pattern (placeholderMatch networkId) = true ↔
      key = networkId) :
    (app.sent [message]).placeholder networkId =
      if networkId = key then none else app.placeholder networkId := by
  have cleared : FlowTable.clears message
      (Const.egressExternalTable, Const.priorityHigh, placeholderMatch networkId) ↔
        networkId = key := by
    unfold FlowTable.clears
    rw [covers, inTable, isDelete]
    simp [eq_comm]
  apply (FlowTable.apply_isDelete ⟨Or.inl isDelete, anyCookie⟩ (Const.egressExternalTable,
    Const.priorityHigh, placeholderMatch networkId)).trans
  by_cases same : networkId = key
  · rw [if_pos same, if_pos (cleared.mpr same)]
  · rw [if_neg same, if_neg fun isCleared => same (cleared.mp isCleared)]
    rfl

theorem covers_placeholder (key : Nat) :
    Pattern.covers (placeholderMatch key) (placeholderMatch networkId) = true ↔
      key = networkId := by
  simp [Pattern.covers, placeholderMatch, FieldMatch.coversField, FieldMatch.covers]

theorem covers_metadata (key : Nat) :
    Pattern.covers ({ metadata := some (.exact key) } : OFPMatch)
      (placeholderMatch networkId) = true ↔ key = networkId := by
  simp [Pattern.covers, placeholderMatch, FieldMatch.coversField, FieldMatch.covers]

/-- The dictionaries of the bridges have the physical network of a switch. -/
structure Located (app : ProviderApp) (lswitch : ProviderSwitch) (portNum : Nat)
    (mac : Option MacAddress) : Prop where
  ofport : byPhysicalNetwork app.intOfports lswitch = .ok portNum
  bridgeMac : byPhysicalNetwork app.bridgeMacs lswitch = .ok mac

/-- Only flows change, and of those for placeholders only the one of a network. -/
structure Sets (app : ProviderApp) (key : Nat) (entry : Option (FlowEntry Instruction))
    (after : ProviderApp) : Prop where
  networks : after.logicalNetworks = app.logicalNetworks
  ofports : after.intOfports = app.intOfports
  bridgeMacs : after.bridgeMacs = app.bridgeMacs
  flows : ∀ networkId, after.placeholder networkId =
    if networkId = key then entry else app.placeholder networkId

theorem exec_modFlow (message : OFPFlowMod) (app : ProviderApp) :
    exec (modFlow message) app = (.ok (), app.sent [message]) := rfl

theorem external_ne_dispatch :
    Const.egressExternalTable ≠ Const.ingressClassificationDispatchTable := by decide

theorem external_ne_l2Lookup : Const.egressExternalTable ≠ Const.l2LookupTable := by decide

theorem external_ne_egress : Const.egressExternalTable ≠ Const.egressTable := by decide

variable {portNum : Nat} {mac : Option MacAddress}

theorem Located.sent (located : Located app lswitch portNum mac)
    (messages : List OFPFlowMod) : Located (app.sent messages) lswitch portNum mac :=
  ⟨located.ofport, located.bridgeMac⟩

/-- The switch has what its type needs. -/
def Tagged (lswitch : ProviderSwitch) : Prop :=
  lswitch.networkType = some netVlan → lswitch.segmentationId.isSome = true

theorem exec_classificationMatch (located : Located app lswitch portNum mac)
    (tagged : Tagged lswitch) :
    ∃ pattern, exec (classificationMatch lswitch) app = (.ok pattern, app) := by
  have vid : ∃ vid, vlanVid lswitch = .ok vid := by
    unfold vlanVid
    by_cases isVlan : lswitch.networkType = some netVlan
    · rcases Option.isSome_iff_exists.mp (tagged isVlan) with ⟨segmentationId, isId⟩
      rw [if_pos isVlan, isId]
      exact ⟨_, rfl⟩
    · rw [if_neg isVlan]
      exact ⟨_, rfl⟩
  rcases vid with ⟨vid, isVid⟩
  unfold classificationMatch
  rw [isVid, exec_bind_ok (exec_ofExcept_ok _ _), exec_bind_ok (exec_get _),
    located.ofport, exec_bind_ok (exec_ofExcept_ok _ _)]
  exact ⟨_, rfl⟩

theorem exec_networkClassificationFlow (located : Located app lswitch portNum mac)
    (tagged : Tagged lswitch) :
    ∃ message, exec (networkClassificationFlow lswitch) app =
        (.ok (), app.sent [message]) ∧
      message.table = Const.ingressClassificationDispatchTable := by
  rcases exec_classificationMatch located tagged with ⟨pattern, matched⟩
  unfold networkClassificationFlow
  rw [exec_bind_ok matched]
  exact ⟨_, exec_modFlow _ _, rfl⟩

theorem exec_removeNetworkClassificationFlow (located : Located app lswitch portNum mac)
    (tagged : Tagged lswitch) :
    ∃ message, exec (removeNetworkClassificationFlow lswitch) app =
        (.ok (), app.sent [message]) ∧
      message.table = Const.ingressClassificationDispatchTable := by
  rcases exec_classificationMatch located tagged with ⟨pattern, matched⟩
  unfold removeNetworkClassificationFlow
  rw [exec_bind_ok matched]
  exact ⟨_, exec_modFlow _ _, rfl⟩

theorem exec_egressFlow (app : ProviderApp) (tagged : Tagged lswitch) :
    ∃ first second, exec (egressFlow lswitch) app =
        (.ok (), (app.sent [first]).sent [second]) ∧
      first.table = Const.egressTable ∧ second.table = Const.egressTable := by
  have actions : ∃ actions, egressActions lswitch = .ok actions := by
    unfold egressActions
    by_cases isVlan : lswitch.networkType = some netVlan
    · rcases Option.isSome_iff_exists.mp (tagged isVlan) with ⟨segmentationId, isId⟩
      rw [if_pos isVlan, isId]
      exact ⟨_, rfl⟩
    · rw [if_neg isVlan]
      exact ⟨_, rfl⟩
  rcases actions with ⟨actions, areActions⟩
  unfold egressFlow
  rw [areActions, exec_bind_ok (exec_ofExcept_ok _ _), exec_bind_ok (exec_modFlow _ _)]
  exact ⟨_, _, exec_modFlow _ _, rfl, rfl⟩

theorem exec_egressPlaceholderFlow {mac : MacAddress}
    (located : Located app lswitch portNum (some mac)) :
    exec (egressPlaceholderFlow lswitch) app =
      (.ok (), app.sent [placeholderFlow lswitch.uniqueKey (some mac) portNum]) := by
  unfold egressPlaceholderFlow
  rw [exec_bind_ok (exec_get _), located.ofport, exec_bind_ok (exec_ofExcept_ok _ _),
    located.bridgeMac, exec_bind_ok (exec_ofExcept_ok _ _)]
  rfl

theorem bridgeMac_lookup (located : Located app lswitch portNum mac) :
    lswitch.physicalNetwork.bind app.bridgeMacs.lookup = some mac := by
  have found := located.bridgeMac
  unfold byPhysicalNetwork at found
  split at found
  · cases found
  · next isFound =>
      cases found
      exact isFound

theorem exec_egressExternalFlow (located : Located app lswitch portNum mac)
    (absent : app.placeholder lswitch.uniqueKey = none) :
    ∃ after, exec (egressExternalFlow lswitch) app = (.ok (), after) ∧
      Sets app lswitch.uniqueKey
        (mac.map fun mac =>
          (placeholderFlow lswitch.uniqueKey (some mac) portNum).flow.entry) after := by
  unfold egressExternalFlow
  rw [exec_bind_ok (exec_get _), located.ofport, exec_bind_ok (exec_ofExcept_ok _ _),
    exec_bind_ok (exec_modFlow _ _), bridgeMac_lookup located]
  have external : ∀ networkId,
      (app.sent [externalFlow lswitch.uniqueKey portNum]).placeholder networkId =
        app.placeholder networkId := by
    intro networkId
    rw [placeholder_sent, FlowTable.apply_add rfl, if_neg]
    · rfl
    · intro identified
      exact absurd identified.2.1 (show Const.priorityHigh ≠ Const.priorityMedium by decide)
  cases mac with
  | none =>
      refine ⟨_, rfl, rfl, rfl, rfl, fun networkId => ?_⟩
      rw [external]
      split
      · next same => rw [same, absent, Option.map_none]
      · rfl
  | some mac =>
      refine ⟨_, exec_egressPlaceholderFlow (located.sent _), rfl, rfl, rfl,
        fun networkId => ?_⟩
      rw [placeholder_add, external, Option.map_some]

/-- Only flows of other tables were written first. -/
theorem Sets.after_sent {entry : Option (FlowEntry Instruction)} {message : OFPFlowMod}
    (elsewhere : Const.egressExternalTable ≠ message.table)
    (sets : Sets (app.sent [message]) networkId entry after) :
    Sets app networkId entry after where
  networks := sets.networks
  ofports := sets.ofports
  bridgeMacs := sets.bridgeMacs
  flows key := by
    rw [sets.flows, placeholder_elsewhere app elsewhere]

theorem exec_newNetworkFlow (located : Located app lswitch portNum mac)
    (tagged : Tagged lswitch) (absent : app.placeholder lswitch.uniqueKey = none) :
    ∃ after, exec (newNetworkFlow lswitch) app = (.ok (), after) ∧
      Sets app lswitch.uniqueKey
        (mac.map fun mac =>
          (placeholderFlow lswitch.uniqueKey (some mac) portNum).flow.entry) after := by
  rcases exec_networkClassificationFlow located tagged with
    ⟨classification, first, inDispatch⟩
  have second := exec_modFlow (l2LookupFlow lswitch.uniqueKey) (app.sent [classification])
  rcases exec_egressFlow ((app.sent [classification]).sent [l2LookupFlow lswitch.uniqueKey])
    tagged with ⟨egress, drop, third, inEgress, alsoInEgress⟩
  have notDispatch : Const.egressExternalTable ≠ classification.table :=
    inDispatch ▸ external_ne_dispatch
  have notLookup : Const.egressExternalTable ≠ (l2LookupFlow lswitch.uniqueKey).table :=
    external_ne_l2Lookup
  have notEgress : Const.egressExternalTable ≠ egress.table := inEgress ▸ external_ne_egress
  have notDrop : Const.egressExternalTable ≠ drop.table := alsoInEgress ▸ external_ne_egress
  have located' := (((located.sent [classification]).sent
    [l2LookupFlow lswitch.uniqueKey]).sent [egress]).sent [drop]
  rcases exec_egressExternalFlow located' (by
    rw [placeholder_elsewhere _ notDrop, placeholder_elsewhere _ notEgress,
      placeholder_elsewhere _ notLookup, placeholder_elsewhere _ notDispatch, absent]) with
    ⟨after, fourth, sets⟩
  refine ⟨after, ?_, ?_⟩
  · unfold newNetworkFlow
    rw [exec_bind_ok first, exec_bind_ok second, exec_bind_ok third, fourth]
  · exact (((sets.after_sent notDrop).after_sent notEgress).after_sent notLookup).after_sent
      notDispatch

theorem exec_removeNetworkFlow (located : Located app lswitch portNum mac)
    (tagged : Tagged lswitch) :
    ∃ after, exec (removeNetworkFlow lswitch) app = (.ok (), after) ∧
      Sets app lswitch.uniqueKey none after := by
  rcases exec_removeNetworkClassificationFlow located tagged with
    ⟨classification, first, inDispatch⟩
  have notDispatch : Const.egressExternalTable ≠ classification.table :=
    inDispatch ▸ external_ne_dispatch
  have notLookup :
      Const.egressExternalTable ≠ (removeL2LookupFlow lswitch.uniqueKey).table :=
    external_ne_l2Lookup
  have notEgress : Const.egressExternalTable ≠ (removeEgressFlow lswitch.uniqueKey).table :=
    external_ne_egress
  unfold removeNetworkFlow
  rw [exec_bind_ok first, exec_bind_ok (exec_modFlow _ _), exec_bind_ok (exec_modFlow _ _)]
  refine ⟨_, exec_modFlow _ _, ?_⟩
  apply Sets.after_sent notDispatch
  apply Sets.after_sent notLookup
  apply Sets.after_sent notEgress
  refine ⟨rfl, rfl, rfl, fun networkId => ?_⟩
  exact placeholder_delete _ lswitch.uniqueKey rfl rfl rfl (covers_metadata _)

/-! ## The invariant -/

/-- What the application knows of the bridges and the ports is what the events told. -/
structure Sound (mappings : BridgeMappings) (bridges : Bridges) (world : World) : Prop
    extends Current mappings bridges world where
  ofports : ∀ network bridge, mappings.bridges.lookup network = some bridge →
    world.app.intOfports.lookup network = some (bridges.ofport bridge)
  macs : ∀ network bridge, mappings.bridges.lookup network = some bridge →
    world.app.bridgeMacs.lookup network = some (world.macs bridge)
  sameId : ∀ lswitch ∈ world.lswitches, ∀ other ∈ world.lswitches,
    lswitch.id = other.id → lswitch = other
  sameKey : ∀ lswitch ∈ world.lswitches, ∀ other ∈ world.lswitches,
    lswitch.uniqueKey = other.uniqueKey → lswitch = other
  bound : ∀ port network, world.ports.lookup port = some network →
    ∃ lswitch ∈ world.lswitches, lswitch.id = network ∧ Ready mappings lswitch
  nodup : ∀ networkId networkType,
    (world.app.logicalNetworks.localPortsNetCache.portList networkId networkType).Nodup
  listed : ∀ networkId networkType port,
    port ∈ world.app.logicalNetworks.localPortsNetCache.portList networkId networkType ↔
      ∃ lswitch ∈ world.lswitches, isProvider lswitch ∧ lswitch.uniqueKey = networkId ∧
        lswitch.networkType = networkType ∧ world.ports.lookup port = some lswitch.id

/-- A ready provider network has a bridge, which is what its flow is about. -/
theorem Sound.located (sound : Sound mappings bridges world) (provider : isProvider lswitch)
    (ready : Ready mappings lswitch) :
    Tagged lswitch ∧ ∃ bridge,
      Located world.app lswitch (bridges.ofport bridge) (world.macs bridge) ∧
        wanted mappings bridges world lswitch = (world.macs bridge).map fun mac =>
          (placeholderFlow lswitch.uniqueKey (some mac) (bridges.ofport bridge)).flow.entry := by
  rcases ready provider with ⟨tagged, hasBridge⟩
  refine ⟨tagged, ?_⟩
  rcases Option.isSome_iff_exists.mp hasBridge with ⟨bridge, isBridge⟩
  refine ⟨bridge, ?_, ?_⟩
  · rcases Option.bind_eq_some_iff.mp isBridge with ⟨network, isNetwork, mapped⟩
    constructor
    · unfold byPhysicalNetwork
      rw [isNetwork, Option.bind_some, sound.ofports network bridge mapped]
    · unfold byPhysicalNetwork
      rw [isNetwork, Option.bind_some, sound.macs network bridge mapped]
  · unfold wanted
    rw [isBridge, Option.bind_some]

/-- The list of a network is that of its bound ports. -/
theorem Sound.mem_list (sound : Sound mappings bridges world)
    (member : lswitch ∈ world.lswitches) (provider : isProvider lswitch) (port : Id) :
    port ∈ world.app.logicalNetworks.localPortsNetCache.portList lswitch.uniqueKey
        lswitch.networkType ↔ world.ports.lookup port = some lswitch.id := by
  rw [sound.listed]
  constructor
  · intro found
    rcases found with ⟨other, isOther, _, sameKey, _, onOther⟩
    rw [← sound.sameKey other isOther lswitch member sameKey]
    exact onOther
  · intro onSwitch
    exact ⟨lswitch, member, provider, rfl, rfl, onSwitch⟩

theorem oneType (provider : isProvider lswitch) :
    ¬PortsNetCache.allTypes lswitch.networkType := by
  unfold isProvider networkTypes netVlan netFlat at provider
  simp only [List.map_cons, List.map_nil, List.mem_cons, List.not_mem_nil, or_false]
    at provider
  rcases provider with isVlan | isFlat
  · rw [isVlan]
    decide
  · rw [isFlat]
    decide

theorem count_eq_length (networks : LogicalNetworks) (provider : isProvider lswitch) :
    networks.getLocalPortCount lswitch.uniqueKey lswitch.networkType =
      (networks.localPortsNetCache.portList lswitch.uniqueKey lswitch.networkType).length :=
  PortsNetCache.getPortCount_eq_length _ _ (oneType provider)

theorem Sound.portLswitch (sound : Sound mappings bridges world)
    (member : lswitch ∈ world.lswitches) {lport : LogicalPort}
    (onSwitch : lport.lswitch = some lswitch.id) :
    portLswitch world.lswitches lport = .ok lswitch := by
  unfold ProviderApp.portLswitch
  rw [onSwitch]
  dsimp only
  cases isFound : world.lswitches.find? fun other => other.id = lswitch.id with
  | none =>
      rw [List.find?_eq_none] at isFound
      exact absurd (decide_eq_true rfl) (isFound lswitch member)
  | some other =>
      have sameId : other.id = lswitch.id := by simpa using List.find?_some isFound
      rw [sound.sameId other (List.mem_of_find?_eq_some isFound) lswitch member sameId]

/-- No flow of a network without ports. -/
theorem Sound.absent (sound : Sound mappings bridges world)
    (member : lswitch ∈ world.lswitches) (noPorts : ¬HasPorts world lswitch) :
    world.app.placeholder lswitch.uniqueKey = none := by
  apply sound.unused
  intro other isOther _ sameKey
  rw [sound.sameKey other isOther lswitch member sameKey]
  exact noPorts

/-- The ports of one network change, and with them its flow. -/
theorem Sound.change (sound : Sound mappings bridges world)
    (member : lswitch ∈ world.lswitches) {ports : Dict Id Id}
    {entry : Option (FlowEntry Instruction)}
    (ofports : after.intOfports = world.app.intOfports)
    (bridgeMacs : after.bridgeMacs = world.app.bridgeMacs)
    (flows : ∀ networkId, after.placeholder networkId =
      if networkId = lswitch.uniqueKey then entry else world.app.placeholder networkId)
    (others : ∀ port network, network ≠ lswitch.id →
      (ports.lookup port = some network ↔ world.ports.lookup port = some network))
    (ready : (∃ port, ports.lookup port = some lswitch.id) → Ready mappings lswitch)
    (isUsed : isProvider lswitch → (∃ port, ports.lookup port = some lswitch.id) →
      entry = wanted mappings bridges world lswitch)
    (isUnused : (isProvider lswitch → ¬∃ port, ports.lookup port = some lswitch.id) →
      entry = none)
    (nodup : ∀ networkId networkType,
      (after.logicalNetworks.localPortsNetCache.portList networkId networkType).Nodup)
    (listed : ∀ networkId networkType port,
      port ∈ after.logicalNetworks.localPortsNetCache.portList networkId networkType ↔
        ∃ lswitch ∈ world.lswitches, isProvider lswitch ∧ lswitch.uniqueKey = networkId ∧
          lswitch.networkType = networkType ∧ ports.lookup port = some lswitch.id) :
    Sound mappings bridges { world with ports, app := after } where
  errors := sound.errors
  used other isOther provider hasPorts := by
    dsimp only
    rw [flows]
    by_cases sameKey : other.uniqueKey = lswitch.uniqueKey
    · have same := sound.sameKey other isOther lswitch member sameKey
      subst same
      rw [if_pos rfl]
      exact isUsed provider hasPorts
    · rw [if_neg sameKey]
      rcases hasPorts with ⟨port, onOther⟩
      apply sound.used other isOther provider
      refine ⟨port, (others port other.id ?_).mp onOther⟩
      intro sameId
      apply sameKey
      rw [sound.sameId other isOther lswitch member sameId]
  unused networkId noPorts := by
    dsimp only
    rw [flows]
    by_cases isKey : networkId = lswitch.uniqueKey
    · rw [if_pos isKey]
      apply isUnused
      intro provider
      exact noPorts lswitch member provider isKey.symm
    · rw [if_neg isKey]
      apply sound.unused
      intro other isOther provider sameKey hasPorts
      rcases hasPorts with ⟨port, onOther⟩
      apply noPorts other isOther provider sameKey
      refine ⟨port, (others port other.id ?_).mpr onOther⟩
      intro sameId
      apply isKey
      rw [← sameKey, sound.sameId other isOther lswitch member sameId]
  ofports := by
    dsimp only
    rw [ofports]
    exact sound.ofports
  macs := by
    dsimp only
    rw [bridgeMacs]
    exact sound.macs
  sameId := sound.sameId
  sameKey := sound.sameKey
  bound port network onNetwork := by
    by_cases same : network = lswitch.id
    · subst same
      exact ⟨lswitch, member, rfl, ready ⟨port, onNetwork⟩⟩
    · exact sound.bound port network ((others port network same).mp onNetwork)
  nodup := nodup
  listed := listed

/-- A handler that leaves the flow of a network as it is. -/
theorem Sets.refl (app : ProviderApp) (key : Nat) :
    Sets app key (app.placeholder key) app where
  networks := rfl
  ofports := rfl
  bridgeMacs := rfl
  flows networkId := by
    split
    · next same => rw [same]
    · rfl

variable {lport : LogicalPort}

/-- Where the list of a network is empty, no port of it is bound. -/
theorem Sound.length_eq_zero_iff (sound : Sound mappings bridges world)
    (member : lswitch ∈ world.lswitches) (provider : isProvider lswitch) :
    (world.app.logicalNetworks.localPortsNetCache.portList lswitch.uniqueKey
        lswitch.networkType).length = 0 ↔ ¬HasPorts world lswitch := by
  rw [List.length_eq_zero_iff, List.eq_nil_iff_forall_not_mem]
  simp only [sound.mem_list member provider]
  exact not_exists.symm

def withNetworks (app : ProviderApp) (networks : LogicalNetworks) : ProviderApp :=
  { app with logicalNetworks := networks }

theorem exec_onNetworks (change : LogicalNetworks → LogicalNetworks) (app : ProviderApp) :
    exec (onNetworks change) app = (.ok (), app.withNetworks (change app.logicalNetworks)) :=
  rfl

/-- Who is listed after a port was bound. -/
theorem Sound.listed_insert (sound : Sound mappings bridges world)
    (member : lswitch ∈ world.lswitches) {bound : Id}
    (free : world.ports.lookup bound = none) (networkId : Nat) (networkType : Option String)
    (port : Id) :
    (∃ other ∈ world.lswitches, isProvider other ∧ other.uniqueKey = networkId ∧
        other.networkType = networkType ∧
          (world.ports.insert bound lswitch.id).lookup port = some other.id) ↔
      (port = bound ∧ isProvider lswitch ∧ lswitch.uniqueKey = networkId ∧
        lswitch.networkType = networkType) ∨
      port ∈ world.app.logicalNetworks.localPortsNetCache.portList networkId networkType := by
  rw [sound.listed]
  by_cases isBound : port = bound
  · subst isBound
    simp only [AList.lookup_insert, free, Option.some.injEq, reduceCtorEq, and_false,
      exists_false, or_false, true_and]
    constructor
    · intro found
      rcases found with ⟨other, isOther, provider, sameKey, sameType, sameId⟩
      rw [sound.sameId lswitch member other isOther sameId]
      exact ⟨provider, sameKey, sameType⟩
    · intro isLswitch
      exact ⟨lswitch, member, isLswitch.1, isLswitch.2.1, isLswitch.2.2, rfl⟩
  · simp only [AList.lookup_insert_ne isBound, isBound, false_and, false_or]

/-- Who is listed after a port was unbound. -/
theorem Sound.listed_erase (sound : Sound mappings bridges world) (unbound : Id)
    (networkId : Nat) (networkType : Option String) (port : Id) :
    (∃ other ∈ world.lswitches, isProvider other ∧ other.uniqueKey = networkId ∧
        other.networkType = networkType ∧
          (world.ports.erase unbound).lookup port = some other.id) ↔
      port ≠ unbound ∧
        port ∈ world.app.logicalNetworks.localPortsNetCache.portList networkId networkType := by
  rw [sound.listed]
  by_cases isUnbound : port = unbound
  · subst isUnbound
    simp [AList.lookup_erase]
  · simp only [AList.lookup_erase_ne isUnbound, ne_eq, isUnbound, not_false_eq_true, true_and]

/-- Binding a port starts the flow of its network, if it is the first one. -/
theorem Sound.exec_addLocalPort (sound : Sound mappings bridges world)
    (member : lswitch ∈ world.lswitches) (onSwitch : lport.lswitch = some lswitch.id)
    (ready : Ready mappings lswitch) (free : world.ports.lookup lport.id = none) :
    ∃ after, exec (addLocalPort world.lswitches lport) world.app = (.ok (), after) ∧
      Sound mappings bridges
        { world with ports := world.ports.insert lport.id lswitch.id, app := after } := by
  have others : ∀ port network, network ≠ lswitch.id →
      ((world.ports.insert lport.id lswitch.id).lookup port = some network ↔
        world.ports.lookup port = some network) := by
    intro port network different
    rw [Dict.lookup_insert_eq]
    by_cases isPort : port = lport.id
    · rw [if_pos isPort, isPort, free]
      simp [different.symm]
    · rw [if_neg isPort]
  have hasPorts : ∃ port, (world.ports.insert lport.id lswitch.id).lookup port =
      some lswitch.id := ⟨lport.id, AList.lookup_insert _⟩
  unfold addLocalPort
  rw [sound.portLswitch member onSwitch, exec_bind_ok (exec_ofExcept_ok _ _)]
  by_cases provider : isProvider lswitch
  · rw [if_pos provider]
    rcases sound.located provider ready with ⟨tagged, bridge, located, isWanted⟩
    have started : ∃ middle, exec (whenEmpty lswitch (newNetworkFlow lswitch)) world.app =
        (.ok (), middle) ∧
          Sets world.app lswitch.uniqueKey (wanted mappings bridges world lswitch) middle := by
      unfold whenEmpty
      rw [exec_bind_ok (exec_get _), count_eq_length _ provider]
      by_cases isFirst : (world.app.logicalNetworks.localPortsNetCache.portList
          lswitch.uniqueKey lswitch.networkType).length = 0
      · rw [if_pos isFirst, isWanted]
        exact exec_newNetworkFlow located tagged (sound.absent member
          ((sound.length_eq_zero_iff member provider).mp isFirst))
      · rw [if_neg isFirst]
        have used := not_not.mp
          (mt (sound.length_eq_zero_iff member provider).mpr isFirst)
        rw [← sound.used lswitch member provider used]
        exact ⟨world.app, rfl, Sets.refl _ _⟩
    rcases started with ⟨middle, first, sets⟩
    rw [exec_bind_ok first]
    refine ⟨_, exec_onNetworks _ _, ?_⟩
    have ofports : (middle.withNetworks (middle.logicalNetworks.addLocalPort lport.id
        lswitch.uniqueKey lswitch.networkType)).intOfports = world.app.intOfports :=
      sets.ofports
    apply sound.change member ofports sets.bridgeMacs sets.flows others
      (fun _ => ready) (fun _ _ => rfl) (fun unused => absurd hasPorts (unused provider))
    · intro networkId networkType
      dsimp only [LogicalNetworks.addLocalPort, withNetworks]
      rw [PortsNetCache.portList_addPort, sets.networks]
      split
      · have notListed : lport.id ∉ world.app.logicalNetworks.localPortsNetCache.portList
            lswitch.uniqueKey lswitch.networkType := by
          rw [sound.mem_list member provider, free]
          exact fun isSome => by cases isSome
        rw [← List.concat_eq_append]
        exact (sound.nodup _ _).concat notListed
      · exact sound.nodup _ _
    · intro networkId networkType port
      rw [sound.listed_insert member free]
      dsimp only [LogicalNetworks.addLocalPort, withNetworks]
      rw [PortsNetCache.portList_addPort, sets.networks]
      split
      · next both =>
          rw [List.mem_append, List.mem_singleton, or_comm, both.1, both.2]
          simp only [provider, and_true]
      · next different =>
          have notThis : ¬(lswitch.uniqueKey = networkId ∧
              lswitch.networkType = networkType) := fun both =>
            different ⟨both.1.symm, both.2.symm⟩
          simp only [notThis, and_false, false_or]
  · rw [if_neg provider]
    refine ⟨world.app, rfl, ?_⟩
    apply sound.change member rfl rfl (Sets.refl world.app lswitch.uniqueKey).flows others
      (fun _ => ready) (fun isProvider => absurd isProvider provider)
    · intro _
      apply sound.unused
      intro other isOther otherProvider sameKey
      rw [sound.sameKey other isOther lswitch member sameKey] at otherProvider
      exact absurd otherProvider provider
    · exact sound.nodup
    · intro networkId networkType port
      rw [sound.listed_insert member free]
      simp only [provider, false_and, and_false, false_or]

/-- Unbinding a port ends the flow of its network, if it is the last one. -/
theorem Sound.exec_removeLocalPort (sound : Sound mappings bridges world)
    (member : lswitch ∈ world.lswitches) (onSwitch : lport.lswitch = some lswitch.id)
    (ready : Ready mappings lswitch)
    (isBound : world.ports.lookup lport.id = some lswitch.id) :
    ∃ after, exec (removeLocalPort world.lswitches lport) world.app = (.ok (), after) ∧
      Sound mappings bridges
        { world with ports := world.ports.erase lport.id, app := after } := by
  have others : ∀ port network, network ≠ lswitch.id →
      ((world.ports.erase lport.id).lookup port = some network ↔
        world.ports.lookup port = some network) := by
    intro port network different
    rw [Dict.lookup_erase_eq]
    by_cases isPort : port = lport.id
    · rw [if_pos isPort, isPort, isBound]
      simp [different.symm]
    · rw [if_neg isPort]
  unfold removeLocalPort
  rw [sound.portLswitch member onSwitch, exec_bind_ok (exec_ofExcept_ok _ _)]
  by_cases provider : isProvider lswitch
  · rw [if_pos provider, exec_bind_ok (exec_onNetworks _ _)]
    rcases sound.located provider ready with ⟨tagged, bridge, located, isWanted⟩
    generalize isMiddle : world.app.withNetworks (world.app.logicalNetworks.removeLocalPort
      lport.id lswitch.uniqueKey lswitch.networkType) = middle
    have list : ∀ networkId networkType,
        middle.logicalNetworks.localPortsNetCache.portList networkId networkType =
          if networkId = lswitch.uniqueKey ∧ networkType = lswitch.networkType then
            (world.app.logicalNetworks.localPortsNetCache.portList lswitch.uniqueKey
              lswitch.networkType).erase lport.id
          else world.app.logicalNetworks.localPortsNetCache.portList networkId
            networkType := by
      intro networkId networkType
      rw [← isMiddle]
      exact PortsNetCache.portList_removePort _ _ _ _ _ _
    have nodup : ∀ networkId networkType,
        (middle.logicalNetworks.localPortsNetCache.portList networkId networkType).Nodup := by
      intro networkId networkType
      rw [list]
      split
      · exact (sound.nodup _ _).erase _
      · exact sound.nodup _ _
    have listed : ∀ networkId networkType port,
        port ∈ middle.logicalNetworks.localPortsNetCache.portList networkId networkType ↔
          port ≠ lport.id ∧ port ∈ world.app.logicalNetworks.localPortsNetCache.portList
            networkId networkType := by
      intro networkId networkType port
      rw [list]
      split
      · next both =>
          rw [both.1, both.2]
          exact (sound.nodup _ _).mem_erase_iff
      · next different =>
          symm
          apply and_iff_right_of_imp
          intro isListed same
          subst same
          rcases (sound.listed _ _ _).mp isListed with
            ⟨other, isOther, _, sameKey, sameType, onOther⟩
          rw [isBound] at onOther
          have same := sound.sameId lswitch member other isOther (Option.some.inj onOther)
          subst same
          exact different ⟨sameKey.symm, sameType.symm⟩
    have emptyIff : (middle.logicalNetworks.localPortsNetCache.portList lswitch.uniqueKey
        lswitch.networkType).length = 0 ↔
          ¬∃ port, (world.ports.erase lport.id).lookup port = some lswitch.id := by
      rw [List.length_eq_zero_iff, List.eq_nil_iff_forall_not_mem, not_exists]
      apply forall_congr'
      intro port
      rw [listed, sound.mem_list member provider, Dict.lookup_erase_eq]
      by_cases same : port = lport.id
      · simp [same]
      · simp [same]
    have samePlaceholder : ∀ networkId,
        middle.placeholder networkId = world.app.placeholder networkId := by
      intro networkId
      rw [← isMiddle]
      rfl
    have ended : ∃ after entry, exec (whenEmpty lswitch (removeNetworkFlow lswitch)) middle =
        (.ok (), after) ∧ Sets middle lswitch.uniqueKey entry after ∧
          ((∃ port, (world.ports.erase lport.id).lookup port = some lswitch.id) →
            entry = wanted mappings bridges world lswitch) ∧
          ((¬∃ port, (world.ports.erase lport.id).lookup port = some lswitch.id) →
            entry = none) := by
      unfold whenEmpty
      rw [exec_bind_ok (exec_get _), count_eq_length _ provider]
      by_cases isLast : (middle.logicalNetworks.localPortsNetCache.portList
          lswitch.uniqueKey lswitch.networkType).length = 0
      · rw [if_pos isLast]
        have locatedThen : Located middle lswitch (bridges.ofport bridge)
            (world.macs bridge) := by
          rw [← isMiddle]
          exact ⟨located.ofport, located.bridgeMac⟩
        rcases exec_removeNetworkFlow locatedThen tagged with ⟨after, ran, sets⟩
        exact ⟨after, none, ran, sets, fun some => absurd some (emptyIff.mp isLast),
          fun _ => rfl⟩
      · rw [if_neg isLast]
        refine ⟨middle, _, rfl, Sets.refl _ _, fun _ => ?_,
          fun none => absurd (emptyIff.mpr none) isLast⟩
        rw [samePlaceholder]
        exact sound.used lswitch member provider ⟨lport.id, isBound⟩
    rcases ended with ⟨after, entry, ran, sets, isUsed, isUnused⟩
    refine ⟨after, ran, ?_⟩
    apply sound.change member (sets.ofports.trans (by rw [← isMiddle]; rfl))
      (sets.bridgeMacs.trans (by rw [← isMiddle]; rfl)) _ others (fun _ => ready)
      (fun _ => isUsed) (fun noPorts => isUnused (noPorts provider))
    · rw [sets.networks]
      exact nodup
    · intro networkId networkType port
      rw [sound.listed_erase, sets.networks]
      exact listed networkId networkType port
    · intro networkId
      rw [sets.flows, samePlaceholder]
  · rw [if_neg provider]
    refine ⟨world.app, rfl, ?_⟩
    apply sound.change member rfl rfl (Sets.refl world.app lswitch.uniqueKey).flows others
      (fun _ => ready) (fun isProvider => absurd isProvider provider)
    · intro _
      apply sound.unused
      intro other isOther otherProvider sameKey
      rw [sound.sameKey other isOther lswitch member sameKey] at otherProvider
      exact absurd otherProvider provider
    · exact sound.nodup
    · intro networkId networkType port
      rw [sound.listed_erase]
      symm
      apply and_iff_right_of_imp
      intro isListed same
      subst same
      rcases (sound.listed _ _ _).mp isListed with
        ⟨other, isOther, otherProvider, _, _, onOther⟩
      rw [isBound] at onOther
      rw [← sound.sameId lswitch member other isOther (Option.some.inj onOther)]
        at otherProvider
      exact provider otherProvider

/-! ## Networks in the store -/

theorem Sound.networkStored (sound : Sound mappings bridges world)
    (isNew : ∀ other ∈ world.lswitches,
      other.id ≠ lswitch.id ∧ other.uniqueKey ≠ lswitch.uniqueKey) :
    Sound mappings bridges { world with lswitches := world.lswitches ++ [lswitch] } := by
  have noPorts : ∀ port, world.ports.lookup port ≠ some lswitch.id := by
    intro port onSwitch
    rcases sound.bound port _ onSwitch with ⟨other, isOther, sameId, _⟩
    exact (isNew other isOther).1 sameId
  have cases : ∀ other ∈ world.lswitches ++ [lswitch],
      other ∈ world.lswitches ∨ other = lswitch := by
    intro other isOther
    exact (List.mem_append.mp isOther).imp_right List.mem_singleton.mp
  constructor
  · constructor
    · exact sound.errors
    · intro other isOther provider hasPorts
      rcases cases other isOther with isOld | isLswitch
      · exact sound.used other isOld provider hasPorts
      · subst isLswitch
        rcases hasPorts with ⟨port, onSwitch⟩
        exact absurd onSwitch (noPorts port)
    · intro networkId unused
      apply sound.unused
      intro other isOther
      exact unused other (List.mem_append_left _ isOther)
  · exact sound.ofports
  · exact sound.macs
  · intro first isFirst second isSecond sameId
    rcases cases first isFirst with firstOld | firstNew
    · rcases cases second isSecond with secondOld | secondNew
      · exact sound.sameId first firstOld second secondOld sameId
      · exact absurd (secondNew ▸ sameId) (isNew first firstOld).1
    · rcases cases second isSecond with secondOld | secondNew
      · exact absurd (firstNew ▸ sameId.symm) (isNew second secondOld).1
      · rw [firstNew, secondNew]
  · intro first isFirst second isSecond sameKey
    rcases cases first isFirst with firstOld | firstNew
    · rcases cases second isSecond with secondOld | secondNew
      · exact sound.sameKey first firstOld second secondOld sameKey
      · exact absurd (secondNew ▸ sameKey) (isNew first firstOld).2
    · rcases cases second isSecond with secondOld | secondNew
      · exact absurd (firstNew ▸ sameKey.symm) (isNew second secondOld).2
      · rw [firstNew, secondNew]
  · intro port network onNetwork
    rcases sound.bound port network onNetwork with ⟨other, isOther, found⟩
    exact ⟨other, List.mem_append_left _ isOther, found⟩
  · exact sound.nodup
  · intro networkId networkType port
    apply (sound.listed networkId networkType port).trans
    constructor
    · intro found
      rcases found with ⟨other, isOther, found⟩
      exact ⟨other, List.mem_append_left _ isOther, found⟩
    · intro found
      rcases found with ⟨other, isOther, provider, key, type, onSwitch⟩
      rcases cases other isOther with isOld | isLswitch
      · exact ⟨other, isOld, provider, key, type, onSwitch⟩
      · subst isLswitch
        exact absurd onSwitch (noPorts port)

theorem Sound.networkRemoved (sound : Sound mappings bridges world) {id : Id}
    (noPorts : ∀ port, world.ports.lookup port ≠ some id) :
    Sound mappings bridges
      { world with
        lswitches := world.lswitches.filter fun lswitch => lswitch.id ≠ id } := by
  have kept : ∀ port other, other ∈ world.lswitches → world.ports.lookup port = some other.id →
      other ∈ world.lswitches.filter fun lswitch => lswitch.id ≠ id := by
    intro port other isOther onOther
    rw [List.mem_filter]
    refine ⟨isOther, decide_eq_true ?_⟩
    intro sameId
    rw [sameId] at onOther
    exact noPorts port onOther
  have old : ∀ other ∈ world.lswitches.filter fun lswitch => lswitch.id ≠ id,
      other ∈ world.lswitches := fun other isOther => (List.mem_filter.mp isOther).1
  constructor
  · constructor
    · exact sound.errors
    · intro other isOther
      exact sound.used other (old other isOther)
    · intro networkId unused
      apply sound.unused
      intro other isOther provider sameKey hasPorts
      rcases hasPorts with ⟨port, onOther⟩
      exact unused other (kept port other isOther onOther) provider sameKey ⟨port, onOther⟩
  · exact sound.ofports
  · exact sound.macs
  · intro first isFirst second isSecond
    exact sound.sameId first (old first isFirst) second (old second isSecond)
  · intro first isFirst second isSecond
    exact sound.sameKey first (old first isFirst) second (old second isSecond)
  · intro port network onNetwork
    rcases sound.bound port network onNetwork with ⟨other, isOther, sameId, ready⟩
    exact ⟨other, kept port other isOther (sameId ▸ onNetwork), sameId, ready⟩
  · exact sound.nodup
  · intro networkId networkType port
    apply (sound.listed networkId networkType port).trans
    constructor
    · intro found
      rcases found with ⟨other, isOther, provider, key, type, onSwitch⟩
      exact ⟨other, kept port other isOther onSwitch, provider, key, type, onSwitch⟩
    · intro found
      rcases found with ⟨other, isOther, found⟩
      exact ⟨other, old other isOther, found⟩

/-! ## Bridges -/

theorem wanted_of_eq {macs : String → Option MacAddress}
    (same : ∀ network bridge, mappings.bridges.lookup network = some bridge →
      macs bridge = world.macs bridge) (lswitch : ProviderSwitch) :
    wanted mappings bridges { world with macs } lswitch =
      wanted mappings bridges world lswitch := by
  unfold wanted
  cases isBridge : lswitch.physicalNetwork.bind mappings.bridges.lookup with
  | none => rfl
  | some bridge =>
      rcases Option.bind_eq_some_iff.mp isBridge with ⟨network, _, mapped⟩
      rw [Option.bind_some, Option.bind_some]
      dsimp only
      rw [same network bridge mapped]

/-- The MACs of the mapped bridges stay. -/
theorem Sound.unmapped (sound : Sound mappings bridges world)
    {macs : String → Option MacAddress}
    (same : ∀ network bridge, mappings.bridges.lookup network = some bridge →
      macs bridge = world.macs bridge) :
    Sound mappings bridges { world with macs } where
  errors := sound.errors
  used other isOther provider hasPorts := by
    rw [wanted_of_eq same]
    exact sound.used other isOther provider hasPorts
  unused := sound.unused
  ofports := sound.ofports
  macs network bridge mapped := by
    dsimp only
    rw [same network bridge mapped]
    exact sound.macs network bridge mapped
  sameId := sound.sameId
  sameKey := sound.sameKey
  bound := sound.bound
  nodup := sound.nodup
  listed := sound.listed

/-- The bridge of a physical network with one network lost its MAC. -/
theorem Sound.lost (sound : Sound mappings bridges world) {network bridge : String}
    (mapped : mappings.bridges.lookup network = some bridge)
    (only : networksOn world network = [lswitch])
    (bridgeMacs : after.bridgeMacs = world.app.bridgeMacs.insert network none)
    (ofports : after.intOfports = world.app.intOfports)
    (networks : after.logicalNetworks = world.app.logicalNetworks)
    (flows : ∀ networkId, after.placeholder networkId =
      if networkId = lswitch.uniqueKey then none else world.app.placeholder networkId) :
    Sound mappings bridges
      { world with macs := Function.update world.macs bridge none, app := after } := by
  have isOnly : ∀ other, other ∈ world.lswitches ∧ other.physicalNetwork = some network ↔
      other = lswitch := by
    intro other
    have member : other ∈ networksOn world network ↔ other = lswitch := by
      rw [only, List.mem_singleton]
    rw [← member, networksOn, List.mem_filter, decide_eq_true_eq]
  have onNetwork := (isOnly lswitch).mpr rfl
  constructor
  · constructor
    · exact sound.errors
    · intro other isOther provider hasPorts
      dsimp only
      rw [flows]
      by_cases sameKey : other.uniqueKey = lswitch.uniqueKey
      · have same := sound.sameKey other isOther lswitch onNetwork.1 sameKey
        rw [if_pos sameKey, same, wanted, onNetwork.2, Option.bind_some, mapped,
          Option.bind_some]
        dsimp only
        rw [Function.update_self, Option.map_none]
      · rw [if_neg sameKey, sound.used other isOther provider hasPorts]
        unfold wanted
        cases isBridge : other.physicalNetwork.bind mappings.bridges.lookup with
        | none => rfl
        | some otherBridge =>
            rcases Option.bind_eq_some_iff.mp isBridge with ⟨otherNetwork, isNetwork, isMapped⟩
            have different : otherBridge ≠ bridge := by
              intro sameBridge
              rw [sameBridge] at isMapped
              have sameNetwork := mappings.unique otherNetwork network bridge isMapped mapped
              rw [sameNetwork] at isNetwork
              exact sameKey (by rw [(isOnly other).mp ⟨isOther, isNetwork⟩])
            rw [Option.bind_some, Option.bind_some]
            dsimp only
            rw [Function.update_of_ne different]
    · intro networkId unused
      dsimp only
      rw [flows, sound.unused networkId unused, ite_self]
  · dsimp only
    rw [ofports]
    exact sound.ofports
  · intro otherNetwork otherBridge isMapped
    dsimp only
    rw [bridgeMacs, Dict.lookup_insert_eq]
    by_cases same : otherNetwork = network
    · rw [same, mapped] at isMapped
      cases isMapped
      rw [if_pos same, Function.update_self]
    · have different : otherBridge ≠ bridge := by
        intro sameBridge
        rw [sameBridge] at isMapped
        exact same (mappings.unique otherNetwork network bridge isMapped mapped)
      rw [if_neg same, Function.update_of_ne different]
      exact sound.macs otherNetwork otherBridge isMapped
  · exact sound.sameId
  · exact sound.sameKey
  · exact sound.bound
  · dsimp only
    rw [networks]
    exact sound.nodup
  · dsimp only
    rw [networks]
    exact sound.listed

theorem Sound.exec_updateBridgeMac (sound : Sound mappings bridges world) {bridge : String}
    {mac : Option MacAddress} (harmless : MacHarmless mappings world bridge mac) :
    ∃ after, exec (updateBridgeMac mappings world.lswitches bridge mac) world.app =
        (.ok (), after) ∧
      Sound mappings bridges
        { world with macs := Function.update world.macs bridge mac, app := after } := by
  unfold updateBridgeMac
  unfold MacHarmless at harmless
  cases isReverse : mappings.reverse bridge with
  | none =>
      refine ⟨world.app, rfl, sound.unmapped ?_⟩
      intro network otherBridge mapped
      apply Function.update_of_ne
      intro same
      rw [same, ← mappings.reverse_eq_some_iff, isReverse] at mapped
      cases mapped
  | some network =>
      rw [isReverse] at harmless
      have mapped := (mappings.reverse_eq_some_iff bridge network).mp isReverse
      dsimp only at harmless ⊢
      rw [exec_bind_ok (exec_get _), sound.macs network bridge mapped]
      dsimp only
      by_cases same : world.macs bridge = mac
      · rw [if_pos same]
        refine ⟨world.app, rfl, sound.unmapped ?_⟩
        intro _ other _
        rw [← same, Function.update_eq_self]
      · rw [if_neg same]
        rcases harmless.resolve_left same with ⟨isNone, isOne⟩
        subst isNone
        rcases List.length_eq_one_iff.mp isOne with ⟨lswitch, only⟩
        have taken : getOne world.lswitches network = .ok (some lswitch) := by
          unfold networksOn at only
          unfold getOne
          rw [only]
        rw [taken, exec_bind_ok (exec_ofExcept_ok _ _)]
        have removed : exec (removeOldMac (world.macs bridge) (some lswitch)) world.app =
            (.ok (), world.app.sent [removeEgressPlaceholderFlow lswitch.uniqueKey]) := by
          unfold removeOldMac
          rw [if_neg same]
          rfl
        have nothing : ∀ app : ProviderApp,
            exec (addNewMac none (some lswitch)) app = (.ok (), app) := fun _ => rfl
        rw [exec_bind_ok removed, exec_bind_ok (nothing _), exec_modify]
        generalize isSent :
          world.app.sent [removeEgressPlaceholderFlow lswitch.uniqueKey] = middle
        have flows : ∀ networkId, middle.placeholder networkId =
            if networkId = lswitch.uniqueKey then none
            else world.app.placeholder networkId := by
          intro networkId
          rw [← isSent]
          exact placeholder_delete world.app lswitch.uniqueKey rfl rfl rfl
            (covers_placeholder _)
        have bridgeMacs : middle.bridgeMacs = world.app.bridgeMacs := by rw [← isSent]; rfl
        have ofports : middle.intOfports = world.app.intOfports := by rw [← isSent]; rfl
        have networks : middle.logicalNetworks = world.app.logicalNetworks := by
          rw [← isSent]
          rfl
        refine ⟨_, rfl, sound.lost mapped only ?_ ofports networks flows⟩
        rw [bridgeMacs]

/-! ## Runs -/

theorem World.tell_bindLocal (onSwitch : lport.lswitch = some lswitch.id) :
    world.tell (.bindLocal lport) =
      { world with ports := world.ports.insert lport.id lswitch.id } := by
  unfold World.tell
  dsimp only
  rw [onSwitch]

theorem World.tell_errors (event : Event) : (world.tell event).errors = world.errors := by
  cases event with
  | bindLocal lport =>
      unfold World.tell
      dsimp only
      split <;> rfl
  | _ => rfl

theorem Sound.step (sound : Sound mappings bridges world) {event : Event} {after : World}
    (harmless : Harmless mappings world event)
    (stepped : World.step mappings world event = some after) :
    Sound mappings bridges after := by
  unfold World.step at stepped
  split at stepped
  · next wellFormed =>
      have handled : ∃ app, exec (World.handle mappings world.lswitches event) world.app =
          (.ok (), app) ∧ Sound mappings bridges { world.tell event with app } := by
        cases event with
        | networkStored lswitch => exact ⟨_, rfl, sound.networkStored wellFormed⟩
        | networkRemoved id =>
            refine ⟨_, rfl, sound.networkRemoved fun port onSwitch => ?_⟩
            exact wellFormed ⟨port, id⟩ (AList.mem_lookup_iff.mp onSwitch) rfl
        | bridgeUpdated switchPort => exact sound.exec_updateBridgeMac harmless
        | bridgeDeleted switchPort => exact sound.exec_updateBridgeMac harmless
        | bindLocal lport =>
            rcases wellFormed with ⟨free, lswitch, member, onSwitch, ready⟩
            rcases sound.exec_addLocalPort member onSwitch ready free with
              ⟨app, ran, soundThen⟩
            refine ⟨app, ran, ?_⟩
            rw [World.tell_bindLocal onSwitch]
            exact soundThen
        | unbindLocal lport =>
            rcases wellFormed with ⟨isBound, hasSwitch⟩
            rcases Option.isSome_iff_exists.mp hasSwitch with ⟨network, isNetwork⟩
            rw [isNetwork] at isBound
            rcases sound.bound lport.id network isBound with ⟨lswitch, member, isId, ready⟩
            subst isId
            exact sound.exec_removeLocalPort member isNetwork ready isBound
      rcases handled with ⟨app, ran, soundThen⟩
      rw [ran] at stepped
      cases stepped
      have noErrors : world.errors ++ World.raised (.ok ()) = (world.tell event).errors := by
        rw [World.tell_errors]
        exact List.append_nil _
      rw [noErrors]
      exact soundThen
  · cases stepped

/-- The bridges of some physical networks were set up. -/
def SetUp (bridges : Bridges) (done : List (Σ _ : String, String)) (app : ProviderApp) :
    Prop :=
  app.flows = FlowTable.empty ∧ app.logicalNetworks = {} ∧ ∀ entry ∈ done,
    app.intOfports.lookup entry.1 = some (bridges.ofport entry.2) ∧
      app.bridgeMacs.lookup entry.1 = some (bridges.macInUse entry.2)

theorem setup_located (mappings : BridgeMappings) (bridges : Bridges) :
    Leads (setupPhysicalBridges mappings bridges) {}
      (fun _ app => SetUp bridges mappings.bridges.entries app) (fun _ _ => False) := by
  unfold setupPhysicalBridges
  apply Leads.loop (SetUp bridges) mappings.bridges.entries
  · intro done entry rest app whole holds
    rcases holds with ⟨noFlows, noPorts, located⟩
    rw [leads_modify]
    refine ⟨noFlows, noPorts, fun other member => ?_⟩
    dsimp only
    rw [Dict.lookup_insert_eq, Dict.lookup_insert_eq]
    by_cases same : other.1 = entry.1
    · -- the keys of a dictionary are distinct
      have sameValue : other.2 = entry.2 := by
        have first : mappings.bridges.lookup other.1 = some other.2 := by
          apply AList.mem_lookup_iff.mpr
          rw [whole]
          rcases List.mem_append.mp member with isDone | isLast
          · exact List.mem_append_left _ isDone
          · rw [List.mem_singleton.mp isLast]
            exact List.mem_append_right _ List.mem_cons_self
        have second : mappings.bridges.lookup entry.1 = some entry.2 := by
          apply AList.mem_lookup_iff.mpr
          rw [whole]
          exact List.mem_append_right _ List.mem_cons_self
        rw [same, second] at first
        exact (Option.some.inj first).symm
      rw [if_pos same, if_pos same, sameValue]
      exact ⟨rfl, rfl⟩
    · rw [if_neg same, if_neg same]
      apply located
      rcases List.mem_append.mp member with isDone | isLast
      · exact isDone
      · exact absurd (congrArg Sigma.fst (List.mem_singleton.mp isLast)) same
  · exact ⟨rfl, rfl, fun entry member => absurd member List.not_mem_nil⟩

theorem initial_sound (mappings : BridgeMappings) (bridges : Bridges) :
    Sound mappings bridges (World.initial mappings bridges) := by
  rcases (setup_located mappings bridges).returned with
    ⟨_, app, ran, noFlows, noPorts, located⟩
  have isInitial : World.initial mappings bridges =
      { macs := bridges.macInUse, app } := by
    unfold World.initial
    rw [ran]
  have noList : ∀ networkId networkType,
      app.logicalNetworks.localPortsNetCache.portList networkId networkType = [] := by
    intro networkId networkType
    rw [noPorts]
    rfl
  rw [isInitial]
  constructor
  · constructor
    · rfl
    · intro lswitch member
      cases member
    · intro networkId _
      show app.flows _ _ _ = none
      rw [noFlows]
      rfl
  · intro network bridge mapped
    exact (located ⟨network, bridge⟩ (AList.mem_lookup_iff.mp mapped)).1
  · intro network bridge mapped
    exact (located ⟨network, bridge⟩ (AList.mem_lookup_iff.mp mapped)).2
  · intro lswitch member
    cases member
  · intro lswitch member
    cases member
  · intro port network onNetwork
    cases onNetwork
  · intro networkId networkType
    dsimp only
    rw [noList]
    exact List.nodup_nil
  · intro networkId networkType port
    dsimp only
    rw [noList]
    constructor
    · intro impossible
      cases impossible
    · intro found
      rcases found with ⟨lswitch, member, _⟩
      cases member

/-- While bridges only keep their MACs, or lose them where there is exactly one network,
the flows of the placeholder are current after every event. -/
theorem placeholders_current (mappings : BridgeMappings) (bridges : Bridges)
    (events : List Event) (after : World)
    (harmless : Throughout (World.step mappings) (Harmless mappings) events
      (World.initial mappings bridges))
    (run : steps (World.step mappings) events (World.initial mappings bridges) =
      some after) : Current mappings bridges after := by
  have sound : Sound mappings bridges after :=
    steps_throughout (Sound mappings bridges)
      (fun _ _ _ holds met stepped => holds.step met stepped)
      (initial_sound mappings bridges) harmless run
  exact sound.toCurrent

namespace Sample

def oneBridge : BridgeMappings where
  bridges := (∅ : Dict String String).insert "external" "br-ex"
  unique network other bridge isBridge otherIsBridge := by
    rw [Dict.lookup_insert_eq] at isBridge otherIsBridge
    split at isBridge
    · next same =>
        split at otherIsBridge
        · next otherSame => rw [same, otherSame]
        · cases otherIsBridge
    · cases isBridge

/-- The bridge has a MAC when it is set up. -/
def oneMac : Bridges where
  ofport _ := 4
  macInUse _ := some 0x0a0000000001

def network : ProviderSwitch :=
  { id := "public", uniqueKey := 5, networkType := some netVlan, segmentationId := some 100
    physicalNetwork := some "external" }

def server : LogicalPort := { id := "server", lswitch := some "public" }

/-- A port is bound, the bridge is gone, and the port is unbound. -/
def quietEvents : List Event :=
  [.networkStored network, .bindLocal server, .bridgeDeleted { name := "br-ex" },
    .unbindLocal server]

/-- The bridge gets another MAC while a port is bound. -/
def replacedMac : List Event :=
  [.networkStored network, .bindLocal server,
    .bridgeUpdated { name := "br-ex", macInUse := some 0x0a0000000002 }]

def reached (events : List Event) : World :=
  (steps (World.step oneBridge) events (World.initial oneBridge oneMac)).getD
    (World.initial oneBridge oneMac)

theorem runs {events : List Event} (isSome : (steps (World.step oneBridge) events
    (World.initial oneBridge oneMac)).isSome = true) :
    steps (World.step oneBridge) events (World.initial oneBridge oneMac) =
      some (reached events) := by
  rcases Option.isSome_iff_exists.mp isSome with ⟨found, ran⟩
  unfold reached
  rw [ran]
  rfl

end Sample

open Sample in
theorem lost_mac_current : Current oneBridge oneMac (reached quietEvents) :=
  placeholders_current oneBridge oneMac quietEvents _ (by decide +kernel)
    (runs (by decide +kernel))

open Sample in
/-- The flow still has the MAC that the bridge had before. -/
theorem replaced_mac_stale :
    steps (World.step oneBridge) replacedMac (World.initial oneBridge oneMac) =
        some (reached replacedMac) ∧
      ¬Current oneBridge oneMac (reached replacedMac) := by
  refine ⟨runs (by decide +kernel), fun current => ?_⟩
  have stored : (reached replacedMac).lswitches = [network] := by decide +kernel
  have hasPorts : HasPorts (reached replacedMac) network := ⟨"server", by decide +kernel⟩
  have member : network ∈ (reached replacedMac).lswitches := by
    rw [stored]
    exact List.mem_singleton.mpr rfl
  have used := current.used network member (by decide) hasPorts
  exact absurd used (by decide +kernel)

end ProviderApp

end Dragonflow
