import Dragonflow.Controller.Apps.PortSecFlows
import Dragonflow.Controller.Packets

/-! # What port security admits

Packets that are neither IP nor ARP are admitted by their source address alone. The
application lets through those from the address of the port itself, but not those from
the addresses of the allowed address pairs.
-/

namespace Dragonflow

open Program FlowTable

namespace PortSecApp

variable {tables : Tables} {flows : Flows} {key : Nat} {lport : LogicalPort}
  {packet : Packet}

/-! ## The events of ports -/

inductive Event
  | added (lport : LogicalPort)
  | updated (lport original : LogicalPort)
  | removed (lport : LogicalPort)
  deriving DecidableEq, Repr

namespace Event

/-- The keys that the handler of an event writes flows for. -/
def keys : Event → List Nat
  | .added lport => [lport.uniqueKey]
  | .updated lport original => [lport.uniqueKey, original.uniqueKey]
  | .removed lport => [lport.uniqueKey]

def handle (tables : Tables) : Event → Action Unit
  | .added lport => addLocalPort tables lport
  | .updated lport original => updateLocalPort tables lport original
  | .removed lport => removeLocalPort tables lport

end Event

/-- The flows after the application was initialized and saw some events. -/
def history (tables : Tables) (events : List Event) : Flows :=
  events.foldl (fun flows event => after (event.handle tables) flows)
    (after (initializeApp tables) FlowTable.empty)

/-! ## What the handlers leave alone -/

/-- The places of the flows of other ports. -/
def ForOthers (tables : Tables) (key : Nat) (place : FlowPlace) : Prop :=
  ∃ other, other ≠ key ∧ ForKey tables other place

section Frames

variable {region : FlowPlace → Prop}

theorem addFlowGoToTable_keeps {priority target : Nat} {pattern : OFPMatch}
    (inside : region (tables.main, priority, pattern)) :
    Keeps (SameOutside region) (addFlowGoToTable tables priority target pattern) :=
  Keeps.modify fun _ => sameOutside_add rfl inside

theorem removeOnePortSecurityFlow_keeps {priority : Nat} {pattern : OFPMatch}
    (inside : region (tables.main, priority, pattern)) :
    Keeps (SameOutside region) (removeOnePortSecurityFlow tables priority pattern) :=
  Keeps.modify fun _ => sameOutside_deleteStrict rfl rfl (OFPMatch.covers_self _) inside

theorem reg6_ip (mac : MacAddress) (ip : IPAddress) :
    (getIpMatchObj key mac ip).reg6 = some (.exact key) := by
  unfold getIpMatchObj
  split
  · cases ip <;> rfl
  · rfl

theorem reg6_resolution (mac : MacAddress) (ip : IPAddress) :
    (resolutionMatch key mac ip).reg6 = some (.exact key) := by
  cases ip <;> rfl

variable (inside : ∀ place, ForKey tables key place → region place)
include inside

theorem installPair_keeps (pair : AddressPair) :
    Keeps (SameOutside region) (installFlowsCheckValidIpAndMac tables key pair) := by
  apply Keeps.bind
  · exact addFlowGoToTable_keeps (inside _ ⟨rfl, reg6_ip _ _⟩)
  · intro _
    exact addFlowGoToTable_keeps (inside _ ⟨rfl, reg6_resolution _ _⟩)

theorem uninstallPair_keeps (pair : AddressPair) :
    Keeps (SameOutside region) (uninstallFlowsCheckValidIpAndMac tables key pair) := by
  apply Keeps.bind
  · exact removeOnePortSecurityFlow_keeps (inside _ ⟨rfl, reg6_ip _ _⟩)
  · intro _
    exact removeOnePortSecurityFlow_keeps (inside _ ⟨rfl, reg6_resolution _ _⟩)

theorem installMac_keeps (mac : MacAddress) :
    Keeps (SameOutside region) (installFlowsCheckValidMac tables key mac) :=
  addFlowGoToTable_keeps (inside _ ⟨rfl, rfl⟩)

theorem uninstallMac_keeps (mac : MacAddress) :
    Keeps (SameOutside region) (uninstallFlowsCheckValidMac tables key mac) :=
  removeOnePortSecurityFlow_keeps (inside _ ⟨rfl, rfl⟩)

theorem installVm_keeps (vmMac : Option MacAddress) :
    Keeps (SameOutside region) (installFlowsCheckOnlyVmMac tables key vmMac) := by
  cases vmMac with
  | none => exact Keeps.throw _
  | some vmMac =>
      apply Keeps.bind (addFlowGoToTable_keeps (inside _ ⟨rfl, rfl⟩))
      intro _
      apply Keeps.bind (addFlowGoToTable_keeps (inside _ ⟨rfl, rfl⟩))
      intro _
      apply Keeps.bind (addFlowGoToTable_keeps (inside _ ⟨rfl, rfl⟩))
      intro _
      exact addFlowGoToTable_keeps (inside _ ⟨rfl, rfl⟩)

theorem uninstallVm_keeps (vmMac : Option MacAddress) :
    Keeps (SameOutside region) (uninstallFlowsCheckOnlyVmMac tables key vmMac) := by
  cases vmMac with
  | none => exact Keeps.throw _
  | some vmMac =>
      apply Keeps.bind (removeOnePortSecurityFlow_keeps (inside _ ⟨rfl, rfl⟩))
      intro _
      apply Keeps.bind (removeOnePortSecurityFlow_keeps (inside _ ⟨rfl, rfl⟩))
      intro _
      apply Keeps.bind (removeOnePortSecurityFlow_keeps (inside _ ⟨rfl, rfl⟩))
      intro _
      exact removeOnePortSecurityFlow_keeps (inside _ ⟨rfl, rfl⟩)

end Frames

section Ports

variable {region : FlowPlace → Prop}

theorem installPortSecurityFlows_keeps
    (inside : ∀ place, ForKey tables lport.uniqueKey place → region place) :
    Keeps (SameOutside region) (installPortSecurityFlows tables lport) := by
  apply Keeps.bind (Keeps.loop _ fun pair _ => installPair_keeps inside pair)
  intro _
  apply Keeps.bind (Keeps.loop _ fun mac _ => installMac_keeps inside mac)
  intro _
  exact installVm_keeps inside lport.mac

theorem uninstallPortSecurityFlows_keeps
    (inside : ∀ place, ForKey tables lport.uniqueKey place → region place) :
    Keeps (SameOutside region) (uninstallPortSecurityFlows tables lport) := by
  apply Keeps.bind (Keeps.loop _ fun pair _ => uninstallPair_keeps inside pair)
  intro _
  apply Keeps.bind (Keeps.loop _ fun mac _ => uninstallMac_keeps inside mac)
  intro _
  exact uninstallVm_keeps inside lport.mac

theorem updatePortSecurityFlows_keeps {original : LogicalPort}
    (inside : ∀ place, ForKey tables lport.uniqueKey place → region place) :
    Keeps (SameOutside region) (updatePortSecurityFlows tables lport original) := by
  apply Keeps.bind (Keeps.loop _ fun pair _ => installPair_keeps inside pair)
  intro _
  apply Keeps.bind (Keeps.loop _ fun pair _ => uninstallPair_keeps inside pair)
  intro _
  apply Keeps.bind (Keeps.loop _ fun mac _ => installMac_keeps inside mac)
  intro _
  apply Keeps.bind (Keeps.loop _ fun mac _ => uninstallMac_keeps inside mac)
  intro _
  change Keeps _ (updateVmMac _ _ _ _)
  unfold updateVmMac
  split
  · apply Keeps.bind (installVm_keeps inside _)
    intro _
    exact uninstallVm_keeps inside _
  · exact Keeps.pure _

theorem addLocalPort_keeps
    (inside : ∀ place, ForKey tables lport.uniqueKey place → region place) :
    Keeps (SameOutside region) (addLocalPort tables lport) := by
  unfold addLocalPort
  split
  · exact installPortSecurityFlows_keeps inside
  · exact addFlowGoToTable_keeps (inside _ ⟨rfl, rfl⟩)

theorem handle_keeps (event : Event)
    (inside : ∀ other ∈ event.keys, ∀ place, ForKey tables other place → region place) :
    Keeps (SameOutside region) (event.handle tables) := by
  cases event with
  | added lport => exact addLocalPort_keeps (inside _ List.mem_cons_self)
  | updated lport original =>
      have insideNew := inside lport.uniqueKey List.mem_cons_self
      have insideOld := inside original.uniqueKey
        (List.mem_cons_of_mem _ List.mem_cons_self)
      change Keeps _ (updateLocalPort tables lport original)
      unfold updateLocalPort
      split
      · split
        · exact updatePortSecurityFlows_keeps insideNew
        · apply Keeps.bind (installPortSecurityFlows_keeps insideNew)
          intro _
          exact removeOnePortSecurityFlow_keeps (insideOld _ ⟨rfl, rfl⟩)
      · split
        · apply Keeps.bind (addFlowGoToTable_keeps (insideNew _ ⟨rfl, rfl⟩))
          intro _
          exact uninstallPortSecurityFlows_keeps insideOld
        · exact Keeps.pure _
  | removed lport =>
      have insideKey := inside lport.uniqueKey List.mem_cons_self
      change Keeps _ (removeLocalPort tables lport)
      unfold removeLocalPort
      split
      · exact uninstallPortSecurityFlows_keeps insideKey
      · exact removeOnePortSecurityFlow_keeps (insideKey _ ⟨rfl, rfl⟩)

/-- The flows that are not of the ports of the events are those from the start. -/
theorem history_sameOutside {events : List Event}
    (others : ∀ event ∈ events, ∀ other ∈ event.keys, other ≠ key) :
    SameOutside (ForOthers tables key) (after (initializeApp tables) FlowTable.empty)
      (history tables events) := by
  have run : ∀ flows : Flows, SameOutside (ForOthers tables key) flows
      (events.foldl (fun flows event => after (event.handle tables) flows) flows) := by
    induction events with
    | nil => exact fun flows => refl_of (SameOutside (ForOthers tables key)) flows
    | cons event events induction =>
        intro flows
        have kept : Keeps (SameOutside (ForOthers tables key)) (event.handle tables) :=
          handle_keeps event fun other isKey place isFor =>
            ⟨other, others event List.mem_cons_self other isKey, isFor⟩
        exact trans_of _ (kept flows)
          (induction (fun event member => others event (List.mem_cons_of_mem _ member)) _)
  exact run _

end Ports

/-! ## The flows that match -/

/-- The flow that drops what no other flow matches. -/
def defaultDrop (tables : Tables) : Flow OFPMatch Instruction :=
  ⟨tables.main, Const.priorityVeryLow, {}, ⟨0, []⟩⟩

def Plain (packet : Packet) : Prop :=
  packet.ethType ≠ some 0x0800 ∧ packet.ethType ≠ some 0x86dd ∧
    packet.ethType ≠ some 0x0806

theorem Plain.not_matches (plain : Plain packet) {pattern : OFPMatch}
    (isKnown : pattern.ethType = some (.exact Const.ethTypeIp) ∨
      pattern.ethType = some (.exact Const.ethTypeIpv6) ∨
      pattern.ethType = some (.exact Const.ethTypeArp)) : ¬ packet.Matches pattern := by
  intro found
  have ofType : ∀ number : BitVec 16,
      pattern.ethType = some (.exact number.toNat) → packet.ethType = some number := by
    intro number isNumber
    have covered := found.ethType
    rw [isNumber, FieldMatch.coversField_map_exact] at covered
    rcases covered with ⟨bits, isType, same⟩
    rw [isType, BitVec.eq_of_toNat_eq same]
  rcases isKnown with isIp | isIpv6 | isArp
  · exact plain.1 (ofType 0x0800 isIp)
  · exact plain.2.1 (ofType 0x86dd isIpv6)
  · exact plain.2.2 (ofType 0x0806 isArp)

theorem ethType_ip (mac : MacAddress) (ip : IPAddress) :
    (getIpMatchObj key mac ip).ethType = some (.exact Const.ethTypeIp) ∨
      (getIpMatchObj key mac ip).ethType = some (.exact Const.ethTypeIpv6) := by
  unfold getIpMatchObj
  split
  · cases ip with
    | v4 bits => exact Or.inl rfl
    | v6 bits => exact Or.inr rfl
  · exact Or.inl rfl

/-- Of the flows of the port itself only that of its address can match. -/
theorem matching_own (enabled : Enabled lport) (plain : Plain packet) {place : FlowPlace}
    (isPlace : place ∈ portPlaces tables lport) (found : packet.Matches place.2.2) :
    lport.mac = some packet.ethSrc ∧
      place = low tables (fromMac lport.uniqueKey packet.ethSrc) := by
  rw [portPlaces, if_pos enabled] at isPlace
  rcases isPlace with (⟨pair, -, isPair⟩ | ⟨mac, isMac, rfl⟩) | ⟨vmMac, -, isVm⟩
  · exfalso
    rcases isPair with rfl | rfl
    · apply plain.not_matches ?_ found
      rcases ethType_ip pair.macAddress pair.ipAddress with isIp | isIpv6
      · exact Or.inl isIp
      · exact Or.inr (Or.inl isIpv6)
    · apply plain.not_matches ?_ found
      cases pair.ipAddress with
      | v4 bits => exact Or.inr (Or.inr rfl)
      | v6 bits => exact Or.inr (Or.inl rfl)
  · have covered : FieldMatch.coversField (some (.exact mac.toNat)) _ = true := found.ethSrc
    rw [FieldMatch.coversField_exact] at covered
    have same : mac = packet.ethSrc := BitVec.eq_of_toNat_eq covered
    rw [← same]
    exact ⟨Option.mem_toList.mp isMac, rfl⟩
  · exfalso
    rcases isVm with rfl | rfl | rfl | rfl
    · exact plain.not_matches (Or.inl rfl) found
    · exact plain.not_matches (Or.inr (Or.inl rfl)) found
    · exact plain.not_matches (Or.inr (Or.inr rfl)) found
    · exact plain.not_matches (Or.inr (Or.inl rfl)) found

/-- The messages of `initialize`. -/
def dropMessages (tables : Tables) : List OFPFlowMod :=
  ([{ ethType := some (.exact Const.ethTypeIp) },
    { ethType := some (.exact Const.ethTypeIpv6) },
    { ethType := some (.exact Const.ethTypeArp) }].map fun pattern =>
      { table := tables.main, priority := Const.priorityMedium, pattern }) ++
    [{ table := tables.main, priority := Const.priorityVeryLow, pattern := {} }]

theorem initializeApp_has {flow : Flow OFPMatch Instruction} :
    (after (initializeApp tables) FlowTable.empty).Has flow ↔
      ∃ message ∈ dropMessages tables, flow = message.flow := by
  have executed : after (initializeApp tables) FlowTable.empty =
      FlowTable.empty.applyAll (dropMessages tables) := rfl
  rw [executed, has_applyAll_add]
  · simp [not_has_empty]
  · simp [dropMessages]
  · intro message member other isOther places
    have samePlace : other.flow.place = message.place := places_iff.mp places
    apply Flow.ext_place samePlace
    simp only [dropMessages, List.map_cons, List.map_nil, List.cons_append, List.nil_append,
      List.mem_cons, List.not_mem_nil, or_false] at member isOther
    rcases member with rfl | rfl | rfl | rfl <;>
      rcases isOther with rfl | rfl | rfl | rfl <;> rfl

/-- At the start there are no flows for any key. -/
theorem initializeApp_without : Without tables key (after (initializeApp tables) empty) := by
  intro flow isFor has
  rcases initializeApp_has.mp has with ⟨message, member, rfl⟩
  have noKey : message.pattern.reg6 = none := by
    simp only [dropMessages, List.map_cons, List.map_nil, List.cons_append, List.nil_append,
      List.mem_cons, List.not_mem_nil, or_false] at member
    rcases member with rfl | rfl | rfl | rfl <;> rfl
  have isKey : message.pattern.reg6 = some (.exact key) := isFor.2
  rw [noKey] at isKey
  cases isKey

theorem history_without {events : List Event}
    (others : ∀ event ∈ events, ∀ other ∈ event.keys, other ≠ key) :
    Without tables key (history tables events) := by
  intro flow isFor has
  have notOther : ¬ ForOthers tables key flow.place := by
    rintro ⟨other, different, isOther⟩
    have same := isFor.2.symm.trans isOther.2
    rw [Option.some.injEq, FieldMatch.exact.injEq] at same
    exact different same.symm
  exact initializeApp_without flow isFor
    ((history_sameOutside others flow notOther).mp has)

/-- The flow that admits packets from the address of the port. -/
def admitFlow (tables : Tables) (key : Nat) (mac : MacAddress) : Flow OFPMatch Instruction :=
  ⟨tables.main, Const.priorityLow, fromMac key mac,
    ⟨0, goToTable tables.main tables.services⟩⟩

/-- Of the flows that were there from the start only the last can match. -/
theorem matching_initial (plain : Plain packet) {flow : Flow OFPMatch Instruction}
    (found : packet.Matches flow.pattern)
    (has : (after (initializeApp tables) empty).Has flow) : flow = defaultDrop tables := by
  rcases initializeApp_has.mp has with ⟨message, member, rfl⟩
  simp only [dropMessages, List.map_cons, List.map_nil, List.cons_append, List.nil_append,
    List.mem_cons, List.not_mem_nil, or_false] at member
  rcases member with rfl | rfl | rfl | rfl
  · exact absurd found (plain.not_matches (Or.inl rfl))
  · exact absurd found (plain.not_matches (Or.inr (Or.inl rfl)))
  · exact absurd found (plain.not_matches (Or.inr (Or.inr rfl)))
  · rfl

section Added

variable {events : List Event}
  (others : ∀ event ∈ events, ∀ other ∈ event.keys, other ≠ lport.uniqueKey)
include others

theorem added_has_defaultDrop :
    (after (addLocalPort tables lport) (history tables events)).Has (defaultDrop tables) := by
  have notFor : ∀ other, ¬ ForKey tables other (defaultDrop tables).place := by
    rintro other ⟨-, isKey⟩
    cases isKey
  refine (addLocalPort_keeps (fun _ isFor => isFor) _ _ (notFor lport.uniqueKey)).mpr ?_
  rw [history_sameOutside others]
  · exact initializeApp_has.mpr ⟨_, List.mem_append_right _ List.mem_cons_self, rfl⟩
  · rintro ⟨other, -, isFor⟩
    exact notFor other isFor

/-- The flows for the port are those that it needs. -/
theorem added_secured : Secured tables lport.uniqueKey
    (after (addLocalPort tables lport) (history tables events)) (portPlaces tables lport) :=
  addLocalPort_secured lport (history_without others).secured

theorem added_has_admitFlow (enabled : Enabled lport) {mac : MacAddress}
    (isMac : lport.mac = some mac) :
    (after (addLocalPort tables lport) (history tables events)).Has
      (admitFlow tables lport.uniqueKey mac) := by
  rw [added_secured others _ ⟨rfl, rfl⟩, portPlaces, if_pos enabled]
  refine ⟨Or.inl (Or.inr ⟨mac, Option.mem_toList.mpr isMac, rfl⟩), ?_⟩
  have services : ToServices (fromMac lport.uniqueKey mac) := by simp [ToServices, fromMac]
  unfold entryAt admitFlow Flow.place
  rw [if_pos services]

/-- No other flow matches a packet of the port. -/
theorem added_matching (enabled : Enabled lport) (plain : Plain packet)
    (isFrom : packet.reg6.toNat = lport.uniqueKey) {flow : Flow OFPMatch Instruction}
    (has : (after (addLocalPort tables lport) (history tables events)).Has flow)
    (found : packet.Matches flow.pattern) :
    flow = defaultDrop tables ∨ (lport.mac = some packet.ethSrc ∧
      flow = admitFlow tables lport.uniqueKey packet.ethSrc) := by
  by_cases isFor : ForKey tables lport.uniqueKey flow.place
  · rcases (added_secured others flow isFor).mp has with ⟨isPlace, isEntry⟩
    rcases matching_own enabled plain isPlace found with ⟨isMac, place⟩
    refine Or.inr ⟨isMac, Flow.ext_place place ?_⟩
    have services : ToServices (fromMac lport.uniqueKey packet.ethSrc) := by
      simp [ToServices, fromMac]
    rw [isEntry, place]
    unfold entryAt admitFlow low
    rw [if_pos services]
  · have had := (addLocalPort_keeps (fun _ isFor => isFor) _ flow isFor).mp has
    have notOther : ¬ ForOthers tables lport.uniqueKey flow.place := by
      rintro ⟨other, different, -, isKey⟩
      have covered := found.reg6
      have isKey : flow.pattern.reg6 = some (.exact other) := isKey
      rw [isKey, FieldMatch.coversField_exact] at covered
      exact different (covered.trans isFrom)
    exact Or.inl (matching_initial plain found
      ((history_sameOutside others flow notOther).mp had))

end Added

/-! ## The verdict -/

/-- The address of the port, and those of its allowed address pairs. -/
def configuredMacs (lport : LogicalPort) : List MacAddress :=
  lport.mac.toList ++ lport.allowedAddressPairs.map AddressPair.macAddress

/-- The main table sends the packet to the services if its source is one of the
addresses, and drops it otherwise. -/
def Judges (tables : Tables) (flows : Flows) (macs : List MacAddress) (packet : Packet) :
    Prop :=
  flows.Executes packet.Matches tables.main
    (if packet.ethSrc ∈ macs then goToTable tables.main tables.services else [])

/-- The addresses that are admitted are those of the port alone. -/
theorem judges_own {events : List Event}
    (others : ∀ event ∈ events, ∀ other ∈ event.keys, other ≠ lport.uniqueKey)
    (enabled : Enabled lport) (plain : Plain packet)
    (isFrom : packet.reg6.toNat = lport.uniqueKey) :
    Judges tables (after (addLocalPort tables lport) (history tables events))
      lport.mac.toList packet := by
  unfold Judges
  by_cases isMac : lport.mac = some packet.ethSrc
  · rw [if_pos (Option.mem_toList.mpr isMac)]
    have admits : packet.Matches (fromMac lport.uniqueKey packet.ethSrc) := by
      simp [Packet.Matches, Pattern.covers, fromMac, Packet.pattern, isFrom]
    have selected : FlowTable.Selects
        (after (addLocalPort tables lport) (history tables events)) packet.Matches
        tables.main (admitFlow tables lport.uniqueKey packet.ethSrc) := by
      refine ⟨added_has_admitFlow others enabled isMac, rfl, admits, ?_⟩
      intro other has _ found
      rcases added_matching others enabled plain isFrom has found with
        rfl | ⟨-, rfl⟩
      · exact Nat.le_of_lt (show Const.priorityVeryLow < Const.priorityLow by decide)
      · exact Nat.le_refl _
    apply selected.executes
    intro other has _ found samePriority
    rcases added_matching others enabled plain isFrom has found with rfl | ⟨-, rfl⟩
    · exact absurd samePriority (show Const.priorityVeryLow ≠ Const.priorityLow by decide)
    · rfl
  · rw [if_neg fun member => isMac (Option.mem_toList.mp member)]
    have only : ∀ other,
        (after (addLocalPort tables lport) (history tables events)).Has other →
        other.table = tables.main → packet.Matches other.pattern →
        other = defaultDrop tables := by
      intro other has _ found
      rcases added_matching others enabled plain isFrom has found with
        isDrop | ⟨isOwn, -⟩
      · exact isDrop
      · exact absurd isOwn isMac
    have selected : FlowTable.Selects
        (after (addLocalPort tables lport) (history tables events)) packet.Matches
        tables.main (defaultDrop tables) := by
      refine ⟨added_has_defaultDrop others, rfl, Packet.matches_any, ?_⟩
      intro other has inTable found
      rw [only other has inTable found]
    apply selected.executes
    intro other has inTable found _
    rw [only other has inTable found]

/-- Packets from the other addresses of pairs are dropped. -/
theorem not_judges_pair {events : List Event}
    (others : ∀ event ∈ events, ∀ other ∈ event.keys, other ≠ lport.uniqueKey)
    (enabled : Enabled lport) (plain : Plain packet)
    (isFrom : packet.reg6.toNat = lport.uniqueKey)
    (isPair : packet.ethSrc ∈ lport.allowedAddressPairs.map AddressPair.macAddress)
    (different : lport.mac ≠ some packet.ethSrc) :
    ¬ Judges tables (after (addLocalPort tables lport) (history tables events))
      (configuredMacs lport) packet := by
  intro judges
  have own : Judges tables (after (addLocalPort tables lport) (history tables events))
      lport.mac.toList packet := judges_own others enabled plain isFrom
  have isConfigured : packet.ethSrc ∈ configuredMacs lport :=
    List.mem_append_right _ isPair
  unfold Judges at own judges
  rw [if_neg fun member => different (Option.mem_toList.mp member)] at own
  rw [if_pos isConfigured] at judges
  have same := judges.unique own
  unfold goToTable at same
  split at same <;> cases same

/-- A packet is judged by the configured addresses unless it comes from the address of
a pair that is not that of the port. -/
theorem portsec_admits_configured_iff (tables : Tables) (events : List Event)
    (lport : LogicalPort) (packet : Packet) (enabled : Enabled lport)
    (others : ∀ event ∈ events, ∀ other ∈ event.keys, other ≠ lport.uniqueKey)
    (isFrom : packet.reg6.toNat = lport.uniqueKey) (plain : Plain packet) :
    Judges tables (after (addLocalPort tables lport) (history tables events))
        (configuredMacs lport) packet ↔
      (packet.ethSrc ∈ lport.allowedAddressPairs.map AddressPair.macAddress →
        lport.mac = some packet.ethSrc) := by
  constructor
  · intro judges isPair
    by_contra different
    exact not_judges_pair others enabled plain isFrom isPair different judges
  · intro condition
    have sameMacs : packet.ethSrc ∈ configuredMacs lport ↔
        packet.ethSrc ∈ lport.mac.toList := by
      unfold configuredMacs
      rw [List.mem_append, or_iff_left_iff_imp]
      exact fun isPair => Option.mem_toList.mpr (condition isPair)
    unfold Judges
    simp only [sameMacs]
    exact judges_own others enabled plain isFrom

/-- A port with an allowed address pair of another address. -/
def pairPort : LogicalPort :=
  { vmPort with allowedAddressPairs := [⟨.v4 0x0a000009, 0xfa163e000002⟩] }

/-- A packet that is neither IP nor ARP. -/
def lldpPacket (ethSrc : MacAddress) : Packet where
  reg6 := 7
  ethSrc
  ethDst := 0x0180c200000e
  ethType := some 0x88cc

theorem plain_lldpPacket (ethSrc : MacAddress) : Plain (lldpPacket ethSrc) := by
  simp [Plain, lldpPacket]

theorem portsec_admits_configured_own :
    Judges someTables (after (addLocalPort someTables pairPort)
        (history someTables [.added { vmPort with uniqueKey := 8 }]))
      (configuredMacs pairPort) (lldpPacket 0xfa163e000001) :=
  (portsec_admits_configured_iff someTables [.added { vmPort with uniqueKey := 8 }] pairPort
    (lldpPacket 0xfa163e000001) rfl (by decide) rfl (plain_lldpPacket _)).mpr
    (by decide)

/-- A packet from the address of the pair is dropped. -/
theorem portsec_drops_pair :
    ¬ Judges someTables (after (addLocalPort someTables pairPort) (history someTables []))
      (configuredMacs pairPort) (lldpPacket 0xfa163e000002) :=
  not_judges_pair (by simp) rfl (plain_lldpPacket _) rfl (by decide) (by decide)

end PortSecApp

end Dragonflow
