import Dragonflow.Controller.Apps.PortSec

/-! # The flows of port security

The place of a flow says where the flow leads, so that the flows of a port are a
set of places. An update changes this set as it should unless it uninstalls the
flows of the port's own address.
-/

namespace Dragonflow

open Program FlowTable

namespace PortSecApp

abbrev FlowPlace := Place OFPMatch

variable {tables : Tables} {flows : Flows} {key : Nat} {places : Set FlowPlace}

/-! ## Where the flows lead -/

/-- Address resolution, and packets of which only the address is known. -/
def ToServices (pattern : OFPMatch) : Prop :=
  pattern.arpSha ≠ none ∨ pattern.ipProto = some (.exact 58) ∨
    (pattern.ethSrc ≠ none ∧ pattern.ethType = none)

instance (pattern : OFPMatch) : Decidable (ToServices pattern) :=
  inferInstanceAs (Decidable (_ ∨ _ ∨ _))

def entryAt (tables : Tables) (place : FlowPlace) : FlowEntry Instruction :=
  ⟨0, goToTable tables.main
    (if ToServices place.2.2 then tables.services else tables.default)⟩

/-- The places of the flows for the key of a port. -/
def ForKey (tables : Tables) (key : Nat) (place : FlowPlace) : Prop :=
  place.1 = tables.main ∧ place.2.2.reg6 = some (.exact key)

/-- The flows for a key are those of the places. -/
abbrev Secured (tables : Tables) (key : Nat) (flows : Flows)
    (places : Set FlowPlace) : Prop :=
  flows.Lodges (ForKey tables key) (entryAt tables) places

def high (tables : Tables) (pattern : OFPMatch) : FlowPlace :=
  (tables.main, Const.priorityHigh, pattern)

def low (tables : Tables) (pattern : OFPMatch) : FlowPlace :=
  (tables.main, Const.priorityLow, pattern)

theorem addFlowGoToTable_leads {priority target : Nat} {pattern : OFPMatch}
    (leads : (if ToServices pattern then tables.services else tables.default) = target)
    (secured : Secured tables key flows places) :
    Leads (addFlowGoToTable tables priority target pattern) flows
      (fun _ after =>
        Secured tables key after (insert (tables.main, priority, pattern) places))
      fun _ _ => False := by
  rw [addFlowGoToTable, modFlow, leads_modify]
  refine secured.add rfl ?_
  rw [← leads]
  rfl

theorem removeOnePortSecurityFlow_leads {priority : Nat} {pattern : OFPMatch}
    (secured : Secured tables key flows places) :
    Leads (removeOnePortSecurityFlow tables priority pattern) flows
      (fun _ after =>
        Secured tables key after (places \ {(tables.main, priority, pattern)}))
      fun _ _ => False := by
  rw [removeOnePortSecurityFlow, modFlow, leads_modify]
  exact secured.deleteStrict rfl rfl (OFPMatch.covers_self _)

/-! ## The families -/

def pairPlaces (tables : Tables) (key : Nat) (pair : AddressPair) : Set FlowPlace :=
  {high tables (getIpMatchObj key pair.macAddress pair.ipAddress),
    high tables (resolutionMatch key pair.macAddress pair.ipAddress)}

def macPlaces (tables : Tables) (key : Nat) (mac : MacAddress) : Set FlowPlace :=
  {low tables (fromMac key mac)}

def vmPlaces (tables : Tables) (key : Nat) (vmMac : MacAddress) : Set FlowPlace :=
  {high tables (dhcpMatch key vmMac 68 67), high tables (dhcpv6Match key vmMac 546 547),
    high tables (arpProbeMatch key vmMac), high tables (getNdMatchObject key vmMac 0)}

def disabledPlaces (tables : Tables) (key : Nat) : Set FlowPlace :=
  {high tables (anyMacMatch key)}

/-- What one of the items allows. -/
def allowed {α : Type} (items : List α) (family : α → Set FlowPlace) : Set FlowPlace :=
  {place | ∃ item ∈ items, place ∈ family item}

theorem not_toServices_ip (mac : MacAddress) (ip : IPAddress) :
    ¬ ToServices (getIpMatchObj key mac ip) := by
  unfold getIpMatchObj
  split
  · cases ip <;> simp [ToServices, fromMac]
  · simp [ToServices, fromMac]

theorem toServices_resolution (mac : MacAddress) (ip : IPAddress) :
    ToServices (resolutionMatch key mac ip) := by
  cases ip with
  | v4 bits => exact Or.inl (by simp [resolutionMatch, getArpMatchObj])
  | v6 bits => exact Or.inr (Or.inl rfl)

theorem installPair_leads (pair : AddressPair)
    (secured : Secured tables key flows places) :
    Leads (installFlowsCheckValidIpAndMac tables key pair) flows
      (fun _ after => Secured tables key after (places ∪ pairPlaces tables key pair))
      fun _ _ => False := by
  rw [installFlowsCheckValidIpAndMac, leads_bind]
  refine (addFlowGoToTable_leads (if_neg (not_toServices_ip _ _)) secured).mono ?_
    fun _ _ no => no
  intro _ middle first
  refine (addFlowGoToTable_leads (if_pos (toServices_resolution _ _)) first).mono ?_
    fun _ _ no => no
  intro _ after second
  have same : insert (high tables (resolutionMatch key pair.macAddress pair.ipAddress))
      (insert (high tables (getIpMatchObj key pair.macAddress pair.ipAddress)) places) =
        places ∪ pairPlaces tables key pair := by
    ext place
    simp only [pairPlaces, Set.mem_insert_iff, Set.mem_union, Set.mem_singleton_iff]
    grind
  exact same ▸ second

theorem uninstallPair_leads (pair : AddressPair)
    (secured : Secured tables key flows places) :
    Leads (uninstallFlowsCheckValidIpAndMac tables key pair) flows
      (fun _ after => Secured tables key after (places \ pairPlaces tables key pair))
      fun _ _ => False := by
  rw [uninstallFlowsCheckValidIpAndMac, leads_bind]
  refine (removeOnePortSecurityFlow_leads secured).mono ?_ fun _ _ no => no
  intro _ middle first
  refine (removeOnePortSecurityFlow_leads first).mono ?_ fun _ _ no => no
  intro _ after second
  rw [Set.sdiff_sdiff] at second
  exact second

theorem installMac_leads (mac : MacAddress) (secured : Secured tables key flows places) :
    Leads (installFlowsCheckValidMac tables key mac) flows
      (fun _ after => Secured tables key after (places ∪ macPlaces tables key mac))
      fun _ _ => False := by
  have services : ToServices (fromMac key mac) := by simp [ToServices, fromMac]
  refine (addFlowGoToTable_leads (if_pos services) secured).mono ?_ fun _ _ no => no
  intro _ after installed
  rwa [macPlaces, Set.union_singleton]

theorem installVm_leads (vmMac : MacAddress) (secured : Secured tables key flows places) :
    Leads (installFlowsCheckOnlyVmMac tables key (some vmMac)) flows
      (fun _ after => Secured tables key after (places ∪ vmPlaces tables key vmMac))
      fun _ _ => False := by
  have dhcp : ¬ ToServices (dhcpMatch key vmMac 68 67) := by
    simp [ToServices, dhcpMatch, fromMac]
  have dhcpv6 : ¬ ToServices (dhcpv6Match key vmMac 546 547) := by
    simp [ToServices, dhcpv6Match, fromMac]
  have probe : ToServices (arpProbeMatch key vmMac) :=
    Or.inl (by simp [arpProbeMatch, getArpMatchObj])
  have discovery : ToServices (getNdMatchObject key vmMac 0) := Or.inr (Or.inl rfl)
  rw [installFlowsCheckOnlyVmMac, leads_bind]
  refine (addFlowGoToTable_leads (if_neg dhcp) secured).mono ?_ fun _ _ no => no
  intro _ _ first
  rw [leads_bind]
  refine (addFlowGoToTable_leads (if_neg dhcpv6) first).mono ?_ fun _ _ no => no
  intro _ _ second
  rw [leads_bind]
  refine (addFlowGoToTable_leads (if_pos probe) second).mono ?_ fun _ _ no => no
  intro _ _ third
  refine (addFlowGoToTable_leads (if_pos discovery) third).mono ?_ fun _ _ no => no
  intro _ after fourth
  have same : insert (high tables (getNdMatchObject key vmMac 0))
      (insert (high tables (arpProbeMatch key vmMac))
        (insert (high tables (dhcpv6Match key vmMac 546 547))
          (insert (high tables (dhcpMatch key vmMac 68 67)) places))) =
        places ∪ vmPlaces tables key vmMac := by
    ext place
    simp only [vmPlaces, Set.mem_insert_iff, Set.mem_union, Set.mem_singleton_iff]
    grind
  exact same ▸ fourth

/-! ## Loops -/

theorem install_loop {α : Type} {body : α → Action Unit} {family : α → Set FlowPlace}
    (each : ∀ item flows places, Secured tables key flows places →
      Leads (body item) flows
        (fun _ after => Secured tables key after (places ∪ family item))
        fun _ _ => False)
    (items : List α) (secured : Secured tables key flows places) :
    Leads (forM items body) flows
      (fun _ after => Secured tables key after (places ∪ allowed items family))
      fun _ _ => False := by
  induction items generalizing flows places with
  | nil =>
      have same : places ∪ allowed [] family = places := by
        ext place
        simp [allowed]
      exact same.symm ▸ secured
  | cons item items induction =>
      rw [List.forM_cons, leads_bind]
      refine (each item flows places secured).mono ?_ fun _ _ no => no
      intro _ middle first
      refine (induction first).mono ?_ fun _ _ no => no
      intro _ after rest
      have same : places ∪ family item ∪ allowed items family =
          places ∪ allowed (item :: items) family := by
        ext place
        simp [allowed, or_assoc]
      exact same ▸ rest

theorem uninstall_loop {α : Type} {body : α → Action Unit} {family : α → Set FlowPlace}
    (each : ∀ item flows places, Secured tables key flows places →
      Leads (body item) flows
        (fun _ after => Secured tables key after (places \ family item))
        fun _ _ => False)
    (items : List α) (secured : Secured tables key flows places) :
    Leads (forM items body) flows
      (fun _ after => Secured tables key after (places \ allowed items family))
      fun _ _ => False := by
  induction items generalizing flows places with
  | nil =>
      have same : places \ allowed [] family = places := by
        ext place
        simp [allowed]
      exact same.symm ▸ secured
  | cons item items induction =>
      rw [List.forM_cons, leads_bind]
      refine (each item flows places secured).mono ?_ fun _ _ no => no
      intro _ middle first
      refine (induction first).mono ?_ fun _ _ no => no
      intro _ after rest
      have same : (places \ family item) \ allowed items family =
          places \ allowed (item :: items) family := by
        ext place
        simp [allowed, and_assoc]
      exact same ▸ rest

/-! ## Whole ports -/

/-- The flows that a port needs. -/
def portPlaces (tables : Tables) (lport : LogicalPort) : Set FlowPlace :=
  if Enabled lport then
    allowed (getAllowIpMacPairs lport) (pairPlaces tables lport.uniqueKey) ∪
      allowed lport.mac.toList (macPlaces tables lport.uniqueKey) ∪
      allowed lport.mac.toList (vmPlaces tables lport.uniqueKey)
  else disabledPlaces tables lport.uniqueKey

theorem installPortSecurityFlows_leads (lport : LogicalPort)
    (secured : Secured tables lport.uniqueKey flows places) :
    Leads (installPortSecurityFlows tables lport) flows
      (fun _ after => Secured tables lport.uniqueKey after (places ∪
        (allowed (getAllowIpMacPairs lport) (pairPlaces tables lport.uniqueKey) ∪
          allowed lport.mac.toList (macPlaces tables lport.uniqueKey) ∪
          allowed lport.mac.toList (vmPlaces tables lport.uniqueKey))))
      (fun _ after => lport.mac = none ∧ Secured tables lport.uniqueKey after (places ∪
        (allowed (getAllowIpMacPairs lport) (pairPlaces tables lport.uniqueKey) ∪
          allowed lport.mac.toList (macPlaces tables lport.uniqueKey) ∪
          allowed lport.mac.toList (vmPlaces tables lport.uniqueKey)))) := by
  rw [installPortSecurityFlows, leads_bind]
  refine (install_loop (fun pair _ _ => installPair_leads pair) _ secured).mono ?_
    fun _ _ no => no.elim
  intro _ _ pairs
  rw [leads_bind]
  refine (install_loop (fun mac _ _ => installMac_leads mac) _ pairs).mono ?_
    fun _ _ no => no.elim
  intro _ _ macs
  cases isMac : lport.mac with
  | none =>
      refine ⟨rfl, ?_⟩
      have same : allowed (none : Option MacAddress).toList
          (vmPlaces tables lport.uniqueKey) = ∅ := by
        ext place
        simp [allowed]
      rw [same, Set.union_empty, ← Set.union_assoc]
      simpa only [getAllowMacs, isMac] using macs
  | some vmMac =>
      refine (installVm_leads vmMac macs).mono ?_ fun _ _ no => no.elim
      intro _ after vm
      have same : allowed (some vmMac).toList (vmPlaces tables lport.uniqueKey) =
          vmPlaces tables lport.uniqueKey vmMac := by
        ext place
        simp [allowed]
      rw [same, ← Set.union_assoc, ← Set.union_assoc]
      simpa only [getAllowMacs, isMac] using vm

/-- Without an address, there are only the allowed address pairs to uninstall. -/
theorem uninstallPortSecurityFlows_leads {lport : LogicalPort}
    (secured : Secured tables lport.uniqueKey flows places) (noMac : lport.mac = none) :
    Leads (uninstallPortSecurityFlows tables lport) flows (fun _ _ => False)
      fun _ after => Secured tables lport.uniqueKey after
        (places \ allowed (getAllowIpMacPairs lport) (pairPlaces tables lport.uniqueKey)) := by
  rw [uninstallPortSecurityFlows, leads_bind]
  refine (uninstall_loop (fun pair _ _ => uninstallPair_leads pair) _ secured).mono ?_
    fun _ _ no => no.elim
  intro _ _ pairs
  rw [leads_bind, getAllowMacs, noMac]
  exact pairs

/-! ## Which places coincide -/

theorem fromMac_injective {mac other : MacAddress}
    (same : (fromMac key mac).ethSrc = (fromMac key other).ethSrc) : mac = other := by
  simp only [fromMac, Option.some.injEq, FieldMatch.exact.injEq] at same
  exact BitVec.eq_of_toNat_eq same

theorem ethSrc_ip (mac : MacAddress) (ip : IPAddress) :
    (getIpMatchObj key mac ip).ethSrc = (fromMac key mac).ethSrc := by
  unfold getIpMatchObj
  split
  · cases ip <;> rfl
  · rfl

theorem ethSrc_resolution (mac : MacAddress) (ip : IPAddress) :
    (resolutionMatch key mac ip).ethSrc = (fromMac key mac).ethSrc := by
  cases ip <;> rfl

theorem ip_match_plain (mac : MacAddress) (ip : IPAddress) :
    (getIpMatchObj key mac ip).ipProto = none ∧ (getIpMatchObj key mac ip).arpOp = none := by
  unfold getIpMatchObj
  split
  · cases ip <;> exact ⟨rfl, rfl⟩
  · exact ⟨rfl, rfl⟩

theorem ip_match_eq {mac other : MacAddress} {ip otherIp : IPAddress}
    (same : getIpMatchObj key mac ip = getIpMatchObj key other otherIp) :
    mac = other ∧ (ip = otherIp ∨ (¬ ip.Specified ∧ ¬ otherIp.Specified)) := by
  constructor
  · have sameSource := congrArg OFPMatch.ethSrc same
    rw [ethSrc_ip, ethSrc_ip] at sameSource
    exact fromMac_injective sameSource
  · unfold getIpMatchObj at same
    by_cases specified : ip.Specified <;> by_cases otherSpecified : otherIp.Specified
    · rw [if_pos specified, if_pos otherSpecified] at same
      cases ip <;> cases otherIp <;>
        simp [fromMac, Const.ethTypeIp, Const.ethTypeIpv6] at same
      · exact Or.inl (congrArg IPAddress.v4 (BitVec.eq_of_toNat_eq same.2))
      · exact Or.inl (congrArg IPAddress.v6 (BitVec.eq_of_toNat_eq same.2))
    · rw [if_pos specified, if_neg otherSpecified] at same
      cases ip <;> simp [fromMac] at same
    · rw [if_neg specified, if_pos otherSpecified] at same
      cases otherIp <;> simp [fromMac] at same
    · exact Or.inr ⟨specified, otherSpecified⟩

theorem resolution_match_eq {mac other : MacAddress} {ip otherIp : IPAddress}
    (same : resolutionMatch key mac ip = resolutionMatch key other otherIp) :
    mac = other ∧ ip = otherIp := by
  constructor
  · have sameSource := congrArg OFPMatch.ethSrc same
    rw [ethSrc_resolution, ethSrc_resolution] at sameSource
    exact fromMac_injective sameSource
  · cases ip with
    | v4 bits =>
        cases otherIp with
        | v4 others =>
            have sameBits := congrArg OFPMatch.arpSpa same
            simp only [resolutionMatch, getArpMatchObj, Option.some.injEq,
              FieldMatch.exact.injEq] at sameBits
            exact congrArg IPAddress.v4 (BitVec.eq_of_toNat_eq sameBits)
        | v6 others => exact absurd (congrArg OFPMatch.arpSpa same) (by
            simp [resolutionMatch, getArpMatchObj, getNdMatchObject, fromMac])
    | v6 bits =>
        cases otherIp with
        | v4 others => exact absurd (congrArg OFPMatch.arpSpa same) (by
            simp [resolutionMatch, getArpMatchObj, getNdMatchObject, fromMac])
        | v6 others =>
            have sameBits := congrArg OFPMatch.ipv6Src same
            simp only [resolutionMatch, getNdMatchObject] at sameBits
            refine congrArg IPAddress.v6 ?_
            by_cases zero : bits = 0 <;> by_cases otherZero : others = 0
            · rw [zero, otherZero]
            · rw [if_pos zero, if_neg otherZero] at sameBits
              cases sameBits
            · rw [if_neg zero, if_pos otherZero] at sameBits
              cases sameBits
            · simp only [zero, otherZero, if_false, Option.some.injEq,
                FieldMatch.exact.injEq] at sameBits
              exact BitVec.eq_of_toNat_eq sameBits

theorem ip_ne_resolution (mac other : MacAddress) (ip otherIp : IPAddress) :
    getIpMatchObj key mac ip ≠ resolutionMatch key other otherIp := by
  intro same
  have toServices : ToServices (resolutionMatch key other otherIp) :=
    toServices_resolution other otherIp
  rw [← same] at toServices
  exact not_toServices_ip mac ip toServices

theorem high_eq {pattern other : OFPMatch}
    (same : high tables pattern = high tables other) : pattern = other := by
  cases same
  rfl

/-- Only the unspecified addresses `0.0.0.0` and `::` share a place. -/
theorem pairPlaces_meet {place : FlowPlace} {pair other : AddressPair}
    (isPair : place ∈ pairPlaces tables key pair)
    (isOther : place ∈ pairPlaces tables key other) :
    pair = other ∨ (pair.macAddress = other.macAddress ∧ ¬ pair.ipAddress.Specified ∧
      ¬ other.ipAddress.Specified) := by
  have ext : pair.macAddress = other.macAddress → pair.ipAddress = other.ipAddress →
      pair = other := by
    rcases pair with ⟨ip, mac⟩
    rcases other with ⟨otherIp, otherMac⟩
    rintro rfl rfl
    rfl
  rcases isPair with isIp | isResolution <;>
    rcases isOther with otherIp | otherResolution
  · rcases ip_match_eq (high_eq (isIp.symm.trans otherIp)) with ⟨mac, same | unspecified⟩
    · exact Or.inl (ext mac same)
    · exact Or.inr ⟨mac, unspecified⟩
  · exact absurd (high_eq (isIp.symm.trans otherResolution)) (ip_ne_resolution _ _ _ _)
  · exact absurd (high_eq (otherIp.symm.trans isResolution)) (ip_ne_resolution _ _ _ _)
  · rcases resolution_match_eq (high_eq (isResolution.symm.trans otherResolution)) with
      ⟨mac, same⟩
    exact Or.inl (ext mac same)

theorem pairPlaces_high {place : FlowPlace} {pair : AddressPair}
    (isPair : place ∈ pairPlaces tables key pair) :
    place.2.1 = Const.priorityHigh ∧ place.2.2.ethSrc ≠ none := by
  rcases isPair with rfl | rfl
  · refine ⟨rfl, ?_⟩
    simp [high, ethSrc_ip, fromMac]
  · refine ⟨rfl, ?_⟩
    simp [high, ethSrc_resolution, fromMac]

theorem pairPlaces_mac {place : FlowPlace} {pair : AddressPair} {mac : MacAddress}
    (isPair : place ∈ pairPlaces tables key pair) :
    place ∉ macPlaces tables key mac := by
  rintro rfl
  have different : Const.priorityLow ≠ Const.priorityHigh := by decide
  exact different (pairPlaces_high isPair).1

/-- A pair with `::` shares a place with the flows of the port's own address. -/
theorem pairPlaces_vm {place : FlowPlace} {pair : AddressPair} {vmMac : MacAddress}
    (isPair : place ∈ pairPlaces tables key pair)
    (isVm : place ∈ vmPlaces tables key vmMac) :
    pair.macAddress = vmMac ∧ pair.ipAddress = .v6 0 := by
  have notIp : ∀ pattern : OFPMatch, place = high tables pattern →
      (pattern.ipProto ≠ none ∨ pattern.arpOp ≠ none) →
        place = high tables (resolutionMatch key pair.macAddress pair.ipAddress) := by
    rintro pattern rfl distinctive
    rcases isPair with isIp | isResolution
    · rw [high_eq isIp, (ip_match_plain _ _).1, (ip_match_plain _ _).2] at distinctive
      simp at distinctive
    · exact isResolution
  have fields : ∀ pattern : OFPMatch,
      pattern = resolutionMatch key pair.macAddress pair.ipAddress →
        pattern.udpSrc = none ∧ pattern.arpOp = none := by
    rintro pattern rfl
    cases pair.ipAddress <;> exact ⟨rfl, rfl⟩
  rcases isVm with isVm | isVm | isVm | isVm
  · have same := notIp _ isVm (Or.inl (by simp [dhcpMatch]))
    have impossible := (fields _ (high_eq (isVm.symm.trans same))).1
    simp [dhcpMatch] at impossible
  · have same := notIp _ isVm (Or.inl (by simp [dhcpv6Match]))
    have impossible := (fields _ (high_eq (isVm.symm.trans same))).1
    simp [dhcpv6Match] at impossible
  · have same := notIp _ isVm (Or.inr (by simp [arpProbeMatch, getArpMatchObj]))
    have impossible := (fields _ (high_eq (isVm.symm.trans same))).2
    simp [arpProbeMatch, getArpMatchObj] at impossible
  · have same := notIp _ isVm (Or.inl (by simp [getNdMatchObject]))
    have isResolution : resolutionMatch key vmMac (.v6 0) =
        resolutionMatch key pair.macAddress pair.ipAddress :=
      high_eq (isVm.symm.trans same)
    rcases resolution_match_eq isResolution with ⟨mac, ip⟩
    exact ⟨mac.symm, ip.symm⟩

/-- The flow of a port without port security is none of the others. -/
theorem disabled_not_secured (lport : LogicalPort) (key : Nat) :
    high tables (anyMacMatch key) ∉
      allowed (getAllowIpMacPairs lport) (pairPlaces tables lport.uniqueKey) ∪
        allowed lport.mac.toList (macPlaces tables lport.uniqueKey) ∪
        allowed lport.mac.toList (vmPlaces tables lport.uniqueKey) := by
  rintro ((⟨pair, _, isPair⟩ | ⟨mac, _, isMac⟩) | ⟨vmMac, _, isVm⟩)
  · exact (pairPlaces_high isPair).2 rfl
  · have different : Const.priorityHigh ≠ Const.priorityLow := by decide
    exact different (congrArg (fun place => place.2.1) isMac)
  · rcases isVm with isVm | isVm | isVm | isVm
    all_goals
      have impossible := congrArg OFPMatch.ethSrc (high_eq isVm)
      cases impossible

/-! ## Updates -/

/-- The address of which the flows that only the port itself may use are
installed. -/
def guardedMac (lport : LogicalPort) : Option MacAddress :=
  if Enabled lport then lport.mac else none

/-- A pair with an unspecified address leaves only when no other flow has its
place. -/
def LeavesAlone (lport original : LogicalPort) : Prop :=
  ∀ removed ∈ getAllowIpMacPairs original, removed ∉ getAllowIpMacPairs lport →
    ¬ removed.ipAddress.Specified →
      (∀ kept ∈ getAllowIpMacPairs lport, kept.macAddress = removed.macAddress →
        kept.ipAddress.Specified) ∧
      (removed.ipAddress = .v6 0 → original.mac ≠ some removed.macAddress)

/-- Port security stays on and the address stays the same once both are there. A
port has an address when port security is turned on. -/
def Steady (original lport : LogicalPort) : Prop :=
  (guardedMac original ≠ none → guardedMac lport = guardedMac original) ∧
    (¬ Enabled original → Enabled lport → lport.mac ≠ none) ∧
    (Enabled original → Enabled lport → LeavesAlone lport original)

instance (original lport : LogicalPort) : Decidable (Steady original lport) :=
  have : Decidable (LeavesAlone lport original) :=
    inferInstanceAs (Decidable (∀ removed ∈ getAllowIpMacPairs original, _))
  inferInstanceAs (Decidable (_ ∧ _ ∧ _))

theorem allowed_none (family : MacAddress → Set FlowPlace) :
    allowed (none : Option MacAddress).toList family = ∅ := by
  ext place
  simp [allowed]

/-- What is kept of the pairs is what the new version allows. -/
theorem allowed_updated {lport original : LogicalPort}
    (alone : LeavesAlone lport original) :
    (allowed (getAllowIpMacPairs original) (pairPlaces tables key) ∪
        allowed (subtractLists (getAllowIpMacPairs lport)
          (getAllowIpMacPairs original)).1 (pairPlaces tables key)) \
      allowed (subtractLists (getAllowIpMacPairs lport)
        (getAllowIpMacPairs original)).2 (pairPlaces tables key) =
    allowed (getAllowIpMacPairs lport) (pairPlaces tables key) := by
  ext place
  simp only [Set.mem_sdiff, Set.mem_union, allowed, Set.mem_ofPred_eq, subtractLists,
    List.mem_filter, decide_eq_true_eq]
  constructor
  · rintro ⟨⟨pair, wasAllowed, isPair⟩ | ⟨pair, ⟨isAllowed, _⟩, isPair⟩, notRemoved⟩
    · refine ⟨pair, ?_, isPair⟩
      by_contra notAllowed
      exact notRemoved ⟨pair, ⟨wasAllowed, notAllowed⟩, isPair⟩
    · exact ⟨pair, isAllowed, isPair⟩
  · rintro ⟨pair, isAllowed, isPair⟩
    constructor
    · by_cases wasAllowed : pair ∈ getAllowIpMacPairs original
      · exact Or.inl ⟨pair, wasAllowed, isPair⟩
      · exact Or.inr ⟨pair, ⟨isAllowed, wasAllowed⟩, isPair⟩
    · rintro ⟨removed, ⟨wasAllowed, notAllowed⟩, isRemoved⟩
      rcases pairPlaces_meet isPair isRemoved with rfl | ⟨mac, unspecified, alike⟩
      · exact notAllowed isAllowed
      · exact unspecified ((alone removed wasAllowed notAllowed alike).1 pair isAllowed mac)

/-- The flows of the own address are not those of a pair that leaves. -/
theorem own_kept {lport original : LogicalPort} (alone : LeavesAlone lport original) :
    (allowed original.mac.toList (macPlaces tables key) ∪
        allowed original.mac.toList (vmPlaces tables key)) \
      allowed (subtractLists (getAllowIpMacPairs lport)
        (getAllowIpMacPairs original)).2 (pairPlaces tables key) =
    allowed original.mac.toList (macPlaces tables key) ∪
      allowed original.mac.toList (vmPlaces tables key) := by
  ext place
  refine ⟨fun kept => kept.1, fun isOwn => ⟨isOwn, ?_⟩⟩
  rintro ⟨removed, isRemoved, isPair⟩
  simp only [subtractLists, List.mem_filter, decide_eq_true_eq] at isRemoved
  rcases isOwn with ⟨mac, _, isMac⟩ | ⟨vmMac, isMac, isVm⟩
  · exact pairPlaces_mac isPair isMac
  · rcases pairPlaces_vm isPair isVm with ⟨sameMac, isZero⟩
    have unspecified : ¬ removed.ipAddress.Specified := by
      rw [isZero]
      exact fun specified => specified rfl
    refine (alone removed isRemoved.1 isRemoved.2 unspecified).2 isZero ?_
    rw [sameMac]
    exact Option.mem_toList.mp isMac

theorem subtractLists_self {α : Type} [DecidableEq α] (items : List α) :
    subtractLists items items = ([], []) := by
  unfold subtractLists
  rw [List.filter_eq_nil_iff.mpr fun item member => by simp [member]]

theorem updatePortSecurityFlows_leads {lport original : LogicalPort}
    (sameKey : lport.uniqueKey = original.uniqueKey)
    (enabled : Enabled lport) (wasEnabled : Enabled original)
    (steady : Steady original lport)
    (secured : Secured tables lport.uniqueKey flows (portPlaces tables original)) :
    Leads (updatePortSecurityFlows tables lport original) flows
      (fun _ after => Secured tables lport.uniqueKey after (portPlaces tables lport))
      fun _ after => Secured tables lport.uniqueKey after (portPlaces tables lport) := by
  have alone := steady.2.2 wasEnabled enabled
  rw [portPlaces, if_pos wasEnabled, ← sameKey, Set.union_assoc] at secured
  rw [portPlaces, if_pos enabled, updatePortSecurityFlows, leads_bind]
  refine (install_loop (fun pair _ _ => installPair_leads pair) _ secured).mono ?_
    fun _ _ no => no.elim
  intro _ _ added
  rw [leads_bind]
  refine (uninstall_loop (fun pair _ _ => uninstallPair_leads pair) _ added).mono ?_
    fun _ _ no => no.elim
  intro _ _ removed
  rw [Set.union_right_comm, Set.union_sdiff_distrib, allowed_updated alone,
    own_kept alone] at removed
  have kept : ∀ mac, original.mac = some mac → lport.mac = some mac := by
    intro mac isMac
    have guarded := steady.1
    rw [guardedMac, guardedMac, if_pos wasEnabled, if_pos enabled, isMac] at guarded
    exact guarded (by simp)
  cases had : original.mac with
  | some mac =>
      -- the address is the same, so that only pairs have changed
      rw [had] at removed
      have same := kept mac had
      simp only [getAllowMacs, same, had, subtractLists_self, List.forM_nil, updateVmMac,
        ne_eq, not_true_eq_false, if_false]
      rw [Set.union_assoc]
      exact removed
  | none =>
      -- there was no address, and nothing that only the port itself may use
      rw [had, allowed_none, allowed_none, Set.union_empty, Set.union_empty] at removed
      have fresh : (subtractLists (getAllowMacs lport) (getAllowMacs original)) =
          (lport.mac.toList, []) := by
        simp [getAllowMacs, had, subtractLists]
      rw [fresh, leads_bind]
      refine (install_loop (fun mac _ _ => installMac_leads mac) _ removed).mono ?_
        fun _ _ no => no.elim
      intro _ _ macs
      rw [leads_bind]
      change Leads (updateVmMac _ _ _ _) _ _ _
      rw [updateVmMac]
      cases isMac : lport.mac with
      | none =>
          rw [if_neg (fun different => different rfl)]
          simp only [isMac, allowed_none, Set.union_empty] at macs ⊢
          exact macs
      | some vmMac =>
          rw [if_pos (by simp), leads_bind]
          refine (installVm_leads vmMac macs).mono ?_ fun _ _ no => no.elim
          intro _ _ vm
          have same : allowed (some vmMac).toList (vmPlaces tables lport.uniqueKey) =
              vmPlaces tables lport.uniqueKey vmMac := by
            ext place
            simp [allowed]
          rw [isMac] at vm
          rw [same]
          exact vm

theorem installDisableFlow_leads (lport : LogicalPort)
    (secured : Secured tables key flows places) :
    Leads (installDisableFlow tables lport) flows
      (fun _ after => Secured tables key after
        (places ∪ disabledPlaces tables lport.uniqueKey))
      fun _ _ => False := by
  have toDefault : ¬ ToServices (anyMacMatch lport.uniqueKey) := by
    simp [ToServices, anyMacMatch]
  refine (addFlowGoToTable_leads (if_neg toDefault) secured).mono ?_ fun _ _ no => no
  intro _ after installed
  rwa [disabledPlaces, Set.union_singleton]

theorem uninstallDisableFlow_leads (lport : LogicalPort)
    (secured : Secured tables key flows places) :
    Leads (uninstallDisableFlow tables lport) flows
      (fun _ after => Secured tables key after
        (places \ disabledPlaces tables lport.uniqueKey))
      fun _ _ => False :=
  removeOnePortSecurityFlow_leads secured

/-- A port with port security but without an address. -/
theorem portPlaces_without_mac {lport : LogicalPort} (enabled : Enabled lport)
    (noMac : lport.mac = none) : portPlaces tables lport =
      allowed (getAllowIpMacPairs lport) (pairPlaces tables lport.uniqueKey) := by
  rw [portPlaces, if_pos enabled, noMac, allowed_none, allowed_none, Set.union_empty,
    Set.union_empty]

theorem disabledPlaces_apart {lport : LogicalPort} (enabled : Enabled lport) :
    portPlaces tables lport \ disabledPlaces tables key = portPlaces tables lport := by
  rw [disabledPlaces, portPlaces, if_pos enabled]
  exact Set.sdiff_singleton_eq_self (disabled_not_secured lport key)

theorem Secured.of_leads {handler : Action Unit}
    (leads : Leads handler flows (fun _ after => Secured tables key after places)
      fun _ after => Secured tables key after places) :
    Secured tables key (after handler flows) places := by
  unfold after
  rcases executed : exec handler flows with ⟨error | value, reached⟩
  · exact leads.of_error executed
  · exact leads.of_ok executed

theorem addLocalPort_secured (lport : LogicalPort)
    (secured : Secured tables lport.uniqueKey flows ∅) :
    Secured tables lport.uniqueKey (after (addLocalPort tables lport) flows)
      (portPlaces tables lport) := by
  refine Secured.of_leads ?_
  rw [addLocalPort, portPlaces]
  by_cases enabled : Enabled lport
  · rw [if_pos enabled, if_pos enabled]
    have leads := installPortSecurityFlows_leads lport secured
    rw [Set.empty_union] at leads
    exact leads.mono (fun _ _ installed => installed) fun _ _ raised => raised.2
  · rw [if_neg enabled, if_neg enabled]
    have leads := installDisableFlow_leads lport secured
    rw [Set.empty_union] at leads
    exact leads.returning

theorem updateLocalPort_secured {lport original : LogicalPort}
    (sameKey : lport.uniqueKey = original.uniqueKey) (steady : Steady original lport)
    (secured : Secured tables lport.uniqueKey flows (portPlaces tables original)) :
    Secured tables lport.uniqueKey (after (updateLocalPort tables lport original) flows)
      (portPlaces tables lport) := by
  refine Secured.of_leads ?_
  unfold updateLocalPort
  by_cases enabled : Enabled lport <;> by_cases wasEnabled : Enabled original
  · rw [if_pos enabled, if_pos wasEnabled]
    exact updatePortSecurityFlows_leads sameKey enabled wasEnabled steady secured
  · rw [if_pos enabled, if_neg wasEnabled, leads_bind]
    rw [portPlaces, if_neg wasEnabled, ← sameKey] at secured
    refine (installPortSecurityFlows_leads lport secured).mono ?_
      fun _ _ raised => absurd raised.1 (steady.2.1 wasEnabled enabled)
    intro _ _ installed
    refine (uninstallDisableFlow_leads original installed).returning.mono ?_
      fun _ _ removed => removed
    intro _ _ removed
    have wanted : portPlaces tables lport =
        allowed (getAllowIpMacPairs lport) (pairPlaces tables lport.uniqueKey) ∪
          allowed lport.mac.toList (macPlaces tables lport.uniqueKey) ∪
          allowed lport.mac.toList (vmPlaces tables lport.uniqueKey) := if_pos enabled
    rw [← wanted, ← sameKey, Set.union_sdiff_left, disabledPlaces_apart enabled] at removed
    exact removed
  · rw [if_neg enabled, if_pos wasEnabled, leads_bind]
    have noMac : original.mac = none := by
      by_contra hasMac
      have guarded := steady.1
      rw [guardedMac, guardedMac, if_pos wasEnabled, if_neg enabled] at guarded
      exact hasMac (guarded hasMac).symm
    refine (installDisableFlow_leads lport secured).mono ?_ fun _ _ no => no.elim
    intro _ _ installed
    rw [sameKey] at installed
    refine (uninstallPortSecurityFlows_leads installed noMac).mono
      (fun _ _ no => no.elim) ?_
    intro _ _ removed
    have wanted : portPlaces tables lport = disabledPlaces tables original.uniqueKey := by
      rw [portPlaces, if_neg enabled, sameKey]
    rw [← portPlaces_without_mac wasEnabled noMac, Set.union_sdiff_left, ← wanted] at removed
    have apart : portPlaces tables lport \ portPlaces tables original =
        portPlaces tables lport := by
      ext place
      refine ⟨fun kept => kept.1, fun isDisabled => ⟨isDisabled, fun isOriginal => ?_⟩⟩
      rw [← disabledPlaces_apart wasEnabled, ← wanted] at isOriginal
      exact isOriginal.2 isDisabled
    rw [apart] at removed
    rwa [sameKey]
  · rw [if_neg enabled, if_neg wasEnabled]
    rw [portPlaces, if_neg wasEnabled, ← sameKey] at secured
    rw [portPlaces, if_neg enabled]
    exact secured

theorem removeLocalPort_secured {lport : LogicalPort} (unguarded : guardedMac lport = none)
    (secured : Secured tables lport.uniqueKey flows (portPlaces tables lport)) :
    Secured tables lport.uniqueKey (after (removeLocalPort tables lport) flows) ∅ := by
  refine Secured.of_leads ?_
  unfold removeLocalPort
  by_cases enabled : Enabled lport
  · have noMac : lport.mac = none := by rwa [guardedMac, if_pos enabled] at unguarded
    rw [if_pos enabled]
    have leads := uninstallPortSecurityFlows_leads secured noMac
    rw [portPlaces_without_mac enabled noMac, Set.sdiff_self] at leads
    exact leads.raising
  · rw [if_neg enabled]
    have leads := uninstallDisableFlow_leads lport secured
    rw [portPlaces, if_neg enabled, Set.sdiff_self] at leads
    exact leads.returning

theorem updates_secured (lport : LogicalPort) (versions : List LogicalPort)
    (sameKey : ∀ version ∈ versions, version.uniqueKey = lport.uniqueKey)
    (steady : (lport :: versions).IsChain Steady)
    (secured : Secured tables lport.uniqueKey flows (portPlaces tables lport)) :
    Secured tables lport.uniqueKey (updates tables lport versions flows)
      (portPlaces tables (lastVersion lport versions)) ∧
      (lastVersion lport versions).uniqueKey = lport.uniqueKey := by
  induction versions generalizing lport flows with
  | nil => exact ⟨secured, rfl⟩
  | cons version versions induction =>
      have isSame := sameKey version List.mem_cons_self
      rw [List.isChain_cons_cons] at steady
      rw [← isSame] at secured ⊢
      refine induction version (fun later member => ?_) steady.2
        (updateLocalPort_secured isSame steady.1 secured)
      rw [isSame]
      exact sameKey later (List.mem_cons_of_mem _ member)

/-! ## The life of a port -/

/-- There are no flows for the key. -/
def Without (tables : Tables) (key : Nat) (flows : Flows) : Prop :=
  ∀ flow, ForKey tables key flow.place → ¬ flows.Has flow

theorem Without.secured (without : Without tables key flows) :
    Secured tables key flows ∅ := by
  intro flow inside
  constructor
  · intro had
    exact absurd had (without flow inside)
  · intro impossible
    exact absurd impossible.1 (Set.notMem_empty _)

/-- The flows follow the updates of a port as long as the flows of its own address
need not be uninstalled. -/
theorem portsec_flows_follow (tables : Tables) (flows clean : Flows) (lport : LogicalPort)
    (versions : List LogicalPort)
    (sameKey : ∀ version ∈ versions, version.uniqueKey = lport.uniqueKey)
    (steady : (lport :: versions).IsChain Steady)
    (without : Without tables lport.uniqueKey flows)
    (withoutClean : Without tables lport.uniqueKey clean) :
    let reached := updates tables lport versions (after (addLocalPort tables lport) flows)
    let version := lastVersion lport versions
    (∀ flow, ForKey tables lport.uniqueKey flow.place →
      (reached.Has flow ↔ (after (addLocalPort tables version) clean).Has flow)) ∧
    (guardedMac version = none →
      Without tables lport.uniqueKey (after (removeLocalPort tables version) reached)) := by
  intro reached version
  rcases updates_secured lport versions sameKey steady
    (addLocalPort_secured lport without.secured) with ⟨secured, isSame⟩
  refine ⟨fun flow inside => ?_, fun unguarded flow inside had => ?_⟩
  · have cleanSecured := withoutClean.secured
    rw [← isSame] at cleanSecured inside
    rw [secured flow (isSame ▸ inside)]
    exact (addLocalPort_secured version cleanSecured flow inside).symm
  · rw [← isSame] at secured inside
    have removed := removeLocalPort_secured unguarded secured flow inside
    exact Set.notMem_empty _ (removed.mp had).1

/-! ## A port of a virtual machine -/

def someTables : Tables where
  main := 5
  default := 10
  services := 20

def vmPort : LogicalPort where
  id := "vm"
  uniqueKey := 7
  macs := [0xfa163e000001]
  ips := [.v4 0x0a000005]
  portSecurityEnabled := some true

/-- The port is bound without port security, which is then turned on, and gets other
addresses. A port whose security stays off leaves nothing. -/
theorem portsec_flows_follow_readdressed :
    let unsecured : LogicalPort := { vmPort with portSecurityEnabled := some false }
    let moved : LogicalPort := { unsecured with ips := [.v4 0x0a000006] }
    let other : LogicalPort := { vmPort with
      ips := [.v4 0x0a000006, .v6 1]
      allowedAddressPairs := [⟨.v4 0x0a000009, 0xfa163e000002⟩] }
    (∀ flow, ForKey someTables 7 flow.place →
      ((updates someTables unsecured [vmPort, other]
          (after (addLocalPort someTables unsecured) FlowTable.empty)).Has flow ↔
        (after (addLocalPort someTables other) FlowTable.empty).Has flow)) ∧
    Without someTables 7 (after (removeLocalPort someTables moved)
      (updates someTables unsecured [moved]
        (after (addLocalPort someTables unsecured) FlowTable.empty))) := by
  intro unsecured moved other
  have clean : Without someTables 7 FlowTable.empty := fun _ _ => not_has_empty
  exact ⟨(portsec_flows_follow someTables FlowTable.empty FlowTable.empty unsecured
      [vmPort, other] (by decide) (by decide +kernel) clean clean).1,
    (portsec_flows_follow someTables FlowTable.empty FlowTable.empty unsecured
      [moved] (by decide) (by decide +kernel) clean clean).2 (by decide)⟩

/-- The flow for DHCPv6 stays when the port is unbound. -/
theorem portsec_flows_left_behind :
    ∃ flow, ForKey someTables vmPort.uniqueKey flow.place ∧
      (after (removeLocalPort someTables vmPort)
        (after (addLocalPort someTables vmPort) FlowTable.empty)).Has flow := by
  refine ⟨⟨5, Const.priorityHigh, dhcpv6Match 7 0xfa163e000001 546 547,
    ⟨0, [.gotoTable 10]⟩⟩, ⟨rfl, rfl⟩, ?_⟩
  decide +kernel

end PortSecApp

end Dragonflow
