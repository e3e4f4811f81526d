import Dragonflow.Controller.Apps.L2

/-! # Broadcast flows

The flows of a network for broadcast and multicast packets list its local
ports, each of them once.
-/

namespace Dragonflow

open Program

namespace L2App

/-- The flow for broadcasts of local ports. -/
def egress (app : L2App) (networkId : Nat) : Option (FlowEntry Instruction) :=
  app.flows Const.l2LookupTable Const.priorityMedium (multicastBroadcastMatch networkId)

/-- The flow for broadcasts that arrive through a tunnel. -/
def ingress (app : L2App) (networkId : Nat) : Option (FlowEntry Instruction) :=
  app.flows Const.ingressDestinationPortLookupTable Const.priorityHigh
    (multicastBroadcastMatch networkId)

theorem covers_multicastBroadcastMatch {one other : Nat} :
    Pattern.covers (multicastBroadcastMatch one) (multicastBroadcastMatch other) =
      decide (one = other) := by
  simp [Pattern.covers, FieldMatch.coversField, FieldMatch.covers,
    multicastBroadcastMatch]

theorem covers_self (networkId : Nat) :
    Pattern.covers (multicastBroadcastMatch networkId)
      (multicastBroadcastMatch networkId) = true :=
  covers_multicastBroadcastMatch.trans (decide_eq_true rfl)

/-! ## What leaves the broadcast flows alone -/

structure SameBroadcast (before after : L2App) : Prop where
  localNetworks : after.localNetworks = before.localNetworks
  egress : after.egress = before.egress
  ingress : after.ingress = before.ingress

instance : IsPreorder L2App SameBroadcast where
  refl _ := ⟨rfl, rfl, rfl⟩
  trans _ _ _ first second := ⟨second.localNetworks.trans first.localNetworks,
    second.egress.trans first.egress, second.ingress.trans first.ingress⟩

/-- The message is not about a broadcast flow. -/
def Aside (message : OFPFlowMod) : Prop :=
  message.table = Const.l2LookupTable ∨
      message.table = Const.ingressDestinationPortLookupTable →
    ∀ networkId, multicastBroadcastMatch networkId ≠ message.pattern ∧
      Pattern.covers message.pattern (multicastBroadcastMatch networkId) = false

theorem modFlow_keeps {message : OFPFlowMod} (aside : Aside message) :
    Keeps SameBroadcast (modFlow message) := by
  intro app
  refine ⟨rfl, ?_, ?_⟩
  · funext networkId
    apply FlowTable.apply_other
    · intro identified
      exact (aside (Or.inl identified.1.symm) networkId).1 identified.2.2
    · intro sameTable
      exact (aside (Or.inl sameTable.symm) networkId).2
  · funext networkId
    apply FlowTable.apply_other
    · intro identified
      exact (aside (Or.inr identified.1.symm) networkId).1 identified.2.2
    · intro sameTable
      exact (aside (Or.inr sameTable.symm) networkId).2

theorem aside_of_table {message : OFPFlowMod}
    (l2Lookup : message.table ≠ Const.l2LookupTable)
    (lookup : message.table ≠ Const.ingressDestinationPortLookupTable) :
    Aside message := by
  intro isBroadcast
  exact absurd isBroadcast (not_or.mpr ⟨l2Lookup, lookup⟩)

theorem aside_of_unicast {message : OFPFlowMod} {networkId : Nat} {mac : MacAddress}
    (unicast : message.pattern = unicastMatch networkId mac) : Aside message := by
  intro _ other
  rw [unicast]
  constructor
  · intro same
    have sameDst := congrArg OFPMatch.ethDst same
    cases sameDst
  · simp [Pattern.covers, FieldMatch.coversField, FieldMatch.covers,
      multicastBroadcastMatch, unicastMatch]

variable {config : Config} {lports : Dict Id LogicalPort} {lport : LogicalPort}

theorem responder_aside (networkId : Nat) (mac : MacAddress) (ip : IPAddress) :
    Aside (responder networkId mac ip) := by
  cases ip
  · exact aside_of_table (by decide : Const.arpTable ≠ _) (by decide : Const.arpTable ≠ _)
  · exact aside_of_table (by decide : Const.ipv6NdTable ≠ _)
      (by decide : Const.ipv6NdTable ≠ _)

theorem responderRemoval_aside (networkId : Nat) (ip : IPAddress) :
    Aside (responderRemoval networkId ip) := by
  cases ip
  · exact aside_of_table (by decide : Const.arpTable ≠ _) (by decide : Const.arpTable ≠ _)
  · exact aside_of_table (by decide : Const.ipv6NdTable ≠ _)
      (by decide : Const.ipv6NdTable ≠ _)

/-- A program returns and leaves the broadcast flows alone. -/
abbrev Passes (program : Action Unit) : Prop :=
  ∀ app, Leads program app (fun _ after => SameBroadcast app after) (fun _ _ => False)

theorem Passes.bind {first : Action Unit} {second : Unit → Action Unit}
    (left : Passes first) (right : ∀ value, Passes (second value)) :
    Passes (first >>= second) := by
  intro app
  refine (left app).bind ?_
  intro value middle same
  refine (right value middle).mono ?_ fun _ _ impossible => impossible
  intro _ after sameAfter
  exact trans_of SameBroadcast same sameAfter

theorem modFlow_passes {message : OFPFlowMod} (aside : Aside message) :
    Passes (modFlow message) :=
  fun app => modFlow_keeps aside app

theorem loop_passes {α : Type} {items : List α} {body : α → Action Unit}
    (passes : ∀ item, Passes (body item)) : Passes (forM items body) := by
  intro app
  refine Leads.loop_const (SameBroadcast app) items ?_ (refl_of SameBroadcast app)
  intro item current _ same
  refine (passes item current).mono ?_ fun _ _ impossible => impossible
  intro _ after sameAfter
  exact trans_of SameBroadcast same sameAfter

theorem unlessRouterInterface_passes {action : Action Unit} (passes : Passes action) :
    Passes (unlessRouterInterface lport action) := by
  intro app
  unfold unlessRouterInterface
  split
  · exact passes app
  · exact refl_of SameBroadcast app

section Ports

variable {lswitch : LogicalSwitch} {mac : MacAddress}
  (read : config.lswitch lport = .ok lswitch) (hasMac : lport.mac = some mac)

include read

theorem removeL2Responders_passes : Passes (removeL2Responders config lport) := by
  intro app
  unfold removeL2Responders
  split
  · rw [read, leads_bind, leads_ofExcept_ok]
    exact loop_passes (fun ip => modFlow_passes (responderRemoval_aside _ ip)) app
  · exact refl_of SameBroadcast app

include hasMac

theorem addL2Responders_passes : Passes (addL2Responders config lport) := by
  intro app
  unfold addL2Responders
  split
  · rw [read, leads_bind, leads_ofExcept_ok, hasMac]
    exact loop_passes (fun ip => modFlow_passes (responder_aside _ mac ip)) app
  · exact refl_of SameBroadcast app

theorem addPort_passes : Passes (addPort config lport) := by
  intro app
  unfold addPort
  rw [read, leads_bind, leads_ofExcept_ok]
  refine Passes.bind (unlessRouterInterface_passes ?_)
    (fun _ => addL2Responders_passes read hasMac) app
  unfold addDstClassifierFlowForPort
  rw [hasMac]
  exact modFlow_passes (aside_of_unicast rfl)

theorem removePort_passes : Passes (removePort config lport) := by
  intro app
  unfold removePort
  rw [read, leads_bind, leads_ofExcept_ok]
  refine Passes.bind (unlessRouterInterface_passes ?_)
    (fun _ => removeL2Responders_passes read) app
  unfold deleteDstClassifierFlowForPort
  rw [hasMac]
  exact modFlow_passes (aside_of_unicast rfl)

end Ports

/-! ## The two flows of a network -/

variable {app : L2App} {networkId : Nat} {keys : List Nat} {command : FlowCommand}

def egressEntry (keys : List Nat) : FlowEntry Instruction :=
  ⟨0, [.applyActions (keys.flatMap (resubmit Const.egressTable) ++
    resubmit Const.egressTable 0)]⟩

def ingressEntry (keys : List Nat) : FlowEntry Instruction :=
  ⟨0, [.applyActions (keys.flatMap (resubmit Const.ingressConntrackTable))]⟩

theorem multicastBroadcastMatch_injective {one other : Nat}
    (same : multicastBroadcastMatch one = multicastBroadcastMatch other) :
    one = other := by
  simpa [multicastBroadcastMatch] using same

/-- Messages about the broadcasts of a network leave other networks alone. -/
theorem apply_otherNetwork {flows : Flows} {message : OFPFlowMod}
    {table priority other : Nat}
    (pattern : message.pattern = multicastBroadcastMatch networkId)
    (different : other ≠ networkId) :
    flows.apply message table priority (multicastBroadcastMatch other) =
      flows table priority (multicastBroadcastMatch other) := by
  apply FlowTable.apply_other
  · intro identified
    exact different (multicastBroadcastMatch_injective (identified.2.2.trans pattern))
  · intro _
    rw [pattern, covers_multicastBroadcastMatch]
    exact decide_eq_false (Ne.symm different)

/-- Each of the two flows is only changed by messages for its own table. -/
theorem egress_apply (flows : Flows) (message : OFPFlowMod) (other : Nat)
    (table : message.table = Const.ingressDestinationPortLookupTable) :
    flows.apply message Const.l2LookupTable Const.priorityMedium
      (multicastBroadcastMatch other) =
        flows Const.l2LookupTable Const.priorityMedium (multicastBroadcastMatch other) := by
  apply FlowTable.apply_other_table
  rw [table]
  decide

theorem ingress_apply (flows : Flows) (message : OFPFlowMod) (other : Nat)
    (table : message.table = Const.l2LookupTable) :
    flows.apply message Const.ingressDestinationPortLookupTable Const.priorityHigh
      (multicastBroadcastMatch other) =
        flows Const.ingressDestinationPortLookupTable Const.priorityHigh
          (multicastBroadcastMatch other) := by
  apply FlowTable.apply_other_table
  rw [table]
  decide

/-- The message sets the entry of the network in its table. -/
theorem apply_sets (flows : Flows) (message : OFPFlowMod)
    (pattern : message.pattern = multicastBroadcastMatch networkId)
    (plain : message.cookie = 0 ∧ message.cookieMask = 0)
    (present : message.command = .add ∨ message.command = .modify ∧
      ∃ old, flows message.table message.priority
        (multicastBroadcastMatch networkId) = some ⟨0, old⟩) (other : Nat) :
    flows.apply message message.table message.priority
        (multicastBroadcastMatch other) =
      if other = networkId then some ⟨0, message.instructions⟩
      else flows message.table message.priority (multicastBroadcastMatch other) := by
  split
  · next same =>
      rw [same, ← pattern]
      rcases present with isAdd | ⟨isModify, old, found⟩
      · rw [FlowTable.apply_add_self isAdd, plain.1]
      · rw [← pattern] at found
        refine FlowTable.apply_modify_self isModify ?_ plain.2 found
        rw [pattern]
        exact covers_self networkId
  · next different => exact apply_otherNetwork pattern different

theorem apply_clears (flows : Flows) (message : OFPFlowMod)
    (pattern : message.pattern = multicastBroadcastMatch networkId)
    (isDelete : message.command = .delete) (anyCookie : message.cookieMask = 0)
    (other : Nat) :
    flows.apply message message.table message.priority
        (multicastBroadcastMatch other) =
      if other = networkId then none
      else flows message.table message.priority (multicastBroadcastMatch other) := by
  split
  · next same =>
      rw [same, ← pattern]
      apply FlowTable.apply_delete_self isDelete ?_ anyCookie
      rw [pattern]
      exact covers_self networkId
  · next different => exact apply_otherNetwork pattern different

theorem modBroadcastFlows_leads
    (present : command = .add ∨ command = .modify ∧
      (∃ old, app.egress networkId = some ⟨0, old⟩) ∧
      ∃ old, app.ingress networkId = some ⟨0, old⟩) :
    Leads (modBroadcastFlows command networkId keys) app
      (fun _ after => after.localNetworks = app.localNetworks ∧
        after.egress =
          Function.update app.egress networkId (some (egressEntry keys)) ∧
        after.ingress =
          Function.update app.ingress networkId (some (ingressEntry keys)))
      (fun _ _ => False) := by
  refine ⟨rfl, ?_, ?_⟩
  · funext other
    rw [Function.update_apply]
    refine (egress_apply _ (ingressBroadcast command networkId _) other rfl).trans ?_
    apply apply_sets app.flows (egressBroadcast command networkId _) rfl ⟨rfl, rfl⟩
    exact present.imp id fun modifies => ⟨modifies.1, modifies.2.1⟩
  · funext other
    rw [Function.update_apply]
    have untouched : ∀ actions network,
        app.flows.apply (egressBroadcast command networkId actions)
          Const.ingressDestinationPortLookupTable Const.priorityHigh
          (multicastBroadcastMatch network) = app.ingress network :=
      fun actions network => ingress_apply app.flows _ network rfl
    refine (apply_sets _ (ingressBroadcast command networkId _) rfl ⟨rfl, rfl⟩ ?_
      other).trans ?_
    · refine present.imp id fun modifies => ⟨modifies.1, ?_⟩
      rcases modifies.2.2 with ⟨old, found⟩
      exact ⟨old, (untouched _ networkId).trans found⟩
    · split
      · rfl
      · exact untouched _ other

theorem delMulticastBroadcastFlowsForLocal_leads :
    Leads (delMulticastBroadcastFlowsForLocal networkId) app
      (fun _ after => after.localNetworks = app.localNetworks ∧
        after.egress = Function.update app.egress networkId none ∧
        after.ingress = Function.update app.ingress networkId none)
      (fun _ _ => False) := by
  refine ⟨rfl, ?_, ?_⟩
  · funext other
    rw [Function.update_apply]
    refine (egress_apply _ (ingressBroadcastRemoval networkId) other rfl).trans ?_
    exact apply_clears app.flows (egressBroadcastRemoval networkId) rfl rfl rfl other
  · funext other
    rw [Function.update_apply]
    refine (apply_clears _ (ingressBroadcastRemoval networkId) rfl rfl rfl
      other).trans ?_
    split
    · rfl
    · exact ingress_apply app.flows (egressBroadcastRemoval networkId) other rfl

/-! ## The keys of the ports -/

/-- The loop finds the keys of all local ports but the excepted one. -/
theorem portKeys_eq {localPorts : Dict Id Nat} {key : Id → Nat} {except : Option Id}
    (keys : ∀ id portKey, localPorts.lookup id = some portKey → portKey = key id)
    (keyed : ∀ id lport, lports.lookup id = some lport → lport.id = id)
    (stored : ∀ id ∈ localPorts.keys, some id ≠ except →
      ∃ lport, lports.lookup id = some lport) :
    portKeys lports localPorts except =
      (localPorts.keys.filter fun id => some id ≠ except).map key := by
  have found : ∀ entry ∈ localPorts.entries,
      portKey lports except entry =
        if some entry.1 = except then none else some (key entry.1) := by
    intro entry member
    have isKey : entry.2 = key entry.1 :=
      keys entry.1 entry.2 (AList.mem_lookup_iff.mpr member)
    have isPort : entry.1 ∈ localPorts.keys := List.mem_map_of_mem member
    unfold portKey
    cases lookup : lports.lookup entry.1 with
    | none =>
        by_cases excepted : some entry.1 = except
        · simp only [if_pos excepted]
        · rcases stored entry.1 isPort excepted with ⟨lport, isStored⟩
          rw [lookup] at isStored
          cases isStored
    | some lport =>
        simp only [keyed entry.1 lport lookup, isKey]
  unfold portKeys AList.keys List.keys
  rw [List.filterMap_congr found]
  induction localPorts.entries with
  | nil => rfl
  | cons entry entries induction =>
      by_cases excepted : some entry.1 = except
      · simpa [excepted] using induction
      · simpa [excepted] using induction

/-! ## Local ports that come and go -/

/-- The flows of a network whose local ports are listed. -/
def Listed (key : Id → Nat) (localPorts : Dict Id Nat)
    (egress ingress : Option (FlowEntry Instruction)) : Prop :=
  localPorts = ∅ ∧ egress = none ∧ ingress = none ∨
  localPorts ≠ ∅ ∧ ∃ ids : List Id, ids.Nodup ∧
    (∀ id, id ∈ ids ↔ id ∈ localPorts.keys) ∧
    egress = some (egressEntry (ids.map key)) ∧
    ingress = some (ingressEntry (ids.map key))

/-- What the application knows of a network. -/
def Knows (app : L2App) (networkId : Nat) (localPorts : Dict Id Nat) : Prop :=
  app.localNetworks.lookup networkId = none ∧ localPorts = ∅ ∨
  app.localNetworks.lookup networkId = some { localPorts }

variable {key : Id → Nat} {localPorts : Dict Id Nat}

theorem isEmpty_iff (dict : Dict Id Nat) : dict.entries.isEmpty = true ↔ dict = ∅ := by
  rw [List.isEmpty_iff]
  constructor
  · intro empty
    apply AList.ext
    exact empty
  · intro empty
    rw [empty]
    rfl

theorem addMulticastBroadcastHandling_leads (known : Knows app networkId localPorts)
    (listed : Listed key localPorts (app.egress networkId) (app.ingress networkId))
    (keys : ∀ id portKey, localPorts.lookup id = some portKey → portKey = key id)
    (keyed : ∀ id lport, lports.lookup id = some lport → lport.id = id)
    {lportId : Id} (fresh : lportId ∉ localPorts.keys)
    (stored : ∀ id ∈ localPorts.keys, ∃ lport, lports.lookup id = some lport) :
    Leads (addMulticastBroadcastHandlingForLocalPort lports lportId (key lportId)
        networkId) app
      (fun _ after =>
        after.localNetworks = app.localNetworks.insert networkId
          { localPorts := localPorts.insert lportId (key lportId) } ∧
        ∃ egress ingress,
          Listed key (localPorts.insert lportId (key lportId)) egress ingress ∧
          after.egress = Function.update app.egress networkId egress ∧
          after.ingress = Function.update app.ingress networkId ingress)
      (fun _ _ => False) := by
  have network : (app.localNetworks.lookup networkId).getD {} = { localPorts } := by
    rcases known with ⟨absent, rfl⟩ | found
    · rw [absent]
      rfl
    · rw [found]
      rfl
  unfold addMulticastBroadcastHandlingForLocalPort
  rw [leads_bind, leads_get]
  simp only [network]
  rw [leads_bind, leads_set]
  refine (modBroadcastFlows_leads ?_).mono ?_ fun _ _ impossible => impossible
  · by_cases empty : localPorts = ∅
    · left
      rw [if_pos ((isEmpty_iff _).mpr empty)]
    · right
      rw [if_neg fun isEmpty => empty ((isEmpty_iff _).mp isEmpty)]
      rcases listed with ⟨isEmpty, _⟩ | ⟨_, ids, _, _, egress, ingress⟩
      · exact absurd isEmpty empty
      · exact ⟨rfl, ⟨_, egress⟩, ⟨_, ingress⟩⟩
  · intro _ after holds
    have keysAfter : ∀ id portKey,
        (localPorts.insert lportId (key lportId)).lookup id = some portKey →
          portKey = key id := by
      intro id portKey found
      rw [Dict.lookup_insert_eq] at found
      split at found
      · next same =>
          cases found
          rw [same]
      · exact keys id portKey found
    have storedAfter : ∀ id ∈ (localPorts.insert lportId (key lportId)).keys,
        some id ≠ some lportId → ∃ lport, lports.lookup id = some lport := by
      intro id member different
      apply stored id
      rcases (AList.mem_insert _).mp (AList.mem_keys.mpr member) with same | member
      · exact absurd (congrArg some same) different
      · exact AList.mem_keys.mp member
    rw [portKeys_eq keysAfter keyed storedAfter, ← List.map_cons] at holds
    refine ⟨holds.1, _, _, Or.inr ⟨?_, _, ?_, ?_, rfl, rfl⟩, holds.2.1, holds.2.2⟩
    · intro empty
      have found : (localPorts.insert lportId (key lportId)).lookup lportId =
          some (key lportId) := AList.lookup_insert localPorts
      rw [empty] at found
      cases found
    · apply List.nodup_cons.mpr
      refine ⟨by simp, ?_⟩
      exact (AList.keys_nodup _).filter _
    · intro id
      rw [← AList.mem_keys, AList.mem_insert]
      by_cases same : id = lportId
      · simp [same]
      · simp [same, ← AList.mem_keys]

theorem delMulticastBroadcastHandling_leads
    (known : app.localNetworks.lookup networkId = some { localPorts })
    (listed : Listed key localPorts (app.egress networkId) (app.ingress networkId))
    (keys : ∀ id portKey, localPorts.lookup id = some portKey → portKey = key id)
    (keyed : ∀ id lport, lports.lookup id = some lport → lport.id = id)
    {lportId : Id} (isPort : lportId ∈ localPorts.keys)
    (stored : ∀ id ∈ (localPorts.erase lportId).keys,
      ∃ lport, lports.lookup id = some lport) :
    Leads (delMulticastBroadcastHandlingForLocal lports lportId networkId) app
      (fun _ after =>
        Knows after networkId (localPorts.erase lportId) ∧
        (∀ other, other ≠ networkId →
          after.localNetworks.lookup other = app.localNetworks.lookup other) ∧
        ∃ egress ingress, Listed key (localPorts.erase lportId) egress ingress ∧
          after.egress = Function.update app.egress networkId egress ∧
          after.ingress = Function.update app.ingress networkId ingress)
      (fun _ _ => False) := by
  rcases (Dict.mem_keys_iff localPorts lportId).mp isPort with ⟨portKey, found⟩
  unfold delMulticastBroadcastHandlingForLocal
  rw [leads_bind, leads_get]
  simp only [known, found]
  rw [leads_bind, leads_set]
  by_cases empty : localPorts.erase lportId = ∅
  · rw [if_pos ((isEmpty_iff _).mpr empty)]
    refine delMulticastBroadcastFlowsForLocal_leads.bind ?_
    intro _ middle cleared
    have isEmpty : LocalNetwork.isEmpty { localPorts := localPorts.erase lportId } =
        true := by
      rw [empty]
      rfl
    rw [if_pos isEmpty, leads_modify]
    rcases cleared with ⟨networks, egress, ingress⟩
    refine ⟨Or.inl ⟨AList.lookup_erase _ _, empty⟩, ?_, none, none,
      Or.inl ⟨empty, rfl, rfl⟩, egress, ingress⟩
    intro other different
    rw [AList.lookup_erase_ne different, networks]
    exact AList.lookup_insert_ne different
  · rw [if_neg fun isEmpty => empty ((isEmpty_iff _).mp isEmpty)]
    have keysAfter : ∀ id portKey,
        (localPorts.erase lportId).lookup id = some portKey → portKey = key id := by
      intro id portKey found
      rw [Dict.lookup_erase_eq] at found
      split at found
      · cases found
      · exact keys id portKey found
    unfold updateMulticastBroadcastFlowsForLocal
    rw [portKeys_eq keysAfter keyed fun id member _ => stored id member]
    refine (modBroadcastFlows_leads ?_).mono ?_ fun _ _ impossible => impossible
    · rcases listed with ⟨isEmpty, _⟩ | ⟨_, ids, _, _, egress, ingress⟩
      · rw [isEmpty] at isPort
        cases isPort
      · exact Or.inr ⟨rfl, ⟨_, egress⟩, ⟨_, ingress⟩⟩
    · intro _ after holds
      refine ⟨Or.inr ?_, ?_, _, _, Or.inr ⟨empty, _, ?_, ?_, rfl, rfl⟩, holds.2.1,
        holds.2.2⟩
      · rw [holds.1]
        exact AList.lookup_insert _
      · intro other different
        rw [holds.1]
        exact AList.lookup_insert_ne different
      · exact (AList.keys_nodup _).filter _
      · intro id
        simp

/-! ## Every sequence of local ports -/

/-- A bind or unbind event of a local port, with the ports that are stored when
it is handled. -/
structure Delivery where
  lports : Dict Id LogicalPort
  binds : Bool
  lport : LogicalPort

namespace Delivery

def event (delivery : Delivery) : PortEvent :=
  if delivery.binds then .bind .here else .unbind .here

/-- The ports that are bound after an event. -/
def bound (delivery : Delivery) (bound : Finset Id) : Finset Id :=
  if delivery.binds then insert delivery.lport.id bound
  else bound.erase delivery.lport.id

/-- Bind and unbind take turns, and the other ports that are bound are stored. -/
structure InOrder (config : Config) (network : Id → LogicalSwitch) (key : Id → Nat)
    (bound : Finset Id) (delivery : Delivery) : Prop where
  alternates : delivery.lport.id ∈ bound ↔ delivery.binds = false
  read : config.lswitch delivery.lport = .ok (network delivery.lport.id)
  hasMac : ∃ mac, delivery.lport.mac = some mac
  hasKey : delivery.lport.uniqueKey = key delivery.lport.id
  keyed : ∀ id lport, delivery.lports.lookup id = some lport → lport.id = id
  stored : ∀ id ∈ bound, id ≠ delivery.lport.id →
    ∃ lport, delivery.lports.lookup id = some lport

end Delivery

def InOrder (config : Config) (network : Id → LogicalSwitch) (key : Id → Nat) :
    Finset Id → List Delivery → Prop
  | _, [] => True
  | bound, delivery :: deliveries =>
      delivery.InOrder config network key bound ∧
        InOrder config network key (delivery.bound bound) deliveries

/-- What the application knows of a network, and the flows that it keeps. -/
def Broadcasting (network : Id → LogicalSwitch) (key : Id → Nat) (bound : Finset Id)
    (app : L2App) (networkId : Nat) : Prop :=
  ∃ localPorts : Dict Id Nat, Knows app networkId localPorts ∧
    (∀ id, localPorts.lookup id =
      if id ∈ bound ∧ (network id).uniqueKey = networkId then some (key id) else none) ∧
    Listed key localPorts (app.egress networkId) (app.ingress networkId)

section Networks

variable {network : Id → LogicalSwitch} {bound : Finset Id} {after : L2App}

/-- Nothing changes for the other networks. -/
theorem Broadcasting.other {changed : Finset Id} {other : Nat}
    {egress ingress : Option (FlowEntry Instruction)}
    (broadcasting : Broadcasting network key bound app other)
    (different : other ≠ networkId)
    (same : ∀ id, (network id).uniqueKey = other → (id ∈ changed ↔ id ∈ bound))
    (networks : after.localNetworks.lookup other = app.localNetworks.lookup other)
    (isEgress : after.egress = Function.update app.egress networkId egress)
    (isIngress : after.ingress = Function.update app.ingress networkId ingress) :
    Broadcasting network key changed after other := by
  rcases broadcasting with ⟨localPorts, known, lookups, listed⟩
  refine ⟨localPorts, ?_, ?_, ?_⟩
  · unfold Knows
    rw [networks]
    exact known
  · intro id
    rw [lookups]
    by_cases ofOther : (network id).uniqueKey = other
    · simp [ofOther, same id ofOther]
    · simp [ofOther]
  · rw [isEgress, isIngress, Function.update_of_ne different,
      Function.update_of_ne different]
    exact listed

theorem addLocalPort_leads {mac : MacAddress}
    (read : config.lswitch lport = .ok (network lport.id))
    (hasMac : lport.mac = some mac) (hasKey : lport.uniqueKey = key lport.id)
    (known : Knows app (network lport.id).uniqueKey localPorts)
    (listed : Listed key localPorts (app.egress (network lport.id).uniqueKey)
      (app.ingress (network lport.id).uniqueKey))
    (keys : ∀ id portKey, localPorts.lookup id = some portKey → portKey = key id)
    (keyed : ∀ id lport, lports.lookup id = some lport → lport.id = id)
    (fresh : lport.id ∉ localPorts.keys)
    (stored : ∀ id ∈ localPorts.keys, ∃ lport, lports.lookup id = some lport) :
    Leads (addLocalPort config lports lport) app
      (fun _ after =>
        after.localNetworks = app.localNetworks.insert (network lport.id).uniqueKey
          { localPorts := localPorts.insert lport.id (key lport.id) } ∧
        ∃ egress ingress,
          Listed key (localPorts.insert lport.id (key lport.id)) egress ingress ∧
          after.egress =
            Function.update app.egress (network lport.id).uniqueKey egress ∧
          after.ingress =
            Function.update app.ingress (network lport.id).uniqueKey ingress)
      (fun _ _ => False) := by
  unfold addLocalPort
  refine (addPort_passes read hasMac app).bind ?_
  intro _ first sameFirst
  unfold addLocalPortDispatch
  rw [read, leads_bind, leads_ofExcept_ok, hasMac, haddrToBin, leads_bind,
    leads_ofExcept_ok]
  refine (modFlow_passes (aside_of_unicast rfl) first).bind ?_
  intro _ second sameSecond
  refine (modFlow_passes (aside_of_table (by decide : Const.egressTable ≠ _)
    (by decide : Const.egressTable ≠ _)) second).bind ?_
  intro _ third sameThird
  have same : SameBroadcast app third :=
    trans_of SameBroadcast sameFirst (trans_of SameBroadcast sameSecond sameThird)
  rw [hasKey, ← same.localNetworks, ← same.egress, ← same.ingress]
  apply addMulticastBroadcastHandling_leads
  · unfold Knows
    rw [same.localNetworks]
    exact known
  · rw [same.egress, same.ingress]
    exact listed
  · exact keys
  · exact keyed
  · exact fresh
  · exact stored

theorem removeLocalPort_leads {mac : MacAddress}
    (read : config.lswitch lport = .ok (network lport.id))
    (hasMac : lport.mac = some mac)
    (known : app.localNetworks.lookup (network lport.id).uniqueKey =
      some { localPorts })
    (listed : Listed key localPorts (app.egress (network lport.id).uniqueKey)
      (app.ingress (network lport.id).uniqueKey))
    (keys : ∀ id portKey, localPorts.lookup id = some portKey → portKey = key id)
    (keyed : ∀ id lport, lports.lookup id = some lport → lport.id = id)
    (isPort : lport.id ∈ localPorts.keys)
    (stored : ∀ id ∈ (localPorts.erase lport.id).keys,
      ∃ lport, lports.lookup id = some lport) :
    Leads (removeLocalPort config lports lport) app
      (fun _ after =>
        Knows after (network lport.id).uniqueKey (localPorts.erase lport.id) ∧
        (∀ other, other ≠ (network lport.id).uniqueKey →
          after.localNetworks.lookup other = app.localNetworks.lookup other) ∧
        ∃ egress ingress, Listed key (localPorts.erase lport.id) egress ingress ∧
          after.egress =
            Function.update app.egress (network lport.id).uniqueKey egress ∧
          after.ingress =
            Function.update app.ingress (network lport.id).uniqueKey ingress)
      (fun _ _ => False) := by
  unfold removeLocalPort
  refine (removePort_passes read hasMac app).bind ?_
  intro _ first sameFirst
  unfold removeLocalPortPipelineInterface
  rw [read, leads_bind, leads_ofExcept_ok]
  refine (modFlow_passes (aside_of_table (by decide : Const.egressTable ≠ _)
    (by decide : Const.egressTable ≠ _)) first).bind ?_
  intro _ second sameSecond
  rw [hasMac, haddrToBin, leads_bind, leads_ofExcept_ok]
  refine (modFlow_passes (aside_of_unicast rfl) second).bind ?_
  intro _ third sameThird
  have same : SameBroadcast app third :=
    trans_of SameBroadcast sameFirst (trans_of SameBroadcast sameSecond sameThird)
  rw [← same.localNetworks, ← same.egress, ← same.ingress]
  apply delMulticastBroadcastHandling_leads ?_ ?_ keys keyed isPort stored
  · rw [same.localNetworks]
    exact known
  · rw [same.egress, same.ingress]
    exact listed

theorem Broadcasting.deliver {delivery : Delivery}
    (broadcasting : ∀ networkId, Broadcasting network key bound app networkId)
    (inOrder : delivery.InOrder config network key bound) :
    Leads (L2App.app config delivery.lports ∅ delivery.event delivery.lport) app
      (fun _ after => ∀ networkId,
        Broadcasting network key (delivery.bound bound) after networkId)
      (fun _ _ => False) := by
  rcases inOrder.hasMac with ⟨mac, hasMac⟩
  rcases broadcasting (network delivery.lport.id).uniqueKey with
    ⟨localPorts, known, lookups, listed⟩
  have keys : ∀ id portKey, localPorts.lookup id = some portKey → portKey = key id := by
    intro id portKey found
    rw [lookups] at found
    split at found
    · exact (Option.some.inj found).symm
    · cases found
  have isPort_iff : ∀ id, id ∈ localPorts.keys ↔
      id ∈ bound ∧ (network id).uniqueKey = (network delivery.lport.id).uniqueKey := by
    intro id
    rw [Dict.mem_keys_iff, lookups]
    split <;> simp_all
  unfold Delivery.event Delivery.bound
  cases binds : delivery.binds with
  | true =>
      have isFree : delivery.lport.id ∉ bound := by
        intro isBound
        have isUnbind := inOrder.alternates.mp isBound
        rw [binds] at isUnbind
        cases isUnbind
      have stored : ∀ id ∈ localPorts.keys,
          ∃ lport, delivery.lports.lookup id = some lport := by
        intro id member
        have isBound := ((isPort_iff id).mp member).1
        exact inOrder.stored id isBound fun same => isFree (same ▸ isBound)
      refine (addLocalPort_leads inOrder.read hasMac inOrder.hasKey known listed keys
        inOrder.keyed (fun member => isFree ((isPort_iff _).mp member).1) stored).mono ?_
        fun _ _ impossible => impossible
      intro _ after holds networkId
      rcases holds with ⟨networks, egress, ingress, isListed, isEgress, isIngress⟩
      by_cases same : networkId = (network delivery.lport.id).uniqueKey
      · subst same
        refine ⟨localPorts.insert delivery.lport.id (key delivery.lport.id), Or.inr ?_,
          ?_, ?_⟩
        · rw [networks]
          exact AList.lookup_insert _
        · intro id
          rw [Dict.lookup_insert_eq, lookups, if_pos rfl]
          by_cases isPort : id = delivery.lport.id
          · simp [isPort]
          · simp [isPort]
        · rw [isEgress, isIngress, Function.update_self, Function.update_self]
          exact isListed
      · apply (broadcasting networkId).other same ?_ ?_ isEgress isIngress
        · intro id ofOther
          rw [if_pos rfl, Finset.mem_insert]
          constructor
          · intro isBound
            rcases isBound with rfl | isBound
            · exact absurd ofOther.symm same
            · exact isBound
          · exact Or.inr
        · rw [networks]
          exact AList.lookup_insert_ne same
  | false =>
      have isBound : delivery.lport.id ∈ bound := inOrder.alternates.mpr binds
      have isPort := (isPort_iff delivery.lport.id).mpr ⟨isBound, rfl⟩
      have found : app.localNetworks.lookup (network delivery.lport.id).uniqueKey =
          some { localPorts } := by
        rcases known with ⟨_, rfl⟩ | found
        · cases isPort
        · exact found
      have stored : ∀ id ∈ (localPorts.erase delivery.lport.id).keys,
          ∃ lport, delivery.lports.lookup id = some lport := by
        intro id member
        rcases AList.mem_erase.mp (AList.mem_keys.mpr member) with ⟨different, member⟩
        exact inOrder.stored id ((isPort_iff id).mp (AList.mem_keys.mp member)).1 different
      refine (removeLocalPort_leads inOrder.read hasMac found listed keys inOrder.keyed
        isPort stored).mono ?_ fun _ _ impossible => impossible
      intro _ after holds networkId
      rcases holds with ⟨knows, networks, egress, ingress, isListed, isEgress, isIngress⟩
      by_cases same : networkId = (network delivery.lport.id).uniqueKey
      · subst same
        refine ⟨_, knows, ?_, ?_⟩
        · intro id
          rw [Dict.lookup_erase_eq, lookups, if_neg Bool.false_ne_true]
          by_cases isPort : id = delivery.lport.id
          · simp [isPort]
          · simp [isPort]
        · rw [isEgress, isIngress, Function.update_self, Function.update_self]
          exact isListed
      · apply (broadcasting networkId).other same ?_ (networks networkId same) isEgress
          isIngress
        intro id ofOther
        rw [if_neg Bool.false_ne_true, Finset.mem_erase]
        constructor
        · exact And.right
        · intro isBound
          refine ⟨?_, isBound⟩
          intro isPort
          rw [isPort] at ofOther
          exact same ofOther.symm

end Networks

/-! ## Exact flows -/

/-- The network has flows for broadcasts exactly if it has a local port, and they
list the keys of the local ports, each of them once. -/
def BroadcastExact (network : Id → LogicalSwitch) (key : Id → Nat) (bound : Finset Id)
    (app : L2App) (lswitch : LogicalSwitch) : Prop :=
  ((app.egress lswitch.uniqueKey).isSome ↔ ∃ id ∈ bound, network id = lswitch) ∧
  ((app.ingress lswitch.uniqueKey).isSome ↔ ∃ id ∈ bound, network id = lswitch) ∧
  (∀ entry, app.egress lswitch.uniqueKey = some entry →
    ∃ ids : List Id, ids.Nodup ∧
      (∀ id, id ∈ ids ↔ id ∈ bound ∧ network id = lswitch) ∧
      entry.instructions = [.applyActions (
        (ids.flatMap fun id => [.setField (.reg7 (key id)),
          .resubmitTable Const.egressTable]) ++
        [.setField (.reg7 0), .resubmitTable Const.egressTable])]) ∧
  ∀ entry, app.ingress lswitch.uniqueKey = some entry →
    ∃ ids : List Id, ids.Nodup ∧
      (∀ id, id ∈ ids ↔ id ∈ bound ∧ network id = lswitch) ∧
      entry.instructions = [.applyActions
        (ids.flatMap fun id => [.setField (.reg7 (key id)),
          .resubmitTable Const.ingressConntrackTable])]

theorem Broadcasting.exact {network : Id → LogicalSwitch} {bound : Finset Id} {id : Id}
    (distinct : ∀ id other, (network id).uniqueKey = (network other).uniqueKey →
      network id = network other)
    (broadcasting : Broadcasting network key bound app (network id).uniqueKey) :
    BroadcastExact network key bound app (network id) := by
  rcases broadcasting with ⟨localPorts, _, lookups, listed⟩
  have isPort_iff : ∀ other, other ∈ localPorts.keys ↔
      other ∈ bound ∧ network other = network id := by
    intro other
    have sameKey_iff : (network other).uniqueKey = (network id).uniqueKey ↔
        network other = network id :=
      ⟨distinct other id, congrArg LogicalSwitch.uniqueKey⟩
    rw [Dict.mem_keys_iff, lookups, ← sameKey_iff]
    split <;> simp_all
  rcases listed with ⟨empty, egress, ingress⟩ | ⟨inhabited, ids, nodup, members, egress,
    ingress⟩
  · have unbound : ¬∃ other ∈ bound, network other = network id := by
      intro hasPort
      rcases hasPort with ⟨other, isBound, same⟩
      have member := (isPort_iff other).mpr ⟨isBound, same⟩
      rw [empty] at member
      cases member
    refine ⟨?_, ?_, ?_, ?_⟩
    · simp [egress, unbound]
    · simp [ingress, unbound]
    · intro entry found
      rw [egress] at found
      cases found
    · intro entry found
      rw [ingress] at found
      cases found
  · have hasPort : ∃ other ∈ bound, network other = network id := by
      by_contra unbound
      apply inhabited
      apply AList.ext
      apply List.eq_nil_iff_forall_not_mem.mpr
      intro entry member
      exact unbound ⟨entry.1, (isPort_iff entry.1).mp (List.mem_map_of_mem member)⟩
    have membersBound : ∀ other, other ∈ ids ↔
        other ∈ bound ∧ network other = network id := by
      intro other
      rw [members, isPort_iff]
    refine ⟨?_, ?_, ?_, ?_⟩
    · simp [egress, hasPort]
    · simp [ingress, hasPort]
    · intro entry found
      rw [egress] at found
      cases found
      refine ⟨ids, nodup, membersBound, ?_⟩
      simp [egressEntry, resubmit, List.flatMap_map]
    · intro entry found
      rw [ingress] at found
      cases found
      refine ⟨ids, nodup, membersBound, ?_⟩
      simp [ingressEntry, resubmit, List.flatMap_map]

/-- The ports that are bound after a sequence of events. -/
def boundAfter (deliveries : List Delivery) : Finset Id :=
  deliveries.foldl (fun bound delivery => delivery.bound bound) ∅

def deliver (config : Config) (delivery : Delivery) : Action Unit :=
  L2App.app config delivery.lports ∅ delivery.event delivery.lport

/-- After every sequence of events of local ports, the flows of every network are
exact. -/
theorem broadcast_exact (config : Config) (network : Id → LogicalSwitch)
    (key : Id → Nat)
    (distinct : ∀ id other, (network id).uniqueKey = (network other).uniqueKey →
      network id = network other)
    (deliveries : List Delivery)
    (inOrder : InOrder config network key ∅ deliveries) (id : Id) :
    BroadcastExact network key (boundAfter deliveries)
      (trace (deliver config) deliveries {}).2 (network id) := by
  suffices general : ∀ bound app, InOrder config network key bound deliveries →
      (∀ networkId, Broadcasting network key bound app networkId) →
      ∀ networkId, Broadcasting network key
        (deliveries.foldl (fun bound delivery => delivery.bound bound) bound)
        (trace (deliver config) deliveries app).2 networkId by
    refine (general ∅ {} inOrder ?_ _).exact distinct
    intro networkId
    exact ⟨∅, Or.inl ⟨rfl, rfl⟩, by simp, Or.inl ⟨rfl, rfl, rfl⟩⟩
  clear inOrder id
  induction deliveries with
  | nil =>
      intro bound app _ broadcasting
      exact broadcasting
  | cons delivery deliveries induction =>
      intro bound app inOrder broadcasting
      rcases (Broadcasting.deliver broadcasting inOrder.1).returned with
        ⟨value, after, executed, broadcastingAfter⟩
      have delivered : exec (deliver config delivery) app = (.ok value, after) := executed
      simp only [List.foldl_cons, trace, delivered]
      exact induction (delivery.bound bound) after inOrder.2 broadcastingAfter

/-- Two ports of a network that come, and one of them that goes when the store
has dropped it already. -/
theorem broadcast_exact_two_ports :
    let lswitch : LogicalSwitch := ⟨"n", 5, some "vxlan", some 100⟩
    let config : Config := ⟨fun _ => some lswitch, true⟩
    let first : LogicalPort :=
      { id := "p", uniqueKey := 7, lswitch := some "n", macs := [0xfa163e000001],
        ips := [.v4 0x0a000007] }
    let second : LogicalPort :=
      { id := "q", uniqueKey := 8, lswitch := some "n", macs := [0xfa163e000002] }
    let onlyFirst : Dict Id LogicalPort := (∅ : Dict Id LogicalPort).insert "p" first
    let onlySecond : Dict Id LogicalPort := (∅ : Dict Id LogicalPort).insert "q" second
    let both := onlyFirst.insert "q" second
    let key : Id → Nat := fun id => if id = "p" then 7 else 8
    let deliveries : List Delivery :=
      [⟨onlyFirst, true, first⟩, ⟨both, true, second⟩, ⟨onlySecond, false, first⟩]
    BroadcastExact (fun _ => lswitch) key (boundAfter deliveries)
      (trace (deliver config) deliveries {}).2 lswitch := by
  intro lswitch config first second onlyFirst onlySecond both key deliveries
  have keyedFirst : ∀ id lport, onlyFirst.lookup id = some lport → lport.id = id := by
    intro id lport found
    rw [Dict.lookup_insert_eq] at found
    split at found
    · next same =>
        cases found
        exact same.symm
    · cases found
  apply broadcast_exact config (fun _ => lswitch) key (fun _ _ _ => rfl) deliveries ?_ "p"
  refine ⟨⟨by decide, rfl, ⟨_, rfl⟩, rfl, keyedFirst, ?_⟩,
    ⟨by decide, rfl, ⟨_, rfl⟩, rfl, ?_, ?_⟩,
    ⟨by decide, rfl, ⟨_, rfl⟩, rfl, ?_, ?_⟩, trivial⟩
  · intro id member
    cases member
  · intro id lport found
    rw [Dict.lookup_insert_eq] at found
    split at found
    · next same =>
        cases found
        exact same.symm
    · exact keyedFirst id lport found
  · intro id member _
    have isFirst : id = "p" := by simpa [Delivery.bound] using member
    subst isFirst
    exact ⟨first, rfl⟩
  · intro id lport found
    rw [Dict.lookup_insert_eq] at found
    split at found
    · next same =>
        cases found
        exact same.symm
    · cases found
  · intro id member different
    have isEither : id = "q" ∨ id = "p" := by simpa [Delivery.bound] using member
    rcases isEither with rfl | same
    · exact ⟨second, rfl⟩
    · exact absurd same different

end L2App

end Dragonflow
