import Dragonflow.Controller.Apps.MetadataRuns

/-! # The proxy asks who has the address that it sees

The first packet of a connection also makes the switch learn an ARP responder. It stands
for the port whose key the address holds, and answers with the source address of the last
such packet of that port.
-/

namespace Dragonflow

namespace MetadataServiceApp

open Headers PacketRun

variable {config : Config} {headers : MetaHeaders} {flows : NxFlows MetaField}
  {connections : Connections}

/-! ## The learned responder -/

/-- The requests for the address that the proxy sees of a port. -/
def responderPattern (key : Nat) : List (Pin MetaField) :=
  [⟨⟨.ethType, 0, 16⟩, ethTypeArp⟩, ⟨⟨.arpTpa, 0, 31⟩, key⟩, ⟨⟨.arpOp, 0, 8⟩, arpRequest⟩]

/-- The responder that a packet from one address to another leaves behind. -/
def responderFlow (config : Config) (key ethSrc ethDst : Nat) : MetaFlowMod where
  table := metadataServiceReplyTable
  priority := Const.priorityHigh
  pattern := responderPattern key
  instructions :=
    [.regLoad ⟨.reg6, 0, 32⟩ 0, .regLoad ⟨.arpOp, 0, 8⟩ arpReply,
      .regLoad ⟨.arpTha, 0, 48⟩ ethDst, .regLoad ⟨.arpTpa, 0, 32⟩ config.ip.toNat,
      .regLoad ⟨.ethSrc, 0, 48⟩ ethSrc, .regLoad ⟨.arpSha, 0, 48⟩ ethSrc,
      .regLoad ⟨.arpSpa, 0, 32⟩ key, .regLoad ⟨.arpSpa, 31, 1⟩ 1]

theorem responderPattern_inj {key other : Nat}
    (same : responderPattern key = responderPattern other) : key = other := by
  simp only [responderPattern, List.cons.injEq, Pin.mk.injEq, true_and, and_true] at same
  exact same

theorem arpMessage_eq {key : Nat} (isKey : (headers .reg6).toNat = key) (small : key < 2 ^ 31) :
    arpMessage config headers =
      responderFlow config key (headers .ethSrc).toNat (headers .ethDst).toNat := by
  have ethSrc : headers.read ⟨.ethSrc, 0, 48⟩ = (headers .ethSrc).toNat := headers.read_field .ethSrc
  have ethDst : headers.read ⟨.ethDst, 0, 48⟩ = (headers .ethDst).toNat := headers.read_field .ethDst
  have whole : headers.read ⟨.reg6, 0, 32⟩ = key := (headers.read_field .reg6).trans isKey
  have low : headers.read ⟨.reg6, 0, 31⟩ = key := read_key isKey small
  unfold arpMessage learnArpResponder Learn.message
  simp only [List.filterMap_cons, List.filterMap_nil, FlowSpec.pin, FlowSpec.action,
    LearnSource.value, ethSrc, ethDst, whole, low]
  rfl

/-- The responders of the reply table are those of packets that ports have sent, and every
port that has opened a connection has one. -/
structure Responds (config : Config) (flows : NxFlows MetaField) (events : List Event) :
    Prop where
  known : ∀ lport headers, Event.sent lport headers ∈ events → IsSyn headers →
    ∃ ethSrc ethDst, flows.Has (responderFlow config lport.uniqueKey ethSrc ethDst).flow
  learned : ∀ flow, flows.Has flow → flow.table = metadataServiceReplyTable →
    ⟨⟨.ethType, 0, 16⟩, ethTypeArp⟩ ∈ flow.pattern →
      ∃ lport headers, Event.sent lport headers ∈ events ∧ IsSyn headers ∧
        flow = (responderFlow config lport.uniqueKey (headers .ethSrc).toNat
          (headers .ethDst).toNat).flow

theorem responds_installed : Responds config (installed config) [] := by
  constructor
  · intro lport headers impossible
    cases impossible
  · intro flow present isReply
    unfold installed at present
    rw [FlowTable.has_applyAll_add _ addTapMetadataPort_add addTapMetadataPort_agree] at present
    rcases present with ⟨message, member, rfl⟩ | ⟨isPresent, _⟩
    · exact absurd isReply (addTapMetadataPort_tables message member)
    · exact absurd isPresent FlowTable.not_has_empty

/-- An event that makes the switch learn nothing. -/
theorem Responds.concat {events : List Event} {event : Event}
    (responds : Responds config flows events)
    (notSyn : ∀ lport headers, event = .sent lport headers → ¬ IsSyn headers) :
    Responds config flows (events ++ [event]) := by
  constructor
  · intro lport headers isSent isSyn
    rcases List.mem_append.mp isSent with earlier | isLast
    · exact responds.known lport headers earlier isSyn
    · exact absurd isSyn (notSyn lport headers (List.mem_singleton.mp isLast).symm)
  · intro flow present isReply isArp
    rcases responds.learned flow present isReply isArp with ⟨lport, headers, earlier, isOwn⟩
    exact ⟨lport, headers, List.mem_append_left _ earlier, isOwn⟩

/-- A responder for IP packets would not be one: the way back is another flow. -/
theorem returnFlow_not_arp {key port address : Nat} :
    ⟨⟨.ethType, 0, 16⟩, ethTypeArp⟩ ∉ (returnFlow key port address).flow.pattern := by
  change _ ∉ returnPattern key port
  simp [returnPattern, ethTypeArp, ethTypeIp]

theorem Responds.learn {events : List Event} (responds : Responds config flows events)
    {lport : LogicalPort} (isSyn : IsSyn headers) (port address : Nat) :
    Responds config
      ((flows.apply (returnFlow lport.uniqueKey port address)).apply
        (responderFlow config lport.uniqueKey (headers .ethSrc).toNat (headers .ethDst).toNat))
      (events ++ [.sent lport headers]) := by
  have has : ∀ flow : Flow (List (Pin MetaField)) MetaAction,
      ((flows.apply (returnFlow lport.uniqueKey port address)).apply (responderFlow config
        lport.uniqueKey (headers .ethSrc).toNat (headers .ethDst).toNat)).Has flow ↔
      flow = (responderFlow config lport.uniqueKey (headers .ethSrc).toNat
          (headers .ethDst).toNat).flow ∨
        ((flow = (returnFlow lport.uniqueKey port address).flow ∨
          (flows.Has flow ∧ ¬ (returnFlow lport.uniqueKey port address).Places flow)) ∧
          ¬ (responderFlow config lport.uniqueKey (headers .ethSrc).toNat
            (headers .ethDst).toNat).Places flow) := by
    intro flow
    rw [FlowTable.has_apply_add rfl, FlowTable.has_apply_add rfl]
  constructor
  · intro other otherHeaders isSent otherSyn
    by_cases same : other.uniqueKey = lport.uniqueKey
    · rw [same]
      exact ⟨_, _, (has _).mpr (Or.inl rfl)⟩
    · rcases List.mem_append.mp isSent with earlier | isLast
      · rcases responds.known other otherHeaders earlier otherSyn with
          ⟨ethSrc, ethDst, isKnown⟩
        refine ⟨ethSrc, ethDst, (has _).mpr (Or.inr ⟨Or.inr ⟨isKnown, ?_⟩, ?_⟩)⟩
        · intro places
          have samePriority : Const.priorityHigh = ofpDefaultPriority := places.2.1
          cases samePriority
        · intro places
          exact same (responderPattern_inj places.2.2)
      · cases List.mem_singleton.mp isLast
        exact absurd rfl same
  · intro flow present isReply isArp
    rcases (has flow).mp present with rfl | ⟨rfl | ⟨had, _⟩, _⟩
    · exact ⟨lport, headers, by simp, isSyn, rfl⟩
    · exact absurd isArp returnFlow_not_arp
    · rcases responds.learned flow had isReply isArp with ⟨other, headers, earlier, isOwn⟩
      exact ⟨other, headers, List.mem_append_left _ earlier, isOwn⟩

/-! ## Runs -/

/-- What a request makes the switch learn. -/
theorem Tracks.learned_request (tracks : Tracks config flows connections)
    {lport : LogicalPort} (isRequest : IsRequest lport headers)
    {final : PacketRun MetaField.width}
    (ends : Ends (enter flows servicesClassificationTable headers) final) :
    ∃ prepared : MetaHeaders,
      (∀ field, field ≠ .ipv4Dst → field ≠ .tcpDst → prepared field = headers field) ∧
        final.flows = learnedFrom config flows prepared := by
  rcases ends_incoming config headers with ⟨prepared, same, incoming⟩
  have ethType : (prepared .ethType).toNat = ethTypeIp := by
    rw [same .ethType (by decide) (by decide)]
    exact isRequest.ethType
  have ipProto : (prepared .ipProto).toNat = ipprotoTcp := by
    rw [same .ipProto (by decide) (by decide)]
    exact isRequest.ipProto
  unfold enter at ends
  have entered := (ends_hit rfl rfl (tracks.executes_incoming isRequest)).mp ends
  unfold incomingFlow at entered
  simp only [List.map_append, List.append_assoc] at entered
  have submitted := (ends_act rfl).mp ((incoming flows _ final).mp entered)
  have served := (ends_hit rfl rfl (tracks.executes_service ethType ipProto)).mp submitted
  have isFinal := (ends_service flows prepared final).mp served
  exact ⟨prepared, same, by rw [isFinal]⟩

variable {lports : List LogicalPort}

theorem reaches_responds (small : ∀ lport ∈ lports, lport.uniqueKey < 2 ^ 31)
    {events : List Event} (reaches : Reaches config lports events flows) :
    Responds config flows events := by
  induction reaches with
  | start => exact responds_installed
  | received before ends induction =>
      rw [(reaches_tracks small before).received ends]
      exact induction.concat fun lport headers impossible => by cases impossible
  | sent before member isRequest ends induction =>
      rename_i events flows lport headers final
      rcases (reaches_tracks small before).learned_request isRequest ends with
        ⟨prepared, same, isFinal⟩
      have reg6 : (prepared .reg6).toNat = lport.uniqueKey := by
        rw [same .reg6 (by decide) (by decide)]
        exact isRequest.reg6
      have sameSyn : IsSyn prepared ↔ IsSyn headers := by
        unfold IsSyn Headers.read
        rw [same .tcpFlags (by decide) (by decide)]
      rw [isFinal]
      unfold learnedFrom
      by_cases isSyn : IsSyn prepared
      · rw [if_pos isSyn, learn_returnFlow reg6 (small _ member),
          arpMessage_eq reg6 (small _ member), same .ethSrc (by decide) (by decide),
          same .ethDst (by decide) (by decide)]
        exact induction.learn (sameSyn.mp isSyn) _ _
      · rw [if_neg isSyn]
        apply induction.concat
        intro other otherHeaders isSent
        cases isSent
        exact fun syn => isSyn (sameSyn.mpr syn)

/-! ## Answers -/

/-- The proxy asks for the address that it sees of a port. -/
structure IsArpRequest (config : Config) (key : Nat) (headers : MetaHeaders) : Prop where
  inPort : (headers .inPort).toNat = config.portNum
  ethType : (headers .ethType).toNat = ethTypeArp
  arpOp : (headers .arpOp).toNat = arpRequest
  arpTpa : (headers .arpTpa).toNat = seenAddress key

theorem Tracks.executes_arp (tracks : Tracks config flows connections)
    (inPort : (headers .inPort).toNat = config.portNum)
    (ethType : (headers .ethType).toNat = ethTypeArp) :
    flows.Executes headers.Meets ingressClassificationDispatchTable
      (arpFlow config).instructions := by
  apply tracks.executes (arpFlow config)
  · simp [addTapMetadataPort]
  · unfold arpFlow
    simp only [meets_cons, meets_nil, and_true, read_is]
    exact ⟨inPort, ethType⟩
  · intro other member inTable meets
    rcases mem_addTapMetadataPort.mp member with rfl | rfl | rfl | rfl | rfl
    · cases inTable
    · cases inTable
    · cases inTable
    · exact Or.inl rfl
    · unfold responseFlow at meets
      simp only [meets_cons, meets_nil, and_true, read_is] at meets
      cases ethType.symm.trans meets.2

theorem meets_responderPattern {key : Nat} :
    headers.Meets (responderPattern key) ↔
      (headers .ethType).toNat = ethTypeArp ∧ headers.read ⟨.arpTpa, 0, 31⟩ = key ∧
        headers.read ⟨.arpOp, 0, 8⟩ = arpRequest := by
  unfold responderPattern
  simp only [meets_cons, meets_nil, and_true]
  rw [← headers.read_field .ethType]
  exact Iff.rfl

theorem IsArpRequest.meets {key : Nat} (small : key < 2 ^ 31)
    (isRequest : IsArpRequest config key headers) (other : Nat) :
    headers.Meets (responderPattern other) ↔ other = key := by
  have isLow : headers.read ⟨.arpTpa, 0, 31⟩ = key := by
    unfold Headers.read
    rw [isRequest.arpTpa, pow_zero, Nat.div_one]
    change (2 ^ 31 + key) % 2 ^ 31 = key
    omega
  have isOp : headers.read ⟨.arpOp, 0, 8⟩ = arpRequest := by
    unfold Headers.read
    rw [isRequest.arpOp]
    rfl
  rw [meets_responderPattern, isLow]
  constructor
  · exact fun meets => meets.2.1.symm
  · exact fun same => ⟨isRequest.ethType, same.symm, isOp⟩

theorem Responds.executes {events : List Event} (tracks : Tracks config flows connections)
    (responds : Responds config flows events) {key ethSrc ethDst : Nat} (small : key < 2 ^ 31)
    (isKnown : flows.Has (responderFlow config key ethSrc ethDst).flow)
    (isRequest : IsArpRequest config key headers) :
    flows.Executes headers.Meets metadataServiceReplyTable
      (responderFlow config key ethSrc ethDst).instructions := by
  apply FlowTable.executes_of_only isKnown ((isRequest.meets small key).mpr rfl)
  intro other present inTable accepted
  have isArp : ⟨⟨.ethType, 0, 16⟩, ethTypeArp⟩ ∈ other.pattern := by
    rcases tracks.learned other present inTable with
      ⟨otherKey, port, address, otherSmall, _, rfl⟩ | isArp
    · have isIp := ((meets_returnPattern otherSmall).mp accepted).1
      cases isRequest.ethType.symm.trans isIp
    · exact isArp
  rcases responds.learned other present inTable isArp with ⟨lport, learnt, _, _, rfl⟩
  have sameKey : lport.uniqueKey = key := (isRequest.meets small _).mp accepted
  apply present.unique isKnown
  rw [sameKey]
  rfl

/-- The request after the actions of the responder. -/
def answer (config : Config) (key ethSrc ethDst : Nat) (headers : MetaHeaders) :
    MetaHeaders :=
  (((((((headers.write ⟨.reg6, 0, 32⟩ 0).write ⟨.arpOp, 0, 8⟩ arpReply).write
    ⟨.arpTha, 0, 48⟩ ethDst).write ⟨.arpTpa, 0, 32⟩ config.ip.toNat).write
      ⟨.ethSrc, 0, 48⟩ ethSrc).write ⟨.arpSha, 0, 48⟩ ethSrc).write
        ⟨.arpSpa, 0, 32⟩ key).write ⟨.arpSpa, 31, 1⟩ 1

/-- What an answer says: the address is at the source address of a packet. -/
structure Answers (config : Config) (key ethSrc : Nat) (headers : MetaHeaders) : Prop where
  arpOp : (headers .arpOp).toNat = arpReply
  arpSpa : (headers .arpSpa).toNat = seenAddress key
  arpSha : (headers .arpSha).toNat = ethSrc
  ethSrc : (headers .ethSrc).toNat = ethSrc
  arpTpa : (headers .arpTpa).toNat = config.ip.toNat

theorem answer_answers {key ethSrc ethDst : Nat} (small : key < 2 ^ 31)
    (isAddress : ethSrc < 2 ^ 48) (isRequest : IsArpRequest config key headers) :
    Answers config key ethSrc (answer config key ethSrc ethDst headers) := by
  unfold answer
  constructor
  · rw [Headers.write_other _ (by decide), Headers.write_other _ (by decide),
      Headers.write_other _ (by decide), Headers.write_other _ (by decide),
      Headers.write_other _ (by decide), Headers.write_other _ (by decide)]
    have isWritten :=
      (headers.write ⟨.reg6, 0, 32⟩ 0).toNat_write ⟨.arpOp, 0, 8⟩ arpReply
    have kept : headers.write ⟨.reg6, 0, 32⟩ 0 .arpOp = headers .arpOp :=
      Headers.write_other _ (by decide)
    rw [kept, isRequest.arpOp] at isWritten
    exact isWritten
  · generalize ((((((headers.write ⟨.reg6, 0, 32⟩ 0).write ⟨.arpOp, 0, 8⟩ arpReply).write
      ⟨.arpTha, 0, 48⟩ ethDst).write ⟨.arpTpa, 0, 32⟩ config.ip.toNat).write
        ⟨.ethSrc, 0, 48⟩ ethSrc).write ⟨.arpSha, 0, 48⟩ ethSrc) = before
    have isMoved : (before.write ⟨.arpSpa, 0, 32⟩ key .arpSpa).toNat = key :=
      toNat_set .arpSpa (show key < 2 ^ 32 by omega)
    have isLoaded := (before.write ⟨.arpSpa, 0, 32⟩ key).toNat_write ⟨.arpSpa, 31, 1⟩ 1
    rw [isMoved] at isLoaded
    refine isLoaded.trans ?_
    change (key % 2 ^ 31 + 1 % 2 ^ 1 * 2 ^ 31 + key / 2 ^ (31 + 1) * 2 ^ (31 + 1)) %
      2 ^ 32 = 2 ^ 31 + key
    omega
  · rw [Headers.write_other _ (by decide), Headers.write_other _ (by decide)]
    exact toNat_set .arpSha isAddress
  · rw [Headers.write_other _ (by decide), Headers.write_other _ (by decide),
      Headers.write_other _ (by decide)]
    exact toNat_set .ethSrc isAddress
  · rw [Headers.write_other _ (by decide), Headers.write_other _ (by decide),
      Headers.write_other _ (by decide), Headers.write_other _ (by decide)]
    exact toNat_set .arpTpa config.ip.isLt

theorem Responds.answered {events : List Event} (tracks : Tracks config flows connections)
    (responds : Responds config flows events) {key ethSrc ethDst : Nat} (small : key < 2 ^ 31)
    (isKnown : flows.Has (responderFlow config key ethSrc ethDst).flow)
    (isRequest : IsArpRequest config key headers) (final : PacketRun MetaField.width) :
    Ends (enter flows ingressClassificationDispatchTable headers) final ↔
      final =
        { headers := answer config key ethSrc ethDst headers, flows := flows, pending := [],
          outputs := [(ofppInPort, answer config key ethSrc ethDst headers)] } := by
  unfold enter
  apply (ends_hit rfl rfl (tracks.executes_arp isRequest.inPort isRequest.ethType)).trans
  apply (ends_act rfl).trans
  apply (ends_hit rfl rfl (responds.executes tracks small isKnown isRequest)).trans
  apply (ends_act rfl).trans
  apply (ends_act rfl).trans
  apply (ends_act rfl).trans
  apply (ends_act rfl).trans
  apply (ends_act rfl).trans
  apply (ends_act rfl).trans
  apply (ends_act rfl).trans
  apply (ends_act rfl).trans
  apply (ends_act rfl).trans
  exact ends_nil rfl

/-- The proxy asks for the address of the first port. -/
def firstArpRequest : MetaHeaders
  | .inPort => 7
  | .ethType => 0x0806
  | .arpOp => 1
  | .arpTpa => 0x80000001
  | _ => 0

/-- In every interleaving, once a port has opened a connection, the proxy is told that the
address it sees of the port is at a source address that the port itself has used. -/
theorem arp_answered_for_port
    (distinct : ∀ lport ∈ lports, ∀ other ∈ lports,
      lport.uniqueKey = other.uniqueKey → lport = other)
    (small : ∀ lport ∈ lports, lport.uniqueKey < 2 ^ 31) {events : List Event}
    (reaches : Reaches config lports events flows) {lport : LogicalPort} {syn : MetaHeaders}
    (isSent : Event.sent lport syn ∈ events) (isSyn : IsSyn syn)
    (isRequest : IsArpRequest config lport.uniqueKey headers) :
    ∃ final answered last,
      (∀ other, Ends (enter flows ingressClassificationDispatchTable headers) other ↔
        other = final) ∧
      final.outputs = [(ofppInPort, answered)] ∧ final.arrivals = [] ∧
      final.flows = flows ∧ Event.sent lport last ∈ events ∧ IsSyn last ∧
      Answers config lport.uniqueKey (last .ethSrc).toNat answered := by
  have fromPorts := reaches_ports reaches
  have member : lport ∈ lports := fromPorts lport syn isSent
  have responds := reaches_responds small reaches
  rcases responds.known lport syn isSent isSyn with ⟨ethSrc, ethDst, isKnown⟩
  have isReply : ⟨⟨.ethType, 0, 16⟩, ethTypeArp⟩ ∈ responderPattern lport.uniqueKey :=
    List.mem_cons_self
  rcases responds.learned _ isKnown rfl isReply with ⟨other, last, isEvent, lastSyn, isOwn⟩
  have samePort : lport = other := distinct lport member other (fromPorts other last isEvent)
    (responderPattern_inj (congrArg Flow.pattern isOwn))
  subst samePort
  rw [isOwn] at isKnown
  have answered := responds.answered (reaches_tracks small reaches) (small lport member)
    isKnown isRequest
  exact ⟨_, _, last, answered, rfl, rfl, rfl, isEvent, lastSyn,
    answer_answers (small lport member) (last .ethSrc).isLt isRequest⟩

theorem arp_answered_for_port_first :
    ∃ flows final answered,
      Reaches proxyConfig [firstPort, secondPort]
          [.sent firstPort (synOf 1), .sent secondPort (synOf 2)] flows ∧
        Ends (enter flows ingressClassificationDispatchTable firstArpRequest) final ∧
        final.outputs = [(ofppInPort, answered)] ∧
        (answered .arpSpa).toNat = 0x80000001 ∧
        (answered .arpSha).toNat = 0xfa163e000001 := by
  rcases reaches_twoPorts with ⟨flows, reaches⟩
  have isArp : IsArpRequest proxyConfig firstPort.uniqueKey firstArpRequest :=
    ⟨rfl, rfl, rfl, rfl⟩
  rcases arp_answered_for_port twoPorts_distinct
    (fun lport member => (twoPorts_small lport member).2) reaches List.mem_cons_self
    (by decide) isArp with
    ⟨final, answered, last, ends, outputs, _, _, isEvent, _, answers⟩
  -- The only packet of the first port is its own.
  have isFirst : last = synOf 1 := by
    rcases List.mem_cons.mp isEvent with same | later
    · exact (Event.sent.inj same).2
    · have same := Event.sent.inj (List.mem_singleton.mp later)
      exact absurd same.1 (by decide)
  subst isFirst
  exact ⟨flows, final, answered, reaches, (ends final).mpr rfl, outputs, answers.arpSpa,
    answers.arpSha⟩

end MetadataServiceApp

end Dragonflow
