import Dragonflow.Controller.Apps.Metadata

/-! # What the metadata service learns

The first packet of a connection makes the switch learn a flow for its replies and a
responder. The switch keeps track of the connections: the table of the replies has the way
back of each, and nothing else that a reply could meet.
-/

namespace Dragonflow

namespace MetadataServiceApp

open Headers PacketRun

variable {config : Config} {headers : MetaHeaders} {flows : NxFlows MetaField}

/-! ## Reading whole fields -/

theorem read_is (field : MetaField) (value : Nat) :
    headers.read (field.is value).slice = (field.is value).value ↔
      (headers field).toNat = value := by
  rw [MetaField.is, read_field]

/-- The low bits of the key of a port are all of it. -/
theorem read_key {key : Nat} (isKey : (headers .reg6).toNat = key) (small : key < 2 ^ 31) :
    headers.read ⟨.reg6, 0, 31⟩ = key := by
  unfold Headers.read
  rw [isKey, pow_zero, Nat.div_one, Nat.mod_eq_of_lt small]

/-- The address that the proxy sees of a port. -/
def seenAddress (key : Nat) : Nat := 2 ^ 31 + key

/-- Both parts of the learned match ask for the address that the proxy sees. -/
theorem read_seen {key : Nat} (small : key < 2 ^ 31) :
    (headers.read ⟨.ipv4Dst, 31, 1⟩ = 1 ∧ headers.read ⟨.ipv4Dst, 0, 31⟩ = key) ↔
      (headers .ipv4Dst).toNat = seenAddress key := by
  have bound : (headers .ipv4Dst).toNat < 2 ^ 32 := (headers .ipv4Dst).isLt
  unfold Headers.read seenAddress
  simp only [pow_zero, Nat.div_one]
  omega

/-! ## The learned flow -/

/-- The packets that the proxy sends to a port. -/
def returnPattern (key port : Nat) : List (Pin MetaField) :=
  [⟨⟨.ethType, 0, 16⟩, ethTypeIp⟩, ⟨⟨.ipProto, 0, 8⟩, ipprotoTcp⟩,
    ⟨⟨.ipv4Dst, 31, 1⟩, 1⟩, ⟨⟨.ipv4Dst, 0, 31⟩, key⟩, ⟨⟨.tcpDst, 0, 16⟩, port⟩]

/-- The way back to a port. -/
def returnFlow (key port : Nat) (address : Nat) : MetaFlowMod where
  table := metadataServiceReplyTable
  priority := ofpDefaultPriority
  pattern := returnPattern key port
  instructions := [.regLoad ⟨.ipv4Dst, 0, 32⟩ address,
    .regLoad ⟨.ipv4Src, 0, 32⟩ metadataServiceIp, .regLoad ⟨.tcpSrc, 0, 16⟩ metadataHttpPort,
    .regLoad ⟨.reg7, 0, 32⟩ key]

theorem learn_returnFlow {key : Nat} (isKey : (headers .reg6).toNat = key)
    (small : key < 2 ^ 31) :
    learnReturnFlow.message headers =
      returnFlow key (headers .tcpSrc).toNat (headers .ipv4Src).toNat := by
  have isWhole : headers.read ⟨.reg6, 0, 32⟩ = key := (headers.read_field .reg6).trans isKey
  have isPort : headers.read ⟨.tcpSrc, 0, 16⟩ = (headers .tcpSrc).toNat := headers.read_field .tcpSrc
  have isAddress : headers.read ⟨.ipv4Src, 0, 32⟩ = (headers .ipv4Src).toNat :=
    headers.read_field .ipv4Src
  have message : learnReturnFlow.message headers =
      { returnFlow (headers.read ⟨.reg6, 0, 31⟩) (headers.read ⟨.tcpSrc, 0, 16⟩)
          (headers.read ⟨.ipv4Src, 0, 32⟩) with
        instructions := [.regLoad ⟨.ipv4Dst, 0, 32⟩ (headers.read ⟨.ipv4Src, 0, 32⟩),
          .regLoad ⟨.ipv4Src, 0, 32⟩ metadataServiceIp,
          .regLoad ⟨.tcpSrc, 0, 16⟩ metadataHttpPort,
          .regLoad ⟨.reg7, 0, 32⟩ (headers.read ⟨.reg6, 0, 32⟩)] } := rfl
  rw [message, read_key isKey small, isWhole, isPort, isAddress]
  rfl

theorem meets_returnPattern {key port : Nat} (small : key < 2 ^ 31) :
    headers.Meets (returnPattern key port) ↔
      (headers .ethType).toNat = ethTypeIp ∧ (headers .ipProto).toNat = ipprotoTcp ∧
        (headers .ipv4Dst).toNat = seenAddress key ∧ (headers .tcpDst).toNat = port := by
  unfold returnPattern
  simp only [meets_cons, meets_nil, and_true]
  rw [← headers.read_field .ethType, ← headers.read_field .ipProto, ← headers.read_field .tcpDst,
    ← read_seen small]
  simp only [MetaField.width, and_assoc]

theorem returnPattern_inj {key port otherKey otherPort : Nat}
    (same : returnPattern key port = returnPattern otherKey otherPort) :
    key = otherKey ∧ port = otherPort := by
  simp only [returnPattern, List.cons.injEq, Pin.mk.injEq, true_and, and_true] at same
  exact same

/-! ## Requests -/

/-- A packet of a metadata connection, as the classifier has marked it. -/
structure IsRequest (lport : LogicalPort) (headers : MetaHeaders) : Prop where
  reg6 : (headers .reg6).toNat = lport.uniqueKey
  ethType : (headers .ethType).toNat = ethTypeIp
  ipProto : (headers .ipProto).toNat = ipprotoTcp
  ipv4Dst : (headers .ipv4Dst).toNat = metadataServiceIp
  tcpDst : (headers .tcpDst).toNat = metadataHttpPort

/-- The packet opens a connection. -/
def IsSyn (headers : MetaHeaders) : Prop :=
  headers.read ⟨.tcpFlags, 1, 1⟩ = 1 ∧ headers.read ⟨.tcpFlags, 4, 1⟩ = 0

instance (headers : MetaHeaders) : Decidable (IsSyn headers) :=
  inferInstanceAs (Decidable (_ ∧ _))

/-- A packet of the proxy to the address that it sees of a port. -/
structure IsReply (config : Config) (key port : Nat) (headers : MetaHeaders) : Prop where
  inPort : (headers .inPort).toNat = config.portNum
  ethType : (headers .ethType).toNat = ethTypeIp
  ipProto : (headers .ipProto).toNat = ipprotoTcp
  ipv4Dst : (headers .ipv4Dst).toNat = seenAddress key
  tcpDst : (headers .tcpDst).toNat = port

/-- The source addresses of the last packets that opened the connections, by the key and
the port that they came from. -/
abbrev Connections := Nat → Nat → Option Nat

def Connections.opened (connections : Connections) (key : Nat) (headers : MetaHeaders) :
    Connections :=
  if IsSyn headers then
    Function.update connections key
      (Function.update (connections key) (headers .tcpSrc).toNat (some (headers .ipv4Src).toNat))
  else connections

/-- The flows are those that were installed, and in the reply table those that the
connections have made the switch learn. -/
structure Tracks (config : Config) (flows : NxFlows MetaField) (connections : Connections) :
    Prop where
  installed : ∀ flow, flow.table ≠ metadataServiceReplyTable → (flows.Has flow ↔
    ∃ message ∈ addTapMetadataPort config, flow = message.flow)
  learned : ∀ flow, flows.Has flow → flow.table = metadataServiceReplyTable →
    (∃ key port address, key < 2 ^ 31 ∧ connections key port = some address ∧
      flow = (returnFlow key port address).flow) ∨
      ⟨⟨.ethType, 0, 16⟩, ethTypeArp⟩ ∈ flow.pattern
  known : ∀ key port address, connections key port = some address →
    flows.Has (returnFlow key port address).flow
  quiet : ∀ flow, flows.Has flow → flow.table = metadataServiceReplyTable →
    ∀ action ∈ flow.entry.instructions, ∃ dst value, action = .regLoad dst value

theorem mem_addTapMetadataPort {message : MetaFlowMod} :
    message ∈ addTapMetadataPort config ↔
      message = incomingFlow config ∨ message = regularFlow config ∨
        message = synFlow config ∨ message = arpFlow config ∨
          message = responseFlow config := by
  simp only [addTapMetadataPort, List.mem_cons, List.not_mem_nil, or_false]

theorem addTapMetadataPort_add :
    ∀ message ∈ addTapMetadataPort config, message.command = .add := by
  intro message member
  rcases mem_addTapMetadataPort.mp member with rfl | rfl | rfl | rfl | rfl <;> rfl

theorem addTapMetadataPort_tables :
    ∀ message ∈ addTapMetadataPort config, message.table ≠ metadataServiceReplyTable := by
  intro message member
  rcases mem_addTapMetadataPort.mp member with rfl | rfl | rfl | rfl | rfl <;>
    simp [incomingFlow, regularFlow, synFlow, arpFlow, responseFlow,
      servicesClassificationTable, metadataServiceTable, metadataServiceReplyTable,
      ingressClassificationDispatchTable]

theorem addTapMetadataPort_agree : ∀ message ∈ addTapMetadataPort config,
    ∀ other ∈ addTapMetadataPort config, message.Places other.flow →
      other.flow = message.flow := by
  intro message member other otherMember places
  rcases mem_addTapMetadataPort.mp member with rfl | rfl | rfl | rfl | rfl <;>
    rcases mem_addTapMetadataPort.mp otherMember with rfl | rfl | rfl | rfl | rfl <;> first
    | rfl
    | (exfalso
       simp [FlowMod.Places, FlowMod.identifies, FlowMod.flow, incomingFlow, regularFlow,
         synFlow, arpFlow, responseFlow, servicesClassificationTable, metadataServiceTable,
         ingressClassificationDispatchTable, Const.priorityMedium, Const.priorityHigh,
         MetaField.is, ethTypeIp, ethTypeArp] at places)

theorem tracks_installed : Tracks config (installed config) fun _ _ => none := by
  have has : ∀ flow, (installed config).Has flow ↔
      ∃ message ∈ addTapMetadataPort config, flow = message.flow := by
    intro flow
    unfold installed
    rw [FlowTable.has_applyAll_add _ addTapMetadataPort_add addTapMetadataPort_agree]
    simp [FlowTable.not_has_empty]
  have elsewhere : ∀ flow, (installed config).Has flow →
      flow.table ≠ metadataServiceReplyTable := by
    intro flow present
    rcases (has flow).mp present with ⟨message, member, rfl⟩
    exact addTapMetadataPort_tables message member
  constructor
  · exact fun flow _ => has flow
  · exact fun flow present isReply => absurd isReply (elsewhere flow present)
  · intro key port address impossible
    cases impossible
  · exact fun flow present isReply => absurd isReply (elsewhere flow present)

variable {connections : Connections}

/-! ## Learning -/

theorem Connections.opened_of_syn (isSyn : IsSyn headers) (key other port : Nat) :
    connections.opened key headers other port =
      if other = key ∧ port = (headers .tcpSrc).toNat then some (headers .ipv4Src).toNat
      else connections other port := by
  unfold Connections.opened
  rw [if_pos isSyn]
  by_cases sameKey : other = key
  · subst sameKey
    rw [Function.update_self]
    by_cases samePort : port = (headers .tcpSrc).toNat
    · rw [samePort, Function.update_self, if_pos ⟨rfl, rfl⟩]
    · rw [Function.update_of_ne samePort, if_neg fun both => samePort both.2]
  · rw [Function.update_of_ne sameKey, if_neg fun both => sameKey both.1]

/-- The flow of the ARP responder that is learned with a connection. -/
def arpMessage (config : Config) (headers : MetaHeaders) : MetaFlowMod :=
  (learnArpResponder config).message headers

theorem arpMessage_apart {key port address : Nat} :
    ¬ (arpMessage config headers).Places (returnFlow key port address).flow := by
  intro places
  have samePriority : ofpDefaultPriority = Const.priorityHigh := places.2.1
  cases samePriority

theorem Tracks.learn (tracks : Tracks config flows connections) {key : Nat}
    (small : key < 2 ^ 31) (isSyn : IsSyn headers) :
    Tracks config ((flows.apply (returnFlow key (headers .tcpSrc).toNat
        (headers .ipv4Src).toNat)).apply (arpMessage config headers))
      (connections.opened key headers) := by
  have has : ∀ flow : Flow (List (Pin MetaField)) MetaAction,
      ((flows.apply (returnFlow key (headers .tcpSrc).toNat
        (headers .ipv4Src).toNat)).apply (arpMessage config headers)).Has flow ↔
      flow = (arpMessage config headers).flow ∨
        ((flow = (returnFlow key (headers .tcpSrc).toNat (headers .ipv4Src).toNat).flow ∨
          (flows.Has flow ∧ ¬ (returnFlow key (headers .tcpSrc).toNat
            (headers .ipv4Src).toNat).Places flow)) ∧
          ¬ (arpMessage config headers).Places flow) := by
    intro flow
    rw [FlowTable.has_apply_add rfl, FlowTable.has_apply_add rfl]
  constructor
  · intro flow elsewhere
    rw [← tracks.installed flow elsewhere, has]
    constructor
    · intro present
      rcases present with rfl | ⟨rfl | ⟨had, _⟩, _⟩
      · exact absurd rfl elsewhere
      · exact absurd rfl elsewhere
      · exact had
    · intro had
      exact Or.inr ⟨Or.inr ⟨had, fun places => elsewhere places.1⟩,
        fun places => elsewhere places.1⟩
  · intro flow present isReply
    rcases (has flow).mp present with rfl | ⟨rfl | ⟨had, notPlaces⟩, _⟩
    · exact Or.inr List.mem_cons_self
    · refine Or.inl ⟨key, _, (headers .ipv4Src).toNat, small, ?_, rfl⟩
      rw [Connections.opened_of_syn isSyn, if_pos ⟨rfl, rfl⟩]
    · rcases tracks.learned flow had isReply with ⟨other, port, address, otherSmall,
        isKnown, rfl⟩ | isArp
      · refine Or.inl ⟨other, port, address, otherSmall, ?_, rfl⟩
        rw [Connections.opened_of_syn isSyn, if_neg]
        · exact isKnown
        · intro same
          rw [same.1, same.2] at notPlaces
          exact notPlaces ⟨rfl, rfl, rfl⟩
      · exact Or.inr isArp
  · intro other port address isKnown
    rw [has]
    refine Or.inr ⟨?_, arpMessage_apart⟩
    rw [Connections.opened_of_syn isSyn] at isKnown
    by_cases same : other = key ∧ port = (headers .tcpSrc).toNat
    · rw [if_pos same] at isKnown
      cases isKnown
      rw [same.1, same.2]
      exact Or.inl rfl
    · rw [if_neg same] at isKnown
      refine Or.inr ⟨tracks.known other port address isKnown, ?_⟩
      intro places
      exact same (returnPattern_inj places.2.2)
  · intro flow present isReply action member
    rcases (has flow).mp present with rfl | ⟨rfl | ⟨had, _⟩, _⟩
    · have loads : ∀ action ∈ (arpMessage config headers).instructions,
          ∃ dst value, action = .regLoad dst value := by
        intro action member
        rcases List.mem_filterMap.mp member with ⟨spec, _, isAction⟩
        cases spec with
        | specMatch src dst offset bits => cases isAction
        | specLoad src dst offset bits =>
            cases isAction
            exact ⟨_, _, rfl⟩
      exact loads action member
    · have loads : ∀ action ∈ (returnFlow key (headers .tcpSrc).toNat
          (headers .ipv4Src).toNat).instructions,
          ∃ dst value, action = .regLoad dst value := by
        intro action member
        simp only [returnFlow, List.mem_cons, List.not_mem_nil, or_false] at member
        rcases member with rfl | rfl | rfl | rfl <;> exact ⟨_, _, rfl⟩
      exact loads action member
    · exact tracks.quiet flow had isReply action member

/-! ## The tables -/

/-- The one flow of a table that a packet meets, or the highest of them. -/
theorem Tracks.executes (tracks : Tracks config flows connections) (message : MetaFlowMod)
    (member : message ∈ addTapMetadataPort config) (meets : headers.Meets message.pattern)
    (highest : ∀ other ∈ addTapMetadataPort config, other.table = message.table →
      headers.Meets other.pattern → other = message ∨ other.priority < message.priority) :
    flows.Executes headers.Meets message.table message.instructions := by
  have elsewhere := addTapMetadataPort_tables message member
  have selected : flows.Selects headers.Meets message.table message.flow := by
    refine ⟨(tracks.installed message.flow elsewhere).mpr ⟨message, member, rfl⟩, rfl, meets,
      ?_⟩
    intro other present inTable accepted
    rcases (tracks.installed other (inTable ▸ elsewhere)).mp present with
      ⟨second, secondMember, rfl⟩
    rcases highest second secondMember inTable accepted with rfl | lower
    · exact Nat.le_refl _
    · exact Nat.le_of_lt lower
  apply selected.executes
  intro other present inTable accepted samePriority
  rcases (tracks.installed other (inTable ▸ elsewhere)).mp present with
    ⟨second, secondMember, rfl⟩
  rcases highest second secondMember inTable accepted with rfl | lower
  · rfl
  · have same : second.priority = message.priority := samePriority
    omega

theorem meets_incomingFlow {lport : LogicalPort} (isRequest : IsRequest lport headers) :
    headers.Meets (incomingFlow config).pattern := by
  unfold incomingFlow
  simp only [meets_cons, meets_nil, and_true, read_is]
  exact ⟨isRequest.ethType, isRequest.ipv4Dst, isRequest.ipProto, isRequest.tcpDst⟩

theorem Tracks.executes_incoming (tracks : Tracks config flows connections)
    {lport : LogicalPort} (isRequest : IsRequest lport headers) :
    flows.Executes headers.Meets servicesClassificationTable
      (incomingFlow config).instructions := by
  apply tracks.executes (incomingFlow config)
  · exact List.mem_cons_self
  · exact meets_incomingFlow isRequest
  · intro other member inTable _
    rcases mem_addTapMetadataPort.mp member with rfl | rfl | rfl | rfl | rfl
    · exact Or.inl rfl
    · cases inTable
    · cases inTable
    · cases inTable
    · cases inTable

theorem meets_synFlow : headers.Meets (synFlow config).pattern ↔
    (headers .ethType).toNat = ethTypeIp ∧ (headers .ipProto).toNat = ipprotoTcp ∧
      IsSyn headers := by
  unfold synFlow IsSyn
  simp only [meets_cons, meets_nil, and_true, read_is]

/-- What the service table does with a packet. -/
def serviceActions (config : Config) (headers : MetaHeaders) : List MetaAction :=
  (if IsSyn headers then getLearnActions config else []) ++
    getRewriteIpAndOutputActions config

theorem Tracks.executes_service (tracks : Tracks config flows connections)
    (ethType : (headers .ethType).toNat = ethTypeIp)
    (ipProto : (headers .ipProto).toNat = ipprotoTcp) :
    flows.Executes headers.Meets metadataServiceTable (serviceActions config headers) := by
  have regular : headers.Meets (regularFlow config).pattern := by
    unfold regularFlow
    simp only [meets_cons, meets_nil, and_true, read_is]
    exact ethType
  unfold serviceActions
  by_cases isSyn : IsSyn headers
  · rw [if_pos isSyn]
    apply tracks.executes (synFlow config)
    · simp [addTapMetadataPort]
    · exact meets_synFlow.mpr ⟨ethType, ipProto, isSyn⟩
    · intro other member inTable _
      rcases mem_addTapMetadataPort.mp member with rfl | rfl | rfl | rfl | rfl
      · cases inTable
      · exact Or.inr (show Const.priorityMedium < Const.priorityHigh by decide)
      · exact Or.inl rfl
      · cases inTable
      · cases inTable
  · rw [if_neg isSyn, List.nil_append]
    apply tracks.executes (regularFlow config)
    · simp [addTapMetadataPort]
    · exact regular
    · intro other member inTable meets
      rcases mem_addTapMetadataPort.mp member with rfl | rfl | rfl | rfl | rfl
      · cases inTable
      · exact Or.inl rfl
      · exact absurd (meets_synFlow.mp meets).2.2 isSyn
      · cases inTable
      · cases inTable

theorem Tracks.executes_response (tracks : Tracks config flows connections)
    (inPort : (headers .inPort).toNat = config.portNum)
    (ethType : (headers .ethType).toNat = ethTypeIp) :
    flows.Executes headers.Meets ingressClassificationDispatchTable
      (responseFlow config).instructions := by
  apply tracks.executes (responseFlow config)
  · simp [addTapMetadataPort]
  · unfold responseFlow
    simp only [meets_cons, meets_nil, and_true, read_is]
    exact ⟨inPort, ethType⟩
  · intro other member inTable meets
    rcases mem_addTapMetadataPort.mp member with rfl | rfl | rfl | rfl | rfl
    · cases inTable
    · cases inTable
    · cases inTable
    · unfold arpFlow at meets
      simp only [meets_cons, meets_nil, and_true, read_is] at meets
      cases ethType.symm.trans meets.2
    · exact Or.inl rfl

/-- The packet meets the learned flow of its connection and no other. -/
theorem Tracks.executes_return (tracks : Tracks config flows connections) {key port : Nat}
    {address : Nat} (small : key < 2 ^ 31)
    (isKnown : connections key port = some address) (isReply : IsReply config key port headers) :
    flows.Executes headers.Meets metadataServiceReplyTable
      (returnFlow key port address).instructions := by
  have meets : headers.Meets (returnFlow key port address).pattern :=
    (meets_returnPattern small).mpr
      ⟨isReply.ethType, isReply.ipProto, isReply.ipv4Dst, isReply.tcpDst⟩
  have only : ∀ other, flows.Has other → other.table = metadataServiceReplyTable →
      headers.Meets other.pattern → other = (returnFlow key port address).flow := by
    intro other present inTable accepted
    rcases tracks.learned other present inTable with ⟨otherKey, otherPort, otherAddress,
      otherSmall, otherKnown, rfl⟩ | isArp
    · have same := (meets_returnPattern otherSmall).mp accepted
      have sameKey : otherKey = key := by
        have sameAddress := same.2.2.1.symm.trans isReply.ipv4Dst
        unfold seenAddress at sameAddress
        omega
      have samePort : otherPort = port := same.2.2.2.symm.trans isReply.tcpDst
      subst sameKey
      subst samePort
      cases otherKnown.symm.trans isKnown
      rfl
    · have isArpPacket := accepted _ isArp
      have isWhole : headers.read ⟨.ethType, 0, 16⟩ = (headers .ethType).toNat :=
        headers.read_field .ethType
      cases (isWhole.symm.trans isArpPacket).symm.trans isReply.ethType
  have selected : flows.Selects headers.Meets metadataServiceReplyTable
      (returnFlow key port address).flow := by
    refine ⟨tracks.known key port address isKnown, rfl, meets, ?_⟩
    intro other present inTable accepted
    rw [only other present inTable accepted]
  apply selected.executes
  intro other present inTable accepted _
  rw [only other present inTable accepted]

end MetadataServiceApp

end Dragonflow
