import Dragonflow.Controller.Apps.MetadataLearning

/-! # Connections to the metadata service

What becomes of requests and replies while the switch keeps track of the connections, and
that it keeps track of them in every interleaving.
-/

namespace Dragonflow

namespace MetadataServiceApp

open Headers PacketRun DFMetadataProxyHandler

variable {config : Config} {headers : MetaHeaders} {flows : NxFlows MetaField}
  {connections : Connections}

/-! ## Requests go out and replies come in -/

theorem toNat_set (field : MetaField) {value : Nat} (inRange : value < 2 ^ field.width) :
    (headers.write ⟨field, 0, field.width⟩ value field).toNat = value :=
  headers.toNat_write_field inRange

theorem ends_setField (field : MetaField) (value : Nat) {rest : List (Work MetaField)}
    {final : PacketRun MetaField.width} :
    Ends { headers := headers, flows := flows,
           pending := .act (setField field value) :: rest } final ↔
      Ends { headers := headers.write ⟨field, 0, field.width⟩ value, flows := flows,
             pending := rest } final := by
  have isNext : PacketRun.pending
      { headers := headers, flows := flows,
        pending := .act (setField field value) :: rest : PacketRun MetaField.width } =
      .act (setField field value) :: rest := rfl
  exact ends_act isNext

/-- Setting the configured address and port touches no other field. -/
theorem ends_incoming (config : Config) (headers : MetaHeaders) :
    ∃ prepared : MetaHeaders,
      (∀ field, field ≠ .ipv4Dst → field ≠ .tcpDst → prepared field = headers field) ∧
      ∀ (flows : NxFlows MetaField) (rest : List (Work MetaField))
        (final : PacketRun MetaField.width),
        Ends { headers := headers, flows := flows,
               pending := (getIncomingFlowActions config).map .act ++ rest } final ↔
          Ends { headers := prepared, flows := flows, pending := rest } final := by
  unfold getIncomingFlowActions
  by_cases ownIp : config.ip.toNat ≠ metadataServiceIp
  · by_cases ownPort : config.port.toNat ≠ metadataHttpPort
    · refine ⟨(headers.write ⟨.ipv4Dst, 0, 32⟩ config.ip.toNat).write ⟨.tcpDst, 0, 16⟩
        config.port.toNat, ?_, ?_⟩
      · intro field notDst notPort
        rw [Headers.write_other _ notPort, Headers.write_other _ notDst]
      · intro flows rest final
        rw [if_pos ownIp, if_pos ownPort]
        exact (ends_setField .ipv4Dst config.ip.toNat).trans
          (ends_setField .tcpDst config.port.toNat)
    · refine ⟨headers.write ⟨.ipv4Dst, 0, 32⟩ config.ip.toNat, ?_, ?_⟩
      · intro field notDst _
        exact Headers.write_other _ notDst
      · intro flows rest final
        rw [if_pos ownIp, if_neg ownPort]
        exact ends_setField .ipv4Dst config.ip.toNat
  · by_cases ownPort : config.port.toNat ≠ metadataHttpPort
    · refine ⟨headers.write ⟨.tcpDst, 0, 16⟩ config.port.toNat, ?_, ?_⟩
      · intro field _ notPort
        exact Headers.write_other _ notPort
      · intro flows rest final
        rw [if_neg ownIp, if_pos ownPort]
        exact ends_setField .tcpDst config.port.toNat
    · refine ⟨headers, fun _ _ _ => rfl, ?_⟩
      intro flows rest final
      rw [if_neg ownIp, if_neg ownPort]
      rfl

/-- The packet as the proxy sees it. -/
def rewritten (headers : MetaHeaders) : MetaHeaders :=
  (headers.write ⟨.ipv4Src, 0, 32⟩ (headers.read ⟨.reg6, 0, 32⟩)).write ⟨.ipv4Src, 31, 1⟩ 1

theorem ipv4Src_rewritten {key : Nat} (isKey : (headers .reg6).toNat = key)
    (small : key < 2 ^ 31) : (rewritten headers .ipv4Src).toNat = seenAddress key := by
  have isRead : headers.read ⟨.reg6, 0, 32⟩ = key := (headers.read_field .reg6).trans isKey
  have isMoved : (headers.write ⟨.ipv4Src, 0, 32⟩ key .ipv4Src).toNat = key :=
    toNat_set .ipv4Src (show key < 2 ^ 32 by omega)
  have isLoaded := (headers.write ⟨.ipv4Src, 0, 32⟩ key).toNat_write ⟨.ipv4Src, 31, 1⟩ 1
  rw [isMoved] at isLoaded
  unfold rewritten
  rw [isRead]
  refine isLoaded.trans ?_
  change (key % 2 ^ 31 + 1 % 2 ^ 1 * 2 ^ 31 + key / 2 ^ (31 + 1) * 2 ^ (31 + 1)) % 2 ^ 32 = _
  unfold seenAddress
  omega

/-- What the switch has learned after a packet. -/
def learnedFrom (config : Config) (flows : NxFlows MetaField) (headers : MetaHeaders) :
    NxFlows MetaField :=
  if IsSyn headers then
    (flows.apply (learnReturnFlow.message headers)).apply (arpMessage config headers)
  else flows

theorem ends_service (flows : NxFlows MetaField) (headers : MetaHeaders)
    (final : PacketRun MetaField.width) :
    Ends { headers := headers, flows := flows,
           pending := (serviceActions config headers).map .act ++ [] } final ↔
      final =
        { headers := rewritten headers, flows := learnedFrom config flows headers,
          pending := [], outputs := [(config.portNum, rewritten headers)] } := by
  unfold serviceActions learnedFrom
  by_cases isSyn : IsSyn headers
  · rw [if_pos isSyn, if_pos isSyn]
    apply (ends_act rfl).trans
    apply (ends_act rfl).trans
    apply (ends_act rfl).trans
    apply (ends_act rfl).trans
    apply (ends_act rfl).trans
    exact ends_nil rfl
  · rw [if_neg isSyn, if_neg isSyn]
    apply (ends_act rfl).trans
    apply (ends_act rfl).trans
    apply (ends_act rfl).trans
    exact ends_nil rfl

/-- A request has one outcome: it leaves on the port of the proxy with the key of its port
in the source address. -/
theorem Tracks.request (tracks : Tracks config flows connections) {lport : LogicalPort}
    (isRequest : IsRequest lport headers) (small : lport.uniqueKey < 2 ^ 31) :
    ∃ final, (∀ other, Ends (enter flows servicesClassificationTable headers) other ↔
        other = final) ∧
      (∃ out, final.outputs = [(config.portNum, out)] ∧
        (out .ipv4Src).toNat = seenAddress lport.uniqueKey) ∧
      final.arrivals = [] ∧
      Tracks config final.flows (connections.opened lport.uniqueKey headers) := by
  rcases ends_incoming config headers with ⟨prepared, same, incoming⟩
  have reg6 : (prepared .reg6).toNat = lport.uniqueKey := by
    rw [same .reg6 (by decide) (by decide)]
    exact isRequest.reg6
  have ethType : (prepared .ethType).toNat = ethTypeIp := by
    rw [same .ethType (by decide) (by decide)]
    exact isRequest.ethType
  have ipProto : (prepared .ipProto).toNat = ipprotoTcp := by
    rw [same .ipProto (by decide) (by decide)]
    exact isRequest.ipProto
  have tcpSrc : prepared .tcpSrc = headers .tcpSrc := same .tcpSrc (by decide) (by decide)
  have ipv4Src : prepared .ipv4Src = headers .ipv4Src :=
    same .ipv4Src (by decide) (by decide)
  have sameSyn : IsSyn prepared ↔ IsSyn headers := by
    unfold IsSyn Headers.read
    rw [same .tcpFlags (by decide) (by decide)]
  have sameOpened : connections.opened lport.uniqueKey prepared =
      connections.opened lport.uniqueKey headers := by
    unfold Connections.opened
    rw [tcpSrc, ipv4Src]
    exact if_congr sameSyn rfl rfl
  refine ⟨{ headers := rewritten prepared, flows := learnedFrom config flows prepared,
            pending := [], outputs := [(config.portNum, rewritten prepared)] },
    ?_, ⟨rewritten prepared, rfl, ipv4Src_rewritten reg6 small⟩, rfl, ?_⟩
  · intro other
    unfold enter
    apply (ends_hit rfl rfl (tracks.executes_incoming isRequest)).trans
    unfold incomingFlow
    simp only [List.map_append, List.append_assoc]
    apply (incoming flows _ other).trans
    apply (ends_act rfl).trans
    apply (ends_hit rfl rfl (tracks.executes_service ethType ipProto)).trans
    exact ends_service flows prepared other
  · rw [← sameOpened]
    unfold learnedFrom
    by_cases isSyn : IsSyn prepared
    · rw [if_pos isSyn, learn_returnFlow reg6 small]
      exact tracks.learn small isSyn
    · rw [if_neg isSyn, Connections.opened, if_neg isSyn]
      exact tracks

/-- The packet as the client gets it. -/
def returned (key address : Nat) (headers : MetaHeaders) : MetaHeaders :=
  (((headers.write ⟨.ipv4Dst, 0, 32⟩ address).write ⟨.ipv4Src, 0, 32⟩
    metadataServiceIp).write ⟨.tcpSrc, 0, 16⟩ metadataHttpPort).write ⟨.reg7, 0, 32⟩ key

/-- A reply on a connection that is known has one outcome: it is handed on to its port. -/
theorem Tracks.reply (tracks : Tracks config flows connections) {key port address : Nat}
    (small : key < 2 ^ 31) (isKnown : connections key port = some address)
    (isReply : IsReply config key port headers) (final : PacketRun MetaField.width) :
    Ends (enter flows ingressClassificationDispatchTable headers) final ↔
      final =
        { headers := returned key address headers, flows := flows, pending := [],
          arrivals := [(Const.ingressDispatchTable, returned key address headers)] } := by
  unfold enter
  apply (ends_hit rfl rfl (tracks.executes_response isReply.inPort isReply.ethType)).trans
  apply (ends_act rfl).trans
  apply (ends_hit rfl rfl (tracks.executes_return small isKnown isReply)).trans
  apply (ends_act rfl).trans
  apply (ends_act rfl).trans
  apply (ends_act rfl).trans
  apply (ends_act rfl).trans
  apply (ends_act rfl).trans
  apply (ends_arrive rfl rfl).trans
  exact ends_nil rfl

theorem returned_fields (headers : MetaHeaders) {key address : Nat} (small : key < 2 ^ 31)
    (isAddress : address < 2 ^ 32) :
    (returned key address headers .reg7).toNat = key ∧
      (returned key address headers .ipv4Dst).toNat = address ∧
      (returned key address headers .ipv4Src).toNat = metadataServiceIp ∧
      (returned key address headers .tcpSrc).toNat = metadataHttpPort := by
  unfold returned
  refine ⟨?_, ?_, ?_, ?_⟩
  · exact toNat_set .reg7 (show key < 2 ^ 32 by omega)
  · rw [Headers.write_other _ (by decide), Headers.write_other _ (by decide),
      Headers.write_other _ (by decide)]
    exact toNat_set .ipv4Dst isAddress
  · rw [Headers.write_other _ (by decide), Headers.write_other _ (by decide)]
    exact toNat_set .ipv4Src (by decide)
  · rw [Headers.write_other _ (by decide)]
    exact toNat_set .tcpSrc (by decide)

/-! ## Interleavings -/

/-- A packet that the switch gets: a request of a port, or any packet that comes in. -/
inductive Event
  | sent (lport : LogicalPort) (headers : MetaHeaders)
  | received (headers : MetaHeaders)

section Runs

variable (config) (lports : List LogicalPort)

/-- The flows that the switch can have after the packets. -/
inductive Reaches : List Event → NxFlows MetaField → Prop
  | start : Reaches [] (installed config)
  | sent {events : List Event} {flows : NxFlows MetaField} {lport : LogicalPort}
      {headers : MetaHeaders} {final : PacketRun MetaField.width}
      (reaches : Reaches events flows) (member : lport ∈ lports)
      (isRequest : IsRequest lport headers)
      (ends : Ends (enter flows servicesClassificationTable headers) final) :
      Reaches (events ++ [.sent lport headers]) final.flows
  | received {events : List Event} {flows : NxFlows MetaField} {headers : MetaHeaders}
      {final : PacketRun MetaField.width} (reaches : Reaches events flows)
      (ends : Ends (enter flows ingressClassificationDispatchTable headers) final) :
      Reaches (events ++ [.received headers]) final.flows

end Runs

def Connections.after (connections : Connections) : Event → Connections
  | .sent lport headers => connections.opened lport.uniqueKey headers
  | .received _ => connections

/-- The connections that the packets have opened. -/
def connectionsOf (events : List Event) : Connections :=
  events.foldl Connections.after fun _ _ => none

theorem connectionsOf_concat (events : List Event) (event : Event) :
    connectionsOf (events ++ [event]) = (connectionsOf events).after event := by
  unfold connectionsOf
  rw [List.foldl_append]
  rfl

variable {lports : List LogicalPort}

/-- The tables that a packet sees that comes in. -/
def SeenByReplies (table : Nat) : Prop :=
  table = ingressClassificationDispatchTable ∨ table = metadataServiceReplyTable ∨
    table = Const.ingressDispatchTable

theorem Tracks.received (tracks : Tracks config flows connections)
    {final : PacketRun MetaField.width}
    (ends : Ends (enter flows ingressClassificationDispatchTable headers) final) :
    final.flows = flows := by
  have quiet : ∀ flow, flows.Has flow → SeenByReplies flow.table →
      ∀ action ∈ flow.entry.instructions, Quiet SeenByReplies action := by
    intro flow present seen action member
    by_cases isReply : flow.table = metadataServiceReplyTable
    · rcases tracks.quiet flow present isReply action member with ⟨dst, value, rfl⟩
      exact trivial
    · rcases (tracks.installed flow isReply).mp present with ⟨message, isInstalled, rfl⟩
      have toReplies : SeenByReplies metadataServiceReplyTable := Or.inr (Or.inl rfl)
      have toDispatch : SeenByReplies Const.ingressDispatchTable := Or.inr (Or.inr rfl)
      rcases mem_addTapMetadataPort.mp isInstalled with rfl | rfl | rfl | rfl | rfl
      · rcases seen with seen | seen | seen <;> cases seen
      · rcases seen with seen | seen | seen <;> cases seen
      · rcases seen with seen | seen | seen <;> cases seen
      · rcases List.mem_cons.mp member with rfl | later
        · exact toReplies
        · rw [List.mem_singleton.mp later]
          exact trivial
      · rcases List.mem_cons.mp member with rfl | later
        · exact toReplies
        · rw [List.mem_singleton.mp later]
          exact toDispatch
  apply ends.flows_eq quiet rfl
  intro work member
  rw [List.mem_singleton.mp member]
  exact Or.inl rfl

/-- The switch keeps track of the connections, whatever the order of the packets. -/
theorem reaches_tracks (small : ∀ lport ∈ lports, lport.uniqueKey < 2 ^ 31)
    {events : List Event} (reaches : Reaches config lports events flows) :
    Tracks config flows (connectionsOf events) := by
  induction reaches with
  | start => exact tracks_installed
  | sent reaches member isRequest ends induction =>
      rcases induction.request isRequest (small _ member) with
        ⟨final, only, _, _, tracks⟩
      rw [connectionsOf_concat, (only _).mp ends]
      exact tracks
  | received reaches ends induction =>
      rw [connectionsOf_concat, induction.received ends]
      exact induction

/-- No later packet of the port opens the connection from another address. -/
def KeepsAddress (lport : LogicalPort) (syn : MetaHeaders) (events : List Event) : Prop :=
  ∀ headers, Event.sent lport headers ∈ events → IsSyn headers →
    headers .tcpSrc = syn .tcpSrc → headers .ipv4Src = syn .ipv4Src

theorem connectionsOf_kept (distinct : ∀ lport ∈ lports, ∀ other ∈ lports,
      lport.uniqueKey = other.uniqueKey → lport = other)
    {lport : LogicalPort} (member : lport ∈ lports) {syn : MetaHeaders} {events : List Event}
    (fromPorts : ∀ other headers, Event.sent other headers ∈ events → other ∈ lports)
    (kept : KeepsAddress lport syn events) {before : Connections}
    (isKnown : before lport.uniqueKey (syn .tcpSrc).toNat = some (syn .ipv4Src).toNat) :
    (events.foldl Connections.after before) lport.uniqueKey (syn .tcpSrc).toNat =
      some (syn .ipv4Src).toNat := by
  induction events generalizing before with
  | nil => exact isKnown
  | cons event rest induction =>
      rw [List.foldl_cons]
      apply induction
      · exact fun other headers later => fromPorts other headers (List.mem_cons_of_mem _ later)
      · exact fun headers later => kept headers (List.mem_cons_of_mem _ later)
      · cases event with
        | received headers => exact isKnown
        | sent other headers =>
            change (before.opened other.uniqueKey headers) _ _ = _
            by_cases isSyn : IsSyn headers
            · rw [Connections.opened_of_syn isSyn]
              by_cases same : lport.uniqueKey = other.uniqueKey ∧
                  (syn .tcpSrc).toNat = (headers .tcpSrc).toNat
              · rw [if_pos same]
                have samePort := distinct lport member other
                  (fromPorts other headers List.mem_cons_self) same.1
                subst samePort
                have sameSource : headers .tcpSrc = syn .tcpSrc :=
                  BitVec.eq_of_toNat_eq same.2.symm
                rw [kept headers List.mem_cons_self isSyn sameSource]
              · rw [if_neg same]
                exact isKnown
            · rw [Connections.opened, if_neg isSyn]
              exact isKnown

theorem reaches_ports {events : List Event} (reaches : Reaches config lports events flows) :
    ∀ lport headers, Event.sent lport headers ∈ events → lport ∈ lports := by
  induction reaches with
  | start => exact fun _ _ member => by cases member
  | sent reaches member isRequest ends induction =>
      intro lport headers listed
      rcases List.mem_append.mp listed with earlier | last
      · exact induction lport headers earlier
      · cases List.mem_singleton.mp last
        exact member
  | received reaches ends induction =>
      intro lport headers listed
      rcases List.mem_append.mp listed with earlier | last
      · exact induction lport headers earlier
      · cases List.mem_singleton.mp last

/-! ## Attribution -/

/-- The proxy finds the port by the address that it sees. -/
theorem getLogicalPortByTunnelKey_seenAddress (distinct : ∀ lport ∈ lports,
      ∀ other ∈ lports, lport.uniqueKey = other.uniqueKey → lport = other)
    {lport : LogicalPort} (member : lport ∈ lports) (small : lport.uniqueKey < 2 ^ 31)
    {remoteAddr : BitVec 32} (isSeen : remoteAddr.toNat = seenAddress lport.uniqueKey) :
    getLogicalPortByTunnelKey lports (tunnelKey remoteAddr) = .ok lport := by
  have cleared : tunnelKey remoteAddr = remoteAddr.toNat &&& (2 ^ 31 - 1) := by
    unfold tunnelKey
    rw [BitVec.toNat_and]
    rfl
  have isKey : tunnelKey remoteAddr = lport.uniqueKey := by
    rw [cleared, Nat.and_two_pow_sub_one_eq_mod, isSeen]
    unfold seenAddress
    omega
  have found : lports.find? (fun other => other.uniqueKey = lport.uniqueKey) = some lport := by
    cases search : lports.find? fun other => other.uniqueKey = lport.uniqueKey with
    | none =>
        have missed := List.find?_eq_none.mp search lport member
        simp at missed
    | some other =>
        have sameKey : other.uniqueKey = lport.uniqueKey := by
          simpa using List.find?_some search
        rw [distinct other (List.mem_of_find?_eq_some search) lport member sameKey]
  simp only [isKey, getLogicalPortByTunnelKey, found]

/-- The headers are those of the port that has been found. -/
theorem getHeaders_of_found {remoteAddr : BitVec 32} {lport : LogicalPort}
    (found : getLogicalPortByTunnelKey lports (tunnelKey remoteAddr) = .ok lport)
    (signInstanceId : Id → String) :
    getHeaders lports signInstanceId (some remoteAddr) = identify signInstanceId lport := by
  unfold getHeaders
  simp only [found]
  rfl

/-- A request leaves for the proxy, and tells it which port it comes from. -/
def Attributed (config : Config) (lports : List LogicalPort)
    (signInstanceId : Id → String) (flows : NxFlows MetaField) (lport : LogicalPort)
    (headers : MetaHeaders) : Prop :=
  ∃ final out, (∀ other, Ends (enter flows servicesClassificationTable headers) other ↔
      other = final) ∧
    final.outputs = [(config.portNum, out)] ∧ final.arrivals = [] ∧
    (out .ipv4Src).toNat = seenAddress lport.uniqueKey ∧
    getLogicalPortByTunnelKey lports (tunnelKey (out .ipv4Src)) = .ok lport ∧
    getHeaders lports signInstanceId (some (out .ipv4Src)) = identify signInstanceId lport

/-- A reply is handed on to the port, as one of the service to the client. -/
def Answered (flows : NxFlows MetaField) (lport : LogicalPort) (syn reply : MetaHeaders) :
    Prop :=
  ∃ final client, (∀ other, Ends (enter flows ingressClassificationDispatchTable reply) other ↔
      other = final) ∧
    final.outputs = [] ∧ final.arrivals = [(Const.ingressDispatchTable, client)] ∧
    (client .reg7).toNat = lport.uniqueKey ∧ client .ipv4Dst = syn .ipv4Src ∧
    (client .ipv4Src).toNat = metadataServiceIp ∧
    (client .tcpSrc).toNat = metadataHttpPort

/-- The first packet of a connection of the port of this key, from 10.0.0.5. -/
def synOf (uniqueKey : Nat) : MetaHeaders
  | .reg6 => BitVec.ofNat _ uniqueKey
  | .ethSrc => BitVec.ofNat _ (0xfa163e000000 + uniqueKey)
  | .ethType => 0x0800
  | .ipProto => 6
  | .tcpFlags => 2
  | .ipv4Src => 0x0a000005
  | .ipv4Dst => 0xa9fea9fe
  | .tcpSrc => 40000
  | .tcpDst => 80
  | _ => 0

/-- The answer of the proxy to it. -/
def replyTo (uniqueKey : Nat) : MetaHeaders
  | .inPort => 7
  | .ethType => 0x0800
  | .ipProto => 6
  | .ipv4Src => 0xa9fea9fe
  | .ipv4Dst => BitVec.ofNat _ (seenAddress uniqueKey)
  | .tcpSrc => 80
  | .tcpDst => 40000
  | _ => 0

/-- Two ports of different networks that share an address. -/
def firstPort : LogicalPort :=
  { id := "p1", lswitch := some "n1", uniqueKey := 1, deviceId := some "vm1" }

def secondPort : LogicalPort :=
  { id := "p2", lswitch := some "n2", uniqueKey := 2, deviceId := some "vm2" }

def proxyConfig : Config := ⟨0xa9fea9fe, 80, 7⟩

theorem twoPorts_distinct : ∀ lport ∈ [firstPort, secondPort],
    ∀ other ∈ [firstPort, secondPort], lport.uniqueKey = other.uniqueKey → lport = other := by
  decide

theorem twoPorts_small : ∀ lport ∈ [firstPort, secondPort],
    0 < lport.uniqueKey ∧ lport.uniqueKey < 2 ^ 31 := by
  decide

/-- Both ports connect, from the same address and the same tcp port. -/
theorem reaches_twoPorts : ∃ flows, Reaches proxyConfig [firstPort, secondPort]
    [.sent firstPort (synOf 1), .sent secondPort (synOf 2)] flows := by
  have firstRequest : IsRequest firstPort (synOf 1) := ⟨rfl, rfl, rfl, rfl, rfl⟩
  have secondRequest : IsRequest secondPort (synOf 2) := ⟨rfl, rfl, rfl, rfl, rfl⟩
  rcases tracks_installed.request firstRequest (by decide) with ⟨final, only, _⟩
  have first : Reaches proxyConfig [firstPort, secondPort]
      ([] ++ [.sent firstPort (synOf 1)]) final.flows :=
    .sent .start List.mem_cons_self firstRequest ((only final).mpr rfl)
  have bound : ∀ lport ∈ [firstPort, secondPort], lport.uniqueKey < 2 ^ 31 :=
    fun lport member => (twoPorts_small lport member).2
  rcases (reaches_tracks bound first).request secondRequest (by decide) with ⟨last, only, _⟩
  exact ⟨last.flows, .sent first (by simp) secondRequest ((only last).mpr rfl)⟩

/-- In every interleaving, requests are attributed to the port that sent them, and replies
reach the port whose connection they belong to. -/
theorem metadata_attributed_and_answered
    (distinct : ∀ lport ∈ lports, ∀ other ∈ lports,
      lport.uniqueKey = other.uniqueKey → lport = other)
    (small : ∀ lport ∈ lports, 0 < lport.uniqueKey ∧ lport.uniqueKey < 2 ^ 31)
    (signInstanceId : Id → String) :
    (∀ events flows, Reaches config lports events flows → ∀ lport ∈ lports, ∀ headers,
      IsRequest lport headers →
        Attributed config lports signInstanceId flows lport headers) ∧
    ∀ before lport syn after flows,
      Reaches config lports (before ++ .sent lport syn :: after) flows → IsSyn syn →
      KeepsAddress lport syn after → ∀ reply,
        IsReply config lport.uniqueKey (syn .tcpSrc).toNat reply →
          Answered flows lport syn reply := by
  have bound : ∀ lport ∈ lports, lport.uniqueKey < 2 ^ 31 :=
    fun lport member => (small lport member).2
  constructor
  · intro events flows reaches lport member headers isRequest
    rcases (reaches_tracks bound reaches).request isRequest (bound lport member) with
      ⟨final, only, ⟨out, outputs, isSeen⟩, arrivals, _⟩
    have found := getLogicalPortByTunnelKey_seenAddress distinct member (bound lport member)
      isSeen
    exact ⟨final, out, only, outputs, arrivals, isSeen, found,
      getHeaders_of_found found signInstanceId⟩
  · intro before lport syn after flows reaches isSyn kept reply isReply
    have fromPorts := reaches_ports reaches
    have member : lport ∈ lports := fromPorts lport syn (by simp)
    have isKnown : connectionsOf (before ++ .sent lport syn :: after) lport.uniqueKey
        (syn .tcpSrc).toNat = some (syn .ipv4Src).toNat := by
      unfold connectionsOf
      rw [List.foldl_append, List.foldl_cons]
      apply connectionsOf_kept distinct member _ kept
      · change ((connectionsOf before).opened lport.uniqueKey syn) _ _ = _
        rw [Connections.opened_of_syn isSyn, if_pos ⟨rfl, rfl⟩]
      · intro other headers later
        exact fromPorts other headers (by simp [later])
    have ended := (reaches_tracks bound reaches).reply (bound lport member) isKnown isReply
    have fields := returned_fields reply (bound lport member)
      (show (syn .ipv4Src).toNat < 2 ^ 32 from (syn .ipv4Src).isLt)
    exact ⟨_, _, ended, rfl, rfl, fields.1, BitVec.eq_of_toNat_eq fields.2.1, fields.2.2.1,
      fields.2.2.2⟩

theorem metadata_attributed_and_answered_first :
    Attributed proxyConfig [firstPort, secondPort] (fun _ => "signature")
        (installed proxyConfig) firstPort (synOf 1) ∧
      ∃ flows, Reaches proxyConfig [firstPort, secondPort]
          [.sent firstPort (synOf 1), .sent secondPort (synOf 2)] flows ∧
        Answered flows firstPort (synOf 1) (replyTo 1) ∧
        Answered flows secondPort (synOf 2) (replyTo 2) := by
  have both := @metadata_attributed_and_answered proxyConfig _ twoPorts_distinct
    twoPorts_small fun _ => "signature"
  constructor
  · exact both.1 [] _ .start _ List.mem_cons_self _ ⟨rfl, rfl, rfl, rfl, rfl⟩
  · rcases reaches_twoPorts with ⟨flows, reaches⟩
    have firstKept : KeepsAddress firstPort (synOf 1) [.sent secondPort (synOf 2)] := by
      intro headers impossible
      have same := Event.sent.inj (List.mem_singleton.mp impossible)
      exact absurd same.1 (by decide)
    have secondKept : KeepsAddress secondPort (synOf 2) [] := by
      intro headers impossible
      cases impossible
    have answered := both.2 [] firstPort (synOf 1) [.sent secondPort (synOf 2)] flows
      reaches (by decide) firstKept
    have otherAnswered := both.2 [.sent firstPort (synOf 1)] secondPort (synOf 2) [] flows
      reaches (by decide) secondKept
    exact ⟨flows, reaches, answered (replyTo 1) ⟨rfl, rfl, rfl, rfl, rfl⟩,
      otherAnswered (replyTo 2) ⟨rfl, rfl, rfl, rfl, rfl⟩⟩

end MetadataServiceApp

end Dragonflow
