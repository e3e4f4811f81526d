import Dragonflow.Db.ModelFramework
import Dragonflow.Foundation.Dict
import Dragonflow.Foundation.Program

/-! # The cluster of the redis driver

`Node`, `Cluster` and `_key_command` of `dragonflow/db/drivers/redis_db_driver.py`.
What the servers answer comes from outside: it is given for each attempt of a command.
-/

namespace Dragonflow

open Program

/-- A port, as a number or as the text that it was split from. A dictionary tells the
two apart. -/
inductive RedisPort
  | number (port : Nat)
  | text (port : String)
  deriving DecidableEq, Repr

/-- `Node`. Its `key` is the pair of both. -/
structure RedisNode where
  ip : String
  port : RedisPort
  deriving DecidableEq, Repr

/-- `slot_info` of `CLUSTER SLOTS`: a range of slots, and the address of its master. -/
structure SlotRange where
  rangeBegin : Nat
  rangeEnd : Nat
  ip : String
  port : Nat
  deriving DecidableEq, Repr

namespace SlotRange

def master (range : SlotRange) : RedisNode := ⟨range.ip, .number range.port⟩

def Holds (range : SlotRange) (slot : Nat) : Prop :=
  range.rangeBegin ≤ slot ∧ slot ≤ range.rangeEnd

instance (range : SlotRange) (slot : Nat) : Decidable (range.Holds slot) := by
  unfold Holds
  infer_instance

end SlotRange

/-- What a node answers to `CLUSTER SLOTS`. -/
inductive SlotsReply
  | slots (layout : List SlotRange)
  | connectionError
  | clusterDisabled
  | responseError
  deriving DecidableEq, Repr

/-- `_nodes_by_host`. It is a dictionary until a node has no cluster support, and that
node from then on. -/
inductive NodesByHost
  | byHost (nodes : Dict (String × RedisPort) RedisNode)
  | single (node : RedisNode)

/-- `Cluster`. The configured nodes are a generator, so that these are the ones that it
has not yielded yet. -/
structure Cluster where
  isCluster : Bool := true
  configuredNodes : List RedisNode
  nodesByHost : NodesByHost := .byHost ∅
  nodesBySlot : Nat → Option RedisNode := fun _ => none
  covered : Bool := false

/-- `REDIS_NSLOTS` -/
def redisNslots : Nat := 16384

namespace Cluster

abbrev Action (β : Type) := Program Cluster PyError β

/-! ## Looking up nodes -/

/-- `get_node`, for a key of the slot. Without a cluster there is a single node. -/
def getNode (cluster : Cluster) (slot : Nat) : Option RedisNode :=
  if cluster.isCluster then
    cluster.nodesBySlot slot
  else
    match cluster.nodesByHost with
    | .single node => some node
    | .byHost _ => none

/-- `get_node_by_host` -/
def getNodeByHost (cluster : Cluster) (ip : String) (port : RedisPort) :
    Except PyError RedisNode :=
  match cluster.nodesByHost with
  | .byHost nodes =>
      match nodes.lookup (ip, port) with
      | none => .error .keyError
      | some node => .ok node
  | .single node => if cluster.isCluster then .error .typeError else .ok node

/-- `is_cluster_covered` -/
def isClusterCovered (cluster : Cluster) : Bool :=
  (List.range redisNslots).all fun slot => (cluster.nodesBySlot slot).isSome

/-! ## Reading the slots -/

/-- The body of the loop over the ranges. -/
def addRange (range : SlotRange) : Action Unit := do
  let cluster ← get
  match cluster.nodesByHost with
  | .single _ => throw .typeError
  | .byHost nodes =>
      set { cluster with
        nodesByHost := .byHost
          (nodes.insert (range.master.ip, range.master.port) range.master)
        nodesBySlot := fun slot =>
          if range.Holds slot then some range.master else cluster.nodesBySlot slot }

/-- The end of `populate_cluster`, which logs the nodes. -/
def logNodes : Action Unit := do
  let cluster ← get
  match cluster.nodesByHost with
  | .single _ => throw .attributeError
  | .byHost _ => pure ()

/-- The loop of `populate_cluster` over the nodes that the generator still yields. It
ends with the node that covers all slots, and leaves the rest for the next time. -/
def populateFrom (answer : RedisNode → SlotsReply) : List RedisNode → Action Unit
  | [] => do
      modify fun cluster => { cluster with configuredNodes := [] }
      logNodes
  | node :: nodes =>
      match answer node with
      | .connectionError => populateFrom answer nodes
      | .responseError => populateFrom answer nodes
      | .clusterDisabled =>
          modify fun cluster => { cluster with
            configuredNodes := nodes, nodesByHost := .single node, isCluster := false }
      | .slots layout => do
          modify fun cluster => { cluster with isCluster := true }
          forM layout addRange
          let cluster ← get
          if cluster.isClusterCovered then
            set { cluster with covered := true, configuredNodes := nodes }
            logNodes
          else
            populateFrom answer nodes

/-- `populate_cluster` -/
def populateCluster (answer : RedisNode → SlotsReply) : Action Unit := do
  let cluster ← get
  populateFrom answer cluster.configuredNodes

/-- The states of a cluster: it is created from the configured nodes, and populated
again and again. Nodes that can be reached answer with a layout. -/
inductive Reached : Cluster → Prop
  | created (nodes : List (String × Nat)) :
      Reached { configuredNodes := nodes.map fun node => ⟨node.1, .number node.2⟩ }
  | populated {cluster : Cluster} (answer : RedisNode → SlotsReply)
      (layout : List SlotRange)
      (answers : ∀ node, answer node = .connectionError ∨ answer node = .slots layout)
      (reached : Reached cluster) : Reached (exec (populateCluster answer) cluster).2

end Cluster

/-! ## Commands -/

/-- What a node answers to a command. The address of a redirection is a text. -/
inductive RedisReply (β : Type)
  | value (value : β)
  | moved (ip port : String)
  | ask (ip port : String)
  | connectionError
  deriving DecidableEq, Repr

/-- The servers, by the number of the attempt. -/
structure RedisServers (β : Type) where
  /-- The reply to the command. -/
  reply : Nat → RedisReply β
  /-- The connection fails before `ASKING` is answered. -/
  askingFails : Nat → Bool := fun _ => false
  /-- What nodes answer to `CLUSTER SLOTS` at that time. -/
  slots : Nat → RedisNode → SlotsReply

/-- One attempt: the node, and whether `ASKING` went ahead of the command. -/
structure RedisAttempt where
  node : RedisNode
  asking : Bool
  deriving DecidableEq, Repr

/-- The cluster of the driver, with the attempts that were made. -/
structure RedisSession where
  cluster : Cluster
  attempts : List RedisAttempt := []

namespace RedisSession

abbrev Action (β : Type) := Program RedisSession PyError β

variable {β : Type}

/-- `populate_cluster` of the cluster of the driver. -/
def populate (answer : RedisNode → SlotsReply) : Action Unit :=
  focus RedisSession.cluster (fun session cluster => { session with cluster })
    (Cluster.populateCluster answer)

def attempt (node : RedisNode) (asking : Bool) : Action Unit :=
  modify fun session => { session with attempts := session.attempts ++ [⟨node, asking⟩] }

/-- The loop of `_key_command`, with the number of tries that are left. -/
def keyCommandLoop (servers : RedisServers β) (slot : Nat) :
    Nat → Nat → Option RedisNode → Bool → Action β
  | 0, _, _, _ => throw .dbKeyNotFound
  | _ + 1, retry, none, _ => do
      -- The nodes are looked up again, but `node` stays `None`.
      populate (servers.slots retry)
      throw .attributeError
  | left + 1, retry, some node, ask => do
      attempt node ask
      if ask && servers.askingFails retry then
        populate (servers.slots retry)
        let session ← get
        keyCommandLoop servers slot left (retry + 1) (session.cluster.getNode slot) true
      else
        match servers.reply retry with
        | .value value => pure value
        | .moved _ _ =>
            populate (servers.slots retry)
            let session ← get
            keyCommandLoop servers slot left (retry + 1) (session.cluster.getNode slot)
              false
        | .ask ip port =>
            let session ← get
            let named ← Program.ofExcept (session.cluster.getNodeByHost ip (.text port))
            keyCommandLoop servers slot left (retry + 1) (some named) true
        | .connectionError =>
            populate (servers.slots retry)
            let session ← get
            keyCommandLoop servers slot left (retry + 1) (session.cluster.getNode slot)
              false

/-- `_key_command`, for a key of the slot. -/
def keyCommand (retryCount : Nat) (servers : RedisServers β) (slot : Nat) : Action β := do
  let session ← get
  keyCommandLoop servers slot retryCount 0 (session.cluster.getNode slot) false

end RedisSession

/-! ## What a refresh does -/

/-- The master of a slot in a layout. -/
def slotOwner (layout : List SlotRange) (slot : Nat) : Option RedisNode :=
  layout.foldl (fun found range => if range.Holds slot then some range.master else found)
    none

namespace Cluster

variable {cluster : Cluster} {layout : List SlotRange} {answer : RedisNode → SlotsReply}

/-- A cluster whose nodes stand under their ports as numbers. -/
structure Clustered (cluster : Cluster) : Prop where
  isCluster : cluster.isCluster = true
  byNumber : ∃ nodes, cluster.nodesByHost = .byHost nodes ∧
    ∀ ip port, nodes.lookup (ip, .text port) = none

theorem slotOwner_or (layout : List SlotRange) (slot : Nat) (before : Option RedisNode) :
    layout.foldl (fun found range => if range.Holds slot then some range.master else found)
      before = (slotOwner layout slot).or before := by
  unfold slotOwner
  induction layout generalizing before with
  | nil => rfl
  | cons range layout induction =>
      rw [List.foldl_cons, List.foldl_cons, induction,
        induction (if range.Holds slot then some range.master else none)]
      by_cases holds : range.Holds slot
      · rw [if_pos holds, if_pos holds, Option.or_assoc]
        rfl
      · rw [if_neg holds, if_neg holds, Option.or_none]

theorem Clustered.addRange (clustered : Clustered cluster) (range : SlotRange) :
    ∃ after, exec (addRange range) cluster = (.ok (), after) ∧ Clustered after ∧
      ∀ slot, after.nodesBySlot slot =
        if range.Holds slot then some range.master else cluster.nodesBySlot slot := by
  rcases clustered.byNumber with ⟨nodes, isDict, noText⟩
  refine ⟨{ cluster with
      nodesByHost := .byHost
        (nodes.insert (range.master.ip, range.master.port) range.master)
      nodesBySlot := fun slot =>
        if range.Holds slot then some range.master else cluster.nodesBySlot slot },
    ?_, ?_, fun _ => rfl⟩
  · unfold Cluster.addRange
    rw [exec_bind_ok (exec_get cluster), isDict]
    rfl
  · refine ⟨clustered.isCluster, _, rfl, ?_⟩
    intro ip port
    rw [Dict.lookup_insert_eq, if_neg, noText]
    intro same
    cases congrArg Prod.snd same

theorem Clustered.addRanges (clustered : Clustered cluster) (layout : List SlotRange) :
    ∃ after, exec (forM layout Cluster.addRange) cluster = (.ok (), after) ∧
      Clustered after ∧
      ∀ slot, after.nodesBySlot slot = (slotOwner layout slot).or (cluster.nodesBySlot slot) := by
  induction layout generalizing cluster with
  | nil => exact ⟨cluster, rfl, clustered, fun _ => rfl⟩
  | cons range layout induction =>
      rcases clustered.addRange range with ⟨middle, added, middleClustered, isMiddle⟩
      rcases induction middleClustered with ⟨after, executed, afterClustered, isAfter⟩
      refine ⟨after, ?_, afterClustered, ?_⟩
      · rw [List.forM_cons, exec_bind_ok added]
        exact executed
      · intro slot
        rw [isAfter, isMiddle, ← slotOwner_or, ← slotOwner_or, List.foldl_cons]

/-- A refresh never raises. It reads the layout if one of the nodes that the generator
still yields can be reached, and changes nothing about the slots otherwise. -/
theorem Clustered.populateFrom (clustered : Clustered cluster) (nodes : List RedisNode)
    (answers : ∀ node ∈ nodes, answer node = .connectionError ∨
      answer node = .slots layout) :
    ∃ after, exec (populateFrom answer nodes) cluster = (.ok (), after) ∧
      Clustered after ∧
      ∀ slot, after.nodesBySlot slot =
        if ∃ node ∈ nodes, answer node = .slots layout then
          (slotOwner layout slot).or (cluster.nodesBySlot slot)
        else cluster.nodesBySlot slot := by
  have logs (after : Cluster) (afterClustered : Clustered after) :
      exec logNodes after = (.ok (), after) := by
    rcases afterClustered.byNumber with ⟨found, isDict, -⟩
    unfold logNodes
    rw [exec_bind_ok (exec_get after), isDict]
    rfl
  induction nodes generalizing cluster with
  | nil =>
      have ended : Clustered { cluster with configuredNodes := [] } :=
        ⟨clustered.isCluster, clustered.byNumber⟩
      refine ⟨_, ?_, ended, ?_⟩
      · rw [Cluster.populateFrom, exec_bind_ok (exec_modify _ _)]
        exact logs _ ended
      · intro slot
        rw [if_neg (by simp)]
  | cons node nodes induction =>
      have later : ∀ node ∈ nodes, answer node = .connectionError ∨
          answer node = .slots layout :=
        fun found member => answers found (List.mem_cons_of_mem _ member)
      rcases answers node List.mem_cons_self with unreachable | reachable
      · rcases induction clustered later with ⟨after, executed, afterClustered, isAfter⟩
        refine ⟨after, ?_, afterClustered, ?_⟩
        · rw [Cluster.populateFrom, unreachable]
          exact executed
        · intro slot
          rw [isAfter]
          simp [unreachable]
      · have marked : Clustered { cluster with isCluster := true } :=
          ⟨rfl, clustered.byNumber⟩
        rcases marked.addRanges layout with ⟨middle, added, middleClustered, isMiddle⟩
        have isReachable : ∃ found ∈ node :: nodes, answer found = .slots layout :=
          ⟨node, List.mem_cons_self, reachable⟩
        by_cases covers : middle.isClusterCovered = true
        · have ended : Clustered { middle with covered := true, configuredNodes := nodes } :=
            ⟨middleClustered.isCluster, middleClustered.byNumber⟩
          refine ⟨_, ?_, ended, ?_⟩
          · rw [Cluster.populateFrom, reachable]
            simp only
            rw [exec_bind_ok (exec_modify _ _), exec_bind_ok added,
              exec_bind_ok (exec_get middle), if_pos covers, exec_bind_ok (exec_set _ _)]
            exact logs _ ended
          · intro slot
            rw [if_pos isReachable]
            exact isMiddle slot
        · rcases induction middleClustered later with
            ⟨after, executed, afterClustered, isAfter⟩
          refine ⟨after, ?_, afterClustered, ?_⟩
          · rw [Cluster.populateFrom, reachable]
            simp only
            rw [exec_bind_ok (exec_modify _ _), exec_bind_ok added,
              exec_bind_ok (exec_get middle), if_neg covers]
            exact executed
          · intro slot
            rw [if_pos isReachable, isAfter, isMiddle]
            split
            · rw [← Option.or_assoc, Option.or_self]
            · rfl

theorem Reached.clustered (reached : Reached cluster) : Clustered cluster := by
  induction reached with
  | created nodes => exact ⟨rfl, ∅, rfl, fun _ _ => rfl⟩
  | @populated before answer layout answers reached induction =>
      rcases induction.populateFrom before.configuredNodes
        (fun node _ => answers node) with ⟨after, executed, afterClustered, -⟩
      have isRefresh : exec (populateCluster answer) before = (.ok (), after) := by
        unfold populateCluster
        rw [exec_bind_ok (exec_get before)]
        exact executed
      rw [isRefresh]
      exact afterClustered

theorem Clustered.getNode (clustered : Clustered cluster) (slot : Nat) :
    cluster.getNode slot = cluster.nodesBySlot slot := by
  unfold Cluster.getNode
  rw [if_pos clustered.isCluster]

theorem Clustered.getNodeByHost (clustered : Clustered cluster) (ip port : String) :
    cluster.getNodeByHost ip (.text port) = .error .keyError := by
  rcases clustered.byNumber with ⟨nodes, isDict, noText⟩
  unfold Cluster.getNodeByHost
  rw [isDict]
  simp only [noText]

end Cluster

/-! ## Following redirections -/

namespace RedisSession

variable {β : Type} {servers : RedisServers β} {layout : Nat → List SlotRange} {slot : Nat}

/-- The next attempt goes where the reply says: to the owner of the slot in the current
layout, or with `ASKING` to the node that is named. Any node will do after a lost
connection. -/
def Designated (reply : RedisReply β) (layout : List SlotRange) (slot : Nat)
    (next : RedisAttempt) : Prop :=
  match reply with
  | .value _ => False
  | .moved _ _ => slotOwner layout slot = some next.node
  | .ask ip port => next.asking = true ∧ next.node.ip = ip ∧
      ∃ number : Nat, next.node.port = .number number ∧ toString number = port
  | .connectionError => True

/-- From an attempt on, the command comes to a value after the failures that are left,
and every reply is followed. -/
def FollowedFrom (servers : RedisServers β) (layout : Nat → List SlotRange) (slot : Nat)
    (command : Action β) (retry failures : Nat) (node : RedisNode) (asking : Bool)
    (session : RedisSession) : Prop :=
  ∃ value after later, servers.reply (retry + failures) = .value value ∧
    exec command session = (.ok value, after) ∧
    after.attempts = session.attempts ++ ⟨node, asking⟩ :: later ∧
    later.length = failures ∧
    ∀ index attempt, later[index]? = some attempt →
      Designated (servers.reply (retry + index)) (layout (retry + index)) slot attempt

/-- Where the driver can follow the replies: none is `ASK`, and at a `MOVED` the layout
has an owner of the slot that is known already, or that can be read from a configured
node that no earlier refresh has used up. -/
def Supported (servers : RedisServers β) (layout : Nat → List SlotRange) (slot : Nat) :
    Nat → Nat → Cluster → Prop
  | _, 0, _ => True
  | retry, failures + 1, cluster =>
      (match servers.reply retry with
      | .value _ => False
      | .moved _ _ => slotOwner (layout retry) slot ≠ none ∧
          (slotOwner (layout retry) slot = cluster.nodesBySlot slot ∨
            ∃ node ∈ cluster.configuredNodes,
              servers.slots retry node = .slots (layout retry))
      | .ask _ _ => False
      | .connectionError => True) ∧
      Supported servers layout slot (retry + 1) failures
        (exec (Cluster.populateCluster (servers.slots retry)) cluster).2

theorem exec_attempt (node : RedisNode) (asking : Bool) (session : RedisSession) :
    exec (attempt node asking) session = (.ok (),
      { session with attempts := session.attempts ++ [⟨node, asking⟩] }) := rfl

theorem exec_populate {cluster : Cluster} {answer : RedisNode → SlotsReply}
    (attempts : List RedisAttempt) {after : Cluster}
    (executed : exec (Cluster.populateCluster answer) cluster = (.ok (), after)) :
    exec (populate answer) ⟨cluster, attempts⟩ = (.ok (), ⟨after, attempts⟩) := by
  unfold populate
  rw [exec_focus, executed]

/-- A refresh of a cluster that knows a node for the slot. -/
theorem exists_refreshed {session : RedisSession} (retry : Nat)
    (answers : ∀ retry node, servers.slots retry node = .connectionError ∨
      servers.slots retry node = .slots (layout retry))
    (clustered : session.cluster.Clustered)
    (isKnown : session.cluster.nodesBySlot slot ≠ none) :
    ∃ after next, exec (Cluster.populateCluster (servers.slots retry)) session.cluster =
        (.ok (), after) ∧
      after.Clustered ∧ after.nodesBySlot slot = some next ∧
      (slotOwner (layout retry) slot = some next ↔
        slotOwner (layout retry) slot ≠ none ∧
        (slotOwner (layout retry) slot = session.cluster.nodesBySlot slot ∨
          ∃ node ∈ session.cluster.configuredNodes,
            servers.slots retry node = .slots (layout retry))) := by
  rcases clustered.populateFrom session.cluster.configuredNodes
    (fun node _ => answers retry node) with ⟨after, executed, afterClustered, isAfter⟩
  have isRefresh : exec (Cluster.populateCluster (servers.slots retry)) session.cluster =
      (.ok (), after) := by
    unfold Cluster.populateCluster
    rw [exec_bind_ok (exec_get session.cluster)]
    exact executed
  rcases Option.ne_none_iff_exists'.mp isKnown with ⟨before, isBefore⟩
  have isSlot := isAfter slot
  rw [isBefore] at isSlot
  by_cases reachable : ∃ node ∈ session.cluster.configuredNodes,
      servers.slots retry node = .slots (layout retry)
  · rw [if_pos reachable] at isSlot
    cases isOwner : slotOwner (layout retry) slot with
    | none =>
        rw [isOwner, Option.none_or] at isSlot
        refine ⟨after, before, isRefresh, afterClustered, isSlot, ?_⟩
        simp
    | some owner =>
        rw [isOwner, Option.some_or] at isSlot
        refine ⟨after, owner, isRefresh, afterClustered, isSlot, ?_⟩
        simp only [ne_eq, reduceCtorEq, not_false_eq_true, true_and, true_iff]
        exact Or.inr reachable
  · rw [if_neg reachable] at isSlot
    refine ⟨after, before, isRefresh, afterClustered, isSlot, ?_⟩
    rw [isBefore]
    constructor
    · intro isOwner
      rw [isOwner]
      exact ⟨Option.some_ne_none before, Or.inl rfl⟩
    · rintro ⟨-, isOwner | isReachable⟩
      · exact isOwner
      · exact absurd isReachable reachable

theorem exec_keyCommandLoop_moved (slot left : Nat) {retry : Nat} (node : RedisNode)
    {session : RedisSession} {after : Cluster}
    (isReply : (∃ ip port, servers.reply retry = .moved ip port) ∨
      servers.reply retry = .connectionError)
    (refreshed : exec (Cluster.populateCluster (servers.slots retry)) session.cluster =
      (.ok (), after)) :
    exec (keyCommandLoop servers slot (left + 1) retry (some node) false) session =
      exec (keyCommandLoop servers slot left (retry + 1) (after.getNode slot) false)
        ⟨after, session.attempts ++ [⟨node, false⟩]⟩ := by
  have populated := exec_populate (session.attempts ++ [⟨node, false⟩]) refreshed
  rcases isReply with ⟨ip, port, isMoved⟩ | isLost
  · rw [keyCommandLoop, exec_bind_ok (exec_attempt _ _ _), Bool.false_and,
      if_neg Bool.false_ne_true, isMoved]
    simp only
    rw [exec_bind_ok populated]
    rfl
  · rw [keyCommandLoop, exec_bind_ok (exec_attempt _ _ _), Bool.false_and,
      if_neg Bool.false_ne_true, isLost]
    simp only
    rw [exec_bind_ok populated]
    rfl

theorem exec_keyCommandLoop_ask {left retry : Nat} {node : RedisNode} {ip port : String}
    {session : RedisSession} (clustered : session.cluster.Clustered)
    (isReply : servers.reply retry = .ask ip port) :
    exec (keyCommandLoop servers slot (left + 1) retry (some node) false) session =
      (.error .keyError,
        { session with attempts := session.attempts ++ [⟨node, false⟩] }) := by
  rw [keyCommandLoop, exec_bind_ok (exec_attempt _ _ _), Bool.false_and,
    if_neg Bool.false_ne_true, isReply]
  simp only
  rw [exec_bind_ok (exec_get _), clustered.getNodeByHost]
  rfl

theorem exec_keyCommandLoop_value {left retry : Nat} {node : RedisNode} {value : β}
    {session : RedisSession} (isReply : servers.reply retry = .value value) :
    exec (keyCommandLoop servers slot (left + 1) retry (some node) false) session =
      (.ok value, { session with attempts := session.attempts ++ [⟨node, false⟩] }) := by
  rw [keyCommandLoop, exec_bind_ok (exec_attempt _ _ _), Bool.false_and,
    if_neg Bool.false_ne_true, isReply]
  rfl

/-- Attempts are only ever added. -/
def Longer (before after : RedisSession) : Prop :=
  before.attempts <+: after.attempts

instance : IsPreorder RedisSession Longer where
  refl session := List.prefix_refl session.attempts
  trans _ _ _ first second := first.trans second

theorem keyCommandLoop_longer (left retry : Nat) (node : Option RedisNode) (ask : Bool) :
    Keeps Longer (keyCommandLoop servers slot left retry node ask) := by
  have populates (answer : RedisNode → SlotsReply) : Keeps Longer (populate answer) :=
    fun session => List.prefix_refl session.attempts
  induction left generalizing retry node ask with
  | zero =>
      rw [keyCommandLoop]
      exact Keeps.throw _
  | succ left induction =>
      have refreshes (asking : Bool) : Keeps Longer (do
          populate (servers.slots retry)
          let session ← get
          keyCommandLoop servers slot left (retry + 1) (session.cluster.getNode slot)
            asking) :=
        Keeps.bind (populates _) fun _ => Keeps.bind Keeps.get fun _ => induction _ _ _
      cases node with
      | none =>
          rw [keyCommandLoop]
          exact Keeps.bind (populates _) fun _ => Keeps.throw _
      | some node =>
          have attempts : Keeps Longer (attempt node ask) :=
            fun session => List.prefix_append session.attempts _
          rw [keyCommandLoop]
          refine Keeps.bind attempts fun _ => ?_
          split
          · exact refreshes true
          · split
            · exact Keeps.pure _
            · exact refreshes false
            · exact Keeps.bind Keeps.get fun _ =>
                Keeps.bind (Keeps.ofExcept _) fun _ => induction _ _ _
            · exact refreshes false

/-- The first attempt of the loop goes to the given node. -/
theorem keyCommandLoop_first (servers : RedisServers β) (slot left retry : Nat)
    (node : RedisNode) (session : RedisSession) :
    session.attempts ++ [⟨node, false⟩] <+:
      (exec (keyCommandLoop servers slot (left + 1) retry (some node) false)
        session).2.attempts := by
  rw [keyCommandLoop, exec_bind_ok (exec_attempt _ _ _), Bool.false_and,
    if_neg Bool.false_ne_true]
  have refreshes : Keeps Longer (do
      populate (servers.slots retry)
      let session ← get
      keyCommandLoop servers slot left (retry + 1) (session.cluster.getNode slot) false) :=
    Keeps.bind (fun session => List.prefix_refl session.attempts)
      fun _ => Keeps.bind Keeps.get fun _ => keyCommandLoop_longer _ _ _ _
  split
  · exact List.prefix_refl _
  · exact refreshes ⟨session.cluster, session.attempts ++ [⟨node, false⟩]⟩
  · have looksUp (ip port : String) : Keeps Longer (do
        let session ← get
        let named ← Program.ofExcept (session.cluster.getNodeByHost ip (.text port))
        keyCommandLoop servers slot left (retry + 1) (some named) true) :=
      Keeps.bind Keeps.get fun _ => Keeps.bind (Keeps.ofExcept _) fun _ =>
        keyCommandLoop_longer _ _ _ _
    exact looksUp _ _ ⟨session.cluster, session.attempts ++ [⟨node, false⟩]⟩
  · exact refreshes ⟨session.cluster, session.attempts ++ [⟨node, false⟩]⟩

/-- What is followed after a refresh is followed from the start, with the attempt
before it. -/
theorem followedFrom_succ {command rest : Action β} {retry failures : Nat}
    {node next : RedisNode} {session middle : RedisSession}
    (isRest : exec command session = exec rest middle)
    (isMiddle : middle.attempts = session.attempts ++ [⟨node, false⟩])
    (isFirst : middle.attempts ++ [⟨next, false⟩] <+: (exec rest middle).2.attempts) :
    FollowedFrom servers layout slot command retry (failures + 1) node false session ↔
      Designated (servers.reply retry) (layout retry) slot ⟨next, false⟩ ∧
        FollowedFrom servers layout slot rest (retry + 1) failures next false middle := by
  have shift (index : Nat) : retry + 1 + index = retry + (index + 1) := by omega
  constructor
  · rintro ⟨value, after, later, isValue, executed, isAfter, length, each⟩
    rw [isRest] at executed
    rw [executed, isMiddle, isAfter, List.append_assoc] at isFirst
    have isPrefix : [⟨node, false⟩, ⟨next, false⟩] <+: ⟨node, false⟩ :: later :=
      (List.prefix_append_right_inj session.attempts).mp isFirst
    obtain ⟨rest, isLater⟩ := (List.cons_prefix_cons.mp isPrefix).2
    subst isLater
    refine ⟨each 0 _ rfl, value, after, rest, ?_, executed, ?_, ?_, ?_⟩
    · rw [shift]
      exact isValue
    · rw [isAfter, isMiddle, List.append_assoc]
      rfl
    · exact Nat.succ.inj length
    · intro index attempt isAttempt
      rw [shift]
      exact each (index + 1) attempt isAttempt
  · rintro ⟨designated, value, after, later, isValue, executed, isAfter, length, each⟩
    rw [isMiddle, List.append_assoc] at isAfter
    refine ⟨value, after, ⟨next, false⟩ :: later, ?_, ?_, isAfter, ?_, ?_⟩
    · rw [shift] at isValue
      exact isValue
    · rw [isRest]
      exact executed
    · rw [List.length_cons, length]
    · intro index attempt isAttempt
      cases index with
      | zero =>
          rw [← Option.some.inj isAttempt]
          exact designated
      | succ index =>
          have eachLater := each index attempt isAttempt
          rw [shift] at eachLater
          exact eachLater

theorem followedFrom_loop (answers : ∀ retry node,
      servers.slots retry node = .connectionError ∨
        servers.slots retry node = .slots (layout retry))
    {left retry failures : Nat} (enough : failures < left)
    (failing : ∀ index < failures, ∀ value, servers.reply (retry + index) ≠ .value value)
    (ends : ∃ value, servers.reply (retry + failures) = .value value) {node : RedisNode}
    {session : RedisSession} (clustered : session.cluster.Clustered)
    (isKnown : session.cluster.nodesBySlot slot ≠ none) :
    FollowedFrom servers layout slot
        (keyCommandLoop servers slot left retry (some node) false) retry failures node
        false session ↔
      Supported servers layout slot retry failures session.cluster := by
  induction failures generalizing left retry node session with
  | zero =>
      rcases ends with ⟨value, isValue⟩
      rcases left with _ | left
      · exact absurd enough (Nat.lt_irrefl 0)
      · refine ⟨fun _ => trivial, fun _ => ⟨value, _, [], isValue,
          exec_keyCommandLoop_value isValue, rfl, rfl, ?_⟩⟩
        intro index attempt isAttempt
        cases isAttempt
  | succ failures induction =>
      rcases left with _ | left
      · exact absurd enough (Nat.not_lt_zero _)
      rcases left with _ | left
      · exact absurd enough (by omega)
      have shift (index : Nat) : retry + (index + 1) = retry + 1 + index := by omega
      have laterFailing : ∀ index < failures, ∀ value,
          servers.reply (retry + 1 + index) ≠ .value value := by
        intro index inside
        rw [← shift]
        exact failing (index + 1) (Nat.succ_lt_succ inside)
      have laterEnds : ∃ value, servers.reply (retry + 1 + failures) = .value value := by
        rw [← shift]
        exact ends
      rcases exists_refreshed retry answers clustered isKnown with
        ⟨after, next, refreshed, afterClustered, isNext, isOwner⟩
      have getsNext : after.getNode slot = some next := by
        rw [afterClustered.getNode, isNext]
      have later : FollowedFrom servers layout slot
          (keyCommandLoop servers slot (left + 1) (retry + 1) (some next) false) (retry + 1)
          failures next false ⟨after, session.attempts ++ [⟨node, false⟩]⟩ ↔
            Supported servers layout slot (retry + 1) failures after :=
        induction (by omega) laterFailing laterEnds afterClustered
          (by rw [isNext]; exact Option.some_ne_none next)
      have first := keyCommandLoop_first servers slot left (retry + 1) next
        ⟨after, session.attempts ++ [⟨node, false⟩]⟩
      rw [Supported, refreshed]
      cases isReply : servers.reply retry with
      | value value => exact absurd isReply (failing 0 (Nat.succ_pos failures) value)
      | moved ip port =>
          have isRest := exec_keyCommandLoop_moved slot (left + 1) node
            (Or.inl ⟨ip, port, isReply⟩) refreshed
          rw [getsNext] at isRest
          rw [followedFrom_succ isRest rfl first, later, isReply]
          exact and_congr_left fun _ => isOwner
      | ask ip port =>
          constructor
          · rintro ⟨value, result, rest, -, executed, -⟩
            rw [exec_keyCommandLoop_ask clustered isReply] at executed
            cases executed
          · rintro ⟨impossible, -⟩
            exact absurd impossible id
      | connectionError =>
          have isRest := exec_keyCommandLoop_moved slot (left + 1) node (Or.inr isReply)
            refreshed
          rw [getsNext] at isRest
          rw [followedFrom_succ isRest rfl first, later, isReply]
          exact Iff.rfl

/-! ## A cluster of two masters -/

def halves : List SlotRange :=
  [⟨0, 8191, "10.0.0.1", 7000⟩, ⟨8192, 16383, "10.0.0.2", 7001⟩]

def halvesAnswer : RedisNode → SlotsReply := fun _ => .slots halves

/-- A cluster that is not populated yet, with one configured node. -/
def unreadCluster : Cluster where
  configuredNodes := [⟨"10.0.0.1", .number 7000⟩]

/-- The cluster, once it is populated. -/
theorem exists_halvesCluster :
    ∃ cluster : Cluster, cluster.Reached ∧
      cluster.getNode 5 = some ⟨"10.0.0.1", .number 7000⟩ := by
  have unread : unreadCluster.Reached := .created [("10.0.0.1", 7000)]
  have answers : ∀ node, halvesAnswer node = .connectionError ∨
      halvesAnswer node = .slots halves := fun _ => Or.inr rfl
  have reached := unread.populated halvesAnswer halves answers
  rcases unread.clustered.populateFrom unreadCluster.configuredNodes
    (fun node _ => answers node) with ⟨after, executed, -, isAfter⟩
  have isRefresh : exec (Cluster.populateCluster halvesAnswer) unreadCluster =
      (.ok (), after) := by
    unfold Cluster.populateCluster
    rw [exec_bind_ok (exec_get unreadCluster)]
    exact executed
  have reachable : ∃ node ∈ unreadCluster.configuredNodes,
      halvesAnswer node = .slots halves := ⟨_, List.mem_cons_self, rfl⟩
  rw [isRefresh] at reached
  refine ⟨after, reached, ?_⟩
  rw [reached.clustered.getNode, isAfter, if_pos reachable]
  rfl

/-- A connection is lost once before the value comes. -/
def reconnecting : RedisServers String where
  reply retry := if retry = 0 then .connectionError else .value "found"
  slots _ := halvesAnswer

/-- The slot moves to the second master while the command is sent. -/
def migrating : RedisServers String where
  reply retry := if retry = 0 then .ask "10.0.0.2" "7001" else .value "found"
  slots _ := halvesAnswer

/-! ## The command -/

/-- A command comes to the value that follows its failures, by the nodes that the
redirections designate, exactly when the slot of the key has a node, no reply is `ASK`,
and every `MOVED` leads to an owner that is known or that can still be read. -/
theorem key_command_follows_redirections (retryCount failures : Nat)
    (servers : RedisServers β) (layout : Nat → List SlotRange) (slot : Nat)
    (cluster : Cluster) (reached : cluster.Reached)
    (answers : ∀ retry node, servers.slots retry node = .connectionError ∨
      servers.slots retry node = .slots (layout retry))
    (enough : failures < retryCount)
    (failing : ∀ index < failures, ∀ value, servers.reply index ≠ .value value)
    (ends : ∃ value, servers.reply failures = .value value) :
    (∃ node, cluster.getNode slot = some node ∧
        FollowedFrom servers layout slot (keyCommand retryCount servers slot) 0 failures
          node false ⟨cluster, []⟩) ↔
      cluster.getNode slot ≠ none ∧
        Supported servers layout slot 0 failures cluster := by
  have clustered := reached.clustered
  have starts (node : RedisNode) (isNode : cluster.getNode slot = some node) :
      exec (keyCommand retryCount servers slot) ⟨cluster, []⟩ =
        exec (keyCommandLoop servers slot retryCount 0 (some node) false)
          ⟨cluster, []⟩ := by
    unfold keyCommand
    rw [exec_bind_ok (exec_get _), isNode]
  have followed (node : RedisNode) (isNode : cluster.getNode slot = some node) :
      FollowedFrom servers layout slot (keyCommand retryCount servers slot) 0 failures node
          false ⟨cluster, []⟩ ↔
        Supported servers layout slot 0 failures cluster := by
    have isKnown : cluster.nodesBySlot slot ≠ none := by
      rw [← clustered.getNode, isNode]
      exact Option.some_ne_none node
    have loop : FollowedFrom servers layout slot
        (keyCommandLoop servers slot retryCount 0 (some node) false) 0 failures node false
        ⟨cluster, []⟩ ↔ Supported servers layout slot 0 failures cluster :=
      followedFrom_loop answers enough
        (fun index inside => by rw [Nat.zero_add]; exact failing index inside)
        (by rw [Nat.zero_add]; exact ends) clustered isKnown
    unfold FollowedFrom at loop ⊢
    rw [starts node isNode]
    exact loop
  constructor
  · rintro ⟨node, isNode, isFollowed⟩
    refine ⟨?_, (followed node isNode).mp isFollowed⟩
    rw [isNode]
    exact Option.some_ne_none node
  · rintro ⟨isKnown, supported⟩
    rcases Option.ne_none_iff_exists'.mp isKnown with ⟨node, isNode⟩
    exact ⟨node, isNode, (followed node isNode).mpr supported⟩

theorem key_command_reconnects :
    ∃ cluster node, cluster.getNode 5 = some node ∧
      FollowedFrom reconnecting (fun _ => halves) 5 (keyCommand 3 reconnecting 5) 0 1 node
        false ⟨cluster, []⟩ := by
  have failing : ∀ index < 1, ∀ value, reconnecting.reply index ≠ .value value := by
    intro index inside value same
    rw [Nat.lt_one_iff.mp inside] at same
    cases same
  rcases exists_halvesCluster with ⟨cluster, reached, isNode⟩
  have isKnown : cluster.getNode 5 ≠ none := by
    rw [isNode]
    exact Option.some_ne_none _
  exact ⟨cluster, (key_command_follows_redirections 3 1 reconnecting (fun _ => halves) 5
    cluster reached (fun _ _ => Or.inr rfl) (by decide) failing ⟨"found", rfl⟩).mpr
    ⟨isKnown, trivial, trivial⟩⟩

/-- The text of the port that `ASK` names is not the number under which the node is
known. -/
theorem ask_raises_keyError :
    slotOwner halves 8192 = some ⟨"10.0.0.2", .number 7001⟩ ∧
      ∃ cluster : Cluster, cluster.Reached ∧ cluster.getNode 5 ≠ none ∧
        (exec (keyCommand 3 migrating 5) ⟨cluster, []⟩).1 = .error .keyError := by
  rcases exists_halvesCluster with ⟨cluster, reached, isNode⟩
  have starts : exec (keyCommand 3 migrating 5) ⟨cluster, []⟩ =
      exec (keyCommandLoop migrating 5 3 0 (some ⟨"10.0.0.1", .number 7000⟩) false)
        ⟨cluster, []⟩ := by
    unfold keyCommand
    rw [exec_bind_ok (exec_get _), isNode]
  have asks : migrating.reply 0 = .ask "10.0.0.2" "7001" := rfl
  refine ⟨rfl, cluster, reached, ?_, ?_⟩
  · rw [isNode]
    exact Option.some_ne_none _
  · have raises : exec (keyCommandLoop migrating 5 3 0 (some ⟨"10.0.0.1", .number 7000⟩)
        false) ⟨cluster, []⟩ = (.error .keyError, _) :=
      exec_keyCommandLoop_ask reached.clustered asks
    rw [starts, raises]

end RedisSession

end Dragonflow
