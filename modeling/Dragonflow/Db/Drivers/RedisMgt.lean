import Dragonflow.Foundation.Dict

/-! # The management of a redis cluster

`dragonflow/db/drivers/redis_mgt.py`: every few seconds the nodes of the cluster are
delivered, and compared with those that were stored last. When they changed, the
controllers are told to synchronise again.
-/

namespace Dragonflow

/-- What `cluster nodes` says about one node, with the role of `_get_role_from_flags`. -/
structure NodeInfo where
  role : Option String
  slots : List (List String)
  rest : List (String × String) := []
  deriving DecidableEq, Repr

/-- Nodes under `ip:port`. -/
abbrev ClusterNodes := Dict String NodeInfo

/-- An entry of `master_list`. The slots are converted when they are read. -/
structure MasterNode where
  ipPort : String
  slot : List (List String)
  deriving DecidableEq, Repr

inductive RetCode
  | notChange
  | nodesChange
  | slotsChange
  deriving DecidableEq, Repr

/-- How a restart is notified: `db_callback` with `CONTROLLER_DBRESTART`, or
`db_recover_callback`. -/
inductive Restart
  | dbCallback
  | dbRecoverCallback
  deriving DecidableEq, Repr

/-- `RedisMgt`, with the restarts that were notified. -/
structure RedisMgt where
  clusterNodes : ClusterNodes := ∅
  masterList : List MasterNode := []
  dbCallback : Bool := false
  dbRecoverCallback : Bool := false
  restarts : List Restart := []

namespace RedisMgt

/-! ## Comparing nodes -/

/-- The counters of `_check_nodes_change`. -/
structure Tally where
  cnt : Nat := 0
  masterCnt : Nat := 0
  slaveCnt : Nat := 0
  slotChanged : Bool := false

/-- The inner loop of `_check_nodes_change`, which ends with the first match. -/
def matching (newNodes : ClusterNodes) (host : String) (info : NodeInfo) :
    Option NodeInfo :=
  (newNodes.entries.find? fun found =>
    host = found.1 ∧ info.role = found.2.role).map Sigma.snd

/-- The body of the outer loop of `_check_nodes_change`. -/
def tallyNode (newNodes : ClusterNodes) (tally : Tally) (node : Σ _ : String, NodeInfo) :
    Tally :=
  match matching newNodes node.1 node.2 with
  | none => tally
  | some newInfo =>
      { cnt := tally.cnt + 1
        masterCnt := if newInfo.role = some "master" then tally.masterCnt + 1
          else tally.masterCnt
        slaveCnt := if newInfo.role = some "master" then tally.slaveCnt
          else tally.slaveCnt + 1
        slotChanged := tally.slotChanged || node.2.slots ≠ newInfo.slots }

def tallyNodes (newNodes : ClusterNodes) (nodes : List (Σ _ : String, NodeInfo))
    (tally : Tally) : Tally :=
  nodes.foldl (tallyNode newNodes) tally

/-- `_check_nodes_change` -/
def checkNodesChange (oldNodes newNodes : ClusterNodes) : RetCode :=
  if oldNodes.entries.length < newNodes.entries.length then
    .nodesChange
  else if oldNodes.entries.length = newNodes.entries.length then
    if oldNodes.entries.length = 0 then
      .notChange
    else
      let tally := tallyNodes newNodes oldNodes.entries {}
      -- Cluster nodes come in pairs, and anything else is a temporary status.
      if tally.masterCnt ≠ tally.slaveCnt then .nodesChange
      else if tally.cnt ≠ oldNodes.entries.length then .nodesChange
      else if tally.slotChanged then .slotsChange
      else .notChange
  else
    .notChange

/-! ## The callback -/

/-- `_parse_to_masterlist` -/
def parseToMasterlist (mgt : RedisMgt) : List MasterNode :=
  (mgt.clusterNodes.entries.filter fun node => node.2.role = some "master").map
    fun node => { ipPort := node.1, slot := node.2.slots }

/-- The new nodes are stored. The string that is shared between processes is left out. -/
def store (mgt : RedisMgt) (newNodes : ClusterNodes) : RedisMgt :=
  let stored := { mgt with clusterNodes := newNodes }
  { stored with masterList := stored.parseToMasterlist }

variable (reachable : String → Bool)

/-- `_check_master_nodes_connection` -/
def checkMasterNodesConnection (mgt : RedisMgt) : Bool :=
  mgt.masterList.all fun remote => reachable remote.ipPort

/-- The restart message of `redis_failover_callback`. -/
def sendRestart (mgt : RedisMgt) : RedisMgt :=
  if mgt.checkMasterNodesConnection reachable then
    if mgt.dbCallback then
      { mgt with restarts := mgt.restarts ++ [.dbCallback] }
    else if mgt.dbRecoverCallback then
      { mgt with restarts := mgt.restarts ++ [.dbRecoverCallback] }
    else mgt
  else mgt

/-- `redis_failover_callback` -/
def redisFailoverCallback (mgt : RedisMgt) (newNodes : ClusterNodes) : RedisMgt :=
  match checkNodesChange mgt.clusterNodes newNodes with
  | .slotsChange => mgt.store newNodes
  | .nodesChange => (mgt.store newNodes).sendRestart reachable
  | .notChange => mgt

/-- Maps that are delivered one after another. -/
def failovers (mgt : RedisMgt) (maps : List ClusterNodes) : RedisMgt :=
  maps.foldl (redisFailoverCallback reachable) mgt

/-- What each of the maps is compared with: the state before it is delivered. -/
def positions (mgt : RedisMgt) : List ClusterNodes → List (RedisMgt × ClusterNodes)
  | [] => []
  | nodes :: maps =>
      (mgt, nodes) :: positions (redisFailoverCallback reachable mgt nodes) maps

variable {reachable} {oldNodes newNodes : ClusterNodes}

/-! ## Counting -/

theorem matching_eq_some {host : String} {info newInfo : NodeInfo} :
    matching newNodes host info = some newInfo ↔
      newNodes.lookup host = some newInfo ∧ info.role = newInfo.role := by
  unfold matching
  rw [Option.map_eq_some_iff]
  constructor
  · rintro ⟨⟨found, foundInfo⟩, isFound, rfl⟩
    have holds := List.find?_some isFound
    have member := List.mem_of_find?_eq_some isFound
    rcases of_decide_eq_true holds with ⟨rfl, sameRole⟩
    exact ⟨AList.mem_lookup_iff.mpr member, sameRole⟩
  · rintro ⟨isInfo, sameRole⟩
    have member : (⟨host, newInfo⟩ : Σ _ : String, NodeInfo) ∈ newNodes.entries :=
      AList.mem_lookup_iff.mp isInfo
    cases isFound : newNodes.entries.find? fun found =>
        host = found.1 ∧ info.role = found.2.role with
    | none =>
        have none := List.find?_eq_none.mp isFound _ member
        exact absurd (decide_eq_true ⟨rfl, sameRole⟩) none
    | some found =>
        have holds := List.find?_some isFound
        have foundMember := List.mem_of_find?_eq_some isFound
        rcases found with ⟨foundHost, foundInfo⟩
        rcases of_decide_eq_true holds with ⟨sameHost, -⟩
        have sameHost : host = foundHost := sameHost
        subst sameHost
        have isFoundInfo : newNodes.lookup host = some foundInfo :=
          AList.mem_lookup_iff.mpr foundMember
        exact ⟨_, rfl, Option.some.inj (isFoundInfo.symm.trans isInfo)⟩

/-- The nodes of a list that are masters. -/
def masters (nodes : List (Σ _ : String, NodeInfo)) : Nat :=
  nodes.countP fun node => node.2.role = some "master"

/-- No node is counted twice, and the counters agree with what is counted. -/
structure Counts (newNodes : ClusterNodes) (nodes : List (Σ _ : String, NodeInfo))
    (before after : Tally) : Prop where
  atMost : after.cnt ≤ before.cnt + nodes.length
  both : after.masterCnt + after.slaveCnt + before.cnt =
    before.masterCnt + before.slaveCnt + after.cnt
  allMatch : after.cnt = before.cnt + nodes.length →
    (∀ node ∈ nodes, ∃ newInfo, matching newNodes node.1 node.2 = some newInfo) ∧
      after.masterCnt = before.masterCnt + masters nodes
  whenMatch : (∀ node ∈ nodes, ∃ newInfo, matching newNodes node.1 node.2 = some newInfo) →
    after.cnt = before.cnt + nodes.length
  slots : after.slotChanged = true ↔ before.slotChanged = true ∨
    ∃ node ∈ nodes, ∃ newInfo, matching newNodes node.1 node.2 = some newInfo ∧
      node.2.slots ≠ newInfo.slots

theorem counts_tallyNodes (newNodes : ClusterNodes)
    (nodes : List (Σ _ : String, NodeInfo)) (before : Tally) :
    Counts newNodes nodes before (tallyNodes newNodes nodes before) := by
  induction nodes generalizing before with
  | nil =>
      constructor
      · exact Nat.le_refl _
      · exact Nat.add_right_comm _ _ _ ▸ rfl
      · intro _
        exact ⟨fun _ member => absurd member List.not_mem_nil, rfl⟩
      · intro _
        rfl
      · simp [tallyNodes]
  | cons node nodes induction =>
      have later := induction (tallyNode newNodes before node)
      have step : tallyNodes newNodes (node :: nodes) before =
          tallyNodes newNodes nodes (tallyNode newNodes before node) := rfl
      rw [step]
      generalize tallyNodes newNodes nodes (tallyNode newNodes before node) = after at later
      unfold tallyNode at later
      have isMasters : masters (node :: nodes) =
          masters nodes + if node.2.role = some "master" then 1 else 0 := by
        simp [masters, List.countP_cons]
      cases isMatch : matching newNodes node.1 node.2 with
      | none =>
          simp only [isMatch] at later
          constructor
          · have atMost := later.atMost
            simp only [List.length_cons]
            omega
          · exact later.both
          · intro all
            have atMost := later.atMost
            simp only [List.length_cons] at all
            omega
          · intro all
            rcases all node List.mem_cons_self with ⟨newInfo, found⟩
            rw [isMatch] at found
            cases found
          · rw [later.slots]
            simp [isMatch]
      | some newInfo =>
          rw [isMatch] at later
          have sameRole := (matching_eq_some.mp isMatch).2
          have atMost := later.atMost
          have both := later.both
          constructor
          · simp only [List.length_cons] at atMost ⊢
            omega
          · simp only at both
            split at both
            · omega
            · omega
          · intro all
            simp only [List.length_cons] at all
            have rest := later.allMatch (by simp only; omega)
            constructor
            · intro found member
              rcases List.mem_cons.mp member with isNode | isLater
              · rw [isNode]
                exact ⟨newInfo, isMatch⟩
              · exact rest.1 found isLater
            · rw [rest.2, isMasters, sameRole]
              simp only
              split
              · omega
              · omega
          · intro all
            have rest := later.whenMatch fun found member =>
              all found (List.mem_cons_of_mem _ member)
            simp only [List.length_cons] at rest ⊢
            omega
          · rw [later.slots]
            simp [isMatch, or_assoc]

/-! ## When the nodes changed -/

/-- The two maps are equal dictionaries. -/
def SameNodes (oldNodes newNodes : ClusterNodes) : Prop :=
  oldNodes.entries.Perm newNodes.entries

/-- There are as many masters as other nodes. -/
def Balanced (nodes : ClusterNodes) : Prop :=
  2 * masters nodes.entries = nodes.entries.length

instance (oldNodes newNodes : ClusterNodes) : Decidable (SameNodes oldNodes newNodes) := by
  unfold SameNodes
  infer_instance

instance (nodes : ClusterNodes) : Decidable (Balanced nodes) := by
  unfold Balanced
  infer_instance

/-- Some host has another role or other slots than before, or is in one map only. -/
def RolesOrSlotsChanged (oldNodes newNodes : ClusterNodes) : Prop :=
  ∃ host, (oldNodes.lookup host).map (fun info => (info.role, info.slots)) ≠
    (newNodes.lookup host).map fun info => (info.role, info.slots)

theorem SameNodes.lookup (same : SameNodes oldNodes newNodes) (host : String) :
    oldNodes.lookup host = newNodes.lookup host :=
  AList.perm_lookup same

/-- Between equal maps, everything matches and no slots change. -/
theorem SameNodes.matching (same : SameNodes oldNodes newNodes)
    {node : Σ _ : String, NodeInfo} (member : node ∈ oldNodes.entries) :
    matching newNodes node.1 node.2 = some node.2 := by
  rw [matching_eq_some]
  refine ⟨?_, rfl⟩
  rw [← same.lookup]
  exact AList.mem_lookup_iff.mpr member

theorem checkNodesChange_of_same (same : SameNodes oldNodes newNodes) :
    checkNodesChange oldNodes newNodes =
      if Balanced newNodes then .notChange else .nodesChange := by
  have sameLength : oldNodes.entries.length = newNodes.entries.length := same.length_eq
  have counts := counts_tallyNodes newNodes oldNodes.entries {}
  have all := counts.whenMatch fun node member => ⟨node.2, same.matching member⟩
  have isMasters := (counts.allMatch all).2
  have both := counts.both
  have noSlots : (tallyNodes newNodes oldNodes.entries {}).slotChanged = false := by
    by_contra changed
    rcases counts.slots.mp ((Bool.not_eq_false _).mp changed) with
      before | ⟨node, member, newInfo, isMatch, different⟩
    · cases before
    · rw [same.matching member] at isMatch
      exact different (congrArg NodeInfo.slots (Option.some.inj isMatch))
  have sameMasters : masters oldNodes.entries = masters newNodes.entries :=
    List.Perm.countP_eq _ same
  have balancedIff : Balanced newNodes ↔
      2 * masters oldNodes.entries = oldNodes.entries.length := by
    unfold Balanced
    rw [← sameMasters, ← sameLength]
  unfold checkNodesChange
  rw [if_neg (by omega), if_pos sameLength]
  simp only at all isMasters both
  by_cases isEmpty : oldNodes.entries.length = 0
  · have noMasters : masters oldNodes.entries = 0 := by
      rw [List.eq_nil_of_length_eq_zero isEmpty]
      rfl
    rw [if_pos isEmpty, if_pos (balancedIff.mpr (by omega))]
  · rw [if_neg isEmpty]
    by_cases balanced : 2 * masters oldNodes.entries = oldNodes.entries.length
    · rw [if_pos (balancedIff.mpr balanced), if_neg (by omega), if_neg (by omega), noSlots]
      rfl
    · rw [if_neg (fun holds => balanced (balancedIff.mp holds)), if_pos (by omega)]

/-- Maps of equal size of which every node matches have the same roles and slots. -/
theorem changed_of_rolesOrSlots (sameLength :
      oldNodes.entries.length = newNodes.entries.length)
    (changed : RolesOrSlotsChanged oldNodes newNodes) :
    checkNodesChange oldNodes newNodes ≠ .notChange := by
  intro notChanged
  have counts := counts_tallyNodes newNodes oldNodes.entries {}
  have someNode : oldNodes.entries.length ≠ 0 := by
    intro isEmpty
    rcases changed with ⟨host, different⟩
    have isNil : oldNodes = ∅ :=
      AList.ext (List.eq_nil_of_length_eq_zero isEmpty)
    have newIsNil : newNodes = ∅ :=
      AList.ext (List.eq_nil_of_length_eq_zero (sameLength.symm.trans isEmpty))
    rw [isNil, newIsNil] at different
    exact different rfl
  unfold checkNodesChange at notChanged
  rw [if_neg (by omega), if_pos sameLength, if_neg someNode] at notChanged
  simp only at notChanged
  split at notChanged
  · cases notChanged
  split at notChanged
  · cases notChanged
  next notCounted =>
  split at notChanged
  · cases notChanged
  next notSlots =>
  have all : (tallyNodes newNodes oldNodes.entries {}).cnt =
      ({} : Tally).cnt + oldNodes.entries.length := by
    simp only
    omega
  have matched := (counts.allMatch all).1
  have noSlots : ¬ ∃ node ∈ oldNodes.entries, ∃ newInfo,
      matching newNodes node.1 node.2 = some newInfo ∧ node.2.slots ≠ newInfo.slots :=
    fun different => notSlots (counts.slots.mpr (Or.inr different))
  have kept : ∀ host info, oldNodes.lookup host = some info → ∃ newInfo,
      newNodes.lookup host = some newInfo ∧ info.role = newInfo.role ∧
        info.slots = newInfo.slots := by
    intro host info isInfo
    have member : (⟨host, info⟩ : Σ _ : String, NodeInfo) ∈ oldNodes.entries :=
      AList.mem_lookup_iff.mp isInfo
    rcases matched _ member with ⟨newInfo, isMatch⟩
    rcases matching_eq_some.mp isMatch with ⟨isNew, sameRole⟩
    refine ⟨newInfo, isNew, sameRole, ?_⟩
    by_contra different
    exact noSlots ⟨_, member, newInfo, isMatch, different⟩
  have sameKeys : oldNodes.keys.Perm newNodes.keys := by
    have inside : oldNodes.keys ⊆ newNodes.keys := by
      intro host member
      rcases (Dict.mem_keys_iff oldNodes host).mp member with ⟨info, isInfo⟩
      rcases kept host info isInfo with ⟨newInfo, isNew, -⟩
      exact (Dict.mem_keys_iff newNodes host).mpr ⟨newInfo, isNew⟩
    have lengths : newNodes.keys.length ≤ oldNodes.keys.length := by
      simp only [AList.keys, List.keys, List.length_map]
      omega
    exact (List.subperm_of_subset oldNodes.keys_nodup inside).perm_of_length_le lengths
  rcases changed with ⟨host, different⟩
  cases isInfo : oldNodes.lookup host with
  | some info =>
      rcases kept host info isInfo with ⟨newInfo, isNew, sameRole, sameSlots⟩
      rw [isInfo, isNew, Option.map_some, Option.map_some, sameRole, sameSlots] at different
      exact different rfl
  | none =>
      cases isNew : newNodes.lookup host with
      | none =>
          rw [isInfo, isNew] at different
          exact different rfl
      | some newInfo =>
          have member := sameKeys.mem_iff.mpr
            ((Dict.mem_keys_iff newNodes host).mpr ⟨newInfo, isNew⟩)
          rcases (Dict.mem_keys_iff oldNodes host).mp member with ⟨info, found⟩
          rw [isInfo] at found
          cases found

/-! ## Restarts -/

/-- The restart that is notified, if a callback is set. -/
def restartOf (mgt : RedisMgt) : List Restart :=
  if mgt.dbCallback then [.dbCallback]
  else if mgt.dbRecoverCallback then [.dbRecoverCallback]
  else []

theorem restartOf_length (mgt : RedisMgt) : mgt.restartOf.length ≤ 1 := by
  unfold restartOf
  split
  · exact Nat.le_refl 1
  · split
    · exact Nat.le_refl 1
    · exact Nat.zero_le 1

theorem sendRestart_eq (allReachable : ∀ host, reachable host = true) (mgt : RedisMgt) :
    mgt.sendRestart reachable = { mgt with restarts := mgt.restarts ++ mgt.restartOf } := by
  have connected : mgt.checkMasterNodesConnection reachable = true :=
    List.all_eq_true.mpr fun remote _ => allReachable remote.ipPort
  unfold sendRestart restartOf
  rw [if_pos connected]
  split
  · rfl
  · split
    · rfl
    · rw [List.append_nil]

theorem restarts_callback (allReachable : ∀ host, reachable host = true) (mgt : RedisMgt)
    (newNodes : ClusterNodes) :
    (redisFailoverCallback reachable mgt newNodes).restarts =
      if checkNodesChange mgt.clusterNodes newNodes = .nodesChange then
        mgt.restarts ++ mgt.restartOf
      else mgt.restarts := by
  unfold redisFailoverCallback
  split
  · next changed =>
      rw [changed, if_neg (by decide)]
      rfl
  · next changed =>
      rw [changed, if_pos rfl, sendRestart_eq allReachable]
      rfl
  · next changed => rw [changed, if_neg (by decide)]

/-- The new map differs from the stored one, or its masters and other nodes are not
equally many. -/
def Noticed (position : RedisMgt × ClusterNodes) : Prop :=
  ¬ SameNodes position.1.clusterNodes position.2 ∨ ¬ Balanced position.2

instance : DecidablePred Noticed := fun position => by
  unfold Noticed
  infer_instance

theorem noticed_of_nodesChange {mgt : RedisMgt}
    (changed : checkNodesChange mgt.clusterNodes newNodes = .nodesChange) :
    Noticed (mgt, newNodes) := by
  by_cases same : SameNodes mgt.clusterNodes newNodes
  · refine Or.inr fun balanced => ?_
    have balanced : Balanced newNodes := balanced
    rw [checkNodesChange_of_same same, if_pos balanced] at changed
    cases changed
  · exact Or.inl same

/-- In a run, a restart is notified at most once for each map that is noticed. -/
theorem restarts_failovers (allReachable : ∀ host, reachable host = true)
    (maps : List ClusterNodes) (mgt : RedisMgt) :
    (failovers reachable mgt maps).restarts.length ≤
      mgt.restarts.length + (positions reachable mgt maps).countP Noticed := by
  induction maps generalizing mgt with
  | nil => exact Nat.le_refl _
  | cons nodes maps induction =>
      have later := induction (redisFailoverCallback reachable mgt nodes)
      have isRun : failovers reachable mgt (nodes :: maps) =
          failovers reachable (redisFailoverCallback reachable mgt nodes) maps := rfl
      have step := restarts_callback allReachable mgt nodes
      rw [isRun, positions, List.countP_cons]
      rw [step] at later
      split at later
      · next changed =>
          have noticed := noticed_of_nodesChange changed
          have single := mgt.restartOf_length
          rw [List.length_append] at later
          rw [if_pos (decide_eq_true noticed)]
          omega
      · omega

/-- A restart is notified at most once for each map that differs from the stored one, or
in which masters and other nodes are not equally many. For an equal map it is notified
in the second case only. A map of equal size with other slots or roles is stored. -/
theorem failover_restarts (reachable : String → Bool)
    (allReachable : ∀ host, reachable host = true) (mgt : RedisMgt)
    (maps : List ClusterNodes) :
    (failovers reachable mgt maps).restarts.length ≤
        mgt.restarts.length + (positions reachable mgt maps).countP Noticed ∧
      ∀ position ∈ positions reachable mgt maps,
        (redisFailoverCallback reachable position.1 position.2).restarts.length ≤
            position.1.restarts.length + (if Noticed position then 1 else 0) ∧
        (SameNodes position.1.clusterNodes position.2 → Balanced position.2 →
          redisFailoverCallback reachable position.1 position.2 = position.1) ∧
        (SameNodes position.1.clusterNodes position.2 → ¬ Balanced position.2 →
          (redisFailoverCallback reachable position.1 position.2).restarts =
            position.1.restarts ++ position.1.restartOf) ∧
        (position.1.clusterNodes.entries.length = position.2.entries.length →
          RolesOrSlotsChanged position.1.clusterNodes position.2 →
          (redisFailoverCallback reachable position.1 position.2).clusterNodes =
            position.2) := by
  refine ⟨restarts_failovers allReachable maps mgt, ?_⟩
  intro position _
  rcases position with ⟨before, nodes⟩
  refine ⟨?_, ?_, ?_, ?_⟩
  · have single := restarts_failovers allReachable [nodes] before
    have isRun : failovers reachable before [nodes] =
        redisFailoverCallback reachable before nodes := rfl
    rw [isRun, positions, positions, List.countP_singleton] at single
    simpa only [decide_eq_true_eq] using single
  · intro same balanced
    unfold redisFailoverCallback
    rw [checkNodesChange_of_same same, if_pos balanced]
  · intro same unbalanced
    rw [restarts_callback allReachable, checkNodesChange_of_same same, if_neg unbalanced,
      if_pos rfl]
  · intro sameLength changed
    have noticed := changed_of_rolesOrSlots sameLength changed
    unfold redisFailoverCallback
    split
    · rfl
    · rw [sendRestart_eq allReachable]
      rfl
    · next notChanged => exact absurd notChanged noticed

/-- A master that has all slots, and its slave. -/
def pairOf (master slave : String) : ClusterNodes :=
  (AList.singleton slave { role := some "slave", slots := [] }).insert master
    { role := some "master", slots := [["0", "16383"]] }

def beforeTakeover : ClusterNodes := pairOf "10.0.0.1:6379" "10.0.0.2:6379"

/-- The slave takes over. -/
def takeover : ClusterNodes := pairOf "10.0.0.2:6379" "10.0.0.1:6379"

theorem failover_restarts_takeover :
    (failovers (fun _ => true) { clusterNodes := beforeTakeover, dbCallback := true }
        [beforeTakeover, takeover, takeover]).restarts.length ≤ 1 ∧
      (failovers (fun _ => true) { clusterNodes := beforeTakeover, dbCallback := true }
        [beforeTakeover, takeover]).clusterNodes = takeover := by
  rcases failover_restarts (fun _ => true) (fun _ => rfl)
    { clusterNodes := beforeTakeover, dbCallback := true }
    [beforeTakeover, takeover, takeover] with ⟨bounded, each⟩
  have once : (positions (fun _ => true)
      { clusterNodes := beforeTakeover, dbCallback := true }
      [beforeTakeover, takeover, takeover]).countP Noticed = 1 := by
    decide +kernel
  rw [once] at bounded
  refine ⟨bounded, (each (_, takeover) (List.mem_cons_of_mem _ List.mem_cons_self)).2.2.2
    (by decide +kernel) ⟨"10.0.0.1:6379", by decide +kernel⟩⟩

/-- One master without a slave. -/
def singleMaster : ClusterNodes :=
  AList.singleton "10.0.0.1:6379"
    { role := some "master", slots := [["0", "16383"]] }

/-- A cluster of one master restarts the controllers whenever its map is delivered. -/
theorem equal_map_restarts :
    SameNodes singleMaster singleMaster ∧
      (redisFailoverCallback (fun _ => true)
        { clusterNodes := singleMaster, dbCallback := true } singleMaster).restarts =
          [.dbCallback] := by
  constructor
  · exact List.Perm.refl _
  · decide

end RedisMgt

end Dragonflow
