import Dragonflow.Foundation.Program
import Mathlib.Data.List.Forall2

/-! # Bulk operations of the redis driver

`_bulk_execute` and `_bulk_operation` of `dragonflow/db/drivers/redis_db_driver.py`, for a
callable `entry_cb`, whose calls are recorded. What the servers answer comes from outside:
it is given for each attempt of a scan and of a pipeline, and for each single command.
-/

namespace Dragonflow

/-- An element of `command_pcs`. -/
inductive CommandPart
  | text (text : String)
  | tuple (items : List String)
  deriving DecidableEq, Repr

/-- What a pipeline returns for one of its keys. -/
inductive BulkReply
  | value (value : Option String)
  | error
  deriving DecidableEq, Repr

/-- A node of the cluster during one bulk operation. `none` is an exception. -/
structure BulkNode where
  /-- `_get_all_keys_from_node`, at each attempt. -/
  scan : Nat → Option (List String)
  /-- `pipeline.execute`, at each attempt. -/
  pipeline : Nat → Option (String → BulkReply)
  /-- `_key_command` while the operation is at this node. -/
  keyCommand : List CommandPart → Option (Option String)
  /-- The pattern of a scan has the two braces. -/
  scan_pattern : ∀ attempt keys, scan attempt = some keys → ∀ key ∈ keys, 2 ≤ key.length

/-- The arguments of `_bulk_operation`, and the options of the driver. -/
structure BulkRequest where
  command : String
  args : List String
  stopOnFail : Bool
  batchKeyAmount : Nat
  retryCount : Nat
  batchKeyAmount_pos : 1 ≤ batchKeyAmount
  retryCount_pos : 1 ≤ retryCount

/-- How `_bulk_operation` ends before its last line. -/
inductive BulkExit
  | returnFalse
  | dbKeyNotFound
  | unboundLocalError
  | typeError
  deriving DecidableEq, Repr

structure BulkState where
  /-- The calls of `entry_cb`. -/
  calls : List (String × Option String)
  nodeFailedKeys : List String
  success : Bool
  deriving DecidableEq, Repr

/-! ## The operation -/

namespace BulkNode

variable (node : BulkNode)

/-- The attempts of a scan. -/
def scanFrom : Nat → Nat → Option (List String)
  | 0, _ => none
  | retries + 1, attempt =>
      match node.scan attempt with
      | some keys => some keys
      | none => scanFrom retries (attempt + 1)

/-- What a node is found to hold in `RETRY_COUNT` attempts. -/
def scanned (retryCount : Nat) : Option (List String) :=
  node.scanFrom retryCount 0

/-- `_bulk_execute`. It returns the next attempt with its result. -/
def bulkExecute (keys : List String) : Nat → Nat → Option (List (String × BulkReply)) × Nat
  | 0, attempt => (none, attempt)
  | retries + 1, attempt =>
      match node.pipeline attempt with
      | some replies => (some (keys.map fun key => (key, replies key)), attempt + 1)
      | none => bulkExecute keys retries (attempt + 1)

end BulkNode

/-- `set.update(key)`, which adds the characters of a text. -/
def addFailedKey (failedKeys : List String) (key : String) : List String :=
  failedKeys ∪ key.toList.map String.singleton

/-- One turn of the loop over the replies. -/
def BulkState.handleReply (state : BulkState) : String × BulkReply → BulkState
  | (key, .error) => { state with nodeFailedKeys := addFailedKey state.nodeFailedKeys key }
  | (_, .value none) => state
  | (key, .value (some value)) => { state with calls := state.calls ++ [(key, some value)] }

namespace BulkRequest

variable (request : BulkRequest)

/-- The loop over the replies. `none` is `return False`. -/
def handleReplies : List (String × BulkReply) → BulkState → Option BulkState
  | [], state => some state
  | reply :: replies, state =>
      if reply.2 = .error ∧ request.stopOnFail = true then none
      else handleReplies replies (state.handleReply reply)

/-- The loop over the chunks, from `bulk_begin` on. A chunk that the node does not answer
is tried again, unless the operation stops there. -/
def bulkChunks (node : BulkNode) :
    Nat → Nat → List String → BulkState → Option (Except BulkExit BulkState)
  | 0, _, _, _ => none
  | fuel + 1, attempt, keys, state =>
      if keys = [] then some (.ok state)
      else
        match node.bulkExecute (keys.take request.batchKeyAmount) request.retryCount
            attempt with
        | (none, next) =>
            if request.stopOnFail = true then some (.error .returnFalse)
            else bulkChunks node fuel next keys state
        | (some replies, next) =>
            match request.handleReplies replies state with
            | none => some (.error .returnFalse)
            | some state =>
                bulkChunks node fuel next (keys.drop request.batchKeyAmount) state

/-- The loop over `node_failed_keys`. The arguments of the command go on as one tuple. -/
def retryFailedKeys (node : BulkNode) : List String → BulkState → Except BulkExit BulkState
  | [], state => .ok state
  | key :: keys, state =>
      match node.keyCommand [.text request.command, .text key, .tuple request.args] with
      | none =>
          if request.stopOnFail = true then .error .returnFalse
          else retryFailedKeys node keys { state with success := false }
      | some value =>
          retryFailedKeys node keys { state with calls := state.calls ++ [(key, value)] }

/-- The loop over the nodes. `node_keys` has no value before the first scan that succeeds,
and is read when a scan has failed. `DBKeyNotFound` takes no positional argument. -/
def bulkNodes (fuel : Nat) :
    List BulkNode → Bool → BulkState → Option (Except BulkExit BulkState)
  | [], _, state => some (.ok state)
  | node :: nodes, hasNodeKeys, state =>
      match node.scanned request.retryCount with
      | none => some (.error (if hasNodeKeys then .typeError else .unboundLocalError))
      | some keys =>
          match request.bulkChunks node fuel 0 keys { state with nodeFailedKeys := [] } with
          | none => none
          | some (.error exit) => some (.error exit)
          | some (.ok state) =>
              match request.retryFailedKeys node state.nodeFailedKeys state with
              | .error exit => some (.error exit)
              | .ok state => bulkNodes fuel nodes true state

/-- `_bulk_operation`. It returns the `success` of the state that it ends in. Its loop
over the chunks has `fuel` turns at each node. -/
def bulkOperation (fuel : Nat) (nodes : List BulkNode) : Option (Except BulkExit BulkState) :=
  request.bulkNodes fuel nodes false ⟨[], [], true⟩

end BulkRequest

/-! ## What the nodes answer -/

/-- The first pipeline from an attempt on that a node answers. -/
structure BulkNode.FirstAnswer (node : BulkNode) (attempt answered : Nat)
    (replies : String → BulkReply) : Prop where
  later : attempt ≤ answered
  answers : node.pipeline answered = some replies
  refuses : ∀ before, attempt ≤ before → before < answered → node.pipeline before = none

namespace BulkRequest

variable (request : BulkRequest)

/-- The replies to the keys of a node, chunk by chunk. An operation that stops takes no
error, and no answer after `RETRY_COUNT` attempts. -/
inductive Answers (node : BulkNode) :
    Nat → List String → List (String × BulkReply) → Prop
  | done (attempt : Nat) : Answers node attempt [] []
  | chunk {attempt answered : Nat} {keys : List String} {replies : String → BulkReply}
      {later : List (String × BulkReply)} (isKeys : keys ≠ [])
      (answer : node.FirstAnswer attempt answered replies)
      (stops : request.stopOnFail = true → answered < attempt + request.retryCount ∧
        ∀ key ∈ keys.take request.batchKeyAmount, replies key ≠ .error)
      (rest : Answers node (answered + 1) (keys.drop request.batchKeyAmount) later) :
      Answers node attempt keys
        ((keys.take request.batchKeyAmount).map (fun key => (key, replies key)) ++ later)

end BulkRequest

/-- The reply to a key, with the node that gave it. -/
structure KeyReply where
  node : BulkNode
  key : String
  reply : BulkReply

/-- The value of a key: the one of the pipeline, or of the command for the key alone when
the pipeline had an error for it. -/
def KeyReply.value (request : BulkRequest) (answer : KeyReply) : Option (Option String) :=
  match answer.reply with
  | .value value => some value
  | .error =>
      answer.node.keyCommand
        ([.text request.command, .text answer.key] ++ request.args.map .text)

/-- The command that a failed key is retried with is answered for all its characters. -/
def KeyReply.CharactersAnswered (request : BulkRequest) (answer : KeyReply) : Prop :=
  ∀ character ∈ answer.key.toList,
    answer.node.keyCommand [.text request.command, .text (String.singleton character),
      .tuple request.args] ≠ none

namespace BulkRequest

variable (request : BulkRequest)

/-- The replies to all keys of the nodes. -/
inductive Collects : List BulkNode → List KeyReply → Prop
  | nil : Collects [] []
  | cons {node : BulkNode} {nodes : List BulkNode} {keys : List String}
      {replies : List (String × BulkReply)} {later : List KeyReply}
      (scans : node.scanned request.retryCount = some keys)
      (answers : request.Answers node 0 keys replies) (rest : Collects nodes later) :
      Collects (node :: nodes)
        (replies.map (fun reply => ⟨node, reply.1, reply.2⟩) ++ later)

/-- A bulk operation ends; when it returns `True` it has called `entry_cb` once for each
scanned key that has a value; and a node whose scan fails makes it raise `DBKeyNotFound`. -/
structure AccountsForKeys (nodes : List BulkNode) : Prop where
  terminates : ∃ fuel ending, request.bulkOperation fuel nodes = some ending
  complete : ∀ fuel state, request.bulkOperation fuel nodes = some (.ok state) →
    state.success = true →
    ∃ answers, ∃ entries : List (String × Option String), request.Collects nodes answers ∧
      answers.map (fun answer => (answer.key, answer.value request)) =
        entries.map (fun entry => (entry.1, some entry.2)) ∧
      state.calls.Perm (entries.filter fun entry => entry.2.isSome)
  scanFailure : ∀ fuel before node after state, nodes = before ++ node :: after →
    request.bulkOperation fuel before = some (.ok state) →
    node.scanned request.retryCount = none →
    ∀ fuel ending, request.bulkOperation fuel nodes = some ending →
      ending = .error .dbKeyNotFound

/-- No scan fails that the operation comes to, every chunk is answered at last when it
does not stop, and a failed key has a character whose command fails. -/
structure Undisturbed (nodes : List BulkNode) : Prop where
  scans : ∀ before node after answers, nodes = before ++ node :: after →
    request.Collects before answers → node.scanned request.retryCount ≠ none
  answered : request.stopOnFail = false → ∃ answers, request.Collects nodes answers
  refused : ∀ answers, request.Collects nodes answers →
    (∃ answer ∈ answers, answer.reply = .error) →
    ∃ answer ∈ answers, answer.reply = .error ∧ ¬ answer.CharactersAnswered request

end BulkRequest

/-! ## Attempts -/

namespace BulkNode

variable {node : BulkNode} {keys : List String} {replies : String → BulkReply}
  {attempt answered : Nat}

theorem scanFrom_length {retries : Nat} (isKeys : node.scanFrom retries attempt = some keys) :
    ∀ key ∈ keys, 2 ≤ key.length := by
  induction retries generalizing attempt with
  | zero => exact absurd isKeys (by simp [scanFrom])
  | succ retries induction =>
      rw [scanFrom] at isKeys
      split at isKeys
      · rename_i found isFound
        rw [← Option.some.inj isKeys]
        exact node.scan_pattern attempt found isFound
      · exact induction isKeys

theorem FirstAnswer.next (first : node.FirstAnswer attempt answered replies)
    (isNone : node.pipeline attempt = none) :
    node.FirstAnswer (attempt + 1) answered replies := by
  have notFirst : attempt ≠ answered := by
    intro same
    rw [same, first.answers] at isNone
    exact absurd isNone (by simp)
  have later := first.later
  exact ⟨by omega, first.answers, fun before isLater => first.refuses before (by omega)⟩

theorem FirstAnswer.earlier (first : node.FirstAnswer attempt answered replies)
    {start : Nat} (isEarlier : start ≤ attempt)
    (refuses : ∀ before, start ≤ before → before < attempt → node.pipeline before = none) :
    node.FirstAnswer start answered replies := by
  refine ⟨Nat.le_trans isEarlier first.later, first.answers, ?_⟩
  intro before isLater isBefore
  rcases Nat.lt_or_ge before attempt with tooEarly | inTime
  · exact refuses before isLater tooEarly
  · exact first.refuses before inTime isBefore

theorem bulkExecute_inTime (first : node.FirstAnswer attempt answered replies)
    {retries : Nat} (inTime : answered < attempt + retries) :
    node.bulkExecute keys retries attempt =
      (some (keys.map fun key => (key, replies key)), answered + 1) := by
  induction retries generalizing attempt with
  | zero => exact absurd inTime (Nat.not_lt.mpr first.later)
  | succ retries induction =>
      rw [bulkExecute]
      cases isReply : node.pipeline attempt with
      | none => exact induction (first.next isReply) (by omega)
      | some other =>
          have isFirst : answered = attempt := by
            by_contra notFirst
            have later := first.later
            have refused := first.refuses attempt (Nat.le_refl attempt) (by omega)
            rw [isReply] at refused
            exact absurd refused (by simp)
          have same := first.answers
          rw [isFirst, isReply] at same
          rw [isFirst, Option.some.inj same]

theorem bulkExecute_late (first : node.FirstAnswer attempt answered replies)
    {retries : Nat} (late : attempt + retries ≤ answered) :
    node.bulkExecute keys retries attempt = (none, attempt + retries) := by
  induction retries generalizing attempt with
  | zero => rfl
  | succ retries induction =>
      have isNone := first.refuses attempt (Nat.le_refl attempt) (by omega)
      rw [bulkExecute, isNone]
      have rest := induction (first.next isNone) (by omega)
      rw [Nat.add_assoc, Nat.add_comm 1] at rest
      exact rest

theorem bulkExecute_cases (node : BulkNode) (keys : List String) (retries attempt : Nat) :
    (∃ answered replies, node.FirstAnswer attempt answered replies ∧
      answered < attempt + retries ∧ node.bulkExecute keys retries attempt =
        (some (keys.map fun key => (key, replies key)), answered + 1)) ∨
    ((∀ before, attempt ≤ before → before < attempt + retries →
      node.pipeline before = none) ∧
      node.bulkExecute keys retries attempt = (none, attempt + retries)) := by
  induction retries generalizing attempt with
  | zero => exact Or.inr ⟨fun before isLater isBefore => by omega, rfl⟩
  | succ retries induction =>
      cases isReply : node.pipeline attempt with
      | some replies =>
          have first : node.FirstAnswer attempt attempt replies :=
            ⟨Nat.le_refl attempt, isReply, fun before isLater isBefore => by omega⟩
          exact Or.inl ⟨attempt, replies, first, by omega,
            bulkExecute_inTime first (by omega)⟩
      | none =>
          have step : node.bulkExecute keys (retries + 1) attempt =
              node.bulkExecute keys retries (attempt + 1) := by
            rw [bulkExecute, isReply]
          rw [step]
          have here : ∀ before, attempt ≤ before → before < attempt + 1 →
              node.pipeline before = none := by
            intro before isLater isBefore
            have same : before = attempt := by omega
            rw [same, isReply]
          rcases induction (attempt + 1) with
            ⟨answered, replies, first, inTime, executed⟩ | ⟨refuses, executed⟩
          · exact Or.inl ⟨answered, replies, first.earlier (by omega) here, by omega, executed⟩
          · refine Or.inr ⟨?_, ?_⟩
            · intro before isLater isBefore
              rcases Nat.lt_or_ge before (attempt + 1) with atFirst | afterFirst
              · exact here before isLater atFirst
              · exact refuses before afterFirst (by omega)
            · rw [executed, Nat.add_assoc, Nat.add_comm 1]

end BulkNode

/-! ## The chunks of a node -/

namespace BulkRequest

variable {request : BulkRequest} {node : BulkNode}

theorem handleReplies_cases (request : BulkRequest) (replies : List (String × BulkReply))
    (state : BulkState) :
    (request.stopOnFail = true ∧ (∃ reply ∈ replies, reply.2 = .error) ∧
      request.handleReplies replies state = none) ∨
    ((request.stopOnFail = true → ∀ reply ∈ replies, reply.2 ≠ .error) ∧
      request.handleReplies replies state =
        some (replies.foldl BulkState.handleReply state)) := by
  induction replies generalizing state with
  | nil => exact Or.inr ⟨fun _ reply member => absurd member List.not_mem_nil, rfl⟩
  | cons reply replies induction =>
      rw [handleReplies, List.foldl_cons]
      by_cases stops : reply.2 = .error ∧ request.stopOnFail = true
      · rw [if_pos stops]
        exact Or.inl ⟨stops.2, ⟨reply, List.mem_cons_self, stops.1⟩, rfl⟩
      · rw [if_neg stops]
        rcases induction (state.handleReply reply) with
          ⟨isStop, ⟨failed, member, isError⟩, handled⟩ | ⟨noError, handled⟩
        · exact Or.inl ⟨isStop, ⟨failed, List.mem_cons_of_mem _ member, isError⟩, handled⟩
        · refine Or.inr ⟨?_, handled⟩
          intro isStop other member
          rcases List.mem_cons.mp member with isHead | inTail
          · intro isError
            rw [isHead] at isError
            exact stops ⟨isError, isStop⟩
          · exact noError isStop other inTail

theorem Answers.earlier {attempt start : Nat} {keys : List String}
    {replies : List (String × BulkReply)} (answers : request.Answers node attempt keys replies)
    (goesOn : request.stopOnFail = false) (isEarlier : start ≤ attempt)
    (refuses : ∀ before, start ≤ before → before < attempt → node.pipeline before = none) :
    request.Answers node start keys replies := by
  cases answers with
  | done => exact Answers.done start
  | chunk isKeys answer stops rest =>
      have noStop : request.stopOnFail = true → False := by
        intro stops
        rw [goesOn] at stops
        exact absurd stops (by simp)
      exact Answers.chunk isKeys (answer.earlier isEarlier refuses)
        (fun isStop => (noStop isStop).elim) rest

/-- A loop over the chunks that ends has an answer to each of them, or has stopped. -/
theorem answers_of_bulkChunks {fuel attempt : Nat} {keys : List String} {state : BulkState}
    {ending : Except BulkExit BulkState}
    (ends : request.bulkChunks node fuel attempt keys state = some ending) :
    (∃ replies, request.Answers node attempt keys replies ∧
      ending = .ok (replies.foldl BulkState.handleReply state)) ∨
    (request.stopOnFail = true ∧ ending = .error .returnFalse) := by
  induction fuel generalizing attempt keys state with
  | zero => exact absurd ends (by simp [bulkChunks])
  | succ fuel induction =>
      rw [bulkChunks] at ends
      by_cases noKeys : keys = []
      · rw [if_pos noKeys] at ends
        rw [noKeys, ← Option.some.inj ends]
        exact Or.inl ⟨[], Answers.done attempt, rfl⟩
      · rw [if_neg noKeys] at ends
        rcases node.bulkExecute_cases (keys.take request.batchKeyAmount) request.retryCount
            attempt with ⟨answered, replies, first, inTime, executed⟩ | ⟨refuses, executed⟩
        · rw [executed] at ends
          dsimp only at ends
          rcases request.handleReplies_cases
              ((keys.take request.batchKeyAmount).map fun key => (key, replies key)) state with
            ⟨isStop, _, handled⟩ | ⟨noError, handled⟩
          · rw [handled] at ends
            exact Or.inr ⟨isStop, (Option.some.inj ends).symm⟩
          · rw [handled] at ends
            rcases induction ends with ⟨later, rest, isEnding⟩ | stopped
            · refine Or.inl ⟨_, Answers.chunk noKeys first ?_ rest, ?_⟩
              · intro isStop
                refine ⟨inTime, fun key member => ?_⟩
                exact noError isStop (key, replies key) (List.mem_map_of_mem member)
              · rw [isEnding, List.foldl_append]
            · exact Or.inr stopped
        · rw [executed] at ends
          dsimp only at ends
          by_cases isStop : request.stopOnFail = true
          · rw [if_pos isStop] at ends
            exact Or.inr ⟨isStop, (Option.some.inj ends).symm⟩
          · rw [if_neg isStop] at ends
            rcases induction ends with ⟨later, rest, isEnding⟩ | stopped
            · exact Or.inl ⟨later, rest.earlier (by simpa using isStop) (by omega) refuses,
                isEnding⟩
            · exact Or.inr stopped

/-- The turn that takes the answer to a chunk. -/
theorem bulkChunks_chunk {attempt answered : Nat} {keys : List String}
    {replies : String → BulkReply} (isKeys : keys ≠ [])
    (answer : node.FirstAnswer attempt answered replies)
    (stops : request.stopOnFail = true → answered < attempt + request.retryCount ∧
      ∀ key ∈ keys.take request.batchKeyAmount, replies key ≠ .error) (state : BulkState) :
    ∃ turns, ∀ fuel, request.bulkChunks node (fuel + turns) attempt keys state =
      request.bulkChunks node fuel (answered + 1) (keys.drop request.batchKeyAmount)
        (((keys.take request.batchKeyAmount).map fun key => (key, replies key)).foldl
          BulkState.handleReply state) := by
  obtain ⟨distance, isDistance⟩ : ∃ distance, distance = answered - attempt := ⟨_, rfl⟩
  induction distance using Nat.strongRecOn generalizing attempt with
  | ind distance induction =>
      rcases Nat.lt_or_ge answered (attempt + request.retryCount) with inTime | late
      · refine ⟨1, fun fuel => ?_⟩
        rw [bulkChunks, if_neg isKeys, BulkNode.bulkExecute_inTime answer inTime]
        dsimp only
        rcases request.handleReplies_cases
            ((keys.take request.batchKeyAmount).map fun key => (key, replies key)) state with
          ⟨isStop, ⟨reply, member, isError⟩, _⟩ | ⟨_, handled⟩
        · rcases List.mem_map.mp member with ⟨key, isKey, isReply⟩
          rw [← isReply] at isError
          exact absurd isError ((stops isStop).2 key isKey)
        · rw [handled]
      · have goesOn : ¬ request.stopOnFail = true := by
          intro isStop
          have inTime := (stops isStop).1
          omega
        have executed : node.bulkExecute (keys.take request.batchKeyAmount)
            request.retryCount attempt = (none, attempt + request.retryCount) :=
          BulkNode.bulkExecute_late answer late
        have positive := request.retryCount_pos
        have refuses : ∀ before, attempt ≤ before → before < attempt + request.retryCount →
            node.pipeline before = none :=
          fun before isLater isBefore => answer.refuses before isLater (by omega)
        have next : node.FirstAnswer (attempt + request.retryCount) answered replies :=
          ⟨late, answer.answers, fun before isLater => answer.refuses before (by omega)⟩
        rcases induction (answered - (attempt + request.retryCount)) (by omega) next
            (fun isStop => absurd isStop goesOn) rfl with ⟨turns, rest⟩
        refine ⟨turns + 1, fun fuel => ?_⟩
        rw [← Nat.add_assoc, bulkChunks, if_neg isKeys, executed]
        dsimp only
        rw [if_neg goesOn, rest]

theorem Answers.bulkChunks {attempt : Nat} {keys : List String}
    {replies : List (String × BulkReply)} (answers : request.Answers node attempt keys replies)
    (state : BulkState) :
    ∃ enough, ∀ fuel, request.bulkChunks node (fuel + enough) attempt keys state =
      some (.ok (replies.foldl BulkState.handleReply state)) := by
  induction answers generalizing state with
  | done attempt =>
      refine ⟨1, fun fuel => ?_⟩
      rw [BulkRequest.bulkChunks, if_pos rfl]
      rfl
  | @chunk attempt answered keys replies later isKeys answer stops rest induction =>
      rcases bulkChunks_chunk isKeys answer stops state with ⟨turns, first⟩
      rcases induction (((keys.take request.batchKeyAmount).map
        fun key => (key, replies key)).foldl BulkState.handleReply state) with ⟨enough, rest⟩
      refine ⟨enough + turns, fun fuel => ?_⟩
      rw [← Nat.add_assoc, first, rest, List.foldl_append]

/-- An operation that stops at a failure ends its loop over the chunks. -/
theorem bulkChunks_stops (isStop : request.stopOnFail = true) (node : BulkNode)
    (attempt : Nat) (keys : List String) (state : BulkState) :
    ∃ enough ending, ∀ fuel, request.bulkChunks node (fuel + enough) attempt keys state =
      some ending := by
  obtain ⟨size, isSize⟩ : ∃ size, size = keys.length := ⟨_, rfl⟩
  induction size using Nat.strongRecOn generalizing attempt keys state with
  | ind size induction =>
      by_cases noKeys : keys = []
      · refine ⟨1, .ok state, fun fuel => ?_⟩
        rw [BulkRequest.bulkChunks, if_pos noKeys]
      · rcases node.bulkExecute_cases (keys.take request.batchKeyAmount) request.retryCount
            attempt with ⟨answered, replies, first, inTime, executed⟩ | ⟨refuses, executed⟩
        · rcases request.handleReplies_cases
              ((keys.take request.batchKeyAmount).map fun key => (key, replies key)) state with
            ⟨_, _, handled⟩ | ⟨noError, handled⟩
          · refine ⟨1, .error .returnFalse, fun fuel => ?_⟩
            rw [BulkRequest.bulkChunks, if_neg noKeys, executed]
            dsimp only
            rw [handled]
          · have shorter : (keys.drop request.batchKeyAmount).length < size := by
              have positive := request.batchKeyAmount_pos
              have someKey := List.length_pos_of_ne_nil noKeys
              rw [List.length_drop]
              omega
            rcases induction _ shorter (answered + 1) (keys.drop request.batchKeyAmount)
              (((keys.take request.batchKeyAmount).map fun key =>
                (key, replies key)).foldl BulkState.handleReply state) rfl with
              ⟨enough, ending, rest⟩
            refine ⟨enough + 1, ending, fun fuel => ?_⟩
            rw [← Nat.add_assoc, BulkRequest.bulkChunks, if_neg noKeys, executed]
            dsimp only
            rw [handled]
            exact rest fuel
        · refine ⟨1, .error .returnFalse, fun fuel => ?_⟩
          rw [BulkRequest.bulkChunks, if_neg noKeys, executed]
          dsimp only
          rw [if_pos isStop]

/-! ## What is left of the replies -/

/-- The call for a key whose pipeline had a value for it. -/
def callOf : String × BulkReply → Option (String × Option String)
  | (key, .value (some value)) => some (key, some value)
  | _ => none

theorem foldl_handleReply (replies : List (String × BulkReply)) (state : BulkState) :
    (replies.foldl BulkState.handleReply state).success = state.success ∧
      (replies.foldl BulkState.handleReply state).calls =
        state.calls ++ replies.filterMap callOf ∧
      ∀ key, key ∈ (replies.foldl BulkState.handleReply state).nodeFailedKeys ↔
        key ∈ state.nodeFailedKeys ∨ ∃ reply ∈ replies, reply.2 = .error ∧
          ∃ character ∈ reply.1.toList, key = String.singleton character := by
  induction replies generalizing state with
  | nil => simp
  | cons reply replies induction =>
      rw [List.foldl_cons]
      rcases induction (state.handleReply reply) with ⟨success, calls, failed⟩
      rcases reply with ⟨name, _ | _⟩
      · rename_i value
        cases value with
        | none =>
            refine ⟨success, calls, fun key => ?_⟩
            rw [failed]
            simp [BulkState.handleReply]
        | some value =>
            refine ⟨success, ?_, fun key => ?_⟩
            · rw [calls]
              simp [BulkState.handleReply, callOf]
            · rw [failed]
              simp [BulkState.handleReply]
      · refine ⟨success, calls, fun key => ?_⟩
        rw [failed]
        simp only [BulkState.handleReply, addFailedKey, List.mem_union_iff, List.mem_map,
          List.mem_cons]
        constructor
        · rintro ((old | ⟨character, isCharacter, isKey⟩) | ⟨reply, member, rest⟩)
          · exact Or.inl old
          · exact Or.inr ⟨_, Or.inl rfl, rfl, character, isCharacter, isKey.symm⟩
          · exact Or.inr ⟨reply, Or.inr member, rest⟩
        · rintro (old | ⟨reply, isHead | member, isError, character, isCharacter, isKey⟩)
          · exact Or.inl (Or.inl old)
          · rw [isHead] at isCharacter
            exact Or.inl (Or.inr ⟨character, isCharacter, isKey.symm⟩)
          · exact Or.inr ⟨reply, member, isError, character, isCharacter, isKey⟩

/-- The command that a failed key is retried with. -/
def retryCommand (request : BulkRequest) (key : String) : List CommandPart :=
  [.text request.command, .text key, .tuple request.args]

theorem retryFailedKeys_ok {keys : List String} {state after : BulkState}
    (ends : request.retryFailedKeys node keys state = .ok after) :
    (after.success = true ↔ state.success = true ∧
      ∀ key ∈ keys, node.keyCommand (request.retryCommand key) ≠ none) ∧
    (keys = [] → after.calls = state.calls) ∧
    (∀ call ∈ state.calls, call ∈ after.calls) ∧
    ∀ key ∈ keys, ∀ value, node.keyCommand (request.retryCommand key) = some value →
      (key, value) ∈ after.calls := by
  induction keys generalizing state with
  | nil =>
      rw [← Except.ok.inj ends]
      simp
  | cons key keys induction =>
      rw [retryFailedKeys] at ends
      cases isReply : node.keyCommand (request.retryCommand key) with
      | none =>
          rw [← retryCommand, isReply] at ends
          dsimp only at ends
          by_cases isStop : request.stopOnFail = true
          · rw [if_pos isStop] at ends
            exact absurd ends (by simp)
          · rw [if_neg isStop] at ends
            rcases induction ends with ⟨success, _, keeps, calls⟩
            refine ⟨?_, by simp, keeps, ?_⟩
            · rw [success]
              simp [isReply]
            · intro other member value isValue
              rcases List.mem_cons.mp member with isHead | inTail
              · rw [isHead, isReply] at isValue
                exact absurd isValue (by simp)
              · exact calls other inTail value isValue
      | some reply =>
          rw [← retryCommand, isReply] at ends
          dsimp only at ends
          rcases induction ends with ⟨success, _, keeps, calls⟩
          refine ⟨?_, by simp, ?_, ?_⟩
          · rw [success]
            simp [isReply]
          · intro call member
            exact keeps call (List.mem_append_left _ member)
          · intro other member value isValue
            rcases List.mem_cons.mp member with isHead | inTail
            · rw [isHead, isReply] at isValue
              rw [isHead, ← Option.some.inj isValue]
              exact keeps _ (List.mem_append_right _ List.mem_cons_self)
            · exact calls other inTail value isValue

theorem exists_retryFailedKeys (goesOn : request.stopOnFail = false) (node : BulkNode)
    (keys : List String) (state : BulkState) :
    ∃ after, request.retryFailedKeys node keys state = .ok after := by
  induction keys generalizing state with
  | nil => exact ⟨state, rfl⟩
  | cons key keys induction =>
      rw [retryFailedKeys]
      split
      · rw [if_neg (by rw [goesOn]; simp)]
        exact induction _
      · exact induction _

theorem retryFailedKeys_exit {keys : List String} {state : BulkState} {exit : BulkExit}
    (ends : request.retryFailedKeys node keys state = .error exit) :
    request.stopOnFail = true ∧ exit = .returnFalse := by
  induction keys generalizing state with
  | nil => exact absurd ends (by simp [retryFailedKeys])
  | cons key keys induction =>
      rw [retryFailedKeys] at ends
      split at ends
      · by_cases isStop : request.stopOnFail = true
        · rw [if_pos isStop] at ends
          exact ⟨isStop, (Except.error.inj ends).symm⟩
        · rw [if_neg isStop] at ends
          exact induction ends
      · exact induction ends

theorem Answers.noError {attempt : Nat} {keys : List String}
    {replies : List (String × BulkReply)} (answers : request.Answers node attempt keys replies)
    (isStop : request.stopOnFail = true) : ∀ reply ∈ replies, reply.2 ≠ .error := by
  induction answers with
  | done attempt => exact fun reply member => absurd member List.not_mem_nil
  | chunk isKeys answer stops rest induction =>
      intro reply member
      rcases List.mem_append.mp member with here | later
      · rcases List.mem_map.mp here with ⟨key, isKey, isReply⟩
        rw [← isReply]
        exact (stops isStop).2 key isKey
      · exact induction reply later

theorem Answers.key_mem {attempt : Nat} {keys : List String}
    {replies : List (String × BulkReply)} (answers : request.Answers node attempt keys replies) :
    ∀ reply ∈ replies, reply.1 ∈ keys := by
  induction answers with
  | done attempt => exact fun reply member => absurd member List.not_mem_nil
  | chunk isKeys answer stops rest induction =>
      intro reply member
      rcases List.mem_append.mp member with here | later
      · rcases List.mem_map.mp here with ⟨key, isKey, isReply⟩
        rw [← isReply]
        exact List.mem_of_mem_take isKey
      · exact List.mem_of_mem_drop (induction reply later)

theorem Collects.key_length {nodes : List BulkNode} {answers : List KeyReply}
    (collects : request.Collects nodes answers) : ∀ answer ∈ answers, 2 ≤ answer.key.length := by
  induction collects with
  | nil => exact fun answer member => absurd member List.not_mem_nil
  | cons scans replies rest induction =>
      intro answer member
      rcases List.mem_append.mp member with here | later
      · rcases List.mem_map.mp here with ⟨reply, isReply, isAnswer⟩
        rw [← isAnswer]
        exact BulkNode.scanFrom_length scans _ (replies.key_mem reply isReply)
      · exact induction answer later

/-! ## The nodes -/

def KeyCall (answer : KeyReply) : Option (String × Option String) :=
  callOf (answer.key, answer.reply)

/-- How a state is left by the answers of some nodes. -/
structure Tracks (request : BulkRequest) (state : BulkState) (answers : List KeyReply)
    (after : BulkState) : Prop where
  success : after.success = true ↔ state.success = true ∧
    ∀ answer ∈ answers, answer.reply = .error → answer.CharactersAnswered request
  calls : (∀ answer ∈ answers, answer.reply ≠ .error) →
    after.calls = state.calls ++ answers.filterMap KeyCall
  keeps : ∀ call ∈ state.calls, call ∈ after.calls
  retried : ∀ answer ∈ answers, answer.reply = .error → ∀ character ∈ answer.key.toList,
    ∀ value, answer.node.keyCommand (request.retryCommand (String.singleton character)) =
      some value → (String.singleton character, value) ∈ after.calls

theorem Tracks.refl (request : BulkRequest) (state : BulkState) : request.Tracks state [] state :=
  ⟨by simp, by simp, fun _ member => member,
    fun answer member => absurd member List.not_mem_nil⟩

theorem Tracks.trans {state middle after : BulkState} {answers later : List KeyReply}
    (first : request.Tracks state answers middle) (second : request.Tracks middle later after) :
    request.Tracks state (answers ++ later) after := by
  refine ⟨?_, ?_, fun call member => second.keeps call (first.keeps call member), ?_⟩
  · rw [second.success, first.success, and_assoc]
    simp only [List.mem_append, or_imp, forall_and]
  · intro noError
    rw [second.calls fun answer member => noError answer (List.mem_append_right _ member),
      first.calls fun answer member => noError answer (List.mem_append_left _ member),
      List.append_assoc, List.filterMap_append]
  · intro answer member isError character isCharacter value isValue
    rcases List.mem_append.mp member with early | late
    · exact second.keeps _ (first.retried answer early isError character isCharacter value
        isValue)
    · exact second.retried answer late isError character isCharacter value isValue

/-- What the answers of one node leave, once its failed keys have been retried. -/
theorem tracks_node {state after : BulkState} {replies : List (String × BulkReply)}
    (ends : request.retryFailedKeys node
      (replies.foldl BulkState.handleReply { state with nodeFailedKeys := [] }).nodeFailedKeys
      (replies.foldl BulkState.handleReply { state with nodeFailedKeys := [] }) = .ok after) :
    request.Tracks state (replies.map fun reply => ⟨node, reply.1, reply.2⟩) after := by
  rcases foldl_handleReply replies { state with nodeFailedKeys := [] } with
    ⟨success, calls, failed⟩
  rcases retryFailedKeys_ok ends with ⟨succeeds, noneFailed, keeps, retried⟩
  have isFailed {reply : String × BulkReply} (member : reply ∈ replies)
      (isError : reply.2 = .error) {character : Char} (isCharacter : character ∈ reply.1.toList) :
      String.singleton character ∈
        (replies.foldl BulkState.handleReply { state with nodeFailedKeys := [] }).nodeFailedKeys :=
    (failed _).mpr (Or.inr ⟨reply, member, isError, character, isCharacter, rfl⟩)
  refine ⟨?_, ?_, ?_, ?_⟩
  · rw [succeeds, success]
    refine and_congr_right fun _ => ⟨?_, ?_⟩
    · intro answered answer member isError character isCharacter
      rcases List.mem_map.mp member with ⟨reply, isReply, isAnswer⟩
      rw [← isAnswer] at isError isCharacter ⊢
      exact answered _ (isFailed isReply isError isCharacter)
    · intro answered key isKey
      rcases (failed key).mp isKey with old | ⟨reply, isReply, isError, character, isCharacter,
        isKey⟩
      · exact absurd old List.not_mem_nil
      · rw [isKey]
        exact answered _ (List.mem_map_of_mem isReply) isError character isCharacter
  · intro noError
    have nothing : (replies.foldl BulkState.handleReply
        { state with nodeFailedKeys := [] }).nodeFailedKeys = [] := by
      apply List.eq_nil_iff_forall_not_mem.mpr
      intro key isKey
      rcases (failed key).mp isKey with old | ⟨reply, isReply, isError, _⟩
      · exact absurd old List.not_mem_nil
      · exact noError _ (List.mem_map_of_mem isReply) isError
    rw [noneFailed nothing, calls, List.filterMap_map]
    rfl
  · intro call member
    apply keeps
    rw [calls]
    exact List.mem_append_left _ member
  · intro answer member isError character isCharacter value isValue
    rcases List.mem_map.mp member with ⟨reply, isReply, isAnswer⟩
    rw [← isAnswer] at isError isCharacter isValue
    exact retried _ (isFailed isReply isError isCharacter) value isValue

theorem Collects.bulkNodes {nodes : List BulkNode} {answers : List KeyReply}
    (collects : request.Collects nodes answers) (hasNodeKeys : Bool) (state : BulkState) :
    ∃ enough after, (∀ fuel, request.bulkNodes (fuel + enough) nodes hasNodeKeys state =
      some (.ok after)) ∧ request.Tracks state answers after := by
  induction collects generalizing hasNodeKeys state with
  | nil => exact ⟨0, state, fun _ => rfl, Tracks.refl request state⟩
  | @cons node nodes keys replies later scans answered rest induction =>
      rcases answered.bulkChunks { state with nodeFailedKeys := [] } with ⟨enough, chunks⟩
      have retries : ∃ middle, request.retryFailedKeys node
          (replies.foldl BulkState.handleReply
            { state with nodeFailedKeys := [] }).nodeFailedKeys
          (replies.foldl BulkState.handleReply { state with nodeFailedKeys := [] }) =
            .ok middle := by
        by_cases isStop : request.stopOnFail = true
        · have nothing : (replies.foldl BulkState.handleReply
              { state with nodeFailedKeys := [] }).nodeFailedKeys = [] := by
            apply List.eq_nil_iff_forall_not_mem.mpr
            intro key isKey
            rcases ((foldl_handleReply replies _).2.2 key).mp isKey with
              old | ⟨reply, isReply, isError, _⟩
            · exact absurd old List.not_mem_nil
            · exact answered.noError isStop reply isReply isError
          rw [nothing]
          exact ⟨_, rfl⟩
        · exact exists_retryFailedKeys (by simpa using isStop) node _ _
      rcases retries with ⟨middle, retried⟩
      rcases induction true middle with ⟨more, after, runs, tracks⟩
      refine ⟨enough + more, after, fun fuel => ?_, (tracks_node retried).trans tracks⟩
      have isChunks := chunks (fuel + more)
      have isRest := runs (fuel + enough)
      rw [Nat.add_assoc, Nat.add_comm more] at isChunks
      rw [Nat.add_assoc] at isRest
      rw [BulkRequest.bulkNodes, scans]
      dsimp only
      rw [isChunks]
      dsimp only
      rw [retried]
      exact isRest

/-- A scan that fails, once the nodes before it have been collected. -/
def ScanFails (request : BulkRequest) (nodes : List BulkNode) : Prop :=
  ∃ before node after answers, nodes = before ++ node :: after ∧
    request.Collects before answers ∧ node.scanned request.retryCount = none

/-- How the loop over the nodes ends. -/
theorem bulkNodes_ends {fuel : Nat} {nodes : List BulkNode} {hasNodeKeys : Bool}
    {state : BulkState} {ending : Except BulkExit BulkState}
    (ends : request.bulkNodes fuel nodes hasNodeKeys state = some ending) :
    (∃ answers after, request.Collects nodes answers ∧ ending = .ok after ∧
      request.Tracks state answers after) ∨
    (request.stopOnFail = true ∧ ending = .error .returnFalse) ∨
    (request.ScanFails nodes ∧
      (ending = .error .typeError ∨ ending = .error .unboundLocalError)) := by
  induction nodes generalizing hasNodeKeys state with
  | nil =>
      have isEnding := Option.some.inj ends
      exact Or.inl ⟨[], state, Collects.nil, isEnding.symm, Tracks.refl request state⟩
  | cons node nodes induction =>
      rw [bulkNodes] at ends
      cases isKeys : node.scanned request.retryCount with
      | none =>
          rw [isKeys] at ends
          have isEnding := Option.some.inj ends
          refine Or.inr (Or.inr ⟨⟨[], node, nodes, [], rfl, Collects.nil, isKeys⟩, ?_⟩)
          rw [← isEnding]
          cases hasNodeKeys
          · exact Or.inr rfl
          · exact Or.inl rfl
      | some keys =>
          rw [isKeys] at ends
          dsimp only at ends
          cases isChunks : request.bulkChunks node fuel 0 keys
              { state with nodeFailedKeys := [] } with
          | none =>
              rw [isChunks] at ends
              exact absurd ends (by simp)
          | some chunks =>
              rw [isChunks] at ends
              rcases answers_of_bulkChunks isChunks with
                ⟨replies, answered, isOk⟩ | ⟨isStop, isExit⟩
              · rw [isOk] at ends
                dsimp only at ends
                split at ends
                · rename_i exit isExit
                  rcases retryFailedKeys_exit isExit with ⟨isStop, isFalse⟩
                  rw [← Option.some.inj ends, isFalse]
                  exact Or.inr (Or.inl ⟨isStop, rfl⟩)
                · rename_i middle isMiddle
                  have here := tracks_node isMiddle
                  rcases induction ends with
                    ⟨later, after, rest, isAfter, tracks⟩ | stopped | ⟨fails, isEnding⟩
                  · exact Or.inl ⟨_, after, Collects.cons isKeys answered rest, isAfter,
                      here.trans tracks⟩
                  · exact Or.inr (Or.inl stopped)
                  · rcases fails with ⟨before, failing, after, answers, isSplit, collects,
                      isNone⟩
                    refine Or.inr (Or.inr ⟨⟨node :: before, failing, after, _, ?_,
                      Collects.cons isKeys answered collects, isNone⟩, isEnding⟩)
                    rw [isSplit, List.cons_append]
              · rw [isExit] at ends
                exact Or.inr (Or.inl ⟨isStop, (Option.some.inj ends).symm⟩)

theorem bulkNodes_stops (isStop : request.stopOnFail = true) (nodes : List BulkNode)
    (hasNodeKeys : Bool) (state : BulkState) :
    ∃ enough ending, ∀ fuel, request.bulkNodes (fuel + enough) nodes hasNodeKeys state =
      some ending := by
  induction nodes generalizing hasNodeKeys state with
  | nil => exact ⟨0, .ok state, fun _ => rfl⟩
  | cons node nodes induction =>
      cases isKeys : node.scanned request.retryCount with
      | none =>
          refine ⟨0, .error (if hasNodeKeys then .typeError else .unboundLocalError),
            fun fuel => ?_⟩
          rw [bulkNodes, isKeys]
      | some keys =>
          rcases bulkChunks_stops isStop node 0 keys
            { state with nodeFailedKeys := [] } with ⟨enough, chunks, isChunks⟩
          rcases chunks with exit | middle
          · refine ⟨enough, .error exit, fun fuel => ?_⟩
            rw [bulkNodes, isKeys]
            dsimp only
            rw [isChunks]
          · cases isMiddle : request.retryFailedKeys node middle.nodeFailedKeys middle with
            | error exit =>
                refine ⟨enough, .error exit, fun fuel => ?_⟩
                rw [bulkNodes, isKeys]
                dsimp only
                rw [isChunks]
                dsimp only
                rw [isMiddle]
            | ok next =>
                rcases induction true next with ⟨more, ending, rest⟩
                refine ⟨enough + more, ending, fun fuel => ?_⟩
                have chunks := isChunks (fuel + more)
                have later := rest (fuel + enough)
                rw [Nat.add_assoc, Nat.add_comm more] at chunks
                rw [Nat.add_assoc] at later
                rw [bulkNodes, isKeys]
                dsimp only
                rw [chunks]
                dsimp only
                rw [isMiddle]
                exact later

/-! ## The whole operation -/

theorem entries_of_noError (request : BulkRequest) {answers : List KeyReply}
    (noError : ∀ answer ∈ answers, answer.reply ≠ .error) :
    ∃ entries : List (String × Option String),
      answers.map (fun answer => (answer.key, answer.value request)) =
        entries.map (fun entry => (entry.1, some entry.2)) ∧
      answers.filterMap KeyCall = entries.filter fun entry => entry.2.isSome := by
  induction answers with
  | nil => exact ⟨[], rfl, rfl⟩
  | cons answer answers induction =>
      rcases induction fun other member => noError other (List.mem_cons_of_mem _ member) with
        ⟨entries, isMap, isFilter⟩
      rcases answer with ⟨node, key, value | _⟩
      · refine ⟨(key, value) :: entries, ?_, ?_⟩
        · rw [List.map_cons, List.map_cons, isMap]
          rfl
        · cases value with
          | none =>
              rw [List.filterMap_cons_none rfl, isFilter, List.filter_cons_of_neg (by simp)]
          | some value => simpa [KeyCall, callOf] using isFilter
      · exact absurd rfl (noError _ List.mem_cons_self)

theorem Undisturbed.noError {nodes : List BulkNode} (undisturbed : request.Undisturbed nodes)
    {answers : List KeyReply} (collects : request.Collects nodes answers)
    (answered : ∀ answer ∈ answers, answer.reply = .error →
      answer.CharactersAnswered request) :
    ∀ answer ∈ answers, answer.reply ≠ .error := by
  intro answer member isError
  rcases undisturbed.refused answers collects ⟨answer, member, isError⟩ with
    ⟨other, isOther, otherError, refused⟩
  exact refused (answered other isOther otherError)

theorem Undisturbed.not_scanFails {nodes : List BulkNode}
    (undisturbed : request.Undisturbed nodes) : ¬ request.ScanFails nodes := by
  rintro ⟨before, node, after, answers, isSplit, collects, isNone⟩
  exact undisturbed.scans before node after answers isSplit collects isNone

theorem Undisturbed.accountsForKeys {nodes : List BulkNode}
    (undisturbed : request.Undisturbed nodes) : request.AccountsForKeys nodes := by
  refine ⟨?_, ?_, ?_⟩
  · by_cases isStop : request.stopOnFail = true
    · rcases bulkNodes_stops isStop nodes false ⟨[], [], true⟩ with ⟨enough, ending, ends⟩
      exact ⟨0 + enough, ending, ends 0⟩
    · rcases undisturbed.answered (by simpa using isStop) with ⟨answers, collects⟩
      rcases collects.bulkNodes false ⟨[], [], true⟩ with ⟨enough, after, ends, _⟩
      exact ⟨0 + enough, .ok after, ends 0⟩
  · intro fuel state ends succeeds
    rcases bulkNodes_ends ends with
      ⟨answers, after, collects, isAfter, tracks⟩ | ⟨_, isExit⟩ | ⟨fails, _⟩
    · rw [Except.ok.inj isAfter] at succeeds ⊢
      have noError := undisturbed.noError collects (tracks.success.mp succeeds).2
      rcases entries_of_noError request noError with ⟨entries, isMap, isFilter⟩
      refine ⟨answers, entries, collects, isMap, ?_⟩
      rw [tracks.calls noError, isFilter, List.nil_append]
    · exact absurd isExit (by simp)
    · exact absurd fails undisturbed.not_scanFails
  · intro fuel before node after state isSplit ends isNone
    rcases bulkNodes_ends ends with
      ⟨answers, _, collects, _, _⟩ | ⟨_, isExit⟩ | ⟨fails, isExit | isExit⟩
    · exact absurd isNone (undisturbed.scans before node after answers isSplit collects)
    · exact absurd isExit (by simp)
    · exact absurd isExit (by simp)
    · exact absurd isExit (by simp)

theorem not_dbKeyNotFound {fuel : Nat} {nodes : List BulkNode} :
    request.bulkOperation fuel nodes ≠ some (.error .dbKeyNotFound) := by
  intro ends
  rcases bulkNodes_ends ends with ⟨_, _, _, isOk, _⟩ | ⟨_, isExit⟩ | ⟨_, isExit | isExit⟩
  · exact absurd isOk (by simp)
  · exact absurd isExit (by simp)
  · exact absurd isExit (by simp)
  · exact absurd isExit (by simp)

theorem AccountsForKeys.scans {nodes : List BulkNode} (accounts : request.AccountsForKeys nodes) :
    ¬ request.ScanFails nodes := by
  rintro ⟨before, node, after, answers, isSplit, collects, isNone⟩
  rcases accounts.terminates with ⟨fuel, ending, ends⟩
  rcases collects.bulkNodes false ⟨[], [], true⟩ with ⟨enough, middle, runs, _⟩
  have isRaised := accounts.scanFailure (0 + enough) before node after middle isSplit (runs 0)
    isNone fuel ending ends
  rw [isRaised] at ends
  exact not_dbKeyNotFound ends

theorem AccountsForKeys.answered {nodes : List BulkNode}
    (accounts : request.AccountsForKeys nodes) (goesOn : request.stopOnFail = false) :
    ∃ answers, request.Collects nodes answers := by
  rcases accounts.terminates with ⟨fuel, ending, ends⟩
  rcases bulkNodes_ends ends with ⟨answers, _, collects, _⟩ | ⟨isStop, _⟩ | ⟨fails, _⟩
  · exact ⟨answers, collects⟩
  · rw [goesOn] at isStop
    exact absurd isStop (by simp)
  · exact absurd fails accounts.scans

/-- A key that is retried as its characters adds a call that belongs to no key. -/
theorem AccountsForKeys.refused {nodes : List BulkNode}
    (accounts : request.AccountsForKeys nodes) {answers : List KeyReply}
    (collects : request.Collects nodes answers)
    (answered : ∀ answer ∈ answers, answer.reply = .error →
      answer.CharactersAnswered request) :
    ∀ answer ∈ answers, answer.reply ≠ .error := by
  intro answer member isError
  rcases collects.bulkNodes false ⟨[], [], true⟩ with ⟨enough, after, runs, tracks⟩
  have succeeds : after.success = true := tracks.success.mpr ⟨rfl, answered⟩
  rcases accounts.complete (0 + enough) after (runs 0) succeeds with
    ⟨others, entries, otherCollects, isMap, isCalls⟩
  rcases isKey : answer.key.toList with _ | ⟨character, characters⟩
  · have long := collects.key_length answer member
    rw [← String.length_toList, isKey] at long
    exact absurd long (by simp)
  · have isCharacter : character ∈ answer.key.toList := by
      rw [isKey]
      exact List.mem_cons_self
    rcases Option.ne_none_iff_exists'.mp (answered answer member isError character isCharacter)
      with ⟨value, isValue⟩
    have isCall := tracks.retried answer member isError character isCharacter value isValue
    have isEntry := List.mem_of_mem_filter (isCalls.mem_iff.mp isCall)
    have isMapped : (String.singleton character, some value) ∈
        others.map fun other => (other.key, other.value request) := by
      rw [isMap]
      exact List.mem_map.mpr ⟨_, isEntry, rfl⟩
    rcases List.mem_map.mp isMapped with ⟨other, isOther, isPair⟩
    have long := otherCollects.key_length other isOther
    rw [(Prod.mk.inj isPair).1, String.length_singleton] at long
    exact absurd long (by decide)

/-- A bulk operation accounts for all keys exactly when no scan fails that it comes to,
every chunk is answered at last, and a failed key has a character that fails as well. -/
theorem accountsForKeys_iff_undisturbed (request : BulkRequest) (nodes : List BulkNode) :
    request.AccountsForKeys nodes ↔ request.Undisturbed nodes := by
  constructor
  · intro accounts
    refine ⟨?_, accounts.answered, ?_⟩
    · intro before node after answers isSplit collects isNone
      exact accounts.scans ⟨before, node, after, answers, isSplit, collects, isNone⟩
    · rintro answers collects ⟨answer, member, isError⟩
      by_contra noneRefused
      push Not at noneRefused
      exact accounts.refused collects noneRefused answer member isError
  · exact fun undisturbed => undisturbed.accountsForKeys

/-- A scan finds a key, and every pipeline after it fails. -/
def unansweredNode : BulkNode where
  scan _ := some ["\x7blport.t\x7dport-1"]
  pipeline _ := none
  keyCommand _ := none
  scan_pattern attempt keys isKeys key member := by
    rw [← Option.some.inj isKeys, List.mem_singleton] at member
    rw [member]
    decide

def getRequest : BulkRequest where
  command := "GET"
  args := []
  stopOnFail := false
  batchKeyAmount := 50
  retryCount := 5
  batchKeyAmount_pos := by decide
  retryCount_pos := by decide

theorem bulkOperation_goes_on :
    ¬ getRequest.AccountsForKeys [unansweredNode] ∧
      ∀ fuel, getRequest.bulkOperation fuel [unansweredNode] = none := by
  have unanswered (fuel attempt : Nat) (state : BulkState) :
      getRequest.bulkChunks unansweredNode fuel attempt ["\x7blport.t\x7dport-1"] state =
        none := by
    induction fuel generalizing attempt with
    | zero => rfl
    | succ fuel induction => exact induction (attempt + 5)
  have goesOn : ∀ fuel, getRequest.bulkOperation fuel [unansweredNode] = none := by
    intro fuel
    have isScan : unansweredNode.scanned getRequest.retryCount =
        some ["\x7blport.t\x7dport-1"] := rfl
    rw [bulkOperation, bulkNodes, isScan]
    dsimp only
    rw [unanswered]
  refine ⟨fun accounts => ?_, goesOn⟩
  rcases accounts.terminates with ⟨fuel, ending, ends⟩
  rw [goesOn] at ends
  exact absurd ends (by simp)

end BulkRequest

end Dragonflow
