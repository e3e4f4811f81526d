import Mathlib.Logic.Function.Basic
import Dragonflow.Foundation.Steps
import Dragonflow.Db.Neutron.LockProtocol

/-! # Functions decorated with `wrap_db_lock`

A decorated call takes the lock unless it is made from within another decorated
call. Whether it is, the decorator finds out by looking for its own name in the
call stack.
-/

namespace Dragonflow.LockedObjects

/-! ## Which lock a call takes -/

/-- The arguments of a decorated call, as far as the lock depends on them. -/
inductive Argument
  | text (value : String)
  | dict (items : List (String × Argument))
  | object (attributes : List (String × Argument))

inductive ArgumentError
  | indexError
  | keyError
  | attributeError
  | typeError
  | unknownResource
  deriving DecidableEq, Repr

inductive ResourceType
  | dfPlugin
  | ml2NetworkOrPort
  | ml2Subnet
  | ml2SecurityGroup
  | ml2SecurityGroupRuleCreate
  | ml2SecurityGroupRuleDelete
  | fipUpdateOrDelete
  | routerUpdateOrDelete
  | qos
  | neutronListener
  | bgpSpeaker
  | bgpPeer
  | sfcPortChain
  | sfcPortPairGroup
  | sfcPortPair
  /-- Any number that is not among the constants. -/
  | other (code : Nat)
  deriving DecidableEq, Repr

structure Arguments where
  args : List Argument
  kwargs : List (String × Argument)

namespace Argument

def getattr (name : String) : Argument → Except ArgumentError Argument
  | .object attributes =>
      match attributes.lookup name with
      | some value => .ok value
      | none => .error .attributeError
  | _ => .error .attributeError

def getitem (name : String) : Argument → Except ArgumentError Argument
  | .dict items =>
      match items.lookup name with
      | some value => .ok value
      | none => .error .keyError
  | _ => .error .typeError

def asText : Argument → Except ArgumentError String
  | .text value => .ok value
  | _ => .error .typeError

end Argument

namespace Arguments

def positional (arguments : Arguments) (position : Nat) :
    Except ArgumentError Argument :=
  match arguments.args[position]? with
  | some value => .ok value
  | none => .error .indexError

def keyword (arguments : Arguments) (name : String) :
    Except ArgumentError Argument :=
  Argument.getitem name (.dict arguments.kwargs)

/-- `args[1].current[name]` -/
def current (arguments : Arguments) (name : String) :
    Except ArgumentError Argument := do
  let context ← arguments.positional 1
  (← context.getattr "current").getitem name

end Arguments

/-- The argument that names the lock, for each type of resource. -/
def lockArgument (resource : ResourceType) (arguments : Arguments) :
    Except ArgumentError Argument :=
  match resource with
  | .dfPlugin => do (← arguments.positional 1).getattr "project_id"
  | .ml2NetworkOrPort => arguments.current "id"
  | .ml2Subnet => arguments.current "network_id"
  | .fipUpdateOrDelete => arguments.positional 2
  | .routerUpdateOrDelete => arguments.positional 2
  | .ml2SecurityGroup =>
      match (do (← arguments.keyword "security_group").getitem "id") with
      | .error .keyError => do
          let payload ← arguments.keyword "payload"
          (← payload.getattr "latest_state").getitem "id"
      | result => result
  | .ml2SecurityGroupRuleCreate => do
      (← arguments.keyword "security_group_rule").getitem "security_group_id"
  | .ml2SecurityGroupRuleDelete => arguments.keyword "security_group_id"
  | .qos => do (← arguments.positional 2).getitem "id"
  | .neutronListener => do
      -- The uuid column has 36 characters, but this is the name of a host.
      let hostname ← (← arguments.positional 1).asText
      return .text (String.ofList (hostname.toList.take 35))
  | .bgpSpeaker => arguments.positional 2
  | .bgpPeer => arguments.positional 2
  | .sfcPortChain => arguments.current "id"
  | .sfcPortPair => arguments.current "id"
  | .sfcPortPairGroup => arguments.current "id"
  | .other _ => .error .unknownResource

def getLockIdByResourceType (resource : ResourceType) (arguments : Arguments) :
    Except ArgumentError LockId := do
  (← lockArgument resource arguments).asText

/-! ## The call stack -/

/-- Where the wrapper of a decorated call stands. -/
inductive Wrapper
  /-- `lock` is about to find out whether the call is nested. -/
  | entering
  /-- The call is not nested. It runs its body while the phase is `holding`. -/
  | locking (phase : Phase)
  /-- The call is taken to be nested, and runs its body without the lock. -/
  | within
  deriving DecidableEq, Repr

inductive Frame
  /-- Any function; also the body of a decorated one. -/
  | function (name : String)
  /-- The wrapper of the function with this name. -/
  | wrapper (lockId : LockId) (name : String) (state : Wrapper)
  deriving DecidableEq, Repr

/-- `six.wraps` renames the function, but not its code object. -/
def Frame.codeName : Frame → String
  | .function name => name
  | .wrapper _ _ _ => "wrap_db_lock"

/-- `inspect.stack()`, innermost first, when the wrapper on top of the stack has
entered the context manager. -/
def inspectStack (frames : List Frame) : List String :=
  ["is_within_wrapper", "lock", "__enter__"] ++ frames.map Frame.codeName

def isWithinWrapper (frames : List Frame) : Bool :=
  ((inspectStack frames).drop 1).any (· = "wrap_db_lock")

/-- A worker's own code is on top, so that it can make calls. -/
def MakesCalls : List Frame → Bool
  | [] => true
  | .function _ :: _ => true
  | .wrapper _ _ _ :: _ => false

/-- The context manager has decided whether to lock. -/
def enter : List Frame → Option (List Frame)
  | .wrapper lockId name .entering :: callers =>
      if isWithinWrapper (.wrapper lockId name .entering :: callers) then
        some (.function name :: .wrapper lockId name .within :: callers)
      else
        some (.wrapper lockId name (.locking .testing) :: callers)
  | _ => none

/-- A statement of the context manager has been executed. -/
def proceed (lockId : LockId) (name : String) (callers : List Frame) :
    Phase → List Frame
  | .holding session =>
      .function name :: .wrapper lockId name (.locking (.holding session)) :: callers
  | .released => callers
  | .raised => callers
  | phase => .wrapper lockId name (.locking phase) :: callers

/-- A function returns or raises. Its wrapper, if it has one, cleans up. -/
def leave : List Frame → Option (List Frame)
  | .function _ :: .wrapper _ _ .within :: callers => some callers
  | .function _ :: .wrapper lockId name (.locking (.holding session)) :: callers =>
      some (.wrapper lockId name (.locking (.releasing session)) :: callers)
  | .function _ :: callers => some callers
  | _ => none

/-! ## Workers -/

structure Workers (ι : Type) where
  database : Database
  callStacks : ι → List Frame

inductive WorkerAction (ι : Type)
  | call (worker : ι) (name : String)
  | callDecorated (worker : ι) (resource : ResourceType) (name : String)
      (arguments : Arguments)
  | enter (worker : ι)
  | execute (worker : ι) (statement : Statement)
  | leave (worker : ι)
  /-- The retries of a statement are used up. -/
  | giveUp (worker : ι)
  /-- The process dies. -/
  | die (worker : ι)
  | tick (elapsed : Nat)

namespace Workers

variable {ι : Type} [DecidableEq ι]

def setStack (workers : Workers ι) (worker : ι) (frames : List Frame) :
    Workers ι :=
  { workers with callStacks := Function.update workers.callStacks worker frames }

def step (ttl : Nat) (workers : Workers ι) :
    WorkerAction ι → Option (Workers ι)
  | .call worker name =>
      if MakesCalls (workers.callStacks worker) then
        some (workers.setStack worker (.function name :: workers.callStacks worker))
      else none
  | .callDecorated worker resource name arguments =>
      if MakesCalls (workers.callStacks worker) then
        match getLockIdByResourceType resource arguments with
        | .ok lockId => some (workers.setStack worker
            (.wrapper lockId name .entering :: workers.callStacks worker))
        | .error _ => some workers
      else none
  | .enter worker =>
      (enter (workers.callStacks worker)).map (workers.setStack worker)
  | .execute worker statement =>
      match workers.callStacks worker with
      | .wrapper lockId name (.locking phase) :: callers =>
          (workers.database.execute ttl lockId phase statement).map fun executed =>
            { workers.setStack worker (proceed lockId name callers executed.1) with
              database := executed.2 }
      | _ => none
  | .leave worker =>
      (leave (workers.callStacks worker)).map (workers.setStack worker)
  | .giveUp worker =>
      match workers.callStacks worker with
      | .wrapper _ _ (.locking _) :: callers => some (workers.setStack worker callers)
      | _ => none
  | .die worker => some (workers.setStack worker [])
  | .tick elapsed =>
      some { workers with
        database := { workers.database with now := workers.database.now + elapsed } }

/-- No worker has called anything yet. -/
def initial (table : Table) (now : Time) : Workers ι where
  database := ⟨table, now, table.map Row.sessionId, []⟩
  callStacks := fun _ => []

end Workers

/-! ## Decorated calls never lock -/

/-- The wrapper's own frame is on the stack that it searches. -/
theorem isWithinWrapper_wrapper (lockId : LockId) (name : String)
    (state : Wrapper) (callers : List Frame) :
    isWithinWrapper (.wrapper lockId name state :: callers) = true := by
  simp [isWithinWrapper, inspectStack, Frame.codeName]

/-- A wrapper that has not taken part in the row protocol. -/
def Frame.NeverLocks : Frame → Prop
  | .wrapper _ _ (.locking _) => False
  | _ => True

theorem enter_neverLocks {frames after : List Frame}
    (neverLocks : ∀ frame ∈ frames, frame.NeverLocks)
    (entered : enter frames = some after) :
    ∀ frame ∈ after, frame.NeverLocks := by
  unfold enter at entered
  split at entered
  · next lockId name callers =>
      rw [isWithinWrapper_wrapper, if_pos rfl] at entered
      cases entered
      simp only [List.forall_mem_cons] at neverLocks ⊢
      exact ⟨trivial, trivial, neverLocks.2⟩
  · cases entered

theorem leave_neverLocks {frames after : List Frame}
    (neverLocks : ∀ frame ∈ frames, frame.NeverLocks)
    (left : leave frames = some after) :
    ∀ frame ∈ after, frame.NeverLocks := by
  unfold leave at left
  split at left
  · cases left
    simp only [List.forall_mem_cons] at neverLocks
    exact neverLocks.2.2
  · simp only [List.forall_mem_cons] at neverLocks
    exact neverLocks.2.1.elim
  · cases left
    simp only [List.forall_mem_cons] at neverLocks
    exact neverLocks.2
  · cases left

namespace Workers

variable {ι : Type} [DecidableEq ι] {ttl : Nat} {workers after : Workers ι}

/-- The table is as it was, and so are all sessions. -/
structure Unlocked (table : Table) (workers : Workers ι) : Prop where
  table : workers.database.table = table
  log : workers.database.log = []
  neverLocks : ∀ worker, ∀ frame ∈ workers.callStacks worker, frame.NeverLocks

theorem Unlocked.setStack {table : Table} (unlocked : workers.Unlocked table)
    (worker : ι) {frames : List Frame}
    (neverLocks : ∀ frame ∈ frames, frame.NeverLocks) :
    (workers.setStack worker frames).Unlocked table := by
  refine ⟨unlocked.table, unlocked.log, ?_⟩
  intro other
  by_cases same : other = worker
  · subst same
    simp only [Workers.setStack, Function.update_self]
    exact neverLocks
  · simp only [Workers.setStack, Function.update_of_ne same]
    exact unlocked.neverLocks other

theorem Unlocked.step {table : Table} (unlocked : workers.Unlocked table)
    {action : WorkerAction ι} (stepped : workers.step ttl action = some after) :
    after.Unlocked table := by
  cases action with
  | call worker name =>
      simp only [Workers.step] at stepped
      split at stepped
      · cases stepped
        apply unlocked.setStack
        exact List.forall_mem_cons.mpr ⟨trivial, unlocked.neverLocks worker⟩
      · cases stepped
  | callDecorated worker resource name arguments =>
      simp only [Workers.step] at stepped
      split at stepped
      · split at stepped
        · cases stepped
          apply unlocked.setStack
          exact List.forall_mem_cons.mpr ⟨trivial, unlocked.neverLocks worker⟩
        · cases stepped
          exact unlocked
      · cases stepped
  | enter worker =>
      rcases Option.map_eq_some_iff.mp stepped with ⟨frames, entered, rfl⟩
      exact unlocked.setStack worker
        (enter_neverLocks (unlocked.neverLocks worker) entered)
  | execute worker statement =>
      simp only [Workers.step] at stepped
      split at stepped
      · next stack =>
          have impossible := unlocked.neverLocks worker _ (stack ▸ List.mem_cons_self)
          exact impossible.elim
      · cases stepped
  | leave worker =>
      rcases Option.map_eq_some_iff.mp stepped with ⟨frames, left, rfl⟩
      exact unlocked.setStack worker
        (leave_neverLocks (unlocked.neverLocks worker) left)
  | giveUp worker =>
      simp only [Workers.step] at stepped
      split at stepped
      · next stack =>
          have impossible := unlocked.neverLocks worker _ (stack ▸ List.mem_cons_self)
          exact impossible.elim
      · cases stepped
  | die worker =>
      cases stepped
      apply unlocked.setStack
      simp
  | tick elapsed =>
      cases stepped
      exact ⟨unlocked.table, unlocked.log, unlocked.neverLocks⟩

omit [DecidableEq ι] in
theorem unlocked_initial (table : Table) (now : Time) :
    (initial table now : Workers ι).Unlocked table :=
  ⟨rfl, rfl, fun _ _ impossible => by cases impossible⟩

end Workers

/-! ## Bodies of outermost calls -/

def Frame.wrapper? : Frame → Option (LockId × Wrapper)
  | .function _ => none
  | .wrapper lockId _ state => some (lockId, state)

/-- The decorated call that was not made from within another one. -/
def outermost (frames : List Frame) : Option (LockId × Wrapper) :=
  (frames.filterMap Frame.wrapper?).getLast?

/-- The body of the call has begun and not ended. -/
def Wrapper.inBody : Wrapper → Bool
  | .within => true
  | .locking (.holding _) => true
  | _ => false

/-- The session id that the call has acquired. -/
def Wrapper.session : Wrapper → Option SessionId
  | .locking (.holding session) => some session
  | _ => none

namespace Workers

/-- The worker runs the body of an outermost call that is to hold the lock. -/
def RunsBody (workers : Workers ι) (worker : ι) (lockId : LockId)
    (wrapper : Wrapper) : Prop :=
  outermost (workers.callStacks worker) = some (lockId, wrapper) ∧
    wrapper.inBody = true

/-- The row is locked by the session that this call has acquired. -/
def Guarded (workers : Workers ι) (lockId : LockId) (wrapper : Wrapper) : Prop :=
  ∃ session, wrapper.session = some session ∧
    workers.database.LockedBy lockId session

/-- The worker can make an outermost call. -/
def Outside (workers : Workers ι) (worker : ι) : Prop :=
  MakesCalls (workers.callStacks worker) = true ∧
    outermost (workers.callStacks worker) = none

variable {ι : Type} [DecidableEq ι] {ttl : Nat} {workers : Workers ι}

omit [DecidableEq ι] in
theorem Unlocked.not_guarded {table : Table} (unlocked : workers.Unlocked table)
    {worker : ι} {lockId : LockId} {wrapper : Wrapper}
    (runs : workers.RunsBody worker lockId wrapper) :
    ¬ workers.Guarded lockId wrapper := by
  rcases runs with ⟨onStack, _⟩
  have member := List.mem_of_getLast? onStack
  rcases List.mem_filterMap.mp member with ⟨frame, frameMember, isWrapper⟩
  have neverLocks := unlocked.neverLocks worker frame frameMember
  cases frame with
  | function name => cases isWrapper
  | wrapper lockId name state =>
      cases isWrapper
      intro guarded
      rcases guarded with ⟨session, acquired, _⟩
      cases wrapper with
      | locking phase => exact neverLocks
      | _ => cases acquired

/-- A decorated call of a worker that is outside gets into its body at once. -/
theorem Outside.runsBody {worker : ι} (outside : workers.Outside worker)
    {resource : ResourceType} {arguments : Arguments} {lockId : LockId}
    (locks : getLockIdByResourceType resource arguments = .ok lockId)
    (name : String) :
    ∃ after, steps (Workers.step ttl)
        [.callDecorated worker resource name arguments, .enter worker] workers =
          some after ∧
      after.RunsBody worker lockId .within ∧
      ∀ other, other ≠ worker → after.callStacks other = workers.callStacks other := by
  rcases outside with ⟨makesCalls, undecorated⟩
  refine ⟨(workers.setStack worker (.wrapper lockId name .entering ::
      workers.callStacks worker)).setStack worker (.function name ::
      .wrapper lockId name .within :: workers.callStacks worker), ?_, ?_, ?_⟩
  · simp [steps, Workers.step, makesCalls, locks, enter, setStack,
      isWithinWrapper_wrapper]
  · unfold outermost at undecorated
    rw [List.getLast?_eq_none_iff] at undecorated
    refine ⟨?_, rfl⟩
    simp only [outermost, setStack, Function.update_self]
    change ((lockId, Wrapper.within) ::
      (workers.callStacks worker).filterMap Frame.wrapper?).getLast? = _
    rw [undecorated]
    rfl
  · intro other different
    simp [setStack, different]

end Workers

/-- Whatever is called in whatever order, no body of an outermost decorated call
ever runs under a lock that the call has acquired, and no row is ever touched.
Any two workers can run such bodies for the same lock at the same time. -/
theorem wrapDbLock_never_guards {ι : Type} [DecidableEq ι] (ttl : Nat)
    (table : Table) (now : Time) (actions : List (WorkerAction ι))
    (workers : Workers ι)
    (reached : steps (Workers.step ttl) actions (Workers.initial table now) =
      some workers) :
    (∀ worker lockId wrapper, workers.RunsBody worker lockId wrapper →
      ¬ workers.Guarded lockId wrapper) ∧
    workers.database.table = table ∧
    ∀ first second, first ≠ second → workers.Outside first →
      workers.Outside second → ∀ resource arguments lockId,
      getLockIdByResourceType resource arguments = .ok lockId →
      ∃ further after, steps (Workers.step ttl) further workers = some after ∧
        (∃ wrapper, after.RunsBody first lockId wrapper) ∧
        ∃ wrapper, after.RunsBody second lockId wrapper := by
  have unlocked : workers.Unlocked table :=
    steps_invariant (Workers.Unlocked table)
      (fun _ _ _ unlocked stepped => unlocked.step stepped)
      (Workers.unlocked_initial table now) reached
  refine ⟨fun _ _ _ runs => unlocked.not_guarded runs, unlocked.table, ?_⟩
  intro first second different firstOutside secondOutside resource arguments
    lockId locks
  rcases firstOutside.runsBody locks "first" with
    ⟨middle, firstSteps, firstRuns, firstAlone⟩
  have stillOutside : middle.Outside second := by
    unfold Workers.Outside
    rw [firstAlone second different.symm]
    exact secondOutside
  rcases stillOutside.runsBody locks "second" with
    ⟨after, secondSteps, secondRuns, secondAlone⟩
  refine ⟨_, after, steps_append firstSteps secondSteps, ⟨.within, ?_⟩,
    ⟨.within, secondRuns⟩⟩
  unfold Workers.RunsBody
  rw [secondAlone first different]
  exact firstRuns

/-- The arguments of a plugin method: the plugin, and a context of the project. -/
def pluginArguments : Arguments :=
  ⟨[.object [], .object [("project_id", .text "project")]], []⟩

/-- Two workers call a method that is to lock the project. -/
def concurrentCalls : List (WorkerAction Bool) :=
  [.callDecorated false .dfPlugin "create_router" pluginArguments, .enter false,
    .callDecorated true .dfPlugin "create_floatingip" pluginArguments, .enter true]

theorem wrapDbLock_never_guards_concurrent :
    ∃ workers : Workers Bool,
      steps (Workers.step 10) concurrentCalls (Workers.initial [] 0) = some workers ∧
      workers.RunsBody false "project" .within ∧
      ¬ workers.Guarded "project" .within ∧ workers.database.table = [] := by
  have walked : ∃ workers : Workers Bool,
      steps (Workers.step 10) concurrentCalls (Workers.initial [] 0) =
        some workers ∧ workers.RunsBody false "project" .within :=
    ⟨_, rfl, rfl, rfl⟩
  rcases walked with ⟨workers, reached, runs⟩
  rcases wrapDbLock_never_guards 10 [] 0 concurrentCalls workers reached with
    ⟨unguarded, untouched, _⟩
  exact ⟨workers, reached, runs, unguarded false "project" .within runs, untouched⟩

/-- Both workers are in the body of an outermost call for the same lock, and
there is not even a row for it. -/
theorem wrapDbLock_not_exclusive :
    ∃ workers : Workers Bool,
      steps (Workers.step 10) concurrentCalls (Workers.initial [] 0) = some workers ∧
      (workers.RunsBody false "project" .within ∧
        ¬ workers.Guarded "project" .within) ∧
      workers.RunsBody true "project" .within := by
  refine ⟨_, rfl, ⟨⟨rfl, rfl⟩, ?_⟩, rfl, rfl⟩
  intro guarded
  rcases guarded with ⟨_, acquired, _⟩
  cases acquired

end Dragonflow.LockedObjects
