import Mathlib.Data.List.Nodup
import Mathlib.Logic.Function.Basic
import Dragonflow.Foundation.Steps
import Dragonflow.Db.Neutron.LockedObjects

/-! # The row protocol of the distributed lock

Any number of workers execute the statements of `LockedObjects` in any order.
-/

namespace Dragonflow.LockedObjects

/-! ## Who holds a lock -/

/-- The session has acquired the lock, and neither released it nor been reset
since. -/
def Holds : List Event → LockId → SessionId → Prop
  | [], _, _ => False
  | .acquired uuid session :: earlier, lock, holder =>
      (lock = uuid ∧ holder = session) ∨ Holds earlier lock holder
  | .released uuid session :: earlier, lock, holder =>
      ¬(lock = uuid ∧ holder = session) ∧ Holds earlier lock holder
  | .reset uuid session :: earlier, lock, holder =>
      ¬(lock = uuid ∧ holder = session) ∧ Holds earlier lock holder

namespace Database

/-- The row of the lock says that this session has it. -/
def LockedBy (database : Database) (uuid : LockId) (session : SessionId) : Prop :=
  ∃ row ∈ database.table, row.objectUuid = uuid ∧ row.lock = true ∧
    row.sessionId = session

/-- The lock was taken longer than the ttl ago. -/
def Expired (database : Database) (ttl : Nat) (row : Row) : Prop :=
  ∃ createdAt, row.createdAt = some createdAt ∧
    isOlderThan database.now createdAt ttl = true

structure Sound (database : Database) : Prop where
  unique : (database.table.map Row.objectUuid).Nodup
  stamped : ∀ row ∈ database.table, row.lock = true → row.createdAt.isSome
  known : ∀ row ∈ database.table, row.lock = true →
    row.sessionId ∈ database.issued
  held : ∀ uuid session, Holds database.log uuid session →
    database.LockedBy uuid session

/-- A session that is about to be reset has expired, unless it has already lost
the lock. -/
def Fits (database : Database) (ttl : Nat) (uuid : LockId) : Phase → Prop
  | .resetting session => session ∈ database.issued ∧
      ∀ row ∈ database.table, row.objectUuid = uuid → row.lock = true →
        row.sessionId = session → database.Expired ttl row
  | _ => True

/-- What any statement does to the locks: those that are taken after it were
taken before it, or belong to a new session. -/
structure Progress (before after : Database) : Prop where
  now : before.now ≤ after.now
  issued : ∀ session ∈ before.issued, session ∈ after.issued
  locked : ∀ row ∈ after.table, row.lock = true →
    row ∈ before.table ∨ row.sessionId ∉ before.issued

theorem Progress.refl (database : Database) : Progress database database :=
  ⟨Nat.le_refl _, fun _ member => member, fun _ member _ => Or.inl member⟩

theorem Expired.later {before after : Database} {ttl : Nat} {row : Row}
    (expired : before.Expired ttl row) (later : before.now ≤ after.now) :
    after.Expired ttl row := by
  rcases expired with ⟨createdAt, stamped, older⟩
  refine ⟨createdAt, stamped, ?_⟩
  simp only [isOlderThan, decide_eq_true_eq] at older ⊢
  exact Nat.lt_of_lt_of_le older later

/-- Steps of others do not disturb a waiting call. -/
theorem Fits.progress {before after : Database} {ttl : Nat} {uuid : LockId}
    {phase : Phase} (fits : before.Fits ttl uuid phase)
    (progress : Progress before after) : after.Fits ttl uuid phase := by
  cases phase with
  | resetting session =>
      rcases fits with ⟨issued, expired⟩
      refine ⟨progress.issued session issued, ?_⟩
      intro row member sameLock locked sameSession
      rcases progress.locked row member locked with old | new
      · exact (expired row old sameLock locked sameSession).later progress.now
      · rw [sameSession] at new
        exact absurd issued new
  | _ => trivial

/-! ## Filtered updates -/

section

variable {database after : Database} {uuid : LockId} {session : SessionId}
  {lockState : Bool} {event : Event}

/-- The row as an `UPDATE` leaves it. -/
def updatedRow (database : Database) (uuid : LockId) (lockState : Bool)
    (session : SessionId) (row : Row) : Row :=
  if searchParams uuid lockState session row then
    updateParams database.now lockState session row
  else row

theorem updating_eq_ok
    (updated : database.updating uuid lockState session event = .ok after) :
    (∃ row ∈ database.table, searchParams uuid lockState session row = true) ∧
      after = { database with
        table := database.table.map (database.updatedRow uuid lockState session)
        log := event :: database.log } := by
  unfold updating lockFreeUpdate at updated
  by_cases found : database.table.any (searchParams uuid lockState session) = true
  · rw [if_pos found] at updated
    cases updated
    exact ⟨List.any_eq_true.mp found, rfl⟩
  · rw [if_neg found] at updated
    cases updated

theorem objectUuid_updatedRow (row : Row) :
    (database.updatedRow uuid lockState session row).objectUuid =
      row.objectUuid := by
  unfold updatedRow
  split <;> rfl

theorem unique_updated (unique : (database.table.map Row.objectUuid).Nodup) :
    ((database.table.map (database.updatedRow uuid lockState session)).map
      Row.objectUuid).Nodup := by
  have same : Row.objectUuid ∘ database.updatedRow uuid lockState session =
      Row.objectUuid := funext objectUuid_updatedRow
  rw [List.map_map, same]
  exact unique

/-- One row for each uuid. -/
theorem Sound.row_eq (sound : database.Sound) {row other : Row}
    (member : row ∈ database.table) (otherMember : other ∈ database.table)
    (same : row.objectUuid = other.objectUuid) : row = other :=
  List.inj_on_of_nodup_map sound.unique member otherMember same

theorem searchParams_free {row : Row} :
    searchParams uuid true session row = true ↔
      row.objectUuid = uuid ∧ row.lock = true ∧ row.sessionId = session := by
  simp [searchParams]

theorem searchParams_acquire {row : Row} :
    searchParams uuid false session row = true ↔
      row.objectUuid = uuid ∧ row.lock = false := by
  simp [searchParams]

/-- A row that is locked after a release or a reset was left alone. -/
theorem locked_after_free {row : Row}
    (member : row ∈ database.table.map (database.updatedRow uuid true session))
    (locked : row.lock = true) :
    row ∈ database.table ∧ ¬(row.objectUuid = uuid ∧ row.sessionId = session) := by
  rcases List.mem_map.mp member with ⟨old, oldMember, rfl⟩
  by_cases matched : searchParams uuid true session old = true
  · rw [updatedRow, if_pos matched] at locked
    cases locked
  · rw [updatedRow, if_neg matched] at locked ⊢
    refine ⟨oldMember, ?_⟩
    intro same
    exact matched (searchParams_free.mpr ⟨same.1, locked, same.2⟩)

/-- A lock is freed for nobody but the session that is given. -/
theorem LockedBy.after_free {lock : LockId} {holder : SessionId}
    (lockedBy : database.LockedBy lock holder)
    (other : ¬(lock = uuid ∧ holder = session)) {log : List Event} :
    LockedBy { database with
      table := database.table.map (database.updatedRow uuid true session)
      log } lock holder := by
  rcases lockedBy with ⟨row, member, rfl, locked, rfl⟩
  have kept : database.updatedRow uuid true session row = row := by
    rw [updatedRow, if_neg]
    intro matched
    rw [searchParams_free] at matched
    exact other ⟨matched.1, matched.2.2⟩
  exact ⟨row, List.mem_map.mpr ⟨row, member, kept⟩, rfl, locked, rfl⟩

end

/-! ## Statements keep the table sound -/

section

variable {database after : Database} {ttl : Nat} {uuid : LockId}
  {session : SessionId} {event : Event}

/-- Releases and resets. -/
theorem Sound.free (sound : database.Sound)
    (updated : database.updating uuid true session event = .ok after)
    (freed : event = .released uuid session ∨ event = .reset uuid session) :
    after.Sound ∧ Progress database after := by
  rcases updating_eq_ok updated with ⟨_, rfl⟩
  refine ⟨⟨unique_updated sound.unique, ?_, ?_, ?_⟩,
    ⟨Nat.le_refl _, fun _ member => member, ?_⟩⟩
  · intro row member locked
    exact sound.stamped row (locked_after_free member locked).1 locked
  · intro row member locked
    exact sound.known row (locked_after_free member locked).1 locked
  · intro lock holder holds
    rcases freed with rfl | rfl
    · exact (sound.held lock holder holds.2).after_free holds.1
    · exact (sound.held lock holder holds.2).after_free holds.1
  · intro row member locked
    exact Or.inl (locked_after_free member locked).1

/-- An acquisition finds a row that nobody holds. -/
theorem Sound.acquire (sound : database.Sound)
    (fresh : session ∉ database.issued)
    (updated : (database.issue session).updating uuid false session
      (.acquired uuid session) = .ok after) :
    after.Sound ∧ Progress database after := by
  rcases updating_eq_ok updated with ⟨⟨free, freeMember, matched⟩, rfl⟩
  rw [searchParams_acquire] at matched
  have written {row : Row} (member : row ∈ database.table.map
      ((database.issue session).updatedRow uuid false session)) :
      (row.sessionId = session ∧ row.createdAt.isSome) ∨
        row ∈ database.table := by
    rcases List.mem_map.mp member with ⟨old, oldMember, rfl⟩
    rw [updatedRow]
    split
    · exact Or.inl ⟨rfl, rfl⟩
    · exact Or.inr oldMember
  have unique : ((database.issue session).table.map Row.objectUuid).Nodup :=
    sound.unique
  refine ⟨⟨unique_updated unique, ?_, ?_, ?_⟩, ⟨Nat.le_refl _,
    fun _ member => List.mem_cons_of_mem _ member, ?_⟩⟩
  · intro row member locked
    rcases written member with ⟨_, stamped⟩ | old
    · exact stamped
    · exact sound.stamped row old locked
  · intro row member locked
    rcases written member with ⟨same, _⟩ | old
    · simp [issue, same]
    · simp [issue, sound.known row old locked]
  · intro lock holder holds
    rcases holds with ⟨rfl, rfl⟩ | holds
    · refine ⟨_, List.mem_map.mpr ⟨free, freeMember, rfl⟩, ?_⟩
      rw [updatedRow, if_pos (searchParams_acquire.mpr matched)]
      exact ⟨matched.1, rfl, rfl⟩
    · rcases sound.held lock holder holds with ⟨row, member, rfl, locked, rfl⟩
      refine ⟨row, List.mem_map.mpr ⟨row, member, ?_⟩, rfl, locked, rfl⟩
      rw [updatedRow, if_neg]
      rw [searchParams_acquire, locked]
      simp
  · intro row member locked
    rcases written member with ⟨same, _⟩ | old
    · exact Or.inr (same ▸ fresh)
    · exact Or.inl old

theorem Sound.issue (sound : database.Sound) :
    (database.issue session).Sound ∧ Progress database (database.issue session) :=
  ⟨⟨sound.unique, sound.stamped,
      fun row member locked => List.mem_cons_of_mem _ (sound.known row member locked),
      sound.held⟩,
    ⟨Nat.le_refl _, fun _ member => List.mem_cons_of_mem _ member,
      fun _ member _ => Or.inl member⟩⟩

theorem Sound.insert (sound : database.Sound) {table : Table}
    (created : createDbRow uuid database.table = .ok table) :
    Sound { database with table } ∧ Progress database { database with table } := by
  unfold createDbRow at created
  split at created
  · cases created
  · next absent =>
      cases created
      have locked_old {row : Row} (member : row ∈
          (⟨uuid, false, 0, none⟩ : Row) :: database.table)
          (locked : row.lock = true) : row ∈ database.table := by
        rcases List.mem_cons.mp member with rfl | old
        · cases locked
        · exact old
      refine ⟨⟨?_, ?_, ?_, ?_⟩, ⟨Nat.le_refl _, fun _ member => member, ?_⟩⟩
      · rw [List.map_cons, List.nodup_cons]
        refine ⟨?_, sound.unique⟩
        intro member
        rcases List.mem_map.mp member with ⟨row, rowMember, same⟩
        exact absent (List.any_eq_true.mpr ⟨row, rowMember, by simpa using same⟩)
      · intro row member locked
        exact sound.stamped row (locked_old member locked) locked
      · intro row member locked
        exact sound.known row (locked_old member locked) locked
      · intro lock holder holds
        rcases sound.held lock holder holds with ⟨row, member, rest⟩
        exact ⟨row, List.mem_cons_of_mem _ member, rest⟩
      · intro row member locked
        exact Or.inl (locked_old member locked)

theorem one_eq_ok {table : Table} {row : Row} (found : table.one uuid = .ok row) :
    row ∈ table ∧ row.objectUuid = uuid := by
  unfold Table.one at found
  split at found
  · cases found
  · next single =>
      cases found
      have member : row ∈ table.filter fun row => row.objectUuid = uuid := by
        rw [single]
        exact List.mem_singleton_self row
      simpa using List.mem_filter.mp member
  · cases found

/-- Reading an expired row finds out whose lock is to be reset. -/
theorem Sound.afterRead_fits (sound : database.Sound) :
    database.Fits ttl uuid (database.afterRead ttl uuid) := by
  unfold afterRead
  split
  · trivial
  · trivial
  · next row found =>
      rcases one_eq_ok found with ⟨member, sameLock⟩
      split
      · next locked =>
          split
          · trivial
          · next createdAt stamped =>
              split
              · next older =>
                  refine ⟨sound.known row member locked, ?_⟩
                  intro other otherMember otherLock _ _
                  rw [sound.row_eq otherMember member (otherLock.trans sameLock.symm)]
                  exact ⟨createdAt, stamped, older⟩
              · trivial
      · trivial

/-- One statement of a call. -/
theorem Sound.execute (sound : database.Sound) {phase next : Phase}
    {statement : Statement}
    (executed : database.execute ttl uuid phase statement = some (next, after)) :
    after.Sound ∧ Progress database after ∧ after.Fits ttl uuid next := by
  have unchanged : database.Sound ∧ Progress database database :=
    ⟨sound, Progress.refl database⟩
  unfold Database.execute at executed
  split at executed
  · cases executed
    exact ⟨sound, Progress.refl _, sound.afterRead_fits⟩
  · split at executed
    · next updated =>
        cases executed
        exact and_assoc.mp ⟨sound.free updated (Or.inr rfl), trivial⟩
    · cases executed
      exact and_assoc.mp ⟨unchanged, trivial⟩
  · split at executed
    · next created =>
        cases executed
        exact and_assoc.mp ⟨sound.insert created, trivial⟩
    · cases executed
      exact and_assoc.mp ⟨unchanged, trivial⟩
  · split at executed
    · cases executed
    · next fresh =>
        split at executed
        · next updated =>
            cases executed
            exact and_assoc.mp ⟨sound.acquire fresh updated, trivial⟩
        · cases executed
          exact and_assoc.mp ⟨sound.issue, trivial⟩
  · split at executed
    · next updated =>
        cases executed
        exact and_assoc.mp ⟨sound.free updated (Or.inl rfl), trivial⟩
    · cases executed
      exact and_assoc.mp ⟨unchanged, trivial⟩
  · cases executed

end

end Database

/-! ## Any number of workers -/

/-- Every worker is in at most one call of the lock. -/
structure System (ι : Type) where
  database : Database
  calls : ι → Option (LockId × Phase)

inductive Action (ι : Type)
  | begin (worker : ι) (uuid : LockId)
  | execute (worker : ι) (statement : Statement)
  /-- The body under the lock ends. -/
  | leave (worker : ι)
  /-- The call ends; or its retries are used up, or the process dies. -/
  | stop (worker : ι)
  | tick (elapsed : Nat)

namespace System

variable {ι : Type} [DecidableEq ι]

def setCall (system : System ι) (worker : ι) (call : Option (LockId × Phase)) :
    System ι :=
  { system with calls := Function.update system.calls worker call }

def step (ttl : Nat) (system : System ι) : Action ι → Option (System ι)
  | .begin worker uuid =>
      match system.calls worker with
      | none => some (system.setCall worker (some (uuid, .testing)))
      | some _ => none
  | .execute worker statement =>
      match system.calls worker with
      | none => none
      | some (uuid, phase) =>
          (system.database.execute ttl uuid phase statement).map fun executed =>
            { system.setCall worker (some (uuid, executed.1)) with
              database := executed.2 }
  | .leave worker =>
      match system.calls worker with
      | some (uuid, .holding session) =>
          some (system.setCall worker (some (uuid, .releasing session)))
      | _ => none
  | .stop worker => some (system.setCall worker none)
  | .tick elapsed =>
      some { system with
        database := { system.database with now := system.database.now + elapsed } }

/-- Nobody has called the lock yet. The table may hold rows of earlier sessions,
whose ids are not drawn again. -/
def initial (table : Table) (now : Time) : System ι where
  database := ⟨table, now, table.map Row.sessionId, []⟩
  calls := fun _ => none

structure Safe (ttl : Nat) (system : System ι) : Prop where
  sound : system.database.Sound
  fits : ∀ worker uuid phase, system.calls worker = some (uuid, phase) →
    system.database.Fits ttl uuid phase

variable {ttl : Nat} {system after : System ι}

omit [DecidableEq ι] in
theorem safe_initial {table : Table} {now : Time}
    (unique : (table.map Row.objectUuid).Nodup)
    (stamped : ∀ row ∈ table, row.lock = true → row.createdAt.isSome) :
    (initial table now : System ι).Safe ttl where
  sound := ⟨unique, stamped, fun _ member _ => List.mem_map_of_mem member,
    fun _ _ impossible => impossible.elim⟩
  fits _ _ _ impossible := by cases impossible

theorem Safe.setCall (safe : system.Safe ttl) (worker : ι)
    {call : Option (LockId × Phase)} {database : Database}
    (sound : database.Sound)
    (progress : Database.Progress system.database database)
    (fits : ∀ uuid phase, call = some (uuid, phase) →
      database.Fits ttl uuid phase) :
    Safe ttl { system.setCall worker call with database } := by
  refine ⟨sound, ?_⟩
  intro other uuid phase calling
  by_cases same : other = worker
  · subst same
    simp only [System.setCall, Function.update_self] at calling
    exact fits uuid phase calling
  · simp only [System.setCall, Function.update_of_ne same] at calling
    exact (safe.fits other uuid phase calling).progress progress

theorem Safe.step (safe : system.Safe ttl) {action : Action ι}
    (stepped : system.step ttl action = some after) : after.Safe ttl := by
  have unchanged := Database.Progress.refl system.database
  cases action with
  | begin worker uuid =>
      simp only [System.step] at stepped
      split at stepped
      · cases stepped
        apply safe.setCall worker safe.sound unchanged
        intro _ _ equal
        cases equal
        trivial
      · cases stepped
  | execute worker statement =>
      simp only [System.step] at stepped
      split at stepped
      · cases stepped
      · next uuid phase calling =>
          rcases Option.map_eq_some_iff.mp stepped with ⟨⟨next, database⟩, executed, rfl⟩
          rcases safe.sound.execute executed with ⟨sound, progress, fits⟩
          apply safe.setCall worker sound progress
          intro _ _ equal
          cases equal
          exact fits
  | leave worker =>
      simp only [System.step] at stepped
      split at stepped
      · cases stepped
        apply safe.setCall worker safe.sound unchanged
        intro _ _ equal
        cases equal
        trivial
      · cases stepped
  | stop worker =>
      cases stepped
      apply safe.setCall worker safe.sound unchanged
      intro _ _ equal
      cases equal
  | tick elapsed =>
      cases stepped
      have progress : Database.Progress system.database
          { system.database with now := system.database.now + elapsed } :=
        ⟨Nat.le_add_right _ _, fun _ member => member,
          fun _ member _ => Or.inl member⟩
      exact ⟨⟨safe.sound.unique, safe.sound.stamped, safe.sound.known,
        safe.sound.held⟩, fun worker uuid phase calling =>
          (safe.fits worker uuid phase calling).progress progress⟩

end System

/-! ## The protocol -/

/-- The worker is about to free the lock of this session, because it has taken
the lock itself or has found it expired. -/
def System.AimsAt (system : System ι) (worker : ι) (uuid : LockId)
    (session : SessionId) (statement : Statement) : Prop :=
  (system.calls worker = some (uuid, .releasing session) ∧ statement = .release) ∨
    (system.calls worker = some (uuid, .resetting session) ∧ statement = .reset)

theorem Database.Sound.one_row {database : Database} (sound : database.Sound)
    (uuid : LockId) :
    (database.table.filter fun row => row.objectUuid = uuid).length ≤ 1 := by
  have unique : ((database.table.filter fun row => row.objectUuid = uuid).map
      Row.objectUuid).Nodup :=
    (List.filter_sublist.map Row.objectUuid).nodup sound.unique
  have same : ∀ row ∈ database.table.filter fun row => row.objectUuid = uuid,
      row.objectUuid = uuid := by
    intro row member
    simpa using (List.mem_filter.mp member).2
  generalize database.table.filter (fun row => row.objectUuid = uuid) = rows at *
  match rows with
  | [] => exact Nat.zero_le 1
  | [_] => exact Nat.le_refl 1
  | first :: second :: _ =>
      have equal : first.objectUuid = second.objectUuid := by
        rw [same first (by simp), same second (by simp)]
      simp [equal] at unique

/-- An attempt to free a lock ends the hold of the session it is aimed at, and
of nobody else. -/
theorem System.holds_after_free {ι : Type} [DecidableEq ι] {ttl : Nat}
    {system after : System ι} {worker : ι} {uuid : LockId} {session : SessionId}
    {statement : Statement} (aims : system.AimsAt worker uuid session statement)
    (stepped : system.step ttl (.execute worker statement) = some after)
    {lock : LockId} {holder : SessionId}
    (other : ¬(lock = uuid ∧ holder = session))
    (holds : Holds system.database.log lock holder) :
    Holds after.database.log lock holder := by
  rcases aims with ⟨calling, rfl⟩ | ⟨calling, rfl⟩
  all_goals
    simp only [System.step, calling, Database.execute] at stepped
    rcases Option.map_eq_some_iff.mp stepped with ⟨⟨phase, database⟩, executed, rfl⟩
    split at executed
    · next updated =>
        cases executed
        rw [(Database.updating_eq_ok updated).2]
        exact ⟨other, holds⟩
    · cases executed
      exact holds

/-- Whatever the workers do, and in whatever order: there is at most one row for
a lock; at most one session holds it, and the row says so; freeing the lock of
one session never takes it from another one; and only expired locks are reset. -/
theorem protocol_safe {ι : Type} [DecidableEq ι] (ttl : Nat) (table : Table)
    (now : Time) (unique : (table.map Row.objectUuid).Nodup)
    (stamped : ∀ row ∈ table, row.lock = true → row.createdAt.isSome)
    (actions : List (Action ι)) (system : System ι)
    (reached : steps (System.step ttl) actions (System.initial table now) =
      some system) (uuid : LockId) :
    (system.database.table.filter fun row => row.objectUuid = uuid).length ≤ 1 ∧
    (∀ session, Holds system.database.log uuid session →
      system.database.LockedBy uuid session ∧
      ∀ other, Holds system.database.log uuid other → other = session) ∧
    (∀ worker session statement after,
      system.AimsAt worker uuid session statement →
      system.step ttl (.execute worker statement) = some after →
      ∀ other, other ≠ session → Holds system.database.log uuid other →
        Holds after.database.log uuid other ∧
          after.database.LockedBy uuid other) ∧
    ∀ worker session, system.calls worker = some (uuid, .resetting session) →
      ∀ row ∈ system.database.table, row.objectUuid = uuid → row.lock = true →
        row.sessionId = session → system.database.Expired ttl row := by
  have safe : system.Safe ttl :=
    steps_invariant (System.Safe ttl) (fun _ _ _ safe stepped => safe.step stepped)
      (System.safe_initial unique stamped) reached
  refine ⟨safe.sound.one_row uuid, ?_, ?_, ?_⟩
  · intro session holds
    refine ⟨safe.sound.held uuid session holds, ?_⟩
    intro other otherHolds
    rcases safe.sound.held uuid session holds with ⟨row, member, sameLock, _, rfl⟩
    rcases safe.sound.held uuid other otherHolds with
      ⟨otherRow, otherMember, otherLock, _, rfl⟩
    rw [safe.sound.row_eq otherMember member (otherLock.trans sameLock.symm)]
  · intro worker session statement after aims stepped other different holds
    have kept : Holds after.database.log uuid other :=
      System.holds_after_free aims stepped (fun same => different same.2) holds
    exact ⟨kept, (safe.step stepped).sound.held uuid other kept⟩
  · intro worker session calling
    exact (safe.fits worker uuid (.resetting session) calling).2

/-- The first worker is reset after its ttl, the second one takes the lock, and
only then does the first one try to release. -/
def lateRelease : List (Action Bool) :=
  [.begin false "lock", .execute false .read, .execute false .insert,
    .execute false (.acquire 7), .tick 11, .begin true "lock",
    .execute true .read, .execute true .reset, .execute true (.acquire 8),
    .leave false, .execute false .release]

theorem protocol_safe_late_release :
    ∃ system : System Bool,
      steps (System.step 10) lateRelease (System.initial [] 0) = some system ∧
      system.database.LockedBy "lock" 8 ∧
      ∀ other, Holds system.database.log "lock" other → other = 8 := by
  have walked : ∃ system : System Bool,
      steps (System.step 10) lateRelease (System.initial [] 0) = some system ∧
      Holds system.database.log "lock" 8 :=
    ⟨_, rfl, Or.inl ⟨rfl, rfl⟩⟩
  rcases walked with ⟨system, reached, holds⟩
  rcases protocol_safe 10 [] 0 (by simp) (by simp) lateRelease system reached
    "lock" with ⟨_, holder, _⟩
  exact ⟨system, reached, holder 8 holds⟩

end Dragonflow.LockedObjects
