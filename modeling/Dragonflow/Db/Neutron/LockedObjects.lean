import Mathlib.Data.List.Basic

/-! # The distributed lock of the Neutron database

The rows of `DFLockedObjects` and the statements of
`dragonflow/db/neutron/lockedobjects_db.py` that work on them. Every filtered
`UPDATE` and every `INSERT` is one step of its own; between two of them any
other worker may take steps.
-/

namespace Dragonflow.LockedObjects

abbrev LockId := String

abbrev SessionId := Nat

abbrev Time := Nat

/-- A row of `dflockedobjects`. `created_at` has no default, so a row that was
never updated has none. -/
structure Row where
  objectUuid : LockId
  lock : Bool
  sessionId : SessionId
  createdAt : Option Time
  deriving DecidableEq, Repr

abbrev Table := List Row

inductive DbError
  | noResultFound
  | multipleResultsFound
  | duplicateEntry
  | retryRequest
  deriving DecidableEq, Repr

/-! ## Statements -/

/-- `query(DFLockedObjects).filter_by(object_uuid=uuid).one()` -/
def Table.one (table : Table) (uuid : LockId) : Except DbError Row :=
  match table.filter fun row => row.objectUuid = uuid with
  | [] => .error .noResultFound
  | [row] => .ok row
  | _ => .error .multipleResultsFound

/-- The `search_params` of `_lock_free_update`: acquiring does not look at the
session. -/
def searchParams (uuid : LockId) (lockState : Bool) (sessionId : SessionId)
    (row : Row) : Bool :=
  if lockState then
    row.objectUuid = uuid ∧ row.lock = lockState ∧ row.sessionId = sessionId
  else
    row.objectUuid = uuid ∧ row.lock = lockState

/-- The `update_params`, with the refreshed `created_at`. -/
def updateParams (now : Time) (lockState : Bool) (sessionId : SessionId)
    (row : Row) : Row :=
  { row with
    lock := !lockState
    sessionId := if lockState then 0 else sessionId
    createdAt := some now }

def lockFreeUpdate (now : Time) (uuid : LockId) (lockState : Bool)
    (sessionId : SessionId) (table : Table) : Except DbError Table :=
  if table.any (searchParams uuid lockState sessionId) then
    .ok (table.map fun row =>
      if searchParams uuid lockState sessionId row then
        updateParams now lockState sessionId row
      else row)
  else
    .error .retryRequest

/-- The uuid is the primary key. -/
def createDbRow (uuid : LockId) (table : Table) : Except DbError Table :=
  if table.any fun row => row.objectUuid = uuid then
    .error .duplicateEntry
  else
    .ok (⟨uuid, false, 0, none⟩ :: table)

/-- `timeutils.is_older_than` -/
def isOlderThan (now createdAt : Time) (seconds : Nat) : Bool :=
  createdAt + seconds < now

/-! ## One call of the lock -/

/-- What happened to the locks. A history: no statement reads it. -/
inductive Event
  | acquired (uuid : LockId) (session : SessionId)
  | released (uuid : LockId) (session : SessionId)
  | reset (uuid : LockId) (session : SessionId)
  deriving DecidableEq, Repr

structure Database where
  table : Table
  now : Time
  /-- The session ids that were drawn so far. -/
  issued : List SessionId
  /-- Newest first. -/
  log : List Event
  deriving DecidableEq, Repr

/-- Where a call of `lock` stands. -/
inductive Phase
  /-- `_test_and_create_object` is about to read the row. -/
  | testing
  /-- It has read an expired row of this session. -/
  | resetting (session : SessionId)
  /-- It has found no row. -/
  | creating
  | acquiring
  | holding (session : SessionId)
  | releasing (session : SessionId)
  | released
  | raised
  deriving DecidableEq, Repr

inductive Statement
  | read
  | reset
  | insert
  | acquire (session : SessionId)
  | release
  deriving DecidableEq, Repr

namespace Database

/-- Write the table that an `UPDATE` has left, if it matched a row. -/
def updating (database : Database) (uuid : LockId) (lockState : Bool)
    (session : SessionId) (event : Event) : Except DbError Database := do
  let table ← lockFreeUpdate database.now uuid lockState session database.table
  return { database with table, log := event :: database.log }

/-- Draw a session id that nobody else has drawn. -/
def issue (database : Database) (session : SessionId) : Database :=
  { database with issued := session :: database.issued }

/-- The read of `_test_and_create_object` decides what comes next. -/
def afterRead (database : Database) (ttl : Nat) (uuid : LockId) : Phase :=
  match database.table.one uuid with
  | .error .noResultFound => .creating
  | .error _ => .raised
  | .ok row =>
      if row.lock then
        match row.createdAt with
        | none => .raised
        | some createdAt =>
            if isOlderThan database.now createdAt ttl then
              .resetting row.sessionId
            else .acquiring
      else .acquiring

/-- Execute one statement. `RetryRequest` starts the function over, so a new
attempt to acquire draws a new session id. -/
def execute (database : Database) (ttl : Nat) (uuid : LockId) :
    Phase → Statement → Option (Phase × Database)
  | .testing, .read => some (database.afterRead ttl uuid, database)
  | .resetting session, .reset =>
      match database.updating uuid true session (.reset uuid session) with
      | .ok after => some (.acquiring, after)
      | .error _ => some (.testing, database)
  | .creating, .insert =>
      match createDbRow uuid database.table with
      | .ok table => some (.acquiring, { database with table })
      -- The lock is concurrently created.
      | .error _ => some (.acquiring, database)
  | .acquiring, .acquire session =>
      if session ∈ database.issued then none
      else
        match (database.issue session).updating uuid false session
          (.acquired uuid session) with
        | .ok after => some (.holding session, after)
        | .error _ => some (.acquiring, database.issue session)
  | .releasing session, .release =>
      match database.updating uuid true session (.released uuid session) with
      | .ok after => some (.released, after)
      | .error _ => some (.releasing session, database)
  | _, _ => none

end Database

end Dragonflow.LockedObjects
