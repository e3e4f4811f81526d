import Dragonflow.Db.ModelFramework
import Dragonflow.Foundation.Dict
import Dragonflow.Foundation.Program

/-! # The monitor of a table

`TableMonitor` and `StalePublisherMonitor` of `dragonflow/db/pub_sub_api.py`. A poll
compares a table with the last poll and publishes the changes.
-/

namespace Dragonflow

open Program

/-- The action of a `DbUpdate`. -/
inductive DbAction
  | create
  | set
  | delete
  deriving DecidableEq, Repr

/-- `DbUpdate` of the table that is monitored. -/
structure DbUpdate (κ ν : Type) where
  key : κ
  action : DbAction
  value : Option ν
  deriving DecidableEq, Repr

/-- What `get_all_keys` returns, with what `get_key` then does for every key. -/
abbrev TableReads (κ ν : Type) := List (κ × Except PyError (Option ν))

/-- The monitor, with what it has published and what it has deleted from the table. -/
structure TableMonitor (κ ν : Type) where
  cache : Dict κ ν := ∅
  published : List (DbUpdate κ ν) := []
  deleted : List κ := []

namespace TableMonitor

variable {κ ν : Type} [DecidableEq κ] [DecidableEq ν]

abbrev Action (κ ν β : Type) := Program (TableMonitor κ ν) PyError β

/-- `_send_event` -/
def sendEvent (action : DbAction) (key : κ) (value : Option ν) : Action κ ν Unit :=
  modify fun monitor => { monitor with published := monitor.published ++ [⟨key, action, value⟩] }

/-- The first loop of `_poll_once`. The old cache is the one of the monitor, so that what
is taken from it stays away when a read raises. -/
def pollEntries : TableReads κ ν → Dict κ ν → Action κ ν (Dict κ ν)
  | [], newCache => pure newCache
  | (entryKey, read) :: reads, newCache => do
      match ← Program.ofExcept read with
      | none => pollEntries reads newCache
      | some entryValue =>
          let monitor ← get
          let oldValue := monitor.cache.lookup entryKey
          modify fun monitor => { monitor with cache := monitor.cache.erase entryKey }
          match oldValue with
          | none => sendEvent .create entryKey (some entryValue)
          | some oldValue =>
              if oldValue ≠ entryValue then sendEvent .set entryKey (some entryValue)
              else pure ()
          pollEntries reads (newCache.insert entryKey entryValue)

/-- `_poll_once` -/
def pollOnce (reads : TableReads κ ν) : Action κ ν (Dict κ ν) := do
  let newCache ← pollEntries reads ∅
  let monitor ← get
  forM monitor.cache.keys fun entryKey => sendEvent .delete entryKey none
  return newCache

/-- A publisher, as the monitor of publishers sees it. -/
structure PublisherEntry where
  id : String
  lastActivityTimestamp : Int

/-- The settings of a `StalePublisherMonitor`, and how it decodes a value. -/
structure StaleSettings (ν : Type) where
  uuid : String
  timeout : Int
  loads : ν → Except PyError PublisherEntry

/-- The loop of `StalePublisherMonitor._poll_once`. Publishers that are gone already when
they are deleted are ignored. -/
def scanPublishers (settings : StaleSettings ν) (now : Int) :
    TableReads κ ν → Action κ ν Unit
  | [] => pure ()
  | (entryKey, read) :: reads => do
      match ← Program.ofExcept read with
      | none => scanPublishers settings now reads
      | some publisherJson =>
          let publisher ← Program.ofExcept (settings.loads publisherJson)
          if publisher.id ≠ settings.uuid ∧
              publisher.lastActivityTimestamp < now - settings.timeout then
            modify fun monitor => { monitor with deleted := monitor.deleted ++ [entryKey] }
          scanPublishers settings now reads

/-- The two classes. -/
inductive Kind (ν : Type)
  | table
  | stalePublisher (settings : StaleSettings ν)

/-- What the driver answers during a poll. -/
structure Poll (κ ν : Type) where
  now : Int := 0
  scanned : TableReads κ ν := []
  reads : TableReads κ ν

/-- `run` -/
def run (kind : Kind ν) (poll : Poll κ ν) : Action κ ν Unit := do
  match kind with
  | .table => pure ()
  | .stalePublisher settings => scanPublishers settings poll.now poll.scanned
  let newCache ← pollOnce poll.reads
  modify fun monitor => { monitor with cache := newCache }

end TableMonitor

end Dragonflow
