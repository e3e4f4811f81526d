import Dragonflow.Db.TableMonitor
import Dragonflow.Foundation.Writes
import Mathlib.Data.List.Induction

/-! # The change log of a table

Who replays what the monitor has published has the table as it was read last, unless an
aborted poll has taken keys from the cache that the next one does not find.
-/

namespace Dragonflow

open Program

namespace TableMonitor

variable {κ ν : Type} [DecidableEq κ] [DecidableEq ν]

/-! ## What a poll reads and publishes -/

/-- The value that a poll reads for a key before it is aborted. -/
def valueRead : TableReads κ ν → κ → Option ν
  | [], _ => none
  | (_, .error _) :: _, _ => none
  | (_, .ok none) :: reads, key => valueRead reads key
  | (entryKey, .ok (some value)) :: reads, key =>
      if key = entryKey then some value else valueRead reads key

/-- No read raises. -/
def completes (reads : TableReads κ ν) : Bool := reads.all fun entry => entry.2.toBool

/-- The write that a subscriber makes. -/
def DbUpdate.write (update : DbUpdate κ ν) : Write κ ν :=
  ⟨update.key, match update.action with
    | .create | .set => update.value
    | .delete => none⟩

/-- The map that a subscriber has, who started with an empty one. -/
def replay (published : List (DbUpdate κ ν)) : κ → Option ν :=
  Write.applyAll (fun _ => none) (published.map DbUpdate.write)

omit [DecidableEq ν] in
theorem replay_append (published added : List (DbUpdate κ ν)) :
    replay (published ++ added) =
      Write.applyAll (replay published) (added.map DbUpdate.write) := by
  unfold replay
  rw [List.map_append, Write.applyAll_append]

omit [DecidableEq ν] in
theorem valueRead_of_not_mem {reads : TableReads κ ν} {key : κ}
    (absent : key ∉ reads.map Prod.fst) : valueRead reads key = none := by
  induction reads with
  | nil => rfl
  | cons entry reads induction =>
      rw [List.map_cons, List.mem_cons, not_or] at absent
      rcases entry with ⟨entryKey, error | value⟩
      · rfl
      · cases value with
        | none => exact induction absent.2
        | some value =>
            unfold valueRead
            rw [if_neg absent.1]
            exact induction absent.2

variable {monitor before after : TableMonitor κ ν} {reads : TableReads κ ν}
  {newCache : Dict κ ν}

/-- What the poll publishes for one key. -/
def change (cache : Dict κ ν) (key : κ) (value : ν) : List (DbUpdate κ ν) :=
  match cache.lookup key with
  | none => [⟨key, .create, some value⟩]
  | some old => if old ≠ value then [⟨key, .set, some value⟩] else []

/-- The monitor after one key. -/
def takeEntry (monitor : TableMonitor κ ν) (key : κ) (value : ν) : TableMonitor κ ν :=
  { monitor with
    cache := monitor.cache.erase key
    published := monitor.published ++ change monitor.cache key value }

theorem exec_pollEntries_value (key : κ) (value : ν) :
    exec (pollEntries ((key, .ok (some value)) :: reads) newCache) monitor =
      exec (pollEntries reads (newCache.insert key value)) (monitor.takeEntry key value) := by
  unfold takeEntry change
  rw [pollEntries]
  simp only [Program.ofExcept, pure_bind, exec_bind, exec_get, exec_modify]
  cases monitor.cache.lookup key with
  | none => rfl
  | some old =>
      by_cases different : old ≠ value
      · simp only [if_pos different]
        rfl
      · simp only [if_neg different, List.append_nil]

/-- The subscriber has what is in the cache. -/
def Agrees (monitor : TableMonitor κ ν) : Prop :=
  ∀ key value, monitor.cache.lookup key = some value →
    replay monitor.published key = some value

/-- What reading some keys does to the monitor. -/
structure Polled (reads : TableReads κ ν) (before after : TableMonitor κ ν)
    (added : List (DbUpdate κ ν)) : Prop where
  published : after.published = before.published ++ added
  keys : (added.map DbUpdate.key).Sublist (reads.map Prod.fst)
  read : ∀ update ∈ added, valueRead reads update.key ≠ none
  cache : ∀ key, after.cache.lookup key =
    if valueRead reads key = none then before.cache.lookup key else none
  replayed : before.Agrees → ∀ key, replay after.published key =
    (valueRead reads key).or (replay before.published key)

omit [DecidableEq ν] in
theorem polled_unchanged (noValue : ∀ key, valueRead reads key = none) :
    Polled reads before before [] where
  published := (List.append_nil _).symm
  keys := List.nil_sublist _
  read _ impossible := by cases impossible
  cache key := by rw [if_pos (noValue key)]
  replayed _ key := by rw [noValue key, Option.none_or]

theorem lookup_takeEntry (key other : κ) (value : ν) :
    (monitor.takeEntry key value).cache.lookup other =
      if other = key then none else monitor.cache.lookup other :=
  Dict.lookup_erase_eq _ _ _

theorem change_key (cache : Dict κ ν) (key : κ) (value : ν) :
    ∀ update ∈ change cache key value,
      update.key = key ∧ DbUpdate.write update = ⟨key, some value⟩ := by
  intro update member
  unfold change at member
  split at member
  · rw [List.mem_singleton] at member
    rw [member]
    exact ⟨rfl, rfl⟩
  · split at member
    · rw [List.mem_singleton] at member
      rw [member]
      exact ⟨rfl, rfl⟩
    · cases member

theorem replay_takeEntry (agrees : monitor.Agrees) (key other : κ) (value : ν) :
    replay (monitor.takeEntry key value).published other =
      if other = key then some value else replay monitor.published other := by
  unfold takeEntry
  simp only
  rw [replay_append]
  have writes : ∀ write ∈ (change monitor.cache key value).map DbUpdate.write,
      write = ⟨key, some value⟩ := by
    intro write member
    rcases List.mem_map.mp member with ⟨update, isUpdate, rfl⟩
    exact (change_key _ _ _ update isUpdate).2
  split
  · next same =>
      rw [same]
      by_cases touched : Write.Touch ((change monitor.cache key value).map DbUpdate.write) key
      · exact Write.applyAll_agreed touched fun write member _ => by rw [writes write member]
      · -- nothing is published for a key that has kept its value
        rw [Write.applyAll_untouched touched]
        refine agrees key value ?_
        unfold change at touched
        cases found : monitor.cache.lookup key with
        | none =>
            rw [found] at touched
            exact absurd ⟨_, List.mem_cons_self, rfl⟩ touched
        | some old =>
            by_cases different : old ≠ value
            · rw [found] at touched
              simp only [if_pos different] at touched
              exact absurd ⟨_, List.mem_cons_self, rfl⟩ touched
            · rw [not_not.mp different]
  · next different =>
      refine Write.applyAll_untouched ?_
      rintro ⟨write, member, isKey⟩
      rw [writes write member] at isKey
      exact different isKey.symm

theorem Agrees.takeEntry (agrees : monitor.Agrees) (key : κ) (value : ν) :
    (monitor.takeEntry key value).Agrees := by
  intro other found isFound
  rw [lookup_takeEntry] at isFound
  rw [replay_takeEntry agrees]
  split at isFound
  · cases isFound
  · next different =>
      rw [if_neg different]
      exact agrees other found isFound

/-- One more key before the others. -/
theorem Polled.cons {key : κ} {value : ν} {added : List (DbUpdate κ ν)}
    (isNew : key ∉ reads.map Prod.fst)
    (polled : Polled reads (before.takeEntry key value) after added) :
    Polled ((key, .ok (some value)) :: reads) before after
      (change before.cache key value ++ added) where
  published := by
    rw [polled.published, ← List.append_assoc]
    rfl
  keys := by
    have fewer : ((change before.cache key value).map DbUpdate.key).Sublist [key] := by
      unfold change
      split
      · exact List.Sublist.refl _
      · split
        · exact List.Sublist.refl _
        · exact List.nil_sublist _
    rw [List.map_append, List.map_cons]
    exact fewer.append polled.keys
  read update member := by
    unfold valueRead
    rcases List.mem_append.mp member with isFirst | isLater
    · rw [if_pos (change_key _ _ _ update isFirst).1]
      exact Option.some_ne_none _
    · split
      · exact Option.some_ne_none _
      · exact polled.read update isLater
  cache other := by
    rw [polled.cache other, lookup_takeEntry, valueRead]
    by_cases same : other = key
    · rw [if_pos same, if_pos same, same, valueRead_of_not_mem isNew]
      rfl
    · rw [if_neg same, if_neg same]
  replayed agrees other := by
    rw [polled.replayed (agrees.takeEntry key value), replay_takeEntry agrees, valueRead]
    by_cases same : other = key
    · rw [if_pos same, if_pos same, same, valueRead_of_not_mem isNew]
      rfl
    · rw [if_neg same, if_neg same]

/-- The first loop reads keys until one read raises. -/
theorem pollEntries_spec (distinct : (reads.map Prod.fst).Nodup) (newCache : Dict κ ν)
    (before : TableMonitor κ ν) :
    ∃ after added, Polled reads before after added ∧
      ((completes reads = true ∧ ∃ cache : Dict κ ν,
        exec (pollEntries reads newCache) before = (.ok cache, after) ∧
        ∀ key, cache.lookup key = (valueRead reads key).or (newCache.lookup key)) ∨
      (completes reads = false ∧ ∃ error,
        exec (pollEntries reads newCache) before = (.error error, after))) := by
  induction reads generalizing newCache before with
  | nil =>
      exact ⟨before, [], polled_unchanged fun _ => rfl, Or.inl ⟨rfl, newCache, rfl, fun _ => rfl⟩⟩
  | cons entry reads induction =>
      rw [List.map_cons, List.nodup_cons] at distinct
      rcases entry with ⟨key, error | value⟩
      · exact ⟨before, [], polled_unchanged fun _ => rfl, Or.inr ⟨rfl, error, rfl⟩⟩
      · cases value with
        | none =>
            rcases induction distinct.2 newCache before with ⟨after, added, polled, outcome⟩
            refine ⟨after, added, ⟨polled.published, polled.keys.cons _, polled.read,
              polled.cache, polled.replayed⟩, ?_⟩
            exact outcome
        | some value =>
            rcases induction distinct.2 (newCache.insert key value)
              (before.takeEntry key value) with ⟨after, added, polled, outcome⟩
            refine ⟨after, _, polled.cons distinct.1, ?_⟩
            rw [exec_pollEntries_value]
            rcases outcome with ⟨complete, cache, executed, lookups⟩ | raised
            · refine Or.inl ⟨complete, cache, executed, fun other => ?_⟩
              rw [lookups other, Dict.lookup_insert_eq, valueRead]
              by_cases same : other = key
              · rw [if_pos same, if_pos same, same, valueRead_of_not_mem distinct.1]
                rfl
              · rw [if_neg same, if_neg same]
            · exact Or.inr raised

omit [DecidableEq κ] [DecidableEq ν] in
theorem exec_sendDeletes (keys : List κ) (monitor : TableMonitor κ ν) :
    exec (forM keys fun key => (sendEvent .delete key none : Action κ ν Unit)) monitor =
      (.ok ⟨⟩, { monitor with
        published := monitor.published ++ keys.map fun key => ⟨key, .delete, none⟩ }) := by
  induction keys generalizing monitor with
  | nil =>
      rw [List.map_nil, List.append_nil]
      rfl
  | cons key keys induction =>
      have sent : exec (sendEvent .delete key none : Action κ ν Unit) monitor =
          (.ok (), { monitor with
            published := monitor.published ++ [⟨key, .delete, none⟩] }) := rfl
      rw [List.forM_cons, exec_bind_ok sent, induction, List.append_assoc]
      rfl

omit [DecidableEq ν] in
theorem replay_deletes (published : List (DbUpdate κ ν)) (keys : List κ) (key : κ) :
    replay (published ++ keys.map fun key => ⟨key, .delete, none⟩) key =
      if key ∈ keys then none else replay published key := by
  rw [replay_append, List.map_map]
  split
  · next member =>
      refine Write.applyAll_agreed ⟨_, List.mem_map_of_mem member, rfl⟩ ?_
      intro write isWrite _
      rcases List.mem_map.mp isWrite with ⟨other, _, rfl⟩
      rfl
  · next absent =>
      refine Write.applyAll_untouched ?_
      rintro ⟨write, isWrite, isKey⟩
      rcases List.mem_map.mp isWrite with ⟨other, member, rfl⟩
      exact absent (isKey ▸ member)

omit [DecidableEq ν] in
/-- The keys that are left in the old cache are those that are not read. -/
theorem Polled.mem_keys {added : List (DbUpdate κ ν)}
    (polled : Polled reads before after added) (key : κ) :
    key ∈ after.cache.keys ↔ valueRead reads key = none ∧ before.cache.lookup key ≠ none := by
  rw [Dict.mem_keys_iff, polled.cache key]
  by_cases unread : valueRead reads key = none
  · rw [if_pos unread, and_iff_right unread, Option.ne_none_iff_exists']
  · rw [if_neg unread]
    exact iff_of_false (by simp) fun both => unread both.1

omit [DecidableEq ν] in
/-- No key is published twice, as those that are deleted are not read. -/
theorem Polled.distinct {added : List (DbUpdate κ ν)}
    (polled : Polled reads before after added) (distinct : (reads.map Prod.fst).Nodup) :
    ((added ++ after.cache.keys.map fun key => (⟨key, .delete, none⟩ : DbUpdate κ ν)).map
      DbUpdate.key).Nodup := by
  have isKeys : ((after.cache.keys.map fun key => (⟨key, .delete, none⟩ : DbUpdate κ ν)).map
      DbUpdate.key) = after.cache.keys := by
    rw [List.map_map]
    exact List.map_id _
  rw [List.map_append, isKeys]
  refine List.Nodup.append (distinct.sublist polled.keys) after.cache.keys_nodup ?_
  intro key isAdded isLeft
  rcases List.mem_map.mp isAdded with ⟨update, member, rfl⟩
  exact polled.read update member ((polled.mem_keys _).mp isLeft).1

/-- What a poll does, as its subscribers see it. -/
structure Published (read : κ → Option ν) (before after : TableMonitor κ ν)
    (complete : Bool) : Prop where
  added : ∃ added, after.published = before.published ++ added ∧
    (added.map DbUpdate.key).Nodup
  cache : ∀ key, after.cache.lookup key =
    if complete then read key
    else if read key = none then before.cache.lookup key else none
  replayed : before.Agrees → ∀ key, replay after.published key =
    (read key).or
      (if complete = true ∧ before.cache.lookup key ≠ none then none
      else replay before.published key)

/-- `_poll_once`, and the new cache if it is not aborted. -/
theorem pollOnce_spec (distinct : (reads.map Prod.fst).Nodup) (before : TableMonitor κ ν) :
    ∃ after, Published (valueRead reads) before after (completes reads) ∧
      ((completes reads = true ∧ exec (do
          let newCache ← pollOnce reads
          modify fun monitor => { monitor with cache := newCache } : Action κ ν Unit) before =
        (.ok (), after)) ∨
      (completes reads = false ∧ ∃ error, exec (do
          let newCache ← pollOnce reads
          modify fun monitor => { monitor with cache := newCache } : Action κ ν Unit) before =
        (.error error, after))) := by
  rcases pollEntries_spec distinct ∅ before with ⟨middle, added, polled, outcome⟩
  rcases outcome with ⟨complete, cache, executed, lookups⟩ | ⟨aborted, error, executed⟩
  · let deletes : List (DbUpdate κ ν) := middle.cache.keys.map fun key => ⟨key, .delete, none⟩
    refine ⟨{ middle with cache := cache, published := middle.published ++ deletes }, ?_,
      Or.inl ⟨complete, ?_⟩⟩
    · refine ⟨⟨added ++ deletes, ?_, polled.distinct distinct⟩, ?_, ?_⟩
      · simp only [polled.published, List.append_assoc]
      · intro key
        rw [complete, if_pos rfl]
        exact (lookups key).trans Option.or_none
      · intro agrees key
        simp only [complete, true_and, deletes]
        rw [replay_deletes, polled.replayed agrees key]
        by_cases unread : valueRead reads key = none
        · simp only [polled.mem_keys, unread, true_and, Option.none_or]
        · have left : key ∉ middle.cache.keys := fun member =>
            unread ((polled.mem_keys key).mp member).1
          rw [if_neg left]
          rcases Option.ne_none_iff_exists'.mp unread with ⟨value, isValue⟩
          rw [isValue, Option.some_or, Option.some_or]
    · unfold pollOnce
      rw [bind_assoc, exec_bind_ok executed, bind_assoc, exec_bind_ok (exec_get middle),
        bind_assoc, exec_bind_ok (exec_sendDeletes _ _)]
      rfl
  · refine ⟨middle, ⟨⟨added, polled.published, distinct.sublist polled.keys⟩, ?_, ?_⟩,
      Or.inr ⟨aborted, error, ?_⟩⟩
    · intro key
      rw [aborted]
      exact polled.cache key
    · intro agrees key
      rw [aborted]
      exact polled.replayed agrees key
    · unfold pollOnce
      rw [bind_assoc, exec_bind_error executed]

/-! ## Polls of both classes -/

/-- No read of the scan for publishers raises, and all values are decoded. -/
def scanCompletes (settings : StaleSettings ν) (reads : TableReads κ ν) : Bool :=
  reads.all fun entry =>
    match entry.2 with
    | .error _ => false
    | .ok none => true
    | .ok (some publisherJson) => (settings.loads publisherJson).toBool

def Kind.scanCompletes (kind : Kind ν) (poll : Poll κ ν) : Bool :=
  match kind with
  | .table => true
  | .stalePublisher settings => TableMonitor.scanCompletes settings poll.scanned

omit [DecidableEq κ] [DecidableEq ν] in
theorem scanPublishers_spec (settings : StaleSettings ν) (now : Int) (reads : TableReads κ ν)
    (before : TableMonitor κ ν) :
    ∃ after, after.cache = before.cache ∧ after.published = before.published ∧
      ((scanCompletes settings reads = true ∧
        exec (scanPublishers settings now reads) before = (.ok (), after)) ∨
      (scanCompletes settings reads = false ∧ ∃ error,
        exec (scanPublishers settings now reads) before = (.error error, after))) := by
  induction reads generalizing before with
  | nil => exact ⟨before, rfl, rfl, Or.inl ⟨rfl, rfl⟩⟩
  | cons entry reads induction =>
      rcases entry with ⟨key, error | value⟩
      · exact ⟨before, rfl, rfl, Or.inr ⟨rfl, error, rfl⟩⟩
      · cases value with
        | none => exact induction before
        | some publisherJson =>
            unfold scanCompletes
            rw [List.all_cons]
            rw [scanPublishers]
            cases decoded : settings.loads publisherJson with
            | error error =>
                refine ⟨before, rfl, rfl, Or.inr ⟨?_, error, ?_⟩⟩
                · simp [decoded, Except.toBool]
                · simp only [Program.ofExcept, pure_bind, decoded]
                  rfl
            | ok publisher =>
                simp only [Program.ofExcept, pure_bind, decoded, Except.toBool, Bool.true_and]
                split
                · exact induction { before with deleted := before.deleted ++ [key] }
                · exact induction before

/-- The poll is not aborted. -/
def Kind.completes (kind : Kind ν) (poll : Poll κ ν) : Bool :=
  kind.scanCompletes poll && TableMonitor.completes poll.reads

/-- The value that the poll reads for a key. -/
def Kind.read (kind : Kind ν) (poll : Poll κ ν) (key : κ) : Option ν :=
  if kind.scanCompletes poll then valueRead poll.reads key else none

omit [DecidableEq ν] in
theorem Published.of_scanned {middle : TableMonitor κ ν} {read : κ → Option ν}
    {complete : Bool} (published : Published read middle after complete)
    (sameCache : middle.cache = before.cache)
    (samePublished : middle.published = before.published) :
    Published read before after complete where
  added := samePublished ▸ published.added
  cache := sameCache ▸ published.cache
  replayed agrees := by
    have agreesAfter : middle.Agrees := by
      unfold Agrees
      rw [sameCache, samePublished]
      exact agrees
    rw [← sameCache, ← samePublished]
    exact published.replayed agreesAfter

omit [DecidableEq ν] in
theorem published_unchanged {read : κ → Option ν} (noValue : ∀ key, read key = none)
    (sameCache : after.cache = before.cache)
    (samePublished : after.published = before.published) :
    Published read before after false where
  added := ⟨[], by rw [samePublished, List.append_nil], List.nodup_nil⟩
  cache key := by simp [noValue key, sameCache]
  replayed _ key := by simp [noValue key, samePublished]

/-- A poll that is not aborted in the scan for publishers. -/
theorem run_scanned {kind : Kind ν} {poll : Poll κ ν} {middle : TableMonitor κ ν}
    (distinct : (poll.reads.map Prod.fst).Nodup) (scans : kind.scanCompletes poll = true)
    (sameCache : middle.cache = before.cache)
    (samePublished : middle.published = before.published)
    (executed : exec (run kind poll) before = exec (do
      let newCache ← pollOnce poll.reads
      modify fun monitor => { monitor with cache := newCache } : Action κ ν Unit) middle) :
    Published (kind.read poll) before (exec (run kind poll) before).2
        (kind.completes poll) ∧
      ((exec (run kind poll) before).1 = .ok () ↔ kind.completes poll = true) := by
  have isRead : kind.read poll = valueRead poll.reads := by
    funext key
    unfold Kind.read
    rw [if_pos scans]
  have isComplete : kind.completes poll = completes poll.reads := by
    unfold Kind.completes
    rw [scans, Bool.true_and]
  rw [isRead, isComplete, executed]
  rcases pollOnce_spec distinct middle with
    ⟨after, published, ⟨complete, polled⟩ | ⟨aborted, error, polled⟩⟩
  · rw [polled]
    exact ⟨published.of_scanned sameCache samePublished, iff_of_true rfl complete⟩
  · rw [polled]
    refine ⟨published.of_scanned sameCache samePublished, iff_of_false ?_ ?_⟩
    · exact fun impossible => by cases impossible
    · rw [aborted]
      exact Bool.false_ne_true

/-- `run` -/
theorem run_spec (kind : Kind ν) {poll : Poll κ ν}
    (distinct : (poll.reads.map Prod.fst).Nodup) (before : TableMonitor κ ν) :
    Published (kind.read poll) before (exec (run kind poll) before).2
        (kind.completes poll) ∧
      ((exec (run kind poll) before).1 = .ok () ↔ kind.completes poll = true) := by
  cases kind with
  | table => exact run_scanned distinct rfl rfl rfl rfl
  | stalePublisher settings =>
      rcases scanPublishers_spec settings poll.now poll.scanned before with
        ⟨middle, sameCache, samePublished, ⟨scans, scanned⟩ | ⟨aborted, error, scanned⟩⟩
      · refine run_scanned distinct scans sameCache samePublished ?_
        unfold run
        exact exec_bind_ok scanned
      · have executed : exec (run (.stalePublisher settings) poll) before =
            (.error error, middle) := by
          unfold run
          exact exec_bind_error scanned
        have scanAborted : Kind.scanCompletes (.stalePublisher settings) poll = false :=
          aborted
        have isAborted : Kind.completes (.stalePublisher settings) poll = false := by
          unfold Kind.completes
          rw [scanAborted, Bool.false_and]
        rw [executed, isAborted]
        refine ⟨published_unchanged (fun key => ?_) sameCache samePublished,
          iff_of_false (fun impossible => by cases impossible) Bool.false_ne_true⟩
        unfold Kind.read
        rw [scanAborted]
        rfl

/-! ## Sequences of polls -/

/-- The monitor after polls, some of which may have been aborted. -/
def runAll (kind : Kind ν) (polls : List (Poll κ ν)) : TableMonitor κ ν :=
  polls.foldl (fun monitor poll => (exec (run kind poll) monitor).2) {}

theorem runAll_append (kind : Kind ν) (polls : List (Poll κ ν)) (poll : Poll κ ν) :
    runAll kind (polls ++ [poll]) = (exec (run kind poll) (runAll kind polls)).2 :=
  List.foldl_concat _ _ _ _

/-- The keys that aborted polls have read, and no completed poll after them. -/
def lostAfter (kind : Kind ν) (lost : List κ) (poll : Poll κ ν) : List κ :=
  if kind.completes poll then lost.filter fun key => kind.read poll key = none
  else lost ++ (poll.reads.map Prod.fst).filter fun key => kind.read poll key ≠ none

def lost (kind : Kind ν) (polls : List (Poll κ ν)) : List κ :=
  polls.foldl (lostAfter kind) []

/-- The subscriber has the cache, and the keys that were lost. -/
structure Tracks (lost : List κ) (monitor : TableMonitor κ ν) : Prop where
  kept : ∀ key, key ∉ lost → replay monitor.published key = monitor.cache.lookup key
  stale : ∀ key ∈ lost, monitor.cache.lookup key = none ∧
    replay monitor.published key ≠ none

omit [DecidableEq ν] in
theorem Tracks.agrees {lost : List κ} (tracks : Tracks lost monitor) : monitor.Agrees := by
  intro key value found
  by_cases isLost : key ∈ lost
  · rw [(tracks.stale key isLost).1] at found
    cases found
  · rw [tracks.kept key isLost, found]

omit [DecidableEq ν] in
theorem read_mem {kind : Kind ν} {poll : Poll κ ν} {key : κ}
    (isRead : kind.read poll key ≠ none) : key ∈ poll.reads.map Prod.fst := by
  by_contra absent
  refine isRead ?_
  unfold Kind.read
  rw [valueRead_of_not_mem absent, ite_self]

omit [DecidableEq ν] in
theorem mem_lostAfter {kind : Kind ν} {poll : Poll κ ν} {lost : List κ} {key : κ} :
    key ∈ lostAfter kind lost poll ↔
      if kind.completes poll then key ∈ lost ∧ kind.read poll key = none
      else key ∈ lost ∨ kind.read poll key ≠ none := by
  unfold lostAfter
  split
  · rw [List.mem_filter, decide_eq_true_eq]
  · rw [List.mem_append, List.mem_filter, decide_eq_true_eq]
    exact or_congr_right (and_iff_right_of_imp read_mem)

omit [DecidableEq ν] in
/-- What a poll makes of the keys that were lost. -/
theorem Tracks.published {kind : Kind ν} {poll : Poll κ ν} {lost : List κ}
    (tracks : Tracks lost before)
    (published : Published (kind.read poll) before after (kind.completes poll)) :
    Tracks (lostAfter kind lost poll) after := by
  have replayed := published.replayed tracks.agrees
  have cache := published.cache
  constructor
  · intro key isKept
    rw [mem_lostAfter] at isKept
    rw [replayed key, cache key]
    cases isRead : kind.read poll key with
    | some value =>
        cases complete : kind.completes poll with
        | true => rfl
        | false => exact absurd (by simp [complete, isRead]) isKept
    | none =>
        have notLost : key ∉ lost := by
          intro isLost
          cases complete : kind.completes poll with
          | true => exact isKept (by simp [complete, isLost, isRead])
          | false => exact isKept (by simp [complete, isLost])
        rw [tracks.kept key notLost]
        cases kind.completes poll with
        | false => rfl
        | true =>
            cases before.cache.lookup key with
            | none => rfl
            | some value => rfl
  · intro key isLost
    rw [mem_lostAfter] at isLost
    rw [replayed key, cache key]
    cases isRead : kind.read poll key with
    | some value =>
        cases complete : kind.completes poll with
        | true => exact absurd isLost (by simp [complete, isRead])
        | false => exact ⟨rfl, Option.some_ne_none _⟩
    | none =>
        have wasLost : key ∈ lost := by
          cases complete : kind.completes poll with
          | true => exact (by simpa [complete] using isLost : key ∈ lost ∧ _).1
          | false => simpa [complete, isRead] using isLost
        rcases tracks.stale key wasLost with ⟨absent, isStale⟩
        rw [absent]
        cases kind.completes poll with
        | true => exact ⟨rfl, isStale⟩
        | false => exact ⟨rfl, isStale⟩

theorem tracks_runAll (kind : Kind ν) (polls : List (Poll κ ν))
    (distinct : ∀ poll ∈ polls, (poll.reads.map Prod.fst).Nodup) :
    Tracks (lost kind polls) (runAll kind polls) := by
  induction polls using List.reverseRecOn with
  | nil => exact ⟨fun _ _ => rfl, fun _ impossible => by cases impossible⟩
  | append_singleton polls poll induction =>
      have tracks := induction fun other member =>
        distinct other (List.mem_append_left _ member)
      have isDistinct := distinct poll (List.mem_append_right _ List.mem_cons_self)
      rw [runAll_append]
      unfold lost at tracks ⊢
      rw [List.foldl_concat]
      exact tracks.published (run_spec kind isDistinct _).1

/-- A poll publishes at most one event for a key, and when it is not aborted, the
subscriber has what it has read. -/
def Faithful (kind : Kind ν) (before : List (Poll κ ν)) (poll : Poll κ ν) : Prop :=
  (∃ added, (runAll kind (before ++ [poll])).published =
      (runAll kind before).published ++ added ∧ (added.map DbUpdate.key).Nodup) ∧
    ((exec (run kind poll) (runAll kind before)).1 = .ok () →
      ∀ key, replay (runAll kind (before ++ [poll])).published key =
        valueRead poll.reads key)

theorem faithful_iff (kind : Kind ν) {before : List (Poll κ ν)} {poll : Poll κ ν}
    (distinct : ∀ other ∈ before, (other.reads.map Prod.fst).Nodup)
    (isDistinct : (poll.reads.map Prod.fst).Nodup) :
    Faithful kind before poll ↔ (kind.completes poll = true →
      ∀ key ∈ lost kind before, valueRead poll.reads key ≠ none) := by
  have tracks := tracks_runAll kind before distinct
  rcases run_spec kind isDistinct (runAll kind before) with ⟨published, isComplete⟩
  unfold Faithful
  rw [isComplete, runAll_append, and_iff_right published.added]
  refine imp_congr_right fun complete => ?_
  have isRead : kind.read poll = valueRead poll.reads := by
    funext key
    unfold Kind.completes at complete
    unfold Kind.read
    rw [if_pos (Bool.and_eq_true_iff.mp complete).1]
  have replayed := published.replayed tracks.agrees
  rw [isRead, complete] at replayed
  constructor
  · intro faithful key isLost unread
    rcases tracks.stale key isLost with ⟨absent, isStale⟩
    have same := (replayed key).symm.trans (faithful key)
    rw [unread, absent] at same
    exact isStale (by simpa using same)
  · intro found key
    have after := tracks.published published
    have notLost : key ∉ lostAfter kind (lost kind before) poll := by
      rw [mem_lostAfter, if_pos complete, isRead]
      exact fun both => found key both.1 both.2
    rw [after.kept key notLost, published.cache key, complete, if_pos rfl, isRead]

/-- Two keys are read, and the second one vanishes in the next poll. -/
def abortedPolls : List (Poll String String) :=
  [{ reads := [("a", .ok (some "1")), ("b", .ok (some "1"))] },
    { reads := [("a", .ok (some "1")), ("b", .error .dbKeyNotFound)] }]

/-- The first key is gone after the aborted poll, and nobody is told. -/
theorem change_log_misses_delete :
    ¬ Faithful .table abortedPolls { reads := [("b", .ok (some "1"))] } := by
  intro faithful
  have stale := faithful.2 (by decide +kernel) "a"
  have isStale : replay (runAll .table (abortedPolls ++
      [{ reads := [("b", .ok (some "1"))] }])).published "a" = some "1" := by decide +kernel
  rw [isStale] at stale
  cases stale

/-- In every sequence of polls, the log is faithful exactly when every poll that is not
aborted reads the keys again that aborted polls before it have read. -/
theorem change_log_faithful_iff (kind : Kind ν) (polls : List (Poll κ ν))
    (distinct : ∀ poll ∈ polls, (poll.reads.map Prod.fst).Nodup) :
    (∀ before poll after, polls = before ++ poll :: after → Faithful kind before poll) ↔
      ∀ before poll after, polls = before ++ poll :: after →
        kind.completes poll = true →
        ∀ key ∈ lost kind before, valueRead poll.reads key ≠ none := by
  refine forall_congr' fun before => forall_congr' fun poll => forall_congr' fun after =>
    forall_congr' fun split => ?_
  refine faithful_iff kind (fun other member => distinct other ?_) (distinct poll ?_)
  · rw [split]
    exact List.mem_append_left _ member
  · rw [split]
    exact List.mem_append_right _ List.mem_cons_self

/-- The first key is still there after the aborted poll. -/
theorem change_log_faithful_iff_found :
    Faithful .table abortedPolls
      { reads := [("a", .ok (some "2")), ("b", .ok (some "1"))] } := by
  refine (change_log_faithful_iff .table (abortedPolls ++
    [{ reads := [("a", .ok (some "2")), ("b", .ok (some "1"))] }]) (by decide)).mpr ?_ _ _ []
    rfl
  intro before poll after split complete key isLost
  have short := congrArg List.length split
  rw [List.length_append, List.length_append, List.length_cons] at short
  rcases before with _ | ⟨first, _ | ⟨second, _ | ⟨third, rest⟩⟩⟩
  · cases isLost
  · cases split
    cases isLost
  · cases split
    have isKey : key ∈ ["a"] := isLost
    rw [List.mem_singleton.mp isKey]
    decide
  · simp [abortedPolls] at short
    omega

end TableMonitor

end Dragonflow
