import Dragonflow.Db.ModelFramework
import Dragonflow.Foundation.BinaryHeap
import Dragonflow.Foundation.Steps
import Mathlib.Data.Prod.Lex
import Mathlib.Data.String.Basic

/-! # The queue of updates

`dragonflow/db/db_common.py` gives updates a priority, and `process_changes` of
`dragonflow/controller/df_local_controller.py` takes them from a priority queue. Earlier
timestamps go first. Among equal ones the keys decide, which says nothing about updates of
one object, and control events have no key.
-/

namespace Dragonflow

open BinaryHeap

namespace UpdateQueue

/-- The fields of a `DbUpdate` that its priority depends on, and the action. -/
structure DbUpdate where
  table : Option String
  key : Option String
  action : String
  timestamp : Nat
  deriving DecidableEq, Repr

/-- An update in the queue, and how many were put before it. -/
structure Queued extends DbUpdate where
  number : Nat
  deriving DecidableEq, Repr

/-- `__lt__`. Comparing with `None` raises. -/
def lt (update other : Queued) : Except PyError Bool :=
  if update.timestamp ≠ other.timestamp then
    .ok (decide (update.timestamp < other.timestamp))
  else
    match update.key, other.key with
    | some key, some otherKey => .ok (decide (key < otherKey))
    | _, _ => .error .typeError

/-- `queue.PriorityQueue` with the updates that it has handed out, oldest first. -/
structure PriorityQueue where
  heap : List Queued := []
  puts : Nat := 0
  taken : List Queued := []

inductive Operation
  | put (update : DbUpdate)
  | get
  deriving DecidableEq, Repr

/-- One operation, unless a comparison raises. Getting from an empty queue waits. -/
def step (queue : PriorityQueue) : Operation → Option PriorityQueue
  | .put update =>
      match heappush lt queue.heap ⟨update, queue.puts⟩ with
      | .error _ => none
      | .ok heap => some { queue with heap, puts := queue.puts + 1 }
  | .get =>
      match heappop lt queue.heap with
      | .error _ => none
      | .ok none => some queue
      | .ok (some (first, heap)) =>
          some { queue with heap, taken := queue.taken ++ [first] }

/-- The updates that are put, in their order. -/
def putsOf (operations : List Operation) : List DbUpdate :=
  operations.filterMap fun operation =>
    match operation with
    | .put update => some update
    | .get => none

/-- Two updates of one object, put one after the other. -/
def Precedes (first second : Queued) : Prop :=
  first.table = second.table ∧ first.key = second.key ∧ first.number < second.number

instance (first second : Queued) : Decidable (Precedes first second) :=
  inferInstanceAs (Decidable (_ ∧ _ ∧ _))

/-- Nothing was taken before an update that precedes it. -/
def Ordered (precedes : Queued → Queued → Prop) (queue : PriorityQueue) : Prop :=
  (queue.taken.Pairwise fun first second => ¬ precedes second first) ∧
    ∀ taken ∈ queue.taken, ∀ waiting ∈ queue.heap, ¬ precedes waiting taken

instance (precedes : Queued → Queued → Prop) [DecidableRel precedes] (queue : PriorityQueue) :
    Decidable (Ordered precedes queue) :=
  inferInstanceAs (Decidable (_ ∧ _))

/-- An update is put where it can be compared with those that wait. -/
def HasKeys (queue : PriorityQueue) : Operation → Prop
  | .put update => ∀ waiting ∈ queue.heap, waiting.timestamp = update.timestamp →
      waiting.key ≠ none ∧ update.key ≠ none
  | .get => True

instance (queue : PriorityQueue) (operation : Operation) :
    Decidable (HasKeys queue operation) :=
  match operation with
  | .put _ => inferInstanceAs (Decidable (∀ _ ∈ _, _ → _ ∧ _))
  | .get => isTrue trivial

/-! ## Ranks -/

/-- By timestamps, and then by keys. -/
def rank (update : Queued) : Nat ×ₗ String :=
  toLex (update.timestamp, update.key.getD "")

theorem rank_lt_iff {update other : Queued} :
    rank update < rank other ↔ update.timestamp < other.timestamp ∨
      update.timestamp = other.timestamp ∧ update.key.getD "" < other.key.getD "" :=
  Prod.Lex.toLex_lt_toLex

theorem timestamp_le_of_rank_le {update other : Queued} (before : rank update ≤ rank other) :
    update.timestamp ≤ other.timestamp := by
  rcases Prod.Lex.toLex_le_toLex.mp before with less | same
  · exact le_of_lt less
  · exact le_of_eq same.1

theorem compares {update other : Queued}
    (haveKeys : update.timestamp = other.timestamp → update.key ≠ none ∧ other.key ≠ none) :
    Compares lt rank update other := by
  unfold Compares lt
  by_cases same : update.timestamp = other.timestamp
  · rcases haveKeys same with ⟨hasKey, otherHasKey⟩
    rcases Option.ne_none_iff_exists'.mp hasKey with ⟨key, isKey⟩
    rcases Option.ne_none_iff_exists'.mp otherHasKey with ⟨otherKey, isOtherKey⟩
    have sameOrder : rank update < rank other ↔ key < otherKey := by
      rw [rank_lt_iff, isKey, isOtherKey]
      simp [same]
    rw [if_neg (not_not_intro same), isKey, isOtherKey]
    dsimp only
    congr 1
    exact decide_eq_decide.mpr sameOrder.symm
  · have sameOrder : rank update < rank other ↔ update.timestamp < other.timestamp := by
      rw [rank_lt_iff]
      simp [same]
    rw [if_pos same]
    congr 1
    exact decide_eq_decide.mpr sameOrder.symm

/-! ## Runs -/

structure Sound (queue : PriorityQueue) : Prop where
  isHeap : IsHeap rank queue.heap
  comparable : Comparable lt rank queue.heap
  rising : ∀ first ∈ queue.taken ++ queue.heap, ∀ second ∈ queue.taken ++ queue.heap,
    first.number < second.number → first.timestamp ≤ second.timestamp
  numbered : ∀ update ∈ queue.taken ++ queue.heap, update.number < queue.puts
  sorted : queue.taken.Pairwise fun first second => first.timestamp ≤ second.timestamp
  first : ∀ taken ∈ queue.taken, ∀ waiting ∈ queue.heap, taken.timestamp ≤ waiting.timestamp

variable {queue : PriorityQueue}

theorem Sound.put (sound : Sound queue) (update : DbUpdate)
    (late : ∀ earlier ∈ queue.taken ++ queue.heap, earlier.timestamp ≤ update.timestamp)
    (hasKeys : HasKeys queue (.put update)) :
    ∃ after, step queue (.put update) = some after ∧ Sound after ∧
      ∀ queued ∈ after.taken ++ after.heap,
        queued ∈ queue.taken ++ queue.heap ∨ queued.toDbUpdate = update := by
  have comparable : Comparable lt rank (queue.heap ++ [⟨update, queue.puts⟩]) := by
    apply List.pairwise_append.mpr
    refine ⟨sound.comparable, List.pairwise_singleton _ _, ?_⟩
    intro waiting isWaiting item isItem
    rw [List.mem_singleton] at isItem
    subst isItem
    constructor
    · exact compares (hasKeys waiting isWaiting)
    · apply compares
      intro same
      exact (hasKeys waiting isWaiting same.symm).symm
  rcases sound.isHeap.push comparable with ⟨heap, pushed, perm, isHeap⟩
  have members : ∀ queued ∈ queue.taken ++ heap,
      queued ∈ queue.taken ++ queue.heap ∨ queued = ⟨update, queue.puts⟩ := by
    intro queued member
    rcases List.mem_append.mp member with isTaken | isWaiting
    · exact Or.inl (List.mem_append_left _ isTaken)
    · rcases List.mem_cons.mp (perm.subset isWaiting) with isNew | isOld
      · exact Or.inr isNew
      · exact Or.inl (List.mem_append_right _ isOld)
  refine ⟨{ queue with heap, puts := queue.puts + 1 }, ?_, ?_, ?_⟩
  · unfold step
    dsimp only
    rw [pushed]
  · constructor
    · exact isHeap
    · exact comparable.perm (perm.trans (List.perm_append_singleton _ _).symm)
    · intro first isFirst second isSecond less
      rcases members first isFirst with oldFirst | newFirst
      · rcases members second isSecond with oldSecond | newSecond
        · exact sound.rising first oldFirst second oldSecond less
        · subst newSecond
          exact late first oldFirst
      · subst newFirst
        rcases members second isSecond with oldSecond | newSecond
        · exact absurd (sound.numbered second oldSecond) (Nat.not_lt.mpr (le_of_lt less))
        · subst newSecond
          exact le_refl _
    · intro queued member
      rcases members queued member with isOld | isNew
      · exact Nat.lt_succ_of_lt (sound.numbered queued isOld)
      · subst isNew
        exact Nat.lt_succ_self _
    · exact sound.sorted
    · intro taken isTaken waiting isWaiting
      rcases List.mem_cons.mp (perm.subset isWaiting) with isNew | isOld
      · subst isNew
        exact late taken (List.mem_append_left _ isTaken)
      · exact sound.first taken isTaken waiting isOld
  · intro queued member
    rcases members queued member with isOld | isNew
    · exact Or.inl isOld
    · subst isNew
      exact Or.inr rfl

theorem Sound.get (sound : Sound queue) :
    ∃ after, step queue .get = some after ∧ Sound after ∧
      ∀ queued ∈ after.taken ++ after.heap, queued ∈ queue.taken ++ queue.heap := by
  rcases sound.isHeap.pop sound.comparable with
    ⟨_, waits⟩ | ⟨first, heap, popped, perm, isHeap, least⟩
  · refine ⟨queue, ?_, sound, fun _ member => member⟩
    unfold step
    dsimp only
    rw [waits]
  · have members : ∀ queued ∈ queue.taken ++ [first] ++ heap,
        queued ∈ queue.taken ++ queue.heap := by
      intro queued member
      rw [List.append_assoc] at member
      rcases List.mem_append.mp member with isTaken | isRest
      · exact List.mem_append_left _ isTaken
      · exact List.mem_append_right _ (perm.symm.subset isRest)
    have firstWaits : first ∈ queue.heap := perm.symm.subset List.mem_cons_self
    refine ⟨{ queue with heap, taken := queue.taken ++ [first] }, ?_, ?_, members⟩
    · unfold step
      dsimp only
      rw [popped]
    · constructor
      · exact isHeap
      · exact List.Pairwise.of_cons (sound.comparable.perm perm.symm)
      · intro one isOne other isOther less
        exact sound.rising one (members one isOne) other (members other isOther) less
      · exact fun queued member => sound.numbered queued (members queued member)
      · apply List.pairwise_append.mpr
        refine ⟨sound.sorted, List.pairwise_singleton _ _, ?_⟩
        intro taken isTaken other isOther
        rw [List.mem_singleton] at isOther
        subst isOther
        exact sound.first taken isTaken other firstWaits
      · intro taken isTaken waiting isWaiting
        have wasWaiting : waiting ∈ queue.heap :=
          perm.symm.subset (List.mem_cons_of_mem _ isWaiting)
        rcases List.mem_append.mp isTaken with wasTaken | isFirst
        · exact sound.first taken wasTaken waiting wasWaiting
        · rw [List.mem_singleton] at isFirst
          subst isFirst
          exact timestamp_le_of_rank_le (least waiting wasWaiting)

/-- A run whose timestamps do not decrease. The invariant also bounds what is already in the
queue by the timestamps that are still to come. -/
theorem Sound.run (operations : List Operation) (sound : Sound queue)
    (monotone : (putsOf operations).Pairwise fun first second =>
      first.timestamp ≤ second.timestamp)
    (late : ∀ update ∈ putsOf operations, ∀ earlier ∈ queue.taken ++ queue.heap,
      earlier.timestamp ≤ update.timestamp)
    (hasKeys : Throughout step HasKeys operations queue) :
    ∃ final, steps step operations queue = some final ∧ Sound final := by
  induction operations generalizing queue with
  | nil => exact ⟨queue, rfl, sound⟩
  | cons operation operations induction =>
      rcases hasKeys with ⟨hasKey, laterKeys⟩
      cases operation with
      | put update =>
          have isPuts : putsOf (.put update :: operations) = update :: putsOf operations := rfl
          rw [isPuts, List.pairwise_cons] at monotone
          rw [isPuts] at late
          rcases sound.put update (late update List.mem_cons_self) hasKey with
            ⟨after, stepped, isSound, members⟩
          rw [stepped] at laterKeys
          have lateAfter : ∀ other ∈ putsOf operations, ∀ earlier ∈ after.taken ++ after.heap,
              earlier.timestamp ≤ other.timestamp := by
            intro other isLater earlier member
            rcases members earlier member with isOld | isNew
            · exact late other (List.mem_cons_of_mem _ isLater) earlier isOld
            · rw [isNew]
              exact monotone.1 other isLater
          rcases induction isSound monotone.2 lateAfter laterKeys with
            ⟨final, reached, isFinal⟩
          exact ⟨final, steps_cons_eq_some.mpr ⟨after, stepped, reached⟩, isFinal⟩
      | get =>
          have isPuts : putsOf (.get :: operations) = putsOf operations := rfl
          rw [isPuts] at monotone late
          rcases sound.get with ⟨after, stepped, isSound, members⟩
          rw [stepped] at laterKeys
          rcases induction isSound monotone
            (fun other isLater earlier member =>
              late other isLater earlier (members earlier member)) laterKeys with
            ⟨final, reached, isFinal⟩
          exact ⟨final, steps_cons_eq_some.mpr ⟨after, stepped, reached⟩, isFinal⟩

theorem Sound.ordered (sound : Sound queue) :
    Ordered (fun first second => Precedes first second ∧
      first.timestamp ≠ second.timestamp) queue := by
  have apart : ∀ first second : Queued, first ∈ queue.taken ++ queue.heap →
      second ∈ queue.taken ++ queue.heap → first.timestamp ≤ second.timestamp →
      ¬ (Precedes second first ∧ second.timestamp ≠ first.timestamp) := by
    intro first second isFirst isSecond before precedes
    have after := sound.rising second isSecond first isFirst precedes.1.2.2
    exact precedes.2 (le_antisymm after before)
  constructor
  · refine sound.sorted.imp_of_mem ?_
    intro first second isFirst isSecond before
    exact apart first second (List.mem_append_left _ isFirst)
      (List.mem_append_left _ isSecond) before
  · intro taken isTaken waiting isWaiting
    exact apart taken waiting (List.mem_append_left _ isTaken)
      (List.mem_append_right _ isWaiting) (sound.first taken isTaken waiting isWaiting)

/-- As long as updates of one timestamp that wait together have keys, no comparison raises,
and updates of one object with different timestamps come out in their order. -/
theorem updates_keep_order (operations : List Operation)
    (monotone : (putsOf operations).Pairwise fun first second =>
      first.timestamp ≤ second.timestamp)
    (hasKeys : Throughout step HasKeys operations {}) :
    ∃ final, steps step operations {} = some final ∧
      Ordered (fun first second => Precedes first second ∧
        first.timestamp ≠ second.timestamp) final := by
  have start : Sound {} := by
    constructor
    · intro pos item _ _ found
      cases found
    · exact List.Pairwise.nil
    · intro first isFirst
      cases isFirst
    · intro update isUpdate
      cases isUpdate
    · exact List.Pairwise.nil
    · intro taken isTaken
      cases isTaken
  rcases Sound.run operations start monotone
    (fun _ _ earlier isEarlier => by cases isEarlier) hasKeys with ⟨final, reached, sound⟩
  exact ⟨final, reached, sound.ordered⟩

/-! ## Equal timestamps -/

namespace Sample

def sync (timestamp : Nat) : Operation := .put ⟨none, none, "sync", timestamp⟩

def port (action : String) (timestamp : Nat) : Operation :=
  .put ⟨some "lport", some "port", action, timestamp⟩

/-- A port is changed four times within one microsecond. -/
def burst : List Operation :=
  [port "create" 5, port "set" 5, port "delete" 5, port "create" 5, .get, .get]

end Sample

theorem updates_keep_order_sample :
    ((putsOf [Sample.port "create" 5, Sample.sync 6, .get, Sample.port "delete" 7]).Pairwise
      fun first second => first.timestamp ≤ second.timestamp) ∧
    Throughout step HasKeys
      [Sample.port "create" 5, Sample.sync 6, .get, Sample.port "delete" 7] {} ∧
    ∃ final, steps step
        [Sample.port "create" 5, Sample.sync 6, .get, Sample.port "delete" 7] {} =
        some final ∧
      Ordered (fun first second => Precedes first second ∧
        first.timestamp ≠ second.timestamp) final := by
  have monotone : (putsOf [Sample.port "create" 5, Sample.sync 6, .get,
      Sample.port "delete" 7]).Pairwise
        fun first second => first.timestamp ≤ second.timestamp := by
    decide
  have hasKeys : Throughout step HasKeys
      [Sample.port "create" 5, Sample.sync 6, .get, Sample.port "delete" 7] {} := by
    decide +kernel
  exact ⟨monotone, hasKeys, updates_keep_order _ monotone hasKeys⟩

/-- Two control events of one timestamp cannot be compared, and of four updates of a port
with one timestamp the third comes out before the second. -/
theorem equal_timestamps_disorder :
    steps step [Sample.sync 5, Sample.sync 5] {} = none ∧
      (steps step Sample.burst {}).any (fun final => ¬ Ordered Precedes final) = true := by
  constructor
  · decide +kernel
  · decide +kernel

end UpdateQueue

end Dragonflow
