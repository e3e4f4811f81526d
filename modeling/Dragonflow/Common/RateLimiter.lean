import Dragonflow.Db.ModelFramework
import Dragonflow.Foundation.Program
import Mathlib.Algebra.Order.Ring.Int
import Mathlib.Data.List.Induction
import Mathlib.Data.List.Infix

/-! # Rate limits

`RateLimiter` of `dragonflow/common/utils.py`. The readings of the clock are the elements
of a linear order with a subtraction, which may round as that of floating-point numbers
does.
-/

namespace Dragonflow

open Program

/-- `collections.deque`, oldest item first. -/
structure Deque (α : Type) where
  maxlen : Nat
  items : List α
  bounded : items.length ≤ maxlen

namespace Deque

variable {α : Type}

def new (maxlen : Nat) : Deque α := ⟨maxlen, [], Nat.zero_le _⟩

/-- A full deque drops its oldest item. -/
def append (deque : Deque α) (item : α) : Deque α where
  maxlen := deque.maxlen
  items := (deque.items ++ [item]).drop (deque.items.length + 1 - deque.maxlen)
  bounded := by
    rw [List.length_drop, List.length_append, List.length_singleton]
    omega

end Deque

/-- The last `count` items of a list. -/
def recent {α : Type} (count : Nat) (items : List α) : List α :=
  items.drop (items.length - count)

section Recent

variable {α : Type} {count : Nat} {items : List α}

theorem length_recent : (recent count items).length = min items.length count := by
  rw [recent, List.length_drop]
  omega

theorem drop_recent (item : α) :
    (recent count items ++ [item]).drop ((recent count items).length + 1 - count) =
      recent count (items ++ [item]) := by
  rw [length_recent, recent, recent, ← List.drop_append_of_le_length (Nat.sub_le _ _),
    List.drop_drop, List.length_append, List.length_singleton]
  congr 1
  omega

theorem head_recent {head : α} {tail : List α} (isRecent : recent count items = head :: tail) :
    items[items.length - count]? = some head := by
  rw [← List.head?_drop, ← recent, isRecent]
  rfl

end Recent

structure RateLimiter (T : Type) where
  timeUnit : T
  deque : Deque T

namespace RateLimiter

variable {T : Type} [Sub T] [LinearOrder T]

def new (maxRate : Nat) (timeUnit : T) : RateLimiter T := ⟨timeUnit, .new maxRate⟩

def append (limiter : RateLimiter T) (time : T) : RateLimiter T :=
  { limiter with deque := limiter.deque.append time }

/-- `__call__` at a reading of the clock. Callers that are limited get `True`. -/
def call (time : T) : Program (RateLimiter T) PyError Bool := do
  let limiter ← get
  if limiter.deque.maxlen = limiter.deque.items.length then
    match limiter.deque.items with
    | [] => throw .indexError
    | oldest :: _ =>
        if limiter.timeUnit < time - oldest then do
          set (limiter.append time)
          return false
        else return true
  else do
    set (limiter.append time)
    return false

/-- The limiter after calls at these readings. -/
def after (limiter : RateLimiter T) (readings : List T) : RateLimiter T :=
  (trace call readings limiter).2

/-- The readings of the calls that were not limited. -/
def accepted (limiter : RateLimiter T) : List T → List T
  | [] => []
  | time :: readings =>
      let executed := exec (call time) limiter
      (match executed.1 with
        | .ok false => [time]
        | _ => []) ++ accepted executed.2 readings

/-! ## Runs -/

theorem after_concat (limiter : RateLimiter T) (readings : List T) (time : T) :
    limiter.after (readings ++ [time]) =
      (exec (call time) (limiter.after readings)).2 := by
  rw [after, trace_append]
  rfl

theorem accepted_append (limiter : RateLimiter T) (first second : List T) :
    limiter.accepted (first ++ second) =
      limiter.accepted first ++ (limiter.after first).accepted second := by
  induction first generalizing limiter with
  | nil => rfl
  | cons time first induction =>
      rw [List.cons_append, accepted, accepted, induction, List.append_assoc]
      rfl

theorem accepted_sublist (limiter : RateLimiter T) (readings : List T) :
    (limiter.accepted readings).Sublist readings := by
  induction readings generalizing limiter with
  | nil => exact List.Sublist.slnil
  | cons time readings induction =>
      rw [accepted]
      split
      · exact (induction _).cons_cons time
      · exact (induction _).cons time

/-- Any `maxRate + 1` accepted calls in a row span more than the time unit. -/
def Spans (maxRate : Nat) (timeUnit : T) (accepted : List T) : Prop :=
  ∀ index first last, accepted[index]? = some first →
    accepted[index + maxRate]? = some last → timeUnit < last - first

/-- The deque holds the last calls that were accepted. -/
structure Tracks (maxRate : Nat) (timeUnit : T) (earlier : List T)
    (limiter : RateLimiter T) : Prop where
  sameUnit : limiter.timeUnit = timeUnit
  sameMaxlen : limiter.deque.maxlen = maxRate
  items : limiter.deque.items = recent maxRate earlier
  spans : Spans maxRate timeUnit earlier

variable {maxRate : Nat} {timeUnit time : T} {earlier : List T} {limiter : RateLimiter T}

theorem tracks_new : Tracks maxRate timeUnit [] (new maxRate timeUnit) where
  sameUnit := rfl
  sameMaxlen := rfl
  items := List.drop_nil.symm
  spans _ _ _ isFirst := absurd isFirst (by simp)

theorem Tracks.append (tracks : Tracks maxRate timeUnit earlier limiter)
    (positive : 0 < maxRate)
    (apart : maxRate ≤ earlier.length → ∀ first,
      earlier[earlier.length - maxRate]? = some first → timeUnit < time - first) :
    Tracks maxRate timeUnit (earlier ++ [time]) (limiter.append time) where
  sameUnit := tracks.sameUnit
  sameMaxlen := tracks.sameMaxlen
  items := by
    change (limiter.deque.items ++ [time]).drop
      (limiter.deque.items.length + 1 - limiter.deque.maxlen) = _
    rw [tracks.items, tracks.sameMaxlen, drop_recent]
  spans := by
    intro index first last isFirst isLast
    have inside : index + maxRate < (earlier ++ [time]).length :=
      (List.getElem?_eq_some_iff.mp isLast).1
    rw [List.length_append, List.length_singleton] at inside
    rw [List.getElem?_append_left (by omega)] at isFirst
    rcases Nat.lt_or_ge (index + maxRate) earlier.length with before | isEnd
    · rw [List.getElem?_append_left before] at isLast
      exact tracks.spans index first last isFirst isLast
    · have isIndex : index + maxRate = earlier.length := by omega
      have isOldest : index = earlier.length - maxRate := by omega
      rw [isIndex, List.getElem?_concat_length] at isLast
      rw [isOldest] at isFirst
      rw [← Option.some.inj isLast]
      exact apart (by omega) first isFirst

/-- What a call can do: it is accepted and remembered, or the oldest of `maxRate` calls is
too recent. -/
theorem Tracks.call_cases (tracks : Tracks maxRate timeUnit earlier limiter)
    (positive : 0 < maxRate) :
    (exec (call time) limiter = (.ok false, limiter.append time) ∧
        Tracks maxRate timeUnit (earlier ++ [time]) (limiter.append time)) ∨
      (exec (call time) limiter = (.ok true, limiter) ∧
        ∃ oldest tail, recent maxRate earlier = oldest :: tail ∧
          maxRate ≤ earlier.length ∧ time - oldest ≤ timeUnit) := by
  have isLength : (recent maxRate earlier).length = min earlier.length maxRate := length_recent
  rw [call, exec_bind_ok (exec_get limiter)]
  rw [tracks.sameMaxlen, tracks.items, isLength]
  by_cases isFull : maxRate ≤ earlier.length
  · rw [if_pos (by omega)]
    cases isRecent : recent maxRate earlier with
    | nil =>
        rw [isRecent, List.length_nil] at isLength
        omega
    | cons oldest tail =>
        dsimp only
        rw [tracks.sameUnit]
        by_cases isOld : timeUnit < time - oldest
        · left
          rw [if_pos isOld]
          refine ⟨rfl, tracks.append positive ?_⟩
          intro _ first isFirst
          rw [head_recent isRecent] at isFirst
          rwa [← Option.some.inj isFirst]
        · right
          rw [if_neg isOld]
          exact ⟨rfl, oldest, tail, rfl, isFull, not_lt.mp isOld⟩
  · left
    rw [if_neg (by omega)]
    exact ⟨rfl, tracks.append positive fun isFullToo => absurd isFullToo isFull⟩

theorem tracks_after (positive : 0 < maxRate) (timeUnit : T) (readings : List T) :
    Tracks maxRate timeUnit ((new maxRate timeUnit).accepted readings)
      ((new maxRate timeUnit).after readings) := by
  induction readings using List.reverseRecOn with
  | nil => exact tracks_new
  | append_singleton readings time induction =>
      rw [accepted_append, after_concat, accepted, accepted, List.append_nil]
      rcases induction.call_cases positive with ⟨executed, tracks⟩ | ⟨executed, _⟩
      · rw [executed]
        exact tracks
      · rw [executed]
        dsimp only
        rw [List.append_nil]
        exact induction

theorem trace_returns_ok (positive : 0 < maxRate) (timeUnit : T) (readings : List T) :
    ∀ result ∈ (trace call readings (new maxRate timeUnit)).1, result.isOk := by
  induction readings using List.reverseRecOn with
  | nil => exact fun _ member => absurd member List.not_mem_nil
  | append_singleton readings time induction =>
      rw [trace_append]
      intro result member
      rcases List.mem_append.mp member with before | isLast
      · exact induction result before
      · rw [List.mem_singleton.mp isLast]
        rcases (tracks_after positive timeUnit readings).call_cases positive with
          ⟨executed, _⟩ | ⟨executed, _⟩
        · exact congrArg (fun outcome => outcome.1.isOk) executed
        · exact congrArg (fun outcome => outcome.1.isOk) executed

/-- Not more time has passed since a later reading. -/
def SubMonotone (T : Type) [Sub T] [LinearOrder T] : Prop :=
  ∀ time earlier later : T, earlier ≤ later → time - later ≤ time - earlier

/-- A call that is limited comes after `maxRate` accepted calls within the time unit. -/
theorem recent_of_limited (monotone : SubMonotone T) (positive : 0 < maxRate)
    {done : List T} (ordered : (done ++ [time]).Pairwise (· ≤ ·))
    (limited : (exec (call time) ((new maxRate timeUnit).after done)).1 = .ok true) :
    maxRate ≤ ((new maxRate timeUnit).accepted done).length ∧
      ∀ earlier ∈ recent maxRate ((new maxRate timeUnit).accepted done),
        earlier ≤ time ∧ time - earlier ≤ timeUnit := by
  rcases (tracks_after positive timeUnit done).call_cases positive with
    ⟨executed, _⟩ | ⟨_, oldest, tail, isRecent, isFull, tooRecent⟩
  · rw [executed] at limited
    cases limited
  · have kept : (recent maxRate ((new maxRate timeUnit).accepted done)).Sublist done :=
      (List.drop_sublist _ _).trans (accepted_sublist _ done)
    rcases List.pairwise_append.mp ordered with ⟨doneOrdered, _, beforeTime⟩
    have recentOrdered := doneOrdered.sublist kept
    refine ⟨isFull, ?_⟩
    intro earlier member
    refine ⟨beforeTime earlier (kept.subset member) time (List.mem_singleton_self time), ?_⟩
    rw [isRecent] at member recentOrdered
    have notOlder : oldest ≤ earlier := by
      rcases List.mem_cons.mp member with isOldest | later
      · exact isOldest.ge
      · exact (List.pairwise_cons.mp recentOrdered).1 earlier later
    exact (monotone time oldest earlier notOlder).trans tooRecent

/-- Every call returns; any `maxRate + 1` accepted calls in a row span more than the time
unit; and a call is only limited if the last `maxRate` accepted calls lie within the time
unit before it. -/
theorem rate_bounded (monotone : SubMonotone T) (maxRate : Nat) (positive : 1 ≤ maxRate)
    (timeUnit : T) (readings : List T) (ordered : readings.Pairwise (· ≤ ·)) :
    let limiter := new maxRate timeUnit
    (∀ result ∈ (trace call readings limiter).1, result.isOk) ∧
      Spans maxRate timeUnit (limiter.accepted readings) ∧
      ∀ done time, done ++ [time] <+: readings →
        (exec (call time) (limiter.after done)).1 = .ok true →
        maxRate ≤ (limiter.accepted done).length ∧
          ∀ earlier ∈ recent maxRate (limiter.accepted done),
            earlier ≤ time ∧ time - earlier ≤ timeUnit := by
  refine ⟨trace_returns_ok positive timeUnit readings,
    (tracks_after positive timeUnit readings).spans, ?_⟩
  intro done time isPrefix limited
  exact recent_of_limited monotone positive (ordered.sublist isPrefix.sublist) limited

/-- Two calls a second: the third one has to wait. -/
theorem rate_bounded_two :
    (exec (call (2 : Int)) ((new 2 10).after [0, 1])).1 = .ok true ∧
      2 ≤ ((new 2 (10 : Int)).accepted [0, 1]).length ∧
      Spans 2 10 ((new 2 (10 : Int)).accepted [0, 1, 2, 11, 12]) := by
  have limited : (exec (call (2 : Int)) ((new 2 10).after [0, 1])).1 = .ok true := by decide
  have ordered : [0, 1, 2, 11, 12].Pairwise (fun first second : Int => first ≤ second) := by
    decide
  have monotone : SubMonotone Int := fun time _ _ notEarlier =>
    Int.sub_le_sub_left notEarlier time
  have bounded := rate_bounded monotone 2 (by decide) 10 [0, 1, 2, 11, 12] ordered
  exact ⟨limited, (bounded.2.2 [0, 1] 2 ⟨[11, 12], rfl⟩ limited).1, bounded.2.1⟩

end RateLimiter

end Dragonflow
