import Dragonflow.Foundation.Steps
import Mathlib.Data.List.Nodup
import Mathlib.Logic.Function.Basic

/-! # Clients of a shared store

Any number of clients call one operation, which accesses a shared store several times.
Only single accesses are atomic, and those of different clients happen in any order.
-/

namespace Dragonflow

/-- What a call does after an access to the store. -/
inductive Access (φ ρ ε : Type)
  | goOn (phase : φ)
  | returned (result : ρ)
  | raised (error : ε)
  deriving DecidableEq, Repr

/-- An operation is called with an argument of the type `α`, and is in some phase between
its accesses to the store. -/
structure Operation (σ α φ ρ ε : Type) where
  start : φ
  access : α → φ → σ → Access φ ρ ε × σ

/-- The store, the calls that are going on, and what other calls have returned. -/
structure Clients (σ ι α φ ρ : Type) where
  store : σ
  calls : ι → Option (α × φ) := fun _ => none
  log : List (α × ρ) := []

inductive ClientEvent (ι α : Type)
  | call (client : ι) (argument : α)
  | access (client : ι)
  deriving DecidableEq, Repr

namespace Clients

variable {σ ι α φ ρ ε : Type} [DecidableEq ι]

/-- The client begins a call, or makes the next access of its call. -/
def step (operation : Operation σ α φ ρ ε) (clients : Clients σ ι α φ ρ) :
    ClientEvent ι α → Option (Clients σ ι α φ ρ)
  | .call client argument =>
      match clients.calls client with
      | some _ => none
      | none =>
          some { clients with
            calls := Function.update clients.calls client
              (some (argument, operation.start)) }
  | .access client =>
      match clients.calls client with
      | none => none
      | some (argument, phase) =>
          match operation.access argument phase clients.store with
          | (.goOn next, store) =>
              some { clients with
                store := store
                calls := Function.update clients.calls client (some (argument, next)) }
          | (.returned result, store) =>
              some
                { store := store
                  calls := Function.update clients.calls client none
                  log := clients.log ++ [(argument, result)] }
          | (.raised _, store) =>
              some { clients with
                store := store
                calls := Function.update clients.calls client none }

variable {operation : Operation σ α φ ρ ε} {clients after : Clients σ ι α φ ρ}

/-! ## Invariants -/

/-- What is known of the store and the results, and of every call that is going on. -/
structure Sound (known : σ → List (α × ρ) → Prop) (fits : α → φ → σ → Prop)
    (clients : Clients σ ι α φ ρ) : Prop where
  known : known clients.store clients.log
  fits : ∀ client argument phase, clients.calls client = some (argument, phase) →
    fits argument phase clients.store

variable {known : σ → List (α × ρ) → Prop} {fits : α → φ → σ → Prop}

/-- An access keeps what is known, and what other calls rely on. -/
structure Kept (known : σ → List (α × ρ) → Prop) (fits : α → φ → σ → Prop) (argument : α)
    (outcome : Access φ ρ ε) (before after : σ) (log : List (α × ρ)) : Prop where
  known : known after (match outcome with
    | .returned result => log ++ [(argument, result)]
    | _ => log)
  goesOn : ∀ phase, outcome = .goOn phase → fits argument phase after
  others : ∀ other phase, fits other phase before → fits other phase after

/-- The calls after one of them has changed. -/
theorem fits_update {calls : ι → Option (α × φ)} {client : ι} {change : Option (α × φ)}
    {before store : σ}
    (fitted : ∀ other argument phase, calls other = some (argument, phase) →
      fits argument phase before)
    (others : ∀ other phase, fits other phase before → fits other phase store)
    (changed : ∀ argument phase, change = some (argument, phase) →
      fits argument phase store) :
    ∀ other argument phase, Function.update calls client change other =
      some (argument, phase) → fits argument phase store := by
  intro other argument phase found
  rw [Function.update_apply] at found
  split at found
  · exact changed argument phase found
  · exact others argument phase (fitted other argument phase found)

theorem Sound.step (sound : clients.Sound known fits)
    (starts : ∀ argument store, fits argument operation.start store) {event : ClientEvent ι α}
    (kept : ∀ client argument phase, event = .access client →
      clients.calls client = some (argument, phase) →
      fits argument phase clients.store → known clients.store clients.log →
      Kept known fits argument (operation.access argument phase clients.store).1
        clients.store (operation.access argument phase clients.store).2 clients.log)
    (stepped : clients.step operation event = some after) : after.Sound known fits := by
  cases event with
  | call client argument =>
      unfold Clients.step at stepped
      cases running : clients.calls client with
      | some call => simp [running] at stepped
      | none =>
          simp only [running, Option.some.injEq] at stepped
          rw [← stepped]
          refine ⟨sound.known, fits_update sound.fits (fun _ _ fitted => fitted) ?_⟩
          intro given phase same
          cases same
          exact starts argument clients.store
  | access client =>
      unfold Clients.step at stepped
      cases running : clients.calls client with
      | none => simp [running] at stepped
      | some call =>
          rcases call with ⟨argument, phase⟩
          have isKept := kept client argument phase rfl running
            (sound.fits client argument phase running) sound.known
          simp only [running] at stepped
          rcases accessed : operation.access argument phase clients.store with ⟨outcome, store⟩
          rw [accessed] at stepped isKept
          cases outcome with
          | goOn next =>
              simp only [Option.some.injEq] at stepped
              rw [← stepped]
              refine ⟨isKept.known, fits_update sound.fits isKept.others ?_⟩
              intro given nextPhase same
              cases same
              exact isKept.goesOn next rfl
          | returned result =>
              simp only [Option.some.injEq] at stepped
              rw [← stepped]
              exact ⟨isKept.known, fits_update sound.fits isKept.others
                fun _ _ impossible => by cases impossible⟩
          | raised error =>
              simp only [Option.some.injEq] at stepped
              rw [← stepped]
              exact ⟨isKept.known, fits_update sound.fits isKept.others
                fun _ _ impossible => by cases impossible⟩

/-- What every access keeps holds in every state that is reached. -/
theorem Sound.steps (sound : clients.Sound known fits)
    (starts : ∀ argument store, fits argument operation.start store)
    (kept : ∀ argument phase store log, fits argument phase store → known store log →
      Kept known fits argument (operation.access argument phase store).1
        store (operation.access argument phase store).2 log)
    {events : List (ClientEvent ι α)}
    (reached : Dragonflow.steps (Clients.step operation) events clients = some after) :
    after.Sound known fits := by
  refine steps_invariant (Sound known fits) ?_ sound reached
  intro before event next isSound stepped
  exact isSound.step starts
    (fun _ argument phase _ _ fitted isKnown =>
      kept argument phase before.store before.log fitted isKnown) stepped

/-- What calls have returned is not forgotten. -/
theorem log_of_step {event : ClientEvent ι α}
    (stepped : clients.step operation event = some after) :
    ∃ added, after.log = clients.log ++ added := by
  unfold Clients.step at stepped
  cases event with
  | call client argument =>
      simp only at stepped
      split at stepped
      · cases stepped
      · cases stepped
        exact ⟨[], (List.append_nil _).symm⟩
  | access client =>
      simp only at stepped
      split at stepped
      · cases stepped
      · split at stepped
        · cases stepped
          exact ⟨[], (List.append_nil _).symm⟩
        · cases stepped
          exact ⟨_, rfl⟩
        · cases stepped
          exact ⟨[], (List.append_nil _).symm⟩

theorem log_of_steps {events : List (ClientEvent ι α)}
    (reached : Dragonflow.steps (Clients.step operation) events clients = some after) :
    ∃ added, after.log = clients.log ++ added := by
  refine steps_invariant (fun reached => ∃ added, reached.log = clients.log ++ added) ?_
    ⟨[], (List.append_nil _).symm⟩ reached
  rintro before event next ⟨added, isLog⟩ stepped
  rcases log_of_step stepped with ⟨more, isMore⟩
  exact ⟨added ++ more, by rw [isMore, isLog, List.append_assoc]⟩

end Clients

/-! ## Numbers given out in order -/

section Results

variable {α ρ : Type} [DecidableEq α]

/-- What calls with an argument have returned, in the order of their last accesses. -/
def resultsOf (log : List (α × ρ)) (argument : α) : List ρ :=
  log.filterMap fun entry => if entry.1 = argument then some entry.2 else none

@[simp] theorem resultsOf_nil (argument : α) :
    resultsOf ([] : List (α × ρ)) argument = [] := rfl

theorem resultsOf_append (log : List (α × ρ)) (argument other : α) (result : ρ) :
    resultsOf (log ++ [(argument, result)]) other =
      if other = argument then resultsOf log other ++ [result] else resultsOf log other := by
  unfold resultsOf
  rw [List.filterMap_append]
  by_cases same : other = argument
  · simp [same]
  · simp [same, Ne.symm same]

/-- The numbers from one up to the count. -/
def firstNumbers (count : Nat) : List Int :=
  (List.range count).map fun index : Nat => (index : Int) + 1

@[simp] theorem firstNumbers_zero : firstNumbers 0 = [] := rfl

theorem firstNumbers_succ (count : Nat) :
    firstNumbers (count + 1) = firstNumbers count ++ [(count + 1 : Int)] := by
  unfold firstNumbers
  rw [List.range_succ, List.map_append]
  rfl

theorem firstNumbers_nodup (count : Nat) : (firstNumbers count).Nodup := by
  refine List.Nodup.map (fun index other same => ?_) List.nodup_range
  have next : (index : Int) + 1 = (other : Int) + 1 := same
  omega

/-- For every argument, the store shows how many numbers were given out. -/
def Counted {σ : Type} (shows : σ → α → Nat → Prop) (store : σ) (log : List (α × Int)) :
    Prop :=
  ∀ argument, ∃ count, shows store argument count ∧
    resultsOf log argument = firstNumbers count

/-- The next number is given out. -/
theorem Counted.append {σ : Type} {shows : σ → α → Nat → Prop} {store after : σ}
    {log : List (α × Int)} (counted : Counted shows store log) {argument : α} {result : Int}
    (next : ∀ count, shows store argument count →
      result = count + 1 ∧ shows after argument (count + 1))
    (others : ∀ other count, other ≠ argument → shows store other count →
      shows after other count) :
    Counted shows after (log ++ [(argument, result)]) := by
  intro other
  rw [resultsOf_append]
  rcases counted other with ⟨count, isShown, results⟩
  split
  · next same =>
      rw [same] at isShown
      rcases next count isShown with ⟨isNext, isShownNext⟩
      refine ⟨count + 1, same ▸ isShownNext, ?_⟩
      rw [results, firstNumbers_succ, isNext]
  · next different => exact ⟨count, others other count different isShown, results⟩

end Results

end Dragonflow
