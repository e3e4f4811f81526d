import Dragonflow.Db.Drivers.Cassandra
import Dragonflow.Db.Drivers.RamCloud

/-! # Keys that are given out twice

Cassandra and RAMCloud give out a key of a table twice when the first key is created more
than once.
-/

namespace Dragonflow

/-! ## Runs with two clients -/

namespace CassandraDriver

/-- Texts in single quotes. -/
def unquoted (term : String) : Option String :=
  match term.toList with
  | [] => none
  | first :: rest =>
      if String.singleton first = "'" ∧ rest.getLast?.map String.singleton = some "'" then
        some (String.ofList rest.dropLast)
      else none

theorem readsTexts_unquoted : ReadsTexts unquoted where
  quoted table := by
    unfold unquoted quoted
    simp
  bare table := by
    unfold unquoted
    cases isTerm : table.name.toList with
    | nil => rfl
    | cons first rest =>
        simp only
        rw [if_neg]
        rintro ⟨isQuote, _⟩
        have isFirst : [first] = "'".toList := by
          rw [← isQuote, String.toList_singleton]
        rcases table.isIdentifier.2 first (by rw [isTerm]; exact List.mem_cons_self) with
          isAlphanum | isUnderscore
        · rw [List.singleton_inj.mp isFirst] at isAlphanum
          exact absurd isAlphanum (by decide)
        · rw [isUnderscore] at isFirst
          exact absurd isFirst (by decide)

def lport : TableName :=
  ⟨"lport", by decide, @of_decide_eq_true _ (List.decidableBAll _ _) rfl⟩

/-- One client calls after the other. -/
def twoCalls : List (ClientEvent Bool TableName) :=
  [.call true lport, .access true, .access true,
    .call false lport, .access false, .access false, .access false]

end CassandraDriver

namespace RamCloudDriver

/-- Both clients find no object. One of them is slow, and resets the counter of the other
one. -/
def slowReset : List (ClientEvent Bool String) :=
  [.call true "lport", .access true, .call false "lport", .access false, .access false,
    .access false, .access false, .access true, .access true, .access true]

end RamCloudDriver

theorem keys_given_out_twice :
    ¬ (∀ (events : List (ClientEvent Bool _)) after,
      steps (Clients.step (CassandraDriver.allocateUniqueKey CassandraDriver.unquoted)) events
        { store := ∅ } = some after → ∀ table, (resultsOf after.log table).Nodup) ∧
    CassandraDriver.ReadsTexts CassandraDriver.unquoted ∧
    ¬ ∀ (events : List (ClientEvent Bool _)) after,
      steps (Clients.step RamCloudDriver.allocateUniqueKey) events { store := ∅ } =
        some after → ∀ table, (resultsOf after.log table).Nodup := by
  have twice : ((steps (Clients.step
      (CassandraDriver.allocateUniqueKey CassandraDriver.unquoted))
      CassandraDriver.twoCalls { store := ∅ }).map fun after =>
        resultsOf after.log CassandraDriver.lport) = some [1, 1] := by decide +kernel
  have twiceReset : ((steps (Clients.step RamCloudDriver.allocateUniqueKey)
      RamCloudDriver.slowReset { store := ∅ }).map fun after =>
        resultsOf after.log "lport") = some [1, 1] := by decide +kernel
  have repeated : ¬ ([1, 1] : List Int).Nodup := by decide
  refine ⟨fun unique => ?_, CassandraDriver.readsTexts_unquoted, fun unique => ?_⟩
  · rcases Option.map_eq_some_iff.mp twice with ⟨after, reached, results⟩
    exact repeated (results ▸ unique _ after reached CassandraDriver.lport)
  · rcases Option.map_eq_some_iff.mp twiceReset with ⟨after, reached, results⟩
    exact repeated (results ▸ unique _ after reached "lport")

/-- Cassandra gives out a key once exactly while rows are inserted once, and RAMCloud
while no counter is reset after it was used. -/
theorem keys_unique_while_fresh {ι : Type} [DecidableEq ι] :
    (∀ (textOf : String → Option String) (events : List (ClientEvent ι _)) after,
      CassandraDriver.ReadsTexts textOf →
      steps (Clients.step (CassandraDriver.allocateUniqueKey textOf)) events
        { store := ∅ } = some after →
      ((∀ table, (resultsOf after.log table).Nodup) ↔
        Throughout (Clients.step (CassandraDriver.allocateUniqueKey textOf))
          CassandraDriver.Fresh events { store := ∅ })) ∧
    ∀ (events : List (ClientEvent ι _)) after,
      Throughout (Clients.step RamCloudDriver.allocateUniqueKey) RamCloudDriver.Fresh events
        { store := ∅ } →
      steps (Clients.step RamCloudDriver.allocateUniqueKey) events { store := ∅ } =
        some after →
      ∀ table, (resultsOf after.log table).Nodup := by
  constructor
  · intro textOf events after reads reached
    have known : CassandraDriver.Known ∅ [] := fun _ => ⟨iff_of_true rfl rfl, by simp⟩
    have unique : CassandraDriver.Unique [] := fun _ => List.nodup_nil
    exact CassandraDriver.unique_iff_throughout reads known unique reached
  · intro events after meets reached
    exact RamCloudDriver.nodup_of_throughout meets reached

/-- One call of a client, and two calls of which none resets the counter. -/
theorem keys_unique_while_fresh_once :
    (∃ after, steps (Clients.step
        (CassandraDriver.allocateUniqueKey CassandraDriver.unquoted))
        (CassandraDriver.twoCalls.take 3) { store := ∅ } = some after ∧
      after.log = [(CassandraDriver.lport, 1)] ∧
      ∀ table, (resultsOf after.log table).Nodup) ∧
    ∃ after, steps (Clients.step RamCloudDriver.allocateUniqueKey)
        [.call true "lport", .access true, .access true, .access true, .access true,
          .call false "lport", .access false, .access false] { store := ∅ } = some after ∧
      resultsOf after.log "lport" = [1, 2] ∧ (resultsOf after.log "lport").Nodup := by
  constructor
  · have ran : ((steps (Clients.step
        (CassandraDriver.allocateUniqueKey CassandraDriver.unquoted))
        (CassandraDriver.twoCalls.take 3) { store := ∅ }).map Clients.log) =
          some [(CassandraDriver.lport, 1)] := by decide +kernel
    rcases Option.map_eq_some_iff.mp ran with ⟨after, reached, isLog⟩
    exact ⟨after, reached, isLog,
      (keys_unique_while_fresh.1 _ _ after CassandraDriver.readsTexts_unquoted reached).mpr
        (by decide +kernel)⟩
  · have ran : ((steps (Clients.step RamCloudDriver.allocateUniqueKey)
        [.call true "lport", .access true, .access true, .access true, .access true,
          .call false "lport", .access false, .access false] { store := ∅ }).map fun after =>
            resultsOf after.log "lport") = some [1, 2] := by decide +kernel
    rcases Option.map_eq_some_iff.mp ran with ⟨after, reached, results⟩
    exact ⟨after, reached, results,
      keys_unique_while_fresh.2 _ after (by decide +kernel) reached "lport"⟩

end Dragonflow
