import Dragonflow.Db.Drivers.Etcd

/-! # The Cassandra driver

The unique keys of `dragonflow/db/drivers/cassandra_db_driver.py`.
-/

namespace Dragonflow.CassandraDriver

/-- The rows of `CAS_TABLE`, with the numbers that `str` and `int` convert to texts and
back. -/
abbrev Rows := Dict String Int

/-- Tables are created under their names, so these are identifiers. -/
structure TableName where
  name : String
  isIdentifier : name ≠ "" ∧
    ∀ character ∈ name.toList, character.isAlphanum = true ∨ character = '_'
  deriving DecidableEq

/-- `'%(key)s'` -/
def quoted (key : String) : String := "'" ++ key ++ "'"

/-- Where a call of `allocate_unique_key` is between its statements. -/
inductive Phase
  | select
  | update (origVal : Int)
  | insert
  deriving DecidableEq, Repr

/-- `allocate_unique_key`. The server reads a term of a statement as a text, or else the
statement is not valid and raises. What `UPDATE` and `INSERT` report is not looked at. -/
def allocateUniqueKey (textOf : String → Option String) :
    Operation Rows TableName Phase Int PyError where
  start := .select
  access table phase rows :=
    match phase with
    | .select =>
        match (textOf (quoted table.name)).bind rows.lookup with
        | none => (.goOn .insert, rows)
        | some origVal => (.goOn (.update origVal), rows)
    | .update origVal =>
        -- the key stands in the statement without quotes
        match textOf table.name with
        | none => (.goOn .insert, rows)
        | some key =>
            (.returned (origVal + 1),
              if rows.lookup key = some origVal then rows.insert key (origVal + 1) else rows)
    | .insert =>
        match textOf (quoted table.name) with
        | none => (.goOn .select, rows)
        | some key =>
            (.returned 1,
              match rows.lookup key with
              | some _ => rows
              | none => rows.insert key 1)

/-- What the server is relied on for: a name in quotes is a text, and a bare name is
not. -/
structure ReadsTexts (textOf : String → Option String) : Prop where
  quoted : ∀ table : TableName, textOf (quoted table.name) = some table.name
  bare : ∀ table : TableName, textOf table.name = none

/-! ## Every key is one -/

/-- A table has a row when some call has returned. All calls return one. -/
def Known (rows : Rows) (log : List (TableName × Int)) : Prop :=
  ∀ table : TableName, (resultsOf log table = [] ↔ rows.lookup table.name = none) ∧
    ∀ key ∈ resultsOf log table, key = 1

variable {textOf : String → Option String} {rows : Rows} {log : List (TableName × Int)}

theorem TableName.eq_of_name {table other : TableName} (same : table.name = other.name) :
    table = other := by
  rcases table with ⟨name, isIdentifier⟩
  rcases other with ⟨otherName, otherIdentifier⟩
  cases same
  rfl

theorem Known.append (known : Known rows log) (table : TableName) :
    Known (match rows.lookup table.name with
      | some _ => rows
      | none => rows.insert table.name 1) (log ++ [(table, 1)]) := by
  intro other
  rw [resultsOf_append]
  by_cases same : other = table
  · rw [if_pos same, same]
    refine ⟨?_, ?_⟩
    · refine iff_of_false (by simp) ?_
      cases found : rows.lookup table.name with
      | some value => simp [found]
      | none => simp [AList.lookup_insert]
    · intro key member
      rw [List.mem_append, List.mem_singleton] at member
      rcases member with earlier | isNew
      · exact (known table).2 key earlier
      · exact isNew
  · rw [if_neg same]
    refine ⟨(known other).1.trans ?_, (known other).2⟩
    cases found : rows.lookup table.name with
    | some value => exact Iff.rfl
    | none =>
        have kept : (rows.insert table.name 1).lookup other.name = rows.lookup other.name :=
          AList.lookup_insert_ne fun sameName => same (TableName.eq_of_name sameName)
        simp only [kept]

variable {ι : Type} [DecidableEq ι] {clients after : Clients Rows ι TableName Phase Int}
  {event : ClientEvent ι TableName}

/-- The row of a table is only inserted while there is none. -/
def Fresh (clients : Clients Rows ι TableName Phase Int) : ClientEvent ι TableName → Prop
  | .call _ _ => True
  | .access client => ∀ call ∈ clients.calls client, call.2 = .insert →
      clients.store.lookup call.1.name = none

instance (clients : Clients Rows ι TableName Phase Int) (event : ClientEvent ι TableName) :
    Decidable (Fresh clients event) :=
  match event with
  | .call _ _ => isTrue trivial
  | .access client => inferInstanceAs (Decidable (∀ call ∈ clients.calls client, _))

/-- A call returns one when it inserts the row, and goes on otherwise. -/
theorem step_cases (reads : ReadsTexts textOf)
    (stepped : clients.step (allocateUniqueKey textOf) event = some after) :
    (∃ client table, event = .access client ∧ clients.calls client = some (table, .insert) ∧
      after.log = clients.log ++ [(table, 1)] ∧
      after.store = match clients.store.lookup table.name with
        | some _ => clients.store
        | none => clients.store.insert table.name 1) ∨
    (after.log = clients.log ∧ after.store = clients.store ∧ Fresh clients event) := by
  unfold Clients.step at stepped
  cases event with
  | call client table =>
      cases running : clients.calls client with
      | some call => simp [running] at stepped
      | none =>
          simp only [running, Option.some.injEq] at stepped
          rw [← stepped]
          exact Or.inr ⟨rfl, rfl, trivial⟩
  | access client =>
      cases running : clients.calls client with
      | none => simp [running] at stepped
      | some call =>
          rcases call with ⟨table, phase⟩
          have notInserting : phase ≠ .insert → Fresh clients (.access client) := by
            intro different call isCall inserting
            rw [Option.mem_def, running] at isCall
            cases isCall
            exact absurd inserting different
          simp only [running, allocateUniqueKey] at stepped
          cases phase with
          | select =>
              cases found : (textOf (quoted table.name)).bind clients.store.lookup with
              | none =>
                  simp only [found, Option.some.injEq] at stepped
                  rw [← stepped]
                  exact Or.inr ⟨rfl, rfl, notInserting (by simp)⟩
              | some origVal =>
                  simp only [found, Option.some.injEq] at stepped
                  rw [← stepped]
                  exact Or.inr ⟨rfl, rfl, notInserting (by simp)⟩
          | update origVal =>
              simp only [reads.bare table, Option.some.injEq] at stepped
              rw [← stepped]
              exact Or.inr ⟨rfl, rfl, notInserting (by simp)⟩
          | insert =>
              simp only [reads.quoted table, Option.some.injEq] at stepped
              rw [← stepped]
              exact Or.inl ⟨client, table, rfl, running, rfl, rfl⟩

theorem known_of_step (reads : ReadsTexts textOf) (known : Known clients.store clients.log)
    (stepped : clients.step (allocateUniqueKey textOf) event = some after) :
    Known after.store after.log := by
  rcases step_cases reads stepped with ⟨_, table, _, _, isLog, isStore⟩ |
    ⟨isLog, isStore, _⟩
  · rw [isLog, isStore]
    exact known.append table
  · rw [isLog, isStore]
    exact known

/-- No key was returned twice. -/
def Unique (log : List (TableName × Int)) : Prop := ∀ table, (resultsOf log table).Nodup

/-- A second row that is not inserted makes a second one of the key. -/
theorem not_unique_of_stale (known : Known rows log) {table : TableName}
    (stale : rows.lookup table.name ≠ none) (added : List (TableName × Int)) :
    ¬ Unique (log ++ [(table, 1)] ++ added) := by
  intro unique
  have some := fun isEmpty => stale ((known table).1.mp isEmpty)
  rcases List.exists_mem_of_ne_nil _ some with ⟨key, member⟩
  have isOne := (known table).2 key member
  have apart := unique table
  rw [resultsOf, List.filterMap_append] at apart
  have apart := (List.nodup_append.mp apart).1
  rw [← resultsOf, resultsOf_append, if_pos rfl, List.nodup_append] at apart
  exact apart.2.2 key member 1 (List.mem_singleton.mpr rfl) isOne

theorem unique_of_fresh (reads : ReadsTexts textOf)
    (known : Known clients.store clients.log) (unique : Unique clients.log)
    (fresh : Fresh clients event)
    (stepped : clients.step (allocateUniqueKey textOf) event = some after) :
    Unique after.log := by
  rcases step_cases reads stepped with ⟨client, table, isEvent, inserting, isLog, _⟩ |
    ⟨isLog, _, _⟩
  · rw [isEvent] at fresh
    have isEmpty := (known table).1.mpr (fresh (table, .insert) inserting rfl)
    intro other
    rw [isLog, resultsOf_append]
    split
    · next same =>
        rw [same, isEmpty]
        exact List.nodup_singleton _
    · exact unique other
  · rw [isLog]
    exact unique

/-- In every run, keys are unique exactly when rows are only inserted once. -/
theorem unique_iff_throughout (reads : ReadsTexts textOf)
    (known : Known clients.store clients.log) (unique : Unique clients.log)
    {events : List (ClientEvent ι TableName)}
    (reached : steps (Clients.step (allocateUniqueKey textOf)) events clients = some after) :
    Unique after.log ↔
      Throughout (Clients.step (allocateUniqueKey textOf)) Fresh events clients := by
  induction events generalizing clients with
  | nil =>
      cases reached
      exact iff_of_true unique trivial
  | cons event events induction =>
      rw [steps_cons_eq_some] at reached
      rcases reached with ⟨middle, stepped, walked⟩
      unfold Throughout
      rw [stepped]
      by_cases fresh : Fresh clients event
      · rw [and_iff_right fresh]
        exact induction (known_of_step reads known stepped)
          (unique_of_fresh reads known unique fresh stepped) walked
      · refine iff_of_false ?_ fun meets => fresh meets.1
        rcases step_cases reads stepped with ⟨client, table, isEvent, inserting, isLog, _⟩ |
          ⟨_, _, isFresh⟩
        · have stale : clients.store.lookup table.name ≠ none := by
            intro absent
            rw [isEvent] at fresh
            refine fresh fun call isCall _ => ?_
            rw [Option.mem_def, inserting] at isCall
            cases isCall
            exact absent
          rcases Clients.log_of_steps walked with ⟨added, isMore⟩
          rw [isMore, isLog]
          exact not_unique_of_stale known stale added
        · exact absurd isFresh fresh

end Dragonflow.CassandraDriver
