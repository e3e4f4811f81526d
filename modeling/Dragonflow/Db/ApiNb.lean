import Dragonflow.Foundation.Dict
import Dragonflow.Foundation.Program
import Dragonflow.Db.Mixins

/-! # The northbound API

`NbApi.create` and `NbApi.update` of `dragonflow/db/api_nb.py`, over a database
that keeps one serialised instance for each table and id, as the etcd driver
does. Both return the instance that they publish.
-/

namespace Dragonflow

open Program

variable {α : Type}

/-- Creating and setting a key both write it, whether it was there or not. -/
abbrev NbDatabase (α : Type) := Dict ObjectKey (Json α)

abbrev NbAction (α β : Type) := Program (NbDatabase α) PyError β

namespace NbApi

/-- `driver.set_key`, and the event that goes with it. -/
def write (object : Object α) : NbAction α (Option (Json α)) := do
  let serializedObj ← Program.ofExcept object.toJson
  modify fun database => database.insert object.key serializedObj
  return some serializedObj

def create (object : Object α) (uniqueKey : Int) :
    NbAction α (Option (Json α)) := do
  let created ← Program.ofExcept (object.onCreatePre uniqueKey)
  write created

variable [DecidableEq α]

def update (object : Object α) : NbAction α (Option (Json α)) := do
  let database ← get
  match database.lookup object.key with
  | none => throw .dbKeyNotFound
  | some stored =>
      let (fullObj, changedFields) ← Program.ofExcept (stored.content.update object)
      if changedFields = [] then
        return none
      else
        let numbered ← Program.ofExcept (fullObj.onUpdatePre stored.content)
        write numbered

end NbApi

/-! ## What is written -/

theorem NbApi.write_leads (object : Object α) (database : NbDatabase α) :
    Leads (NbApi.write object) database
      (fun event after => event = some ⟨object.normal⟩ ∧
        after = database.insert object.key ⟨object.normal⟩)
      (fun _ after => after = database) := by
  unfold NbApi.write Object.toJson
  by_cases valid : object.valid = true
  · rw [if_pos valid]
    exact ⟨rfl, rfl⟩
  · rw [if_neg valid]
    exact rfl

theorem NbApi.create_leads (object : Object α) (uniqueKey : Int)
    (database : NbDatabase α) :
    Leads (NbApi.create object uniqueKey) database
      (fun event after => ∃ created, object.onCreatePre uniqueKey = .ok created ∧
        event = some ⟨created.normal⟩ ∧
        after = database.insert created.key ⟨created.normal⟩)
      (fun _ after => after = database) := by
  unfold NbApi.create
  rw [leads_bind]
  refine (Leads.ofExcept _).mono ?_ fun _ _ raised => raised.2
  intro created middle prepared
  rcases prepared with ⟨prepared, rfl⟩
  refine (NbApi.write_leads created middle).mono ?_ fun _ _ raised => raised
  intro event after written
  exact ⟨created, prepared, written⟩

theorem NbApi.update_leads [DecidableEq α] (object : Object α)
    (database : NbDatabase α) :
    Leads (NbApi.update object) database
      (fun event after => (event = none ∧ after = database) ∨
        ∃ stored fullObj changedFields numbered,
          database.lookup object.key = some stored ∧
          stored.content.update object = .ok (fullObj, changedFields) ∧
          fullObj.onUpdatePre stored.content = .ok numbered ∧
          event = some ⟨numbered.normal⟩ ∧
          after = database.insert numbered.key ⟨numbered.normal⟩)
      (fun _ after => after = database) := by
  unfold NbApi.update
  rw [leads_bind, leads_get]
  cases found : database.lookup object.key with
  | none => exact rfl
  | some stored =>
      simp only
      rw [leads_bind]
      refine (Leads.ofExcept _).mono ?_ fun _ _ raised => raised.2
      intro merged middle updated
      rcases merged with ⟨fullObj, changedFields⟩
      rcases updated with ⟨updated, rfl⟩
      simp only
      split
      · exact Or.inl ⟨rfl, rfl⟩
      · rw [leads_bind]
        refine (Leads.ofExcept _).mono ?_ fun _ _ raised => raised.2
        intro numbered current bumped
        rcases bumped with ⟨bumped, rfl⟩
        refine (NbApi.write_leads numbered current).mono ?_ fun _ _ raised => raised
        intro event after written
        exact Or.inr ⟨stored, fullObj, changedFields, numbered, rfl, updated,
          bumped, written⟩

/-! ## Versions of what is written -/

namespace Object

/-- `on_create_pre` keeps the version that is set, and starts with one. -/
theorem version?_onCreatePre {object created : Object α} {uniqueKey : Int}
    (versioned : object.model.Versioned) (setOrUnset : object.VersionSetOrUnset)
    (prepared : object.onCreatePre uniqueKey = .ok created) :
    created.key = object.key ∧ created.version? = some (object.version?.getD 1) := by
  have keepsVersion (numbered : Object α) (number : Int)
      (isNumbered : numbered.version? = some number) :
      (numbered.setField "unique_key" (.scalar (.int uniqueKey))).version? =
        some number := by
    rw [version?_eq_some, lookup_setField, if_neg (by decide)]
    exact version?_eq_some.mp isNumbered
  have numbered : ∃ numbered : Object α, numbered.key = object.key ∧
      numbered.version? = some (object.version?.getD 1) ∧
      created = if object.model.is .uniqueKey then
        numbered.setField "unique_key" (.scalar (.int uniqueKey)) else numbered := by
    unfold onCreatePre at prepared
    rw [if_pos versioned.mixin, object.read_version versioned] at prepared
    rcases setOrUnset with unset | isSet
    · refine ⟨object.setField "version" (.scalar (.int 1)), rfl, ?_, ?_⟩
      · rw [version?_eq_some, lookup_setField, if_pos rfl]
        simp [version?, unset]
      · rw [unset] at prepared
        split <;> simp_all [bind, Except.bind, pure, Except.pure]
    · rcases Option.isSome_iff_exists.mp isSet with ⟨number, isNumber⟩
      refine ⟨object, rfl, by simp [isNumber], ?_⟩
      rw [version?_eq_some.mp isNumber] at prepared
      split <;> simp_all [bind, Except.bind, pure, Except.pure]
  rcases numbered with ⟨numbered, sameKey, isNumbered, rfl⟩
  split
  · exact ⟨sameKey, keepsVersion numbered _ isNumbered⟩
  · exact ⟨sameKey, isNumbered⟩

variable [DecidableEq α]

/-- A round of the merge changes nothing but its own field. -/
theorem updateField_other {object updated : Object α} {field : FieldDeclaration}
    {value : Value α} {changed : List FieldName}
    (merged : object.updateField field value = .ok (updated, changed)) :
    updated.key = object.key ∧ ∀ wanted, wanted ≠ field.name →
      updated.fields.lookup wanted = object.fields.lookup wanted := by
  unfold updateField at merged
  cases old : object.read field.name with
  | error error =>
      rw [old] at merged
      cases merged
  | ok oldValue =>
      rw [old] at merged
      simp only [bind, Except.bind] at merged
      split at merged
      · cases merged
        exact ⟨rfl, fun _ _ => rfl⟩
      · split at merged
        · split at merged
          · cases merged
          · cases merged
            refine ⟨rfl, fun wanted different => ?_⟩
            rw [lookup_delField, if_neg different]
        · cases merged
          refine ⟨rfl, fun wanted different => ?_⟩
          rw [lookup_setField, if_neg different]

omit [DecidableEq α] in
theorem normal_eq_int {value : Value α} {number : Int}
    (same : value.normal = .scalar (.int number)) :
    value = .scalar (.int number) := by
  cases value with
  | scalar value => simpa [Value.normal] using same
  | none => simp [Value.normal] at same
  | list items => simp [Value.normal] at same
  | record model fields => simp [Value.normal] at same
  | object embedded => simp [Value.normal] at same
  | proxy reference => simp [Value.normal] at same

/-- Merging a version takes it over. -/
theorem updateField_version {object updated : Object α} {field : FieldDeclaration}
    {number : Int} {changed : List FieldName} (isVersion : field.name = "version")
    (merged : object.updateField field (.scalar (.int number)) =
      .ok (updated, changed)) :
    updated.version? = some number := by
  unfold updateField at merged
  rw [isVersion] at merged
  cases old : object.read "version" with
  | error error =>
      rw [old] at merged
      cases merged
  | ok oldValue =>
      rw [old] at merged
      simp only [bind, Except.bind, Value.isNone] at merged
      split at merged
      · next same =>
          cases merged
          have sameInt : oldValue.normal = .scalar (.int number) := by
            rw [same, Value.normal]
          rw [normal_eq_int sameInt] at old
          exact version?_of_read old
      · cases merged
        rw [version?_eq_some, lookup_setField, if_pos rfl]

/-- A bound that the version meets, and every version that is merged, is met in
the end. -/
theorem updateFields_version (bound : Int → Prop)
    (entries : List (FieldDeclaration × Value α)) {object merged : Object α}
    {changed : List FieldName}
    (given : ∀ entry ∈ entries, entry.1.name = "version" →
      ∃ own, entry.2 = .scalar (.int own) ∧ bound own)
    (numbered : ∃ number, object.version? = some number ∧ bound number)
    (updated : object.updateFields entries = .ok (merged, changed)) :
    merged.key = object.key ∧
      ∃ number, merged.version? = some number ∧ bound number := by
  induction entries generalizing object merged changed with
  | nil =>
      cases updated
      exact ⟨rfl, numbered⟩
  | cons entry entries induction =>
      rcases entry with ⟨field, value⟩
      unfold updateFields at updated
      cases first : object.updateField field value with
      | error error =>
          rw [first] at updated
          cases updated
      | ok next =>
          rcases next with ⟨next, changedNow⟩
          rw [first] at updated
          simp only [bind, Except.bind] at updated
          cases rest : next.updateFields entries with
          | error error =>
              rw [rest] at updated
              cases updated
          | ok final =>
              rw [rest] at updated
              cases updated
              have nextNumbered : ∃ number, next.version? = some number ∧
                  bound number := by
                by_cases isVersion : field.name = "version"
                · rcases given (field, value) (by simp) isVersion with ⟨own, rfl, met⟩
                  exact ⟨own, updateField_version isVersion first, met⟩
                · rcases numbered with ⟨number, isNumber, met⟩
                  refine ⟨number, ?_, met⟩
                  rw [version?_eq_some,
                    (updateField_other first).2 "version" (Ne.symm isVersion)]
                  exact version?_eq_some.mp isNumber
              rcases induction (fun entry member => given entry (by simp [member]))
                nextNumbered rest with ⟨sameKey, result⟩
              exact ⟨sameKey.trans (updateField_other first).1, result⟩

/-- An update whose version is not below the stored one is written with a higher
version. -/
theorem version?_onUpdatePre {stored object merged numbered : Object α}
    {changed : List FieldName} (versioned : object.model.Versioned)
    (sameKey : stored.key = object.key) (setOrUnset : object.VersionSetOrUnset)
    {old : Int} (isOld : stored.version? = some old)
    (notBelow : ∀ own, object.version? = some own → old ≤ own)
    (updated : stored.update object = .ok (merged, changed))
    (bumped : merged.onUpdatePre stored = .ok numbered) :
    numbered.key = object.key ∧
      ∃ new, numbered.version? = some new ∧ old < new := by
  have given : ∀ entry ∈ object.iterateOverSetFields, entry.1.name = "version" →
      ∃ own, entry.2 = .scalar (.int own) ∧ old ≤ own := by
    intro entry member isVersion
    rcases List.mem_filterMap.mp member with ⟨field, _, found⟩
    rcases Option.map_eq_some_iff.mp found with ⟨value, lookup, rfl⟩
    simp only at isVersion
    rw [isVersion] at lookup
    rcases setOrUnset with unset | isSet
    · rw [unset] at lookup
      cases lookup
    · rcases Option.isSome_iff_exists.mp isSet with ⟨own, isOwn⟩
      rw [version?_eq_some.mp isOwn] at lookup
      cases lookup
      exact ⟨own, rfl, notBelow own isOwn⟩
  rcases updateFields_version (fun number => old ≤ number) _ given
    ⟨old, isOld, Int.le_refl old⟩ updated with ⟨mergedKey, number, isNumber, atLeast⟩
  have sameModel : merged.model = object.model :=
    congrArg Prod.fst (mergedKey.trans sameKey)
  unfold onUpdatePre at bumped
  rw [sameModel, if_pos versioned.mixin, read_version_of_some isNumber,
    read_version_of_some isOld] at bumped
  have compared : (Value.scalar (.int number) : Value α).normal =
      (Value.scalar (.int old)).normal ↔ number = old := by
    simp [Value.normal]
  simp only [bind, Except.bind] at bumped
  by_cases same : number = old
  · rw [if_pos (compared.mpr same)] at bumped
    cases bumped
    refine ⟨mergedKey.trans sameKey, number + 1, ?_, by omega⟩
    rw [version?_eq_some, lookup_setField, if_pos rfl]
  · rw [if_neg fun equal => same (compared.mp equal)] at bumped
    cases bumped
    exact ⟨mergedKey.trans sameKey, number, isNumber, by omega⟩

end Object

end Dragonflow
