import Dragonflow.Db.PartialUpdateTexts
import Mathlib.Data.Finset.Lattice.Basic

/-! # What a partial update leaves

An update takes over the fields that are set in the other instance, and the hooks only
touch the fields that they maintain.
-/

namespace Dragonflow

variable {α : Type} [BEq α] [EquivBEq α]

namespace NbModel

variable {model : NbModel α} {object other : Instance α}

/-! ## Taking fields over -/

omit [EquivBEq α] in
/-- One round: the field is the other one's, and is changed if it was not the same. -/
theorem updateField_spec (lawful : model.Lawful) {field : ModelField α}
    (member : field ∈ model.fields) (built : object.Built model) (reads : object.Reads model)
    {new : PyValue α} (isNew : other.getattr field = .ok new) (keeps : field.Keeps new) :
    ∃ updated changed, updateField object other field = .ok (updated, changed) ∧
      updated.Built model ∧ updated.Reads model ∧ updated.id = object.id ∧
      (∀ name ≠ field.name, updated.memory name = object.memory name) ∧
      ∃ old result, object.getattr field = .ok old ∧ updated.getattr field = .ok result ∧
        (result == new) = true ∧
        ∀ name, name ∈ changed ↔ name = field.name ∧ (old == new) = false := by
  rcases reads field member with ⟨old, isOld⟩
  unfold updateField
  rw [isOld, isNew]
  simp only [bind, Except.bind]
  cases equal : old == new with
  | true =>
      refine ⟨object, ∅, rfl, built, reads, rfl, fun _ _ => rfl, old, old, rfl, isOld,
        equal, ?_⟩
      simp [equal]
  | false =>
      rcases (lawful.fields field member).again new keeps with ⟨same, isSet, sameNew⟩
      have keepsSame : field.Keeps same := ⟨new, isSet⟩
      rw [if_neg Bool.false_ne_true]
      cases none : new.isNone with
      | true =>
          rw [PyValue.isNone_iff.mp none] at isSet
          rcases Instance.delattr_sets object isSet with ⟨deleted, isDeleted, sets⟩
          rw [if_pos rfl, isDeleted]
          refine ⟨deleted, {field.name}, rfl, sets.built member built keepsSame,
            sets.reads member reads, sets.id, sets.others, old, same, rfl,
            Instance.getattr_of_memory sets.memory, sameNew, ?_⟩
          simp [equal]
      | false =>
          rcases Instance.setattr_sets object isSet with ⟨updated, isUpdated, sets⟩
          rw [if_neg Bool.false_ne_true, isUpdated]
          refine ⟨updated, {field.name}, rfl, sets.built member built keepsSame,
            sets.reads member reads, sets.id, sets.others, old, same, rfl,
            Instance.getattr_of_memory sets.memory, sameNew, ?_⟩
          simp [equal]

omit [EquivBEq α] in
theorem updateFields_spec (lawful : model.Lawful) {fields : List (ModelField α)}
    (declared : ∀ field ∈ fields, field ∈ model.fields)
    (distinct : (fields.map ModelField.name).Nodup)
    (given : ∀ field ∈ fields, ∃ new, other.getattr field = .ok new ∧ field.Keeps new)
    (built : object.Built model) (reads : object.Reads model) :
    ∃ merged changed, updateFields other object fields = .ok (merged, changed) ∧
      merged.Built model ∧ merged.Reads model ∧ merged.id = object.id ∧
      (∀ name ∉ fields.map ModelField.name, merged.memory name = object.memory name) ∧
      (∀ name ∈ changed, name ∈ fields.map ModelField.name) ∧
      ∀ field ∈ fields, ∃ old new result, object.getattr field = .ok old ∧
        other.getattr field = .ok new ∧ merged.getattr field = .ok result ∧
        (result == new) = true ∧ (field.name ∈ changed ↔ (old == new) = false) := by
  induction fields generalizing object with
  | nil =>
      exact ⟨object, ∅, rfl, built, reads, rfl, fun _ _ => rfl,
        fun _ member => (by simp at member), fun _ member => (by cases member)⟩
  | cons field rest induction =>
      rw [List.map_cons, List.nodup_cons] at distinct
      rcases given field List.mem_cons_self with ⟨new, isNew, keeps⟩
      rcases updateField_spec lawful (declared field List.mem_cons_self) built reads isNew
        keeps with ⟨updated, changedNow, isUpdated, builtNow, readsNow, sameId, others,
          old, result, isOld, isResult, equal, changes⟩
      rcases induction (fun field member => declared field (List.mem_cons_of_mem _ member))
        distinct.2 (fun field member => given field (List.mem_cons_of_mem _ member)) builtNow
        readsNow with ⟨merged, changedLater, isMerged, builtLater, readsLater, sameLater,
          untouched, names, each⟩
      refine ⟨merged, changedNow ∪ changedLater, ?_, builtLater, readsLater,
        sameLater.trans sameId, ?_, ?_, ?_⟩
      · simp only [updateFields, isUpdated, bind, Except.bind, isMerged]
        rfl
      · intro name absent
        rw [List.map_cons, List.mem_cons, not_or] at absent
        rw [untouched name absent.2, others name absent.1]
      · intro name member
        rcases Finset.mem_union.mp member with now | later
        · rw [((changes name).mp now).1]
          exact List.mem_cons_self
        · exact List.mem_cons_of_mem _ (names name later)
      · intro wanted member
        rcases List.mem_cons.mp member with rfl | later
        · refine ⟨old, new, result, isOld, isNew, ?_, equal, ?_⟩
          · rw [Instance.getattr_congr (untouched _ distinct.1)]
            exact isResult
          · rw [Finset.mem_union, changes]
            constructor
            · intro either
              rcases either with now | later
              · exact now.2
              · exact absurd (names _ later) distinct.1
            · exact fun different => Or.inl ⟨rfl, different⟩
        · have apart : wanted.name ≠ field.name := by
            intro sameName
            exact distinct.1 (sameName ▸ List.mem_map_of_mem later)
          rcases each wanted later with
            ⟨oldLater, newLater, resultLater, isOldLater, rest⟩
          refine ⟨oldLater, newLater, resultLater, ?_, rest.1, rest.2.1, rest.2.2.1, ?_⟩
          · rw [← Instance.getattr_congr (others _ apart)]
            exact isOldLater
          · rw [Finset.mem_union, changes, ← rest.2.2.2]
            simp [apart]

/-- What is merged, and what is told of it. -/
structure Merges (model : NbModel α) (object other merged : Instance α)
    (changed : Finset FieldName) : Prop where
  id : merged.id = object.id
  built : merged.Built model
  reads : merged.Reads model
  declared : ∀ name ∈ changed, name ∈ model.fieldNames
  /-- The fields of which the value has changed are told. -/
  changes : ∀ field ∈ model.fields, ∃ old new, object.getattr field = .ok old ∧
    merged.getattr field = .ok new ∧ (field.name ∈ changed ↔ (old == new) = false)
  taken : ∀ field ∈ model.fields, field.name ∈ other.setFields → ∃ value same,
    other.getattr field = .ok value ∧ merged.getattr field = .ok same ∧
      (same == value) = true
  kept : ∀ field ∈ model.fields, field.name ∉ other.setFields →
    merged.memory field.name = object.memory field.name

theorem update_merges (lawful : model.Lawful) (built : object.Built model)
    (reads : object.Reads model) (otherBuilt : other.Built model) :
    ∃ merged changed, model.update object other = .ok (merged, changed) ∧
      model.Merges object other merged changed := by
  have chosen : ∀ field, field ∈ model.iterateOverSetFields other ↔
      field ∈ model.fields ∧ field.name ∈ other.setFields := by
    intro field
    rw [iterateOverSetFields, List.mem_filter, decide_eq_true_eq]
  have distinct : ((model.iterateOverSetFields other).map ModelField.name).Nodup :=
    model.nodup.sublist (List.filter_sublist.map ModelField.name)
  have given : ∀ field ∈ model.iterateOverSetFields other,
      ∃ new, other.getattr field = .ok new ∧ field.Keeps new := by
    intro field member
    rcases (chosen field).mp member with ⟨declared, isSet⟩
    rcases Option.isSome_iff_exists.mp (otherBuilt.isSet field declared isSet) with
      ⟨value, kept⟩
    exact ⟨value, Instance.getattr_of_memory kept,
      otherBuilt.keeps field declared value kept⟩
  rcases updateFields_spec lawful (fun field member => ((chosen field).mp member).1) distinct
    given built reads with ⟨merged, changed, isMerged, mergedBuilt, mergedReads, sameId,
      untouched, names, each⟩
  have notNamed : ∀ field ∈ model.fields, field.name ∉ other.setFields →
      field.name ∉ (model.iterateOverSetFields other).map ModelField.name := by
    intro field declared unset listed
    rcases List.mem_map.mp listed with ⟨second, member, sameName⟩
    rw [← sameName] at unset
    exact unset ((chosen second).mp member).2
  refine ⟨merged, changed, isMerged, sameId, mergedBuilt, mergedReads, ?_, ?_, ?_, ?_⟩
  · intro name member
    rcases List.mem_map.mp (names name member) with ⟨field, listed, rfl⟩
    exact List.mem_map_of_mem ((chosen field).mp listed).1
  · intro field declared
    by_cases isSet : field.name ∈ other.setFields
    · rcases each field ((chosen field).mpr ⟨declared, isSet⟩) with
        ⟨old, new, result, isOld, _, isResult, equal, changes⟩
      refine ⟨old, result, isOld, isResult, changes.trans ?_⟩
      rw [BEq.congr_right equal]
    · rcases reads field declared with ⟨old, isOld⟩
      have same := untouched _ (notNamed field declared isSet)
      refine ⟨old, old, isOld, (Instance.getattr_congr same).trans isOld, ?_⟩
      rw [BEq.rfl]
      constructor
      · intro member
        exact absurd (names _ member) (notNamed field declared isSet)
      · intro impossible
        cases impossible
  · intro field declared isSet
    rcases each field ((chosen field).mpr ⟨declared, isSet⟩) with
      ⟨_, new, result, _, isNew, isResult, equal, _⟩
    exact ⟨new, result, isNew, isResult, equal⟩
  · intro field declared unset
    exact untouched _ (notNamed field declared unset)

/-! ## Hooks -/

/-- A field that the hooks of the class maintain. -/
def Maintains (model : NbModel α) (field : ModelField α) : Prop :=
  model.version = some field ∨ model.timestamp = some field

/-- The field of the timestamp takes what the clock shows. -/
def TakesTime (model : NbModel α) (now : PyValue α) : Prop :=
  ∀ field, model.timestamp = some field → ∃ kept, field.set now = .ok kept

/-- Only a field that is maintained has been touched. -/
structure Prepares (model : NbModel α) (merged prepared : Instance α) : Prop where
  id : prepared.id = merged.id
  built : prepared.Built model
  reads : prepared.Reads model
  others : ∀ field ∈ model.fields, ¬ model.Maintains field →
    prepared.memory field.name = merged.memory field.name

omit [BEq α] [EquivBEq α] in
theorem Prepares.sets {merged prepared updated : Instance α}
    (prepares : model.Prepares merged prepared) {field : ModelField α} {kept : PyValue α}
    (member : field ∈ model.fields) (maintained : model.Maintains field)
    (sets : prepared.Sets updated field kept) (keeps : field.Keeps kept) :
    model.Prepares merged updated where
  id := sets.id.trans prepares.id
  built := sets.built member prepares.built keeps
  reads := sets.reads member prepares.reads
  others := by
    intro other declared notMaintained
    have apart : other.name ≠ field.name := by
      intro sameName
      exact notMaintained (name_inj declared member sameName ▸ maintained)
    rw [sets.others _ apart]
    exact prepares.others other declared notMaintained

omit [EquivBEq α] in
theorem bumpVersion_prepares (lawful : model.Lawful) {merged orig : Instance α}
    (built : merged.Built model) (reads : merged.Reads model)
    (versioned : ∀ field, model.version = some field →
      ∃ number, orig.getattr field = .ok (.int number)) :
    ∃ prepared, model.bumpVersion merged orig = .ok prepared ∧
      model.Prepares merged prepared := by
  have unchanged : model.Prepares merged merged := ⟨rfl, built, reads, fun _ _ _ => rfl⟩
  unfold bumpVersion
  cases isVersion : model.version with
  | none => exact ⟨merged, rfl, unchanged⟩
  | some field =>
      have declared := model.version_mem field isVersion
      rcases versioned field isVersion with ⟨number, isOld⟩
      rcases reads field declared with ⟨own, isOwn⟩
      simp only [isOwn, isOld, bind, Except.bind]
      cases equal : own == PyValue.int number with
      | false => exact ⟨merged, rfl, unchanged⟩
      | true =>
          rw [PyValue.eq_int equal, if_pos rfl]
          have taken := lawful.version field isVersion (number + 1)
          rcases Instance.setattr_sets merged taken with
            ⟨prepared, isPrepared, sets⟩
          exact ⟨prepared, isPrepared, unchanged.sets declared (Or.inl isVersion) sets
            ⟨_, taken⟩⟩

omit [EquivBEq α] in
theorem onUpdatePre_prepares (lawful : model.Lawful) {merged orig : Instance α}
    (built : merged.Built model) (reads : merged.Reads model)
    (versioned : ∀ field, model.version = some field →
      ∃ number, orig.getattr field = .ok (.int number))
    {now : PyValue α} (takesTime : model.TakesTime now) :
    ∃ prepared, model.onUpdatePre now merged orig = .ok prepared ∧
      model.Prepares merged prepared := by
  rcases bumpVersion_prepares lawful built reads versioned with
    ⟨numbered, isNumbered, prepares⟩
  unfold onUpdatePre updateTimestamp
  rw [isNumbered]
  cases isTimestamp : model.timestamp with
  | none => exact ⟨numbered, rfl, prepares⟩
  | some field =>
      rcases takesTime field isTimestamp with ⟨kept, taken⟩
      rcases Instance.setattr_sets numbered taken with
        ⟨prepared, isPrepared, sets⟩
      exact ⟨prepared, isPrepared, prepares.sets (model.timestamp_mem field isTimestamp)
        (Or.inr isTimestamp) sets ⟨_, taken⟩⟩

/-! ## Writing -/

omit [BEq α] [EquivBEq α] in
theorem validate_of_keeps {field : ModelField α} {value : PyValue α}
    (keeps : field.Keeps value) : field.validate value = .ok () := by
  rcases keeps with ⟨given, taken⟩
  unfold ModelField.set at taken
  cases parsed : field.parseValue given with
  | error error =>
      rw [parsed] at taken
      cases taken
  | ok held =>
      rw [parsed] at taken
      simp only [bind, Except.bind] at taken
      cases valid : field.validate held with
      | error error =>
          rw [valid] at taken
          cases taken
      | ok done =>
          rw [valid] at taken
          cases taken
          exact valid

omit [BEq α] [EquivBEq α] in
theorem validateFields_ok {fields : List (ModelField α)}
    (declared : ∀ field ∈ fields, field ∈ model.fields) (built : object.Built model)
    (reads : object.Reads model) : validateFields object fields = .ok () := by
  induction fields with
  | nil => rfl
  | cons field rest induction =>
      have member := declared field List.mem_cons_self
      rcases reads field member with ⟨value, isRead⟩
      simp only [validateFields, isRead, bind, Except.bind,
        validate_of_keeps (built.keeps_getattr member isRead)]
      exact induction fun other later => declared other (List.mem_cons_of_mem _ later)

omit [EquivBEq α] in
/-- Only the class itself can refuse to write an instance. -/
theorem toJson_raises (lawful : model.Lawful) (built : object.Built model)
    (reads : object.Reads model) {error : PyError}
    (raised : model.toJson object = .error error) :
    model.validateSelf (model.readings object) = .error error := by
  have writes : ∀ field ∈ model.fields, ∃ written, writeField object field = .ok written := by
    intro field member
    rcases reads field member with ⟨value, isRead⟩
    unfold writeField
    rw [isRead]
    cases none : value.isNone with
    | true => exact ⟨.none, by simp only [bind, Except.bind, none]; rfl⟩
    | false =>
        rcases (lawful.fields field member).readBack value
          (built.keeps_getattr member isRead) none with ⟨struct, _, isStruct, _⟩
        exact ⟨some struct, by simp only [bind, Except.bind, none, isStruct]; rfl⟩
  rcases collect_ok writes with ⟨made, isMade⟩
  unfold toJson at raised
  rw [validateFields_ok (fun _ member => member) built reads] at raised
  simp only [bind, Except.bind] at raised
  cases own : model.validateSelf (model.readings object) with
  | error refused =>
      rw [own] at raised
      cases raised
      rfl
  | ok done =>
      rw [own] at raised
      simp only [isMade] at raised
      cases raised

end NbModel

/-! ## The stored object -/

/-- The text of an instance, as the API writes it. -/
def NbModel.IsText (model : NbModel α) (text : Keywords α) (written : Instance α) : Prop :=
  written.Built model ∧ model.toJson written = .ok text

/-- The instance has a version, if there is one to have. -/
def NbModel.IsVersioned (model : NbModel α) (written : Instance α) : Prop :=
  ∀ field, model.version = some field → ∃ number, written.getattr field = .ok (.int number)

/-- The stored object is the one before with the fields that are set in the update, but for
the fields that the hooks maintain. -/
structure NbModel.Updates (model : NbModel α) (before object after : Instance α) : Prop where
  taken : ∀ field ∈ model.fields, ¬ model.Maintains field →
    field.name ∈ object.setFields → ∃ value same, object.getattr field = .ok value ∧
      after.getattr field = .ok same ∧ (same == value) = true ∧
      (value = .none → field.name ∉ after.setFields)
  kept : ∀ field ∈ model.fields, ¬ model.Maintains field →
    field.name ∉ object.setFields → ∃ value same, before.getattr field = .ok value ∧
      after.getattr field = .ok same ∧ (same == value) = true ∧
      (field.name ∈ after.setFields ↔ field.name ∈ before.setFields)

/-- The instance that is read says what the written one says. -/
structure NbModel.ReadsBack (model : NbModel α) (written object : Instance α) : Prop where
  built : object.Built model
  fresh : ∀ field ∈ model.fields, field.name ∉ object.setFields →
    object.memory field.name = none
  same : ∀ field ∈ model.fields, ∃ value same, written.getattr field = .ok value ∧
    object.getattr field = .ok same ∧ (same == value) = true ∧
    (field.name ∈ object.setFields ↔ same.isNone = false)

namespace NbModel

variable {model : NbModel α} {written before merged prepared object after dup : Instance α}
  {text : Keywords α} {changed : Finset FieldName}

theorem IsText.readsBack (lawful : model.Lawful) (isText : model.IsText text written)
    (id : Id) : ∃ object, model.fromJson id text = .ok object ∧ object.id = id ∧
      model.ReadsBack written object := by
  rcases fromJson_toJson lawful isText.1 isText.2 id with
    ⟨object, isRead, sameId, built, fresh, same⟩
  exact ⟨object, isRead, sameId, built, fresh, same⟩

omit [EquivBEq α] in
theorem ReadsBack.reads (back : model.ReadsBack written object) : object.Reads model := by
  intro field member
  rcases back.same field member with ⟨_, same, _, isRead, _⟩
  exact ⟨same, isRead⟩

theorem isNone_congr {value same : PyValue α} (equal : (same == value) = true) :
    same.isNone = value.isNone := by
  rw [Bool.eq_iff_iff, PyValue.isNone_iff, PyValue.isNone_iff]
  constructor
  · intro none
    rw [none] at equal
    exact PyValue.eq_none (BEq.symm equal)
  · intro none
    rw [none] at equal
    exact PyValue.eq_none equal

theorem ReadsBack.updates (back : model.ReadsBack written before)
    (merges : model.Merges before object merged changed)
    (prepares : model.Prepares merged prepared)
    (backLater : model.ReadsBack prepared after) : model.Updates before object after where
  taken := by
    intro field member notMaintained isSet
    rcases merges.taken field member isSet with ⟨value, result, isValue, isResult, equal⟩
    rcases backLater.same field member with ⟨wrote, same, isWritten, isRead, sameWritten, set⟩
    rw [Instance.getattr_congr (prepares.others field member notMaintained)] at isWritten
    cases isWritten.symm.trans isResult
    have sameValue := BEq.trans sameWritten equal
    refine ⟨value, same, isValue, isRead, sameValue, ?_⟩
    intro isNone
    rw [set, isNone_congr sameValue, isNone]
    simp [PyValue.isNone]
  kept := by
    intro field member notMaintained unset
    rcases back.same field member with ⟨_, value, _, isValue, _, setBefore⟩
    rcases backLater.same field member with ⟨wrote, same, isWritten, isRead, sameWritten, set⟩
    have sameMemory := (prepares.others field member notMaintained).trans
      (merges.kept field member unset)
    rw [Instance.getattr_congr sameMemory] at isWritten
    cases isWritten.symm.trans isValue
    refine ⟨value, same, isValue, isRead, sameWritten, ?_⟩
    rw [set, setBefore, isNone_congr sameWritten]

omit [EquivBEq α] in
/-- An update that changes nothing leaves what is stored as good as merged. -/
theorem ReadsBack.of_unchanged (back : model.ReadsBack written before)
    (merges : model.Merges before object merged changed) (unchanged : changed = ∅) :
    model.ReadsBack merged before where
  built := back.built
  fresh := back.fresh
  same := by
    intro field member
    rcases back.same field member with ⟨_, held, _, isHeld, _, set⟩
    rcases merges.changes field member with ⟨old, new, isOld, isNew, changes⟩
    cases isHeld.symm.trans isOld
    refine ⟨new, held, isNew, isHeld, ?_, set⟩
    cases equal : held == new with
    | true => rfl
    | false =>
        have told := changes.mpr equal
        rw [unchanged] at told
        simp at told

/-- Nothing has changed if the object has what the update says. -/
theorem Merges.unchanged (merges : model.Merges before object merged changed)
    (same : ∀ field ∈ model.fields, field.name ∈ object.setFields → ∃ value held,
      object.getattr field = .ok value ∧ before.getattr field = .ok held ∧
        (held == value) = true) : changed = ∅ := by
  rw [Finset.eq_empty_iff_forall_notMem]
  intro name told
  rcases List.mem_map.mp (merges.declared name told) with ⟨field, member, rfl⟩
  rcases merges.changes field member with ⟨old, new, isOld, isNew, changes⟩
  have different := changes.mp told
  by_cases isSet : field.name ∈ object.setFields
  · rcases same field member isSet with ⟨value, held, isValue, isHeld, equal⟩
    rcases merges.taken field member isSet with ⟨_, result, isTaken, isResult, equalResult⟩
    cases isTaken.symm.trans isValue
    cases isHeld.symm.trans isOld
    cases isResult.symm.trans isNew
    rw [BEq.trans equal (BEq.symm equalResult)] at different
    cases different
  · rw [Instance.getattr_congr (merges.kept field member isSet)] at isNew
    cases isNew.symm.trans isOld
    rw [BEq.rfl] at different
    cases different

end NbModel

namespace NbTable

open NbModel

variable {model : NbModel α} {object written : Instance α} {table : NbTable α}
  {text : Keywords α}

/-- What an update reads and merges before it writes. -/
theorem update_steps (lawful : model.Lawful) (built : object.Built model)
    (stored : table.entries object.id = some text) (isText : model.IsText text written)
    (now : PyValue α) (skipSendEvent : Bool) :
    ∃ before dup merged changed, model.fromJson object.id text = .ok before ∧
      model.ReadsBack written before ∧
      (∀ field ∈ model.fields, ∀ value, before.getattr field = .ok value →
        ∃ same, dup.getattr field = .ok same ∧ (same == value) = true) ∧
      model.update before object = .ok (merged, changed) ∧
      model.Merges before object merged changed ∧ merged.id = object.id ∧
      table.update model now object skipSendEvent =
        if changed = ∅ then .ok table
        else do
          let prepared ← model.onUpdatePre now merged dup
          let serializedObj ← model.toJson prepared
          return table.setKey skipSendEvent prepared.id serializedObj := by
  rcases isText.readsBack lawful object.id with ⟨before, isBefore, sameId, back⟩
  rcases copy_spec lawful back.built back.fresh with ⟨dup, isDup, copied⟩
  rcases update_merges lawful back.built back.reads built with
    ⟨merged, changed, isMerged, merges⟩
  refine ⟨before, dup, merged, changed, isBefore, back, copied, isMerged, merges,
    merges.id.trans sameId, ?_⟩
  unfold update
  rw [stored]
  simp only [bind, Except.bind, isBefore, isDup, isMerged]
  by_cases unchanged : changed = ∅
  · rw [if_pos unchanged, if_pos unchanged]
    rfl
  · rw [if_neg unchanged, if_neg unchanged]

/-- The update tells the fields that change and writes the merged object, which only the
class itself can refuse. Where it leaves the fields alone that the hooks maintain, it has
nothing to do a second time. -/
def MergesExactly (model : NbModel α) (table : NbTable α) (object : Instance α)
    (text : Keywords α) (now : PyValue α) (skipSendEvent : Bool) : Prop :=
  ∃ before merged changed, model.fromJson object.id text = .ok before ∧
    model.update before object = .ok (merged, changed) ∧
    (∀ name ∈ changed, name ∈ model.fieldNames) ∧
    (∀ field ∈ model.fields, ∃ old new, before.getattr field = .ok old ∧
      merged.getattr field = .ok new ∧ (field.name ∈ changed ↔ (old == new) = false)) ∧
    (changed = ∅ → table.update model now object skipSendEvent = .ok table) ∧
    (∀ error, table.update model now object skipSendEvent = .error error →
      ∃ readings, model.validateSelf readings = .error error) ∧
    ∀ updated, table.update model now object skipSendEvent = .ok updated →
      (∀ id ≠ object.id, updated.entries id = table.entries id) ∧
      ∃ newText after, updated.entries object.id = some newText ∧
        model.fromJson object.id newText = .ok after ∧
        model.Updates before object after ∧
        ((∀ field, model.Maintains field → field.name ∉ object.setFields) →
          ∀ later skip, updated.update model later object skip = .ok updated)

theorem partial_update_merges (lawful : model.Lawful) (built : object.Built model)
    (stored : table.entries object.id = some text) (isText : model.IsText text written)
    (isVersioned : model.IsVersioned written) {now : PyValue α}
    (takesTime : model.TakesTime now) (skipSendEvent : Bool) :
    table.MergesExactly model object text now skipSendEvent := by
  rcases update_steps lawful built stored isText now skipSendEvent with
    ⟨before, dup, merged, changed, isBefore, back, copied, isMerged, merges, sameId, steps⟩
  have versioned : ∀ field, model.version = some field →
      ∃ number, dup.getattr field = .ok (.int number) := by
    intro field isVersion
    have member := model.version_mem field isVersion
    rcases isVersioned field isVersion with ⟨number, isNumber⟩
    rcases back.same field member with ⟨_, same, isRead, isSame, equal, _⟩
    cases isRead.symm.trans isNumber
    rw [PyValue.eq_int equal] at isSame
    rcases copied field member _ isSame with ⟨dupValue, isCopied, sameCopied⟩
    rw [PyValue.eq_int sameCopied] at isCopied
    exact ⟨number, isCopied⟩
  rcases onUpdatePre_prepares lawful merges.built merges.reads versioned takesTime with
    ⟨prepared, isPrepared, prepares⟩
  have preparedId : prepared.id = object.id := prepares.id.trans sameId
  rw [isPrepared] at steps
  simp only [bind, Except.bind, preparedId] at steps
  refine ⟨before, merged, changed, isBefore, isMerged, merges.declared, merges.changes, ?_,
    ?_, ?_⟩
  · intro unchanged
    rw [steps, if_pos unchanged]
  · intro error raised
    rw [steps] at raised
    by_cases unchanged : changed = ∅
    · rw [if_pos unchanged] at raised
      cases raised
    · rw [if_neg unchanged] at raised
      cases isText : model.toJson prepared with
      | ok newText =>
          rw [isText] at raised
          cases raised
      | error refused =>
          rw [isText] at raised
          cases raised
          exact ⟨_, toJson_raises lawful prepares.built prepares.reads isText⟩
  · intro updated isUpdated
    rw [steps] at isUpdated
    -- The second time the update finds the text of what it has merged.
    have again : ∀ newText wrote after, updated.entries object.id = some newText →
        model.IsText newText wrote → model.Updates before object after →
        model.fromJson object.id newText = .ok after →
        (∀ field, model.Maintains field → field.name ∉ object.setFields) →
        ∀ later skip, updated.update model later object skip = .ok updated := by
      intro newText wrote after isStored isNewText updates isAfter spares later skip
      rcases update_steps lawful built isStored isNewText later skip with
        ⟨found, _, _, _, isFound, _, _, _, mergesLater, _, stepsLater⟩
      cases isFound.symm.trans isAfter
      rw [stepsLater, if_pos]
      apply mergesLater.unchanged
      intro field member isSet
      rcases updates.taken field member (fun maintained => spares field maintained isSet)
        isSet with ⟨value, same, isValue, isSame, equal, _⟩
      exact ⟨value, same, isValue, isSame, equal⟩
    by_cases unchanged : changed = ∅
    · rw [if_pos unchanged] at isUpdated
      cases isUpdated
      have refl : model.Prepares merged merged :=
        ⟨rfl, merges.built, merges.reads, fun _ _ _ => rfl⟩
      have updates := back.updates merges refl (back.of_unchanged merges unchanged)
      exact ⟨fun _ _ => rfl, text, before, stored, isBefore, updates,
        again text written before stored isText updates isBefore⟩
    · rw [if_neg unchanged] at isUpdated
      cases isNewText : model.toJson prepared with
      | error refused =>
          rw [isNewText] at isUpdated
          cases isUpdated
      | ok newText =>
          rw [isNewText] at isUpdated
          cases isUpdated
          have isWritten : model.IsText newText prepared := ⟨prepares.built, isNewText⟩
          rcases isWritten.readsBack lawful object.id with ⟨after, isAfter, _, backLater⟩
          have updates := back.updates merges prepares backLater
          have isStored : (table.setKey skipSendEvent object.id newText).entries object.id =
              some newText := Function.update_self _ _ _
          exact ⟨fun id different => Function.update_of_ne different _ _, newText, after,
            isStored, isAfter, updates,
            again newText prepared after isStored isWritten updates isAfter⟩

end NbTable

/-! ## Listeners -/

namespace Listener

open NbModel

/-- `IntField` -/
def intField (name : FieldName) : ModelField Nat where
  name := name
  parseValue := .ok
  validate
    | .other _ => .error .validationError
    | _ => .ok ()
  toStruct := .ok

/-- `TimestampField`, with whole seconds. -/
def timestampField (name : FieldName) : ModelField Nat where
  name := name
  parseValue := .ok
  validate
    | .int _ => .error .validationError
    | _ => .ok ()
  toStruct := .ok

/-- `core.Listener` -/
def model : NbModel Nat where
  fields := [timestampField "timestamp", intField "ppid"]
  timestamp := some (timestampField "timestamp")
  nodup := by decide
  version_mem := fun _ impossible => by cases impossible
  timestamp_mem := by
    intro field isField
    cases isField
    exact List.mem_cons_self

def stored : Keywords Nat := [("timestamp", .other 1), ("ppid", .int 3)]

def listeners : NbTable Nat where
  entries := Function.update (fun _ => none) "host" (some stored)

/-- `Listener(id="host", timestamp=5.0)` -/
def heartBeat : Instance Nat where
  id := "host"
  memory := Function.update (fun _ => none) "timestamp" (some (.other 5))
  setFields := {"timestamp"}

theorem keeps_intField {name : FieldName} {value : PyValue Nat}
    (keeps : (intField name).Keeps value) : (intField name).set value = .ok value := by
  rcases keeps with ⟨given, taken⟩
  cases given with
  | other number => cases taken
  | none =>
      cases taken
      rfl
  | int number =>
      cases taken
      rfl

theorem keeps_timestampField {name : FieldName} {value : PyValue Nat}
    (keeps : (timestampField name).Keeps value) :
    (timestampField name).set value = .ok value := by
  rcases keeps with ⟨given, taken⟩
  cases given with
  | int number => cases taken
  | none =>
      cases taken
      rfl
  | other number =>
      cases taken
      rfl

theorem lawful_model : model.Lawful where
  fields := by
    intro field member
    rcases List.mem_cons.mp member with rfl | later
    · exact
        { again := fun value keeps => ⟨value, keeps_timestampField keeps, BEq.rfl⟩
          readBack := fun value keeps _ =>
            ⟨value, value, rfl, keeps_timestampField keeps, BEq.rfl⟩
          unset := fun _ => rfl }
    · rw [List.mem_singleton.mp later]
      exact
        { again := fun value keeps => ⟨value, keeps_intField keeps, BEq.rfl⟩
          readBack := fun value keeps _ =>
            ⟨value, value, rfl, keeps_intField keeps, BEq.rfl⟩
          unset := fun _ => rfl }
  version := fun _ impossible => by cases impossible

/-- `Listener(id="host", ppid=7)` -/
def restarted : Instance Nat where
  id := "host"
  memory := Function.update (fun _ => none) "ppid" (some (.int 7))
  setFields := {"ppid"}

/-- What `from_json` makes of the stored text. -/
def storedListener : Instance Nat where
  id := "host"
  memory := Function.update (Function.update (fun _ => none) "ppid" (some (.int 3)))
    "timestamp" (some (.other 1))
  setFields := {"timestamp", "ppid"}

theorem built_restarted : restarted.Built model :=
  init_built (show model.init "host" [("ppid", .int 7)] = .ok restarted from rfl)

theorem isText_stored : model.IsText stored storedListener :=
  ⟨init_built (show model.init "host" stored = .ok storedListener from rfl), rfl⟩

theorem partial_update_merges_restarted :
    listeners.MergesExactly model restarted stored (.other 10) false :=
  NbTable.partial_update_merges lawful_model built_restarted rfl isText_stored
    (fun _ impossible => by cases impossible)
    (fun field isField => ⟨.other 10, by cases isField; rfl⟩) false

/-- The hook replaces the timestamp of the update, so that the same update finds another
one the next time. -/
theorem heart_beat_is_written_again :
    ∃ updated, listeners.update model (.other 10) heartBeat false = .ok updated ∧
      updated.events.length = 1 ∧
      ∃ again, updated.update model (.other 20) heartBeat false = .ok again ∧
        again.events.length = 2 :=
  ⟨_, rfl, rfl, _, rfl, rfl⟩

end Listener

end Dragonflow
