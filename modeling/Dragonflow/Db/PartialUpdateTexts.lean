import Dragonflow.Db.PartialUpdates
import Mathlib.Data.Finset.Lattice.Basic

/-! # Instances, their texts and their copies

The memory of an instance only has values that its fields keep. With fields that read back
what they write, a text says what the written instance says, and a copy what its original
says, whichever fields were set.
-/

namespace Dragonflow

variable {α : Type}

/-! ## Equality -/

namespace PyValue

variable [BEq α] [EquivBEq α]

instance : EquivBEq (PyValue α) where
  rfl := by
    intro value
    cases value with
    | none => rfl
    | int number => exact decide_eq_true rfl
    | other value => exact BEq.rfl (a := value)
  symm := by
    intro value second same
    cases value <;> cases second <;> first
      | exact same
      | exact decide_eq_true (of_decide_eq_true same).symm
      | exact BEq.symm (α := α) same
  trans := by
    intro value second third same other
    cases value <;> cases second <;> first
      | exact other
      | cases same
      | (cases third <;> first
          | exact other
          | exact decide_eq_true ((of_decide_eq_true same).trans (of_decide_eq_true other))
          | exact BEq.trans (α := α) same other)

omit [EquivBEq α]

theorem eq_none {value : PyValue α} (same : (value == PyValue.none) = true) :
    value = .none := by
  cases value with
  | none => rfl
  | int number => cases same
  | other value => cases same

theorem eq_int {value : PyValue α} {number : Int} (same : (value == .int number) = true) :
    value = .int number := by
  cases value with
  | none => cases same
  | int second => exact congrArg PyValue.int (of_decide_eq_true same)
  | other value => cases same

end PyValue

theorem PyValue.isNone_iff {value : PyValue α} : value.isNone = true ↔ value = .none := by
  cases value <;> simp [PyValue.isNone]

/-! ## Fields -/

/-- The value is one that the field keeps of something that it was given. -/
def ModelField.Keeps (field : ModelField α) (value : PyValue α) : Prop :=
  ∃ given, field.set given = .ok value

/-- A field takes what it keeps once more, reads back what it writes, and reads as `None`
where `None` was set. -/
structure ModelField.Lawful [BEq α] (field : ModelField α) : Prop where
  again : ∀ value, field.Keeps value →
    ∃ same, field.set value = .ok same ∧ (same == value) = true
  readBack : ∀ value, field.Keeps value → value.isNone = false →
    ∃ struct same, field.toStruct value = .ok struct ∧ field.set struct = .ok same ∧
      (same == value) = true
  unset : field.Keeps .none → field.set field.defaultValue = .ok .none

structure NbModel.Lawful [BEq α] (model : NbModel α) : Prop where
  fields : ∀ field ∈ model.fields, field.Lawful
  version : ∀ field, model.version = some field →
    ∀ number, field.set (.int number) = .ok (.int number)

/-- Every value in the memory of an instance is one that its field keeps, and a field that
was set has one. -/
structure Instance.Built (object : Instance α) (model : NbModel α) : Prop where
  keeps : ∀ field ∈ model.fields, ∀ value, object.memory field.name = some value →
    field.Keeps value
  isSet : ∀ field ∈ model.fields, field.name ∈ object.setFields →
    (object.memory field.name).isSome = true

namespace NbModel

variable {model : NbModel α}

theorem name_inj {field other : ModelField α} (member : field ∈ model.fields)
    (otherMember : other ∈ model.fields) (same : field.name = other.name) : field = other :=
  List.inj_on_of_nodup_map model.nodup member otherMember same

/-! ## Dictionaries of fields -/

section Collect

variable {write : ModelField α → Except PyError (Option (PyValue α))}
  {fields : List (ModelField α)}

theorem lookup_of_not_mem {given : Keywords α} {name : FieldName}
    (absent : name ∉ given.map Prod.fst) : given.lookup name = none := by
  induction given with
  | nil => rfl
  | cons entry rest induction =>
      rw [List.map_cons, List.mem_cons, not_or] at absent
      rw [List.lookup_cons, beq_false_of_ne absent.1]
      exact induction absent.2

theorem collect_ok (writes : ∀ field ∈ fields, ∃ written, write field = .ok written) :
    ∃ made, collect write fields = .ok made := by
  induction fields with
  | nil => exact ⟨[], rfl⟩
  | cons field rest induction =>
      rcases writes field List.mem_cons_self with ⟨written, isWritten⟩
      rcases induction fun other member => writes other (List.mem_cons_of_mem _ member) with
        ⟨others, isMade⟩
      cases written with
      | none => exact ⟨others, by simp only [collect, isWritten, isMade]; rfl⟩
      | some value =>
          exact ⟨(field.name, value) :: others, by
            simp only [collect, isWritten, isMade]; rfl⟩

/-- A dictionary has what is written of each field, and nothing else. -/
theorem collect_spec {made : Keywords α} (distinct : (fields.map ModelField.name).Nodup)
    (isMade : collect write fields = .ok made) :
    (∀ name ∈ made.map Prod.fst, name ∈ fields.map ModelField.name) ∧
      ∀ field ∈ fields, ∃ written, write field = .ok written ∧
        made.lookup field.name = written ∧
        (field.name ∈ made.map Prod.fst ↔ written.isSome = true) := by
  induction fields generalizing made with
  | nil =>
      cases isMade
      exact ⟨fun _ member => (by cases member), fun _ member => (by cases member)⟩
  | cons field rest induction =>
      rw [List.map_cons, List.nodup_cons] at distinct
      cases isWritten : write field with
      | error error =>
          simp only [collect, isWritten] at isMade
          cases isMade
      | ok written =>
          cases others : collect write rest with
          | error error =>
              simp only [collect, isWritten, others] at isMade
              cases isMade
          | ok tail =>
              rcases induction distinct.2 others with ⟨names, each⟩
              have absent : field.name ∉ tail.map Prod.fst :=
                fun member => distinct.1 (names _ member)
              cases written with
              | none =>
                  have same : made = tail := by
                    simp only [collect, isWritten, others] at isMade
                    cases isMade
                    rfl
                  subst same
                  refine ⟨fun name member => List.mem_cons_of_mem _ (names name member), ?_⟩
                  intro other member
                  rcases List.mem_cons.mp member with rfl | later
                  · exact ⟨none, isWritten, lookup_of_not_mem absent, by simpa using absent⟩
                  · exact each other later
              | some value =>
                  have same : made = (field.name, value) :: tail := by
                    simp only [collect, isWritten, others] at isMade
                    cases isMade
                    rfl
                  subst same
                  constructor
                  · intro name member
                    rcases List.mem_cons.mp member with rfl | later
                    · exact List.mem_cons_self
                    · exact List.mem_cons_of_mem _ (names name later)
                  · intro other member
                    rcases List.mem_cons.mp member with rfl | later
                    · exact ⟨some value, isWritten, by rw [List.lookup_cons_self],
                        by simp⟩
                    · have different : other.name ≠ field.name := by
                        intro sameName
                        exact distinct.1 (sameName ▸ List.mem_map_of_mem later)
                      rcases each other later with ⟨written, isOther, found, listed⟩
                      refine ⟨written, isOther, ?_, ?_⟩
                      · rw [List.lookup_cons, beq_false_of_ne different]
                        exact found
                      · rw [List.map_cons, List.mem_cons, or_iff_right different]
                        exact listed

end Collect

/-! ## New instances -/

theorem populate_spec {given : Keywords α} {fields : List (ModelField α)}
    (distinct : (fields.map ModelField.name).Nodup)
    (takes : ∀ field ∈ fields, ∀ value, given.lookup field.name = some value →
      ∃ kept, field.set value = .ok kept) :
    ∃ memory, populate given fields = .ok memory ∧
      (∀ name ∉ fields.map ModelField.name, memory name = none) ∧ ∀ field ∈ fields,
        (given.lookup field.name = none → memory field.name = none) ∧
        ∀ value kept, given.lookup field.name = some value → field.set value = .ok kept →
          memory field.name = some kept := by
  induction fields with
  | nil => exact ⟨fun _ => none, rfl, fun _ _ => rfl, fun _ member => (by cases member)⟩
  | cons field rest induction =>
      rw [List.map_cons, List.nodup_cons] at distinct
      rcases induction distinct.2 fun other member =>
        takes other (List.mem_cons_of_mem _ member) with ⟨memory, populated, outside, each⟩
      have apart : ∀ other ∈ rest, other.name ≠ field.name := by
        intro other later sameName
        exact distinct.1 (sameName ▸ List.mem_map_of_mem later)
      cases isGiven : given.lookup field.name with
      | none =>
          refine ⟨memory, by simp only [populate, isGiven, populated], ?_, ?_⟩
          · intro name absent
            exact outside name fun member => absent (List.mem_cons_of_mem _ member)
          · intro other member
            rcases List.mem_cons.mp member with rfl | later
            · refine ⟨fun _ => outside _ distinct.1, ?_⟩
              intro value kept found
              cases found.symm.trans isGiven
            · exact each other later
      | some value =>
          rcases takes field List.mem_cons_self value isGiven with ⟨kept, isKept⟩
          refine ⟨Function.update memory field.name (some kept), ?_, ?_, ?_⟩
          · simp only [populate, isGiven, isKept, populated]
            rfl
          · intro name absent
            rw [List.map_cons, List.mem_cons, not_or] at absent
            rw [Function.update_of_ne absent.1]
            exact outside name absent.2
          · intro other member
            rcases List.mem_cons.mp member with rfl | later
            · constructor
              · intro absent
                cases absent.symm.trans isGiven
              · intro second keptSecond found isKeptSecond
                cases found.symm.trans isGiven
                cases isKeptSecond.symm.trans isKept
                exact Function.update_self _ _ _
            · rw [Function.update_of_ne (apart other later)]
              exact each other later

/-- A new instance keeps what the fields make of the keywords. -/
theorem init_spec {given : Keywords α} (id : Id)
    (names : ∀ name ∈ given.map Prod.fst, name ∈ model.fieldNames)
    (takes : ∀ field ∈ model.fields, ∀ value, given.lookup field.name = some value →
      ∃ kept, field.set value = .ok kept) :
    ∃ object, model.init id given = .ok object ∧ object.id = id ∧
      (∀ name, name ∈ object.setFields ↔ name ∈ given.map Prod.fst) ∧
      ∀ field ∈ model.fields,
        (given.lookup field.name = none → object.memory field.name = none) ∧
        ∀ value kept, given.lookup field.name = some value → field.set value = .ok kept →
          object.memory field.name = some kept := by
  rcases populate_spec model.nodup takes with ⟨memory, populated, outside, each⟩
  have known : ¬ (given.any fun entry => entry.1 ∉ model.fieldNames) = true := by
    rw [List.any_eq_true]
    intro unknown
    rcases unknown with ⟨entry, member, isUnknown⟩
    exact of_decide_eq_true isUnknown (names entry.1 (List.mem_map_of_mem member))
  refine ⟨⟨id, memory, (given.map Prod.fst).toFinset⟩, ?_, rfl, ?_, each⟩
  · unfold init
    rw [if_neg known, populated]
    rfl
  · intro name
    exact List.mem_toFinset

/-- Whatever keywords a new instance is given, its memory is what the fields keep. -/
theorem populate_keeps {given : Keywords α} {fields : List (ModelField α)}
    (distinct : (fields.map ModelField.name).Nodup) {memory : FieldName → Option (PyValue α)}
    (populated : populate given fields = .ok memory) :
    (∀ name ∉ fields.map ModelField.name, memory name = none) ∧ ∀ field ∈ fields,
      (∀ value, memory field.name = some value → field.Keeps value) ∧
      ((given.lookup field.name).isSome = true → (memory field.name).isSome = true) := by
  induction fields generalizing memory with
  | nil =>
      cases populated
      exact ⟨fun _ _ => rfl, fun _ member => (by cases member)⟩
  | cons field rest induction =>
      rw [List.map_cons, List.nodup_cons] at distinct
      have apart : ∀ other ∈ rest, other.name ≠ field.name := by
        intro other later sameName
        exact distinct.1 (sameName ▸ List.mem_map_of_mem later)
      cases isGiven : given.lookup field.name with
      | none =>
          simp only [populate, isGiven] at populated
          rcases induction distinct.2 populated with ⟨outside, each⟩
          constructor
          · intro name absent
            exact outside name fun member => absent (List.mem_cons_of_mem _ member)
          · intro other member
            rcases List.mem_cons.mp member with rfl | later
            · rw [outside _ distinct.1, isGiven]
              exact ⟨fun value impossible => (by cases impossible), fun none => none⟩
            · exact each other later
      | some value =>
          cases isKept : field.set value with
          | error error =>
              simp only [populate, isGiven, isKept] at populated
              cases populated
          | ok kept =>
              cases tail : populate given rest with
              | error error =>
                  simp only [populate, isGiven, isKept, tail] at populated
                  cases populated
              | ok others =>
                  simp only [populate, isGiven, isKept, tail] at populated
                  cases populated
                  rcases induction distinct.2 tail with ⟨outside, each⟩
                  constructor
                  · intro name absent
                    rw [List.map_cons, List.mem_cons, not_or] at absent
                    rw [Function.update_of_ne absent.1]
                    exact outside name absent.2
                  · intro other member
                    rcases List.mem_cons.mp member with rfl | later
                    · rw [Function.update_self]
                      refine ⟨?_, fun _ => rfl⟩
                      intro held isHeld
                      cases isHeld
                      exact ⟨value, isKept⟩
                    · rw [Function.update_of_ne (apart other later)]
                      exact each other later

theorem lookup_of_mem {given : Keywords α} {name : FieldName}
    (member : name ∈ given.map Prod.fst) : (given.lookup name).isSome = true := by
  induction given with
  | nil => cases member
  | cons entry rest induction =>
      rw [List.lookup_cons]
      by_cases same : name = entry.1
      · rw [beq_iff_eq.mpr same]
        rfl
      · rw [beq_false_of_ne same]
        rcases List.mem_cons.mp member with here | later
        · exact absurd here same
        · exact induction later

/-- Every instance that a constructor returns is built as it has to be. -/
theorem init_built {id : Id} {given : Keywords α} {object : Instance α}
    (made : model.init id given = .ok object) : object.Built model := by
  unfold init at made
  split at made
  · cases made
  · cases populated : populate given model.fields with
    | error error =>
        rw [populated] at made
        cases made
    | ok memory =>
        rw [populated] at made
        cases made
        rcases populate_keeps model.nodup populated with ⟨_, each⟩
        constructor
        · intro field member
          exact (each field member).1
        · intro field member isSet
          exact (each field member).2 (lookup_of_mem (List.mem_toFinset.mp isSet))

end NbModel

namespace Instance

variable {model : NbModel α} {object : Instance α} {field : ModelField α} {value : PyValue α}

theorem Built.keeps_getattr (built : object.Built model) (member : field ∈ model.fields)
    (isRead : object.getattr field = .ok value) : field.Keeps value := by
  unfold getattr at isRead
  cases kept : object.memory field.name with
  | none =>
      rw [kept] at isRead
      exact ⟨field.defaultValue, isRead⟩
  | some held =>
      rw [kept] at isRead
      cases isRead
      exact built.keeps field member value kept

theorem getattr_of_memory (kept : object.memory field.name = some value) :
    object.getattr field = .ok value := by
  unfold getattr
  rw [kept]

theorem getattr_congr {other : Instance α}
    (same : other.memory field.name = object.memory field.name) :
    other.getattr field = object.getattr field := by
  unfold getattr
  rw [same]

end Instance

namespace NbModel

variable {model : NbModel α} [BEq α] [EquivBEq α]

/-! ## Texts -/

/-- A text that is read back says what the written instance says. The fields that are set
in the new instance are those that do not read as `None`. -/
theorem fromJson_toJson (lawful : model.Lawful) {written : Instance α}
    (built : written.Built model) {text : Keywords α}
    (isText : model.toJson written = .ok text) (id : Id) :
    ∃ object, model.fromJson id text = .ok object ∧ object.id = id ∧
      object.Built model ∧ (∀ field ∈ model.fields, field.name ∉ object.setFields →
        object.memory field.name = none) ∧
      ∀ field ∈ model.fields, ∃ value same, written.getattr field = .ok value ∧
        object.getattr field = .ok same ∧ (same == value) = true ∧
        (field.name ∈ object.setFields ↔ same.isNone = false) := by
  have isWalked : collect (writeField written) model.fields = .ok text := by
    unfold toJson at isText
    cases valid : validateFields written model.fields with
    | error error =>
        rw [valid] at isText
        cases isText
    | ok done =>
        cases own : model.validateSelf (model.readings written) with
        | error error =>
            rw [valid] at isText
            simp only [own] at isText
            cases isText
        | ok valid' =>
            rw [valid] at isText
            simp only [own] at isText
            exact isText
  rcases collect_spec model.nodup isWalked with ⟨names, each⟩
  -- A field is either left out, or its text is taken again.
  have eachField : ∀ field ∈ model.fields, ∃ value, written.getattr field = .ok value ∧
      field.Keeps value ∧
      ((value = .none ∧ text.lookup field.name = none ∧
          field.name ∉ text.map Prod.fst) ∨
        (value.isNone = false ∧ field.name ∈ text.map Prod.fst ∧
          ∃ struct same, text.lookup field.name = some struct ∧
            field.set struct = .ok same ∧ (same == value) = true)) := by
    intro field member
    rcases each field member with ⟨wrote, isWritten, found, listed⟩
    unfold writeField at isWritten
    cases isRead : written.getattr field with
    | error error =>
        rw [isRead] at isWritten
        cases isWritten
    | ok value =>
        rw [isRead] at isWritten
        have keeps := built.keeps_getattr member isRead
        refine ⟨value, rfl, keeps, ?_⟩
        cases none : value.isNone with
        | true =>
            simp only [bind, Except.bind, none] at isWritten
            cases isWritten
            exact Or.inl ⟨PyValue.isNone_iff.mp none, found, by simpa using listed⟩
        | false =>
            rcases (lawful.fields field member).readBack value keeps none with
              ⟨struct, same, isStruct, isSet, equal⟩
            simp only [bind, Except.bind, none, isStruct] at isWritten
            cases isWritten
            exact Or.inr ⟨rfl, listed.mpr rfl, struct, same, found, isSet, equal⟩
  have takes : ∀ field ∈ model.fields, ∀ struct, text.lookup field.name = some struct →
      ∃ kept, field.set struct = .ok kept := by
    intro field member struct found
    rcases eachField field member with ⟨value, _, _, ⟨_, absent, _⟩ | ⟨_, _, present⟩⟩
    · cases absent.symm.trans found
    · rcases present with ⟨struct, same, isFound, isSet, _⟩
      cases isFound.symm.trans found
      exact ⟨same, isSet⟩
  rcases init_spec id names takes with ⟨object, made, sameId, setFields, memory⟩
  refine ⟨object, made, sameId, ?_, ?_, ?_⟩
  · constructor
    · intro field member value kept
      cases found : text.lookup field.name with
      | none => cases ((memory field member).1 found).symm.trans kept
      | some struct =>
          rcases takes field member struct found with ⟨same, isSet⟩
          cases ((memory field member).2 struct same found isSet).symm.trans kept
          exact ⟨struct, isSet⟩
    · intro field member isSet
      rcases eachField field member with ⟨value, _, _, ⟨_, _, absent⟩ | ⟨_, _, present⟩⟩
      · exact absurd ((setFields field.name).mp isSet) absent
      · rcases present with ⟨struct, same, found, kept, _⟩
        rw [(memory field member).2 struct same found kept]
        rfl
  · intro field member unset
    rcases eachField field member with ⟨value, _, _, ⟨_, absent, _⟩ | ⟨_, listed, _⟩⟩
    · exact (memory field member).1 absent
    · exact absurd ((setFields field.name).mpr listed) unset
  · intro field member
    rcases eachField field member with
      ⟨value, isRead, keeps, ⟨isNone, absent, unlisted⟩ | ⟨present, listed, kept⟩⟩
    · subst isNone
      refine ⟨.none, .none, isRead, ?_, BEq.rfl, ?_⟩
      · unfold Instance.getattr
        rw [(memory field member).1 absent]
        exact (lawful.fields field member).unset keeps
      · rw [setFields]
        simp [unlisted, PyValue.isNone]
    · rcases kept with ⟨struct, same, found, isSet, equal⟩
      refine ⟨value, same, isRead, Instance.getattr_of_memory
        ((memory field member).2 struct same found isSet), equal, ?_⟩
      rw [setFields]
      have notNone : same.isNone = false := by
        cases none : same.isNone with
        | false => rfl
        | true =>
            rw [PyValue.isNone_iff.mp none] at equal
            rw [PyValue.eq_none (BEq.symm equal)] at present
            cases present
      simp [listed, notNone]

/-- A copy says what its original says. -/
theorem copy_spec (lawful : model.Lawful) {object : Instance α} (built : object.Built model)
    (fresh : ∀ field ∈ model.fields, field.name ∉ object.setFields →
      object.memory field.name = none) :
    ∃ dup, model.copy object = .ok dup ∧ ∀ field ∈ model.fields, ∀ value,
      object.getattr field = .ok value →
        ∃ same, dup.getattr field = .ok same ∧ (same == value) = true := by
  have chosen : ∀ field, field ∈ model.iterateOverSetFields object ↔
      field ∈ model.fields ∧ field.name ∈ object.setFields := by
    intro field
    rw [iterateOverSetFields, List.mem_filter, decide_eq_true_eq]
  have writes : ∀ field ∈ model.iterateOverSetFields object,
      ∃ written, (some <$> object.getattr field : Except PyError _) = .ok written := by
    intro field member
    rcases (chosen field).mp member with ⟨declared, isSet⟩
    rcases Option.isSome_iff_exists.mp (built.isSet field declared isSet) with ⟨value, kept⟩
    exact ⟨some value, by rw [Instance.getattr_of_memory kept]; rfl⟩
  rcases collect_ok writes with ⟨given, isGiven⟩
  have distinct : ((model.iterateOverSetFields object).map ModelField.name).Nodup :=
    model.nodup.sublist (List.filter_sublist.map ModelField.name)
  rcases collect_spec distinct isGiven with ⟨names, each⟩
  have found : ∀ field ∈ model.iterateOverSetFields object, ∃ value,
      object.memory field.name = some value ∧ given.lookup field.name = some value := by
    intro field member
    rcases (chosen field).mp member with ⟨declared, isSet⟩
    rcases Option.isSome_iff_exists.mp (built.isSet field declared isSet) with ⟨value, kept⟩
    rcases each field member with ⟨written, isWritten, isFound, _⟩
    rw [Instance.getattr_of_memory kept] at isWritten
    cases isWritten
    exact ⟨value, kept, isFound⟩
  have absent : ∀ field ∈ model.fields, field.name ∉ object.setFields →
      given.lookup field.name = none := by
    intro field declared unset
    apply lookup_of_not_mem
    intro listed
    rcases List.mem_map.mp (names _ listed) with ⟨other, member, sameName⟩
    rw [← sameName] at unset
    exact unset ((chosen other).mp member).2
  have taken : ∀ field ∈ model.fields, field.name ∈ object.setFields → ∃ value same,
      object.memory field.name = some value ∧ given.lookup field.name = some value ∧
        field.set value = .ok same ∧ (same == value) = true := by
    intro field declared isSet
    rcases found field ((chosen field).mpr ⟨declared, isSet⟩) with ⟨value, kept, isFound⟩
    rcases (lawful.fields field declared).again value
      (built.keeps field declared value kept) with ⟨same, isTaken, equal⟩
    exact ⟨value, same, kept, isFound, isTaken, equal⟩
  have takes : ∀ field ∈ model.fields, ∀ value, given.lookup field.name = some value →
      ∃ kept, field.set value = .ok kept := by
    intro field declared value isFound
    by_cases isSet : field.name ∈ object.setFields
    · rcases taken field declared isSet with ⟨held, same, _, isHeld, isTaken, _⟩
      cases isHeld.symm.trans isFound
      exact ⟨same, isTaken⟩
    · cases (absent field declared isSet).symm.trans isFound
  have known : ∀ name ∈ given.map Prod.fst, name ∈ model.fieldNames := by
    intro name listed
    rcases List.mem_map.mp (names name listed) with ⟨field, member, rfl⟩
    exact List.mem_map_of_mem ((chosen field).mp member).1
  rcases init_spec object.id known takes with ⟨dup, made, _, _, memory⟩
  refine ⟨dup, ?_, ?_⟩
  · unfold copy
    rw [isGiven]
    exact made
  · intro field declared value isRead
    by_cases isSet : field.name ∈ object.setFields
    · rcases taken field declared isSet with ⟨held, same, kept, isFound, isTaken, equal⟩
      cases (Instance.getattr_of_memory kept).symm.trans isRead
      exact ⟨same, Instance.getattr_of_memory
        ((memory field declared).2 value same isFound isTaken), equal⟩
    · have unset : dup.memory field.name = object.memory field.name := by
        rw [(memory field declared).1 (absent field declared isSet),
          fresh field declared isSet]
      exact ⟨value, (Instance.getattr_congr unset).trans isRead, BEq.rfl⟩

end NbModel

/-! ## Setting one field -/

/-- Every field of the instance reads. -/
def Instance.Reads (object : Instance α) (model : NbModel α) : Prop :=
  ∀ field ∈ model.fields, ∃ value, object.getattr field = .ok value

/-- The instance is as before but for one field, which keeps the value. -/
structure Instance.Sets (object updated : Instance α) (field : ModelField α)
    (kept : PyValue α) : Prop where
  id : updated.id = object.id
  memory : updated.memory field.name = some kept
  others : ∀ name ≠ field.name, updated.memory name = object.memory name
  setFields : ∀ name ≠ field.name, (name ∈ updated.setFields ↔ name ∈ object.setFields)

namespace Instance

variable {model : NbModel α} {object updated : Instance α} {field : ModelField α}
  {value kept : PyValue α}

theorem setattr_sets (object : Instance α) (isSet : field.set value = .ok kept) :
    ∃ updated, object.setattr field value = .ok updated ∧ object.Sets updated field kept := by
  refine ⟨{ object with
      memory := Function.update object.memory field.name (some kept)
      setFields := insert field.name object.setFields },
    by simp only [setattr, isSet]; rfl, rfl, Function.update_self _ _ _, ?_, ?_⟩
  · intro name different
    exact Function.update_of_ne different _ _
  · intro name different
    simp [different]

theorem delattr_sets (object : Instance α) (isSet : field.set .none = .ok kept) :
    ∃ updated, object.delattr field = .ok updated ∧ object.Sets updated field kept := by
  rcases setattr_sets object isSet with ⟨cleared, isCleared, sets⟩
  refine ⟨{ cleared with setFields := cleared.setFields.erase field.name },
    by simp only [delattr, isCleared]; rfl, sets.id, sets.memory, sets.others, ?_⟩
  intro name different
  rw [Finset.mem_erase]
  exact (and_iff_right different).trans (sets.setFields name different)

theorem Sets.built (sets : object.Sets updated field kept) (member : field ∈ model.fields)
    (built : object.Built model) (keeps : field.Keeps kept) : updated.Built model where
  keeps := by
    intro other otherMember held isHeld
    by_cases same : other.name = field.name
    · cases NbModel.name_inj otherMember member same
      cases isHeld.symm.trans sets.memory
      exact keeps
    · rw [sets.others _ same] at isHeld
      exact built.keeps other otherMember held isHeld
  isSet := by
    intro other otherMember isSet
    by_cases same : other.name = field.name
    · rw [same, sets.memory]
      rfl
    · rw [sets.others _ same]
      exact built.isSet other otherMember ((sets.setFields _ same).mp isSet)

theorem Sets.reads (sets : object.Sets updated field kept) (member : field ∈ model.fields)
    (reads : object.Reads model) : updated.Reads model := by
  intro other otherMember
  by_cases same : other.name = field.name
  · cases NbModel.name_inj otherMember member same
    exact ⟨kept, getattr_of_memory sets.memory⟩
  · rw [getattr_congr (sets.others _ same)]
    exact reads other otherMember

end Instance

end Dragonflow
