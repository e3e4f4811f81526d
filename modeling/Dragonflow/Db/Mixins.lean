import Dragonflow.Db.Contents
import Dragonflow.Db.Models

/-! # Mixins of the northbound models

The hooks of `Version` and `UniqueKey`, and the field of `Topic`
(`dragonflow/db/models/mixins.py`).
-/

namespace Dragonflow

variable {α : Type}

/-- The class has the `version` field of the mixin. -/
structure Model.Versioned (model : Model) : Prop where
  mixin : model.is .version = true
  declared : model.declaration "version" = some (.plain "version")

instance (model : Model) : Decidable model.Versioned :=
  decidable_of_iff (model.is .version = true ∧
    model.declaration "version" = some (.plain "version"))
    ⟨fun both => ⟨both.1, both.2⟩, fun versioned => ⟨versioned.1, versioned.2⟩⟩

namespace Object

/-- The version, if it is an integer. -/
def version? (object : Object α) : Option Int :=
  match object.fields.lookup "version" with
  | some (.scalar (.int number)) => some number
  | _ => none

/-- The version field is an integer, or was never set. -/
def VersionSetOrUnset (object : Object α) : Prop :=
  object.fields.lookup "version" = none ∨ object.version?.isSome

/-- `Version.on_create_pre` and `UniqueKey.on_create_pre`. The driver has
allocated the unique key. -/
def onCreatePre (object : Object α) (uniqueKey : Int) :
    Except PyError (Object α) := do
  let numbered ←
    if object.model.is .version then
      match ← object.read "version" with
      | .none => pure (object.setField "version" (.scalar (.int 1)))
      | _ => pure object
    else pure object
  if object.model.is .uniqueKey then
    return numbered.setField "unique_key" (.scalar (.int uniqueKey))
  else
    return numbered

variable [DecidableEq α]

/-- `Version.on_update_pre` -/
def onUpdatePre (object original : Object α) : Except PyError (Object α) := do
  if object.model.is .version then
    let own ← object.read "version"
    let old ← original.read "version"
    if own.normal = old.normal then
      match own with
      | .scalar (.int number) =>
          return object.setField "version" (.scalar (.int (number + 1)))
      | _ => throw .typeError
    else
      return object
  else
    return object

omit [DecidableEq α]

/-- `Version.is_newer_than` -/
def isNewerThan (object : Object α) (other : Option (Object α)) :
    Except PyError Bool :=
  if object.model.is .version then
    match other with
    | none => .ok true
    | some other => do
        match ← object.read "version", ← other.read "version" with
        | .scalar (.int own), .scalar (.int old) => return old < own
        | _, _ => throw .typeError
  else
    .error .attributeError

/-! ## Reading the version -/

theorem version?_eq_some {object : Object α} {number : Int} :
    object.version? = some number ↔
      object.fields.lookup "version" = some (.scalar (.int number)) := by
  unfold version?
  split
  · next found => simp [found]
  · next other =>
      constructor
      · intro impossible
        cases impossible
      · intro found
        exact absurd found (other number)

theorem read_version (object : Object α) (versioned : object.model.Versioned) :
    object.read "version" =
      .ok ((object.fields.lookup "version").getD .none) := by
  unfold read Fields.read
  rw [if_neg (by decide), versioned.declared]
  cases object.fields.lookup "version" <;> rfl

theorem read_version_of_some {object : Object α} {number : Int}
    (numbered : object.version? = some number) :
    object.read "version" = .ok (.scalar (.int number)) := by
  unfold read Fields.read
  rw [if_neg (by decide), version?_eq_some.mp numbered]

theorem version?_of_read {object : Object α} {number : Int}
    (read : object.read "version" = .ok (.scalar (.int number))) :
    object.version? = some number := by
  unfold Object.read Fields.read at read
  rw [if_neg (by decide)] at read
  rw [version?_eq_some]
  split at read
  · next found =>
      cases read
      exact found
  · split at read
    · unfold FieldDeclaration.default at read
      split at read
      · cases read
      · split at read <;> cases read
    · cases read

theorem version?_normal {object : Object α} (versioned : object.model.Versioned) :
    object.normal.version? = object.version? := by
  rcases object with ⟨address, model, id, fields⟩
  unfold version?
  rw [normal]
  simp only [Fields.lookup_complete versioned.declared, Fields.lookup_normal]
  cases fields.lookup "version" with
  | none => rfl
  | some value => cases value <;> rfl

theorem isNewerThan_of_some {object other : Object α}
    (versioned : object.model.Versioned) {own old : Int}
    (numbered : object.version? = some own) (otherNumbered : other.version? = some old) :
    object.isNewerThan (some other) = .ok (decide (old < own)) := by
  unfold isNewerThan
  rw [if_pos versioned.mixin]
  simp only [read_version_of_some numbered, read_version_of_some otherNumbered]
  rfl

theorem isNewerThan_none {object : Object α} (versioned : object.model.Versioned) :
    object.isNewerThan none = .ok true := by
  unfold isNewerThan
  rw [if_pos versioned.mixin]

/-! ## Topics -/

/-- The topic, if it is a string. -/
def topic? (object : Object α) : Option String :=
  match object.fields.lookup "topic" with
  | some (.scalar (.str topic)) => some topic
  | _ => none

theorem read_topic {object : Object α} {topic : String}
    (topical : object.topic? = some topic) :
    object.read "topic" = .ok (.scalar (.str topic)) := by
  unfold topic? at topical
  split at topical
  · next found =>
      cases topical
      unfold read Fields.read
      rw [if_neg (by decide), found]
  · cases topical

end Object

end Dragonflow
