import Dragonflow.Db.ModelFramework

/-! # What instances say

Equality, serialisation and merging of model instances: the parts of `jsonmodels`
and of `_CommonBase` (`dragonflow/db/model_framework.py`) that do not care which
instance they are given.
-/

namespace Dragonflow

variable {α : Type}

/-! ## Equality -/

/-- What a field that was never set compares as, also if it is required. -/
def FieldKind.absent : FieldKind → Value α
  | .listField => .list .nil
  | _ => .none

/-- All declared fields, whether they were set or not. -/
def Fields.complete (model : Model) (fields : Fields α) : Fields α :=
  .ofList (model.fields.map fun field =>
    (field.name, (fields.lookup field.name).getD field.kind.absent))

mutual
/-- The value as `==` sees it: instances are compared field by field, and
references by their ids. -/
def Value.normal : Value α → Value α
  | .none => .none
  | .scalar value => .scalar value
  | .list items => .list items.normal
  | .record model fields => .record model (fields.normal.complete model)
  | .object embedded => .object embedded.normal
  | .proxy reference => .proxy { reference with address := 0 }

def Values.normal : Values α → Values α
  | .nil => .nil
  | .cons head tail => .cons head.normal tail.normal

def Object.normal : Object α → Object α
  | ⟨_, model, id, fields⟩ => ⟨0, model, id, fields.normal.complete model⟩

def Fields.normal : Fields α → Fields α
  | .nil => .nil
  | .cons name value rest => .cons name value.normal rest.normal
end

@[simp] theorem Object.key_normal (object : Object α) :
    object.normal.key = object.key := by
  cases object
  rw [Object.normal]
  rfl

theorem Fields.lookup_normal (fields : Fields α) (name : FieldName) :
    fields.normal.lookup name = (fields.lookup name).map Value.normal := by
  match fields with
  | .nil =>
      rw [Fields.normal]
      rfl
  | .cons head value rest =>
      rw [Fields.normal, Fields.lookup, Fields.lookup]
      split
      · rfl
      · exact rest.lookup_normal name

theorem Fields.lookup_ofList_map (declarations : List FieldDeclaration)
    (value : FieldDeclaration → Value α) (name : FieldName) :
    (Fields.ofList (declarations.map fun field => (field.name, value field))).lookup
      name = (declarations.find? fun field => field.name = name).map value := by
  induction declarations with
  | nil => rfl
  | cons head tail induction =>
      rw [List.map_cons, Fields.ofList, Fields.lookup, List.find?_cons]
      by_cases same : head.name = name
      · simp [same]
      · have other : name ≠ head.name := fun equal => same equal.symm
        simp [same, other, induction]

/-- Reading a declared field of a completed instance. -/
theorem Fields.lookup_complete {model : Model} {field : FieldDeclaration}
    {name : FieldName} (declared : model.declaration name = some field)
    (fields : Fields α) :
    (fields.complete model).lookup name =
      some ((fields.lookup name).getD field.kind.absent) := by
  have sameName : field.name = name := by
    simpa using List.find?_some declared
  unfold Fields.complete
  rw [Fields.lookup_ofList_map model.fields fun field =>
    (fields.lookup field.name).getD field.kind.absent]
  unfold Model.declaration at declared
  rw [declared, Option.map_some, sameName]

/-! ## Serialisation -/

def Value.isNone : Value α → Bool
  | .none => true
  | _ => false

/-- All required fields are there. A list is always there. -/
def Fields.provides (model : Model) (fields : Fields α) : Bool :=
  model.fields.all fun field => field.kind = .listField || !field.required ||
    !((fields.lookup field.name).getD .none).isNone

mutual
/-- `validate` -/
def Value.valid : Value α → Bool
  | .list items => items.valid
  | .record model fields => fields.provides model && fields.valid
  | .object embedded => embedded.valid
  | _ => true

def Values.valid : Values α → Bool
  | .nil => true
  | .cons head tail => head.valid && tail.valid

def Object.valid : Object α → Bool
  | ⟨_, model, _, fields⟩ => fields.provides model && fields.valid

def Fields.valid : Fields α → Bool
  | .nil => true
  | .cons _ value rest => value.valid && rest.valid
end

/-- A serialised instance. The text leaves out the fields that are `None`; here
they are listed. -/
structure Json (α : Type) where
  content : Object α
  deriving DecidableEq

def Object.toJson (object : Object α) : Except PyError (Json α) :=
  if object.valid then .ok ⟨object.normal⟩ else .error .validationError

/-- What `from_json` may return: new instances that say what the text says. -/
def Json.Parses (json : Json α) (object : Object α) : Prop :=
  object.normal = json.content

/-! ## Setting fields -/

def Fields.erase (name : FieldName) : Fields α → Fields α
  | .nil => .nil
  | .cons other value rest =>
      if name = other then rest.erase name else .cons other value (rest.erase name)

theorem Fields.lookup_erase (fields : Fields α) (name wanted : FieldName) :
    (fields.erase name).lookup wanted =
      if wanted = name then none else fields.lookup wanted := by
  match fields with
  | .nil => simp [Fields.erase, Fields.lookup]
  | .cons other value rest =>
      have induction := rest.lookup_erase name wanted
      rw [Fields.erase, Fields.lookup]
      by_cases erased : name = other
      · rw [if_pos erased, induction]
        by_cases here : wanted = name
        · simp [here]
        · have further : wanted ≠ other := fun equal => here (equal.trans erased.symm)
          simp [here, further]
      · rw [if_neg erased, Fields.lookup, induction]
        by_cases here : wanted = other
        · have different : other ≠ name := fun equal => erased equal.symm
          simp [here, different]
        · simp [here]

namespace Object

def setField (object : Object α) (name : FieldName) (value : Value α) :
    Object α :=
  { object with fields := .cons name value (object.fields.erase name) }

/-- `__delattr__` of a field that may be missing. -/
def delField (object : Object α) (name : FieldName) : Object α :=
  { object with fields := object.fields.erase name }

@[simp] theorem key_setField (object : Object α) (name : FieldName)
    (value : Value α) : (object.setField name value).key = object.key := rfl

@[simp] theorem key_delField (object : Object α) (name : FieldName) :
    (object.delField name).key = object.key := rfl

@[simp] theorem model_setField (object : Object α) (name : FieldName)
    (value : Value α) : (object.setField name value).model = object.model := rfl

theorem lookup_setField (object : Object α) (name wanted : FieldName)
    (value : Value α) :
    (object.setField name value).fields.lookup wanted =
      if wanted = name then some value else object.fields.lookup wanted := by
  simp only [setField, Fields.lookup, Fields.lookup_erase]
  split <;> rfl

theorem lookup_delField (object : Object α) (name wanted : FieldName) :
    (object.delField name).fields.lookup wanted =
      if wanted = name then none else object.fields.lookup wanted :=
  Fields.lookup_erase _ _ _

variable [DecidableEq α]

/-- One round of the loop of `_CommonBase.update`: the object, and whether the
field has changed. -/
def updateField (object : Object α) (field : FieldDeclaration)
    (newValue : Value α) : Except PyError (Object α × List FieldName) := do
  let oldValue ← object.read field.name
  if oldValue.normal = newValue.normal then
    return (object, [])
  else if newValue.isNone then
    -- `None` is set before the field is forgotten.
    if field.required then throw .validationError
    else return (object.delField field.name, [field.name])
  else
    return (object.setField field.name newValue, [field.name])

def updateFields (object : Object α) :
    List (FieldDeclaration × Value α) → Except PyError (Object α × List FieldName)
  | [] => return (object, [])
  | (field, value) :: rest => do
      let (updated, changed) ← object.updateField field value
      let (merged, changedLater) ← updated.updateFields rest
      return (merged, changed ++ changedLater)

/-- `_CommonBase.update`: take over the fields that are set in the other
instance, and tell which ones have changed. -/
def update (object other : Object α) :
    Except PyError (Object α × List FieldName) :=
  object.updateFields other.iterateOverSetFields

end Object

end Dragonflow
