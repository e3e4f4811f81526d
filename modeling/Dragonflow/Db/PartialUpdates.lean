import Dragonflow.Db.ModelFramework
import Mathlib.Data.Finset.Basic
import Mathlib.Logic.Function.Basic

/-! # Fields that were set

`_CommonBase` of `dragonflow/db/model_framework.py` with its separate set of the fields
that were set, and `NbApi.update` of `dragonflow/db/api_nb.py`, over a database that keeps
one text for each id, as the etcd driver does. A text is what `loads` makes of it.
-/

namespace Dragonflow

variable {α : Type}

/-! ## Values -/

/-- The values of fields. The integers are those of integer fields; a number that some
other field keeps is one of the other values. -/
inductive PyValue (α : Type)
  | none
  | int (number : Int)
  | other (value : α)
  deriving DecidableEq, Repr

namespace PyValue

def isNone : PyValue α → Bool
  | .none => true
  | _ => false

variable [BEq α]

/-- `__eq__` -/
def eq : PyValue α → PyValue α → Bool
  | .none, .none => true
  | .int number, .int second => number = second
  | .other value, .other second => value == second
  | _, _ => false

instance : BEq (PyValue α) := ⟨eq⟩

end PyValue

/-! ## Classes -/

/-- A field of a class, as `jsonmodels` uses it. -/
structure ModelField (α : Type) where
  name : FieldName
  parseValue : PyValue α → Except PyError (PyValue α)
  validate : PyValue α → Except PyError Unit
  /-- `get_default_value` -/
  defaultValue : PyValue α := .none
  toStruct : PyValue α → Except PyError (PyValue α)

/-- `__set__`, as far as what the field keeps. -/
def ModelField.set (field : ModelField α) (value : PyValue α) :
    Except PyError (PyValue α) := do
  let parsed ← field.parseValue value
  field.validate parsed
  return parsed

/-- A class of the northbound data model. The id, which every class has and no update
changes, is kept apart from the other fields. -/
structure NbModel (α : Type) where
  fields : List (ModelField α)
  /-- What the `validate` of the class adds, on the fields as they read. -/
  validateSelf : (FieldName → Option (PyValue α)) → Except PyError Unit := fun _ => .ok ()
  /-- The field of the mixin `Version` -/
  version : Option (ModelField α) := none
  /-- The field that a `Listener` keeps itself -/
  timestamp : Option (ModelField α) := none
  nodup : (fields.map ModelField.name).Nodup
  version_mem : ∀ field, version = some field → field ∈ fields
  timestamp_mem : ∀ field, timestamp = some field → field ∈ fields

def NbModel.fieldNames (model : NbModel α) : List FieldName :=
  model.fields.map ModelField.name

/-- The keywords of a constructor, and what `loads` gives. -/
abbrev Keywords (α : Type) := List (FieldName × PyValue α)

/-! ## Instances -/

structure Instance (α : Type) where
  id : Id
  /-- What the fields keep -/
  memory : FieldName → Option (PyValue α)
  /-- `_set_fields` -/
  setFields : Finset FieldName

namespace Instance

variable (object : Instance α)

/-- `getattr`. A field without a value is given its default one. -/
def getattr (field : ModelField α) : Except PyError (PyValue α) :=
  match object.memory field.name with
  | some value => .ok value
  | none => field.set field.defaultValue

/-- `__setattr__` of a field. -/
def setattr (field : ModelField α) (value : PyValue α) : Except PyError (Instance α) := do
  let kept ← field.set value
  return { object with
    memory := Function.update object.memory field.name (some kept)
    setFields := insert field.name object.setFields }

/-- `__delattr__` of a field. -/
def delattr (field : ModelField α) : Except PyError (Instance α) := do
  let cleared ← object.setattr field .none
  return { cleared with setFields := cleared.setFields.erase field.name }

end Instance

namespace NbModel

variable (model : NbModel α)

/-- The fields of `iterate_over_set_fields`, in the order of the class. -/
def iterateOverSetFields (object : Instance α) : List (ModelField α) :=
  model.fields.filter fun field => field.name ∈ object.setFields

/-- `models.Base.populate` -/
def populate (given : Keywords α) :
    List (ModelField α) → Except PyError (FieldName → Option (PyValue α))
  | [] => return fun _ => none
  | field :: rest =>
      match given.lookup field.name with
      | none => populate given rest
      | some value => do
          let kept ← field.set value
          let memory ← populate given rest
          return Function.update memory field.name (some kept)

/-- `__init__` -/
def init (id : Id) (given : Keywords α) : Except PyError (Instance α) :=
  if given.any fun entry => entry.1 ∉ model.fieldNames then .error .typeError
  else do
    let memory ← populate given model.fields
    return { id := id, memory := memory, setFields := (given.map Prod.fst).toFinset }

/-- The dictionary that a walk over some fields makes. -/
def collect (write : ModelField α → Except PyError (Option (PyValue α))) :
    List (ModelField α) → Except PyError (Keywords α)
  | [] => return []
  | field :: rest => do
      let written ← write field
      let others ← collect write rest
      match written with
      | none => return others
      | some value => return (field.name, value) :: others

/-- `__copy__` -/
def copy (object : Instance α) : Except PyError (Instance α) := do
  let fields ← collect (fun field => some <$> object.getattr field)
    (model.iterateOverSetFields object)
  model.init object.id fields

/-- What `parsers.to_struct` writes of a field. One that reads as `None` is left out. -/
def writeField (object : Instance α) (field : ModelField α) :
    Except PyError (Option (PyValue α)) := do
  let value ← object.getattr field
  if value.isNone then return none else some <$> field.toStruct value

/-- The fields as they read. -/
def readings (object : Instance α) (name : FieldName) : Option (PyValue α) := do
  let field ← model.fields.find? fun field => field.name = name
  (object.getattr field).toOption

/-- `models.Base.validate`, before what the class adds. -/
def validateFields (object : Instance α) : List (ModelField α) → Except PyError Unit
  | [] => return
  | field :: rest => do
      let value ← object.getattr field
      field.validate value
      validateFields object rest

/-- `to_json` -/
def toJson (object : Instance α) : Except PyError (Keywords α) := do
  validateFields object model.fields
  model.validateSelf (model.readings object)
  collect (writeField object) model.fields

/-- `from_json` -/
def fromJson (id : Id) (data : Keywords α) : Except PyError (Instance α) :=
  model.init id data

/-! ## Updates -/

variable [BEq α]

/-- One round of the loop of `update`. -/
def updateField (object other : Instance α) (field : ModelField α) :
    Except PyError (Instance α × Finset FieldName) := do
  let oldValue ← object.getattr field
  let newValue ← other.getattr field
  if oldValue == newValue then return (object, ∅)
  else if newValue.isNone then do
    let deleted ← object.delattr field
    return (deleted, {field.name})
  else do
    let updated ← object.setattr field newValue
    return (updated, {field.name})

def updateFields (other : Instance α) :
    Instance α → List (ModelField α) → Except PyError (Instance α × Finset FieldName)
  | object, [] => return (object, ∅)
  | object, field :: rest => do
      let (updated, changed) ← updateField object other field
      let (merged, changedLater) ← updateFields other updated rest
      return (merged, changed ∪ changedLater)

/-- `_CommonBase.update` -/
def update (object other : Instance α) : Except PyError (Instance α × Finset FieldName) :=
  updateFields other object (model.iterateOverSetFields other)

/-- `Version.on_update_pre` -/
def bumpVersion (object orig : Instance α) : Except PyError (Instance α) :=
  match model.version with
  | none => return object
  | some field => do
      let own ← object.getattr field
      let old ← orig.getattr field
      if own == old then
        match own with
        | .int number => object.setattr field (.int (number + 1))
        | _ => throw .typeError
      else return object

/-- `Listener.on_update_pre`. The clock shows `now`. -/
def updateTimestamp (now : PyValue α) (object : Instance α) : Except PyError (Instance α) :=
  match model.timestamp with
  | none => return object
  | some field => object.setattr field now

def onUpdatePre (now : PyValue α) (object orig : Instance α) :
    Except PyError (Instance α) := do
  let numbered ← model.bumpVersion object orig
  model.updateTimestamp now numbered

end NbModel

/-! ## The northbound table of a class -/

structure NbTable (α : Type) where
  entries : Id → Option (Keywords α)
  /-- The texts of the events that were published -/
  events : List (Id × Keywords α) := []

namespace NbTable

/-- `driver.set_key` and `_send_db_change_event` -/
def setKey (table : NbTable α) (skipSendEvent : Bool) (id : Id) (text : Keywords α) :
    NbTable α where
  entries := Function.update table.entries id (some text)
  events := if skipSendEvent then table.events else table.events ++ [(id, text)]

/-- `NbApi.update`. Nothing is written before the last step. -/
def update [BEq α] (model : NbModel α) (now : PyValue α) (object : Instance α)
    (skipSendEvent : Bool) (table : NbTable α) : Except PyError (NbTable α) :=
  match table.entries object.id with
  | none => throw .dbKeyNotFound
  | some text => do
      let fullObj ← model.fromJson object.id text
      let dbObj ← model.copy fullObj
      let (merged, changedFields) ← model.update fullObj object
      if changedFields = ∅ then return table
      else do
        let prepared ← model.onUpdatePre now merged dbObj
        let serializedObj ← model.toJson prepared
        return table.setKey skipSendEvent prepared.id serializedObj

end NbTable

end Dragonflow
