import Mathlib.Data.List.Basic

/-! # Model classes and their instances

The part of `dragonflow/db/model_framework.py` that the caches rely on: which
fields a class declares, what reading an attribute of an instance gives, and
which model instances an instance embeds.
-/

namespace Dragonflow

abbrev FieldName := String

abbrev Id := String

/-- The identity of a Python object. -/
abbrev Address := Nat

/-- The exceptions of the modelled code. `recursionError` only exists to give
the recursive definitions a fuel argument; they are proved never to raise it. -/
inductive PyError
  | keyError
  | attributeError
  | typeError
  | valueError
  | validationError
  | referencedObjectNotFound
  | dbKeyNotFound
  | recursionError
  | cookieOverflow
  | indexError
  | stopIteration
  | addrFormatError
  | dbStoreRecordNotFound
  | outOfCookieSpace
  | maskOverlap
  | nodeExists
  | runtimeError
  deriving DecidableEq, Repr

/-- What reading an attribute, or putting its value into a set, can raise. -/
def PyError.readErrors : List PyError :=
  [.attributeError, .typeError, .validationError, .referencedObjectNotFound]

/-! ## Classes -/

/-- A dotted field path, split at its dots. -/
abbrev FieldPath := List FieldName

abbrev Index := List FieldPath

/-- The base classes of `db/models/mixins.py` that some code asks for. -/
inductive Mixin
  | topic
  | version
  | basicEvents
  | uniqueKey
  deriving DecidableEq, Repr

/-- How `iterate_embedded_model_instances` sees a declared field. -/
inductive FieldKind
  | plain
  | embeddedField
  | listField
  deriving DecidableEq, Repr

structure FieldDeclaration where
  name : FieldName
  kind : FieldKind
  required : Bool
  deriving DecidableEq, Repr

/-- A class derived from `ModelBase`, or a plain `jsonmodels` class. The `id`
field and the `id` index of `ModelBase` are implied; everything else that the
class and its bases declare is listed in iteration order. -/
structure Model where
  name : String
  fields : List FieldDeclaration
  indexes : List (String × Index)
  mixins : List Mixin
  deriving DecidableEq, Repr

namespace Model

/-- The index that `ModelBase` declares. -/
def idIndex : Index := [["id"]]

def getIndexes (model : Model) : List (String × Index) :=
  ("id", idIndex) :: model.indexes

def getIndex (model : Model) (name : String) : Option Index :=
  model.getIndexes.lookup name

def declaration (model : Model) (name : FieldName) : Option FieldDeclaration :=
  model.fields.find? fun field => field.name = name

def is (model : Model) (mixin : Mixin) : Bool :=
  mixin ∈ model.mixins

end Model

/-! ## Values and instances -/

/-- Hashable values. Addresses, booleans and the like are `other`. -/
inductive Scalar (α : Type)
  | str (text : String)
  | int (number : Int)
  | other (value : α)
  deriving DecidableEq, Repr

/-- A reference created by `model_proxy`; the target is looked up on demand. -/
structure Proxy where
  address : Address
  model : Model
  id : Id
  deriving DecidableEq, Repr

mutual
inductive Value (α : Type) where
  | none
  | scalar (value : Scalar α)
  | list (items : Values α)
  /-- An instance of a plain `jsonmodels` class, without an id. -/
  | record (model : Model) (fields : Fields α)
  | object (embedded : Object α)
  | proxy (reference : Proxy)

inductive Values (α : Type) where
  | nil
  | cons (head : Value α) (tail : Values α)

/-- An instance of a `ModelBase` class. `fields` holds the fields that were
set; the id is required and always there. -/
structure Object (α : Type) where
  address : Address
  model : Model
  id : Id
  fields : Fields α

inductive Fields (α : Type) where
  | nil
  | cons (name : FieldName) (value : Value α) (rest : Fields α)
end

deriving instance DecidableEq for Value, Values, Object, Fields

def Values.ofList : List (Value α) → Values α
  | [] => .nil
  | head :: tail => .cons head (ofList tail)

def Values.toList : Values α → List (Value α)
  | .nil => []
  | .cons head tail => head :: tail.toList

@[simp] theorem Values.toList_ofList (items : List (Value α)) :
    (Values.ofList items).toList = items := by
  induction items with
  | nil => rfl
  | cons head tail induction => rw [Values.ofList, Values.toList, induction]

def Fields.ofList : List (FieldName × Value α) → Fields α
  | [] => .nil
  | (name, value) :: rest => .cons name value (ofList rest)

def Fields.lookup : Fields α → FieldName → Option (Value α)
  | .nil, _ => .none
  | .cons name value rest, wanted =>
      if wanted = name then some value else rest.lookup wanted

/-- What `jsonmodels` answers for a field that was never set: an empty list, or
`None` after checking that the field is not required. -/
def FieldDeclaration.default (field : FieldDeclaration) :
    Except PyError (Value α) :=
  match field.kind with
  | .listField => .ok (.list .nil)
  | _ => if field.required then .error .validationError else .ok .none

def Fields.read (model : Model) (fields : Fields α) (name : FieldName) :
    Except PyError (Value α) :=
  match fields.lookup name with
  | some value => .ok value
  | none =>
      match model.declaration name with
      | some field => field.default
      | none => .error .attributeError

theorem Fields.read_raises {model : Model} {fields : Fields α}
    {name : FieldName} {error : PyError}
    (raised : fields.read model name = .error error) :
    error ∈ PyError.readErrors := by
  unfold Fields.read at raised
  split at raised
  · cases raised
  · split at raised
    · next field _ =>
        unfold FieldDeclaration.default at raised
        split at raised
        · cases raised
        · split at raised
          · cases raised
            decide
          · cases raised
    · cases raised
      decide

/-- A hashable representation of an object: its type and id. -/
abbrev ObjectKey := Model × Id

namespace Object

/-- `_obj_key` -/
def key (object : Object α) : ObjectKey := (object.model, object.id)

/-- `getattr(object, name)` -/
def read (object : Object α) (name : FieldName) : Except PyError (Value α) :=
  if name = "id" then .ok (.scalar (.str object.id))
  else object.fields.read object.model name

theorem read_raises {object : Object α} {name : FieldName} {error : PyError}
    (raised : object.read name = .error error) :
    error ∈ PyError.readErrors := by
  unfold read at raised
  split at raised
  · cases raised
  · exact Fields.read_raises raised

/-- `iterate_over_set_fields`, in the order of the declarations. -/
def iterateOverSetFields (object : Object α) :
    List (FieldDeclaration × Value α) :=
  object.model.fields.filterMap fun field =>
    (object.fields.lookup field.name).map fun value => (field, value)

end Object

def Value.asObject : Value α → Option (Object α)
  | .object embedded => some embedded
  | _ => .none

theorem Value.asObject_eq_some {value : Value α} {embedded : Object α} :
    value.asObject = some embedded ↔ value = .object embedded := by
  cases value <;> simp [Value.asObject]

/-- The values that an embedding field contributes to the iteration. -/
def FieldKind.embedded (kind : FieldKind) (value : Value α) :
    List (Value α) :=
  match kind, value with
  | .plain, _ => []
  | .embeddedField, value => [value]
  | .listField, .list items => items.toList
  | .listField, _ => []

def Object.iterateEmbeddedModelInstances (object : Object α) :
    List (Object α) :=
  (object.iterateOverSetFields.flatMap fun field =>
    field.1.kind.embedded field.2).filterMap Value.asObject

/-- The keys of the objects that an object embeds directly. -/
def Object.embeddedKeys (object : Object α) : List ObjectKey :=
  object.iterateEmbeddedModelInstances.map Object.key

/-! ## Nesting depth -/

mutual
def Value.height : Value α → Nat
  | .none => 0
  | .scalar _ => 0
  | .list items => items.height
  | .record _ fields => fields.height
  | .object embedded => embedded.height
  | .proxy _ => 0

def Values.height : Values α → Nat
  | .nil => 0
  | .cons head tail => max head.height tail.height

def Object.height : Object α → Nat
  | ⟨_, _, _, fields⟩ => fields.height + 1

def Fields.height : Fields α → Nat
  | .nil => 0
  | .cons _ value rest => max value.height rest.height
end

theorem Values.height_le_of_mem {items : Values α} {value : Value α}
    (member : value ∈ items.toList) : value.height ≤ items.height := by
  match items with
  | .nil => cases member
  | .cons head tail =>
      rw [Values.height]
      rcases List.mem_cons.mp member with equal | member
      · subst equal
        exact Nat.le_max_left _ _
      · exact Nat.le_trans (Values.height_le_of_mem member) (Nat.le_max_right _ _)

theorem Fields.height_le_of_lookup {fields : Fields α} {name : FieldName}
    {value : Value α} (found : fields.lookup name = some value) :
    value.height ≤ fields.height := by
  match fields with
  | .nil => cases found
  | .cons head headValue rest =>
      rw [Fields.lookup] at found
      rw [Fields.height]
      split at found
      · cases found
        exact Nat.le_max_left _ _
      · exact Nat.le_trans (Fields.height_le_of_lookup found)
          (Nat.le_max_right _ _)

theorem FieldKind.height_le_of_mem_embedded {kind : FieldKind}
    {field value : Value α} (member : value ∈ kind.embedded field) :
    value.height ≤ field.height := by
  cases kind with
  | plain => cases member
  | embeddedField =>
      rw [FieldKind.embedded, List.mem_singleton] at member
      exact Nat.le_of_eq (congrArg Value.height member)
  | listField =>
      cases field with
      | list items => exact Values.height_le_of_mem member
      | _ => cases member

theorem Object.height_lt_of_mem {object embedded : Object α}
    (member : embedded ∈ object.iterateEmbeddedModelInstances) :
    embedded.height < object.height := by
  rcases List.mem_filterMap.mp member with ⟨value, contributed, isObject⟩
  rcases List.mem_flatMap.mp contributed with ⟨⟨field, held⟩, isSet, contributed⟩
  rcases List.mem_filterMap.mp isSet with ⟨declared, _, found⟩
  rcases Option.map_eq_some_iff.mp found with ⟨read, lookup, equal⟩
  cases equal
  have sameHeight : value.height = embedded.height := by
    rw [Value.asObject_eq_some.mp isObject, Value.height]
  have valueLe : value.height ≤ held.height :=
    FieldKind.height_le_of_mem_embedded contributed
  have heldLe : held.height ≤ object.fields.height :=
    Fields.height_le_of_lookup lookup
  rw [show object.height = object.fields.height + 1 by cases object; rfl]
  omega

end Dragonflow
