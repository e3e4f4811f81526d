import Dragonflow.Db.Ports
import Std.Data.String.ToInt

/-! # Field types and serialisation

`dragonflow/db/field_types.py` and `from_json` / `to_json` of
`dragonflow/db/model_framework.py`, over the parts of `jsonmodels` that they
extend. `TimestampField` is left out: its values are floats.
-/

namespace Dragonflow

/-! ## Python values -/

/-- The keys of the dictionaries that reach a model. -/
inductive DictKey
  | str (text : String)
  | int (number : Int)
  deriving DecidableEq, Repr

/-- The values that are given to a field, kept in one or written out by one.

An `instance` lists its fields as they read. An unset field reads as its
default, and a required one without a value is not listed, because reading it
raises. -/
inductive FieldValue
  | none
  | bool (value : Bool)
  | int (value : Int)
  | str (value : String)
  | list (items : List FieldValue)
  | tuple (items : List FieldValue)
  | dict (entries : List (DictKey × FieldValue))
  | ipAddress (value : IPAddress)
  | ipNetwork (value : IPNetwork)
  | eui (value : MacAddress)
  | portRange (min max : FieldValue)
  | proxy (model : String) (id : Id)
  | instance (model : String) (fields : List (FieldName × FieldValue))

/-- `int(text)`, which also takes blanks around the number and a plus sign. -/
def intOfText (text : String) : Option Int :=
  match text.toInt? with
  | some number => some number
  | none => (text.trimAscii.dropPrefix '+').toInt?

namespace DictKey

/-- `int(key)` -/
def toInt : DictKey → Except PyError Int
  | .int number => .ok number
  | .str text =>
      match intOfText text with
      | some number => .ok number
      | none => .error .valueError

/-- `str(key)` -/
def toStr : DictKey → String
  | .str text => text
  | .int number => number.repr

def toValue : DictKey → FieldValue
  | .str text => .str text
  | .int number => .int number

end DictKey

namespace FieldValue

def isNone : FieldValue → Bool
  | .none => true
  | _ => false

def isList : FieldValue → Bool
  | .list _ => true
  | _ => false

/-- `bool(value)` -/
def truth : FieldValue → Bool
  | .none => false
  | .bool value => value
  | .int value => value ≠ 0
  | .str value => value ≠ ""
  | .list items => !items.isEmpty
  | .tuple items => !items.isEmpty
  | .dict entries => !entries.isEmpty
  | .ipAddress (.v4 bits) => bits ≠ 0
  | .ipAddress (.v6 bits) => bits ≠ 0
  | _ => true

/-- `int(value)` -/
def toInt : FieldValue → Except PyError Int
  | .int value => .ok value
  | .bool value => .ok (if value then 1 else 0)
  | .str text => (DictKey.str text).toInt
  | .ipAddress (.v4 bits) => .ok bits.toNat
  | .ipAddress (.v6 bits) => .ok bits.toNat
  | .eui bits => .ok bits.toNat
  | _ => .error .typeError

/-- The items of `for item in value`. -/
def iterate : FieldValue → Except PyError (List FieldValue)
  | .list items => .ok items
  | .tuple items => .ok items
  | .str text => .ok (text.toList.map fun letter => .str letter.toString)
  | .dict entries => .ok (entries.map fun entry => entry.1.toValue)
  | _ => .error .typeError

/-- A dictionary takes a key that it already has at its old place. -/
def insertEntry (entries : List (DictKey × FieldValue)) (key : DictKey)
    (value : FieldValue) : List (DictKey × FieldValue) :=
  if entries.any (fun entry => entry.1 = key) then
    entries.map fun entry => if entry.1 = key then (key, value) else entry
  else
    entries ++ [(key, value)]

/-- A dictionary comprehension over the entries. -/
def dictOf (entries : List (DictKey × FieldValue)) : FieldValue :=
  .dict (entries.foldl (fun built entry => insertEntry built entry.1 entry.2) [])

end FieldValue

/-- The classes of `netaddr` that the fields hold: their constructors, which take
values of several types, and their `str`. -/
structure NetaddrClasses where
  ipAddress : FieldValue → Except PyError IPAddress
  ipNetwork : FieldValue → Except PyError IPNetwork
  eui : FieldValue → Except PyError MacAddress
  ipAddressStr : IPAddress → String
  ipNetworkStr : IPNetwork → String
  /-- In the dialect `mac_unix_expanded`. -/
  euiStr : MacAddress → String

/-- The constructors read what `str` writes. -/
structure NetaddrClasses.Inverse (netaddr : NetaddrClasses) : Prop where
  ipAddress : ∀ value, netaddr.ipAddress (.str (netaddr.ipAddressStr value)) = .ok value
  ipNetwork : ∀ value, netaddr.ipNetwork (.str (netaddr.ipNetworkStr value)) = .ok value
  eui : ∀ value, netaddr.eui (.str (netaddr.euiStr value)) = .ok value

/-- `oslo_serialization.jsonutils` -/
structure JsonUtils where
  dumps : FieldValue → Except PyError String
  loads : String → Except PyError FieldValue

/-- `loads` reads what `dumps` makes of the value. -/
def JsonUtils.InverseOn (json : JsonUtils) (value : FieldValue) : Prop :=
  ∃ text, json.dumps value = .ok text ∧ json.loads text = .ok value

/-! ## Classes -/

/-- What a class is besides its fields. -/
structure ModelClass where
  name : String
  /-- Derived from `_CommonBase`, whose constructor refuses unknown keywords. -/
  commonBase : Bool
  /-- What the `validate` of the class adds, on the fields as they read. -/
  validateSelf : (FieldName → Option FieldValue) → Except PyError Unit

mutual
inductive FieldType
  | string
  | int
  | bool
  | ipProto
  | enum (values : List String)
  | enumList (values : List String)
  | ipAddress
  | ipNetwork
  | macAddress
  | dhcpOptsDict
  | portRange
  | reference (model : String)
  | listOf (field : FieldType)
  | embedded (model : ModelClass) (fields : FieldTypes)
  | list (model : ModelClass) (fields : FieldTypes)

/-- The fields of a class, in the order in which it walks them. -/
inductive FieldTypes
  | nil
  | cons (name : FieldName) (required : Bool) (type : FieldType) (tail : FieldTypes)
end

/-- `ReferenceListField` -/
def FieldType.referenceList (model : String) : FieldType := .listOf (.reference model)

def FieldTypes.names : FieldTypes → List FieldName
  | .nil => []
  | .cons name _ _ tail => name :: tail.names

/-! ## Validation -/

/-- `isinstance(value, field.types)` -/
def FieldType.isInstance : FieldType → FieldValue → Bool
  | .string, .str _ => true
  | .enum _, .str _ => true
  | .int, .int _ => true
  | .int, .bool _ => true
  | .ipProto, .int _ => true
  | .ipProto, .bool _ => true
  | .bool, .bool _ => true
  | .ipAddress, .ipAddress _ => true
  | .ipNetwork, .ipNetwork _ => true
  | .macAddress, .eui _ => true
  | .dhcpOptsDict, .dict _ => true
  | .portRange, .portRange _ _ => true
  | .reference model, .proxy other _ => other = model
  | .enumList _, .list _ => true
  | .listOf _, .list _ => true
  | .list _ _, .list _ => true
  | .embedded model _, .instance name _ => name = model.name
  | _, _ => false

/-- `BaseField.validate` -/
def FieldType.validateBase (type : FieldType) (required : Bool) (value : FieldValue) :
    Except PyError Unit :=
  if value.isNone then
    if required then .error .validationError else .ok ()
  else if type.isInstance value then .ok ()
  else .error .validationError

/-- `EnumField.validate`, for one string. -/
def validateEnum (values : List String) : FieldValue → Except PyError Unit
  | .str text => if text ∈ values then .ok () else .error .validationError
  | _ => .error .validationError

/-- The loop of `DhcpOptsDictField.validate`, with `dhcp.is_tag_valid`. -/
def validateDhcpOpt : DictKey × FieldValue → Except PyError Unit
  | (.int tag, .str _) =>
      if 0 < tag ∧ tag < 255 then .ok () else .error .validationError
  | _ => .error .validationError

/-- `ListField.validate_single_value` of a list of models. -/
def ModelClass.validateItem (model : ModelClass) : FieldValue → Except PyError Unit
  | .instance name _ =>
      if name = model.name then .ok () else .error .validationError
  | _ => .error .validationError

/-- `validate` of an instance: its fields first, then what the class adds. -/
def ModelClass.validateInstance (model : ModelClass)
    (validateFields : List (FieldName × FieldValue) → Except PyError Unit)
    (memory : List (FieldName × FieldValue)) : Except PyError Unit := do
  validateFields memory
  model.validateSelf fun name => memory.lookup name

mutual
/-- `validate` of a field. A `ListField` is never required, and
`EnumListField` does not ask whether its value is a list. -/
def FieldType.validate :
    FieldType → (required : Bool) → FieldValue → Except PyError Unit
  | .reference _, _, _ => .ok ()
  | .enum values, required, value => do
      (FieldType.enum values).validateBase required value
      if value.isNone then .ok () else validateEnum values value
  | .ipProto, required, value => do
      FieldType.ipProto.validateBase required value
      match value with
      | .int number =>
          if number < 0 ∨ number > 255 then .error .validationError else .ok ()
      | _ => .ok ()
  | .enumList values, _, value =>
      if value.isNone then .ok ()
      else do
        let items ← value.iterate
        items.forM (validateEnum values)
  | .dhcpOptsDict, required, value => do
      FieldType.dhcpOptsDict.validateBase required value
      match value with
      | .dict entries => entries.forM validateDhcpOpt
      | _ => .ok ()
  | .listOf field, _, value => do
      (FieldType.listOf field).validateBase false value
      let items ← value.iterate
      items.forM fun item =>
        if field.isInstance item then .ok () else .error .validationError
  | .list model fields, _, value => do
      (FieldType.list model fields).validateBase false value
      let items ← value.iterate
      items.forM model.validateItem
  | .embedded model fields, required, value => do
      (FieldType.embedded model fields).validateBase required value
      match value with
      | .instance _ memory =>
          model.validateInstance (fun memory => fields.validate memory) memory
      | _ => .ok ()
  | .string, required, value => FieldType.string.validateBase required value
  | .int, required, value => FieldType.int.validateBase required value
  | .bool, required, value => FieldType.bool.validateBase required value
  | .ipAddress, required, value => FieldType.ipAddress.validateBase required value
  | .ipNetwork, required, value => FieldType.ipNetwork.validateBase required value
  | .macAddress, required, value => FieldType.macAddress.validateBase required value
  | .portRange, required, value => FieldType.portRange.validateBase required value

/-- `models.Base.validate` -/
def FieldTypes.validate :
    FieldTypes → List (FieldName × FieldValue) → Except PyError Unit
  | .nil, _ => .ok ()
  | .cons name required type tail, memory => do
      match memory.lookup name with
      | none => .error .validationError
      | some value => type.validate required value
      tail.validate memory
end

/-! ## Parsing -/

/-- `get_default_value` -/
def FieldType.defaultValue : FieldType → FieldValue
  | .dhcpOptsDict => .dict []
  | .enumList _ => .list []
  | .listOf _ => .list []
  | .list _ _ => .list []
  | _ => .none

/-- `_create_ref` -/
def createRef (model : String) : FieldValue → Except PyError FieldValue
  | .str id => .ok (.proxy model id)
  | .proxy other id =>
      if other = model then .ok (.proxy model id) else .error .valueError
  | .instance name memory =>
      if name = model then
        match memory.lookup "id" with
        | some (.str id) => .ok (.proxy model id)
        | _ => .error .validationError
      else .error .valueError
  | _ => .error .valueError

/-- `ListField._cast_value` of a list of strings. -/
def castString : FieldValue → Except PyError FieldValue
  | .str text => .ok (.str text)
  | _ => .error .typeError

/-- `parse_value` of `DhcpOptsDictField`. -/
def parseDhcpOpts : FieldValue → Except PyError FieldValue
  | .none => .ok .none
  | .dict entries => do
      let parsed ← entries.mapM fun entry => do
        let tag ← entry.1.toInt
        return (DictKey.int tag, entry.2)
      return FieldValue.dictOf parsed
  | _ => .error .attributeError

/-- `parse_value` of `PortRangeField`. -/
def parsePortRange : FieldValue → Except PyError FieldValue
  | .none => .ok .none
  | .portRange min max => .ok (.portRange min max)
  | value => do
      match ← value.iterate with
      | [min, max] => .ok (.portRange min max)
      | _ => .error .valueError

/-- The keywords of a call `cls(**entries)`. -/
def keywords : List (DictKey × FieldValue) →
    Except PyError (List (FieldName × FieldValue))
  | [] => .ok []
  | (.str name, value) :: tail => do return (name, value) :: (← keywords tail)
  | (.int _, _) :: _ => .error .typeError

/-- The check of `_CommonBase.__init__`. -/
def ModelClass.checkKeywords (model : ModelClass) (names : List FieldName)
    (given : List (FieldName × FieldValue)) : Except PyError Unit :=
  if model.commonBase && given.any (fun entry => entry.1 ∉ names) then .error .typeError
  else .ok ()

/-- `cls(**entries)` -/
def ModelClass.construct (model : ModelClass) (names : List FieldName)
    (populate : List (FieldName × FieldValue) →
      Except PyError (List (FieldName × FieldValue)))
    (entries : List (DictKey × FieldValue)) : Except PyError FieldValue := do
  let given ← keywords entries
  model.checkKeywords names given
  .instance model.name <$> populate given

/-- `ListField._cast_value` of a list of models. -/
def ModelClass.castItem (model : ModelClass) (names : List FieldName)
    (populate : List (FieldName × FieldValue) →
      Except PyError (List (FieldName × FieldValue))) :
    FieldValue → Except PyError FieldValue
  | .instance name memory =>
      if name = model.name then .ok (.instance name memory) else .error .typeError
  | .dict entries => model.construct names populate entries
  | _ => .error .typeError

section Parse

variable (netaddr : NetaddrClasses)

mutual
/-- `parse_value` -/
def FieldType.parseValue : FieldType → FieldValue → Except PyError FieldValue
  | .string, value => .ok value
  | .enum _, value => .ok value
  | .int, value => if value.isNone then .ok .none else .int <$> value.toInt
  | .ipProto, value => if value.isNone then .ok .none else .int <$> value.toInt
  | .bool, value => if value.isNone then .ok .none else .ok (.bool value.truth)
  | .ipAddress, value =>
      if value.isNone then .ok .none else .ipAddress <$> netaddr.ipAddress value
  | .ipNetwork, value =>
      if value.isNone then .ok .none else .ipNetwork <$> netaddr.ipNetwork value
  | .macAddress, value =>
      if value.isNone then .ok .none else .eui <$> netaddr.eui value
  | .enumList _, value =>
      if !value.truth then .ok (.list [])
      else
        match value with
        | .list items => .list <$> items.mapM castString
        | other => .ok other
  | .dhcpOptsDict, value => parseDhcpOpts value
  | .portRange, value => parsePortRange value
  | .reference model, value =>
      if value.isNone then .ok .none else createRef model value
  | .listOf field, value =>
      if !value.truth then .ok (.list [])
      else do
        let items ← value.iterate
        .list <$> items.mapM fun item => field.parseValue item
  | .embedded model fields, value =>
      match value with
      | .dict entries =>
          model.construct fields.names (fun given => fields.populate given) entries
      | other => .ok other
  | .list model fields, value =>
      if !value.truth then .ok (.list [])
      else
        match value with
        | .list items =>
            .list <$> items.mapM
              (model.castItem fields.names fun given => fields.populate given)
        | other => .ok other

/-- `models.Base.populate`: what the fields of a new instance read as. -/
def FieldTypes.populate : FieldTypes → List (FieldName × FieldValue) →
    Except PyError (List (FieldName × FieldValue))
  | .nil, _ => .ok []
  | .cons name required type tail, given => do
      let read ←
        match given.lookup name with
        | some value => do
            let parsed ← type.parseValue value
            type.validate required parsed
            pure (some parsed)
        | none =>
            match type.validate required type.defaultValue with
            | .ok () => pure (some type.defaultValue)
            | .error _ => pure none
      let others ← tail.populate given
      match read with
      | some value => return (name, value) :: others
      | none => return others
end

end Parse

/-! ## Writing out -/

/-- `to_struct` of `DhcpOptsDictField`. -/
def dhcpOptsToStruct : FieldValue → Except PyError FieldValue
  | .none => .ok .none
  | .dict entries =>
      .ok (FieldValue.dictOf (entries.map fun entry => (.str entry.1.toStr, entry.2)))
  | _ => .error .attributeError

/-- `to_struct` of `PortRangeField`. -/
def portRangeToStruct : FieldValue → Except PyError FieldValue
  | .none => .ok .none
  | .list [.none, .none] => .ok .none
  | .portRange min max => .ok (.list [min, max])
  | _ => .error .attributeError

/-- `to_struct` of `ReferenceField`. -/
def referenceToStruct : FieldValue → Except PyError FieldValue
  | .none => .ok .none
  | .proxy _ id => .ok (.str id)
  | .instance _ memory =>
      match memory.lookup "id" with
      | some id => .ok id
      | none => .error .validationError
  | _ => .error .attributeError

/-- `to_struct` of an instance, which validates it first. -/
def ModelClass.instanceToStruct (model : ModelClass)
    (validateFields : List (FieldName × FieldValue) → Except PyError Unit)
    (fieldsToStruct : List (FieldName × FieldValue) →
      Except PyError (List (FieldName × FieldValue)))
    (memory : List (FieldName × FieldValue)) : Except PyError FieldValue := do
  model.validateInstance validateFields memory
  let written ← fieldsToStruct memory
  return .dict (written.map fun entry => (.str entry.1, entry.2))

/-- `ListField.to_struct` of one item. -/
def ModelClass.itemToStruct (model : ModelClass)
    (validateFields : List (FieldName × FieldValue) → Except PyError Unit)
    (fieldsToStruct : List (FieldName × FieldValue) →
      Except PyError (List (FieldName × FieldValue))) :
    FieldValue → Except PyError FieldValue
  | .instance _ memory => model.instanceToStruct validateFields fieldsToStruct memory
  | other => .ok other

section ToStruct

variable (netaddr : NetaddrClasses)

mutual
/-- `to_struct` of a field. -/
def FieldType.toStruct : FieldType → FieldValue → Except PyError FieldValue
  | .string, value => .ok value
  | .enum _, value => .ok value
  | .int, value => .ok value
  | .ipProto, value => .ok value
  | .bool, value => .ok value
  | .ipAddress, value =>
      match value with
      | .none => .ok .none
      | .ipAddress address => .ok (.str (netaddr.ipAddressStr address))
      | _ => .error .typeError
  | .ipNetwork, value =>
      match value with
      | .none => .ok .none
      | .ipNetwork network => .ok (.str (netaddr.ipNetworkStr network))
      | _ => .error .typeError
  | .macAddress, value =>
      match value with
      | .none => .ok .none
      | .eui address => .ok (.str (netaddr.euiStr address))
      | _ => .error .typeError
  | .enumList _, value => do return .list (← value.iterate)
  | .dhcpOptsDict, value => dhcpOptsToStruct value
  | .portRange, value => portRangeToStruct value
  | .reference _, value => referenceToStruct value
  | .listOf field, value =>
      if !value.truth then .ok (.list [])
      else do
        let items ← value.iterate
        .list <$> items.mapM fun item => field.toStruct item
  | .embedded model fields, value =>
      match value with
      | .instance _ memory =>
          model.instanceToStruct fields.validate (fun memory => fields.toStruct memory)
            memory
      | _ => .error .attributeError
  | .list model fields, value => do
      let items ← value.iterate
      .list <$> items.mapM
        (model.itemToStruct fields.validate fun memory => fields.toStruct memory)

/-- The loop of `parsers.to_struct`, which leaves out the fields that read as
`None`. -/
def FieldTypes.toStruct : FieldTypes → List (FieldName × FieldValue) →
    Except PyError (List (FieldName × FieldValue))
  | .nil, _ => .ok []
  | .cons name _ type tail, memory => do
      match memory.lookup name with
      | none => .error .validationError
      | some value =>
          if value.isNone then tail.toStruct memory
          else do
            let written ← type.toStruct value
            return (name, written) :: (← tail.toStruct memory)
end

end ToStruct

/-! ## Models -/

/-- A class of the data model. -/
structure JsonModel where
  model : ModelClass
  fields : FieldTypes

namespace JsonModel

variable (netaddr : NetaddrClasses) (json : JsonUtils)

/-- `cls(**kwargs)` for a dictionary. Nothing else can be unpacked. -/
def construct (schema : JsonModel) : FieldValue → Except PyError FieldValue
  | .dict entries =>
      (FieldType.embedded schema.model schema.fields).parseValue netaddr (.dict entries)
  | _ => .error .typeError

/-- `_CommonBase.from_json` -/
def fromJson (schema : JsonModel) (data : String) : Except PyError FieldValue := do
  schema.construct netaddr (← json.loads data)

/-- `to_struct` of an instance. -/
def toStruct (schema : JsonModel) (object : FieldValue) : Except PyError FieldValue :=
  (FieldType.embedded schema.model schema.fields).toStruct netaddr object

/-- `_CommonBase.to_json` -/
def toJson (schema : JsonModel) (object : FieldValue) : Except PyError String := do
  json.dumps (← schema.toStruct netaddr object)

end JsonModel

end Dragonflow
