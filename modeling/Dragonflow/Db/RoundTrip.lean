import Dragonflow.Db.FieldTypes
import Mathlib.Data.List.Nodup

/-! # Serialisation round trips

Writing a valid instance out and reading the text back gives the instance again,
unless a field of DHCP options holds `None` or a field of enumerated strings
holds something else than a list.
-/

namespace Dragonflow

/-! ## Lists of fallible calls -/

/-- Writing every item and reading all that was written back. -/
theorem mapM_inverse {α β ε : Type} {write : α → Except ε β} {read : β → Except ε α}
    {items : List α}
    (each : ∀ item ∈ items, ∃ written, write item = .ok written ∧
      read written = .ok item) :
    ∃ written, items.mapM write = .ok written ∧ written.length = items.length ∧
      written.mapM read = .ok items := by
  induction items with
  | nil => exact ⟨[], rfl, rfl, rfl⟩
  | cons head tail induction =>
      rcases each head List.mem_cons_self with ⟨first, wrote, reads⟩
      rcases induction fun item member => each item (List.mem_cons_of_mem _ member) with
        ⟨rest, wroteRest, lengths, readsRest⟩
      refine ⟨first :: rest, ?_, congrArg (· + 1) lengths, ?_⟩
      · rw [List.mapM_cons, wrote, wroteRest]
        rfl
      · rw [List.mapM_cons, reads, readsRest]
        rfl

theorem mapM_cons_ok {α β ε : Type} {call : α → Except ε β} {head : α}
    {tail : List α} {results : List β}
    (succeeds : (head :: tail).mapM call = .ok results) :
    ∃ first rest, results = first :: rest ∧ call head = .ok first ∧
      tail.mapM call = .ok rest := by
  rw [List.mapM_cons] at succeeds
  cases called : call head with
  | error raised =>
      rw [called] at succeeds
      cases succeeds
  | ok first =>
      cases others : tail.mapM call with
      | error raised =>
          rw [called, others] at succeeds
          cases succeeds
      | ok rest =>
          rw [called, others] at succeeds
          cases succeeds
          exact ⟨first, rest, rfl, rfl, rfl⟩

theorem mapM_inverse_item {α β ε : Type} {write : α → Except ε β}
    {read : β → Except ε α} {items : List α} {written : List β}
    (wrote : items.mapM write = .ok written) (reads : written.mapM read = .ok items) :
    ∀ item ∈ items, ∃ text, write item = .ok text ∧ read text = .ok item := by
  induction items generalizing written with
  | nil => simp
  | cons head tail induction =>
      rcases mapM_cons_ok wrote with ⟨first, rest, rfl, wroteFirst, wroteRest⟩
      rcases mapM_cons_ok reads with ⟨_, _, same, readsFirst, readsRest⟩
      cases same
      intro item member
      rcases List.mem_cons.mp member with rfl | later
      · exact ⟨first, wroteFirst, readsFirst⟩
      · exact induction wroteRest readsRest item later

/-! ## Valid instances -/

/-- A valid instance of a class: every declared field reads, once, and holds what
the field accepts, and the check that the class adds passes. -/
structure ModelClass.IsValid (model : ModelClass) (names : List FieldName)
    (hold : List (FieldName × FieldValue) → Prop)
    (memory : List (FieldName × FieldValue)) : Prop where
  names : memory.map Prod.fst = names
  distinct : (memory.map Prod.fst).Nodup
  hold : hold memory
  own : model.validateSelf (fun name => memory.lookup name) = .ok ()

mutual
/-- The values that setting a field can leave in it, with every embedded
instance valid. What `validate` asks of them is stated beside it, because
`ListOfField` does not ask it of its items. -/
def FieldType.Holds : FieldType → FieldValue → Prop
  | .string, value => value = .none ∨ ∃ text, value = .str text
  | .enum _, value => value = .none ∨ ∃ text, value = .str text
  | .int, value => value = .none ∨ ∃ number, value = .int number
  | .ipProto, value => value = .none ∨ ∃ number, value = .int number
  | .bool, value => value = .none ∨ ∃ truth, value = .bool truth
  | .ipAddress, value => value = .none ∨ ∃ address, value = .ipAddress address
  | .ipNetwork, value => value = .none ∨ ∃ network, value = .ipNetwork network
  | .macAddress, value => value = .none ∨ ∃ address, value = .eui address
  | .enumList _, value => ∃ items, value.iterate = .ok items ∧
      ∀ item ∈ items, ∃ text, item = .str text
  | .dhcpOptsDict, value => value = .none ∨ ∃ entries, value = .dict entries ∧
      (∀ entry ∈ entries, ∃ tag, entry.1 = .int tag) ∧ (entries.map Prod.fst).Nodup
  | .portRange, value => value = .none ∨ ∃ min max, value = .portRange min max
  | .reference model, value => value = .none ∨ ∃ id, value = .proxy model id
  | .listOf field, value => ∃ items, value = .list items ∧
      ∀ item ∈ items, field.isInstance item ∧ field.Holds item
  | .embedded model fields, value => value = .none ∨ ∃ memory,
      value = .instance model.name memory ∧
        model.IsValid fields.names (fun memory => fields.Hold memory) memory
  | .list model fields, value => ∃ items, value = .list items ∧
      ∀ item ∈ items, ∃ memory, item = .instance model.name memory ∧
        model.IsValid fields.names (fun memory => fields.Hold memory) memory

def FieldTypes.Hold : FieldTypes → List (FieldName × FieldValue) → Prop
  | .nil, _ => True
  | .cons name required type tail, memory =>
      (∃ value, memory.lookup name = some value ∧ type.Holds value ∧
        type.validate required value = .ok ()) ∧ tail.Hold memory
end

/-- A valid instance of a class of the data model. -/
def JsonModel.Valid (schema : JsonModel) (object : FieldValue) : Prop :=
  ∃ memory, object = .instance schema.model.name memory ∧
    schema.model.IsValid schema.fields.names schema.fields.Hold memory

mutual
/-- No field of DHCP options holds `None` and every field of enumerated strings
holds a list, here and in all embedded instances. -/
def FieldType.Settled : FieldType → FieldValue → Prop
  | .dhcpOptsDict, value => value.isNone = false
  | .enumList _, value => value.isList = true
  | .listOf field, value => ∀ items, value = .list items →
      ∀ item ∈ items, field.Settled item
  | .embedded _ fields, value => ∀ name memory, value = .instance name memory →
      fields.Settled memory
  | .list _ fields, value => ∀ items, value = .list items →
      ∀ item ∈ items, ∀ name memory, item = .instance name memory →
        fields.Settled memory
  | _, _ => True

def FieldTypes.Settled : FieldTypes → List (FieldName × FieldValue) → Prop
  | .nil, _ => True
  | .cons name _ type tail, memory =>
      (∀ value, memory.lookup name = some value → type.Settled value) ∧
        tail.Settled memory
end

/-- The fields of the instance are settled, at every depth. -/
def JsonModel.Settled (schema : JsonModel) (object : FieldValue) : Prop :=
  (FieldType.embedded schema.model schema.fields).Settled object

/-- The instance is read back from the text that it is written as, and the text
is what is written again. -/
def JsonModel.RoundTrips (netaddr : NetaddrClasses) (json : JsonUtils)
    (schema : JsonModel) (object : FieldValue) : Prop :=
  (∃ text, schema.toJson netaddr json object = .ok text ∧
    schema.fromJson netaddr json text = .ok object) ∧
  ∀ text, schema.toJson netaddr json object = .ok text →
    ∃ read, schema.fromJson netaddr json text = .ok read ∧
      schema.toJson netaddr json read = .ok text

/-! ## Validity -/

theorem FieldType.isNone_of_isInstance {type : FieldType} {value : FieldValue}
    (accepted : type.isInstance value = true) : value.isNone = false := by
  cases value with
  | none => cases type <;> simp [isInstance] at accepted
  | _ => rfl

theorem FieldTypes.validate_of_hold {fields : FieldTypes}
    {memory : List (FieldName × FieldValue)} (hold : fields.Hold memory) :
    fields.validate memory = .ok () := by
  match fields with
  | .nil => rw [FieldTypes.validate]
  | .cons name required type tail =>
      rw [FieldTypes.Hold] at hold
      rcases hold with ⟨⟨value, found, -, valid⟩, rest⟩
      rw [FieldTypes.validate, found]
      simp only [valid]
      exact validate_of_hold rest

theorem ModelClass.IsValid.validateInstance {model : ModelClass} {fields : FieldTypes}
    {memory : List (FieldName × FieldValue)}
    (valid : model.IsValid fields.names fields.Hold memory) :
    model.validateInstance fields.validate memory = .ok () := by
  rw [ModelClass.validateInstance, FieldTypes.validate_of_hold valid.hold]
  exact valid.own

/-- A field that holds `None` is not written out, and its default is read back. -/
theorem FieldType.validate_default {type : FieldType} {required : Bool}
    (holds : type.Holds .none) (valid : type.validate required .none = .ok ()) :
    type.validate required type.defaultValue = .ok () := by
  cases type with
  | enumList values =>
      rw [FieldType.Holds] at holds
      rcases holds with ⟨items, iterated, -⟩
      cases iterated
  | listOf field =>
      rw [FieldType.Holds] at holds
      rcases holds with ⟨items, same, -⟩
      cases same
  | list model fields =>
      rw [FieldType.Holds] at holds
      rcases holds with ⟨items, same, -⟩
      cases same
  | dhcpOptsDict => rfl
  | _ => exact valid

/-! ## Dictionaries -/

theorem FieldValue.foldl_insertEntry {before entries : List (DictKey × FieldValue)}
    (distinct : ((before ++ entries).map Prod.fst).Nodup) :
    entries.foldl (fun built entry => insertEntry built entry.1 entry.2) before =
      before ++ entries := by
  induction entries generalizing before with
  | nil => rw [List.foldl_nil, List.append_nil]
  | cons head tail induction =>
      have fresh : before.any (fun entry => entry.1 = head.1) = false := by
        rw [List.any_eq_false]
        intro entry member
        rw [List.map_append, List.map_cons, List.nodup_append] at distinct
        have apart := distinct.2.2 entry.1 (List.mem_map_of_mem member) head.1
          List.mem_cons_self
        simpa using apart
      have regroup : before ++ head :: tail = before ++ [head] ++ tail := by simp
      have inserted : insertEntry before head.1 head.2 = before ++ [head] := by
        rw [insertEntry, fresh]
        rfl
      rw [List.foldl_cons, inserted, regroup]
      apply induction
      rw [← regroup]
      exact distinct

theorem FieldValue.dictOf_of_nodup {entries : List (DictKey × FieldValue)}
    (distinct : (entries.map Prod.fst).Nodup) : dictOf entries = .dict entries := by
  rw [dictOf, foldl_insertEntry]
  · rfl
  · exact distinct

theorem DictKey.toInt_repr (tag : Int) : (DictKey.str tag.repr).toInt = .ok tag := by
  rw [toInt, intOfText, Int.toInt?_repr]

/-- The tags are written as strings, and no two become the same one. -/
theorem nodup_dhcp_keys {entries : List (DictKey × FieldValue)}
    (tags : ∀ entry ∈ entries, ∃ tag, entry.1 = .int tag)
    (distinct : (entries.map Prod.fst).Nodup) :
    ((entries.map fun entry => (DictKey.str entry.1.toStr, entry.2)).map
      Prod.fst).Nodup := by
  rw [List.map_map]
  have written : entries.map (Prod.fst ∘ fun entry : DictKey × FieldValue =>
      (DictKey.str entry.1.toStr, entry.2)) =
        (entries.map Prod.fst).map fun key => DictKey.str key.toStr := by
    rw [List.map_map]
    rfl
  rw [written]
  apply List.Nodup.map_on _ distinct
  intro key keyMember other otherMember same
  rcases List.mem_map.mp keyMember with ⟨entry, member, rfl⟩
  rcases List.mem_map.mp otherMember with ⟨entry', member', rfl⟩
  rcases tags entry member with ⟨tag, key⟩
  rcases tags entry' member' with ⟨tag', key'⟩
  rw [key, key', DictKey.str.injEq] at same
  rw [key, key', Int.repr_injective same]

theorem parseDhcpOpts_toStruct {entries : List (DictKey × FieldValue)}
    (tags : ∀ entry ∈ entries, ∃ tag, entry.1 = .int tag)
    (distinct : (entries.map Prod.fst).Nodup) :
    ∃ written, dhcpOptsToStruct (.dict entries) = .ok written ∧
      written.isNone = false ∧ parseDhcpOpts written = .ok (.dict entries) := by
  refine ⟨_, rfl, rfl, ?_⟩
  rw [FieldValue.dictOf_of_nodup (nodup_dhcp_keys tags distinct), parseDhcpOpts]
  have parsed : (entries.map fun entry => (DictKey.str entry.1.toStr, entry.2)).mapM
      (fun entry : DictKey × FieldValue => do
        let tag ← entry.1.toInt
        return (DictKey.int tag, entry.2)) = (.ok entries : Except PyError _) := by
    clear distinct
    induction entries with
    | nil => rfl
    | cons head tail induction =>
        rcases head with ⟨key, value⟩
        have rest := induction fun entry member =>
          tags entry (List.mem_cons_of_mem _ member)
        obtain ⟨tag, rfl⟩ : ∃ tag, key = .int tag := tags (key, value) List.mem_cons_self
        rw [List.map_cons, List.mapM_cons, rest, DictKey.toStr, DictKey.toInt_repr]
        rfl
  rw [parsed]
  exact congrArg Except.ok (FieldValue.dictOf_of_nodup distinct)

/-! ## Reading back what was written -/

theorem keywords_str (written : List (FieldName × FieldValue)) :
    keywords (written.map fun entry => (DictKey.str entry.1, entry.2)) = .ok written := by
  induction written with
  | nil => rfl
  | cons head tail induction =>
      rw [List.map_cons, keywords, induction]
      rfl

theorem castString_items {items : List FieldValue}
    (strings : ∀ item ∈ items, ∃ text, item = .str text) :
    items.mapM castString = .ok items := by
  induction items with
  | nil => rfl
  | cons head tail induction =>
      rcases strings head List.mem_cons_self with ⟨text, rfl⟩
      rw [List.mapM_cons, castString,
        induction fun item member => strings item (List.mem_cons_of_mem _ member)]
      rfl

/-- What the declared fields read as, in the order of their declaration. -/
def FieldTypes.select (fields : FieldTypes) (memory : List (FieldName × FieldValue)) :
    List (FieldName × FieldValue) :=
  fields.names.map fun name => (name, (memory.lookup name).getD .none)

theorem lookup_cons_self (name : FieldName) (value : FieldValue)
    (tail : List (FieldName × FieldValue)) :
    ((name, value) :: tail).lookup name = some value := by
  rw [List.lookup_cons, beq_self_eq_true]

theorem lookup_cons_other {name other : FieldName} (different : other ≠ name)
    (value : FieldValue) (tail : List (FieldName × FieldValue)) :
    ((name, value) :: tail).lookup other = tail.lookup other := by
  have unequal : (other == name) = false := beq_eq_false_iff_ne.mpr different
  rw [List.lookup_cons, unequal]

theorem ModelClass.IsValid.select_eq {model : ModelClass} {fields : FieldTypes}
    {memory : List (FieldName × FieldValue)}
    (valid : model.IsValid fields.names fields.Hold memory) :
    fields.select memory = memory := by
  have reads : ∀ memory : List (FieldName × FieldValue),
      (memory.map Prod.fst).Nodup →
      (memory.map Prod.fst).map (fun name => (name, (memory.lookup name).getD .none)) =
        memory := by
    intro memory distinct
    induction memory with
    | nil => rfl
    | cons head tail induction =>
        rw [List.map_cons, List.nodup_cons] at distinct
        rw [List.map_cons, List.map_cons, lookup_cons_self]
        congr 1
        apply Eq.trans _ (induction distinct.2)
        apply List.map_congr_left
        intro name member
        have different : name ≠ head.1 := by
          intro same
          exact distinct.1 (same ▸ member)
        rw [lookup_cons_other different head.2 tail]
  rw [FieldTypes.select, ← valid.names]
  exact reads memory valid.distinct

section RoundTrip

variable {netaddr : NetaddrClasses}

theorem FieldType.listOf_inverse {field : FieldType} {items : List FieldValue}
    (each : ∀ item ∈ items, ∃ written, field.toStruct netaddr item = .ok written ∧
      field.parseValue netaddr written = .ok item) :
    ∃ written, (FieldType.listOf field).toStruct netaddr (.list items) = .ok written ∧
      written.isNone = false ∧
      (FieldType.listOf field).parseValue netaddr written = .ok (.list items) := by
  cases items with
  | nil => exact ⟨.list [], rfl, rfl, rfl⟩
  | cons head tail =>
      rcases mapM_inverse each with ⟨written, wrote, lengths, reads⟩
      cases written with
      | nil => cases lengths
      | cons first rest =>
          refine ⟨.list (first :: rest), ?_, rfl, ?_⟩
          · change FieldValue.list <$> (head :: tail).mapM
              (fun item => field.toStruct netaddr item) = _
            rw [wrote]
            rfl
          · change FieldValue.list <$> (first :: rest).mapM
              (fun item => field.parseValue netaddr item) = _
            rw [reads]
            rfl

/-- Reading back an instance whose fields are read back. -/
theorem ModelClass.construct_toStruct {model : ModelClass} {fields : FieldTypes}
    {memory written : List (FieldName × FieldValue)}
    (valid : model.IsValid fields.names fields.Hold memory)
    (declared : ∀ entry ∈ written, entry.1 ∈ fields.names)
    (populated : fields.populate netaddr written = .ok (fields.select memory)) :
    model.construct fields.names (fun given => fields.populate netaddr given)
      (written.map fun entry => (.str entry.1, entry.2)) =
        .ok (.instance model.name memory) := by
  have known : written.any (fun entry => entry.1 ∉ fields.names) = false := by
    rw [List.any_eq_false]
    intro entry member
    simpa using declared entry member
  rw [ModelClass.construct, keywords_str]
  change (do
    model.checkKeywords fields.names written
    FieldValue.instance model.name <$> fields.populate netaddr written) = _
  rw [ModelClass.checkKeywords, known, Bool.and_false, populated, valid.select_eq]
  rfl

theorem ModelClass.instanceToStruct_eq {model : ModelClass} {fields : FieldTypes}
    {memory written : List (FieldName × FieldValue)}
    (valid : model.IsValid fields.names fields.Hold memory)
    (wrote : fields.toStruct netaddr memory = .ok written) :
    model.instanceToStruct fields.validate (fun memory => fields.toStruct netaddr memory)
      memory = .ok (.dict (written.map fun entry => (.str entry.1, entry.2))) := by
  rw [ModelClass.instanceToStruct, valid.validateInstance, wrote]
  rfl

section Fields

variable {name : FieldName} {required : Bool} {type : FieldType} {tail : FieldTypes}
  {memory : List (FieldName × FieldValue)} {value : FieldValue}

theorem FieldTypes.toStruct_absent (found : memory.lookup name = some value)
    (absent : value.isNone = true) :
    (FieldTypes.cons name required type tail).toStruct netaddr memory =
      tail.toStruct netaddr memory := by
  rw [FieldTypes.toStruct, found]
  exact if_pos absent

theorem FieldTypes.toStruct_present {text : FieldValue}
    {rest : List (FieldName × FieldValue)} (found : memory.lookup name = some value)
    (present : value.isNone = false) (wrote : type.toStruct netaddr value = .ok text)
    (wroteRest : tail.toStruct netaddr memory = .ok rest) :
    (FieldTypes.cons name required type tail).toStruct netaddr memory =
      .ok ((name, text) :: rest) := by
  rw [FieldTypes.toStruct, found]
  simp only [present, wrote, wroteRest]
  rfl

theorem FieldTypes.toStruct_cons {written : List (FieldName × FieldValue)}
    (found : memory.lookup name = some value)
    (wrote : (FieldTypes.cons name required type tail).toStruct netaddr memory =
      .ok written) :
    (value.isNone = true ∧ tail.toStruct netaddr memory = .ok written) ∨
    (value.isNone = false ∧ ∃ text rest, written = (name, text) :: rest ∧
      type.toStruct netaddr value = .ok text ∧
      tail.toStruct netaddr memory = .ok rest) := by
  cases absent : value.isNone with
  | true => exact .inl ⟨rfl, (toStruct_absent found absent).symm.trans wrote⟩
  | false =>
      rw [FieldTypes.toStruct, found] at wrote
      simp only [absent] at wrote
      cases first : type.toStruct netaddr value with
      | error raised =>
          rw [first] at wrote
          cases wrote
      | ok text =>
          cases others : tail.toStruct netaddr memory with
          | error raised =>
              rw [first, others] at wrote
              cases wrote
          | ok rest =>
              rw [first, others] at wrote
              cases wrote
              exact .inr ⟨rfl, text, rest, rfl, rfl, rfl⟩

theorem FieldTypes.populate_given {given : List (FieldName × FieldValue)}
    {text : FieldValue} (found : given.lookup name = some text) :
    (FieldTypes.cons name required type tail).populate netaddr given = (do
      let parsed ← type.parseValue netaddr text
      type.validate required parsed
      let others ← tail.populate netaddr given
      return (name, parsed) :: others) := by
  rw [FieldTypes.populate, found]
  rfl

theorem FieldTypes.populate_default {given : List (FieldName × FieldValue)}
    (missing : given.lookup name = none)
    (valid : type.validate required type.defaultValue = .ok ()) :
    (FieldTypes.cons name required type tail).populate netaddr given = (do
      let others ← tail.populate netaddr given
      return (name, type.defaultValue) :: others) := by
  rw [FieldTypes.populate, missing]
  simp only [valid]
  rfl

end Fields

theorem FieldTypes.names_toStruct {fields : FieldTypes}
    {memory written : List (FieldName × FieldValue)} (hold : fields.Hold memory)
    (wrote : fields.toStruct netaddr memory = .ok written) :
    ∀ entry ∈ written, entry.1 ∈ fields.names := by
  match fields with
  | .nil =>
      rw [FieldTypes.toStruct] at wrote
      cases wrote
      simp
  | .cons name required type tail =>
      rw [FieldTypes.Hold] at hold
      rcases hold with ⟨⟨value, found, -⟩, rest⟩
      intro entry member
      rw [FieldTypes.names]
      rcases toStruct_cons found wrote with ⟨-, same⟩ | ⟨-, text, others, rfl, -, same⟩
      · exact List.mem_cons_of_mem _ (names_toStruct rest same entry member)
      · rcases List.mem_cons.mp member with rfl | later
        · exact List.mem_cons_self
        · exact List.mem_cons_of_mem _ (names_toStruct rest same entry later)

/-- The fields are read back from whatever gives them the values that they were
written as. -/
def FieldTypes.ReadBack (netaddr : NetaddrClasses) (fields : FieldTypes)
    (memory : List (FieldName × FieldValue)) : Prop :=
  ∃ written, fields.toStruct netaddr memory = .ok written ∧
    ∀ given : List (FieldName × FieldValue),
      (∀ name ∈ fields.names, given.lookup name = written.lookup name) →
        fields.populate netaddr given = .ok (fields.select memory)

theorem ModelClass.IsValid.nodup_names {model : ModelClass} {fields : FieldTypes}
    {memory : List (FieldName × FieldValue)}
    (valid : model.IsValid fields.names fields.Hold memory) : fields.names.Nodup := by
  rw [← valid.names]
  exact valid.distinct

theorem ModelClass.IsValid.inverse {model : ModelClass} {fields : FieldTypes}
    {memory : List (FieldName × FieldValue)}
    (valid : model.IsValid fields.names fields.Hold memory)
    (readBack : fields.ReadBack netaddr memory) :
    ∃ entries, model.instanceToStruct fields.validate
        (fun memory => fields.toStruct netaddr memory) memory = .ok (.dict entries) ∧
      model.construct fields.names (fun given => fields.populate netaddr given) entries =
        .ok (.instance model.name memory) := by
  rcases readBack with ⟨written, wrote, reads⟩
  have populated := reads written fun _ _ => rfl
  exact ⟨_, model.instanceToStruct_eq valid wrote,
    model.construct_toStruct valid (FieldTypes.names_toStruct valid.hold wrote) populated⟩

theorem FieldType.list_inverse {model : ModelClass} {fields : FieldTypes}
    {items : List FieldValue}
    (each : ∀ item ∈ items, ∃ memory, item = .instance model.name memory ∧
      model.IsValid fields.names fields.Hold memory ∧ fields.ReadBack netaddr memory) :
    ∃ written, (FieldType.list model fields).toStruct netaddr (.list items) =
        .ok written ∧ written.isNone = false ∧
      (FieldType.list model fields).parseValue netaddr written = .ok (.list items) := by
  have inverse : ∀ item ∈ items, ∃ written,
      model.itemToStruct fields.validate (fun memory => fields.toStruct netaddr memory)
        item = .ok written ∧
      model.castItem fields.names (fun given => fields.populate netaddr given) written =
        .ok item := by
    intro item member
    rcases each item member with ⟨memory, rfl, valid, readBack⟩
    rcases valid.inverse readBack with ⟨entries, wrote, reads⟩
    exact ⟨.dict entries, wrote, reads⟩
  rcases mapM_inverse inverse with ⟨written, wrote, lengths, reads⟩
  refine ⟨.list written, ?_, rfl, ?_⟩
  · change FieldValue.list <$> items.mapM
      (model.itemToStruct fields.validate fun memory => fields.toStruct netaddr memory) = _
    rw [wrote]
    rfl
  · cases written with
    | nil =>
        cases items with
        | nil => rfl
        | cons head tail => cases lengths
    | cons first rest =>
        change FieldValue.list <$> (first :: rest).mapM
          (model.castItem fields.names fun given => fields.populate netaddr given) = _
        rw [reads]
        rfl

theorem FieldType.enumList_inverse {values : List String} {items : List FieldValue}
    (strings : ∀ item ∈ items, ∃ text, item = .str text) :
    (FieldType.enumList values).parseValue netaddr (.list items) = .ok (.list items) := by
  cases items with
  | nil => rfl
  | cons head tail =>
      change FieldValue.list <$> (head :: tail).mapM castString = _
      rw [castString_items strings]
      rfl

/-- One more field in front of fields that are read back. -/
theorem FieldTypes.ReadBack.cons {name : FieldName} {required : Bool}
    {type : FieldType} {tail : FieldTypes} {memory : List (FieldName × FieldValue)}
    {value : FieldValue} (readBack : tail.ReadBack netaddr memory)
    (hold : tail.Hold memory) (fresh : name ∉ tail.names)
    (found : memory.lookup name = some value)
    (valid : type.validate required value = .ok ())
    (whenAbsent : value.isNone = true → type.defaultValue = value)
    (whenPresent : value.isNone = false → ∃ written,
      type.toStruct netaddr value = .ok written ∧
        type.parseValue netaddr written = .ok value) :
    (FieldTypes.cons name required type tail).ReadBack netaddr memory := by
  rcases readBack with ⟨rest, wroteRest, reads⟩
  have selected : (FieldTypes.cons name required type tail).select memory =
      (name, value) :: tail.select memory := by
    rw [FieldTypes.select, FieldTypes.names, List.map_cons, found]
    rfl
  cases absent : value.isNone with
  | true =>
      refine ⟨rest, (toStruct_absent found absent).trans wroteRest, ?_⟩
      intro given same
      have missing : given.lookup name = none := by
        rw [same name List.mem_cons_self, List.lookup_eq_none_iff]
        intro entry member
        have declared := names_toStruct hold wroteRest entry member
        have different : name ≠ entry.1 := fun equal => fresh (equal ▸ declared)
        simpa using different
      rw [populate_default missing (by rw [whenAbsent absent]; exact valid),
        reads given fun other member => same other (List.mem_cons_of_mem _ member),
        whenAbsent absent, selected]
      rfl
  | false =>
      rcases whenPresent absent with ⟨text, wrote, parsed⟩
      refine ⟨(name, text) :: rest, toStruct_present found absent wrote wroteRest, ?_⟩
      intro given same
      have first : given.lookup name = some text := by
        rw [same name List.mem_cons_self, lookup_cons_self]
      have others := reads given fun other member => by
        have different : other ≠ name := fun equal => fresh (equal ▸ member)
        rw [same other (List.mem_cons_of_mem _ member), lookup_cons_other different]
      rw [populate_given first, parsed, others, selected]
      change (do
        type.validate required value
        pure ((name, value) :: tail.select memory)) = _
      rw [valid]
      rfl

/-- Among the fields that hold `None`, only the DHCP options have another default. -/
theorem FieldType.defaultValue_of_settled {type : FieldType} (holds : type.Holds .none)
    (settled : type.Settled .none) : type.defaultValue = .none := by
  cases type with
  | enumList values =>
      rw [FieldType.Settled] at settled
      cases settled
  | dhcpOptsDict =>
      rw [FieldType.Settled] at settled
      cases settled
  | listOf field =>
      rw [FieldType.Holds] at holds
      rcases holds with ⟨items, same, -⟩
      cases same
  | list model fields =>
      rw [FieldType.Holds] at holds
      rcases holds with ⟨items, same, -⟩
      cases same
  | _ => rfl

theorem FieldValue.eq_none_of_isNone {value : FieldValue}
    (absent : value.isNone = true) : value = .none := by
  cases value with
  | none => rfl
  | _ => cases absent

mutual
theorem FieldType.parseValue_toStruct (inverse : netaddr.Inverse)
    (type : FieldType) {value : FieldValue} (holds : type.Holds value)
    (present : value.isNone = false) (settled : type.Settled value) :
    ∃ written, type.toStruct netaddr value = .ok written ∧ written.isNone = false ∧
      type.parseValue netaddr written = .ok value := by
  match type with
  | .string =>
      rcases holds with rfl | ⟨text, rfl⟩
      · cases present
      · exact ⟨.str text, rfl, rfl, rfl⟩
  | .enum values =>
      rcases holds with rfl | ⟨text, rfl⟩
      · cases present
      · exact ⟨.str text, rfl, rfl, rfl⟩
  | .int =>
      rcases holds with rfl | ⟨number, rfl⟩
      · cases present
      · exact ⟨.int number, rfl, rfl, rfl⟩
  | .ipProto =>
      rcases holds with rfl | ⟨number, rfl⟩
      · cases present
      · exact ⟨.int number, rfl, rfl, rfl⟩
  | .bool =>
      rcases holds with rfl | ⟨truth, rfl⟩
      · cases present
      · exact ⟨.bool truth, rfl, rfl, rfl⟩
  | .ipAddress =>
      rcases holds with rfl | ⟨address, rfl⟩
      · cases present
      · refine ⟨_, rfl, rfl, ?_⟩
        change FieldValue.ipAddress <$> netaddr.ipAddress _ = _
        rw [inverse.ipAddress]
        rfl
  | .ipNetwork =>
      rcases holds with rfl | ⟨network, rfl⟩
      · cases present
      · refine ⟨_, rfl, rfl, ?_⟩
        change FieldValue.ipNetwork <$> netaddr.ipNetwork _ = _
        rw [inverse.ipNetwork]
        rfl
  | .macAddress =>
      rcases holds with rfl | ⟨address, rfl⟩
      · cases present
      · refine ⟨_, rfl, rfl, ?_⟩
        change FieldValue.eui <$> netaddr.eui _ = _
        rw [inverse.eui]
        rfl
  | .enumList values =>
      rcases holds with ⟨items, iterated, strings⟩
      cases value with
      | list held =>
          cases iterated
          exact ⟨.list items, rfl, rfl, FieldType.enumList_inverse strings⟩
      | _ => cases settled
  | .dhcpOptsDict =>
      rcases holds with rfl | ⟨entries, rfl, tags, distinct⟩
      · cases present
      · exact parseDhcpOpts_toStruct tags distinct
  | .portRange =>
      rcases holds with rfl | ⟨min, max, rfl⟩
      · cases present
      · exact ⟨.list [min, max], rfl, rfl, rfl⟩
  | .reference model =>
      rcases holds with rfl | ⟨id, rfl⟩
      · cases present
      · exact ⟨.str id, rfl, rfl, rfl⟩
  | .listOf field =>
      rw [FieldType.Holds] at holds
      rw [FieldType.Settled] at settled
      rcases holds with ⟨items, rfl, each⟩
      apply FieldType.listOf_inverse
      intro item member
      rcases each item member with ⟨accepted, itemHolds⟩
      rcases FieldType.parseValue_toStruct inverse field itemHolds
        (FieldType.isNone_of_isInstance accepted) (settled items rfl item member) with
        ⟨written, wrote, -, reads⟩
      exact ⟨written, wrote, reads⟩
  | .embedded model fields =>
      rw [FieldType.Holds] at holds
      rw [FieldType.Settled] at settled
      rcases holds with rfl | ⟨memory, rfl, valid⟩
      · cases present
      · have readBack := FieldTypes.readBack_of_settled inverse fields valid.hold
          (settled _ _ rfl) valid.nodup_names
        rcases valid.inverse readBack with ⟨entries, wrote, reads⟩
        refine ⟨.dict entries, ?_, rfl, ?_⟩
        · rw [FieldType.toStruct]
          exact wrote
        · rw [FieldType.parseValue]
          exact reads
  | .list model fields =>
      rw [FieldType.Holds] at holds
      rw [FieldType.Settled] at settled
      rcases holds with ⟨items, rfl, each⟩
      apply FieldType.list_inverse
      intro item member
      rcases each item member with ⟨memory, rfl, valid⟩
      exact ⟨memory, rfl, valid, FieldTypes.readBack_of_settled inverse fields valid.hold
        (settled items rfl _ member _ _ rfl) valid.nodup_names⟩

theorem FieldTypes.readBack_of_settled (inverse : netaddr.Inverse)
    (fields : FieldTypes) {memory : List (FieldName × FieldValue)}
    (hold : fields.Hold memory) (settled : fields.Settled memory)
    (distinct : fields.names.Nodup) : fields.ReadBack netaddr memory := by
  match fields with
  | .nil =>
      refine ⟨[], by rw [FieldTypes.toStruct], ?_⟩
      intro given _
      rw [FieldTypes.populate]
      rfl
  | .cons name required type tail =>
      rw [FieldTypes.Hold] at hold
      rw [FieldTypes.Settled] at settled
      rw [FieldTypes.names, List.nodup_cons] at distinct
      rcases hold with ⟨⟨value, found, holds, valid⟩, rest⟩
      have settledValue := settled.1 value found
      apply FieldTypes.ReadBack.cons _ rest distinct.1 found valid
      · intro absent
        rw [FieldValue.eq_none_of_isNone absent] at holds settledValue ⊢
        exact FieldType.defaultValue_of_settled holds settledValue
      · intro present
        rcases FieldType.parseValue_toStruct inverse type holds present settledValue with
          ⟨written, wrote, -, reads⟩
        exact ⟨written, wrote, reads⟩
      · exact FieldTypes.readBack_of_settled inverse tail rest settled.2 distinct.2
end

/-! ## What reading back tells -/

theorem map_ok {α β ε : Type} (build : α → β) (call : Except ε α) {result : β}
    (succeeds : build <$> call = .ok result) :
    ∃ found, call = .ok found ∧ build found = result := by
  cases call with
  | error raised => cases succeeds
  | ok found =>
      cases succeeds
      exact ⟨found, rfl, rfl⟩

theorem ModelClass.IsValid.instanceToStruct_dict {model : ModelClass}
    {fields : FieldTypes} {memory : List (FieldName × FieldValue)} {written : FieldValue}
    (valid : model.IsValid fields.names fields.Hold memory)
    (wrote : model.instanceToStruct fields.validate
      (fun memory => fields.toStruct netaddr memory) memory = .ok written) :
    ∃ given, fields.toStruct netaddr memory = .ok given ∧
      written = .dict (given.map fun entry => (.str entry.1, entry.2)) := by
  cases called : fields.toStruct netaddr memory with
  | error raised =>
      rw [ModelClass.instanceToStruct, valid.validateInstance, called] at wrote
      cases wrote
  | ok given =>
      rw [model.instanceToStruct_eq valid called] at wrote
      cases wrote
      exact ⟨given, rfl, rfl⟩

theorem ModelClass.IsValid.populate_eq {model : ModelClass} {fields : FieldTypes}
    {memory : List (FieldName × FieldValue)} {written : FieldValue}
    (valid : model.IsValid fields.names fields.Hold memory)
    (wrote : model.instanceToStruct fields.validate
      (fun memory => fields.toStruct netaddr memory) memory = .ok written)
    (reads : model.castItem fields.names (fun given => fields.populate netaddr given)
      written = .ok (.instance model.name memory)) :
    ∃ given, fields.toStruct netaddr memory = .ok given ∧
      fields.populate netaddr given = .ok (fields.select memory) := by
  rcases valid.instanceToStruct_dict wrote with ⟨given, called, rfl⟩
  rw [ModelClass.castItem, ModelClass.construct, keywords_str] at reads
  change (do
    model.checkKeywords fields.names given
    FieldValue.instance model.name <$> fields.populate netaddr given) = _ at reads
  cases checked : model.checkKeywords fields.names given with
  | error raised =>
      rw [checked] at reads
      cases reads
  | ok _ =>
      rw [checked] at reads
      rcases map_ok (FieldValue.instance model.name) (fields.populate netaddr given)
        reads with ⟨found, populated, same⟩
      cases same
      exact ⟨given, called, by rw [populated, valid.select_eq]⟩

theorem FieldType.listOf_item {field : FieldType} {items : List FieldValue}
    {written : FieldValue}
    (wrote : (FieldType.listOf field).toStruct netaddr (.list items) = .ok written)
    (reads : (FieldType.listOf field).parseValue netaddr written = .ok (.list items)) :
    ∀ item ∈ items, ∃ text, field.toStruct netaddr item = .ok text ∧
      field.parseValue netaddr text = .ok item := by
  cases items with
  | nil => simp
  | cons head tail =>
      rcases map_ok FieldValue.list ((head :: tail).mapM fun item =>
        field.toStruct netaddr item) wrote with ⟨texts, wroteItems, rfl⟩
      rcases mapM_cons_ok wroteItems with ⟨first, rest, rfl, -, -⟩
      rcases map_ok FieldValue.list ((first :: rest).mapM fun item =>
        field.parseValue netaddr item) reads with ⟨parsed, readItems, same⟩
      cases same
      exact mapM_inverse_item wroteItems readItems

theorem FieldType.list_item {model : ModelClass} {fields : FieldTypes}
    {items : List FieldValue} {written : FieldValue}
    (wrote : (FieldType.list model fields).toStruct netaddr (.list items) = .ok written)
    (reads : (FieldType.list model fields).parseValue netaddr written =
      .ok (.list items)) :
    ∀ item ∈ items, ∃ text,
      model.itemToStruct fields.validate (fun memory => fields.toStruct netaddr memory)
        item = .ok text ∧
      model.castItem fields.names (fun given => fields.populate netaddr given) text =
        .ok item := by
  rcases map_ok FieldValue.list (items.mapM (model.itemToStruct fields.validate
    fun memory => fields.toStruct netaddr memory)) wrote with ⟨texts, wroteItems, rfl⟩
  cases items with
  | nil => simp
  | cons head tail =>
      rcases mapM_cons_ok wroteItems with ⟨first, rest, rfl, -, -⟩
      rcases map_ok FieldValue.list ((first :: rest).mapM (model.castItem fields.names
        fun given => fields.populate netaddr given)) reads with ⟨parsed, readItems, same⟩
      cases same
      exact mapM_inverse_item wroteItems readItems

/-- A field whose default is read back for `None` is not one of DHCP options. -/
theorem FieldType.settled_of_default {type : FieldType}
    (default : type.defaultValue = .none) : type.Settled .none := by
  cases type with
  | embedded model fields =>
      rw [FieldType.Settled]
      intro name memory same
      cases same
  | enumList values => cases default
  | dhcpOptsDict => cases default
  | listOf field => cases default
  | list model fields => cases default
  | _ => simp only [FieldType.Settled]

/-- What is known of the first field and of the others once all are read back. -/
theorem FieldTypes.populate_cons {name : FieldName} {required : Bool}
    {type : FieldType} {tail : FieldTypes}
    {memory written given : List (FieldName × FieldValue)} {value : FieldValue}
    (fresh : name ∉ tail.names) (hold : tail.Hold memory)
    (found : memory.lookup name = some value) (holds : type.Holds value)
    (valid : type.validate required value = .ok ())
    (wrote : (FieldTypes.cons name required type tail).toStruct netaddr memory =
      .ok written)
    (same : ∀ other ∈ name :: tail.names, given.lookup other = written.lookup other)
    (populated : (FieldTypes.cons name required type tail).populate netaddr given =
      .ok ((FieldTypes.cons name required type tail).select memory)) :
    ((value.isNone = true ∧ type.defaultValue = value) ∨
      (value.isNone = false ∧ ∃ text, type.toStruct netaddr value = .ok text ∧
        type.parseValue netaddr text = .ok value)) ∧
    ∃ rest, tail.toStruct netaddr memory = .ok rest ∧
      (∀ other ∈ tail.names, given.lookup other = rest.lookup other) ∧
      tail.populate netaddr given = .ok (tail.select memory) := by
  have selected : (FieldTypes.cons name required type tail).select memory =
      (name, value) :: tail.select memory := by
    rw [FieldTypes.select, FieldTypes.names, List.map_cons, found]
    rfl
  rw [selected] at populated
  rcases toStruct_cons found wrote with ⟨absent, wroteRest⟩ |
    ⟨present, text, rest, rfl, wroteFirst, wroteRest⟩
  · have missing : given.lookup name = none := by
      rw [same name List.mem_cons_self, List.lookup_eq_none_iff]
      intro entry member
      have declared := names_toStruct hold wroteRest entry member
      have different : name ≠ entry.1 := fun equal => fresh (equal ▸ declared)
      simpa using different
    rw [FieldValue.eq_none_of_isNone absent] at holds valid
    rw [populate_default missing (FieldType.validate_default holds valid)] at populated
    rcases map_ok (fun others => (name, type.defaultValue) :: others) _
      populated with ⟨others, populatedRest, equal⟩
    cases equal
    exact ⟨.inl ⟨absent, rfl⟩, written, wroteRest,
      fun other member => same other (List.mem_cons_of_mem _ member), populatedRest⟩
  · have first : given.lookup name = some text := by
      rw [same name List.mem_cons_self, lookup_cons_self]
    rw [populate_given first] at populated
    cases parsed : type.parseValue netaddr text with
    | error raised =>
        rw [parsed] at populated
        cases populated
    | ok read =>
        rw [parsed] at populated
        cases checked : type.validate required read with
        | error raised =>
            simp only [bind, Except.bind, checked] at populated
            cases populated
        | ok _ =>
            simp only [bind, Except.bind, checked] at populated
            rcases map_ok (fun others => (name, read) :: others) _
              populated with ⟨others, populatedRest, equal⟩
            cases equal
            refine ⟨.inr ⟨present, text, wroteFirst, parsed⟩, rest, wroteRest, ?_,
              populatedRest⟩
            intro other member
            have different : other ≠ name := fun equal => fresh (equal ▸ member)
            rw [same other (List.mem_cons_of_mem _ member), lookup_cons_other different]

mutual
theorem FieldType.settled_of_inverse (type : FieldType) {value written : FieldValue}
    (holds : type.Holds value) (present : value.isNone = false)
    (wrote : type.toStruct netaddr value = .ok written)
    (reads : type.parseValue netaddr written = .ok value) : type.Settled value := by
  match type with
  | .enumList values =>
      rcases holds with ⟨items, iterated, strings⟩
      rw [FieldType.toStruct, iterated] at wrote
      cases wrote
      rw [FieldType.enumList_inverse strings] at reads
      cases reads
      rfl
  | .dhcpOptsDict => exact present
  | .listOf field =>
      rw [FieldType.Holds] at holds
      rw [FieldType.Settled]
      rcases holds with ⟨items, rfl, each⟩
      intro held same item member
      cases same
      rcases FieldType.listOf_item wrote reads item member with ⟨text, wrote, reads⟩
      rcases each item member with ⟨accepted, itemHolds⟩
      exact FieldType.settled_of_inverse field itemHolds
        (FieldType.isNone_of_isInstance accepted) wrote reads
  | .embedded model fields =>
      rw [FieldType.Holds] at holds
      rw [FieldType.Settled]
      rcases holds with rfl | ⟨memory, rfl, valid⟩
      · cases present
      · intro name held same
        cases same
        rw [FieldType.toStruct] at wrote
        rcases valid.instanceToStruct_dict wrote with ⟨_, _, rfl⟩
        rw [FieldType.parseValue] at reads
        rcases valid.populate_eq wrote reads with ⟨given, wroteFields, populated⟩
        exact FieldTypes.settled_of_populate fields valid.hold valid.nodup_names
          wroteFields (fun _ _ => rfl) populated
  | .list model fields =>
      rw [FieldType.Holds] at holds
      rw [FieldType.Settled]
      rcases holds with ⟨items, rfl, each⟩
      intro held same item member name memory isInstance
      cases same
      rcases FieldType.list_item wrote reads item member with ⟨text, wrote, reads⟩
      rcases each item member with ⟨fieldsOf, rfl, valid⟩
      cases isInstance
      rcases valid.populate_eq wrote reads with ⟨given, wroteFields, populated⟩
      exact FieldTypes.settled_of_populate fields valid.hold valid.nodup_names
        wroteFields (fun _ _ => rfl) populated
  | .string | .enum _ | .int | .ipProto | .bool | .ipAddress | .ipNetwork
  | .macAddress | .portRange | .reference _ => simp only [FieldType.Settled]

theorem FieldTypes.settled_of_populate (fields : FieldTypes)
    {memory written given : List (FieldName × FieldValue)}
    (hold : fields.Hold memory) (distinct : fields.names.Nodup)
    (wrote : fields.toStruct netaddr memory = .ok written)
    (same : ∀ name ∈ fields.names, given.lookup name = written.lookup name)
    (populated : fields.populate netaddr given = .ok (fields.select memory)) :
    fields.Settled memory := by
  match fields with
  | .nil => simp only [FieldTypes.Settled]
  | .cons name required type tail =>
      rw [FieldTypes.Hold] at hold
      rw [FieldTypes.names, List.nodup_cons] at distinct
      rw [FieldTypes.names] at same
      rw [FieldTypes.Settled]
      rcases hold with ⟨⟨value, found, holds, valid⟩, rest⟩
      rcases FieldTypes.populate_cons distinct.1 rest found holds valid wrote same
        populated with ⟨first, others, wroteRest, sameRest, populatedRest⟩
      refine ⟨?_, FieldTypes.settled_of_populate tail rest distinct.2 wroteRest sameRest
        populatedRest⟩
      intro held foundHeld
      cases found.symm.trans foundHeld
      rcases first with ⟨absent, default⟩ | ⟨present, text, wroteFirst, reads⟩
      · rw [FieldValue.eq_none_of_isNone absent] at default ⊢
        exact FieldType.settled_of_default default
      · exact FieldType.settled_of_inverse type holds present wroteFirst reads
end

end RoundTrip

/-! ## `netaddr` and JSON on sample values -/

section Sample

variable {α : Type} [DecidableEq α]

/-- A `str` that is known for one value; all others are written as numbers. -/
def sampleStr (known : α) (text : String) (number : α → Nat) (value : α) : String :=
  if value = known then text else (number value).repr

def sampleParse (known : α) (text : String) (ofNumber : Nat → α) :
    FieldValue → Except PyError α
  | .str given =>
      if given = text then .ok known
      else
        match given.toNat? with
        | some number => .ok (ofNumber number)
        | none => .error .valueError
  | _ => .error .valueError

theorem sampleParse_sampleStr {known : α} {text : String} {number : α → Nat}
    {ofNumber : Nat → α} (inverse : ∀ value, ofNumber (number value) = value)
    (apart : ∃ letter ∈ text.toList, letter.isDigit = false) (value : α) :
    sampleParse known text ofNumber (.str (sampleStr known text number value)) =
      .ok value := by
  rw [sampleStr]
  split
  · next same => rw [sampleParse, if_pos rfl, same]
  · have different : (number value).repr ≠ text := by
      intro same
      rcases apart with ⟨letter, member, notDigit⟩
      rw [← same, Nat.toList_repr] at member
      have digit := Nat.isDigit_of_mem_toDigits (by decide) (by decide) member
      rw [notDigit] at digit
      cases digit
    rw [sampleParse, if_neg different, Nat.toNat?_repr]
    exact congrArg Except.ok (inverse value)

end Sample

def IPAddress.number : IPAddress → Nat
  | .v4 bits => 2 * bits.toNat
  | .v6 bits => 2 * bits.toNat + 1

def IPAddress.ofNumber (number : Nat) : IPAddress :=
  if number % 2 = 0 then .v4 (.ofNat 32 (number / 2)) else .v6 (.ofNat 128 (number / 2))

def IPNetwork.number : IPNetwork → Nat
  | .v4 address length => 2 * (address.toNat * 33 + length)
  | .v6 address length => 2 * (address.toNat * 129 + length) + 1

def IPNetwork.ofNumber (number : Nat) : IPNetwork :=
  if number % 2 = 0 then
    .v4 (.ofNat 32 (number / 2 / 33)) (Fin.ofNat 33 (number / 2 % 33))
  else
    .v6 (.ofNat 128 (number / 2 / 129)) (Fin.ofNat 129 (number / 2 % 129))

theorem IPAddress.ofNumber_number (address : IPAddress) :
    ofNumber address.number = address := by
  cases address with
  | v4 bits => simp [ofNumber, number]
  | v6 bits =>
      have half : (2 * bits.toNat + 1) / 2 = bits.toNat := by omega
      have odd : ¬(2 * bits.toNat + 1) % 2 = 0 := by omega
      rw [number, ofNumber, if_neg odd, half]
      simp

theorem IPNetwork.ofNumber_number (network : IPNetwork) :
    ofNumber network.number = network := by
  cases network with
  | v4 address length =>
      have even : 2 * (address.toNat * 33 + length) % 2 = 0 := by omega
      have host : 2 * (address.toNat * 33 + length) / 2 / 33 = address.toNat := by omega
      have mask : 2 * (address.toNat * 33 + length) / 2 % 33 = length := by omega
      rw [number, ofNumber, if_pos even, host, mask]
      simp
  | v6 address length =>
      have odd : ¬(2 * (address.toNat * 129 + length) + 1) % 2 = 0 := by omega
      have host : (2 * (address.toNat * 129 + length) + 1) / 2 / 129 = address.toNat := by
        omega
      have mask : (2 * (address.toNat * 129 + length) + 1) / 2 % 129 = length := by omega
      rw [number, ofNumber, if_neg odd, host, mask]
      simp

/-- `netaddr` on an address, a network with host bits and a MAC. -/
def NetaddrClasses.sample : NetaddrClasses where
  ipAddress := sampleParse (.v4 0x0a000005) "10.0.0.5" IPAddress.ofNumber
  ipNetwork := sampleParse (.v4 0x0a000005 24) "10.0.0.5/24" IPNetwork.ofNumber
  eui := sampleParse 0xfa163e000001 "fa:16:3e:00:00:01" (BitVec.ofNat 48)
  ipAddressStr := sampleStr (.v4 0x0a000005) "10.0.0.5" IPAddress.number
  ipNetworkStr := sampleStr (.v4 0x0a000005 24) "10.0.0.5/24" IPNetwork.number
  euiStr := sampleStr 0xfa163e000001 "fa:16:3e:00:00:01" BitVec.toNat

theorem NetaddrClasses.sample_inverse : NetaddrClasses.sample.Inverse where
  ipAddress := sampleParse_sampleStr IPAddress.ofNumber_number ⟨'.', by decide⟩
  ipNetwork := sampleParse_sampleStr IPNetwork.ofNumber_number ⟨'.', by decide⟩
  eui := sampleParse_sampleStr (by simp) ⟨':', by decide⟩

mutual
/-- `json.dumps` for texts in which nothing is escaped. -/
def FieldValue.dumps : FieldValue → String
  | .none => "null"
  | .bool value => if value then "true" else "false"
  | .int value => value.repr
  | .str value => "\"" ++ value ++ "\""
  | .list items => "[" ++ ", ".intercalate (dumpItems items) ++ "]"
  | .dict entries => "\x7b" ++ ", ".intercalate (dumpEntries entries) ++ "\x7d"
  | _ => ""

def FieldValue.dumpItems : List FieldValue → List String
  | [] => []
  | head :: tail => head.dumps :: dumpItems tail

def FieldValue.dumpEntries : List (DictKey × FieldValue) → List String
  | [] => []
  | (key, value) :: tail =>
      ("\"" ++ key.toStr ++ "\": " ++ value.dumps) :: dumpEntries tail
end

/-- `jsonutils` on one structure. -/
def JsonUtils.sample (struct : FieldValue) : JsonUtils where
  dumps := fun value => .ok value.dumps
  loads := fun text => if text = struct.dumps then .ok struct else .error .valueError

theorem JsonUtils.sample_loads (struct : FieldValue) :
    (JsonUtils.sample struct).loads struct.dumps = .ok struct := by
  rw [JsonUtils.sample]
  exact if_pos rfl

theorem JsonUtils.sample_inverseOn (struct : FieldValue) :
    (JsonUtils.sample struct).InverseOn struct :=
  ⟨struct.dumps, rfl, sample_loads struct⟩

/-! ## A port -/

namespace SamplePort

/-- `l2.PortBinding` -/
def binding : FieldType :=
  .embedded ⟨"PortBinding", false, fun _ => .ok ()⟩ <|
    .cons "chassis" false (.reference "Chassis") <|
    .cons "type" true (.enum ["chassis", "vtep"]) <|
    .cons "vtep_address" false .ipAddress .nil

/-- `l2.DhcpParams` -/
def dhcpParams : FieldTypes :=
  .cons "opts" false .dhcpOptsDict <| .cons "siaddr" false .ipAddress .nil

/-- A few fields of `l2.LogicalPort`. -/
def schema : JsonModel where
  model := ⟨"LogicalPort", true, fun _ => .ok ()⟩
  fields :=
    .cons "binding" false binding <|
    .cons "dhcp_params" false (.embedded ⟨"DhcpParams", false, fun _ => .ok ()⟩ dhcpParams) <|
    .cons "enabled" false .bool <|
    .cons "id" true .string <|
    .cons "ips" false (.listOf .ipAddress) <|
    .cons "security_groups" false (.referenceList "SecurityGroup") .nil

/-- A port with the given DHCP options that was never enabled or disabled. -/
def port (opts : FieldValue) : FieldValue :=
  .instance "LogicalPort"
    [("binding", .instance "PortBinding"
        [("chassis", .proxy "Chassis" "c1"), ("type", .str "chassis"),
          ("vtep_address", .none)]),
      ("dhcp_params", .instance "DhcpParams" [("opts", opts), ("siaddr", .none)]),
      ("enabled", .none),
      ("id", .str "p1"),
      ("ips", .list [.ipAddress (.v4 0x0a000005)]),
      ("security_groups", .list [.proxy "SecurityGroup" "s1", .proxy "SecurityGroup" "s2"])]

/-- The structure that such a port is written as. -/
def struct (dhcpParams : List (DictKey × FieldValue)) : FieldValue :=
  .dict
    [(.str "binding", .dict [(.str "chassis", .str "c1"), (.str "type", .str "chassis")]),
      (.str "dhcp_params", .dict dhcpParams),
      (.str "id", .str "p1"),
      (.str "ips", .list [.str "10.0.0.5"]),
      (.str "security_groups", .list [.str "s1", .str "s2"])]

theorem valid_port {opts : FieldValue} (holds : FieldType.dhcpOptsDict.Holds opts)
    (accepted : FieldType.dhcpOptsDict.validate false opts = .ok ()) :
    schema.Valid (port opts) := by
  refine ⟨_, rfl, rfl, by simp, ?_, rfl⟩
  have validOpts : dhcpParams.Hold [("opts", opts), ("siaddr", .none)] := by
    refine ⟨⟨opts, rfl, holds, accepted⟩, ⟨.none, rfl, .inl rfl, rfl⟩, trivial⟩
  refine ⟨⟨_, rfl, .inr ⟨_, rfl, rfl, by simp, ?_, rfl⟩, rfl⟩,
    ⟨_, rfl, .inr ⟨_, rfl, rfl, by simp, validOpts, rfl⟩, ?_⟩,
    ⟨_, rfl, .inl rfl, rfl⟩, ⟨_, rfl, .inr ⟨_, rfl⟩, rfl⟩,
    ⟨_, rfl, ⟨_, rfl, ?_⟩, rfl⟩, ⟨_, rfl, ⟨_, rfl, ?_⟩, rfl⟩, trivial⟩
  · exact ⟨⟨_, rfl, .inr ⟨_, rfl⟩, rfl⟩, ⟨_, rfl, .inr ⟨_, rfl⟩, rfl⟩,
      ⟨_, rfl, .inl rfl, rfl⟩, trivial⟩
  · change ModelClass.validateInstance _ (fun memory => dhcpParams.validate memory) _ = _
    rw [ModelClass.validateInstance, FieldTypes.validate_of_hold validOpts]
    rfl
  · simp [FieldType.isInstance, FieldType.Holds]
  · simp [FieldType.isInstance, FieldType.Holds]

theorem settled_port {opts : FieldValue} (present : opts.isNone = false) :
    schema.Settled (port opts) := by
  intro name memory same
  cases same
  refine ⟨?_, ?_, ?_, ?_, ?_, ?_, trivial⟩
  · intro value found _ memory same
    cases found
    cases same
    simp [FieldTypes.Settled, FieldType.Settled]
  · intro value found _ memory same
    cases found
    cases same
    refine ⟨?_, fun _ _ => trivial, trivial⟩
    intro value found
    cases found
    exact present
  · simp [FieldType.Settled]
  · simp [FieldType.Settled]
  · simp [FieldType.Settled]
  · simp [FieldType.referenceList, FieldType.Settled]

/-- Two DHCP options, as a field holds them. -/
def options : FieldValue := .dict [(.int 3, .str "10.0.0.5"), (.int 51, .str "3600")]

def optionsStruct : FieldValue :=
  struct [(.str "opts", .dict [(.str "3", .str "10.0.0.5"), (.str "51", .str "3600")])]

end SamplePort

/-- A valid instance comes back from its own text exactly when no field of DHCP
options holds `None` and every field of enumerated strings holds a list. -/
theorem JsonModel.roundTrips_iff_settled {netaddr : NetaddrClasses} {json : JsonUtils}
    {schema : JsonModel} {object : FieldValue} (inverse : netaddr.Inverse)
    (jsonInverse : ∀ struct, schema.toStruct netaddr object = .ok struct →
      json.InverseOn struct)
    (valid : schema.Valid object) :
    schema.RoundTrips netaddr json object ↔ schema.Settled object := by
  rcases valid with ⟨memory, rfl, valid⟩
  have holds : (FieldType.embedded schema.model schema.fields).Holds
      (.instance schema.model.name memory) := by
    rw [FieldType.Holds]
    exact .inr ⟨memory, rfl, valid⟩
  constructor
  · rintro ⟨⟨text, wrote, reads⟩, -⟩
    rw [toJson] at wrote
    cases written : schema.toStruct netaddr (.instance schema.model.name memory) with
    | error raised =>
        rw [written] at wrote
        cases wrote
    | ok struct =>
        rcases jsonInverse struct written with ⟨dumped, dumps, loads⟩
        rw [written] at wrote
        cases dumps.symm.trans wrote
        rw [fromJson, loads] at reads
        cases struct with
        | dict entries =>
            exact FieldType.settled_of_inverse _ holds rfl written reads
        | _ => cases reads
  · intro settled
    rcases FieldType.parseValue_toStruct inverse _ holds rfl settled with
      ⟨struct, written, -, parsed⟩
    rcases jsonInverse struct written with ⟨text, dumps, loads⟩
    have wrote : schema.toJson netaddr json (.instance schema.model.name memory) =
        .ok text := by
      rw [toJson, toStruct, written]
      exact dumps
    have reads : schema.fromJson netaddr json text =
        .ok (.instance schema.model.name memory) := by
      have called := written
      rw [FieldType.toStruct] at called
      rcases valid.instanceToStruct_dict called with ⟨given, -, rfl⟩
      rw [fromJson, loads]
      exact parsed
    refine ⟨⟨text, wrote, reads⟩, ?_⟩
    intro other wroteOther
    cases wrote.symm.trans wroteOther
    exact ⟨_, reads, wrote⟩

namespace SamplePort

theorem roundTrips_with_options :
    schema.Settled (port options) ∧
      schema.RoundTrips NetaddrClasses.sample (JsonUtils.sample optionsStruct)
        (port options) := by
  have settled : schema.Settled (port options) := settled_port rfl
  refine ⟨settled, (JsonModel.roundTrips_iff_settled NetaddrClasses.sample_inverse ?_
    ?_).mpr settled⟩
  · intro written wrote
    have same : schema.toStruct NetaddrClasses.sample (port options) =
        .ok optionsStruct := rfl
    cases same.symm.trans wrote
    exact JsonUtils.sample_inverseOn _
  · apply valid_port
    · exact .inr ⟨_, rfl, by simp, by simp⟩
    · rfl

/-- A port whose DHCP options were set to `None` comes back with no options. -/
theorem none_options_read_back_empty :
    schema.Valid (port .none) ∧ NetaddrClasses.sample.Inverse ∧
      (∀ written, schema.toStruct NetaddrClasses.sample (port .none) = .ok written →
        (JsonUtils.sample (struct [])).InverseOn written) ∧
      ¬schema.RoundTrips NetaddrClasses.sample (JsonUtils.sample (struct []))
        (port .none) := by
  have written : schema.toStruct NetaddrClasses.sample (port .none) = .ok (struct []) := rfl
  refine ⟨valid_port (.inl rfl) rfl, NetaddrClasses.sample_inverse, ?_, ?_⟩
  · intro other wrote
    cases written.symm.trans wrote
    exact JsonUtils.sample_inverseOn _
  · rintro ⟨⟨text, wrote, reads⟩, -⟩
    rw [JsonModel.toJson, written] at wrote
    cases wrote
    have loads := JsonUtils.sample_loads (struct [])
    have constructed : schema.construct NetaddrClasses.sample (struct []) =
        .ok (port (.dict [])) := rfl
    rw [JsonModel.fromJson, loads] at reads
    cases constructed.symm.trans reads

end SamplePort

end Dragonflow
