import Dragonflow.Controller.CookieFields

/-! # Encoding and decoding of cookies

Fields of one application and of all applications are encoded in any order, and decoded
to what was encoded.
-/

namespace Dragonflow

open Program

namespace CookieRegistry

variable {ω : Type} {registry : CookieRegistry ω}

/-! ## Histories with modifiers -/

/-- The calls by which the registry changes. -/
inductive RegistryCall (ω : Type)
  | registerCookieBits (call : Registration)
  | addGlobalCookieModifier (name : String) (length : Nat) (modifier : ω → Int)

namespace RegistryCall

def Proper : RegistryCall ω → Prop
  | .registerCookieBits call => call.Proper
  | .addGlobalCookieModifier _ length _ => 1 ≤ length

def action : RegistryCall ω → Action ω Unit
  | .registerCookieBits call => call.action
  | .addGlobalCookieModifier name length modifier =>
      CookieRegistry.addGlobalCookieModifier name length modifier

end RegistryCall

/-- The registry after calls, each of which may have raised an error. -/
def callAll (calls : List (RegistryCall ω)) : CookieRegistry ω :=
  calls.foldl (fun registry call => (exec call.action registry).2) {}

/-- The fields of the modifiers are registered. -/
def ModifiersRegistered (registry : CookieRegistry ω) : Prop :=
  ∀ name modifier, registry.cookieModifiers.lookup name = some modifier →
    ∃ pair, registry.cookies.lookup (globalAppName, name) = some pair

theorem sound_withModifier (sound : registry.Sound)
    (modifiers : registry.ModifiersRegistered) {name : String} (modifier : ω → Int)
    {pair : CookieBitPair}
    (found : registry.cookies.lookup (globalAppName, name) = some pair) :
    ({ registry with
        cookieModifiers := registry.cookieModifiers.insert name modifier } :
          CookieRegistry ω).Sound ∧
      ({ registry with
        cookieModifiers := registry.cookieModifiers.insert name modifier } :
          CookieRegistry ω).ModifiersRegistered := by
  refine ⟨⟨sound.used, sound.registered, sound.apart⟩, fun other otherModifier isOther => ?_⟩
  simp only at isOther ⊢
  rw [Dict.lookup_insert_eq] at isOther
  split at isOther
  · next same =>
      rw [same]
      exact ⟨pair, found⟩
  · exact modifiers other otherModifier isOther

theorem sound_call (sound : registry.Sound) (modifiers : registry.ModifiersRegistered)
    {call : RegistryCall ω} (proper : call.Proper) :
    (exec call.action registry).2.Sound ∧
      (exec call.action registry).2.ModifiersRegistered := by
  have registered : ∀ {registration : Registration}, registration.Proper →
      (exec registration.action registry).2.ModifiersRegistered := by
    intro registration isProper name modifier found
    rcases register_cases isProper registry with ⟨_, executed⟩ | ⟨_, _, executed, _⟩ |
      ⟨appName, _, _, _, executed⟩
    · rw [executed] at found ⊢
      exact modifiers name modifier found
    · rw [executed] at found ⊢
      exact modifiers name modifier found
    · rw [executed] at found ⊢
      rw [extend_cookies]
      split
      · exact ⟨_, rfl⟩
      · exact modifiers name modifier found
  cases call with
  | registerCookieBits registration =>
      exact ⟨sound.register proper, registered proper⟩
  | addGlobalCookieModifier name length modifier =>
      have isProper : Registration.Proper ⟨name, length, false, none⟩ :=
        ⟨proper, fun impossible => by cases impossible⟩
      have isSound := sound.register isProper
      have areRegistered := registered isProper
      unfold register at isSound
      have executed : exec (RegistryCall.action
          (.addGlobalCookieModifier name length modifier)) registry = _ :=
        exec_bind (Registration.action ⟨name, length, false, none⟩) _ registry
      rw [executed]
      rcases register_cases isProper registry with ⟨error, raised⟩ |
        ⟨appName, isNamespace, returned, pair, found⟩ |
        ⟨appName, isNamespace, absent, fits, returned⟩
      · rw [raised] at isSound areRegistered ⊢
        exact ⟨isSound, areRegistered⟩
      · cases isNamespace
        rw [returned] at isSound areRegistered ⊢
        exact sound_withModifier isSound areRegistered modifier found
      · cases isNamespace
        rw [returned] at isSound areRegistered ⊢
        exact sound_withModifier isSound areRegistered modifier
          (by rw [extend_cookies, if_pos rfl])

theorem sound_callAll (calls : List (RegistryCall ω)) (proper : ∀ call ∈ calls, call.Proper) :
    (callAll calls).Sound ∧ (callAll calls).ModifiersRegistered := by
  induction calls using List.reverseRecOn with
  | nil => exact ⟨sound_empty, fun _ _ impossible => by cases impossible⟩
  | append_singleton calls call induction =>
      rcases induction fun other member => proper other (List.mem_append_left _ member) with
        ⟨sound, modifiers⟩
      unfold callAll at sound modifiers ⊢
      rw [List.foldl_concat]
      exact sound_call sound modifiers
        (proper call (List.mem_append_right _ List.mem_cons_self))

/-! ## One field -/

/-- A field that an application can encode. -/
structure CookieField where
  name : String
  isLocal : Bool := false
  deriving DecidableEq, Repr

variable {appName : String}

/-- The bits of a field of the application, or of all applications. -/
def FieldBits (registry : CookieRegistry ω) (appName : String) (field : CookieField)
    (bits : BitField) : Prop :=
  registry.Registered (if field.isLocal then appName else globalAppName) field.name bits

/-- `get_cookie` for a field, as the application calls it. -/
def encode (registry : CookieRegistry ω) (appName : String) (cookie : Nat × Nat)
    (item : CookieField × Int) : Except PyError (Nat × Nat) :=
  registry.getCookie item.1.name item.2 cookie.1 cookie.2 item.1.isLocal (some appName)

/-- `extract_value_from_cookie` for a field. -/
def decode (registry : CookieRegistry ω) (appName : String) (cookie : Nat)
    (field : CookieField) : Except PyError Nat :=
  registry.extractValueFromCookie field.name cookie field.isLocal (some appName)

/-- The names that an application can have. -/
def AppName (appName : String) : Prop := appName ≠ "" ∧ appName ≠ globalAppName

instance (appName : String) : Decidable (AppName appName) :=
  inferInstanceAs (Decidable (_ ∧ _))

variable {field : CookieField} {bits : BitField} {cookie mask : Nat}

/-- The namespace of a field. -/
def CookieField.namespaceOf (field : CookieField) (appName : String) : String :=
  if field.isLocal then appName else globalAppName

theorem findPair_lookup (isName : AppName appName) (field : CookieField) :
    findPair field.name field.isLocal (some appName) registry =
      match registry.cookies.lookup (field.namespaceOf appName, field.name) with
      | none => .error .keyError
      | some pair => .ok pair := by
  have resolved : resolveAppName field.isLocal (some appName) =
      .ok (field.namespaceOf appName) := by
    unfold resolveAppName CookieField.namespaceOf
    split
    · split
      · next impossible => cases impossible
      · next isEmpty => exact absurd (Option.some.inj isEmpty) isName.1
      · next given isGiven => rw [Option.some.inj isGiven]
    · rfl
  unfold findPair
  rw [resolved]
  rfl

theorem findPair_eq (isName : AppName appName)
    (isField : registry.FieldBits appName field bits) :
    findPair field.name field.isLocal (some appName) registry =
      .ok ⟨bits.offset, bits.mask⟩ := by
  rw [findPair_lookup isName]
  unfold CookieField.namespaceOf
  rw [isField.2]

/-- Only registered fields have bits. -/
theorem encode_unregistered (sound : registry.Sound) (isName : AppName appName)
    (noField : ¬ ∃ bits, registry.FieldBits appName field bits) (value : Int) :
    registry.encode appName (cookie, mask) (field, value) = .error .keyError := by
  have absent : registry.cookies.lookup (field.namespaceOf appName, field.name) = none := by
    cases found : registry.cookies.lookup (field.namespaceOf appName, field.name) with
    | none => rfl
    | some pair =>
        rcases sound.pair_eq found with ⟨bits, isField, _⟩
        exact absurd ⟨bits, isField⟩ noField
  unfold encode getCookie
  rw [findPair_lookup isName, absent]
  rfl

/-- A field that is covered already is not encoded again. -/
theorem encode_covered (isName : AppName appName)
    (isField : registry.FieldBits appName field bits) (covered : mask &&& bits.mask = bits.mask)
    (value : Int) :
    registry.encode appName (cookie, mask) (field, value) = .ok (cookie, mask) := by
  unfold encode getCookie
  rw [findPair_eq isName isField]
  change (if mask &&& bits.mask ≠ 0 then _ else _) = _
  rw [covered, if_pos (BitField.mask_ne_zero isField.1)]
  exact if_neg (not_not.mpr rfl)

/-- What is compared to see whether a value fits. -/
theorem land_eq_iff (value : Int) :
    Int.land (value <<< bits.offset) bits.mask = value <<< bits.offset ↔
      0 ≤ value ∧ value < 2 ^ bits.length := by
  have shifted : value <<< bits.offset = value * 2 ^ bits.offset := Int.shiftLeft_eq _ _
  cases value with
  | ofNat number =>
      have isPlace : (Int.ofNat number) <<< bits.offset = Int.ofNat (bits.place number) := by
        rw [shifted, BitField.place, Nat.shiftLeft_eq]
        rfl
      have range : Int.ofNat number < 2 ^ bits.length ↔ number < 2 ^ bits.length := by
        rw [Int.ofNat_eq_natCast]
        norm_cast
      rw [isPlace]
      change Int.ofNat (bits.place number &&& bits.mask) = Int.ofNat (bits.place number) ↔ _
      rw [Int.ofNat.injEq, BitField.place_and_mask_iff, range]
      exact (and_iff_right (Int.natCast_nonneg number)).symm
  | negSucc number =>
      have isNegative : Int.negSucc number <<< bits.offset < 0 := by
        rw [shifted]
        exact Int.mul_neg_of_neg_of_pos (Int.negSucc_lt_zero number)
          (Int.pow_pos (by decide))
      constructor
      · intro same
        cases isShifted : Int.negSucc number <<< bits.offset with
        | ofNat found =>
            rw [isShifted] at isNegative
            exact absurd isNegative (by simp)
        | negSucc found =>
            rw [isShifted] at same
            cases same
      · rintro ⟨isNonneg, _⟩
        exact absurd isNonneg (by simp)

theorem encode_apart (isName : AppName appName)
    (isField : registry.FieldBits appName field bits) (apart : mask &&& bits.mask = 0)
    (value : Int) :
    registry.encode appName (cookie, mask) (field, value) =
      if 0 ≤ value ∧ value < 2 ^ bits.length then
        .ok (bits.place value.toNat ||| cookie.ldiff bits.mask, bits.mask ||| mask)
      else .error .cookieOverflow := by
  unfold encode getCookie
  rw [findPair_eq isName isField]
  change (if mask &&& bits.mask ≠ 0 then _ else if Int.land (value <<< bits.offset) bits.mask ≠
    value <<< bits.offset then _ else _) = _
  rw [apart, if_neg (not_not.mpr rfl)]
  simp only [ne_eq, land_eq_iff]
  by_cases inRange : 0 ≤ value ∧ value < 2 ^ bits.length
  · rw [if_pos inRange, if_neg (not_not.mpr inRange), (land_eq_iff value).mpr inRange]
    have isPlace : (value <<< bits.offset).toNat = bits.place value.toNat := by
      rw [Int.shiftLeft_eq, BitField.place, Nat.shiftLeft_eq]
      rcases Int.eq_ofNat_of_zero_le inRange.1 with ⟨number, rfl⟩
      norm_cast
    rw [isPlace]
    rfl
  · rw [if_neg inRange, if_pos inRange]

/-- Different fields have different bits. -/
theorem Sound.fieldBits_apart (sound : registry.Sound) (isName : AppName appName)
    {other : CookieField} {otherBits : BitField} (different : field ≠ other)
    (isField : registry.FieldBits appName field bits)
    (isOther : registry.FieldBits appName other otherBits) :
    BitField.Apart bits otherBits := by
  rcases field with ⟨name, isLocal⟩
  rcases other with ⟨otherName, otherLocal⟩
  cases isLocal <;> cases otherLocal
  · exact sound.apart globalAppName name otherName bits otherBits
      (fun same => different (by rw [same])) isField isOther
  · exact (sound.apart_global isName.2 isOther isField).symm
  · exact sound.apart_global isName.2 isField isOther
  · exact sound.apart appName name otherName bits otherBits
      (fun same => different (by rw [same])) isField isOther

/-! ## Several fields -/

/-- `get_cookie` for one field after the other, from no cookie at all. -/
def encodeAll (registry : CookieRegistry ω) (appName : String)
    (items : List (CookieField × Int)) : Except PyError (Nat × Nat) :=
  items.foldlM (registry.encode appName) (0, 0)

/-- The bits and the number that stand for a value of a field. -/
def Encodes (registry : CookieRegistry ω) (appName : String) (item : CookieField × Int)
    (placed : BitField × Nat) : Prop :=
  registry.FieldBits appName item.1 placed.1 ∧ item.2 = placed.2 ∧
    placed.2 < 2 ^ placed.1.length

/-- The field is registered, and the value is within it. -/
def Encodable (registry : CookieRegistry ω) (appName : String) (item : CookieField × Int) :
    Prop :=
  ∃ bits, registry.FieldBits appName item.1 bits ∧ 0 ≤ item.2 ∧ item.2 < 2 ^ bits.length

/-- The cookie and its mask hold exactly the values of some fields. -/
def Encoded (registry : CookieRegistry ω) (appName : String)
    (items : List (CookieField × Int)) (cookie mask : Nat) : Prop :=
  ∃ placed : List (BitField × Nat),
    (∀ one, one ∈ placed ↔ ∃ item ∈ items, registry.Encodes appName item one) ∧
      BitField.Holds placed cookie mask

variable {items others : List (CookieField × Int)} {item : CookieField × Int}

theorem Encodable.encodes (encodable : registry.Encodable appName item) :
    ∃ placed, registry.Encodes appName item placed := by
  rcases encodable with ⟨bits, isField, isNonneg, inRange⟩
  refine ⟨(bits, item.2.toNat), isField, (Int.toNat_of_nonneg isNonneg).symm, ?_⟩
  exact (Int.toNat_lt isNonneg).mpr (by exact_mod_cast inRange)

theorem Encodes.unique {placed other : BitField × Nat}
    (encodes : registry.Encodes appName item placed)
    (encodesOther : registry.Encodes appName item other) : placed = other :=
  Prod.ext (encodes.1.unique encodesOther.1)
    (Int.ofNat.inj (encodes.2.1.symm.trans encodesOther.2.1))

theorem encoded_nil : registry.Encoded appName [] 0 0 :=
  ⟨[], by simp, BitField.holds_nil⟩

theorem Encoded.congr (encoded : registry.Encoded appName items cookie mask)
    (same : ∀ item, item ∈ items ↔ item ∈ others) :
    registry.Encoded appName others cookie mask := by
  rcases encoded with ⟨placed, members, holds⟩
  refine ⟨placed, fun one => ?_, holds⟩
  rw [members]
  simp only [same]

/-- A cookie is determined by the values that it holds. -/
theorem Encoded.unique {otherCookie otherMask : Nat}
    (encoded : registry.Encoded appName items cookie mask)
    (encodedOther : registry.Encoded appName others otherCookie otherMask)
    (same : ∀ item, item ∈ items ↔ item ∈ others) :
    cookie = otherCookie ∧ mask = otherMask := by
  rcases encoded with ⟨placed, members, holds⟩
  rcases encodedOther with ⟨otherPlaced, otherMembers, otherHolds⟩
  refine holds.unique otherHolds fun one => ?_
  rw [members, otherMembers]
  simp only [same]

/-- The fields that are encoded do not overlap with any other field. -/
theorem Encoded.apart (sound : registry.Sound) (isName : AppName appName)
    {placed : List (BitField × Nat)}
    (members : ∀ one, one ∈ placed ↔ ∃ item ∈ items, registry.Encodes appName item one)
    (isField : registry.FieldBits appName field bits)
    (isNew : field ∉ items.map Prod.fst) : ∀ one ∈ placed, BitField.Apart one.1 bits := by
  intro one member
  rcases (members one).mp member with ⟨item, isItem, encodes⟩
  refine sound.fieldBits_apart isName (fun same => isNew ?_) encodes.1 isField
  rw [← same]
  exact List.mem_map_of_mem isItem

theorem inRanges {placed : List (BitField × Nat)}
    (members : ∀ one, one ∈ placed ↔ ∃ item ∈ items, registry.Encodes appName item one) :
    ∀ one ∈ placed, one.2 < 2 ^ one.1.length := by
  intro one member
  rcases (members one).mp member with ⟨item, _, encodes⟩
  exact encodes.2.2

/-- A field that is not encoded yet is encoded when the value is within it, and rejected
when it is not. -/
theorem Encoded.encode_new (encoded : registry.Encoded appName items cookie mask)
    (sound : registry.Sound) (isName : AppName appName)
    (isField : registry.FieldBits appName field bits)
    (isNew : field ∉ items.map Prod.fst) (value : Int) :
    registry.encode appName (cookie, mask) (field, value) =
      if 0 ≤ value ∧ value < 2 ^ bits.length then
        .ok (bits.place value.toNat ||| cookie.ldiff bits.mask, bits.mask ||| mask)
      else .error .cookieOverflow := by
  rcases encoded with ⟨placed, members, holds⟩
  exact encode_apart isName isField
    (holds.covered_of_apart (Encoded.apart sound isName members isField isNew)) value

theorem Encoded.cons (encoded : registry.Encoded appName items cookie mask)
    (sound : registry.Sound) (isName : AppName appName)
    (encodable : registry.Encodable appName item)
    (isNew : item.1 ∉ items.map Prod.fst) :
    ∃ newCookie newMask,
      registry.encode appName (cookie, mask) item = .ok (newCookie, newMask) ∧
        registry.Encoded appName (item :: items) newCookie newMask := by
  rcases encodable.encodes with ⟨⟨bits, number⟩, encodes⟩
  rcases item with ⟨field, value⟩
  have isField : registry.FieldBits appName field bits := encodes.1
  have isNumber : value = number := encodes.2.1
  have inRange : number < 2 ^ bits.length := encodes.2.2
  have executed := encoded.encode_new sound isName isField isNew value
  rw [if_pos ⟨by omega, by rw [isNumber]; exact_mod_cast inRange⟩, isNumber,
    Int.toNat_natCast] at executed
  refine ⟨_, _, by rw [isNumber]; exact executed, ?_⟩
  rcases encoded with ⟨placed, members, holds⟩
  refine ⟨(bits, number) :: placed, fun one => ?_,
    holds.cons (Encoded.apart sound isName members isField isNew)
      (inRanges members)⟩
  simp only [List.mem_cons, members, exists_eq_or_imp]
  refine or_congr_left ⟨fun same => ?_, fun encodesOne => encodesOne.unique encodes⟩
  rw [same]
  exact encodes

theorem Encoded.decode (encoded : registry.Encoded appName items cookie mask)
    (sound : registry.Sound) (isName : AppName appName)
    (distinct : (items.map Prod.fst).Nodup) (encodable : registry.Encodable appName item)
    (member : item ∈ items) :
    ∃ number : Nat, registry.decode appName cookie item.1 = .ok number ∧
      item.2 = number := by
  rcases encodable.encodes with ⟨⟨bits, number⟩, encodes⟩
  refine ⟨number, ?_, encodes.2.1⟩
  rcases encoded with ⟨placed, members, holds⟩
  have isPlaced := (members (bits, number)).mpr ⟨item, member, encodes⟩
  have extracted : bits.extract cookie = number := by
    refine holds.extract (inRanges members) isPlaced fun one isOne different => ?_
    rcases (members one).mp isOne with ⟨other, isOther, encodesOne⟩
    refine sound.fieldBits_apart isName (fun same => different ?_) encodesOne.1 encodes.1
    have sameItem : other = item := List.inj_on_of_nodup_map distinct isOther member same
    rw [sameItem] at encodesOne
    exact encodesOne.unique encodes
  unfold CookieRegistry.decode extractValueFromCookie
  rw [findPair_eq isName encodes.1]
  exact congrArg Except.ok extracted

theorem Encoded.encode_again (encoded : registry.Encoded appName items cookie mask)
    (isName : AppName appName) (encodable : registry.Encodable appName item)
    (member : item ∈ items) (value : Int) :
    registry.encode appName (cookie, mask) (item.1, value) = .ok (cookie, mask) := by
  rcases encodable.encodes with ⟨placedItem, encodes⟩
  rcases encoded with ⟨placed, members, holds⟩
  exact encode_covered isName encodes.1
    (holds.covered_of_mem ((members placedItem).mpr ⟨item, member, encodes⟩)) value

/-- Whatever is encoded next, no field is covered in part. -/
theorem Encoded.encode_cases (encoded : registry.Encoded appName items cookie mask)
    (sound : registry.Sound) (isName : AppName appName)
    (encodable : ∀ item ∈ items, registry.Encodable appName item)
    (item : CookieField × Int) :
    (∃ newItems newCookie newMask,
      registry.encode appName (cookie, mask) item = .ok (newCookie, newMask) ∧
      registry.Encoded appName newItems newCookie newMask ∧
      ∀ other ∈ newItems, registry.Encodable appName other) ∨
    ∃ error, registry.encode appName (cookie, mask) item = .error error ∧
      error ≠ .maskOverlap := by
  rcases item with ⟨field, value⟩
  by_cases isField : ∃ bits, registry.FieldBits appName field bits
  · by_cases isNew : field ∈ items.map Prod.fst
    · rcases List.mem_map.mp isNew with ⟨item, member, rfl⟩
      exact Or.inl ⟨items, cookie, mask,
        encoded.encode_again isName (encodable item member) member value, encoded, encodable⟩
    · rcases isField with ⟨bits, isField⟩
      by_cases inRange : 0 ≤ value ∧ value < 2 ^ bits.length
      · have isEncodable : registry.Encodable appName (field, value) :=
          ⟨bits, isField, inRange⟩
        rcases encoded.cons sound isName isEncodable isNew with
          ⟨newCookie, newMask, executed, next⟩
        exact Or.inl ⟨_, newCookie, newMask, executed, next,
          List.forall_mem_cons.mpr ⟨isEncodable, encodable⟩⟩
      · refine Or.inr ⟨.cookieOverflow, ?_, by decide⟩
        rw [encoded.encode_new sound isName isField isNew, if_neg inRange]
  · exact Or.inr ⟨.keyError, encode_unregistered sound isName isField value, by decide⟩

theorem Encoded.no_overlap (encoded : registry.Encoded appName items cookie mask)
    (sound : registry.Sound) (isName : AppName appName)
    (encodable : ∀ item ∈ items, registry.Encodable appName item) :
    others.foldlM (registry.encode appName) (cookie, mask) ≠ .error .maskOverlap := by
  induction others generalizing items cookie mask with
  | nil =>
      intro impossible
      cases impossible
  | cons item others induction =>
      rw [List.foldlM_cons]
      rcases encoded.encode_cases sound isName encodable item with
        ⟨newItems, newCookie, newMask, executed, next, nextEncodable⟩ |
        ⟨error, executed, different⟩
      · rw [executed]
        exact induction next nextEncodable
      · rw [executed]
        exact fun same => different (Except.error.inj same)

/-- The items whose fields are not encoded. -/
def fresh (items others : List (CookieField × Int)) : List (CookieField × Int) :=
  others.filter fun item => item.1 ∉ items.map Prod.fst

theorem fresh_cons_of_mem (isOld : item.1 ∈ items.map Prod.fst) :
    fresh items (item :: others) = fresh items others :=
  List.filter_cons_of_neg (by simpa using isOld)

theorem fresh_cons_of_not_mem (isNew : item.1 ∉ items.map Prod.fst)
    (distinct : item.1 ∉ others.map Prod.fst) :
    fresh items (item :: others) = item :: fresh (item :: items) others := by
  unfold fresh
  rw [List.filter_cons_of_pos (by simpa using isNew), List.cons.injEq]
  refine ⟨rfl, List.filter_congr fun other member => ?_⟩
  have different : other.1 ≠ item.1 :=
    fun same => distinct (same ▸ List.mem_map_of_mem member)
  simp [different]

/-- Encoding one field after the other: those that are encoded already are skipped, and a
value outside of its field stops it. -/
theorem Encoded.foldlM (encoded : registry.Encoded appName items cookie mask)
    (sound : registry.Sound) (isName : AppName appName)
    (encodable : ∀ item ∈ items, registry.Encodable appName item)
    (registered : ∀ item ∈ others, ∃ bits, registry.FieldBits appName item.1 bits)
    (distinct : (others.map Prod.fst).Nodup) :
    (∃ newCookie newMask,
      others.foldlM (registry.encode appName) (cookie, mask) = .ok (newCookie, newMask) ∧
      registry.Encoded appName (fresh items others ++ items) newCookie newMask ∧
      ∀ item ∈ fresh items others, registry.Encodable appName item) ∨
    (others.foldlM (registry.encode appName) (cookie, mask) = .error .cookieOverflow ∧
      ∃ item ∈ fresh items others, ¬ registry.Encodable appName item) := by
  induction others generalizing items cookie mask with
  | nil => exact Or.inl ⟨cookie, mask, rfl, encoded, fun _ impossible => by cases impossible⟩
  | cons item others induction =>
      rw [List.map_cons, List.nodup_cons] at distinct
      have laterRegistered := fun other member =>
        registered other (List.mem_cons_of_mem item member)
      by_cases isNew : item.1 ∈ items.map Prod.fst
      · rw [List.foldlM_cons, fresh_cons_of_mem isNew]
        rcases List.mem_map.mp isNew with ⟨old, member, same⟩
        have executed := encoded.encode_again isName (encodable old member) member item.2
        rw [same] at executed
        rw [executed]
        exact induction encoded encodable laterRegistered distinct.2
      · rw [List.foldlM_cons, fresh_cons_of_not_mem isNew distinct.1]
        rcases registered item List.mem_cons_self with ⟨bits, isField⟩
        by_cases inRange : 0 ≤ item.2 ∧ item.2 < 2 ^ bits.length
        · have isEncodable : registry.Encodable appName item := ⟨bits, isField, inRange⟩
          rcases encoded.cons sound isName isEncodable isNew with
            ⟨nextCookie, nextMask, executed, next⟩
          have nextEncodable := List.forall_mem_cons.mpr ⟨isEncodable, encodable⟩
          rw [executed]
          rcases induction next nextEncodable laterRegistered distinct.2 with
            ⟨newCookie, newMask, folded, last, freshEncodable⟩ |
            ⟨folded, other, isFresh, overflows⟩
          · refine Or.inl ⟨newCookie, newMask, folded, last.congr fun other => ?_,
              List.forall_mem_cons.mpr ⟨isEncodable, freshEncodable⟩⟩
            simp only [List.mem_append, List.mem_cons]
            exact or_left_comm.trans or_assoc.symm
          · exact Or.inr ⟨folded, other, List.mem_cons_of_mem _ isFresh, overflows⟩
        · have executed := encoded.encode_new sound isName isField isNew item.2
          rw [if_neg inRange] at executed
          rw [executed]
          refine Or.inr ⟨rfl, item, List.mem_cons_self, ?_⟩
          rintro ⟨otherBits, isOther, inOther⟩
          rw [isOther.unique isField] at inOther
          exact inRange inOther

/-- Values of different fields are encoded in any order. -/
theorem encodeAll_encoded (sound : registry.Sound) (isName : AppName appName)
    (encodable : ∀ item ∈ items, registry.Encodable appName item)
    (distinct : (items.map Prod.fst).Nodup) :
    ∃ cookie mask, registry.Encoded appName items cookie mask ∧
      ∀ order, order.Perm items → registry.encodeAll appName order = .ok (cookie, mask) := by
  have folds : ∀ order : List (CookieField × Int), order.Perm items →
      ∃ cookie mask, registry.encodeAll appName order = .ok (cookie, mask) ∧
        registry.Encoded appName items cookie mask := by
    intro order permuted
    have isFresh : fresh [] order = order := List.filter_eq_self.mpr (by simp)
    have registered : ∀ item ∈ order, ∃ bits, registry.FieldBits appName item.1 bits := by
      intro item member
      rcases encodable item (permuted.mem_iff.mp member) with ⟨bits, isField, _⟩
      exact ⟨bits, isField⟩
    rcases encoded_nil.foldlM sound isName (by simp) registered
      ((permuted.map Prod.fst).nodup_iff.mpr distinct) with
      ⟨cookie, mask, folded, encoded, _⟩ | ⟨_, item, member, overflows⟩
    · refine ⟨cookie, mask, folded, encoded.congr fun item => ?_⟩
      rw [isFresh, List.append_nil]
      exact permuted.mem_iff
    · rw [isFresh] at member
      exact absurd (encodable item (permuted.mem_iff.mp member)) overflows
  rcases folds items (List.Perm.refl _) with ⟨cookie, mask, _, encoded⟩
  refine ⟨cookie, mask, encoded, fun order permuted => ?_⟩
  rcases folds order permuted with ⟨otherCookie, otherMask, executed, encodedOther⟩
  rcases encodedOther.unique encoded (fun _ => Iff.rfl) with ⟨rfl, rfl⟩
  exact executed

/-! ## Modifiers -/

/-- The values of modifiers, as items to encode. -/
def modifierItems (input : ω) (modifiers : List (String × (ω → Int))) :
    List (CookieField × Int) :=
  modifiers.map fun modifier => (⟨modifier.1, false⟩, modifier.2 input)

theorem applyModifiers_eq (input : ω) (modifiers : List (String × (ω → Int)))
    (cookie mask : Nat) :
    applyModifiers registry input modifiers cookie mask =
      (modifierItems input modifiers).foldlM (registry.encode appName) (cookie, mask) := by
  induction modifiers generalizing cookie mask with
  | nil => rfl
  | cons modifier modifiers induction =>
      have isEncode : registry.getCookie modifier.1 (modifier.2 input) cookie mask =
          registry.encode appName (cookie, mask)
            (⟨modifier.1, false⟩, modifier.2 input) := rfl
      unfold applyModifiers modifierItems
      rw [isEncode, List.map_cons, List.foldlM_cons]
      cases registry.encode appName (cookie, mask)
        (⟨modifier.1, false⟩, modifier.2 input) with
      | error error => rfl
      | ok next => exact induction next.1 next.2

/-- The values of all the modifiers. -/
def allModifierItems (registry : CookieRegistry ω) (input : ω) : List (CookieField × Int) :=
  modifierItems input (registry.cookieModifiers.entries.map fun entry => (entry.1, entry.2))

theorem mem_allModifierItems (input : ω) (item : CookieField × Int) :
    item ∈ registry.allModifierItems input ↔
      ∃ name modifier, registry.cookieModifiers.lookup name = some modifier ∧
        item = (⟨name, false⟩, modifier input) := by
  unfold allModifierItems modifierItems
  rw [List.map_map, List.mem_map]
  constructor
  · rintro ⟨⟨name, modifier⟩, member, rfl⟩
    exact ⟨name, modifier, AList.mem_lookup_iff.mpr member, rfl⟩
  · rintro ⟨name, modifier, found, rfl⟩
    exact ⟨⟨name, modifier⟩, AList.mem_lookup_iff.mp found, rfl⟩

theorem allModifierItems_distinct (input : ω) :
    ((registry.allModifierItems input).map Prod.fst).Nodup := by
  unfold allModifierItems modifierItems
  rw [List.map_map, List.map_map]
  have isKeys : (registry.cookieModifiers.entries.map
      ((Prod.fst ∘ fun modifier : String × (ω → Int) =>
        ((⟨modifier.1, false⟩ : CookieField), modifier.2 input)) ∘
        fun entry => (entry.1, entry.2))) =
      registry.cookieModifiers.keys.map fun name => (⟨name, false⟩ : CookieField) := by
    rw [AList.keys, List.keys, List.map_map]
    rfl
  rw [isKeys]
  refine List.Nodup.map (fun name other same => ?_) registry.cookieModifiers.keys_nodup
  exact congrArg CookieField.name same

theorem allModifierItems_registered (sound : registry.Sound)
    (modifiers : registry.ModifiersRegistered) (input : ω) (item : CookieField × Int)
    (member : item ∈ registry.allModifierItems input) :
    ∃ bits, registry.FieldBits appName item.1 bits := by
  rcases (mem_allModifierItems input item).mp member with ⟨name, modifier, found, rfl⟩
  rcases modifiers name modifier found with ⟨pair, isPair⟩
  rcases sound.pair_eq isPair with ⟨bits, isField, _⟩
  exact ⟨bits, isField⟩

/-- The cookie holds the value of a field. -/
def Reads (registry : CookieRegistry ω) (appName : String) (cookie : Nat)
    (item : CookieField × Int) : Prop :=
  ∃ number : Nat, registry.decode appName cookie item.1 = .ok number ∧ item.2 = number

/-- What the modifiers do to a cookie: their values are added, unless one of them does
not fit. -/
theorem Encoded.applyGlobalCookieModifiers
    (encoded : registry.Encoded appName items cookie mask) (sound : registry.Sound)
    (modifiers : registry.ModifiersRegistered) (isName : AppName appName)
    (encodable : ∀ item ∈ items, registry.Encodable appName item)
    (distinct : (items.map Prod.fst).Nodup) (input : ω) :
    (∃ newCookie newMask,
      registry.applyGlobalCookieModifiers cookie mask input = .ok (newCookie, newMask) ∧
      (∀ name modifier, registry.cookieModifiers.lookup name = some modifier →
        (⟨name, false⟩ : CookieField) ∉ items.map Prod.fst →
        registry.Reads appName newCookie (⟨name, false⟩, modifier input)) ∧
      ∀ item ∈ items, registry.Reads appName newCookie item) ∨
    (registry.applyGlobalCookieModifiers cookie mask input = .error .cookieOverflow ∧
      ∃ name modifier, registry.cookieModifiers.lookup name = some modifier ∧
        (⟨name, false⟩ : CookieField) ∉ items.map Prod.fst ∧
        ¬ registry.Encodable appName (⟨name, false⟩, modifier input)) := by
  have applied : registry.applyGlobalCookieModifiers cookie mask input =
      (registry.allModifierItems input).foldlM (registry.encode appName) (cookie, mask) :=
    applyModifiers_eq input _ cookie mask
  have isFresh : ∀ item, item ∈ fresh items (registry.allModifierItems input) ↔
      item ∈ registry.allModifierItems input ∧ item.1 ∉ items.map Prod.fst := by
    intro item
    unfold fresh
    rw [List.mem_filter, decide_eq_true_eq]
  rw [applied]
  rcases encoded.foldlM sound isName encodable
    (allModifierItems_registered sound modifiers input) (allModifierItems_distinct input) with
    ⟨newCookie, newMask, folded, last, freshEncodable⟩ | ⟨folded, item, member, overflows⟩
  · have allDistinct : ((fresh items (registry.allModifierItems input) ++ items).map
        Prod.fst).Nodup := by
      rw [List.map_append]
      refine List.Nodup.append ?_ distinct ?_
      · exact (allModifierItems_distinct input).sublist
          (List.Sublist.map Prod.fst List.filter_sublist)
      · intro field isNew isOld
        rcases List.mem_map.mp isNew with ⟨item, member, rfl⟩
        exact ((isFresh item).mp member).2 isOld
    refine Or.inl ⟨newCookie, newMask, folded, ?_, ?_⟩
    · intro name modifier found isNew
      have member := (isFresh (⟨name, false⟩, modifier input)).mpr
        ⟨(mem_allModifierItems input _).mpr ⟨name, modifier, found, rfl⟩, isNew⟩
      exact last.decode sound isName allDistinct (freshEncodable _ member)
        (List.mem_append_left _ member)
    · intro item member
      exact last.decode sound isName allDistinct (encodable item member)
        (List.mem_append_right _ member)
  · rcases (isFresh item).mp member with ⟨isModifier, isNew⟩
    rcases (mem_allModifierItems input item).mp isModifier with ⟨name, modifier, found, rfl⟩
    exact Or.inr ⟨folded, name, modifier, found, isNew, overflows⟩

/-- Values of different fields are encoded in any order and decoded again, a field is
encoded once and within its range, and modifiers fill in what is missing. -/
theorem cookie_round_trip {ω : Type} (calls : List (RegistryCall ω))
    (proper : ∀ call ∈ calls, call.Proper) {appName : String} (isName : AppName appName)
    (items : List (CookieField × Int)) (distinct : (items.map Prod.fst).Nodup)
    (encodable : ∀ item ∈ items, (callAll calls).Encodable appName item) :
    ∃ cookie mask,
      (∀ order, order.Perm items →
        (callAll calls).encodeAll appName order = .ok (cookie, mask)) ∧
      (∀ item ∈ items, (callAll calls).Reads appName cookie item) ∧
      (∀ item ∈ items, ∀ value,
        (callAll calls).encode appName (cookie, mask) (item.1, value) =
          .ok (cookie, mask)) ∧
      (∀ field bits value, (callAll calls).FieldBits appName field bits →
        field ∉ items.map Prod.fst → ¬ (0 ≤ value ∧ value < 2 ^ bits.length) →
        (callAll calls).encode appName (cookie, mask) (field, value) =
          .error .cookieOverflow) ∧
      (∀ attempts, (callAll calls).encodeAll appName attempts ≠ .error .maskOverlap) ∧
      ∀ input,
        (∃ newCookie newMask,
          (callAll calls).applyGlobalCookieModifiers cookie mask input =
            .ok (newCookie, newMask) ∧
          (∀ name modifier, (callAll calls).cookieModifiers.lookup name = some modifier →
            (⟨name, false⟩ : CookieField) ∉ items.map Prod.fst →
            (callAll calls).Reads appName newCookie (⟨name, false⟩, modifier input)) ∧
          ∀ item ∈ items, (callAll calls).Reads appName newCookie item) ∨
        ((callAll calls).applyGlobalCookieModifiers cookie mask input =
            .error .cookieOverflow ∧
          ∃ name modifier, (callAll calls).cookieModifiers.lookup name = some modifier ∧
            (⟨name, false⟩ : CookieField) ∉ items.map Prod.fst ∧
            ¬ (callAll calls).Encodable appName (⟨name, false⟩, modifier input)) := by
  rcases sound_callAll calls proper with ⟨sound, modifiers⟩
  rcases encodeAll_encoded sound isName encodable distinct with
    ⟨cookie, mask, encoded, executed⟩
  refine ⟨cookie, mask, executed, ?_, ?_, ?_, ?_, ?_⟩
  · exact fun item member =>
      encoded.decode sound isName distinct (encodable item member) member
  · exact fun item member value =>
      encoded.encode_again isName (encodable item member) member value
  · intro field bits value isField isNew outside
    rw [encoded.encode_new sound isName isField isNew, if_neg outside]
  · exact fun attempts => encoded_nil.no_overlap sound isName (by simp)
  · exact encoded.applyGlobalCookieModifiers sound modifiers isName encodable distinct

/-- A global field, a local one and a modifier. -/
def testRegistryCalls : List (RegistryCall Unit) :=
  [.registerCookieBits ⟨"test1", 3, false, none⟩,
    .registerCookieBits ⟨"test2", 5, true, some "app"⟩,
    .addGlobalCookieModifier "aging" 1 fun _ => 1]

theorem cookie_round_trip_tests : ∃ cookie mask newCookie newMask,
    (callAll testRegistryCalls).encodeAll "app"
      [(⟨"test2", true⟩, 17), (⟨"test1", false⟩, 5)] = .ok (cookie, mask) ∧
    (callAll testRegistryCalls).Reads "app" cookie (⟨"test2", true⟩, 17) ∧
    (callAll testRegistryCalls).encode "app" (cookie, mask) (⟨"test2", true⟩, 18) =
      .ok (cookie, mask) ∧
    (callAll testRegistryCalls).encode "app" (cookie, mask) (⟨"aging", false⟩, 2) =
      .error .cookieOverflow ∧
    (callAll testRegistryCalls).encodeAll "app"
      [(⟨"test1", false⟩, 5), (⟨"test1", false⟩, 6)] ≠ .error .maskOverlap ∧
    (callAll testRegistryCalls).applyGlobalCookieModifiers cookie mask () =
      .ok (newCookie, newMask) ∧
    (callAll testRegistryCalls).Reads "app" newCookie (⟨"aging", false⟩, 1) ∧
    (callAll testRegistryCalls).Reads "app" newCookie (⟨"test2", true⟩, 17) := by
  have encodable : ∀ item ∈ [((⟨"test1", false⟩ : CookieField), (5 : Int)),
      (⟨"test2", true⟩, 17)], (callAll testRegistryCalls).Encodable "app" item := by
    intro item member
    rw [List.mem_cons, List.mem_singleton] at member
    rcases member with rfl | rfl
    · exact ⟨⟨0, 3⟩, ⟨by decide, by decide +kernel⟩, by decide, by decide⟩
    · exact ⟨⟨32, 5⟩, ⟨by decide, by decide +kernel⟩, by decide, by decide⟩
  have isProper : ∀ call ∈ testRegistryCalls, call.Proper := by
    intro call member
    simp only [testRegistryCalls, List.mem_cons, List.not_mem_nil, or_false] at member
    rcases member with rfl | rfl | rfl
    · exact ⟨by decide, by decide⟩
    · exact ⟨by decide, by decide⟩
    · exact Nat.le_refl 1
  have isName : AppName "app" := by decide
  have isAging : (callAll testRegistryCalls).FieldBits "app" ⟨"aging", false⟩ ⟨3, 1⟩ :=
    ⟨by decide, by decide +kernel⟩
  have testSecond : ((⟨"test2", true⟩ : CookieField), (17 : Int)) ∈
      [((⟨"test1", false⟩ : CookieField), (5 : Int)), (⟨"test2", true⟩, 17)] :=
    List.mem_cons_of_mem _ List.mem_cons_self
  rcases cookie_round_trip testRegistryCalls isProper isName _ (by decide) encodable with
    ⟨cookie, mask, executed, reads, again, overflows, noOverlap, modifies⟩
  rcases modifies () with ⟨newCookie, newMask, applied, modified, kept⟩ |
    ⟨_, name, modifier, isModifier, _, notEncodable⟩
  · have newAging := modified "aging" (fun _ => 1) rfl (by decide)
    exact ⟨cookie, mask, newCookie, newMask, executed _ (List.Perm.swap _ _ _),
      reads _ testSecond, again _ testSecond 18,
      overflows _ _ 2 isAging (by decide) (by decide), noOverlap _, applied, newAging,
      kept _ testSecond⟩
  · -- The only modifier has a value within its range.
    have listed := AList.mem_lookup_iff.mp isModifier
    cases List.mem_singleton.mp listed
    exact absurd ⟨⟨3, 1⟩, isAging, by decide, by decide⟩ notEncodable

end CookieRegistry

end Dragonflow
