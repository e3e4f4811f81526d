import Dragonflow.Controller.Cookies
import Mathlib.Data.List.Induction

/-! # Fields of cookies do not overlap

What every history of registrations keeps.
-/

namespace Dragonflow

open Program

namespace CookieRegistry

variable {ω : Type} {registry : CookieRegistry ω}

/-- A call of `register_cookie_bits`. -/
structure Registration where
  name : String
  length : Nat
  isLocal : Bool := false
  appName : Option String := none
  deriving DecidableEq, Repr

namespace Registration

/-- The name of the namespace, when the call has one. -/
def namespaceOf (call : Registration) : Except PyError String :=
  resolveAppName call.isLocal call.appName

/-- The callers ask for at least one bit, and no application has the reserved name. -/
def Proper (call : Registration) : Prop :=
  1 ≤ call.length ∧ (call.isLocal = true → call.appName ≠ some globalAppName)

instance (call : Registration) : Decidable call.Proper :=
  inferInstanceAs (Decidable (_ ∧ _))

def action (call : Registration) : Action ω Unit :=
  registerCookieBits call.name call.length call.isLocal call.appName

end Registration

/-- The registry after a call, which may have raised an error. -/
def register (registry : CookieRegistry ω) (call : Registration) : CookieRegistry ω :=
  (exec call.action registry).2

def registerAll (calls : List Registration) : CookieRegistry ω :=
  calls.foldl register {}

/-! ## What a call does -/

/-- The first bit of a namespace. -/
def firstBit (appName : String) : Nat :=
  if appName = globalAppName then 0 else cookieMaxBitsGlobal

/-- The registry with one more field. -/
def extend (registry : CookieRegistry ω) (appName name : String) (field : BitField) :
    CookieRegistry ω :=
  { registry with
    cookiesUsedBits := Function.update registry.cookiesUsedBits appName
      (registry.cookiesUsedBits appName + field.length)
    cookies := registry.cookies.insert (appName, name) ⟨field.offset, field.mask⟩ }

theorem extend_cookiesUsedBits (appName name other : String) (field : BitField) :
    (registry.extend appName name field).cookiesUsedBits other =
      if other = appName then registry.cookiesUsedBits appName + field.length
      else registry.cookiesUsedBits other :=
  Function.update_apply _ _ _ _

theorem extend_cookies (appName name : String) (key : String × String) (field : BitField) :
    (registry.extend appName name field).cookies.lookup key =
      if key = (appName, name) then some ⟨field.offset, field.mask⟩
      else registry.cookies.lookup key :=
  Dict.lookup_insert_eq _ _ _ _

/-- The field that the next call gets. -/
def nextField (registry : CookieRegistry ω) (appName : String) (length : Nat) : BitField :=
  ⟨registry.cookiesUsedBits appName + firstBit appName, length⟩

theorem namespaceOf_isLocal {call : Registration} {appName : String} (proper : call.Proper)
    (isNamespace : call.namespaceOf = .ok appName) :
    appName = globalAppName ↔ call.isLocal = false := by
  unfold Registration.namespaceOf resolveAppName at isNamespace
  split at isNamespace
  · next isLocal =>
      have notGlobal := proper.2 isLocal
      split at isNamespace
      · cases isNamespace
      · cases isNamespace
      · next given found =>
          cases isNamespace
          constructor
          · intro same
            rw [same] at found
            exact absurd found notGlobal
          · intro notLocal
            rw [isLocal] at notLocal
            cases notLocal
  · next notLocal =>
      cases isNamespace
      exact iff_of_true rfl (Bool.eq_false_of_not_eq_true notLocal)

/-- A call raises and changes nothing, repeats a name and changes nothing, or adds a
field at the end of its namespace. -/
theorem register_cases {call : Registration} (proper : call.Proper)
    (registry : CookieRegistry ω) :
    (∃ error, exec call.action registry = (.error error, registry)) ∨
    (∃ appName, call.namespaceOf = .ok appName ∧
      exec call.action registry = (.ok (), registry) ∧
      ∃ pair, registry.cookies.lookup (appName, call.name) = some pair) ∨
    ∃ appName, call.namespaceOf = .ok appName ∧
      registry.cookies.lookup (appName, call.name) = none ∧
      registry.cookiesUsedBits appName + call.length ≤ cookieMaxBitsGlobal ∧
      exec call.action registry = (.ok (), registry.extend appName call.name
        (registry.nextField appName call.length)) := by
  have isNamespace : resolveAppName call.isLocal call.appName = call.namespaceOf := rfl
  unfold Registration.action registerCookieBits
  rw [isNamespace]
  cases resolved : call.namespaceOf with
  | error error => exact Or.inl ⟨error, rfl⟩
  | ok appName =>
      have executed : ∀ next : String → Action ω Unit,
          exec (do let found ← Program.ofExcept (.ok appName); next found) registry =
            exec (next appName) registry := fun _ => rfl
      have maxBits : (if call.isLocal then cookieMaxBitsLocal else cookieMaxBitsGlobal) =
          cookieMaxBitsGlobal := by
        split <;> rfl
      have shift : (if call.isLocal then cookieMaxBitsGlobal else 0) = firstBit appName := by
        unfold firstBit
        simp only [namespaceOf_isLocal proper resolved]
        cases call.isLocal <;> rfl
      simp only [maxBits, shift]
      rw [executed, exec_bind_ok (exec_get registry)]
      cases found : registry.cookies.lookup (appName, call.name) with
      | some pair => exact Or.inr (Or.inl ⟨appName, rfl, rfl, pair, found⟩)
      | none =>
          simp only
          split
          · exact Or.inl ⟨.outOfCookieSpace, rfl⟩
          · next fits =>
              have small : call.length ≤ cookieMaxBits := by
                unfold cookieMaxBits
                unfold cookieMaxBitsGlobal at fits
                omega
              have fieldFits : (registry.nextField appName call.length).length ≤
                  cookieMaxBits := small
              have isMask := BitField.shifted_mask fieldFits
              refine Or.inr (Or.inr ⟨appName, rfl, found, Nat.le_of_not_lt fits, ?_⟩)
              unfold extend
              rw [← isMask]
              rfl

/-! ## The invariant -/

/-- The field of a name. -/
def Registered (registry : CookieRegistry ω) (appName name : String) (field : BitField) :
    Prop :=
  1 ≤ field.length ∧
    registry.cookies.lookup (appName, name) = some ⟨field.offset, field.mask⟩

theorem Registered.unique {appName name : String} {field other : BitField}
    (isField : registry.Registered appName name field)
    (isOther : registry.Registered appName name other) : field = other := by
  have same := isField.2.symm.trans isOther.2
  rw [Option.some.injEq, CookieBitPair.mk.injEq] at same
  exact BitField.eq_of_mask same.1 same.2

/-- The bits that a namespace has given away. -/
def Used (registry : CookieRegistry ω) (appName : String) (field : BitField) : Prop :=
  firstBit appName ≤ field.offset ∧
    field.offset + field.length ≤ firstBit appName + registry.cookiesUsedBits appName

/-- Every pair is that of a field in the used part of its namespace, and the fields of a
namespace do not overlap. -/
structure Sound (registry : CookieRegistry ω) : Prop where
  used : ∀ appName, registry.cookiesUsedBits appName ≤ cookieMaxBitsGlobal
  registered : ∀ appName name pair, registry.cookies.lookup (appName, name) = some pair →
    ∃ field, registry.Registered appName name field ∧ registry.Used appName field
  apart : ∀ appName name other field otherField, name ≠ other →
    registry.Registered appName name field →
    registry.Registered appName other otherField → BitField.Apart field otherField

theorem Sound.isUsed (sound : registry.Sound) {appName name : String} {field : BitField}
    (isField : registry.Registered appName name field) : registry.Used appName field := by
  rcases sound.registered appName name _ isField.2 with ⟨found, isFound, isUsed⟩
  rwa [isField.unique isFound]

theorem registered_extend {appName name : String} {field : BitField}
    (isPositive : 1 ≤ field.length) (otherApp otherName : String) (other : BitField) :
    (registry.extend appName name field).Registered otherApp otherName other ↔
      if (otherApp, otherName) = (appName, name) then other = field
      else registry.Registered otherApp otherName other := by
  unfold Registered
  rw [extend_cookies]
  split
  · constructor
    · rintro ⟨_, same⟩
      rw [Option.some.injEq, CookieBitPair.mk.injEq] at same
      exact BitField.eq_of_mask same.1.symm same.2.symm
    · rintro rfl
      exact ⟨isPositive, rfl⟩
  · exact Iff.rfl

theorem Used.extend {otherApp name : String} {appName : String} {field other : BitField}
    (isUsed : registry.Used otherApp other) :
    (registry.extend appName name field).Used otherApp other := by
  refine ⟨isUsed.1, Nat.le_trans isUsed.2 (Nat.add_le_add_left ?_ _)⟩
  rw [extend_cookiesUsedBits]
  split
  · next same =>
      rw [same]
      exact Nat.le_add_right _ _
  · exact Nat.le_refl _

theorem nextField_used {appName name : String} {length : Nat} :
    (registry.extend appName name (registry.nextField appName length)).Used appName
      (registry.nextField appName length) := by
  refine ⟨Nat.le_add_left _ _, ?_⟩
  rw [extend_cookiesUsedBits, if_pos rfl]
  unfold nextField
  simp only
  omega

theorem Sound.extend (sound : registry.Sound) {appName name : String} {length : Nat}
    (isPositive : 1 ≤ length)
    (fits : registry.cookiesUsedBits appName + length ≤ cookieMaxBitsGlobal) :
    (registry.extend appName name (registry.nextField appName length)).Sound where
  used other := by
    rw [extend_cookiesUsedBits]
    split
    · exact fits
    · exact sound.used other
  registered other otherName pair found := by
    by_cases same : (other, otherName) = (appName, name)
    · rw [Prod.mk.injEq] at same
      rcases same with ⟨rfl, rfl⟩
      exact ⟨registry.nextField other length,
        (registered_extend isPositive _ _ _).mpr (by rw [if_pos rfl]), nextField_used⟩
    · rw [extend_cookies, if_neg same] at found
      rcases sound.registered other otherName pair found with ⟨field, isField, isUsed⟩
      exact ⟨field, (registered_extend isPositive _ _ _).mpr (by rw [if_neg same]; exact isField),
        isUsed.extend⟩
  apart other first second field otherField different isField isOther := by
    rw [registered_extend isPositive] at isField isOther
    -- the new field starts where the used part ended
    have beyond : ∀ found, registry.Used appName found →
        BitField.Apart found (registry.nextField appName length) := by
      intro found isUsed
      refine BitField.apart_of_le (Nat.le_trans isUsed.2 ?_)
      exact Nat.le_of_eq (Nat.add_comm _ _)
    split at isField
    · next isFirst =>
        rw [Prod.mk.injEq] at isFirst
        split at isOther
        · next isSecond =>
            rw [Prod.mk.injEq] at isSecond
            exact absurd (isFirst.2.trans isSecond.2.symm) different
        · rw [isField]
          rw [isFirst.1] at isOther
          exact (beyond otherField (sound.isUsed isOther)).symm
    · split at isOther
      · next isSecond =>
          rw [Prod.mk.injEq] at isSecond
          rw [isOther]
          rw [isSecond.1] at isField
          exact beyond field (sound.isUsed isField)
      · exact sound.apart other first second field otherField different isField isOther

theorem sound_empty : ({} : CookieRegistry ω).Sound where
  used _ := Nat.zero_le _
  registered _ _ _ impossible := by cases impossible
  apart _ _ _ _ _ _ impossible := by cases impossible.2

theorem Sound.register (sound : registry.Sound) {call : Registration}
    (proper : call.Proper) : (registry.register call).Sound := by
  unfold CookieRegistry.register
  rcases register_cases proper registry with ⟨_, executed⟩ | ⟨_, _, executed, _⟩ |
    ⟨appName, _, _, fits, executed⟩
  · rw [executed]
    exact sound
  · rw [executed]
    exact sound
  · rw [executed]
    exact sound.extend proper.1 fits

/-! ## Histories of registrations -/

theorem registerAll_append (calls : List Registration) (call : Registration) :
    (registerAll (calls ++ [call]) : CookieRegistry ω) = (registerAll calls).register call :=
  List.foldl_concat _ _ _ _

theorem sound_registerAll (calls : List Registration)
    (proper : ∀ call ∈ calls, call.Proper) : (registerAll calls : CookieRegistry ω).Sound := by
  induction calls using List.reverseRecOn with
  | nil => exact sound_empty
  | append_singleton calls call induction =>
      rw [registerAll_append]
      exact (induction fun other member => proper other (List.mem_append_left _ member)).register
        (proper call (List.mem_append_right _ List.mem_cons_self))

/-- The call registers the field of a name, with the bits that it asks for. -/
structure Registers (ω : Type) (before : List Registration) (call : Registration)
    (appName name : String) (pair : CookieBitPair) : Prop where
  isNamespace : call.namespaceOf = .ok appName
  isName : call.name = name
  absent : (registerAll before : CookieRegistry ω).cookies.lookup (appName, name) = none
  found : (registerAll (before ++ [call]) : CookieRegistry ω).cookies.lookup
    (appName, name) = some pair
  bits : pair.mask = BitField.mask ⟨pair.offset, call.length⟩

/-- Every field was registered by one of the calls. -/
theorem exists_registers (calls : List Registration) (proper : ∀ call ∈ calls, call.Proper)
    {appName name : String} {pair : CookieBitPair}
    (found : (registerAll calls : CookieRegistry ω).cookies.lookup (appName, name) =
      some pair) :
    ∃ before call after, calls = before ++ call :: after ∧
      Registers ω before call appName name pair := by
  induction calls using List.reverseRecOn with
  | nil => cases found
  | append_singleton calls call induction =>
      have isProper := proper call (List.mem_append_right _ List.mem_cons_self)
      have earlier : (registerAll calls : CookieRegistry ω).cookies.lookup (appName, name) =
          some pair → ∃ before earlier after, calls ++ [call] = before ++ earlier :: after ∧
            Registers ω before earlier appName name pair := by
        intro had
        rcases induction (fun other member => proper other (List.mem_append_left _ member))
          had with ⟨before, first, after, rfl, registers⟩
        exact ⟨before, first, after ++ [call], by simp, registers⟩
      rw [registerAll_append, register] at found
      rcases register_cases isProper (registerAll calls : CookieRegistry ω) with
        ⟨_, executed⟩ | ⟨_, _, executed, _⟩ | ⟨ownApp, isNamespace, absent, fits, executed⟩
      · rw [executed] at found
        exact earlier found
      · rw [executed] at found
        exact earlier found
      · rw [executed, extend_cookies] at found
        split at found
        · next same =>
            rw [Prod.mk.injEq] at same
            rcases same with ⟨rfl, rfl⟩
            refine ⟨calls, call, [], rfl, isNamespace, rfl, absent, ?_, ?_⟩
            · rw [registerAll_append, register, executed, extend_cookies, if_pos rfl]
              exact found
            · cases found
              rfl
        · exact earlier found

/-- A call that raises or repeats a name changes nothing. -/
theorem register_unchanged {call : Registration} (proper : call.Proper)
    (registry : CookieRegistry ω)
    (rejected : (exec call.action registry).1 ≠ .ok () ∨
      ∃ appName, call.namespaceOf = .ok appName ∧
        registry.cookies.lookup (appName, call.name) ≠ none) :
    (exec call.action registry).2 = registry := by
  rcases register_cases proper registry with ⟨_, executed⟩ | ⟨_, _, executed, _⟩ |
    ⟨appName, isNamespace, absent, _, executed⟩
  · rw [executed]
  · rw [executed]
  · rcases rejected with raised | ⟨otherApp, isOther, repeated⟩
    · rw [executed] at raised
      exact absurd rfl raised
    · rw [isNamespace] at isOther
      cases isOther
      exact absurd absent repeated

/-- The bits of a namespace. -/
theorem Sound.bounds (sound : registry.Sound) {appName name : String} {field : BitField}
    (isField : registry.Registered appName name field) :
    if appName = globalAppName then field.offset + field.length ≤ cookieMaxBitsGlobal
    else cookieMaxBitsGlobal ≤ field.offset ∧ field.offset + field.length ≤ cookieMaxBits := by
  have isUsed := sound.isUsed isField
  have few := sound.used appName
  unfold Used firstBit at isUsed
  split
  · next isGlobal =>
      simp only [isGlobal, if_true] at isUsed few
      omega
  · next isLocal =>
      simp only [isLocal, if_false] at isUsed
      unfold cookieMaxBits
      unfold cookieMaxBitsGlobal at isUsed few ⊢
      omega

theorem Sound.apart_global (sound : registry.Sound) {appName name other : String}
    {field otherField : BitField} (isLocal : appName ≠ globalAppName)
    (isField : registry.Registered appName name field)
    (isOther : registry.Registered globalAppName other otherField) :
    BitField.Apart field otherField := by
  have bounds := sound.bounds isField
  have globalBounds := sound.bounds isOther
  rw [if_neg isLocal] at bounds
  rw [if_pos rfl] at globalBounds
  exact (BitField.apart_of_le (Nat.le_trans globalBounds bounds.1)).symm

theorem Sound.pair_eq (sound : registry.Sound) {appName name : String}
    {pair : CookieBitPair}
    (found : registry.cookies.lookup (appName, name) = some pair) :
    ∃ field, registry.Registered appName name field ∧ pair = ⟨field.offset, field.mask⟩ := by
  rcases sound.registered appName name pair found with ⟨field, isField, _⟩
  exact ⟨field, isField, Option.some.inj (found.symm.trans isField.2)⟩

/-- In every history of registrations, fields have the bits that were asked for, lie in
their namespace and do not overlap. -/
theorem cookie_fields_apart {ω : Type} (calls : List Registration)
    (proper : ∀ call ∈ calls, call.Proper) :
    (∀ appName name pair,
      (registerAll calls : CookieRegistry ω).cookies.lookup (appName, name) = some pair →
      ∃ before call after, calls = before ++ call :: after ∧
        Registers ω before call appName name pair ∧
        if appName = globalAppName then pair.offset + call.length ≤ cookieMaxBitsGlobal
        else cookieMaxBitsGlobal ≤ pair.offset ∧ pair.offset + call.length ≤ cookieMaxBits) ∧
    (∀ appName name other pair otherPair, name ≠ other →
      (registerAll calls : CookieRegistry ω).cookies.lookup (appName, name) = some pair →
      (registerAll calls : CookieRegistry ω).cookies.lookup (appName, other) =
        some otherPair → pair.mask &&& otherPair.mask = 0) ∧
    (∀ appName name other pair otherPair, appName ≠ globalAppName →
      (registerAll calls : CookieRegistry ω).cookies.lookup (appName, name) = some pair →
      (registerAll calls : CookieRegistry ω).cookies.lookup (globalAppName, other) =
        some otherPair → pair.mask &&& otherPair.mask = 0) ∧
    ∀ call : Registration, call.Proper →
      ((exec call.action (registerAll calls : CookieRegistry ω)).1 ≠ .ok () ∨
        ∃ appName, call.namespaceOf = .ok appName ∧
          (registerAll calls : CookieRegistry ω).cookies.lookup (appName, call.name) ≠ none) →
      (exec call.action (registerAll calls : CookieRegistry ω)).2 = registerAll calls := by
  have sound := sound_registerAll (ω := ω) calls proper
  refine ⟨?_, ?_, ?_, fun call isProper => register_unchanged isProper _⟩
  · intro appName name pair found
    rcases exists_registers calls proper found with ⟨before, call, after, split, registers⟩
    refine ⟨before, call, after, split, registers, ?_⟩
    have isProper : call.Proper := proper call (by rw [split]; simp)
    have isField : (registerAll calls : CookieRegistry ω).Registered appName name
        ⟨pair.offset, call.length⟩ :=
      ⟨isProper.1, by rw [found, ← registers.bits]⟩
    exact sound.bounds isField
  · intro appName name other pair otherPair different found foundOther
    rcases sound.pair_eq found with ⟨field, isField, rfl⟩
    rcases sound.pair_eq foundOther with ⟨otherField, isOther, rfl⟩
    exact BitField.mask_and_mask
      (sound.apart appName name other field otherField different isField isOther)
  · intro appName name other pair otherPair isLocal found foundOther
    rcases sound.pair_eq found with ⟨field, isField, rfl⟩
    rcases sound.pair_eq foundOther with ⟨otherField, isOther, rfl⟩
    exact BitField.mask_and_mask (sound.apart_global isLocal isField isOther)

/-- The calls of the tests of the module, and one that does not fit. -/
def testCalls : List Registration :=
  [⟨"test1", 3, false, none⟩, ⟨"test2", 5, false, none⟩, ⟨"test3", 5, true, some "app"⟩,
    ⟨"test4", 4, true, some "app"⟩, ⟨"test5", 25, false, none⟩]

theorem cookie_fields_apart_tests :
    (registerAll testCalls : CookieRegistry Unit).cookies.lookup ("app", "test4") =
      some ⟨37, 0xf <<< 37⟩ ∧
    (0xf <<< 37) &&& (0x1f <<< 3) = 0 ∧
    (exec (Registration.action ⟨"test5", 25, false, none⟩)
      (registerAll testCalls : CookieRegistry Unit)).2 = registerAll testCalls := by
  have isProper : ∀ call ∈ testCalls, call.Proper := by decide
  have all := cookie_fields_apart (ω := Unit) testCalls isProper
  have found : (registerAll testCalls : CookieRegistry Unit).cookies.lookup
      ("app", "test4") = some ⟨37, 0xf <<< 37⟩ := by decide +kernel
  refine ⟨found, all.2.2.1 "app" "test4" "test2" _ _ (by decide) found
    (by decide +kernel : _ = some ⟨3, 0x1f <<< 3⟩), ?_⟩
  refine all.2.2.2 ⟨"test5", 25, false, none⟩ (by decide) (Or.inl ?_)
  decide +kernel

end CookieRegistry

end Dragonflow
