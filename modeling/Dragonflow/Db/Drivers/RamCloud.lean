import Dragonflow.Db.Drivers.Etcd

/-! # The RAMCloud driver

The unique keys of `dragonflow/db/drivers/ramcloud_db_driver.py`.
-/

namespace Dragonflow.RamCloudDriver

/-- A value with the number of times that it was written. -/
structure Object where
  value : Int
  version : Nat
  deriving DecidableEq, Repr

/-- The objects of the table of unique keys, with the numbers that `str` and `int` convert
to texts and back. -/
abbrev Objects := Dict String Object

/-- `client.write` without a version. -/
def write (objects : Objects) (key : String) (value : Int) : Objects :=
  match objects.lookup key with
  | none => objects.insert key ⟨value, 1⟩
  | some object => objects.insert key ⟨value, object.version + 1⟩

/-- `client.write` with a version, unless it raises `VersionError`. -/
def writeVersion (objects : Objects) (key : String) (value : Int) (version : Nat) :
    Option Objects :=
  match objects.lookup key with
  | none => none
  | some object =>
      if object.version = version then some (objects.insert key ⟨value, version + 1⟩)
      else none

/-- Where a call of `allocate_unique_key` is between its requests. -/
inductive Phase
  | read
  | write (prevValue : Int) (version : Nat)
  | reset
  deriving DecidableEq, Repr

/-- `allocate_unique_key` -/
def allocateUniqueKey : Operation Objects String Phase Int PyError where
  start := .read
  access table phase objects :=
    match phase with
    | .read =>
        match objects.lookup table with
        | none => (.goOn .reset, objects)
        | some object => (.goOn (.write object.value object.version), objects)
    | .write prevValue version =>
        match writeVersion objects table (prevValue + 1) version with
        | some objects => (.returned (prevValue + 1), objects)
        | none => (.goOn .read, objects)
    | .reset => (.goOn .read, write objects table 0)

/-! ## Counters that are not reset -/

/-- The object of a table has the last number that was given out. -/
def Shows (objects : Objects) (table : String) (count : Nat) : Prop :=
  (objects.lookup table = none ∧ count = 0) ∨
    ∃ version, objects.lookup table = some ⟨count, version⟩

/-- The value that was read is still there, or the version is old. -/
def Fits (table : String) (phase : Phase) (objects : Objects) : Prop :=
  match phase with
  | .write prevValue version => ∃ object, objects.lookup table = some object ∧
      version ≤ object.version ∧ (object.version = version → object.value = prevValue)
  | _ => True

variable {objects : Objects} {log : List (String × Int)} {table other : String}
  {object : Object} {count : Nat}

theorem Shows.eq_of_found (isShown : Shows objects table count)
    (found : objects.lookup table = some object) : object.value = count := by
  rcases isShown with ⟨absent, _⟩ | ⟨version, isObject⟩
  · rw [absent] at found
    cases found
  · rw [isObject] at found
    cases found
    rfl

theorem shows_insert_other (different : other ≠ table) (isShown : Shows objects other count) :
    Shows (objects.insert table object) other count := by
  unfold Shows
  rw [AList.lookup_insert_ne different]
  exact isShown

/-- An object that gets a later version does not disturb the calls. -/
theorem Fits.insert {phase : Phase} (fits : Fits other phase objects)
    (later : ∀ old, objects.lookup table = some old → old.version < object.version) :
    Fits other phase (objects.insert table object) := by
  cases phase with
  | read => trivial
  | reset => trivial
  | write prevValue version =>
      rcases fits with ⟨old, found, isLater, same⟩
      by_cases sameTable : other = table
      · rw [sameTable] at found
        have isNew := later old found
        refine ⟨object, by rw [sameTable, AList.lookup_insert], by omega, ?_⟩
        intro sameVersion
        omega
      · exact ⟨old, by rw [AList.lookup_insert_ne sameTable, found], isLater, same⟩

theorem write_eq (objects : Objects) (table : String) (value : Int) :
    ∃ version, write objects table value = objects.insert table ⟨value, version⟩ ∧
      ∀ old, objects.lookup table = some old → old.version < version := by
  unfold write
  cases found : objects.lookup table with
  | none => exact ⟨1, rfl, fun _ impossible => by cases impossible⟩
  | some object =>
      refine ⟨object.version + 1, rfl, fun old same => ?_⟩
      cases same
      exact Nat.lt_succ_self _

theorem kept_of_goOn {phase : Phase} (counted : Counted Shows objects log)
    (goesOn : Fits table phase objects) :
    Clients.Kept (Counted Shows) Fits table (.goOn phase : Access Phase Int PyError)
      objects objects log where
  known := counted
  goesOn next same := by
    cases same
    exact goesOn
  others _ _ fits := fits

theorem kept_of_write {prevValue : Int} {version : Nat} (counted : Counted Shows objects log)
    (fits : Fits table (.write prevValue version) objects) :
    Clients.Kept (Counted Shows) Fits table
      (allocateUniqueKey.access table (.write prevValue version) objects).1 objects
      (allocateUniqueKey.access table (.write prevValue version) objects).2 log := by
  rcases fits with ⟨object, found, _, sameValue⟩
  unfold allocateUniqueKey writeVersion
  simp only [found]
  by_cases same : object.version = version
  · simp only [if_pos same]
    refine ⟨counted.append (fun count isShown => ?_)
      (fun other count different isShown => shows_insert_other different isShown), ?_, ?_⟩
    · have isCount := isShown.eq_of_found found
      rw [sameValue same] at isCount
      exact ⟨by rw [isCount],
        Or.inr ⟨version + 1, by rw [AList.lookup_insert, isCount]; rfl⟩⟩
    · intro phase impossible
      cases impossible
    · intro other phase fitsOther
      refine fitsOther.insert fun old isOld => ?_
      rw [found] at isOld
      cases isOld
      exact Nat.lt_succ_of_le (Nat.le_of_eq same)
  · simp only [if_neg same]
    exact kept_of_goOn counted trivial

/-- A counter that is zero may be reset. -/
theorem kept_of_reset (counted : Counted Shows objects log)
    (isZero : ∀ object, objects.lookup table = some object → object.value = 0) :
    Clients.Kept (Counted Shows) Fits table (.goOn .read : Access Phase Int PyError)
      objects (write objects table 0) log := by
  rcases write_eq objects table 0 with ⟨version, written, later⟩
  rw [written]
  refine ⟨fun other => ?_, ?_, fun _ _ fits => fits.insert later⟩
  · rcases counted other with ⟨count, isShown, results⟩
    refine ⟨count, ?_, results⟩
    by_cases same : other = table
    · subst same
      have noCount : count = 0 := by
        rcases isShown with ⟨_, isZeroCount⟩ | ⟨oldVersion, found⟩
        · exact isZeroCount
        · exact Int.ofNat.inj (isZero _ found)
      exact Or.inr ⟨version, by rw [AList.lookup_insert, noCount]; rfl⟩
    · exact shows_insert_other same isShown
  · intro phase same
    cases same
    trivial

variable {ι : Type} [DecidableEq ι] {clients after : Clients Objects ι String Phase Int}

/-- Zero is only written where no number was given out. -/
def Fresh (clients : Clients Objects ι String Phase Int) : ClientEvent ι String → Prop
  | .call _ _ => True
  | .access client => ∀ call ∈ clients.calls client, call.2 = .reset →
      ∀ object ∈ clients.store.lookup call.1, object.value = 0

instance (clients : Clients Objects ι String Phase Int) (event : ClientEvent ι String) :
    Decidable (Fresh clients event) :=
  match event with
  | .call _ _ => isTrue trivial
  | .access client => inferInstanceAs (Decidable (∀ call ∈ clients.calls client, _))

theorem sound_step {event : ClientEvent ι String}
    (sound : clients.Sound (Counted Shows) Fits) (fresh : Fresh clients event)
    (stepped : clients.step allocateUniqueKey event = some after) :
    after.Sound (Counted Shows) Fits := by
  have starts : ∀ table objects, Fits table allocateUniqueKey.start objects :=
    fun _ _ => trivial
  refine sound.step starts (fun client table phase isEvent running fits counted => ?_) stepped
  cases phase with
  | read =>
      unfold allocateUniqueKey
      cases found : clients.store.lookup table with
      | none =>
          simp only [found]
          exact kept_of_goOn counted trivial
      | some object =>
          simp only [found]
          exact kept_of_goOn counted ⟨object, found, Nat.le_refl _, fun _ => rfl⟩
  | write prevValue version => exact kept_of_write counted fits
  | reset =>
      rw [isEvent] at fresh
      exact kept_of_reset counted (fresh (table, .reset) running rfl)

theorem nodup_of_throughout {events : List (ClientEvent ι String)}
    (meets : Throughout (Clients.step allocateUniqueKey) Fresh events { store := ∅ })
    (reached : steps (Clients.step allocateUniqueKey) events { store := ∅ } = some after)
    (table : String) : (resultsOf after.log table).Nodup := by
  have initial : Clients.Sound (ι := ι) (Counted Shows) Fits { store := (∅ : Objects) } :=
    ⟨fun table => ⟨0, Or.inl ⟨rfl, rfl⟩, rfl⟩, fun _ _ _ impossible => by cases impossible⟩
  have sound := steps_throughout (Clients.Sound (Counted Shows) Fits)
    (fun _ _ _ isSound fresh stepped => sound_step isSound fresh stepped) initial meets reached
  rcases sound.known table with ⟨count, _, results⟩
  rw [results]
  exact firstNumbers_nodup count

end Dragonflow.RamCloudDriver
