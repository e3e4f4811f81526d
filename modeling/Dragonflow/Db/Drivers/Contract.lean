import Dragonflow.Db.Drivers.Etcd
import Dragonflow.Db.Drivers.Redis
import Dragonflow.Db.Drivers.UniqueKeys
import Dragonflow.Foundation.FlatStore

/-! # Where the drivers keep to the contract

Both drivers put tables, topics and keys into one text. Their answers are right as long
as the names of the keys can be told apart by the means of the driver.
-/

namespace Dragonflow

/-! ## Drivers on a flat store -/

/-- No other key has the name. -/
def NameFree (name : String × String → DbEntry → String) (reference : DbReference)
    (key : String × String) (text : String) : Prop :=
  ∀ item ∈ reference.entries, item.1 ≠ key → name item.1 item.2 ≠ text

instance (name : String × String → DbEntry → String) (reference : DbReference)
    (key : String × String) (text : String) : Decidable (NameFree name reference key text) :=
  inferInstanceAs (Decidable (∀ item ∈ reference.entries, _ → _))

/-- A query over the names finds just the keys that are asked for. -/
def Finds (name : String × String → DbEntry → String) (reference : DbReference)
    (matches_ : String → Bool) (wanted : (_ : String × String) × DbEntry → Bool) : Prop :=
  ∀ item ∈ reference.entries, matches_ (name item.1 item.2) = wanted item

instance (name : String × String → DbEntry → String) (reference : DbReference)
    (matches_ : String → Bool) (wanted : (_ : String × String) × DbEntry → Bool) :
    Decidable (Finds name reference matches_ wanted) :=
  inferInstanceAs (Decidable (∀ item ∈ reference.entries, _ = _))

section Flat

variable {name : String × String → DbEntry → String} {store : Dict String String}
variable {reference : DbReference} {key : String × String} {entry : DbEntry}

abbrev Holds (name : String × String → DbEntry → String) (store : Dict String String)
    (reference : DbReference) : Prop :=
  Flattens name DbEntry.value store reference

theorem NameFree.lookup {text : String} (isFree : NameFree name reference key text)
    (other : String × String) (otherEntry : DbEntry) (different : other ≠ key)
    (found : reference.lookup other = some otherEntry) : name other otherEntry ≠ text :=
  isFree ⟨other, otherEntry⟩ (AList.mem_lookup_iff.mp found) different

theorem lookup_absent {text : String} (holds : Holds name store reference)
    (isFree : NameFree name reference key text) (absent : reference.lookup key = none) :
    store.lookup text = none := by
  apply holds.lookup_none
  intro other otherEntry found
  apply isFree.lookup other otherEntry ?_ found
  rintro rfl
  rw [absent] at found
  cases found

/-- The answer to a query, read off the reference. -/
theorem Finds.perm {β : Type} {matches_ : String → Bool}
    {wanted : (_ : String × String) × DbEntry → Bool}
    (finds : Finds name reference matches_ wanted) (holds : Holds name store reference)
    (result : (_ : String) × String → β) :
    ((store.entries.filter fun item => matches_ item.1).map result).Perm
      ((reference.entries.filter wanted).map fun item =>
        result ⟨name item.1 item.2, item.2.value⟩) := by
  have queried := holds.query matches_ result
  rw [List.filter_congr finds] at queried
  exact queried

/-- A query for one key finds nothing if it is absent. -/
theorem Finds.none {β : Type} {matches_ : String → Bool}
    (finds : Finds name reference matches_ fun item => item.1 = key)
    (holds : Holds name store reference) (result : (_ : String) × String → β)
    (absent : reference.lookup key = none) :
    (store.entries.filter fun item => matches_ item.1).map result = [] := by
  have queried := finds.perm holds result
  rw [Dict.filter_key_of_none absent] at queried
  exact List.perm_nil.mp queried

/-- Else it finds just its entry. -/
theorem Finds.some {β : Type} {matches_ : String → Bool}
    (finds : Finds name reference matches_ fun item => item.1 = key)
    (holds : Holds name store reference) (result : (_ : String) × String → β)
    (found : reference.lookup key = some entry) :
    (store.entries.filter fun item => matches_ item.1).map result =
      [result ⟨name key entry, entry.value⟩] := by
  have queried := finds.perm holds result
  rw [Dict.filter_key_of_some found] at queried
  exact List.perm_singleton.mp queried

end Flat

/-- A driver answers a call, and its store still holds the reference. -/
def Serves (name : String × String → DbEntry → String)
    (handle : Dict String String → DbCall → DbResult × Dict String String)
    (store : Dict String String) (reference : DbReference) (call : DbCall) : Prop :=
  reference.Answers call (handle store call).1 ∧
    Holds name (handle store call).2 (reference.after call (handle store call).1)

/-- From single calls to runs. -/
theorem answered_throughout {name : String × String → DbEntry → String}
    {handle : Dict String String → DbCall → DbResult × Dict String String}
    {condition : DbSystem (Dict String String) → DbCall → Prop}
    (serves : ∀ (system : DbSystem (Dict String String)) (call : DbCall),
      Holds name system.store system.reference →
      condition system call → Serves name handle system.store system.reference call)
    (calls : List DbCall)
    (meets : Throughout (DbSystem.step handle) condition calls ⟨∅, ∅⟩) :
    Throughout (DbSystem.step handle) (DbSystem.Answered handle) calls ⟨∅, ∅⟩ := by
  apply Throughout.imp (fun system => Holds name system.store system.reference) ?_ ?_
    Flattens.empty meets
  · intro system call after holds met stepped
    cases stepped
    exact (serves system call holds met).2
  · intro system call holds met
    exact (serves system call holds met).1

/-! ## The etcd driver -/

namespace EtcdDriver

/-- Where the driver puts a key. -/
def nameOf (key : String × String) (_ : DbEntry) : String := makeKey key.1 key.2

/-- No other key has the same name; a prefix query finds just the keys of its table, all
of them of the topic that is asked for; values are not empty, and tables have names of
single bytes. -/
def Clear (reference : DbReference) : DbCall → Prop
  | .getKey table key _ => NameFree nameOf reference (table, key) (makeKey table key)
  | .setKey table key _ _ => NameFree nameOf reference (table, key) (makeKey table key)
  | .createKey table key _ _ => NameFree nameOf reference (table, key) (makeKey table key)
  | .deleteKey table key _ => NameFree nameOf reference (table, key) (makeKey table key)
  | .getAllEntries table topic =>
      Finds nameOf reference (fun text => (makeKey table).toList.isPrefixOf text.toList)
          (DbReference.wanted table topic) ∧
        ∀ item ∈ reference.select table topic, item.2.value ≠ ""
  | .getAllKeys table topic =>
      Finds nameOf reference (fun text => (makeKey table).toList.isPrefixOf text.toList)
          (DbReference.wanted table topic) ∧
        ∀ char ∈ table.toList, char.utf8Size = 1

instance (reference : DbReference) (call : DbCall) : Decidable (Clear reference call) :=
  match call with
  | .getKey _ _ _ => inferInstanceAs (Decidable (NameFree nameOf reference _ _))
  | .setKey _ _ _ _ => inferInstanceAs (Decidable (NameFree nameOf reference _ _))
  | .createKey _ _ _ _ => inferInstanceAs (Decidable (NameFree nameOf reference _ _))
  | .deleteKey _ _ _ => inferInstanceAs (Decidable (NameFree nameOf reference _ _))
  | .getAllEntries table topic =>
      inferInstanceAs (Decidable (Finds nameOf reference _ _ ∧
        ∀ item ∈ reference.select table topic, _ ≠ _))
  | .getAllKeys table _ =>
      let _ : Decidable (∀ char ∈ table.toList, char.utf8Size = 1) := List.decidableBAll _ _
      inferInstanceAs (Decidable (Finds nameOf reference _ _ ∧ _))

variable {store : EtcdStore String} {reference : DbReference}

theorem write_holds (holds : Holds nameOf store reference) {table key : String}
    (isFree : NameFree nameOf reference (table, key) (makeKey table key)) (value : String)
    (topic : Option String) :
    Holds nameOf (store.insert (makeKey table key) value)
      (reference.write table key value topic) := by
  have inserted : ∀ entry : DbEntry, Holds nameOf
      (store.insert (nameOf (table, key) entry) entry.value)
      (reference.insert (table, key) entry) :=
    fun entry => holds.insert (fun _ _ => rfl) isFree.lookup
  exact inserted ⟨reference.topicAfter table key topic, value⟩

theorem sliceBytes_append (chars rest : List Char)
    (areSingle : ∀ char ∈ chars, char.utf8Size = 1) :
    sliceBytes chars.length (chars ++ rest) = .ok rest := by
  induction chars with
  | nil => cases rest <;> rfl
  | cons char chars induction =>
      have isSingle := areSingle char List.mem_cons_self
      rw [List.length_cons, List.cons_append, sliceBytes, isSingle,
        if_pos (Nat.le_add_left 1 chars.length)]
      exact induction fun other member => areSingle other (List.mem_cons_of_mem _ member)

theorem keyOf_name {table key : String}
    (areSingle : ∀ char ∈ table.toList, char.utf8Size = 1) :
    keyOf table (makeKey table key) = .ok key := by
  have isName : (makeKey table key).toList =
      ('/' :: table.toList ++ ['/']) ++ key.toList := by
    rw [makeKey_eq]
    simp
  have isLength : table.length + 2 = ('/' :: table.toList ++ ['/']).length := by
    simp [String.length_toList]
  unfold keyOf
  rw [isName, isLength, sliceBytes_append]
  · change Except.ok (String.ofList key.toList) = _
    rw [String.ofList_toList]
  · intro char member
    simp only [List.cons_append, List.mem_cons, List.mem_append, List.not_mem_nil,
      or_false] at member
    rcases member with rfl | inTable | rfl
    · rfl
    · exact areSingle char inTable
    · rfl

theorem wanted_table {table : String} {topic : Option String}
    {item : (_ : String × String) × DbEntry}
    (isWanted : item ∈ reference.select table topic) : item.1.1 = table := by
  have wanted := (List.mem_filter.mp isWanted).2
  simp only [DbReference.wanted, Bool.and_eq_true, decide_eq_true_eq] at wanted
  exact wanted.1

/-- The key in the name of an entry. -/
def keyIn (table : String) (item : (_ : String) × String) : String :=
  (keyOf table item.1).toOption.getD ""

theorem mapM_keyOf {table : String} {items : List ((_ : String) × String)}
    (named : ∀ item ∈ items, ∃ key, keyOf table item.1 = .ok key) :
    items.mapM (fun item => keyOf table item.1) = .ok (items.map (keyIn table)) := by
  induction items with
  | nil => rfl
  | cons item items induction =>
      rcases named item List.mem_cons_self with ⟨key, isKey⟩
      have rest := induction fun other member => named other (List.mem_cons_of_mem _ member)
      rw [List.mapM_cons, isKey, rest, List.map_cons, keyIn, isKey]
      rfl

theorem getAllKeys_ok {table : String} {topic : Option String}
    (holds : Holds nameOf store reference)
    (clear : Clear reference (.getAllKeys table topic)) :
    ∃ keys, getAllKeys store table = .ok keys ∧
      keys.Perm ((reference.select table topic).map fun item => item.1.2) := by
  rcases clear with ⟨finds, areSingle⟩
  have isKey : ∀ item ∈ reference.select table topic,
      keyOf table (nameOf item.1 item.2) = .ok item.1.2 := by
    intro item isWanted
    unfold nameOf
    rw [wanted_table isWanted]
    exact keyOf_name areSingle
  have named := finds.perm holds id
  rw [List.map_id] at named
  refine ⟨(getPrefix store (makeKey table)).map (keyIn table), mapM_keyOf ?_, ?_⟩
  · intro item member
    rcases List.mem_map.mp (named.mem_iff.mp member) with ⟨found, isWanted, rfl⟩
    exact ⟨_, isKey found isWanted⟩
  · have keys := finds.perm holds (keyIn table)
    have sameKeys : ∀ item ∈ reference.entries.filter (DbReference.wanted table topic),
        keyIn table ⟨nameOf item.1 item.2, item.2.value⟩ = item.1.2 := by
      intro item isWanted
      unfold keyIn
      rw [isKey item isWanted]
      rfl
    rw [List.map_congr_left sameKeys] at keys
    exact keys

theorem getAllEntries_perm {table : String} {topic : Option String}
    (holds : Holds nameOf store reference)
    (clear : Clear reference (.getAllEntries table topic)) :
    (getAllEntries store table).Perm
      ((reference.select table topic).map fun item => item.2.value) := by
  rcases clear with ⟨finds, notEmpty⟩
  have values := (finds.perm holds Sigma.snd).filter fun value => value ≠ ""
  have noneLost : ((reference.select table topic).map fun item => item.2.value).filter
      (fun value => value ≠ "") = (reference.select table topic).map fun item => item.2.value := by
    rw [List.filter_eq_self]
    intro value member
    rcases List.mem_map.mp member with ⟨item, isWanted, rfl⟩
    exact decide_eq_true (notEmpty item isWanted)
  exact values.trans (List.Perm.of_eq noneLost)

theorem serves {call : DbCall} (holds : Holds nameOf store reference)
    (clear : Clear reference call) :
    Serves nameOf handle store reference call := by
  unfold Serves
  cases call with
  | getKey table key topic =>
      rw [DbReference.after_reads reference (show DbReference.Reads (.getKey _ _ _) from trivial)]
      refine ⟨?_, holds⟩
      unfold DbReference.Answers handle getKey getRawKey
      cases found : reference.lookup (table, key) with
      | none =>
          simp only [found, lookup_absent holds clear found]
          rfl
      | some entry =>
          have stored : store.lookup (makeKey table key) = some entry.value :=
            holds.lookup found
          simp only [found, stored]
          rfl
  | setKey table key value topic =>
      exact ⟨Or.inl rfl, write_holds holds clear value topic⟩
  | createKey table key value topic =>
      exact ⟨rfl, write_holds holds clear value topic⟩
  | deleteKey table key topic =>
      unfold DbReference.Answers handle deleteKey
      cases found : reference.lookup (table, key) with
      | none =>
          simp only [found, lookup_absent holds clear found]
          exact ⟨rfl, holds⟩
      | some entry =>
          have stored : store.lookup (makeKey table key) = some entry.value :=
            holds.lookup found
          simp only [found, stored]
          exact ⟨rfl, holds.erase found⟩
  | getAllEntries table topic =>
      exact ⟨⟨_, rfl, getAllEntries_perm holds clear⟩, holds⟩
  | getAllKeys table topic =>
      rw [DbReference.after_reads reference (show DbReference.Reads (.getAllKeys _ _) from trivial)]
      rcases getAllKeys_ok holds clear with ⟨keys, isOk, perm⟩
      unfold DbReference.Answers handle
      simp only [isOk]
      exact ⟨⟨keys, rfl, perm⟩, holds⟩

end EtcdDriver

/-! ## The redis driver -/

namespace RedisDriver

/-- Where the driver puts a key. -/
def nameOf (key : String × String) (entry : DbEntry) : String :=
  keyName key.1 (some entry.topic) key.2

/-- Calls without a topic: the pattern of the key matches the name of that key only. -/
def FindsKey (reference : DbReference) (table key : String) : Prop :=
  Finds nameOf reference (RedisStore.stringMatch (queryPattern table none key))
    fun item => item.1 = (table, key)

/-- The pattern of a query matches the names of the keys of the table and the topic. -/
def FindsTable (reference : DbReference) (table : String) (topic : Option String) : Prop :=
  Finds nameOf reference (RedisStore.stringMatch (queryPattern table topic))
    (DbReference.wanted table topic)

def NameFreeFor (reference : DbReference) (table key topic : String) : Prop :=
  NameFree nameOf reference (table, key) (keyName table (some topic) key)

/-- Patterns and names tell the keys apart. A key that exists is created again only with
its topic, one is deleted with its topic only if it exists, and a listed key can be read
off its name. -/
def Clear (reference : DbReference) : DbCall → Prop
  | .getKey table key none => FindsKey reference table key
  | .getKey table key (some topic) => NameFreeFor reference table key topic
  | .setKey table key _ none => FindsKey reference table key
  | .setKey table key _ (some topic) => NameFreeFor reference table key topic
  | .createKey table key _ topic => NameFreeFor reference table key (topic.getD "") ∧
      ∀ entry, reference.lookup (table, key) = some entry → topic.getD "" = entry.topic
  | .deleteKey table key none => FindsKey reference table key
  | .deleteKey table key (some _) => reference.lookup (table, key) ≠ none
  | .getAllEntries table topic => FindsTable reference table topic
  | .getAllKeys table topic => FindsTable reference table topic ∧
      ∀ item ∈ reference.select table topic,
        stripTableTopic (nameOf item.1 item.2) = item.1.2

instance (reference : DbReference) (call : DbCall) : Decidable (Clear reference call) :=
  match call with
  | .getKey _ _ none => inferInstanceAs (Decidable (Finds nameOf reference _ _))
  | .getKey _ _ (some _) =>
      inferInstanceAs (Decidable (NameFree nameOf reference _ _))
  | .setKey _ _ _ none => inferInstanceAs (Decidable (Finds nameOf reference _ _))
  | .setKey _ _ _ (some _) =>
      inferInstanceAs (Decidable (NameFree nameOf reference _ _))
  | .createKey table key _ topic =>
      inferInstanceAs (Decidable (NameFree nameOf reference _ _ ∧
        ∀ entry ∈ reference.lookup (table, key), topic.getD "" = entry.topic))
  | .deleteKey _ _ none => inferInstanceAs (Decidable (Finds nameOf reference _ _))
  | .deleteKey table key (some _) =>
      inferInstanceAs (Decidable (reference.lookup (table, key) ≠ none))
  | .getAllEntries _ _ => inferInstanceAs (Decidable (Finds nameOf reference _ _))
  | .getAllKeys table topic =>
      inferInstanceAs (Decidable (Finds nameOf reference _ _ ∧
        ∀ item ∈ reference.select table topic, _ = _))

variable {store : RedisStore} {reference : DbReference} {table key : String}

theorem scan_none (holds : Holds nameOf store reference)
    (finds : FindsKey reference table key)
    (absent : reference.lookup (table, key) = none) :
    keyNameInferTopic store table key = .error .dbKeyNotFound := by
  have scanned : scan store table none key = [] :=
    Finds.none finds holds Sigma.fst absent
  unfold keyNameInferTopic
  rw [scanned]

theorem scan_some {entry : DbEntry} (holds : Holds nameOf store reference)
    (finds : FindsKey reference table key)
    (found : reference.lookup (table, key) = some entry) :
    keyNameInferTopic store table key = .ok (nameOf (table, key) entry) := by
  have scanned : scan store table none key = [nameOf (table, key) entry] :=
    Finds.some finds holds Sigma.fst found
  unfold keyNameInferTopic
  rw [scanned]

/-- The name that a call writes to is that of the key, if it exists. -/
theorem realKey_some {entry : DbEntry} {topic : Option String}
    (holds : Holds nameOf store reference)
    (found : reference.lookup (table, key) = some entry)
    (inScope : reference.SameTopic table key topic)
    (finds : topic = none → FindsKey reference table key) :
    realKey store table key topic = .ok (nameOf (table, key) entry) := by
  cases topic with
  | none => exact scan_some holds (finds rfl) found
  | some topic =>
      rcases inScope entry found with impossible | same
      · cases impossible
      · rw [Option.some.injEq] at same
        rw [same]
        rfl

theorem write_holds {topic : Option String} (holds : Holds nameOf store reference)
    (value : String) {text : String}
    (isName : text = keyName table (some (reference.topicAfter table key topic)) key)
    (isFree : NameFree nameOf reference (table, key) text) :
    Holds nameOf (store.insert text value) (reference.write table key value topic) := by
  have inserted : Holds nameOf
      (store.insert (nameOf (table, key) ⟨reference.topicAfter table key topic, value⟩) value)
      (reference.insert (table, key) ⟨reference.topicAfter table key topic, value⟩) := by
    apply holds.insert
    · intro old found
      unfold nameOf DbReference.topicAfter
      rw [found]
    · rw [isName] at isFree
      exact isFree.lookup
  rw [isName]
  exact inserted

theorem nameFree_own {entry : DbEntry} (holds : Holds nameOf store reference)
    (found : reference.lookup (table, key) = some entry) :
    NameFree nameOf reference (table, key) (nameOf (table, key) entry) := by
  intro item member different same
  apply different
  exact holds.apart _ _ _ _ (AList.mem_lookup_iff.mpr member) found same

theorem serves_setKey {value : String} {topic : Option String}
    (holds : Holds nameOf store reference) (inScope : reference.SameTopic table key topic)
    (clear : Clear reference (.setKey table key value topic)) :
    Serves nameOf handle store reference (.setKey table key value topic) := by
  unfold Serves DbReference.Answers handle setKey
  cases found : reference.lookup (table, key) with
  | some entry =>
      have isReal : realKey store table key topic = .ok (nameOf (table, key) entry) := by
        apply realKey_some holds found inScope
        rintro rfl
        exact clear
      simp only [isReal]
      refine ⟨Or.inl rfl, write_holds holds value ?_ (nameFree_own holds found)⟩
      unfold nameOf DbReference.topicAfter
      rw [found]
  | none =>
      cases topic with
      | none =>
          have isReal : realKey store table key none = .error .dbKeyNotFound :=
            scan_none holds clear found
          simp only [isReal]
          exact ⟨Or.inr ⟨found, rfl⟩, holds⟩
      | some topic =>
          refine ⟨Or.inl rfl, write_holds holds value ?_ clear⟩
          unfold DbReference.topicAfter
          rw [found]
          rfl

theorem serves_deleteKey {topic : Option String} (holds : Holds nameOf store reference)
    (inScope : reference.SameTopic table key topic)
    (clear : Clear reference (.deleteKey table key topic)) :
    Serves nameOf handle store reference (.deleteKey table key topic) := by
  unfold Serves DbReference.Answers handle deleteKey
  cases found : reference.lookup (table, key) with
  | some entry =>
      have isReal : realKey store table key topic = .ok (nameOf (table, key) entry) := by
        apply realKey_some holds found inScope
        rintro rfl
        exact clear
      simp only [found, isReal]
      exact ⟨rfl, holds.erase found⟩
  | none =>
      cases topic with
      | none =>
          have isReal : realKey store table key none = .error .dbKeyNotFound :=
            scan_none holds clear found
          simp only [found, isReal]
          exact ⟨rfl, holds⟩
      | some topic => exact absurd found clear

theorem getKey_answers {topic : Option String} (holds : Holds nameOf store reference)
    (inScope : reference.SameTopic table key topic)
    (clear : Clear reference (.getKey table key topic)) :
    getKey store table key topic =
      match reference.lookup (table, key) with
      | none => .error .dbKeyNotFound
      | some entry => .ok entry.value := by
  cases found : reference.lookup (table, key) with
  | none =>
      cases topic with
      | none =>
          have values : (store.matching (queryPattern table none key)).map Sigma.snd = [] :=
            Finds.none clear holds Sigma.snd found
          simp only [getKey, getKeyNotopic, values]
      | some topic =>
          have isFree : NameFreeFor reference table key topic := clear
          have absent : store.lookup (keyName table (some topic) key) = none :=
            lookup_absent holds isFree found
          simp only [getKey, getKeyTopic, absent]
  | some entry =>
      cases topic with
      | none =>
          have values : (store.matching (queryPattern table none key)).map Sigma.snd =
              [entry.value] := Finds.some clear holds Sigma.snd found
          simp only [getKey, getKeyNotopic, values]
      | some topic =>
          rcases inScope entry found with impossible | same
          · cases impossible
          · rw [Option.some.injEq] at same
            have stored : store.lookup (nameOf (table, key) entry) = some entry.value :=
              holds.lookup found
            rw [same]
            change store.lookup (keyName table (some entry.topic) key) = _ at stored
            simp only [getKey, getKeyTopic, stored]

theorem serves {call : DbCall} (holds : Holds nameOf store reference)
    (inScope : reference.InScope call) (clear : Clear reference call) :
    Serves nameOf handle store reference call := by
  cases call with
  | getKey table key topic =>
      have answer := getKey_answers holds inScope clear
      unfold Serves
      rw [DbReference.after_reads reference (show DbReference.Reads (.getKey _ _ _) from trivial)]
      refine ⟨?_, holds⟩
      unfold DbReference.Answers handle
      simp only [answer]
      cases reference.lookup (table, key) <;> rfl
  | setKey table key value topic => exact serves_setKey holds inScope clear
  | createKey table key value topic =>
      refine ⟨rfl, write_holds holds value ?_ clear.1⟩
      unfold DbReference.topicAfter
      cases found : reference.lookup (table, key) with
      | none => rfl
      | some entry =>
          simp only
          rw [← clear.2 entry found]
          rfl
  | deleteKey table key topic => exact serves_deleteKey holds inScope clear
  | getAllEntries table topic =>
      exact ⟨⟨_, rfl, Finds.perm clear holds Sigma.snd⟩, holds⟩
  | getAllKeys table topic =>
      have keys := Finds.perm clear.1 holds fun item => stripTableTopic item.1
      have sameKeys : ∀ item ∈ reference.entries.filter (DbReference.wanted table topic),
          stripTableTopic (nameOf item.1 item.2) = item.1.2 := clear.2
      rw [List.map_congr_left sameKeys] at keys
      refine ⟨⟨_, rfl, ?_⟩, holds⟩
      unfold getAllKeys scan
      rw [List.map_map]
      exact keys

end RedisDriver

/-! ## Both drivers -/

/-- Runs of the two drivers answer as the reference does, at every call, as long as each
call of the run is clear for the driver. -/
theorem drivers_meet_contract (calls : List DbCall) :
    (Throughout (DbSystem.step EtcdDriver.handle) (fun system call =>
        system.reference.InScope call ∧ EtcdDriver.Clear system.reference call)
        calls ⟨∅, ∅⟩ →
      Throughout (DbSystem.step EtcdDriver.handle) (DbSystem.Answered EtcdDriver.handle)
        calls ⟨∅, ∅⟩) ∧
    (Throughout (DbSystem.step RedisDriver.handle) (fun system call =>
        system.reference.InScope call ∧ RedisDriver.Clear system.reference call)
        calls ⟨∅, ∅⟩ →
      Throughout (DbSystem.step RedisDriver.handle) (DbSystem.Answered RedisDriver.handle)
        calls ⟨∅, ∅⟩) := by
  constructor
  · apply answered_throughout
    intro system call holds met
    exact EtcdDriver.serves holds met.2
  · apply answered_throughout
    intro system call holds met
    exact RedisDriver.serves holds met.1 met.2

/-- A port is created, read, changed, listed and deleted. -/
def portCalls : List DbCall :=
  [.createKey "lport" "p1" "v1" (some "t1"), .getKey "lport" "p1" none,
    .setKey "lport" "p1" "v2" none, .getAllKeys "lport" (some "t1"),
    .deleteKey "lport" "p1" (some "t1"), .getKey "lport" "p1" none]

theorem drivers_meet_contract_ports :
    Throughout (DbSystem.step EtcdDriver.handle) (DbSystem.Answered EtcdDriver.handle)
        portCalls ⟨∅, ∅⟩ ∧
      Throughout (DbSystem.step RedisDriver.handle) (DbSystem.Answered RedisDriver.handle)
        portCalls ⟨∅, ∅⟩ :=
  ⟨(drivers_meet_contract portCalls).1 (by decide +kernel),
    (drivers_meet_contract portCalls).2 (by decide +kernel)⟩

/-- The topic of the key is not the one that is asked for. -/
def otherTopicCalls : List DbCall :=
  [.createKey "lport" "p1" "v" (some "t1"), .getAllKeys "lport" (some "t2")]

/-- The key does not exist. -/
def absentCalls : List DbCall := [.deleteKey "lport" "p1" (some "t1")]

/-- The etcd driver lists a key of another topic. The redis driver deletes a key that
does not exist and says nothing. -/
theorem drivers_break_contract :
    (Throughout (DbSystem.step EtcdDriver.handle)
          (fun system call => system.reference.InScope call) otherTopicCalls ⟨∅, ∅⟩ ∧
        ¬Throughout (DbSystem.step EtcdDriver.handle)
          (DbSystem.Answered EtcdDriver.handle) otherTopicCalls ⟨∅, ∅⟩) ∧
      Throughout (DbSystem.step RedisDriver.handle)
          (fun system call => system.reference.InScope call) absentCalls ⟨∅, ∅⟩ ∧
        ¬Throughout (DbSystem.step RedisDriver.handle)
          (DbSystem.Answered RedisDriver.handle) absentCalls ⟨∅, ∅⟩ := by
  refine ⟨⟨by decide +kernel, ?_⟩, by decide +kernel, ?_⟩
  · rintro ⟨-, ⟨texts, listed, perm⟩, -⟩
    have isNone : texts = [] := List.perm_nil.mp perm
    rw [isNone] at listed
    revert listed
    decide +kernel
  · rintro ⟨answered, -⟩
    have refused : (RedisDriver.handle ∅ (.deleteKey "lport" "p1" (some "t1"))).1 =
        .error .dbKeyNotFound := answered
    cases refused

end Dragonflow
