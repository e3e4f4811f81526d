import Dragonflow.Db.ModelFramework
import Dragonflow.Foundation.Dict
import Dragonflow.Foundation.Steps

/-! # What database drivers have to answer

The calls of `DbApi` in `dragonflow/db/db_api.py` that read and write keys, and a
reference for them: a map from tables and keys to topics and values.
-/

namespace Dragonflow

inductive DbCall
  | getKey (table key : String) (topic : Option String)
  | setKey (table key value : String) (topic : Option String)
  | createKey (table key value : String) (topic : Option String)
  | deleteKey (table key : String) (topic : Option String)
  | getAllEntries (table : String) (topic : Option String)
  | getAllKeys (table : String) (topic : Option String)
  deriving DecidableEq, Repr

inductive DbAnswer
  | done
  | value (text : String)
  | values (texts : List String)
  deriving DecidableEq, Repr

abbrev DbResult := Except PyError DbAnswer

/-- The topic is empty if none was given. -/
structure DbEntry where
  topic : String
  value : String
  deriving DecidableEq, Repr

abbrev DbReference := Dict (String × String) DbEntry

namespace DbReference

/-- The key belongs to the table, and has the topic if one is given. -/
def wanted (table : String) (topic : Option String) (item : (_ : String × String) × DbEntry) :
    Bool :=
  item.1.1 = table && topic.all fun topic => item.2.topic = topic

def select (reference : DbReference) (table : String) (topic : Option String) :
    List ((_ : String × String) × DbEntry) :=
  reference.entries.filter (wanted table topic)

/-- A key keeps the topic it was created with: other calls give the same topic, or none. -/
def SameTopic (reference : DbReference) (table key : String) (topic : Option String) :
    Prop :=
  ∀ entry, reference.lookup (table, key) = some entry →
    topic = none ∨ topic = some entry.topic

def InScope (reference : DbReference) : DbCall → Prop
  | .getKey table key topic => reference.SameTopic table key topic
  | .setKey table key _ topic => reference.SameTopic table key topic
  | .createKey table key _ topic => reference.SameTopic table key topic
  | .deleteKey table key topic => reference.SameTopic table key topic
  | .getAllEntries _ _ => True
  | .getAllKeys _ _ => True

instance (reference : DbReference) (table key : String) (topic : Option String) :
    Decidable (reference.SameTopic table key topic) :=
  inferInstanceAs (Decidable (∀ entry ∈ reference.lookup (table, key), _ ∨ _))

instance (reference : DbReference) (call : DbCall) : Decidable (reference.InScope call) :=
  match call with
  | .getKey _ _ _ => inferInstanceAs (Decidable (reference.SameTopic _ _ _))
  | .setKey _ _ _ _ => inferInstanceAs (Decidable (reference.SameTopic _ _ _))
  | .createKey _ _ _ _ => inferInstanceAs (Decidable (reference.SameTopic _ _ _))
  | .deleteKey _ _ _ => inferInstanceAs (Decidable (reference.SameTopic _ _ _))
  | .getAllEntries _ _ => isTrue trivial
  | .getAllKeys _ _ => isTrue trivial

/-- The right answers to a call. A driver may refuse to set a key that does not exist. -/
def Answers (reference : DbReference) (call : DbCall) (result : DbResult) : Prop :=
  match call with
  | .getKey table key _ =>
      match reference.lookup (table, key) with
      | none => result = .error .dbKeyNotFound
      | some entry => result = .ok (.value entry.value)
  | .setKey table key _ _ =>
      result = .ok .done ∨
        reference.lookup (table, key) = none ∧ result = .error .dbKeyNotFound
  | .createKey _ _ _ _ => result = .ok .done
  | .deleteKey table key _ =>
      match reference.lookup (table, key) with
      | none => result = .error .dbKeyNotFound
      | some _ => result = .ok .done
  | .getAllEntries table topic =>
      ∃ texts, result = .ok (.values texts) ∧
        texts.Perm ((reference.select table topic).map fun item => item.2.value)
  | .getAllKeys table topic =>
      ∃ texts, result = .ok (.values texts) ∧
        texts.Perm ((reference.select table topic).map fun item => item.1.2)

/-- The topic that a key has after it was written. -/
def topicAfter (reference : DbReference) (table key : String) (topic : Option String) :
    String :=
  match reference.lookup (table, key) with
  | some entry => entry.topic
  | none => topic.getD ""

def write (reference : DbReference) (table key value : String) (topic : Option String) :
    DbReference :=
  reference.insert (table, key) ⟨reference.topicAfter table key topic, value⟩

/-- A call that raises writes nothing. -/
def after (reference : DbReference) (call : DbCall) (result : DbResult) : DbReference :=
  match result, call with
  | .error _, _ => reference
  | .ok _, .setKey table key value topic => reference.write table key value topic
  | .ok _, .createKey table key value topic => reference.write table key value topic
  | .ok _, .deleteKey table key _ => reference.erase (table, key)
  | .ok _, _ => reference

/-- The calls that only read. -/
def Reads : DbCall → Prop
  | .getKey _ _ _ => True
  | .getAllEntries _ _ => True
  | .getAllKeys _ _ => True
  | _ => False

theorem after_reads (reference : DbReference) {call : DbCall} (reads : Reads call)
    (result : DbResult) : reference.after call result = reference := by
  cases result <;> cases call <;> first | rfl | exact reads.elim

end DbReference

/-- A driver next to its reference. -/
structure DbSystem (σ : Type) where
  store : σ
  reference : DbReference

namespace DbSystem

variable {σ : Type}

def step (handle : σ → DbCall → DbResult × σ) (system : DbSystem σ) (call : DbCall) :
    Option (DbSystem σ) :=
  let (result, store) := handle system.store call
  some { store, reference := system.reference.after call result }

/-- The driver answers as the reference does. -/
def Answered (handle : σ → DbCall → DbResult × σ) (system : DbSystem σ) (call : DbCall) :
    Prop :=
  system.reference.Answers call (handle system.store call).1

end DbSystem

end Dragonflow
