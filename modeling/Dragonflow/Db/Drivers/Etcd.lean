import Dragonflow.Db.Drivers.DbApi
import Dragonflow.Db.ModelFramework
import Dragonflow.Foundation.Clients
import Dragonflow.Foundation.Dict

/-! # The etcd driver

`dragonflow/db/drivers/etcd_db_driver.py`. One flat space of keys holds the objects of
all tables.
-/

namespace Dragonflow

/-- `UNIQUE_KEY_TABLE` -/
def uniqueKeyTable : String := "unique_key"

/-- The server, as the client of the driver sees it. -/
abbrev EtcdStore (ν : Type) := Dict String ν

namespace EtcdStore

variable {ν : Type}

/-- `client.create`, which reports whether the key was absent. -/
def create (store : EtcdStore ν) (key : String) (value : ν) : Bool × EtcdStore ν :=
  match store.lookup key with
  | some _ => (false, store)
  | none => (true, store.insert key value)

/-- `client.replace`, which reports whether the key had the initial value. -/
def replace [DecidableEq ν] (store : EtcdStore ν) (key : String) (initial new : ν) :
    Bool × EtcdStore ν :=
  if store.lookup key = some initial then (true, store.insert key new) else (false, store)

end EtcdStore

namespace EtcdDriver

/-- `_make_key` -/
def makeKey (table : String) (objId : String := "") : String :=
  if objId ≠ "" then "/" ++ table ++ "/" ++ objId else "/" ++ table ++ "/"

/-- `_get_key` -/
def getRawKey {ν : Type} (store : EtcdStore ν) (tableKey : String) : Except PyError ν :=
  match store.lookup tableKey with
  | some value => .ok value
  | none => .error .dbKeyNotFound

/-! ## Keys and values

Topics are not used. Values and keys come as bytes and are decoded. -/

def getKey (store : EtcdStore String) (table key : String) : Except PyError String :=
  getRawKey store (makeKey table key)

def setKey (store : EtcdStore String) (table key value : String) : EtcdStore String :=
  store.insert (makeKey table key) value

def createKey (store : EtcdStore String) (table key value : String) : EtcdStore String :=
  store.insert (makeKey table key) value

def deleteKey (store : EtcdStore String) (table key : String) :
    Except PyError Unit × EtcdStore String :=
  match store.lookup (makeKey table key) with
  | some _ => (.ok (), store.erase (makeKey table key))
  | none => (.error .dbKeyNotFound, store)

/-- `client.get_prefix` -/
def getPrefix (store : EtcdStore String) (start : String) : List ((_ : String) × String) :=
  store.entries.filter fun entry => start.toList.isPrefixOf entry.1.toList

def getAllEntries (store : EtcdStore String) (table : String) : List String :=
  ((getPrefix store (makeKey table)).map Sigma.snd).filter fun value => value ≠ ""

/-- Leave out the first bytes of a text, and decode the rest. -/
def sliceBytes : Nat → List Char → Except PyError (List Char)
  | 0, chars => .ok chars
  | _ + 1, [] => .ok []
  | count + 1, char :: chars =>
      if char.utf8Size ≤ count + 1 then sliceBytes (count + 1 - char.utf8Size) chars
      else .error .valueError

/-- The key in a name. The length of the table's name is counted in characters. -/
def keyOf (table text : String) : Except PyError String := do
  let chars ← sliceBytes (table.length + 2) text.toList
  return String.ofList chars

def getAllKeys (store : EtcdStore String) (table : String) : Except PyError (List String) :=
  (getPrefix store (makeKey table)).mapM fun entry => keyOf table entry.1

def handle (store : EtcdStore String) : DbCall → DbResult × EtcdStore String
  | .getKey table key _ => ((getKey store table key).map .value, store)
  | .setKey table key value _ => (.ok .done, setKey store table key value)
  | .createKey table key value _ => (.ok .done, createKey store table key value)
  | .deleteKey table key _ =>
      let (result, store) := deleteKey store table key
      (result.map fun _ => .done, store)
  | .getAllEntries table _ => (.ok (.values (getAllEntries store table)), store)
  | .getAllKeys table _ => ((getAllKeys store table).map .values, store)

/-! ## Unique keys -/

/-- Where a call of `allocate_unique_key` is between its requests. -/
inductive Phase
  | get
  | create
  | replace (prevValue : Int)
  deriving DecidableEq, Repr

/-- `allocate_unique_key`. What raises `RuntimeError` in `_allocate_unique_key` starts
again. The store keeps the numbers that `str` and `int` convert to texts and back. -/
def allocateUniqueKey : Operation (EtcdStore Int) String Phase Int PyError where
  start := .get
  access table phase store :=
    let tableKey := makeKey uniqueKeyTable table
    match phase with
    | .get =>
        match getRawKey store tableKey with
        | .error _ => (.goOn .create, store)
        | .ok prevValue => (.goOn (.replace prevValue), store)
    | .create =>
        match store.create tableKey 1 with
        | (true, store) => (.returned 1, store)
        | (false, store) => (.goOn .get, store)
    | .replace prevValue =>
        match store.replace tableKey prevValue (prevValue + 1) with
        | (true, store) => (.returned (prevValue + 1), store)
        | (false, store) => (.goOn .get, store)

end EtcdDriver

end Dragonflow
