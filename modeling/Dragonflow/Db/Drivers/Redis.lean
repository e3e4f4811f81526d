import Dragonflow.Db.Drivers.DbApi

/-! # The redis driver

`dragonflow/db/drivers/redis_db_driver.py` on a single node that answers every request.
The batches in which a bulk operation reads its keys, and the retries, leave no trace
then. Sets of keys are lists here; their order carries no meaning.
-/

namespace Dragonflow

/-- The server, as the client of the driver sees it. -/
abbrev RedisStore := Dict String String

namespace RedisStore

/-- The bytes of a text, written as characters. -/
def bytesOf (text : String) : List Char :=
  text.toUTF8.toList.map fun byte => Char.ofNat byte.toNat

/-- A byte is a signed number in a range. -/
def signed (byte : Char) : Int :=
  if byte.toNat < 128 then byte.toNat else byte.toNat - 256

/-- A class of bytes in a pattern, after its opening bracket. Returns whether the byte is
in the class, and the rest of the pattern. -/
def matchClass (char : Char) : List Char → Bool × List Char
  | [] => (false, [])
  | '\\' :: escaped :: pattern =>
      let (isIn, rest) := matchClass char pattern
      (escaped = char || isIn, rest)
  | ']' :: pattern => (false, pattern)
  | first :: '-' :: last :: pattern =>
      let (isIn, rest) := matchClass char pattern
      ((min (signed first) (signed last) ≤ signed char &&
        signed char ≤ max (signed first) (signed last)) || isIn, rest)
  | single :: pattern =>
      let (isIn, rest) := matchClass char pattern
      (single = char || isIn, rest)

/-- The patterns of `SCAN`. The fuel is at least the length of the two texts. -/
def matchChars : Nat → List Char → List Char → Bool
  | 0, pattern, text => pattern.isEmpty && text.isEmpty
  | _ + 1, [], text => text.isEmpty
  | fuel + 1, '*' :: pattern, [] => matchChars fuel pattern []
  | fuel + 1, '*' :: pattern, char :: text =>
      matchChars fuel pattern (char :: text) || matchChars fuel ('*' :: pattern) text
  | fuel + 1, '?' :: pattern, _ :: text => matchChars fuel pattern text
  | fuel + 1, '[' :: '^' :: pattern, char :: text =>
      let (isIn, rest) := matchClass char pattern
      !isIn && matchChars fuel rest text
  | fuel + 1, '[' :: pattern, char :: text =>
      let (isIn, rest) := matchClass char pattern
      isIn && matchChars fuel rest text
  | fuel + 1, '\\' :: escaped :: pattern, char :: text =>
      escaped = char && matchChars fuel pattern text
  | fuel + 1, literal :: pattern, char :: text =>
      literal = char && matchChars fuel pattern text
  | _ + 1, _ :: _, [] => false

def stringMatch (pattern text : String) : Bool :=
  matchChars ((bytesOf pattern).length + (bytesOf text).length) (bytesOf pattern)
    (bytesOf text)

/-- The keys that match a pattern, with their values. -/
def matching (store : RedisStore) (pattern : String) : List ((_ : String) × String) :=
  store.entries.filter fun entry => stringMatch pattern entry.1

end RedisStore

namespace RedisDriver

/-- `_key_name` -/
def keyName (table : String) (topic : Option String) (key : String) : String :=
  "\x7b" ++ table ++ "." ++ topic.getD "" ++ "\x7d" ++ key

/-- The pattern of `_query_info`. -/
def queryPattern (table : String) (topic : Option String) (key : String := "") : String :=
  let keyPattern := if key = "" then "*" else key
  match topic with
  | none => keyName table (some "*") keyPattern
  | some topic => keyName table (some topic) keyPattern

/-- `_scan` -/
def scan (store : RedisStore) (table : String) (topic : Option String)
    (key : String := "") : List String :=
  (store.matching (queryPattern table topic key)).map Sigma.fst

/-- `_key_name_infer_topic` -/
def keyNameInferTopic (store : RedisStore) (table key : String) : Except PyError String :=
  match scan store table none key with
  | [name] => .ok name
  | _ => .error .dbKeyNotFound

/-- `_get_key_topic` -/
def getKeyTopic (store : RedisStore) (table key topic : String) : Except PyError String :=
  match store.lookup (keyName table (some topic) key) with
  | some value => .ok value
  | none => .error .dbKeyNotFound

/-- `_get_key_notopic` -/
def getKeyNotopic (store : RedisStore) (table key : String) : Except PyError String :=
  match (store.matching (queryPattern table none key)).map Sigma.snd with
  | [value] => .ok value
  | _ => .error .dbKeyNotFound

def getKey (store : RedisStore) (table key : String) (topic : Option String) :
    Except PyError String :=
  match topic with
  | none => getKeyNotopic store table key
  | some topic => getKeyTopic store table key topic

/-- The name that `set_key` and `delete_key` write to. -/
def realKey (store : RedisStore) (table key : String) (topic : Option String) :
    Except PyError String :=
  match topic with
  | none => keyNameInferTopic store table key
  | some topic => .ok (keyName table (some topic) key)

def setKey (store : RedisStore) (table key value : String) (topic : Option String) :
    Except PyError Unit × RedisStore :=
  match realKey store table key topic with
  | .error error => (.error error, store)
  | .ok name => (.ok (), store.insert name value)

def createKey (store : RedisStore) (table key value : String) (topic : Option String) :
    RedisStore :=
  store.insert (keyName table topic key) value

/-- How many keys `DEL` deleted is not asked. -/
def deleteKey (store : RedisStore) (table key : String) (topic : Option String) :
    Except PyError Unit × RedisStore :=
  match realKey store table key topic with
  | .error error => (.error error, store)
  | .ok name => (.ok (), store.erase name)

def getAllEntries (store : RedisStore) (table : String) (topic : Option String) :
    List String :=
  (store.matching (queryPattern table topic)).map Sigma.snd

/-- What follows the last closing brace that something follows. -/
def afterLastBrace : List Char → Option (List Char)
  | [] => none
  | char :: chars =>
      match afterLastBrace chars with
      | some rest => some rest
      | none => if char = '\x7d' ∧ chars ≠ [] then some chars else none

/-- `_strip_table_topic`. The expression `^{.+}(.+)$` takes as much as it can for the
first part, and stops at the end of a line. -/
def stripTableTopic (name : String) : String :=
  let line :=
    if name.toList.getLast? = some '\n' then name.toList.dropLast else name.toList
  match line with
  | '\x7b' :: first :: rest =>
      if '\n' ∈ first :: rest then name
      else
        match afterLastBrace rest with
        | some key => String.ofList key
        | none => name
  | _ => name

def getAllKeys (store : RedisStore) (table : String) (topic : Option String) :
    List String :=
  (scan store table topic).map stripTableTopic

def handle (store : RedisStore) : DbCall → DbResult × RedisStore
  | .getKey table key topic => ((getKey store table key topic).map .value, store)
  | .setKey table key value topic =>
      let (result, store) := setKey store table key value topic
      (result.map fun _ => .done, store)
  | .createKey table key value topic => (.ok .done, createKey store table key value topic)
  | .deleteKey table key topic =>
      let (result, store) := deleteKey store table key topic
      (result.map fun _ => .done, store)
  | .getAllEntries table topic => (.ok (.values (getAllEntries store table topic)), store)
  | .getAllKeys table topic => (.ok (.values (getAllKeys store table topic)), store)

end RedisDriver

end Dragonflow
