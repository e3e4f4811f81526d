import Dragonflow.Db.Drivers.Etcd

/-! # The zookeeper driver

The unique keys of `dragonflow/db/drivers/zookeeper_db_driver.py`.
-/

namespace Dragonflow

/-- A node of the tree. Its data is the text of a number, or nothing. Every `set`
increments its version. -/
structure ZookeeperNode where
  value : Option Int
  version : Nat := 0
  deriving DecidableEq, Repr

/-- The nodes by path. -/
abbrev ZookeeperTree := Dict String ZookeeperNode

/-- What `set` of the client can raise. -/
inductive ZookeeperError
  | noNode
  | badVersion
  deriving DecidableEq, Repr

namespace ZookeeperTree

/-- The paths above a path, the uppermost first. -/
def ancestors (path : String) : List String :=
  let names := path.splitOn "/"
  (List.range (names.length - 1)).tail.map fun depth => "/".intercalate (names.take (depth + 1))

/-- `makepath`: nodes that are missing above the path are made without data. -/
def makePath (tree : ZookeeperTree) (path : String) : ZookeeperTree :=
  (ancestors path).foldl
    (fun tree above =>
      match tree.lookup above with
      | some _ => tree
      | none => tree.insert above { value := none }) tree

/-- `client.create` with `makepath`. It raises `NodeExistsError` if there is a node. -/
def create (tree : ZookeeperTree) (path : String) (value : Int) : Option ZookeeperTree :=
  match tree.lookup path with
  | some _ => none
  | none => some ((tree.makePath path).insert path { value := some value })

/-- `client.set` with a version. -/
def set (tree : ZookeeperTree) (path : String) (value : Int) (version : Nat) :
    Except ZookeeperError ZookeeperTree :=
  match tree.lookup path with
  | none => .error .noNode
  | some node =>
      if node.version = version then
        .ok (tree.insert path { value := some value, version := version + 1 })
      else .error .badVersion

end ZookeeperTree

namespace ZookeeperDriver

/-- `ROOT_NS` -/
def rootNs : String := "/openstack"

/-- `_generate_path` -/
def generatePath (table key : String) : String :=
  if key = "" then rootNs ++ "/" ++ table else rootNs ++ "/" ++ table ++ "/" ++ key

/-- Where a call of `allocate_unique_key` is between its requests. -/
inductive Phase
  | get
  | set (prevValue : Int) (prevVersion : Nat)
  | create
  deriving DecidableEq, Repr

/-- `allocate_unique_key`. That the node exists when it is created is not handled. -/
def allocateUniqueKey : Operation ZookeeperTree String Phase Int PyError where
  start := .get
  access table phase tree :=
    let path := generatePath uniqueKeyTable table
    match phase with
    | .get =>
        match tree.lookup path with
        | none => (.goOn .create, tree)
        | some node =>
            match node.value with
            | none => (.raised .valueError, tree)
            | some prevValue => (.goOn (.set prevValue node.version), tree)
    | .set prevValue prevVersion =>
        match tree.set path (prevValue + 1) prevVersion with
        | .ok tree => (.returned (prevValue + 1), tree)
        | .error .badVersion => (.goOn .get, tree)
        | .error .noNode => (.goOn .create, tree)
    | .create =>
        match tree.create path 1 with
        | some tree => (.returned 1, tree)
        | none => (.raised .nodeExists, tree)

end ZookeeperDriver

end Dragonflow
