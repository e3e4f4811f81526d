import Mathlib.Data.List.Sections
import Dragonflow.Db.ModelProxy

/-! # The cache of one index

`_IndexCache` of `dragonflow/db/db_store.py`: computing the keys of an object,
and keeping the tree and the map from ids to keys up to date.
-/

namespace Dragonflow

variable {α : Type}

/-! ## Keys of an object -/

/-- `hash(value)`: neither lists nor model instances nor proxies can be put in
a set. -/
def Value.hash : Value α → Except PyError (Option (Scalar α))
  | .none => .ok Option.none
  | .scalar value => .ok (some value)
  | _ => .error .typeError

namespace IndexCache

/-- One round of the path loop: the next nodes, and whether some attribute was
`None`. -/
def advance (name : FieldName) : List (Value α) →
    Action α (List (Value α) × Bool)
  | [] => pure ([], false)
  | node :: nodes => do
      let attr ← getattr node name
      let rest ← advance name nodes
      return match attr with
        | .list items => (items.toList ++ rest.1, rest.2)
        | .none => (rest.1, true)
        | attr => (attr :: rest.1, rest.2)

def walkPath : FieldPath → List (Value α) → Action α (List (Value α) × Bool)
  | [], nodes => pure (nodes, false)
  | name :: path, nodes => do
      let reached ← advance name nodes
      let rest ← walkPath path reached.1
      return (rest.1, reached.2 || rest.2)

def getKeyElement [DecidableEq α] (object : Object α) (path : FieldPath) :
    Action α (List (Option (Scalar α))) := do
  let reached ← walkPath path [.object object]
  let nodes ← Program.ofExcept (reached.1.mapM Value.hash)
  -- `set(nodes).union(extras)`
  return (if reached.2 then none :: nodes else nodes).dedup

def getKeyElements [DecidableEq α] (object : Object α) :
    Index → Action α (List (List (Option (Scalar α))))
  | [] => pure []
  | path :: index => do
      let values ← getKeyElement object path
      let rest ← getKeyElements object index
      return values :: rest

/-- `_get_keys`; `sections` is `itertools.product`. -/
def getKeys [DecidableEq α] (object : Object α) (index : Index) :
    Action α (List (Key α)) := do
  let keys ← getKeyElements object index
  return keys.sections

theorem advance_keeps (name : FieldName) (nodes : List (Value α)) :
    Program.Keeps World.Alike (advance name nodes) := by
  induction nodes with
  | nil => exact Program.Keeps.pure _
  | cons node nodes induction =>
      exact Program.Keeps.bind (getattr_keeps node name) fun _ =>
        Program.Keeps.bind induction fun _ => Program.Keeps.pure _

theorem advance_readsOnly (name : FieldName) (nodes : List (Value α)) :
    Program.ReadsOnly World.resolve (advance name nodes) := by
  induction nodes with
  | nil => exact Program.ReadsOnly.pure _
  | cons node nodes induction =>
      exact Program.ReadsOnly.bind (getattr_readsOnly node name) fun _ =>
        Program.ReadsOnly.bind induction fun _ => Program.ReadsOnly.pure _

theorem walkPath_keeps (path : FieldPath) (nodes : List (Value α)) :
    Program.Keeps World.Alike (walkPath path nodes) := by
  induction path generalizing nodes with
  | nil => exact Program.Keeps.pure _
  | cons name path induction =>
      exact Program.Keeps.bind (advance_keeps name nodes) fun _ =>
        Program.Keeps.bind (induction _) fun _ => Program.Keeps.pure _

theorem walkPath_readsOnly (path : FieldPath) (nodes : List (Value α)) :
    Program.ReadsOnly World.resolve (walkPath path nodes) := by
  induction path generalizing nodes with
  | nil => exact Program.ReadsOnly.pure _
  | cons name path induction =>
      exact Program.ReadsOnly.bind (advance_readsOnly name nodes) fun _ =>
        Program.ReadsOnly.bind (induction _) fun _ => Program.ReadsOnly.pure _

variable [DecidableEq α]

theorem getKeyElement_keeps (object : Object α) (path : FieldPath) :
    Program.Keeps World.Alike (getKeyElement object path) :=
  Program.Keeps.bind (walkPath_keeps path _) fun _ =>
    Program.Keeps.bind (Program.Keeps.ofExcept _) fun _ => Program.Keeps.pure _

theorem getKeyElement_readsOnly (object : Object α) (path : FieldPath) :
    Program.ReadsOnly World.resolve (getKeyElement object path) :=
  Program.ReadsOnly.bind (walkPath_readsOnly path _) fun _ =>
    Program.ReadsOnly.bind (Program.ReadsOnly.ofExcept _) fun _ =>
      Program.ReadsOnly.pure _

theorem getKeyElements_keeps (object : Object α) (index : Index) :
    Program.Keeps World.Alike (getKeyElements object index) := by
  induction index with
  | nil => exact Program.Keeps.pure _
  | cons path index induction =>
      exact Program.Keeps.bind (getKeyElement_keeps object path) fun _ =>
        Program.Keeps.bind induction fun _ => Program.Keeps.pure _

theorem getKeyElements_readsOnly (object : Object α) (index : Index) :
    Program.ReadsOnly World.resolve (getKeyElements object index) := by
  induction index with
  | nil => exact Program.ReadsOnly.pure _
  | cons path index induction =>
      exact Program.ReadsOnly.bind (getKeyElement_readsOnly object path) fun _ =>
        Program.ReadsOnly.bind induction fun _ => Program.ReadsOnly.pure _

theorem getKeyElements_length (object : Object α) (index : Index)
    (world : World α) :
    Program.Leads (getKeyElements object index) world
      (fun elements _ => elements.length = index.length) (fun _ _ => True) := by
  induction index generalizing world with
  | nil => rfl
  | cons path index induction =>
      refine Program.leads_true.bind ?_
      intro _ after _
      refine (induction after).bind ?_
      intro rest _ length
      simpa using length

omit [DecidableEq α] in
theorem advance_raises (name : FieldName) (nodes : List (Value α)) :
    Program.Raises (· ∈ PyError.readErrors) (advance name nodes) := by
  induction nodes with
  | nil => exact Program.Raises.pure _
  | cons node nodes induction =>
      exact Program.Raises.bind (getattr_raises node name) fun _ =>
        Program.Raises.bind induction fun _ => Program.Raises.pure _

omit [DecidableEq α] in
theorem walkPath_raises (path : FieldPath) (nodes : List (Value α)) :
    Program.Raises (· ∈ PyError.readErrors) (walkPath path nodes) := by
  induction path generalizing nodes with
  | nil => exact Program.Raises.pure _
  | cons name path induction =>
      exact Program.Raises.bind (advance_raises name nodes) fun _ =>
        Program.Raises.bind (induction _) fun _ => Program.Raises.pure _

omit [DecidableEq α] in
theorem mapM_hash_raises {nodes : List (Value α)} {error : PyError}
    (raised : nodes.mapM Value.hash = .error error) :
    error ∈ PyError.readErrors := by
  induction nodes with
  | nil => cases raised
  | cons node nodes induction =>
      rw [List.mapM_cons] at raised
      cases hashed : node.hash with
      | error other =>
          rw [hashed] at raised
          cases raised
          cases node <;> cases hashed <;> decide
      | ok value =>
          rw [hashed] at raised
          cases rest : nodes.mapM Value.hash with
          | error other =>
              rw [rest] at raised
              cases raised
              exact induction rest
          | ok values =>
              rw [rest] at raised
              cases raised

theorem getKeyElement_raises (object : Object α) (path : FieldPath) :
    Program.Raises (· ∈ PyError.readErrors) (getKeyElement object path) :=
  Program.Raises.bind (walkPath_raises path _) fun _ =>
    Program.Raises.bind
      (Program.Raises.ofExcept fun _ raised => mapM_hash_raises raised)
      fun _ => Program.Raises.pure _

theorem getKeyElements_raises (object : Object α) (index : Index) :
    Program.Raises (· ∈ PyError.readErrors) (getKeyElements object index) := by
  induction index with
  | nil => exact Program.Raises.pure _
  | cons path index induction =>
      exact Program.Raises.bind (getKeyElement_raises object path) fun _ =>
        Program.Raises.bind induction fun _ => Program.Raises.pure _

/-- Computing keys raises nothing but what reading attributes can raise. -/
theorem getKeys_raises (object : Object α) (index : Index) :
    Program.Raises (· ∈ PyError.readErrors) (getKeys object index) :=
  Program.Raises.bind (getKeyElements_raises object index) fun _ =>
    Program.Raises.pure _

/-- Computing keys changes nothing that could be observed. -/
theorem getKeys_keeps (object : Object α) (index : Index) :
    Program.Keeps World.Alike (getKeys object index) :=
  Program.Keeps.bind (getKeyElements_keeps object index) fun _ =>
    Program.Keeps.pure _

/-- The keys depend on what the proxies stand for, and on nothing else. -/
theorem getKeys_readsOnly (object : Object α) (index : Index) :
    Program.ReadsOnly World.resolve (getKeys object index) :=
  Program.ReadsOnly.bind (getKeyElements_readsOnly object index) fun _ =>
    Program.ReadsOnly.pure _

end IndexCache

/-- The key product of an object, as `_get_keys` computes it in this world. -/
def World.keysAt [DecidableEq α] (world : World α) (object : Object α)
    (index : Index) : Except PyError (List (Key α)) :=
  (Program.exec (IndexCache.getKeys object index) world).1

theorem World.keysAt_congr [DecidableEq α] {before after : World α}
    (same : after.resolve = before.resolve) (object : Object α) :
    after.keysAt object = before.keysAt object := by
  funext index
  exact (IndexCache.getKeys_readsOnly object index before).2 after same

theorem World.length_of_mem_keysAt [DecidableEq α] {world : World α}
    {object : Object α} {index : Index} {keys : List (Key α)}
    (computed : world.keysAt object index = .ok keys) {key : Key α}
    (member : key ∈ keys) : key.length = index.length := by
  unfold World.keysAt at computed
  have leads : Program.Leads (IndexCache.getKeys object index) world
      (fun keys _ => ∀ key ∈ keys, key.length = index.length)
      (fun _ _ => True) := by
    refine (IndexCache.getKeyElements_length object index world).bind ?_
    intro elements _ length key member
    exact (List.mem_sections_length member).trans length
  rcases executed : Program.exec (IndexCache.getKeys object index) world with
    ⟨result, after⟩
  rw [executed] at computed
  exact leads.of_ok (executed.trans (congrArg (·, after) computed)) key member

theorem World.keysAt_raises [DecidableEq α] {world : World α}
    {object : Object α} {index : Index} {error : PyError}
    (raised : world.keysAt object index = .error error) :
    error ∈ PyError.readErrors := by
  unfold World.keysAt at raised
  rcases executed : Program.exec (IndexCache.getKeys object index) world with
    ⟨result, after⟩
  rw [executed] at raised
  exact (IndexCache.getKeys_raises object index world).of_error
    (executed.trans (congrArg (·, after) raised))

/-- Running `_get_keys` returns the key product, or raises what it raises. -/
theorem IndexCache.getKeys_leads [DecidableEq α] (object : Object α)
    (index : Index) (world : World α) :
    Program.Leads (IndexCache.getKeys object index) world
      (fun keys after => world.keysAt object index = .ok keys ∧
        World.Alike world after)
      (fun error after => world.keysAt object index = .error error ∧
        World.Alike world after) := by
  have alike := IndexCache.getKeys_keeps object index world
  unfold World.keysAt Program.Leads
  rcases executed : Program.exec (IndexCache.getKeys object index) world with
    ⟨error | keys, after⟩
  · rw [executed] at alike
    exact ⟨rfl, alike⟩
  · rw [executed] at alike
    exact ⟨rfl, alike⟩

/-! ## The tree and the keys by id -/

namespace IndexCache

variable {index : Index} [DecidableEq α]

def setAll (tree : RadixTree (Scalar α) Id index.length) (keys : List (Key α))
    (id : Id) : RadixTree (Scalar α) Id index.length :=
  keys.foldl (fun tree key => tree.set index.length key id) tree

def deleteAll (tree : RadixTree (Scalar α) Id index.length)
    (keys : List (Key α)) (id : Id) : RadixTree (Scalar α) Id index.length :=
  keys.foldl (fun tree key => tree.delete index.length key id) tree

/-- `update`, once the new keys are computed. -/
def update (cache : IndexCache α index) (id : Id) (newKeys : List (Key α)) :
    IndexCache α index :=
  let oldKeys := cache.keys.members id
  let addedKeys := newKeys.filter (· ∉ oldKeys)
  let deletedKeys := oldKeys.filter (· ∉ newKeys)
  { tree := deleteAll (setAll cache.tree addedKeys id) deletedKeys id
    keys := cache.keys.insert id newKeys }

/-- Keys that are recorded already are not re-inserted. -/
theorem update_tree {cache : IndexCache α index} {id : Id}
    {newKeys : List (Key α)}
    (same : ∀ key, key ∈ cache.keys.members id ↔ key ∈ newKeys) :
    (cache.update id newKeys).tree = cache.tree := by
  have noneAdded : newKeys.filter (· ∉ cache.keys.members id) = [] := by
    rw [List.filter_eq_nil_iff]
    intro key member
    simpa using (same key).mpr member
  have noneDeleted : (cache.keys.members id).filter (· ∉ newKeys) = [] := by
    rw [List.filter_eq_nil_iff]
    intro key member
    simpa using (same key).mp member
  simp only [update, noneAdded, noneDeleted]
  rfl

/-- `delete`, for an id whose keys were popped. -/
def delete (cache : IndexCache α index) (id : Id) (keys : List (Key α)) :
    IndexCache α index where
  tree := deleteAll cache.tree keys id
  keys := cache.keys.erase id

/-- `get_all`, for the keys of the query object. -/
def getAll (cache : IndexCache α index) (queries : List (Key α)) : List Id :=
  queries.flatMap fun query => cache.tree.getAll index.length query

/-- The tree holds each id under exactly the keys recorded for it. -/
structure Faithful (cache : IndexCache α index) : Prop where
  deep : ∀ id keys, cache.keys.lookup id = some keys →
    ∀ key ∈ keys, key.length = index.length
  tree : ∀ id key, id ∈ cache.tree.valuesAt index.length key ↔
    key ∈ cache.keys.members id

theorem faithful_new : Faithful (IndexCache.new index : IndexCache α index) where
  deep id keys found := by simp [IndexCache.new] at found
  tree id key := by simp [IndexCache.new]

theorem mem_valuesAt_setAll (keys : List (Key α)) (id : Id)
    (deep : ∀ key ∈ keys, key.length = index.length)
    (tree : RadixTree (Scalar α) Id index.length) (found : Id) (key : Key α) :
    found ∈ (setAll tree keys id).valuesAt index.length key ↔
      (key ∈ keys ∧ found = id) ∨
        found ∈ tree.valuesAt index.length key := by
  induction keys generalizing tree with
  | nil => simp [setAll]
  | cons head keys induction =>
      rw [setAll, List.foldl_cons, ← setAll,
        induction (fun other member => deep other (by simp [member])),
        RadixTree.mem_valuesAt_set _ _ _ _ _ _ (deep head (by simp))]
      simp only [List.mem_cons]
      tauto

theorem mem_valuesAt_deleteAll (keys : List (Key α)) (id : Id)
    (deep : ∀ key ∈ keys, key.length = index.length)
    (tree : RadixTree (Scalar α) Id index.length) (found : Id) (key : Key α) :
    found ∈ (deleteAll tree keys id).valuesAt index.length key ↔
      found ∈ tree.valuesAt index.length key ∧ ¬(key ∈ keys ∧ found = id) := by
  induction keys generalizing tree with
  | nil => simp [deleteAll]
  | cons head keys induction =>
      rw [deleteAll, List.foldl_cons, ← deleteAll,
        induction (fun other member => deep other (by simp [member])),
        RadixTree.mem_valuesAt_delete _ _ _ _ _ _ (deep head (by simp))]
      simp only [List.mem_cons]
      tauto

theorem Faithful.members_deep {cache : IndexCache α index}
    (faithful : cache.Faithful) (id : Id) (key : Key α)
    (member : key ∈ cache.keys.members id) : key.length = index.length := by
  unfold Dict.members at member
  cases found : cache.keys.lookup id with
  | none => simp [found] at member
  | some keys =>
      rw [found] at member
      exact faithful.deep id keys found key member

theorem Faithful.update {cache : IndexCache α index}
    (faithful : cache.Faithful) (id : Id) (newKeys : List (Key α))
    (deep : ∀ key ∈ newKeys, key.length = index.length) :
    (cache.update id newKeys).Faithful where
  deep other keys found key member := by
    simp only [IndexCache.update, Dict.lookup_insert_eq] at found
    split at found
    · cases found
      exact deep key member
    · exact faithful.deep other keys found key member
  tree other key := by
    simp only [IndexCache.update, Dict.members_insert]
    rw [mem_valuesAt_deleteAll, mem_valuesAt_setAll, faithful.tree]
    · by_cases same : other = id
      · subst same
        simp only [if_true, List.mem_filter, decide_eq_true_eq]
        tauto
      · simp [same]
    · intro added member
      exact deep added (List.mem_filter.mp member).1
    · intro removed member
      exact faithful.members_deep id removed (List.mem_filter.mp member).1

theorem Faithful.delete {cache : IndexCache α index}
    (faithful : cache.Faithful) {id : Id} {keys : List (Key α)}
    (recorded : cache.keys.lookup id = some keys) :
    (cache.delete id keys).Faithful where
  deep other others found key member := by
    simp only [IndexCache.delete, Dict.lookup_erase_eq] at found
    split at found
    · cases found
    · exact faithful.deep other others found key member
  tree other key := by
    simp only [IndexCache.delete, Dict.members_erase]
    rw [mem_valuesAt_deleteAll _ _ (faithful.deep id keys recorded),
      faithful.tree]
    by_cases same : other = id
    · subst same
      simp [Dict.members, recorded]
    · simp [same]

/-- A query finds an id iff one of its keys matches one recorded for the id. -/
theorem Faithful.mem_getAll {cache : IndexCache α index}
    (faithful : cache.Faithful) (queries : List (Key α))
    (deep : ∀ query ∈ queries, query.length = index.length) (id : Id) :
    id ∈ cache.getAll queries ↔
      ∃ query ∈ queries, ∃ key ∈ cache.keys.members id,
        RadixTree.Matches query key := by
  unfold IndexCache.getAll
  rw [List.mem_flatMap]
  apply exists_congr
  intro query
  apply and_congr_right
  intro member
  rw [RadixTree.mem_getAll _ _ _ _ (deep query member)]
  simp only [faithful.tree]
  apply exists_congr
  intro key
  exact and_comm

end IndexCache

end Dragonflow
