import Dragonflow.Controller.RemotePorts
import Dragonflow.Db.IndexCache

/-! # Indexes of one path

An index of one path stands for a cache whose tree has one level: the calls on both keep
the same ids under the same keys, and queries find the same ids.
-/

namespace Dragonflow

namespace PathIndex

variable {α : Type} {path : FieldPath}

/-- The key of an object, with the one element that it has here. -/
def keyFor (element : Option String) : Key α := [element.map .str]

theorem keyFor_inj {first second : Option String} :
    (keyFor first : Key α) = keyFor second ↔ first = second := by
  cases first <;> cases second <;> simp [keyFor]

theorem length_keyFor (element : Option String) :
    (keyFor element : Key α).length = [path].length := rfl

variable [DecidableEq α] {index : PathIndex} {cache : IndexCache α [path]}
  {keyOf : Id → Option (Option String)}

/-- What the tree and the keys of the cache have, the index has. -/
structure Represents (index : PathIndex) (cache : IndexCache α [path]) : Prop where
  keys : ∀ id, cache.keys.lookup id =
    (index.keys.lookup id).map fun element => [keyFor element]
  tree : ∀ element id,
    id ∈ cache.tree.valuesAt [path].length (keyFor element) ↔ id ∈ index.tree element

theorem represents_new :
    Represents ⟨fun _ => [], ∅⟩ (IndexCache.new [path] : IndexCache α [path]) where
  keys _ := rfl
  tree element id := by simp [IndexCache.new]

theorem Represents.members (represents : Represents index cache) (id : Id) :
    cache.keys.members id = ((index.keys.lookup id).map keyFor).toList := by
  unfold Dict.members
  rw [represents.keys]
  cases index.keys.lookup id <;> rfl

theorem update_keys (index : PathIndex) (id : Id) (newKey : Option String) :
    (index.update id newKey).keys = index.keys.insert id newKey := by
  unfold update
  split
  · rfl
  · split <;> rfl

/-- The leaf sets after an update, as those of the tree: the id is under the new key, and
under no other key that it was under. -/
theorem mem_update_tree (consistent : index.Consistent keyOf) (id : Id)
    (newKey element : Option String) (found : Id) :
    found ∈ (index.update id newKey).tree element ↔
      if found = id then element = newKey else found ∈ index.tree element := by
  rw [(consistent.update id newKey).mem_tree, Function.update_apply, consistent.mem_tree]
  by_cases same : found = id
  · rw [if_pos same, if_pos same, Option.some.injEq, eq_comm]
  · rw [if_neg same, if_neg same]

theorem Represents.update (represents : Represents index cache)
    (consistent : index.Consistent keyOf) (id : Id) (newKey : Option String) :
    Represents (index.update id newKey) (cache.update id [keyFor newKey]) where
  keys other := by
    rw [update_keys]
    unfold IndexCache.update
    rw [Dict.lookup_insert_eq, Dict.lookup_insert_eq, represents.keys]
    split <;> rfl
  tree element found := by
    rw [mem_update_tree consistent]
    simp only [IndexCache.update]
    rw [IndexCache.mem_valuesAt_deleteAll, IndexCache.mem_valuesAt_setAll, represents.tree,
      represents.members]
    · by_cases same : found = id
      · -- The old key of the id, if it has one, is the only one it is under.
        subst same
        rw [if_pos rfl, consistent.mem_tree, consistent.keys]
        cases keyOf found with
        | none => simp [keyFor_inj]
        | some oldKey =>
            by_cases sameKey : oldKey = newKey
            · simp [sameKey, eq_comm]
            · grind [keyFor_inj]
      · simp [same]
    · intro added member
      rw [List.mem_singleton.mp (List.mem_filter.mp member).1]
      exact length_keyFor newKey
    · intro removed member
      have recorded := (List.mem_filter.mp member).1
      rw [represents.members, Option.mem_toList] at recorded
      rcases Option.map_eq_some_iff.mp recorded with ⟨oldKey, _, rfl⟩
      exact length_keyFor oldKey

theorem Represents.delete (represents : Represents index cache)
    (consistent : index.Consistent keyOf) {id : Id} {element : Option String}
    (isKey : keyOf id = some element) :
    cache.keys.lookup id = some [keyFor element] ∧
      ∃ after, index.delete id = .ok after ∧
        Represents after (cache.delete id [keyFor element]) := by
  have deleted := consistent.delete isKey
  refine ⟨by rw [represents.keys, consistent.keys, isKey]; rfl, _,
    consistent.delete_ok isKey, ?_, ?_⟩
  · intro other
    change (cache.keys.erase id).lookup other = ((index.keys.erase id).lookup other).map _
    rw [Dict.lookup_erase_eq, Dict.lookup_erase_eq, represents.keys]
    split <;> rfl
  · intro other found
    change found ∈ (IndexCache.deleteAll cache.tree _ id).valuesAt _ _ ↔ _
    rw [IndexCache.mem_valuesAt_deleteAll, represents.tree, deleted.mem_tree,
      consistent.mem_tree, Function.update_apply, List.mem_singleton, keyFor_inj]
    · by_cases same : found = id
      · rw [if_pos same, same, isKey]
        simp [eq_comm]
      · simp [same]
    · intro removed member
      rw [List.mem_singleton.mp member]
      exact length_keyFor element

/-- A query for a key finds the ids of its leaf set. -/
theorem Represents.getAll (represents : Represents index cache) (element : String)
    (id : Id) :
    id ∈ cache.getAll [keyFor (some element)] ↔ id ∈ index.tree (some element) := by
  have found := RadixTree.getAll_eq_valuesAt _ cache.tree [Scalar.str element] rfl
  rw [IndexCache.getAll, List.flatMap_singleton, ← represents.tree]
  exact iff_of_eq (congrArg (id ∈ ·) found)

end PathIndex

end Dragonflow
