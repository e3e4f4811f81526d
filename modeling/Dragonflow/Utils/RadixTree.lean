import Mathlib.Data.List.Forall2
import Dragonflow.Foundation.Dict

/-! # The radix tree behind the indexes

`dragonflow/utils/radix_tree.py`: nested default dictionaries of constant depth
with a set of values in each leaf. A key element is an `Option`, and `none`
stands for Python's `None`. In a stored path it is an ordinary element, in a
query it is the wildcard `ANY`.
-/

namespace Dragonflow

/-- `tree_type = set`, wrapped `depth` times in `defaultdict`. -/
@[reducible] def RadixTree (κ ν : Type) : Nat → Type
  | 0 => List ν
  | depth + 1 => Dict (Option κ) (RadixTree κ ν depth)

namespace RadixTree

variable {κ ν : Type} [DecidableEq κ]

def empty : (depth : Nat) → RadixTree κ ν depth
  | 0 => ([] : List ν)
  | _ + 1 => (∅ : Dict _ _)

/-- `node[key]` on a default dictionary: a missing child is created. -/
def child {depth : Nat} (node : RadixTree κ ν (depth + 1)) (key : Option κ) :
    RadixTree κ ν depth :=
  (AList.lookup key (node : Dict (Option κ) (RadixTree κ ν depth))).getD
    (empty depth)

/-- Put a child back under its key. -/
def put {depth : Nat} (node : RadixTree κ ν (depth + 1)) (key : Option κ)
    (subtree : RadixTree κ ν depth) : RadixTree κ ν (depth + 1) :=
  AList.insert key subtree (node : Dict (Option κ) (RadixTree κ ν depth))

/-- A path always has as many elements as the tree is deep. The remaining
shapes are left alone. -/
def set [DecidableEq ν] : (depth : Nat) → RadixTree κ ν depth → List (Option κ) → ν →
    RadixTree κ ν depth
  | 0, leaf, _, value => (List.insert value (leaf : List ν) : List ν)
  | _ + 1, node, [], _ => node
  | depth + 1, node, key :: path, value =>
      put node key (set depth (child node key) path value)

/-- The removal together with the clean-up loop over the reversed trace. The
flag tells whether the loop has met its `break`. -/
def deleteTraced [DecidableEq ν] : (depth : Nat) → RadixTree κ ν depth → List (Option κ) → ν →
    RadixTree κ ν depth × Bool
  | 0, leaf, _, value => ((leaf : List ν).filter (· ≠ value), false)
  | _ + 1, node, [], _ => (node, false)
  | depth + 1, node, key :: path, value =>
      let below := deleteTraced depth (child node key) path value
      let visited := put node key below.1
      if below.2 then
        (visited, true)
      -- `node[key]` above has created the key, so the test never fails.
      else if key ∈ (visited : Dict (Option κ) (RadixTree κ ν depth)) then
        (visited, true)
      else
        (AList.erase key (visited : Dict (Option κ) (RadixTree κ ν depth)), false)

def delete [DecidableEq ν] (depth : Nat) (tree : RadixTree κ ν depth) (path : List (Option κ))
    (value : ν) : RadixTree κ ν depth :=
  (deleteTraced depth tree path value).1

/-- The nodes below `nodes` that one segment of a query selects. -/
def select {depth : Nat} (segment : Option κ)
    (nodes : List (RadixTree κ ν (depth + 1))) : List (RadixTree κ ν depth) :=
  nodes.flatMap fun node =>
    match segment with
    | none =>
        (node : Dict (Option κ) (RadixTree κ ν depth)).entries.map Sigma.snd
    | some key =>
        (AList.lookup (some key)
          (node : Dict (Option κ) (RadixTree κ ν depth))).toList

def getAllFrom : (depth : Nat) → List (RadixTree κ ν depth) →
    List (Option κ) → List ν
  | 0, nodes, _ => (nodes : List (List ν)).flatten
  | _ + 1, _, [] => []
  | depth + 1, nodes, segment :: path =>
      getAllFrom depth (select segment nodes) path

def getAll (depth : Nat) (tree : RadixTree κ ν depth)
    (path : List (Option κ)) : List ν :=
  getAllFrom depth [tree] path

/-! ## What a tree holds -/

/-- The values stored under a path, without creating anything. -/
def valuesAt : (depth : Nat) → RadixTree κ ν depth → List (Option κ) → List ν
  | 0, leaf, [] => leaf
  | 0, _, _ :: _ => []
  | _ + 1, _, [] => []
  | depth + 1, node, key :: path => valuesAt depth (child node key) path

/-- A query key matches a stored key when each segment is the wildcard or the
stored element. -/
def Matches (query key : List (Option κ)) : Prop :=
  List.Forall₂ (fun segment element => segment = none ∨ segment = element)
    query key

@[simp] theorem valuesAt_empty (depth : Nat) (path : List (Option κ)) :
    valuesAt depth (empty depth : RadixTree κ ν depth) path = [] := by
  induction depth generalizing path with
  | zero => cases path <;> rfl
  | succ depth induction =>
      cases path with
      | nil => rfl
      | cons key path => exact induction path

theorem child_put {depth : Nat} (node : RadixTree κ ν (depth + 1))
    (key other : Option κ) (subtree : RadixTree κ ν depth) :
    child (put node key subtree) other =
      if other = key then subtree else child node other := by
  unfold child put
  rw [Dict.lookup_insert_eq]
  split <;> rfl

theorem mem_valuesAt_put {depth : Nat} (node : RadixTree κ ν (depth + 1))
    (key other : Option κ) (subtree : RadixTree κ ν depth)
    (path : List (Option κ)) :
    valuesAt (depth + 1) (put node key subtree) (other :: path) =
      if other = key then valuesAt depth subtree path
      else valuesAt (depth + 1) node (other :: path) := by
  simp only [valuesAt, child_put]
  split <;> rfl

/-- Storing a value adds exactly that value under exactly that path. -/
theorem mem_valuesAt_set [DecidableEq ν] (depth : Nat) (tree : RadixTree κ ν depth)
    (path other : List (Option κ)) (value found : ν)
    (deep : path.length = depth) :
    found ∈ valuesAt depth (set depth tree path value) other ↔
      (other = path ∧ found = value) ∨ found ∈ valuesAt depth tree other := by
  induction depth generalizing path other with
  | zero =>
      cases path with
      | cons key path => simp at deep
      | nil =>
          cases other with
          | nil => simp [valuesAt, set, List.mem_insert_iff]
          | cons key other => simp [valuesAt]
  | succ depth induction =>
      cases path with
      | nil => simp at deep
      | cons key path =>
          cases other with
          | nil => simp [valuesAt]
          | cons segment other =>
              simp only [set, mem_valuesAt_put]
              by_cases same : segment = key
              · subst same
                rw [if_pos rfl, induction _ path other (by simpa using deep)]
                simp [valuesAt]
              · simp [same]

/-- The clean-up loop never removes a node. -/
theorem deleteTraced_cons [DecidableEq ν] (depth : Nat)
    (node : RadixTree κ ν (depth + 1)) (key : Option κ)
    (path : List (Option κ)) (value : ν) :
    deleteTraced (depth + 1) node (key :: path) value =
      (put node key (delete depth (child node key) path value), true) := by
  have present : ∀ subtree : RadixTree κ ν depth,
      key ∈ (put node key subtree : Dict (Option κ) (RadixTree κ ν depth)) := by
    intro subtree
    simp [put]
  unfold delete
  rw [deleteTraced]
  simp only [present, if_true]
  split <;> rfl

/-- Removing a value removes exactly that value under exactly that path. -/
theorem mem_valuesAt_delete [DecidableEq ν] (depth : Nat) (tree : RadixTree κ ν depth)
    (path other : List (Option κ)) (value found : ν)
    (deep : path.length = depth) :
    found ∈ valuesAt depth (delete depth tree path value) other ↔
      found ∈ valuesAt depth tree other ∧ ¬(other = path ∧ found = value) := by
  induction depth generalizing path other with
  | zero =>
      cases path with
      | cons key path => simp at deep
      | nil =>
          cases other with
          | nil => simp [valuesAt, delete, deleteTraced]
          | cons key other => simp [valuesAt]
  | succ depth induction =>
      cases path with
      | nil => simp at deep
      | cons key path =>
          cases other with
          | nil => simp [valuesAt]
          | cons segment other =>
              simp only [delete, deleteTraced_cons, mem_valuesAt_put]
              by_cases same : segment = key
              · subst same
                rw [if_pos rfl, ← delete,
                  induction _ path other (by simpa using deep)]
                simp [valuesAt]
              · simp [same]

/-! ## Queries -/

theorem mem_select {depth : Nat} (segment : Option κ)
    (nodes : List (RadixTree κ ν (depth + 1))) (subtree : RadixTree κ ν depth) :
    subtree ∈ select segment nodes ↔
      ∃ node ∈ nodes, ∃ key, (segment = none ∨ segment = key) ∧
        AList.lookup key (node : Dict (Option κ) (RadixTree κ ν depth)) =
          some subtree := by
  unfold select
  rw [List.mem_flatMap]
  apply exists_congr
  intro node
  apply and_congr_right
  intro _
  cases segment with
  | none =>
      rw [Dict.mem_values_iff]
      simp
  | some key => simp [Option.mem_toList, eq_comm]

theorem mem_valuesAt_child {depth : Nat} (node : RadixTree κ ν (depth + 1))
    (key : Option κ) (path : List (Option κ)) (value : ν) :
    value ∈ valuesAt (depth + 1) node (key :: path) ↔
      ∃ subtree,
        AList.lookup key (node : Dict (Option κ) (RadixTree κ ν depth)) =
          some subtree ∧ value ∈ valuesAt depth subtree path := by
  simp only [valuesAt, child]
  cases AList.lookup key (node : Dict (Option κ) (RadixTree κ ν depth)) with
  | none => simp
  | some subtree => simp

theorem mem_getAllFrom (depth : Nat) (nodes : List (RadixTree κ ν depth))
    (path : List (Option κ)) (value : ν) (deep : path.length = depth) :
    value ∈ getAllFrom depth nodes path ↔
      ∃ node ∈ nodes, ∃ key, Matches path key ∧
        value ∈ valuesAt depth node key := by
  induction depth generalizing path with
  | zero =>
      cases path with
      | cons segment path => simp at deep
      | nil =>
          simp only [getAllFrom, Matches, List.forall₂_nil_left_iff]
          simp [valuesAt, List.mem_flatten]
  | succ depth induction =>
      cases path with
      | nil => simp at deep
      | cons segment path =>
          rw [getAllFrom, induction _ path (by simpa using deep)]
          constructor
          · rintro ⟨subtree, selected, key, matched, member⟩
            rcases (mem_select _ _ _).mp selected with
              ⟨node, nodeMem, head, headMatches, found⟩
            exact ⟨node, nodeMem, head :: key,
              List.Forall₂.cons headMatches matched,
              (mem_valuesAt_child _ _ _ _).mpr ⟨subtree, found, member⟩⟩
          · rintro ⟨node, nodeMem, key, matched, member⟩
            cases matched with
            | cons headMatches matched =>
                rcases (mem_valuesAt_child _ _ _ _).mp member with
                  ⟨subtree, found, member⟩
                exact ⟨subtree,
                  (mem_select _ _ _).mpr ⟨node, nodeMem, _, headMatches, found⟩,
                  _, matched, member⟩

/-- A query returns a value iff some stored path that it matches holds it. -/
theorem mem_getAll (depth : Nat) (tree : RadixTree κ ν depth)
    (path : List (Option κ)) (value : ν) (deep : path.length = depth) :
    value ∈ getAll depth tree path ↔
      ∃ key, Matches path key ∧ value ∈ valuesAt depth tree key := by
  unfold getAll
  rw [mem_getAllFrom depth [tree] path value deep]
  simp

/-! ## Leaves are sets -/

/-- No value is stored twice under one path. -/
def Distinct (depth : Nat) (tree : RadixTree κ ν depth) : Prop :=
  ∀ path, (valuesAt depth tree path).Nodup

theorem distinct_empty (depth : Nat) :
    Distinct depth (empty depth : RadixTree κ ν depth) := by
  intro path
  rw [valuesAt_empty]
  exact List.nodup_nil

theorem Distinct.child {depth : Nat} {node : RadixTree κ ν (depth + 1)}
    (distinct : Distinct (depth + 1) node) (key : Option κ) :
    Distinct depth (child node key) :=
  fun path => distinct (key :: path)

theorem Distinct.put {depth : Nat} {node : RadixTree κ ν (depth + 1)}
    (distinct : Distinct (depth + 1) node) (key : Option κ)
    {subtree : RadixTree κ ν depth} (below : Distinct depth subtree) :
    Distinct (depth + 1) (put node key subtree) := by
  intro path
  cases path with
  | nil => exact List.nodup_nil
  | cons segment path =>
      rw [mem_valuesAt_put]
      split
      · exact below path
      · exact distinct (segment :: path)

theorem Distinct.set [DecidableEq ν] {depth : Nat} {tree : RadixTree κ ν depth}
    (distinct : Distinct depth tree) (path : List (Option κ)) (value : ν) :
    Distinct depth (set depth tree path value) := by
  induction depth generalizing path with
  | zero =>
      intro other
      cases other with
      | nil => exact List.Nodup.insert (distinct [])
      | cons key other => exact List.nodup_nil
  | succ depth induction =>
      cases path with
      | nil => exact distinct
      | cons key path => exact distinct.put key (induction (distinct.child key) path)

theorem Distinct.delete [DecidableEq ν] {depth : Nat} {tree : RadixTree κ ν depth}
    (distinct : Distinct depth tree) (path : List (Option κ)) (value : ν) :
    Distinct depth (delete depth tree path value) := by
  induction depth generalizing path with
  | zero =>
      intro other
      cases other with
      | nil => exact List.Nodup.filter _ (distinct [])
      | cons key other => exact List.nodup_nil
  | succ depth induction =>
      cases path with
      | nil => exact distinct
      | cons key path =>
          rw [RadixTree.delete, deleteTraced_cons]
          exact distinct.put key (induction (distinct.child key) path)

/-- A query without wildcards reads one leaf. -/
theorem getAllFrom_toList (depth : Nat) (node : Option (RadixTree κ ν depth))
    (path : List κ) (deep : path.length = depth) :
    getAllFrom depth node.toList (path.map some) =
      valuesAt depth (node.getD (empty depth)) (path.map some) := by
  induction depth generalizing path with
  | zero =>
      rw [List.length_eq_zero_iff] at deep
      subst deep
      cases node with
      | none => rfl
      | some leaf => exact List.append_nil leaf
  | succ depth induction =>
      cases path with
      | nil => cases deep
      | cons key path =>
          have selected : select (some key) node.toList =
              (node.bind fun tree => AList.lookup (some key)
                (tree : Dict (Option κ) (RadixTree κ ν depth))).toList := by
            cases node with
            | none => rfl
            | some tree => exact List.append_nil _
          rw [List.map_cons, getAllFrom, selected,
            induction _ path (Nat.succ.inj deep)]
          cases node <;> rfl

theorem getAll_eq_valuesAt (depth : Nat) (tree : RadixTree κ ν depth)
    (path : List κ) (deep : path.length = depth) :
    getAll depth tree (path.map some) = valuesAt depth tree (path.map some) :=
  getAllFrom_toList depth (some tree) path deep

end RadixTree

end Dragonflow
