import Dragonflow.Utils.RadixTree
import Mathlib.Data.List.Infix

/-! # Nodes of a radix tree that lead to nothing

`RadixTree.delete` walks back along the path in order to remove branches that became empty.
-/

namespace Dragonflow

namespace RadixTree

variable {κ ν : Type} [DecidableEq κ]

/-- There is a node under this path. The root is the node of the empty path. -/
def HasNode : (depth : Nat) → RadixTree κ ν depth → List (Option κ) → Prop
  | _, _, [] => True
  | 0, _, _ :: _ => False
  | depth + 1, node, key :: path =>
      ∃ subtree, AList.lookup key (node : Dict (Option κ) (RadixTree κ ν depth)) =
        some subtree ∧ HasNode depth subtree path

/-- Every leaf below the root holds a value, and every inner node leads to such a leaf. -/
def Pruned (depth : Nat) (tree : RadixTree κ ν depth) : Prop :=
  ∀ path, path ≠ [] → HasNode depth tree path →
    ∃ rest, (path ++ rest).length = depth ∧ ∃ value, value ∈ valuesAt depth tree (path ++ rest)

/-- The calls of a tree. Paths are as long as the tree is deep. -/
inductive TreeCall (κ ν : Type) (depth : Nat)
  | set (path : List (Option κ)) (value : ν) (deep : path.length = depth)
  | delete (path : List (Option κ)) (value : ν) (deep : path.length = depth)
  | getAll (path : List (Option κ)) (deep : path.length = depth)

/-- The tree after one more call. Queries test for a key before they read it. -/
def TreeCall.apply [DecidableEq ν] {depth : Nat} (tree : RadixTree κ ν depth) :
    TreeCall κ ν depth → RadixTree κ ν depth
  | .set path value _ => RadixTree.set depth tree path value
  | .delete path value _ => RadixTree.delete depth tree path value
  | .getAll _ _ => tree

/-- The tree after a sequence of calls. -/
def afterCalls [DecidableEq ν] {depth : Nat} (calls : List (TreeCall κ ν depth)) :
    RadixTree κ ν depth :=
  calls.foldl TreeCall.apply (empty depth)

/-! ## Nodes that a call creates -/

theorem hasNode_empty {depth : Nat} {path : List (Option κ)}
    (hasNode : HasNode depth (empty depth : RadixTree κ ν depth) path) : path = [] := by
  cases path with
  | nil => rfl
  | cons key path =>
      cases depth with
      | zero => exact hasNode.elim
      | succ depth =>
          rcases hasNode with ⟨subtree, found, _⟩
          cases found

theorem hasNode_child {depth : Nat} {node : RadixTree κ ν (depth + 1)} {key : Option κ}
    {path : List (Option κ)} (hasNode : HasNode depth (child node key) path) :
    path = [] ∨ HasNode (depth + 1) node (key :: path) := by
  unfold child at hasNode
  cases found : AList.lookup key (node : Dict (Option κ) (RadixTree κ ν depth)) with
  | none =>
      rw [found] at hasNode
      exact Or.inl (hasNode_empty hasNode)
  | some subtree =>
      rw [found] at hasNode
      exact Or.inr ⟨subtree, found, hasNode⟩

theorem hasNode_put {depth : Nat} (node : RadixTree κ ν (depth + 1)) (key other : Option κ)
    (subtree : RadixTree κ ν depth) (path : List (Option κ)) :
    HasNode (depth + 1) (put node key subtree) (other :: path) ↔
      if other = key then HasNode depth subtree path
      else HasNode (depth + 1) node (other :: path) := by
  change (∃ found, AList.lookup other (AList.insert key subtree
    (node : Dict (Option κ) (RadixTree κ ν depth))) = some found ∧
      HasNode depth found path) ↔ _
  rw [Dict.lookup_insert_eq]
  split
  · simp
  · rfl

/-- A change of one leaf creates no nodes but those on the way to it. -/
theorem hasNode_put_child {depth : Nat} {node : RadixTree κ ν (depth + 1)} {key : Option κ}
    {subtree : RadixTree κ ν depth} {path : List (Option κ)}
    (below : ∀ other, HasNode depth subtree other →
      other <+: path ∨ HasNode depth (child node key) other)
    {other : List (Option κ)} (hasNode : HasNode (depth + 1) (put node key subtree) other) :
    other <+: key :: path ∨ HasNode (depth + 1) node other := by
  cases other with
  | nil => exact Or.inr trivial
  | cons segment other =>
      rw [hasNode_put] at hasNode
      split at hasNode
      · rename_i isKey
        rw [isKey]
        rcases below other hasNode with onWay | wasThere
        · exact Or.inl (List.cons_prefix_cons.mpr ⟨rfl, onWay⟩)
        · rcases hasNode_child wasThere with isLast | inTree
          · rw [isLast]
            exact Or.inl (List.cons_prefix_cons.mpr ⟨rfl, List.nil_prefix⟩)
          · exact Or.inr inTree
      · exact Or.inr hasNode

variable [DecidableEq ν]

theorem hasNode_set {depth : Nat} {tree : RadixTree κ ν depth} {path other : List (Option κ)}
    {value : ν} (hasNode : HasNode depth (set depth tree path value) other) :
    other <+: path ∨ HasNode depth tree other := by
  induction depth generalizing path other with
  | zero =>
      cases other with
      | nil => exact Or.inr trivial
      | cons key other => exact hasNode.elim
  | succ depth induction =>
      cases path with
      | nil => exact Or.inr hasNode
      | cons key path => exact hasNode_put_child (fun _ => induction) hasNode

theorem hasNode_delete {depth : Nat} {tree : RadixTree κ ν depth}
    {path other : List (Option κ)} {value : ν}
    (hasNode : HasNode depth (delete depth tree path value) other) :
    other <+: path ∨ HasNode depth tree other := by
  induction depth generalizing path other with
  | zero =>
      cases other with
      | nil => exact Or.inr trivial
      | cons key other => exact hasNode.elim
  | succ depth induction =>
      cases path with
      | nil => exact Or.inr hasNode
      | cons key path =>
          rw [delete, deleteTraced_cons] at hasNode
          exact hasNode_put_child (fun _ => induction) hasNode

/-- The leaf is there after a deletion, whether it was there before or not. -/
theorem hasNode_deleted {depth : Nat} (tree : RadixTree κ ν depth) {path : List (Option κ)}
    (value : ν) (deep : path.length = depth) :
    HasNode depth (delete depth tree path value) path := by
  induction depth generalizing path with
  | zero =>
      rw [List.length_eq_zero_iff] at deep
      rw [deep]
      trivial
  | succ depth induction =>
      cases path with
      | nil => cases deep
      | cons key path =>
          rw [delete, deleteTraced_cons, hasNode_put, if_pos rfl]
          exact induction (child tree key) (Nat.succ.inj deep)

/-! ## Calls that leave no empty node -/

/-- The leaf of a deletion holds another value, so that it does not become empty. -/
def TreeCall.Spares {depth : Nat} (tree : RadixTree κ ν depth) : TreeCall κ ν depth → Prop
  | .set _ _ _ => True
  | .delete path value _ => ∃ other ∈ valuesAt depth tree path, other ≠ value
  | .getAll _ _ => True

omit [DecidableEq ν] in
theorem pruned_empty (depth : Nat) : Pruned depth (empty depth : RadixTree κ ν depth) :=
  fun _ notRoot hasNode => absurd (hasNode_empty hasNode) notRoot

theorem Pruned.set {depth : Nat} {tree : RadixTree κ ν depth} (pruned : Pruned depth tree)
    {path : List (Option κ)} (value : ν) (deep : path.length = depth) :
    Pruned depth (RadixTree.set depth tree path value) := by
  intro other notRoot hasNode
  rcases hasNode_set hasNode with onWay | wasThere
  · rcases onWay with ⟨rest, isPath⟩
    refine ⟨rest, isPath ▸ deep, value, ?_⟩
    rw [isPath, mem_valuesAt_set depth tree path path value value deep]
    exact Or.inl ⟨rfl, rfl⟩
  · rcases pruned other notRoot wasThere with ⟨rest, isLeaf, found, member⟩
    refine ⟨rest, isLeaf, found, ?_⟩
    rw [mem_valuesAt_set depth tree path _ value found deep]
    exact Or.inr member

theorem Pruned.delete {depth : Nat} {tree : RadixTree κ ν depth} (pruned : Pruned depth tree)
    {path : List (Option κ)} {value : ν} (deep : path.length = depth)
    (spares : ∃ other ∈ valuesAt depth tree path, other ≠ value) :
    Pruned depth (RadixTree.delete depth tree path value) := by
  rcases spares with ⟨kept, isKept, different⟩
  have stays : kept ∈ valuesAt depth (RadixTree.delete depth tree path value) path := by
    rw [mem_valuesAt_delete depth tree path path value kept deep]
    exact ⟨isKept, fun isValue => different isValue.2⟩
  intro other notRoot hasNode
  rcases hasNode_delete hasNode with onWay | wasThere
  · rcases onWay with ⟨rest, isPath⟩
    exact ⟨rest, isPath ▸ deep, kept, isPath ▸ stays⟩
  · rcases pruned other notRoot wasThere with ⟨rest, isLeaf, found, member⟩
    by_cases isPath : other ++ rest = path
    · exact ⟨rest, isLeaf, kept, isPath ▸ stays⟩
    · refine ⟨rest, isLeaf, found, ?_⟩
      rw [mem_valuesAt_delete depth tree path _ value found deep]
      exact ⟨member, fun isValue => isPath isValue.1⟩

theorem Pruned.apply {depth : Nat} {tree : RadixTree κ ν depth} (pruned : Pruned depth tree)
    {call : TreeCall κ ν depth} (spares : call.Spares tree) :
    Pruned depth (call.apply tree) := by
  cases call with
  | set path value deep => exact pruned.set value deep
  | delete path value deep => exact pruned.delete deep spares
  | getAll path deep => exact pruned

/-- A leaf that a deletion empties stays behind. -/
theorem TreeCall.spares_of_pruned {depth : Nat} (positive : 0 < depth)
    {tree : RadixTree κ ν depth} {call : TreeCall κ ν depth}
    (pruned : Pruned depth (call.apply tree)) : call.Spares tree := by
  cases call with
  | set path value deep => trivial
  | getAll path deep => trivial
  | delete path value deep =>
      have notRoot : path ≠ [] := by
        intro isRoot
        rw [isRoot] at deep
        exact absurd deep positive.ne
      rcases pruned path notRoot (hasNode_deleted tree value deep) with
        ⟨rest, isLeaf, found, member⟩
      have noRest : rest = [] := by
        rw [List.length_append, deep] at isLeaf
        exact List.length_eq_zero_iff.mp (Nat.add_eq_left.mp isLeaf)
      rw [noRest, List.append_nil] at member
      have member := (mem_valuesAt_delete depth tree path path value found deep).mp member
      exact ⟨found, member.1, fun isValue => member.2 ⟨rfl, isValue⟩⟩

theorem afterCalls_concat {depth : Nat} (calls : List (TreeCall κ ν depth))
    (call : TreeCall κ ν depth) :
    afterCalls (calls ++ [call]) = call.apply (afterCalls calls) := by
  rw [afterCalls, List.foldl_append]
  rfl

/-- The tree has no empty nodes after each call just when every deletion leaves another
value under its path. -/
theorem pruned_iff_spares {depth : Nat} (positive : 0 < depth)
    (calls : List (TreeCall κ ν depth)) :
    (∀ done, done <+: calls → Pruned depth (afterCalls done)) ↔
      ∀ done call, done ++ [call] <+: calls → call.Spares (afterCalls done) := by
  constructor
  · intro pruned done call isPrefix
    have after := pruned (done ++ [call]) isPrefix
    rw [afterCalls_concat] at after
    exact TreeCall.spares_of_pruned positive after
  · intro spares done
    induction done using List.reverseRecOn with
    | nil =>
        intro _
        exact pruned_empty depth
    | append_singleton done call induction =>
        intro isPrefix
        rw [afterCalls_concat]
        exact (induction ((List.prefix_append done [call]).trans isPrefix)).apply
          (spares done call isPrefix)

/-- Two values under one path, of which one is deleted. -/
theorem pruned_iff_spares_shared :
    let path : List (Option String) := [some "a"]
    let calls : List (TreeCall String Nat 1) :=
      [.set path 1 rfl, .set path 2 rfl, .delete path 1 rfl]
    ∀ done, done <+: calls → Pruned 1 (afterCalls done) := by
  intro path calls
  refine (pruned_iff_spares Nat.one_pos calls).mpr ?_
  intro done call isPrefix
  rcases isPrefix with ⟨rest, same⟩
  unfold calls at same
  rcases done with _ | ⟨first, _ | ⟨second, _ | ⟨third, done⟩⟩⟩
  · cases same
    trivial
  · cases same
    trivial
  · cases same
    exact ⟨2, by decide, by decide⟩
  · simp at same

/-- The only value of a path is deleted, and its leaf stays in the tree. -/
theorem empty_leaf_stays :
    let path : List (Option String) := [some "a"]
    let calls : List (TreeCall String Nat 1) := [.set path 1 rfl, .delete path 1 rfl]
    HasNode 1 (afterCalls calls) path ∧ valuesAt 1 (afterCalls calls) path = [] ∧
      ¬Pruned 1 (afterCalls calls) := by
  intro path calls
  have isEmpty : valuesAt 1 (afterCalls calls) path = [] := by decide
  have hasNode : HasNode 1 (afterCalls calls) path :=
    hasNode_deleted _ 1 rfl
  refine ⟨hasNode, isEmpty, ?_⟩
  intro pruned
  rcases pruned path (List.cons_ne_nil _ _) hasNode with ⟨rest, isLeaf, found, member⟩
  have noRest : rest = [] := by
    rw [List.length_append] at isLeaf
    exact List.length_eq_zero_iff.mp (Nat.add_eq_left.mp isLeaf)
  rw [noRest, List.append_nil, isEmpty] at member
  cases member

end RadixTree

end Dragonflow
