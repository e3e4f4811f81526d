import Mathlib.Data.Finset.Basic
import Mathlib.Logic.Relation

/-! # Depth first search

Nodes wait on a stack and are marked when they are taken from it. Two nodes
with one mark are taken for one node, and a node that is not there stops the
search.
-/

namespace Dragonflow

open Relation

/-- What marks a node, and which nodes follow it, in the order in which they
are looked at. A node that is not there has no answer. -/
structure SearchGraph (ι κ : Type) where
  mark : ι → κ
  next : ι → Option (List ι)

namespace SearchGraph

variable {ι κ ν : Type} [DecidableEq κ]

/-- Searching from a stack either visits nodes, listed in the order of the
visits, or stops at one that is not there. -/
inductive Searches (graph : SearchGraph ι κ) :
    Finset κ → List ι → Except ι (List ι) → Prop
  | done : Searches graph seen [] (.ok [])
  | skip : graph.mark node ∈ seen → Searches graph seen stack outcome →
      Searches graph seen (node :: stack) outcome
  | stop : graph.mark node ∉ seen → graph.next node = none →
      Searches graph seen (node :: stack) (.error node)
  | visit : graph.mark node ∉ seen → graph.next node = some nodes →
      Searches graph (insert (graph.mark node) seen) (nodes ++ stack) outcome →
      Searches graph seen (node :: stack) (outcome.map (node :: ·))

def Edge (graph : SearchGraph ι κ) (node follower : ι) : Prop :=
  ∃ nodes, graph.next node = some nodes ∧ follower ∈ nodes

def Reaches (graph : SearchGraph ι κ) : ι → ι → Prop :=
  ReflTransGen graph.Edge

/-- Reachable from a node on the stack. -/
def ReachedFrom (graph : SearchGraph ι κ) (stack : List ι) (node : ι) : Prop :=
  ∃ start ∈ stack, graph.Reaches start node

variable {graph : SearchGraph ι κ} {seen : Finset κ} {node : ι}
  {stack visited : List ι}

omit [DecidableEq κ] in
theorem ReachedFrom.push {nodes : List ι} {target : ι}
    (follow : graph.next node = some nodes)
    (reached : graph.ReachedFrom (nodes ++ stack) target) :
    graph.ReachedFrom (node :: stack) target := by
  rcases reached with ⟨start, member, reaches⟩
  rcases List.mem_append.mp member with follower | below
  · have edge : graph.Edge node start := ⟨nodes, follow, follower⟩
    exact ⟨node, List.mem_cons_self, ReflTransGen.head edge reaches⟩
  · exact ⟨start, List.mem_cons_of_mem node below, reaches⟩

omit [DecidableEq κ] in
theorem ReachedFrom.deeper {target : ι} (reached : graph.ReachedFrom stack target) :
    graph.ReachedFrom (node :: stack) target := by
  rcases reached with ⟨start, member, reaches⟩
  exact ⟨start, List.mem_cons_of_mem node member, reaches⟩

omit [DecidableEq κ] in
theorem map_eq_ok {outcome : Except ι (List ι)} :
    outcome.map (node :: ·) = .ok visited ↔
      ∃ rest, outcome = .ok rest ∧ visited = node :: rest := by
  cases outcome with
  | error missing => simp [Except.map]
  | ok rest =>
      simp only [Except.map, Except.ok.injEq, exists_eq_left', eq_comm]

omit [DecidableEq κ] in
theorem map_eq_error {outcome : Except ι (List ι)} {missing : ι} :
    outcome.map (node :: ·) = .error missing ↔ outcome = .error missing := by
  cases outcome <;> simp [Except.map]

/-! ## What a search finds -/

/-- A search only stops at a node that can be reached and is not there. -/
theorem Searches.missing {outcome : Except ι (List ι)}
    (searches : graph.Searches seen stack outcome) {missing : ι}
    (stopped : outcome = .error missing) :
    graph.next missing = none ∧ graph.mark missing ∉ seen ∧
      graph.ReachedFrom stack missing := by
  induction searches with
  | done => cases stopped
  | skip _ _ induction =>
      rcases induction stopped with ⟨absent, unmarked, reached⟩
      exact ⟨absent, unmarked, reached.deeper⟩
  | stop unmarked absent =>
      cases stopped
      exact ⟨absent, unmarked, _, List.mem_cons_self, ReflTransGen.refl⟩
  | visit unmarked follow _ induction =>
      rcases induction (map_eq_error.mp stopped) with ⟨absent, unseen, reached⟩
      exact ⟨absent, fun old => unseen (Finset.mem_insert_of_mem old),
        reached.push follow⟩

/-- What is true of a finished search. -/
structure Finished (graph : SearchGraph ι κ) (seen : Finset κ) (stack : List ι)
    (visited : List ι) : Prop where
  once : (visited.map graph.mark).Nodup
  fresh : ∀ node ∈ visited, graph.mark node ∉ seen
  reached : ∀ node ∈ visited, graph.ReachedFrom stack node
  covered : ∀ node ∈ stack,
    graph.mark node ∈ seen ∨ graph.mark node ∈ visited.map graph.mark
  closed : ∀ node ∈ visited, ∃ nodes, graph.next node = some nodes ∧
    ∀ follower ∈ nodes,
      graph.mark follower ∈ seen ∨ graph.mark follower ∈ visited.map graph.mark

omit [DecidableEq κ] in
theorem Finished.skip (marked : graph.mark node ∈ seen)
    (finished : graph.Finished seen stack visited) :
    graph.Finished seen (node :: stack) visited where
  once := finished.once
  fresh := finished.fresh
  reached other member := (finished.reached other member).deeper
  covered other member := by
    rcases List.mem_cons.mp member with same | below
    · exact Or.inl (same ▸ marked)
    · exact finished.covered other below
  closed := finished.closed

theorem Finished.visit {nodes : List ι} (unmarked : graph.mark node ∉ seen)
    (follow : graph.next node = some nodes)
    (finished : graph.Finished (insert (graph.mark node) seen) (nodes ++ stack)
      visited) :
    graph.Finished seen (node :: stack) (node :: visited) := by
  have moved (mark : κ) (known : mark ∈ insert (graph.mark node) seen ∨
      mark ∈ visited.map graph.mark) :
      mark ∈ seen ∨ mark ∈ (node :: visited).map graph.mark := by
    rw [Finset.mem_insert] at known
    rw [List.map_cons, List.mem_cons]
    rcases known with (same | old) | new
    · exact Or.inr (Or.inl same)
    · exact Or.inl old
    · exact Or.inr (Or.inr new)
  refine ⟨?_, ?_, ?_, ?_, ?_⟩
  · rw [List.map_cons, List.nodup_cons]
    refine ⟨fun again => ?_, finished.once⟩
    rcases List.mem_map.mp again with ⟨other, member, same⟩
    exact finished.fresh other member (same ▸ Finset.mem_insert_self _ _)
  · intro other member
    rcases List.mem_cons.mp member with same | later
    · exact same ▸ unmarked
    · exact fun old => finished.fresh other later (Finset.mem_insert_of_mem old)
  · intro other member
    rcases List.mem_cons.mp member with same | later
    · exact ⟨node, List.mem_cons_self, same ▸ ReflTransGen.refl⟩
    · exact (finished.reached other later).push follow
  · intro other member
    rcases List.mem_cons.mp member with same | below
    · subst same
      exact Or.inr (by simp)
    · exact moved _ (finished.covered other (List.mem_append_right _ below))
  · intro other member
    rcases List.mem_cons.mp member with same | later
    · subst same
      exact ⟨nodes, follow, fun follower isNext =>
        moved _ (finished.covered follower (List.mem_append_left _ isNext))⟩
    · rcases finished.closed other later with ⟨followers, found, known⟩
      exact ⟨followers, found, fun follower isNext => moved _ (known follower isNext)⟩

theorem Searches.finished {outcome : Except ι (List ι)}
    (searches : graph.Searches seen stack outcome) {visited : List ι}
    (returned : outcome = .ok visited) : graph.Finished seen stack visited := by
  induction searches generalizing visited with
  | done =>
      cases returned
      exact ⟨List.nodup_nil, by simp, by simp, by simp, by simp⟩
  | skip marked _ induction => exact (induction returned).skip marked
  | stop => cases returned
  | visit unmarked follow _ induction =>
      rcases map_eq_ok.mp returned with ⟨rest, ended, rfl⟩
      exact (induction ended).visit unmarked follow

/-- A search visits everything that it can reach, if marks tell nodes apart. -/
theorem Searches.visits (searches : graph.Searches ∅ stack (.ok visited))
    (apart : ∀ first second, graph.ReachedFrom stack first →
      graph.ReachedFrom stack second → graph.mark first = graph.mark second →
      first = second)
    {target : ι} (reached : graph.ReachedFrom stack target) : target ∈ visited := by
  have finished := searches.finished rfl
  have known {node : ι} (isReached : graph.ReachedFrom stack node)
      (marked : graph.mark node ∈ (∅ : Finset κ) ∨
        graph.mark node ∈ visited.map graph.mark) : node ∈ visited := by
    rcases marked with impossible | marked
    · exact absurd impossible (Finset.notMem_empty _)
    · rcases List.mem_map.mp marked with ⟨other, member, same⟩
      exact apart other node (finished.reached other member) isReached same ▸ member
  rcases reached with ⟨start, member, reaches⟩
  induction reaches with
  | refl => exact known ⟨start, member, ReflTransGen.refl⟩ (finished.covered start member)
  | tail path edge induction =>
      rcases finished.closed _ induction with ⟨nodes, found, closed⟩
      rcases edge with ⟨followers, follow, isNext⟩
      rw [found] at follow
      cases follow
      exact known ⟨start, member, path.tail ⟨nodes, found, isNext⟩⟩
        (closed _ isNext)

/-! ## Renaming nodes -/

/-- A search follows a renaming that keeps the marks, and the followers of all
nodes that are not marked from the beginning. -/
theorem Searches.rename {other : SearchGraph ν κ} (name : ι → ν)
    (marks : ∀ node, other.mark (name node) = graph.mark node)
    {outcome : Except ι (List ι)} (searches : graph.Searches seen stack outcome)
    (follows : ∀ node, graph.mark node ∉ seen →
      other.next (name node) = (graph.next node).map (List.map name)) :
    other.Searches seen (stack.map name)
      ((outcome.map (List.map name)).mapError name) := by
  induction searches with
  | done => exact .done
  | skip marked _ induction => exact .skip (marks _ ▸ marked) (induction follows)
  | @stop _ node _ unmarked absent =>
      refine .stop (marks _ ▸ unmarked) ?_
      rw [follows node unmarked, absent]
      rfl
  | @visit seen node nodes stack outcome unmarked follow _ induction =>
      have later := induction fun node unseen =>
        follows node fun old => unseen (Finset.mem_insert_of_mem old)
      rw [List.map_append, ← marks] at later
      have renamed : other.next (name node) = some (nodes.map name) := by
        rw [follows node unmarked, follow]
        rfl
      have visited := Searches.visit (marks node ▸ unmarked) renamed later
      cases outcome <;> exact visited

end SearchGraph

end Dragonflow
