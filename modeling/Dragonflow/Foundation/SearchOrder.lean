import Dragonflow.Foundation.DepthFirst
import Mathlib.Data.Finset.Dedup
import Mathlib.Data.Finset.Lattice.Lemmas

/-! # The order of a depth first search

When does a search visit every node before the nodes that follow it? Reversed,
such an order lists what a node needs before the node.
-/

namespace Dragonflow

namespace SearchGraph

open Relation

variable {ι κ : Type} [DecidableEq κ]

/-! ## Parts of a search -/

/-- The top of the stack is searched first. -/
theorem Searches.top {graph : SearchGraph ι κ} {seen : Finset κ} {stack first later : List ι}
    {outcome : Except ι (List ι)} (searches : graph.Searches seen stack outcome)
    (split : stack = first ++ later) {visited : List ι} (returned : outcome = .ok visited) :
    ∃ early late, visited = early ++ late ∧ graph.Searches seen first (.ok early) := by
  induction searches generalizing first visited with
  | done =>
      cases returned
      rcases List.append_eq_nil_iff.mp split.symm with ⟨rfl, rfl⟩
      exact ⟨[], [], rfl, .done⟩
  | skip marked _ induction =>
      cases first with
      | nil => exact ⟨[], visited, rfl, .done⟩
      | cons head first =>
          cases split
          rcases induction rfl returned with ⟨early, late, parts, top⟩
          exact ⟨early, late, parts, .skip marked top⟩
  | stop => cases returned
  | @visit seen node nodes stack outcome unmarked follow _ induction =>
      cases first with
      | nil => exact ⟨[], visited, rfl, .done⟩
      | cons head first =>
          cases split
          rcases map_eq_ok.mp returned with ⟨rest, ended, rfl⟩
          rcases induction (List.append_assoc nodes first later).symm ended with
            ⟨early, late, rfl, top⟩
          exact ⟨node :: early, late, rfl, Searches.visit unmarked follow top⟩

/-- What is left to do when a node is visited. -/
theorem Searches.at_visit {graph : SearchGraph ι κ} {seen : Finset κ} {stack : List ι}
    {outcome : Except ι (List ι)} (searches : graph.Searches seen stack outcome)
    {visited : List ι} (returned : outcome = .ok visited) {node : ι}
    (member : node ∈ visited) :
    ∃ before after nodes below, visited = before ++ node :: after ∧
      graph.next node = some nodes ∧
      graph.Searches (insert (graph.mark node) (seen ∪ (before.map graph.mark).toFinset))
        (nodes ++ below) (.ok after) := by
  induction searches generalizing visited with
  | done =>
      cases returned
      cases member
  | skip _ _ induction => exact induction returned member
  | stop => cases returned
  | @visit seen head nodes stack outcome unmarked follow searches induction =>
      rcases map_eq_ok.mp returned with ⟨rest, rfl, rfl⟩
      rcases List.mem_cons.mp member with same | later
      · subst same
        refine ⟨[], rest, nodes, stack, rfl, follow, ?_⟩
        rw [List.map_nil, List.toFinset_nil, Finset.union_empty]
        exact searches
      · rcases induction rfl later with
          ⟨before, after, followers, below, rfl, found, remaining⟩
        refine ⟨head :: before, after, followers, below, rfl, found, ?_⟩
        have sameSeen : insert (graph.mark head) seen ∪ (before.map graph.mark).toFinset =
            seen ∪ ((head :: before).map graph.mark).toFinset := by
          ext mark
          simp only [Finset.mem_union, Finset.mem_insert, List.mem_toFinset,
            List.map_cons, List.mem_cons]
          tauto
        rw [← sameSeen]
        exact remaining

/-! ## Nodes that mark themselves -/

/-- A graph whose nodes are their own marks. -/
def plain (next : κ → Option (List κ)) : SearchGraph κ κ := ⟨id, next⟩

/-- Every node is listed before the nodes that follow it. -/
def FollowersLast (graph : SearchGraph ι κ) (visited : List ι) : Prop :=
  ∀ before node after, visited = before ++ node :: after →
    ∀ follower, graph.Edge node follower → follower ∈ after

def Acyclic (graph : SearchGraph ι κ) (root : ι) : Prop :=
  ∀ node, graph.Reaches root node → ¬ TransGen graph.Edge node node

/-- What the later followers of a node lead to has no edge into what its first
followers lead to, unless the first followers lead there as well. -/
def Orderly (graph : SearchGraph ι κ) (root : ι) : Prop :=
  ∀ node, graph.Reaches root node → ∀ first later, graph.next node = some (first ++ later) →
    ∀ referrer target, graph.ReachedFrom later referrer → graph.Edge referrer target →
      graph.ReachedFrom first target → graph.ReachedFrom first referrer

/-! ## Orderly graphs are visited in order -/

section Orderly

variable {graph : SearchGraph κ κ} {root : κ} {seen : Finset κ} {stack : List κ}

/-- Reachable from a node on the stack that was not seen before. -/
def OpenFrom (graph : SearchGraph κ κ) (seen : Finset κ) (stack : List κ)
    (node : κ) : Prop :=
  ∃ start ∈ stack, start ∉ seen ∧ graph.Reaches start node

/-- What holds between two visits of an orderly graph. -/
structure InOrder (graph : SearchGraph κ κ) (root : κ) (seen : Finset κ)
    (stack : List κ) : Prop where
  reached : ∀ node ∈ stack, graph.Reaches root node
  unseen : ∀ node, graph.OpenFrom seen stack node → node ∉ seen
  orderly : ∀ first later, stack = first ++ later → ∀ referrer target,
    graph.OpenFrom seen later referrer → graph.Edge referrer target →
    graph.OpenFrom seen first target → graph.OpenFrom seen first referrer

omit [DecidableEq κ] in
theorem InOrder.start (graph : SearchGraph κ κ) (root : κ) :
    graph.InOrder root ∅ [root] where
  reached node member := by
    rw [List.mem_singleton.mp member]
    exact ReflTransGen.refl
  unseen node _ := Finset.notMem_empty node
  orderly first later split referrer target fromLater _ fromFirst := by
    rcases fromLater with ⟨below, isBelow, _⟩
    rcases fromFirst with ⟨above, isAbove, _⟩
    have lengths := congrArg List.length split
    have someBelow := List.length_pos_of_mem isBelow
    have someAbove := List.length_pos_of_mem isAbove
    rw [List.length_append, List.length_singleton] at lengths
    omega

omit [DecidableEq κ] in
theorem InOrder.skip {node : κ} (inOrder : graph.InOrder root seen (node :: stack))
    (marked : node ∈ seen) : graph.InOrder root seen stack where
  reached other member := inOrder.reached other (List.mem_cons_of_mem _ member)
  unseen other isOpen := by
    rcases isOpen with ⟨start, member, fresh, reaches⟩
    exact inOrder.unseen other ⟨start, List.mem_cons_of_mem _ member, fresh, reaches⟩
  orderly first later split referrer target fromLater edge fromFirst := by
    rcases fromFirst with ⟨above, isAbove, freshAbove, reachesAbove⟩
    rcases inOrder.orderly (node :: first) later (by rw [split]; rfl) referrer target
      fromLater edge ⟨above, List.mem_cons_of_mem _ isAbove, freshAbove, reachesAbove⟩
      with ⟨start, member, fresh, reaches⟩
    rcases List.mem_cons.mp member with same | member
    · exact absurd marked (same ▸ fresh)
    · exact ⟨start, member, fresh, reaches⟩

omit [DecidableEq κ] in
theorem reaches_cases {graph : SearchGraph ι κ} {node target : ι} {nodes : List ι}
    (follow : graph.next node = some nodes) (reaches : graph.Reaches node target) :
    target = node ∨ ∃ follower ∈ nodes, graph.Reaches follower target := by
  rcases ReflTransGen.cases_head reaches with same | ⟨follower, edge, reaches⟩
  · exact Or.inl same.symm
  · rcases edge with ⟨followers, found, member⟩
    rw [follow] at found
    cases found
    exact Or.inr ⟨follower, member, reaches⟩

/-- The step of `InOrder`. -/
theorem InOrder.visit {node : κ} {nodes : List κ}
    (inOrder : graph.InOrder root seen (node :: stack)) (acyclic : graph.Acyclic root)
    (isOrderly : graph.Orderly root) (unmarked : node ∉ seen)
    (follow : graph.next node = some nodes) :
    graph.InOrder root (insert node seen) (nodes ++ stack) := by
  have isReached : graph.Reaches root node := inOrder.reached node List.mem_cons_self
  have edgeTo {follower : κ} (member : follower ∈ nodes) : graph.Edge node follower :=
    ⟨nodes, follow, member⟩
  have unseenBelow {target : κ} (below : graph.Reaches node target) : target ∉ seen :=
    inOrder.unseen target ⟨node, List.mem_cons_self, unmarked, below⟩
  have freshFollower {follower : κ} (member : follower ∈ nodes) :
      follower ∉ insert node seen := by
    rw [Finset.mem_insert]
    rintro (same | old)
    · exact acyclic node isReached (TransGen.single (same ▸ edgeTo member))
    · exact unseenBelow (ReflTransGen.single (edgeTo member)) old
  -- A node that is open in the stack below and leads into the part below `node`
  -- belongs to that part.
  have captured {referrer target : κ} (isOpen : graph.OpenFrom seen stack referrer)
      (edge : graph.Edge referrer target) (below : graph.Reaches node target) :
      graph.Reaches node referrer := by
    have fromNode : graph.OpenFrom seen [node] target :=
      ⟨node, List.mem_singleton_self node, unmarked, below⟩
    rcases inOrder.orderly [node] stack rfl referrer target isOpen edge fromNode with
      ⟨start, member, _, reaches⟩
    exact List.mem_singleton.mp member ▸ reaches
  have widen {part : List κ} {target : κ}
      (isOpen : graph.OpenFrom (insert node seen) part target) :
      graph.OpenFrom seen part target := by
    rcases isOpen with ⟨start, member, fresh, reaches⟩
    exact ⟨start, member, fun old => fresh (Finset.mem_insert_of_mem old), reaches⟩
  have unseen (target : κ)
      (isOpen : graph.OpenFrom (insert node seen) (nodes ++ stack) target) :
      target ∉ insert node seen := by
    rcases isOpen with ⟨start, member, fresh, reaches⟩
    rw [Finset.mem_insert]
    rcases List.mem_append.mp member with follower | below
    · rintro (same | old)
      · exact acyclic node isReached (TransGen.head' (edgeTo follower) (same ▸ reaches))
      · exact unseenBelow (ReflTransGen.head (edgeTo follower) reaches) old
    · have startFresh : start ∉ seen := fun old => fresh (Finset.mem_insert_of_mem old)
      rintro (same | old)
      · subst same
        rcases ReflTransGen.cases_tail reaches with same | ⟨last, path, edge⟩
        · exact fresh (same ▸ Finset.mem_insert_self _ _)
        · have back := captured ⟨start, below, startFresh, path⟩ edge ReflTransGen.refl
          exact acyclic target isReached (TransGen.tail' back edge)
      · exact inOrder.unseen target
          ⟨start, List.mem_cons_of_mem _ below, startFresh, reaches⟩ old
  have followerOf {part : List κ} {target : κ}
      (isOpen : graph.OpenFrom (insert node seen) part target)
      (isPart : ∀ start ∈ part, start ∈ nodes ++ stack)
      (below : graph.Reaches node target) :
      ∃ follower ∈ nodes, graph.Reaches follower target := by
    rcases reaches_cases follow below with same | found
    · rcases isOpen with ⟨start, member, fresh, reaches⟩
      have fresh := unseen target ⟨start, isPart start member, fresh, reaches⟩
      exact absurd (same ▸ Finset.mem_insert_self _ _) fresh
    · exact found
  refine ⟨?_, unseen, ?_⟩
  · intro other member
    rcases List.mem_append.mp member with follower | below
    · exact isReached.tail (edgeTo follower)
    · exact inOrder.reached other (List.mem_cons_of_mem _ below)
  · intro first later split referrer target fromLater edge fromFirst
    have laterPart : ∀ start ∈ later, start ∈ nodes ++ stack := by
      intro start member
      rw [split]
      exact List.mem_append_right first member
    rcases List.append_eq_append_iff.mp split with
      ⟨middle, rfl, rfl⟩ | ⟨middle, rfl, rfl⟩
    · -- The cut is below the followers.
      have fromTop : graph.OpenFrom seen (node :: middle) target := by
        rcases fromFirst with ⟨start, member, fresh, reaches⟩
        rcases List.mem_append.mp member with follower | inMiddle
        · exact ⟨node, List.mem_cons_self, unmarked,
            ReflTransGen.head (edgeTo follower) reaches⟩
        · exact ⟨start, List.mem_cons_of_mem _ inMiddle,
            fun old => fresh (Finset.mem_insert_of_mem old), reaches⟩
      rcases inOrder.orderly (node :: middle) later rfl referrer target
        (widen fromLater) edge fromTop with ⟨start, member, fresh, reaches⟩
      by_cases same : start = node
      · rcases followerOf fromLater laterPart (same ▸ reaches) with
          ⟨follower, isFollower, reaches⟩
        exact ⟨follower, List.mem_append_left _ isFollower, freshFollower isFollower,
          reaches⟩
      · refine ⟨start, List.mem_append_right _ ?_, ?_, reaches⟩
        · exact (List.mem_cons.mp member).resolve_left same
        · rw [Finset.mem_insert]
          exact fun either => either.elim same fresh
    · -- The cut is among the followers.
      have reachedFirst : graph.ReachedFrom first target := by
        rcases fromFirst with ⟨start, member, _, reaches⟩
        exact ⟨start, member, reaches⟩
      have ofMiddle (reached : graph.ReachedFrom middle referrer) :
          graph.OpenFrom (insert node seen) first referrer := by
        rcases isOrderly node isReached first middle follow referrer target reached edge
          reachedFirst with ⟨start, member, reaches⟩
        exact ⟨start, member, freshFollower (List.mem_append_left _ member), reaches⟩
      rcases fromLater with ⟨start, member, fresh, reaches⟩
      rcases List.mem_append.mp member with inMiddle | below
      · exact ofMiddle ⟨start, inMiddle, reaches⟩
      · have belowNode : graph.Reaches node target := by
          rcases reachedFirst with ⟨start, member, reaches⟩
          exact ReflTransGen.head (edgeTo (List.mem_append_left _ member)) reaches
        have back : graph.Reaches node referrer :=
          captured ⟨start, below, fun old => fresh (Finset.mem_insert_of_mem old), reaches⟩
            edge belowNode
        rcases followerOf ⟨start, member, fresh, reaches⟩ laterPart back with
          ⟨follower, isFollower, reaches⟩
        rcases List.mem_append.mp isFollower with inFirst | inMiddle
        · exact ⟨follower, inFirst, freshFollower isFollower, reaches⟩
        · exact ofMiddle ⟨follower, inMiddle, reaches⟩

omit [DecidableEq κ] in
/-- What follows a node, or anything listed after it, is listed after it. -/
theorem FollowersLast.after_edge {visited before after : List κ} {node one other : κ}
    (last : graph.FollowersLast visited) (split : visited = before ++ node :: after)
    (position : one = node ∨ one ∈ after) (edge : graph.Edge one other) :
    other ∈ after := by
  rcases position with same | member
  · exact last before node after split other (same ▸ edge)
  · rcases List.append_of_mem member with ⟨early, late, parts⟩
    have further := last (before ++ node :: early) one late (by rw [split, parts]; simp)
      other edge
    rw [parts]
    exact List.mem_append_right _ (List.mem_cons_of_mem _ further)

variable (own : ∀ node, graph.mark node = node)

include own

theorem Searches.followers_unseen {outcome : Except κ (List κ)}
    (searches : graph.Searches seen stack outcome) (acyclic : graph.Acyclic root)
    (isOrderly : graph.Orderly root) (inOrder : graph.InOrder root seen stack)
    {visited : List κ} (returned : outcome = .ok visited) :
    ∀ before node after, visited = before ++ node :: after →
      ∀ follower, graph.Edge node follower → follower ∉ seen ∧ follower ∉ before := by
  induction searches generalizing visited with
  | done =>
      cases returned
      intro before node after split
      exact absurd split.symm (by simp)
  | skip marked _ induction =>
      rw [own] at marked
      exact induction (inOrder.skip marked) returned
  | stop => cases returned
  | @visit seen head nodes stack outcome unmarked follow _ induction =>
      rcases map_eq_ok.mp returned with ⟨rest, ended, rfl⟩
      rw [own] at unmarked induction
      have later := induction (inOrder.visit acyclic isOrderly unmarked follow) ended
      intro before node after split follower edge
      cases before with
      | nil =>
          cases split
          refine ⟨inOrder.unseen follower ?_, List.not_mem_nil⟩
          exact ⟨head, List.mem_cons_self, unmarked, ReflTransGen.single edge⟩
      | cons first before =>
          cases split
          rcases later before node after rfl follower edge with ⟨unseen, notBefore⟩
          rw [Finset.mem_insert, not_or] at unseen
          refine ⟨unseen.2, fun isBefore => ?_⟩
          rcases List.mem_cons.mp isBefore with same | isBefore
          · exact unseen.1 same
          · exact notBefore isBefore

theorem Searches.followersLast {visited : List κ}
    (searches : graph.Searches ∅ [root] (.ok visited)) (acyclic : graph.Acyclic root)
    (isOrderly : graph.Orderly root) : graph.FollowersLast visited := by
  intro before node after split follower edge
  have notEarlier := searches.followers_unseen own acyclic isOrderly
    (InOrder.start graph root) rfl before node after split follower edge
  have finished := searches.finished rfl
  have member : node ∈ visited := by simp [split]
  have isReached : graph.Reaches root node := by
    rcases finished.reached node member with ⟨start, isStart, reaches⟩
    exact List.mem_singleton.mp isStart ▸ reaches
  have isVisited : follower ∈ visited := by
    rcases finished.closed node member with ⟨nodes, found, known⟩
    rcases edge with ⟨followers, follow, isNext⟩
    rw [found] at follow
    cases follow
    have marked := known follower isNext
    simpa [own] using marked
  rw [split] at isVisited
  rcases List.mem_append.mp isVisited with isBefore | isLater
  · exact absurd isBefore notEarlier.2
  · rcases List.mem_cons.mp isLater with same | isAfter
    · exact absurd (TransGen.single (same ▸ edge)) (acyclic node isReached)
    · exact isAfter

/-- A graph that is visited in order is orderly. -/
theorem Searches.orderly {visited : List κ}
    (searches : graph.Searches ∅ [root] (.ok visited))
    (last : graph.FollowersLast visited) : graph.Orderly root := by
  intro node isReached first later follow referrer target fromLater edge fromFirst
  have visitedNode : node ∈ visited := by
    refine searches.visits ?_ ⟨root, List.mem_singleton_self root, isReached⟩
    intro one other _ _ same
    rwa [own, own] at same
  rcases searches.at_visit rfl visitedNode with
    ⟨before, after, nodes, below, split, found, remaining⟩
  rw [follow] at found
  cases found
  rw [List.append_assoc] at remaining
  rcases remaining.top rfl rfl with ⟨early, late, parts, top⟩
  have distinct : (before ++ node :: after).Nodup := by
    have once := (searches.finished rfl).once
    rwa [show graph.mark = id from funext own, List.map_id, split] at once
  have isAfter {other : κ} (reached : graph.ReachedFrom (first ++ later) other) :
      other ∈ after := by
    rcases reached with ⟨start, member, reaches⟩
    induction reaches with
    | refl => exact last before node after split start ⟨_, follow, member⟩
    | tail _ edge induction => exact last.after_edge split (Or.inr induction) edge
  have ofFirst {other : κ} (reached : graph.ReachedFrom first other) :
      graph.ReachedFrom (first ++ later) other := by
    rcases reached with ⟨start, member, reaches⟩
    exact ⟨start, List.mem_append_left _ member, reaches⟩
  -- Nothing that comes after the node was seen, so all that its first followers
  -- lead to is visited before the others are looked at.
  have finished := top.finished rfl
  have known {other : κ} (reached : graph.ReachedFrom first other)
      (marked : graph.mark other ∈
          insert (graph.mark node) (∅ ∪ (before.map graph.mark).toFinset) ∨
        graph.mark other ∈ early.map graph.mark) : other ∈ early := by
    rw [show graph.mark = id from funext own, List.map_id, List.map_id] at marked
    rcases marked with old | marked
    · have afterNode := isAfter (ofFirst reached)
      simp only [id, Finset.empty_union, Finset.mem_insert, List.mem_toFinset] at old
      rw [List.nodup_append, List.nodup_cons] at distinct
      rcases old with same | old
      · exact absurd (same ▸ afterNode) distinct.2.1.1
      · exact absurd rfl
          (distinct.2.2 other old other (List.mem_cons_of_mem _ afterNode))
    · exact marked
  have visitedEarly {other : κ} (reached : graph.ReachedFrom first other) :
      other ∈ early := by
    rcases reached with ⟨start, member, reaches⟩
    induction reaches with
    | refl => exact known ⟨start, member, ReflTransGen.refl⟩ (finished.covered start member)
    | tail path edge induction =>
        rcases finished.closed _ induction with ⟨nodes, found, closed⟩
        rcases edge with ⟨followers, follow, isNext⟩
        rw [found] at follow
        cases follow
        exact known ⟨start, member, path.tail ⟨nodes, found, isNext⟩⟩ (closed _ isNext)
  have referrerAfter : referrer ∈ after := by
    rcases fromLater with ⟨start, member, reaches⟩
    exact isAfter ⟨start, List.mem_append_right _ member, reaches⟩
  rw [parts] at referrerAfter
  rcases List.mem_append.mp referrerAfter with isEarly | isLate
  · exact finished.reached referrer isEarly
  · rcases List.append_of_mem isLate with ⟨middle, rest, divided⟩
    have targetLate : target ∈ rest :=
      last (before ++ node :: early ++ middle) referrer rest
        (by rw [split, parts, divided]; simp) target edge
    have disjoint : (early ++ late).Nodup := by
      rw [← parts]
      exact (List.nodup_cons.mp (List.nodup_append.mp distinct).2.1).2
    rw [divided] at disjoint
    exact absurd rfl ((List.nodup_append.mp disjoint).2.2 target (visitedEarly fromFirst)
      target (List.mem_append_right _ (List.mem_cons_of_mem _ targetLate)))

/-- Exactly the orderly graphs are visited in order. -/
theorem Searches.followersLast_iff {visited : List κ}
    (searches : graph.Searches ∅ [root] (.ok visited)) (acyclic : graph.Acyclic root) :
    graph.FollowersLast visited ↔ graph.Orderly root :=
  ⟨searches.orderly own, searches.followersLast own acyclic⟩

end Orderly

/-! ## Hidden nodes -/

section Hidden

variable {ν : Type} [DecidableEq ν] {graph : SearchGraph ι κ} {root : ι}

/-- Some nodes of a graph have a name, the others are only passed through.
`flat` lists the names that are met first when a node is searched. -/
structure Contraction (graph : SearchGraph ι κ) (root : ι) (name : ι → Option ν)
    (flat : ι → List ν) (next : ν → Option (List ν)) : Prop where
  apart : ∀ first second, graph.Reaches root first → graph.Reaches root second →
    graph.mark first = graph.mark second → first = second
  acyclic : graph.Acyclic root
  named : ∀ first second shown, name first = some shown → name second = some shown →
    first = second
  shown : ∀ node shown, name node = some shown → flat node = [shown]
  hidden : ∀ node nodes, name node = none → graph.next node = some nodes →
    flat node = nodes.flatMap flat
  follows : ∀ node shown nodes, name node = some shown → graph.next node = some nodes →
    next shown = some (nodes.flatMap flat)
  reached : ∀ node shown, shown ∈ flat node →
    ∃ target, graph.Reaches node target ∧ name target = some shown

/-- Where the followers of a visited node are that were not visited: on top of
the stack, above everything that the node does not lead to. -/
structure Tracked (graph : SearchGraph ι κ) (root : ι) (past stack : List ι) : Prop where
  visited : ∀ node ∈ past, graph.Reaches root node
  waiting : ∀ node ∈ stack, graph.Reaches root node
  pending : ∀ node ∈ past, ∃ above below, stack = above ++ below ∧
    (∀ follower, graph.Edge node follower → follower ∈ past ∨ follower ∈ above) ∧
    ∀ waiting ∈ above, TransGen graph.Edge node waiting

omit [DecidableEq κ]

theorem Tracked.start (graph : SearchGraph ι κ) (root : ι) :
    graph.Tracked root [] [root] where
  visited node member := by cases member
  waiting node member := by
    rw [List.mem_singleton.mp member]
    exact ReflTransGen.refl
  pending node member := by cases member

theorem Tracked.skip {past stack : List ι} {node : ι}
    (tracked : graph.Tracked root past (node :: stack)) (visited : node ∈ past) :
    graph.Tracked root past stack where
  visited := tracked.visited
  waiting other member := tracked.waiting other (List.mem_cons_of_mem _ member)
  pending other member := by
    rcases tracked.pending other member with ⟨above, below, split, followers, leads⟩
    cases above with
    | nil => exact ⟨[], stack, rfl, followers, by simp⟩
    | cons head above =>
        cases split
        refine ⟨above, below, rfl, fun follower edge => ?_, fun waiting isAbove =>
          leads waiting (List.mem_cons_of_mem _ isAbove)⟩
        rcases followers follower edge with known | isAbove
        · exact Or.inl known
        · rcases List.mem_cons.mp isAbove with same | isAbove
          · exact Or.inl (same ▸ visited)
          · exact Or.inr isAbove

theorem Tracked.visit {past stack nodes : List ι} {node : ι}
    (tracked : graph.Tracked root past (node :: stack))
    (follow : graph.next node = some nodes) :
    graph.Tracked root (node :: past) (nodes ++ stack) := by
  have isReached : graph.Reaches root node := tracked.waiting node List.mem_cons_self
  refine ⟨?_, ?_, ?_⟩
  · intro other member
    rcases List.mem_cons.mp member with same | member
    · exact same ▸ isReached
    · exact tracked.visited other member
  · intro other member
    rcases List.mem_append.mp member with follower | below
    · exact isReached.tail ⟨nodes, follow, follower⟩
    · exact tracked.waiting other (List.mem_cons_of_mem _ below)
  · intro other member
    rcases List.mem_cons.mp member with same | member
    · subst same
      refine ⟨nodes, stack, rfl, ?_, fun waiting isNext =>
        TransGen.single ⟨nodes, follow, isNext⟩⟩
      rintro follower ⟨followers, found, isNext⟩
      rw [follow] at found
      cases found
      exact Or.inr isNext
    · rcases tracked.pending other member with ⟨above, below, split, followers, leads⟩
      cases above with
      | nil =>
          refine ⟨[], nodes ++ stack, rfl, fun follower edge => ?_, by simp⟩
          rcases followers follower edge with known | impossible
          · exact Or.inl (List.mem_cons_of_mem _ known)
          · cases impossible
      | cons head above =>
          cases split
          refine ⟨nodes ++ above, below, by simp, fun follower edge => ?_, ?_⟩
          · rcases followers follower edge with known | isAbove
            · exact Or.inl (List.mem_cons_of_mem _ known)
            · rcases List.mem_cons.mp isAbove with same | isAbove
              · exact Or.inl (same ▸ List.mem_cons_self)
              · exact Or.inr (List.mem_append_right _ isAbove)
          · intro waiting isAbove
            rcases List.mem_append.mp isAbove with isNext | isAbove
            · exact (leads node List.mem_cons_self).tail ⟨nodes, follow, isNext⟩
            · exact leads waiting (List.mem_cons_of_mem _ isAbove)

/-- A visited node that is met again leads to visited nodes only. -/
theorem Tracked.complete {past stack : List ι} {node target : ι}
    (tracked : graph.Tracked root past (node :: stack)) (visited : node ∈ past)
    (acyclic : graph.Acyclic root) (reaches : graph.Reaches node target) :
    target ∈ past := by
  induction reaches with
  | refl => exact visited
  | @tail middle target path edge induction =>
      rcases tracked.pending middle induction with ⟨above, below, split, followers, leads⟩
      cases above with
      | nil => exact (followers target edge).resolve_right List.not_mem_nil
      | cons head above =>
          cases split
          have back : TransGen graph.Edge middle node := leads node List.mem_cons_self
          exact absurd (TransGen.trans_right path back)
            (acyclic node (tracked.waiting node List.mem_cons_self))

variable [DecidableEq κ]

theorem Searches.skip_all {graph : SearchGraph ι κ} {seen : Finset κ} {stack : List ι}
    {outcome : Except ι (List ι)} (nodes : List ι)
    (marked : ∀ node ∈ nodes, graph.mark node ∈ seen)
    (searches : graph.Searches seen stack outcome) :
    graph.Searches seen (nodes ++ stack) outcome := by
  induction nodes with
  | nil => exact searches
  | cons head tail induction =>
      exact .skip (marked head List.mem_cons_self)
        (induction fun node member => marked node (List.mem_cons_of_mem _ member))

variable {name : ι → Option ν} {flat : ι → List ν} {next : ν → Option (List ν)}

theorem Contraction.searches_from (contraction : graph.Contraction root name flat next)
    {seen : Finset κ} {stack past visited : List ι} {outcome : Except ι (List ι)}
    (searches : graph.Searches seen stack outcome) (returned : outcome = .ok visited)
    (marks : seen = (past.map graph.mark).toFinset)
    (tracked : graph.Tracked root past stack) :
    (plain next).Searches (past.filterMap name).toFinset (stack.flatMap flat)
      (.ok (visited.filterMap name)) := by
  induction searches generalizing past visited with
  | done =>
      cases returned
      exact .done
  | @skip seen node stack outcome marked _ induction =>
      have known : node ∈ past := by
        rw [marks, List.mem_toFinset] at marked
        rcases List.mem_map.mp marked with ⟨other, member, same⟩
        exact contraction.apart other node (tracked.visited other member)
          (tracked.waiting node List.mem_cons_self) same ▸ member
      rw [List.flatMap_cons]
      refine Searches.skip_all _ ?_ (induction returned marks (tracked.skip known))
      intro shown member
      rcases contraction.reached node shown member with ⟨target, reaches, isNamed⟩
      rw [List.mem_toFinset]
      exact List.mem_filterMap.mpr
        ⟨target, tracked.complete known contraction.acyclic reaches, isNamed⟩
  | stop => cases returned
  | @visit seen node nodes stack outcome unmarked follow _ induction =>
      rcases map_eq_ok.mp returned with ⟨rest, ended, rfl⟩
      have marksNow : insert (graph.mark node) seen =
          ((node :: past).map graph.mark).toFinset := by
        rw [marks, List.map_cons, List.toFinset_cons]
      have later := induction ended marksNow (tracked.visit follow)
      rw [List.flatMap_append] at later
      rw [List.flatMap_cons]
      cases isNamed : name node with
      | none =>
          rw [contraction.hidden node nodes isNamed follow]
          rwa [List.filterMap_cons_none isNamed] at later ⊢
      | some shown =>
          rw [contraction.shown node shown isNamed]
          rw [List.filterMap_cons_some isNamed, List.toFinset_cons] at later
          rw [List.filterMap_cons_some isNamed]
          have fresh : shown ∉ (past.filterMap name).toFinset := by
            intro old
            rw [List.mem_toFinset] at old
            rcases List.mem_filterMap.mp old with ⟨other, member, same⟩
            have isOther := contraction.named other node shown same isNamed
            refine unmarked ?_
            rw [marks, List.mem_toFinset]
            exact List.mem_map_of_mem (isOther ▸ member)
          have follows := contraction.follows node shown nodes isNamed follow
          exact (Searches.visit fresh follows later :)

/-- A search sees the named nodes in the order in which it would see them if
there were no others. -/
theorem Contraction.searches (contraction : graph.Contraction root name flat next)
    {visited : List ι} (searches : graph.Searches ∅ [root] (.ok visited)) :
    (plain next).Searches ∅ (flat root) (.ok (visited.filterMap name)) := by
  have noMarks : (∅ : Finset κ) = (([] : List ι).map graph.mark).toFinset := rfl
  have contracted := contraction.searches_from searches rfl noMarks
    (Tracked.start graph root)
  rwa [List.flatMap_singleton] at contracted

end Hidden

end SearchGraph

end Dragonflow
