import Dragonflow.Controller.ReferenceClosure
import Dragonflow.Foundation.SearchOrder

/-! # The order of the updates

`_send_updates_for_object` updates the references of an object in the reverse
order in which they were found, and then the object.
-/

namespace Dragonflow

open LocalController Relation

variable {α : Type} {find : ObjectKey → Option (Object α)} {root : Object α}

/-- The queue of `_send_updates_for_object`, in the order of the calls of
`update`. -/
def LocalController.updateQueue (find : ObjectKey → Option (Object α)) (fuel : Nat)
    (object : Object α) : Except ReferenceError (List (Object α)) :=
  (getModelReferencesDeep find fuel object).map fun references =>
    references.reverse ++ [object]

/-! ## References of an object -/

mutual
/-- The references of a thing, those of its parts included. -/
def Thing.references : Thing → List ObjectKey
  | .target key => [key]
  | .embedded _ parts => Thing.allReferences parts

def Thing.allReferences : List Thing → List ObjectKey
  | [] => []
  | thing :: things => thing.references ++ Thing.allReferences things
end

theorem Thing.allReferences_eq (things : List Thing) :
    Thing.allReferences things = things.flatMap Thing.references := by
  induction things with
  | nil => rfl
  | cons thing things induction =>
      rw [Thing.allReferences, induction, List.flatMap_cons]

/-- The proxies among the submodels of an object and of the instances that it
embeds. -/
def Object.references (object : Object α) : List ObjectKey :=
  Thing.allReferences object.things

/-- The graph of the references alone. -/
def keyGraph (find : ObjectKey → Option (Object α)) (root : Object α) :
    SearchGraph ObjectKey ObjectKey :=
  .plain fun key => (content find root key).map fun object => object.references.reverse

theorem keyGraph_edge {key other : ObjectKey} :
    (keyGraph find root).Edge key other ↔
      ∃ object, content find root key = some object ∧ other ∈ object.references := by
  constructor
  · rintro ⟨nodes, next, member⟩
    rcases Option.map_eq_some_iff.mp next with ⟨object, found, rfl⟩
    exact ⟨object, found, List.mem_reverse.mp member⟩
  · rintro ⟨object, found, member⟩
    refine ⟨object.references.reverse, ?_, List.mem_reverse.mpr member⟩
    change (content find root key).map _ = _
    rw [found]
    rfl

theorem reaches_references (find : ObjectKey → Option (Object α)) (root : Object α)
    {key : ObjectKey} : ∀ {thing : Thing}, key ∈ thing.references →
      (referenceGraph find root).Reaches thing (.target key)
  | .target other, member => by
      rw [Thing.references, List.mem_singleton] at member
      exact member ▸ ReflTransGen.refl
  | .embedded other parts, member => by
      rw [Thing.references, Thing.allReferences_eq] at member
      rcases List.mem_flatMap.mp member with ⟨part, isPart, member⟩
      have edge : (referenceGraph find root).Edge (.embedded other parts) part :=
        ⟨parts.reverse, rfl, List.mem_reverse.mpr isPart⟩
      exact ReflTransGen.head edge (reaches_references find root member)
termination_by thing => sizeOf thing
decreasing_by
  have smaller := List.sizeOf_lt_of_mem isPart
  simp only [Thing.embedded.sizeOf_spec]
  omega

/-- A reference is a path through the instances that the referrer embeds. -/
theorem keyGraph_edge_path {key other : ObjectKey}
    (edge : (keyGraph find root).Edge key other) :
    TransGen (referenceGraph find root).Edge (.target key) (.target other) := by
  rcases keyGraph_edge.mp edge with ⟨object, found, member⟩
  rw [Object.references, Thing.allReferences_eq] at member
  rcases List.mem_flatMap.mp member with ⟨thing, isThing, member⟩
  have step : (referenceGraph find root).Edge (.target key) thing := by
    refine ⟨object.things.reverse, ?_, List.mem_reverse.mpr isThing⟩
    change (content find root key).map _ = _
    rw [found]
    rfl
  exact TransGen.head' step (reaches_references find root member)

theorem keyGraph_path {key other : ObjectKey}
    (path : TransGen (keyGraph find root).Edge key other) :
    TransGen (referenceGraph find root).Edge (.target key) (.target other) := by
  induction path with
  | single edge => exact keyGraph_edge_path edge
  | tail _ edge induction => exact induction.trans (keyGraph_edge_path edge)

theorem keyGraph_occurs {key : ObjectKey}
    (reaches : (keyGraph find root).Reaches root.key key) :
    Occurs find root (.target key) := by
  rcases reflTransGen_iff_eq_or_transGen.mp reaches with same | path
  · exact same ▸ ReflTransGen.refl
  · exact (keyGraph_path path).to_reflTransGen

theorem keyGraph_acyclic
    (acyclic : (referenceGraph find root).Acyclic (.target root.key)) :
    (keyGraph find root).Acyclic root.key := fun key reaches cycle =>
  acyclic (.target key) (keyGraph_occurs reaches) (keyGraph_path cycle)

theorem references_contract (apart : Apart find root)
    (acyclic : (referenceGraph find root).Acyclic (.target root.key)) :
    (referenceGraph find root).Contraction (.target root.key) Thing.target?
      (fun thing => thing.references.reverse)
      (fun key => (content find root key).map fun object => object.references.reverse) where
  apart first second reachesFirst reachesSecond same :=
    apart first second reachesFirst reachesSecond same
  acyclic := acyclic
  named first second key isFirst isSecond := by
    rw [Thing.target?_eq_some.mp isFirst, Thing.target?_eq_some.mp isSecond]
  shown thing key isNamed := by
    rw [Thing.target?_eq_some.mp isNamed]
    rfl
  hidden thing nodes isHidden next := by
    cases thing with
    | target key => cases isHidden
    | embedded key parts =>
        cases next
        rw [Thing.references, Thing.allReferences_eq, List.reverse_flatMap]
        rfl
  follows thing key nodes isNamed next := by
    rw [Thing.target?_eq_some.mp isNamed] at next
    rcases Option.map_eq_some_iff.mp next with ⟨object, found, rfl⟩
    rw [found, Option.map_some, Object.references, Thing.allReferences_eq,
      List.reverse_flatMap]
    rfl
  reached thing key member :=
    ⟨.target key, reaches_references find root (List.mem_reverse.mp member), rfl⟩

/-! ## The sequence of updates -/

/-- The sequence ends with the object, has everything that the object leads to
once, and has every object after those that it references. -/
structure ReferencesFirst (find : ObjectKey → Option (Object α)) (root : Object α)
    (sequence : List (Object α)) : Prop where
  last : ∃ references, sequence = references ++ [root]
  once : (sequence.map Object.key).Nodup
  all : ∀ key, key ∈ sequence.map Object.key ↔ Occurs find root (.target key)
  ordered : ∀ before object after, sequence = before ++ object :: after →
    ∀ key ∈ object.references, key ∈ before.map Object.key

/-- The keys of the root and of the references, in the order in which they are
found, are a depth first search of the graph of references. -/
theorem getModelReferencesDeep_keys (keyed : Keyed find) (apart : Apart find root)
    (acyclic : (referenceGraph find root).Acyclic (.target root.key)) {fuel : Nat}
    {objects : List (Object α)}
    (returned : getModelReferencesDeep find fuel root = .ok objects) :
    (keyGraph find root).Searches ∅ [root.key]
      (.ok ((root :: objects).map Object.key)) := by
  rcases getModelReferencesDeep_searches keyed returned with ⟨items, _, _, things, keys⟩
  have contracted := (references_contract apart acyclic).searches things
  have isRoot : (Thing.target root.key).target? = some root.key := rfl
  rw [List.filterMap_cons_some isRoot, ← keys] at contracted
  exact contracted

theorem ordered_iff {objects : List (Object α)}
    (contents : ∀ object ∈ root :: objects, content find root object.key = some object) :
    (∀ before object after, objects.reverse ++ [root] = before ++ object :: after →
      ∀ key ∈ object.references, key ∈ before.map Object.key) ↔
    (keyGraph find root).FollowersLast ((root :: objects).map Object.key) := by
  constructor
  · intro ordered before node after split follower edge
    rcases List.map_eq_append_iff.mp split with ⟨early, rest, parts, rfl, isRest⟩
    rcases List.map_eq_cons_iff.mp isRest with ⟨object, late, rfl, rfl, rfl⟩
    rcases keyGraph_edge.mp edge with ⟨found, isFound, member⟩
    have isObject : content find root object.key = some object :=
      contents object (by rw [parts]; simp)
    rw [isObject] at isFound
    cases isFound
    have earlier := ordered late.reverse object early.reverse
      (by rw [← List.reverse_cons, parts]; simp) follower member
    rwa [List.map_reverse, List.mem_reverse] at earlier
  · intro last before object after split key member
    have parts : root :: objects = after.reverse ++ object :: before.reverse := by
      have reversed := congrArg List.reverse split
      simpa using reversed
    have isObject : content find root object.key = some object :=
      contents object (by rw [parts]; simp)
    have later := last (after.reverse.map Object.key) object.key
      (before.reverse.map Object.key) (by rw [parts]; simp) key
      (keyGraph_edge.mpr ⟨object, isObject, member⟩)
    rwa [List.map_reverse, List.mem_reverse] at later

theorem updateQueue_leads (keyed : Keyed find) {catalogue : List (ObjectKey × Object α)}
    (covers : Covers catalogue find) (found : AllFound find root) (apart : Apart find root)
    (acyclic : (referenceGraph find root).Acyclic (.target root.key)) {fuel : Nat}
    (enough : workload catalogue ∅ [.object root] < fuel) :
    ∃ sequence, updateQueue find fuel root = .ok sequence ∧
      (ReferencesFirst find root sequence ↔
        (keyGraph find root).Orderly root.key) := by
  have complete := apart.complete keyed covers enough
  cases outcome : getModelReferencesDeep find fuel root with
  | error error =>
      rw [outcome] at complete
      cases error with
      | referencedObjectNotFound proxy =>
          rcases found _ complete.1 with ⟨object, isFound⟩
          rw [complete.2] at isFound
          cases isFound
      | recursionError => exact complete.elim
  | ok objects =>
      rw [outcome] at complete
      have searches := getModelReferencesDeep_keys keyed apart acyclic outcome
      have contents (object : Object α) (member : object ∈ root :: objects) :
          content find root object.key = some object := by
        unfold content
        rcases List.mem_cons.mp member with same | member
        · rw [same, if_pos rfl]
        · have referenced := (complete.2.1 object.key).mp (List.mem_map_of_mem member)
          rw [if_neg referenced.2]
          exact complete.2.2 object member
      have once : ((objects.reverse ++ [root]).map Object.key).Nodup := by
        rw [← List.reverse_cons, List.map_reverse, List.nodup_reverse]
        have marks := (searches.finished rfl).once
        rwa [show (keyGraph find root).mark = id from rfl, List.map_id] at marks
      have all (key : ObjectKey) : key ∈ (objects.reverse ++ [root]).map Object.key ↔
          Occurs find root (.target key) := by
        rw [← List.reverse_cons, List.map_reverse, List.mem_reverse, List.map_cons,
          List.mem_cons, complete.2.1 key]
        constructor
        · rintro (same | referenced)
          · exact same ▸ ReflTransGen.refl
          · exact referenced.1
        · intro occurs
          exact or_iff_not_imp_left.mpr fun different => ⟨occurs, different⟩
      refine ⟨objects.reverse ++ [root], by rw [updateQueue, outcome]; rfl, ?_⟩
      rw [← searches.followersLast_iff (fun _ => rfl) (keyGraph_acyclic acyclic),
        ← ordered_iff contents]
      exact ⟨fun holds => holds.ordered, fun ordered => ⟨⟨_, rfl⟩, once, all, ordered⟩⟩

variable [DecidableEq α]

/-- In a graph without cycles where all is found and nothing shares an id, the
objects are updated in order exactly if no object references, directly or not,
something that a later one of its references leads to and an earlier one, which
does not lead back, references itself. -/
theorem updateQueue_references_first (order : SetOrder) (stale : Address → Bool)
    (calls : List (Call α)) (database : NbDatabase α) (keyed : NbApi.Keyed database)
    (root : Object α) :
    let world := (Program.trace (Call.run order) calls (World.initial stale)).2
    let find := world.find database
    AllFound find root → Apart find root →
    (referenceGraph find root).Acyclic (.target root.key) →
    ∃ bound, ∀ fuel, bound ≤ fuel →
      ∃ sequence, updateQueue find fuel root = .ok sequence ∧
        (ReferencesFirst find root sequence ↔
          (keyGraph find root).Orderly root.key) := by
  intro world find found apart acyclic
  have removable : world.Removable ∧ world.Coherent :=
    Program.trace_invariant calls (fun call _ => Call.run_coherent order call) _
      ⟨World.removable_initial stale, World.coherent_initial stale⟩
  have keyedFind : Keyed find := World.find_keyed removable.1.keyed keyed
  have covers : Covers (world.catalogue database) find := world.catalogue_covers database
  exact ⟨workload (world.catalogue database) ∅ [.object root] + 1, fun fuel enough =>
    updateQueue_leads keyedFind covers found apart acyclic enough⟩

namespace Models

/-- A port and its switch, with the policies that apply to them. -/
def limitedPort (address : Address) (id : Id) (lswitch policy : Proxy) : Object Unit :=
  ⟨address, logicalPort, id, .ofList
    [("lswitch", .proxy lswitch), ("qos_policy", .proxy policy),
      ("topic", .scalar (.str "t")), ("unique_key", .scalar (.int 7))]⟩

def limitedSwitch (address : Address) (id : Id) (policy : Proxy) : Object Unit :=
  ⟨address, logicalSwitch, id, .ofList
    [("qos_policy", .proxy policy), ("topic", .scalar (.str "t")),
      ("unique_key", .scalar (.int 1)), ("version", .scalar (.int 1))]⟩

def policy (address : Address) (id : Id) : Object Unit :=
  ⟨address, qosPolicy, id, .ofList [("topic", .scalar (.str "t"))]⟩

/-- A switch and its policy. -/
def limits : NbDatabase Unit :=
  (databaseOf (limitedSwitch 3 "s" ⟨4, qosPolicy, "q"⟩)).insert (qosPolicy, "q")
    ⟨policy 5 "q"⟩

theorem limits_keyed : NbApi.Keyed limits := by
  intro key json found
  rw [limits, Dict.lookup_insert_eq] at found
  split at found
  · next same =>
      cases found
      exact same.symm
  · exact databaseOf_keyed _ key json found

section Limits

variable {port : Object Unit} (isPort : port.key = (logicalPort, "p"))
  (parts : ∀ thing ∈ port.things,
    thing = .target (logicalSwitch, "s") ∨ thing = .target (qosPolicy, "q"))

/-- The port, the switch and the policy, by decreasing rank. -/
def limitRank (thing : Thing) : Nat :=
  if thing.key.2 = "p" then 2 else if thing.key.2 = "s" then 1 else 0

def limitFind : ObjectKey → Option (Object Unit) :=
  (World.initial fun _ => false).find limits

include isPort parts

theorem limits_next {thing : Thing}
    (member : thing ∈ [Thing.target (logicalPort, "p"), .target (logicalSwitch, "s"),
      .target (qosPolicy, "q")])
    {follower : Thing} (edge : (referenceGraph limitFind port).Edge thing follower) :
    follower ∈ [Thing.target (logicalPort, "p"), .target (logicalSwitch, "s"),
      .target (qosPolicy, "q")] ∧ limitRank follower < limitRank thing := by
  rcases edge with ⟨nodes, next, isNext⟩
  rcases List.mem_cons.mp member with rfl | member
  · have start : content limitFind port (logicalPort, "p") = some port := by
      rw [content, if_pos isPort.symm]
    simp only [referenceGraph, start, Option.map_some, Option.some.injEq] at next
    rw [← next, List.mem_reverse] at isNext
    rcases parts follower isNext with rfl | rfl <;> exact ⟨by simp, by decide⟩
  · have other (key : ObjectKey) (different : key ≠ (logicalPort, "p")) :
        content limitFind port key = limitFind key := by
      rw [content, if_neg (isPort ▸ different)]
    rcases List.mem_pair.mp member with rfl | rfl
    · simp only [referenceGraph, other (logicalSwitch, "s") (by decide)] at next
      rw [show (limitFind (logicalSwitch, "s")).map (fun object => object.things.reverse) =
        some [.target (qosPolicy, "q")] from rfl] at next
      cases next
      rw [List.mem_singleton.mp isNext]
      exact ⟨by simp, by decide⟩
    · simp only [referenceGraph, other (qosPolicy, "q") (by decide)] at next
      rw [show (limitFind (qosPolicy, "q")).map (fun object => object.things.reverse) =
        some [] from rfl] at next
      cases next
      cases isNext

theorem limits_occurs {thing : Thing} (occurs : Occurs limitFind port thing) :
    thing ∈ [Thing.target (logicalPort, "p"), .target (logicalSwitch, "s"),
      .target (qosPolicy, "q")] := by
  refine occurs.mem (by rw [isPort]; exact List.mem_cons_self) ?_
  intro thing member nodes next node isNext
  exact (limits_next isPort parts member ⟨nodes, next, isNext⟩).1

theorem limits_apart : Apart limitFind port := by
  intro first second occursFirst occursSecond same
  have isFirst := limits_occurs isPort parts occursFirst
  have isSecond := limits_occurs isPort parts occursSecond
  simp only [List.mem_cons, List.not_mem_nil, or_false] at isFirst isSecond
  rcases isFirst with rfl | rfl | rfl <;> rcases isSecond with rfl | rfl | rfl <;>
    first | rfl | exact absurd same (by decide)

theorem limits_acyclic :
    (referenceGraph limitFind port).Acyclic (.target port.key) := by
  have smaller {thing follower : Thing} (occurs : Occurs limitFind port thing)
      (path : TransGen (referenceGraph limitFind port).Edge thing follower) :
      limitRank follower < limitRank thing := by
    induction path with
    | single edge => exact (limits_next isPort parts (limits_occurs isPort parts occurs) edge).2
    | tail path edge induction =>
        have further : Occurs limitFind port _ := occurs.trans path.to_reflTransGen
        exact (limits_next isPort parts (limits_occurs isPort parts further) edge).2.trans
          induction
  intro thing occurs cycle
  exact Nat.lt_irrefl _ (smaller occurs cycle)

theorem limits_found : AllFound limitFind port := by
  intro key referenced
  have member := limits_occurs isPort parts referenced.1
  simp only [List.mem_cons, List.not_mem_nil, or_false, Thing.target.injEq] at member
  rcases member with rfl | rfl | rfl
  · exact absurd isPort.symm referenced.2
  · exact ⟨limitedSwitch 3 "s" ⟨4, qosPolicy, "q"⟩, rfl⟩
  · exact ⟨policy 5 "q", rfl⟩

end Limits

/-- A port without a policy: the policy of its switch comes first. -/
theorem updateQueue_references_first_chain :
    let port := attachedPort 1 "p" "t" 7 ⟨2, logicalSwitch, "s"⟩
    ∃ bound, ∀ fuel, bound ≤ fuel →
      ∃ sequence, updateQueue limitFind fuel port = .ok sequence ∧
        ReferencesFirst limitFind port sequence := by
  intro port
  have isPort : port.key = (logicalPort, "p") := rfl
  have parts (thing : Thing) (member : thing ∈ port.things) :
      thing = .target (logicalSwitch, "s") ∨ thing = .target (qosPolicy, "q") := by
    rw [show port.things = [.target (logicalSwitch, "s")] from rfl] at member
    exact Or.inl (List.mem_singleton.mp member)
  have short (key : ObjectKey) (reaches : (keyGraph limitFind port).Reaches port.key key)
      (nodes : List ObjectKey) (next : (keyGraph limitFind port).next key = some nodes) :
      nodes.length ≤ 1 := by
    have member := limits_occurs isPort parts (keyGraph_occurs reaches)
    simp only [List.mem_cons, List.not_mem_nil, or_false, Thing.target.injEq] at member
    rcases member with rfl | rfl | rfl
    · rw [show (keyGraph limitFind port).next (logicalPort, "p") =
        some [(logicalSwitch, "s")] from rfl] at next
      cases next
      decide
    · rw [show (keyGraph limitFind port).next (logicalSwitch, "s") =
        some [(qosPolicy, "q")] from rfl] at next
      cases next
      decide
    · rw [show (keyGraph limitFind port).next (qosPolicy, "q") = some [] from rfl] at next
      cases next
      decide
  have orderly : (keyGraph limitFind port).Orderly port.key := by
    intro key reaches first later next referrer target fromLater _ fromFirst
    have atMostOne := short key reaches _ next
    rw [List.length_append] at atMostOne
    rcases fromLater with ⟨below, isBelow, _⟩
    rcases fromFirst with ⟨above, isAbove, _⟩
    have someBelow := List.length_pos_of_mem isBelow
    have someAbove := List.length_pos_of_mem isAbove
    omega
  rcases updateQueue_references_first SetOrder.insertion (fun _ => false) [] limits
    limits_keyed port (limits_found isPort parts) (limits_apart isPort parts)
    (limits_acyclic isPort parts) with ⟨bound, holds⟩
  refine ⟨bound, fun fuel enough => ?_⟩
  rcases holds fuel enough with ⟨sequence, returned, exactly⟩
  exact ⟨sequence, returned, exactly.mpr orderly⟩

/-- The policy of a port is also that of its switch. The switch is updated before
its policy. -/
theorem updateQueue_switch_before_policy :
    let port := limitedPort 1 "p" ⟨2, logicalSwitch, "s"⟩ ⟨6, qosPolicy, "q"⟩
    AllFound limitFind port ∧ Apart limitFind port ∧
    (referenceGraph limitFind port).Acyclic (.target port.key) ∧
    ¬ ∃ bound, ∀ fuel, bound ≤ fuel →
      ∃ sequence, updateQueue limitFind fuel port = .ok sequence ∧
        ReferencesFirst limitFind port sequence := by
  intro port
  have isPort : port.key = (logicalPort, "p") := rfl
  have parts (thing : Thing) (member : thing ∈ port.things) :
      thing = .target (logicalSwitch, "s") ∨ thing = .target (qosPolicy, "q") := by
    rw [show port.things = [.target (logicalSwitch, "s"), .target (qosPolicy, "q")]
      from rfl] at member
    exact List.mem_pair.mp member
  refine ⟨limits_found isPort parts, limits_apart isPort parts,
    limits_acyclic isPort parts, fun ends => ?_⟩
  rcases ends with ⟨bound, holds⟩
  rcases holds (bound + 6) (by omega) with ⟨sequence, returned, references⟩
  have updated : updateQueue limitFind (bound + 6) port =
      .ok [limitedSwitch 3 "s" ⟨4, qosPolicy, "q"⟩, policy 5 "q", port] := rfl
  rw [updated] at returned
  cases returned
  have early := references.ordered [] _ _ rfl (qosPolicy, "q") (by decide)
  cases early

end Models

end Dragonflow
