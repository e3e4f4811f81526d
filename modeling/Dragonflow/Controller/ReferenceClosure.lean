import Dragonflow.Controller.References
import Mathlib.Algebra.BigOperators.Group.List.Basic

/-! # The closure of the references

`get_model_references_deep` remembers what it has seen by id alone. It returns
the closure of the references if different instances have different ids.
-/

namespace Dragonflow

open LocalController Relation

variable {α : Type} {find : ObjectKey → Option (Object α)} {root : Object α}

/-! ## The loop is a depth first search -/

/-- What the loop yields for an item. -/
def Submodel.yields (find : ObjectKey → Option (Object α)) :
    Submodel α → Option (Object α)
  | .object _ => none
  | .proxy reference => find reference.key

theorem follow_eq (find : ObjectKey → Option (Object α)) (item : Submodel α) :
    (∃ object, item.object? find = some object ∧
      follow find item = .ok (object, (item.yields find).toList)) ∨
    (∃ reference, item = .proxy reference ∧ item.object? find = none ∧
      follow find item = .error (.referencedObjectNotFound reference)) := by
  cases item with
  | object embedded => exact Or.inl ⟨embedded, rfl, rfl⟩
  | proxy reference =>
      cases found : find reference.key with
      | none =>
          exact Or.inr ⟨reference, rfl, found, by simp [follow, found]⟩
      | some object =>
          exact Or.inl ⟨object, found, by simp [follow, found, Submodel.yields]⟩

/-- What the loop does is a depth first search. -/
theorem iterModelReferencesDeep_searches (find : ObjectKey → Option (Object α))
    (fuel : Nat) (seen : Finset Id)
    (queue : List (Submodel α)) :
    match iterModelReferencesDeep find fuel seen queue with
    | .ok objects => ∃ visited, (submodelGraph find).Searches seen queue (.ok visited) ∧
        objects = visited.filterMap (Submodel.yields find)
    | .error (.referencedObjectNotFound reference) =>
        (submodelGraph find).Searches seen queue (.error (.proxy reference))
    | .error .recursionError => True := by
  induction fuel generalizing seen queue with
  | zero => trivial
  | succ fuel induction =>
      cases queue with
      | nil => exact ⟨[], .done, rfl⟩
      | cons item queue =>
          rw [iterModelReferencesDeep]
          by_cases marked : item.id ∈ seen
          · rw [if_pos marked]
            have rest := induction seen queue
            split at rest
            · rcases rest with ⟨visited, searches, same⟩
              exact ⟨visited, .skip marked searches, same⟩
            · exact .skip marked rest
            · trivial
          · rw [if_neg marked]
            rcases follow_eq find item with
              ⟨object, found, followed⟩ | ⟨reference, rfl, missing, followed⟩
            · rw [followed]
              have follow : (submodelGraph find).next item =
                  some object.iterSubmodels.reverse := by
                simp only [submodelGraph, found, Option.map_some]
              have rest := induction (insert item.id seen)
                (object.iterSubmodels.reverse ++ queue)
              simp only
              split at rest
              · next objects ended =>
                  rcases rest with ⟨visited, searches, same⟩
                  rw [ended]
                  refine ⟨_, .visit marked follow searches, ?_⟩
                  rw [same]
                  cases yielded : item.yields find with
                  | none => simp [yielded]
                  | some object => simp [yielded]
              · next reference ended =>
                  rw [ended]
                  exact .visit marked follow rest
              · next ended =>
                  rw [ended]
                  trivial
            · rw [followed]
              refine .stop marked ?_
              simp only [submodelGraph, missing, Option.map_none]

/-- Away from the root, submodels and things lead to the same. -/
theorem next_thing {item : Submodel α} (other : item.id ≠ root.id) :
    (referenceGraph find root).next item.thing =
      ((submodelGraph find).next item).map (List.map Submodel.thing) := by
  cases item with
  | object embedded =>
      change some embedded.things.reverse = _
      rw [embedded.things_eq, ← List.map_reverse]
      rfl
  | proxy reference =>
      have notRoot : reference.key ≠ root.key := fun same =>
        other (congrArg Prod.snd same)
      change (content find root reference.key).map _ = _
      rw [content, if_neg notRoot]
      simp only [submodelGraph, Submodel.object?, Option.map_map]
      congr 1
      funext object
      simp only [Function.comp, object.things_eq, List.map_reverse]

theorem searches_root {outcome : Except (Submodel α) (List (Submodel α))}
    (searches : (submodelGraph find).Searches ∅ [.object root] outcome) :
    ∃ rest : Except (Submodel α) (List (Submodel α)),
      outcome = rest.map (.object root :: ·) ∧
      (referenceGraph find root).Searches ∅ [.target root.key]
        (((rest.map (List.map Submodel.thing)).mapError Submodel.thing).map
          (.target root.key :: ·)) := by
  cases searches with
  | skip marked _ => exact absurd marked (Finset.notMem_empty _)
  | stop _ absent => cases absent
  | @visit _ _ nodes _ rest _ follow searches =>
      cases follow
      rw [List.append_nil] at searches
      have renamed := searches.rename Submodel.thing Submodel.key_thing fun item unseen =>
        next_thing fun same => unseen (Finset.mem_insert.mpr (Or.inl same))
      have start : (referenceGraph find root).next (.target root.key) =
          some root.things.reverse := by
        simp [referenceGraph, content]
      rw [List.map_reverse, ← root.things_eq, ← List.append_nil root.things.reverse]
        at renamed
      exact ⟨rest, rfl, .visit (Finset.notMem_empty _) start renamed⟩

/-- What occurs belongs to every set of things that is closed under references. -/
theorem Occurs.mem {things : List Thing} (start : .target root.key ∈ things)
    (closed : ∀ thing ∈ things, ∀ nodes, (referenceGraph find root).next thing = some nodes →
      ∀ node ∈ nodes, node ∈ things)
    {thing : Thing} (occurs : Occurs find root thing) : thing ∈ things := by
  induction occurs with
  | refl => exact start
  | tail _ edge induction =>
      rcases edge with ⟨nodes, next, member⟩
      exact closed _ induction nodes next _ member

/-! ## What is returned -/

def Thing.target? : Thing → Option ObjectKey
  | .target key => some key
  | .embedded _ _ => none

theorem Thing.target?_eq_some {thing : Thing} {key : ObjectKey} :
    thing.target? = some key ↔ thing = .target key := by
  cases thing <;> simp [Thing.target?]

/-- Everything is found under its own key. -/
def Keyed (find : ObjectKey → Option (Object α)) : Prop :=
  ∀ key object, find key = some object → object.key = key

/-- The objects that a search finds are those of the targets that it visits. -/
theorem keys_yielded (keyed : Keyed find) {visited : List (Submodel α)}
    (found : ∀ item ∈ visited, ∃ nodes, (submodelGraph find).next item = some nodes) :
    (visited.filterMap (Submodel.yields find)).map Object.key =
      (visited.map Submodel.thing).filterMap Thing.target? := by
  induction visited with
  | nil => rfl
  | cons item visited induction =>
      have rest := induction fun other member =>
        found other (List.mem_cons_of_mem _ member)
      cases item with
      | object embedded =>
          rw [List.map_cons, List.filterMap_cons_none (by rfl),
            List.filterMap_cons_none (by rfl), rest]
      | proxy reference =>
          rcases found (.proxy reference) List.mem_cons_self with ⟨nodes, next⟩
          rcases Option.map_eq_some_iff.mp next with ⟨object, isFound, _⟩
          have yields : Submodel.yields find (.proxy reference) = some object := isFound
          rw [List.map_cons, List.filterMap_cons_some yields, List.map_cons,
            List.filterMap_cons_some (by rfl), rest, keyed _ _ isFound]

/-- Either an object that is referenced cannot be found, or the objects that are
referenced are returned once each. -/
def Complete (find : ObjectKey → Option (Object α)) (root : Object α) :
    Except ReferenceError (List (Object α)) → Prop
  | .ok objects => (objects.map Object.key).Nodup ∧
      (∀ key, key ∈ objects.map Object.key ↔ Referenced find root key) ∧
      ∀ object ∈ objects, find object.key = some object
  | .error (.referencedObjectNotFound proxy) =>
      Referenced find root proxy.key ∧ find proxy.key = none
  | .error .recursionError => False

/-- What is true whatever the ids are: the objects are referenced, and their ids
are different from each other and from that of the root. -/
structure Sound (find : ObjectKey → Option (Object α)) (root : Object α)
    (objects : List (Object α)) : Prop where
  referenced : ∀ object ∈ objects, Referenced find root object.key
  found : ∀ object ∈ objects, find object.key = some object
  ids : (root.id :: objects.map Object.id).Nodup
  complete : Apart find root → ∀ key, Referenced find root key →
    key ∈ objects.map Object.key

theorem occurs_of_reached {thing : Thing}
    (reached : (referenceGraph find root).ReachedFrom [.target root.key] thing) :
    Occurs find root thing := by
  rcases reached with ⟨start, member, reaches⟩
  rw [List.mem_singleton.mp member] at reaches
  exact reaches

theorem Occurs.reached {thing : Thing} (occurs : Occurs find root thing) :
    (referenceGraph find root).ReachedFrom [.target root.key] thing :=
  ⟨_, List.mem_singleton_self _, occurs⟩

theorem Submodel.id_of_yields (keyed : Keyed find) {item : Submodel α} {object : Object α}
    (yields : item.yields find = some object) : object.id = item.id := by
  cases item with
  | object embedded => cases yields
  | proxy reference => exact congrArg Prod.snd (keyed _ _ yields)

theorem ids_yielded (keyed : Keyed find) (items : List (Submodel α)) :
    List.Sublist ((items.filterMap (Submodel.yields find)).map Object.id)
      (items.map Submodel.id) := by
  induction items with
  | nil => exact .slnil
  | cons item items induction =>
      cases yields : item.yields find with
      | none =>
          rw [List.filterMap_cons_none yields]
          exact induction.cons _
      | some object =>
          rw [List.filterMap_cons_some yields, List.map_cons, List.map_cons,
            Submodel.id_of_yields keyed yields]
          exact induction.cons_cons _

/-- What is returned, in terms of the two searches. -/
theorem getModelReferencesDeep_searches (keyed : Keyed find) {fuel : Nat}
    {objects : List (Object α)}
    (returned : getModelReferencesDeep find fuel root = .ok objects) :
    ∃ items, objects = items.filterMap (Submodel.yields find) ∧
      (submodelGraph find).Searches ∅ [.object root] (.ok (.object root :: items)) ∧
      (referenceGraph find root).Searches ∅ [.target root.key]
        (.ok (.target root.key :: items.map Submodel.thing)) ∧
      objects.map Object.key = (items.map Submodel.thing).filterMap Thing.target? := by
  have loop := iterModelReferencesDeep_searches find fuel ∅ [.object root]
  unfold getModelReferencesDeep at returned
  rw [returned] at loop
  rcases loop with ⟨visited, searches, rfl⟩
  rcases searches_root searches with ⟨rest, isVisited, things⟩
  rcases SearchGraph.map_eq_ok.mp isVisited.symm with ⟨items, rfl, rfl⟩
  refine ⟨items, List.filterMap_cons_none rfl, searches, things, ?_⟩
  rw [List.filterMap_cons_none rfl]
  refine keys_yielded keyed fun item member => ?_
  rcases (searches.finished rfl).closed item (List.mem_cons_of_mem _ member) with
    ⟨nodes, next, _⟩
  exact ⟨nodes, next⟩

theorem getModelReferencesDeep_sound (keyed : Keyed find) {fuel : Nat}
    {objects : List (Object α)}
    (returned : getModelReferencesDeep find fuel root = .ok objects) :
    Sound find root objects := by
  rcases getModelReferencesDeep_searches keyed returned with
    ⟨items, rfl, searches, things, yieldedKeys⟩
  have finished := searches.finished rfl
  have finishedThings := things.finished rfl
  have ids : (root.id :: (items.filterMap (Submodel.yields find)).map Object.id).Nodup :=
    (List.Sublist.cons_cons root.id (ids_yielded keyed items)).nodup finished.once
  have member {object : Object α}
      (isYielded : object ∈ items.filterMap (Submodel.yields find)) :
      ∃ item ∈ items, item.thing = .target object.key ∧ find object.key = some object := by
    rcases List.mem_filterMap.mp isYielded with ⟨item, isItem, yields⟩
    refine ⟨item, isItem, ?_⟩
    cases item with
    | object embedded => cases yields
    | proxy reference =>
        rw [keyed _ _ yields]
        exact ⟨rfl, yields⟩
  refine ⟨?_, ?_, ids, ?_⟩
  · intro object isYielded
    rcases member isYielded with ⟨item, isItem, isTarget, _⟩
    constructor
    · exact occurs_of_reached (finishedThings.reached _
        (List.mem_cons_of_mem _ (isTarget ▸ List.mem_map_of_mem isItem)))
    · intro same
      refine (List.nodup_cons.mp ids).1 ?_
      rw [show root.id = object.id from (congrArg Prod.snd same).symm]
      exact List.mem_map_of_mem isYielded
  · intro object isYielded
    exact (member isYielded).choose_spec.2.2
  · intro apart key referenced
    have isVisited := things.visits
      (fun first second one other same => apart first second (occurs_of_reached one)
        (occurs_of_reached other) same) referenced.1.reached
    rcases List.mem_cons.mp isVisited with same | isVisited
    · cases same
      exact absurd rfl referenced.2
    · rw [yieldedKeys]
      exact List.mem_filterMap.mpr ⟨_, isVisited, rfl⟩

theorem getModelReferencesDeep_raises {fuel : Nat} {proxy : Proxy}
    (raised : getModelReferencesDeep find fuel root =
      .error (.referencedObjectNotFound proxy)) :
    Referenced find root proxy.key ∧ find proxy.key = none := by
  have loop := iterModelReferencesDeep_searches find fuel ∅ [.object root]
  unfold getModelReferencesDeep at raised
  rw [raised] at loop
  rcases searches_root loop with ⟨rest, stopped, things⟩
  rw [SearchGraph.map_eq_error.mp stopped.symm] at things
  rcases things.missing rfl with ⟨absent, _, reached⟩
  have missing : content find root proxy.key = none := Option.map_eq_none_iff.mp absent
  unfold content at missing
  split at missing
  · cases missing
  · next different => exact ⟨⟨occurs_of_reached reached, different⟩, missing⟩

/-! ## The loop ends -/

mutual
/-- How many submodels a thing is made of. -/
def Thing.size : Thing → Nat
  | .target _ => 1
  | .embedded _ parts => Thing.sizes parts + 1

def Thing.sizes : List Thing → Nat
  | [] => 0
  | thing :: things => thing.size + Thing.sizes things
end

theorem Thing.size_pos (thing : Thing) : 0 < thing.size := by
  cases thing <;> simp [Thing.size]

theorem Thing.sizes_append (first second : List Thing) :
    Thing.sizes (first ++ second) = Thing.sizes first + Thing.sizes second := by
  induction first with
  | nil => simp [Thing.sizes]
  | cons thing things induction =>
      rw [List.cons_append, Thing.sizes, Thing.sizes, induction]
      omega

theorem Thing.sizes_reverse (things : List Thing) :
    Thing.sizes things.reverse = Thing.sizes things := by
  induction things with
  | nil => rfl
  | cons thing things induction =>
      rw [List.reverse_cons, Thing.sizes_append, induction, Thing.sizes, Thing.sizes,
        Thing.sizes]
      omega

/-- Lists all that can be found. -/
def Covers (catalogue : List (ObjectKey × Object α))
    (find : ObjectKey → Option (Object α)) : Prop :=
  ∀ key object, find key = some object → (key, object) ∈ catalogue

/-- The submodels of all that was not seen. -/
def unseenSize (seen : Finset Id) : List (ObjectKey × Object α) → Nat
  | [] => 0
  | (key, object) :: rest =>
      (if key.2 ∈ seen then 0 else Thing.sizes object.things) + unseenSize seen rest

theorem unseenSize_insert_le (seen : Finset Id) (id : Id)
    (catalogue : List (ObjectKey × Object α)) :
    unseenSize (insert id seen) catalogue ≤ unseenSize seen catalogue := by
  induction catalogue with
  | nil => exact Nat.le_refl _
  | cons entry rest induction =>
      simp only [unseenSize, Finset.mem_insert]
      split_ifs <;> simp_all
      omega

/-- Seeing an object for the first time pays for its submodels. -/
theorem unseenSize_insert {seen : Finset Id} {key : ObjectKey} {object : Object α}
    {catalogue : List (ObjectKey × Object α)} (member : (key, object) ∈ catalogue)
    (fresh : key.2 ∉ seen) :
    unseenSize (insert key.2 seen) catalogue + Thing.sizes object.things ≤
      unseenSize seen catalogue := by
  induction catalogue with
  | nil => cases member
  | cons entry rest induction =>
      rcases List.mem_cons.mp member with same | member
      · subst same
        simp only [unseenSize, Finset.mem_insert_self, if_pos, if_neg fresh]
        have := unseenSize_insert_le seen key.2 rest
        omega
      · have later := induction member
        simp only [unseenSize, Finset.mem_insert]
        split_ifs <;> simp_all <;> omega

/-- What is left to do. -/
def workload (catalogue : List (ObjectKey × Object α)) (seen : Finset Id)
    (queue : List (Submodel α)) : Nat :=
  Thing.sizes (queue.map Submodel.thing) + unseenSize seen catalogue

theorem iterModelReferencesDeep_ends {catalogue : List (ObjectKey × Object α)}
    (covers : Covers catalogue find) {fuel : Nat} {seen : Finset Id}
    {queue : List (Submodel α)} (enough : workload catalogue seen queue < fuel) :
    iterModelReferencesDeep find fuel seen queue ≠ .error .recursionError := by
  induction fuel generalizing seen queue with
  | zero => omega
  | succ fuel induction =>
      cases queue with
      | nil => exact fun impossible => by cases impossible
      | cons item queue =>
          have positive := item.thing.size_pos
          unfold workload at enough
          rw [List.map_cons, Thing.sizes] at enough
          rw [iterModelReferencesDeep]
          split
          · refine induction ?_
            unfold workload
            omega
          · next unmarked =>
              rcases follow_eq find item with
                ⟨object, found, followed⟩ | ⟨reference, rfl, missing, followed⟩
              · rw [followed]
                have rest : workload catalogue (insert item.id seen)
                    (object.iterSubmodels.reverse ++ queue) < fuel := by
                  unfold workload
                  rw [List.map_append, List.map_reverse, ← object.things_eq,
                    Thing.sizes_append, Thing.sizes_reverse]
                  cases item with
                  | object embedded =>
                      cases found
                      have less := unseenSize_insert_le seen object.id catalogue
                      simp only [Submodel.thing, Thing.size] at enough
                      change _ + _ + unseenSize (insert object.id seen) catalogue < _
                      omega
                  | proxy reference =>
                      have less := unseenSize_insert (covers _ _ found) unmarked
                      change _ + _ + unseenSize (insert reference.key.2 seen) catalogue < _
                      omega
                have ends := induction rest
                simp only
                cases ended : iterModelReferencesDeep find fuel (insert item.id seen)
                    (object.iterSubmodels.reverse ++ queue) with
                | ok objects => exact fun impossible => by cases impossible
                | error error =>
                    rw [ended] at ends
                    exact fun same => ends (by cases same; rfl)
              · rw [followed]
                simp

/-! ## The store and the database -/

/-- The database holds every instance under its own key. -/
def NbApi.Keyed (database : NbDatabase α) : Prop :=
  ∀ key json, database.lookup key = some json → json.content.key = key

/-- All that the store and the database hold. -/
def World.catalogue (world : World α) (database : NbDatabase α) :
    List (ObjectKey × Object α) :=
  (world.store.cache.entries.flatMap fun cache =>
    cache.2.objs.entries.map fun entry => ((cache.1, entry.1), entry.2)) ++
  database.entries.map fun entry => (entry.1, entry.2.content)

theorem World.catalogue_covers (world : World α) (database : NbDatabase α) :
    Covers (world.catalogue database) (world.find database) := by
  intro key object found
  unfold World.find at found
  cases stored : world.stored key with
  | some held =>
      rw [stored] at found
      cases found
      unfold World.stored World.cacheOf at stored
      cases cached : world.store.cache.lookup key.1 with
      | none =>
          rw [cached] at stored
          cases stored
      | some cache =>
          rw [cached] at stored
          refine List.mem_append_left _ (List.mem_flatMap.mpr ⟨⟨key.1, cache⟩, ?_, ?_⟩)
          · exact AList.mem_lookup_iff.mp cached
          · exact List.mem_map.mpr ⟨⟨key.2, _⟩, AList.mem_lookup_iff.mp stored, rfl⟩
  | none =>
      rw [stored] at found
      rcases Option.map_eq_some_iff.mp found with ⟨json, present, rfl⟩
      exact List.mem_append_right _
        (List.mem_map.mpr ⟨⟨key, json⟩, AList.mem_lookup_iff.mp present, rfl⟩)

theorem World.find_keyed {world : World α} {database : NbDatabase α}
    (stored : ∀ key object, world.stored key = some object → object.key = key)
    (keyed : NbApi.Keyed database) : Keyed (world.find database) := by
  intro key object found
  rcases Option.or_eq_some_iff.mp found with held | ⟨_, present⟩
  · exact stored key object held
  · rcases Option.map_eq_some_iff.mp present with ⟨json, lookup, rfl⟩
    exact keyed key json lookup

/-- Embedded instances share their id with nothing else. -/
def EmbeddedApart (find : ObjectKey → Option (Object α)) (root : Object α) : Prop :=
  ∀ key parts other, Occurs find root (.embedded key parts) → Occurs find root other →
    key.2 = other.key.2 → .embedded key parts = other

theorem Apart.complete (keyed : Keyed find) {catalogue : List (ObjectKey × Object α)}
    (covers : Covers catalogue find) (apart : Apart find root) {fuel : Nat}
    (enough : workload catalogue ∅ [.object root] < fuel) :
    Complete find root (getModelReferencesDeep find fuel root) := by
  cases outcome : getModelReferencesDeep find fuel root with
  | ok objects =>
      have sound := getModelReferencesDeep_sound keyed outcome
      have keys : (objects.map Object.key).Nodup := by
        have ids := (List.nodup_cons.mp sound.ids).2
        rw [show objects.map Object.id = (objects.map Object.key).map Prod.snd by
          rw [List.map_map]; rfl] at ids
        exact ids.of_map
      refine ⟨keys, fun key => ⟨fun member => ?_, sound.complete apart key⟩, sound.found⟩
      rcases List.mem_map.mp member with ⟨object, isReturned, rfl⟩
      exact sound.referenced object isReturned
  | error error =>
      cases error with
      | referencedObjectNotFound proxy => exact getModelReferencesDeep_raises outcome
      | recursionError => exact iterModelReferencesDeep_ends covers enough outcome

/-- If all is found, two references with one id are never both returned. -/
theorem Complete.apart (keyed : Keyed find) {fuel : Nat} (found : AllFound find root)
    (embedded : EmbeddedApart find root)
    (complete : Complete find root (getModelReferencesDeep find fuel root)) :
    Apart find root := by
  cases outcome : getModelReferencesDeep find fuel root with
  | error error =>
      rw [outcome] at complete
      cases error with
      | referencedObjectNotFound proxy =>
          rcases found _ complete.1 with ⟨object, isFound⟩
          rw [complete.2] at isFound
          cases isFound
      | recursionError => exact complete.elim
  | ok objects =>
      rw [outcome] at complete
      have ids := (getModelReferencesDeep_sound keyed outcome).ids
      have isKnown {key : ObjectKey} (occurs : Occurs find root (.target key)) :
          key ∈ root.key :: objects.map Object.key := by
        by_cases same : key = root.key
        · exact same ▸ List.mem_cons_self
        · exact List.mem_cons_of_mem _ ((complete.2.1 key).mpr ⟨occurs, same⟩)
      have once : ((root.key :: objects.map Object.key).map Prod.snd).Nodup := by
        rw [List.map_cons, List.map_map]
        exact ids
      intro first second occursFirst occursSecond same
      cases first with
      | embedded key parts => exact embedded key parts second occursFirst occursSecond same
      | target key =>
          cases second with
          | embedded other parts =>
              exact (embedded other parts (.target key) occursSecond occursFirst
                same.symm).symm
          | target other =>
              rw [List.inj_on_of_nodup_map once (isKnown occursFirst)
                (isKnown occursSecond) same]

variable [DecidableEq α]

/-- Dereferencing a proxy in any store that was only ever used through its
interface. -/
theorem Proxy.dereference_eq_find (order : SetOrder) (stale : Address → Bool)
    (calls : List (Call α)) (database : NbDatabase α) (reference : Proxy) :
    let world := (Program.trace (Call.run order) calls (World.initial stale)).2
    (Program.exec (reference.dereference database) world).1 =
      .ok (world.find database reference.key) := by
  intro world
  have coherent : world.Removable ∧ world.Coherent :=
    Program.trace_invariant calls (fun call _ => Call.run_coherent order call) _
      ⟨World.removable_initial stale, World.coherent_initial stale⟩
  rcases (reference.dereference_leads coherent.2 database).returned with
    ⟨found, after, executed, isFound, _⟩
  rw [executed, isFound]

/-- The references of an object are all found, or one of them is missing, if no
two instances that the object leads to have the same id. Where nothing is
missing and the embedded instances have ids of their own, this is necessary. -/
theorem getModelReferencesDeep_complete (order : SetOrder) (stale : Address → Bool)
    (calls : List (Call α)) (database : NbDatabase α) (keyed : NbApi.Keyed database)
    (root : Object α) :
    let world := (Program.trace (Call.run order) calls (World.initial stale)).2
    let find := world.find database
    ∃ bound, ∀ fuel, bound ≤ fuel →
      (Apart find root → Complete find root (getModelReferencesDeep find fuel root)) ∧
      (AllFound find root → EmbeddedApart find root →
        (Complete find root (getModelReferencesDeep find fuel root) ↔
          Apart find root)) := by
  intro world find
  have removable : world.Removable ∧ world.Coherent :=
    Program.trace_invariant calls (fun call _ => Call.run_coherent order call) _
      ⟨World.removable_initial stale, World.coherent_initial stale⟩
  have keyedFind : Keyed find := World.find_keyed removable.1.keyed keyed
  have covers : Covers (world.catalogue database) find := world.catalogue_covers database
  refine ⟨workload (world.catalogue database) ∅ [.object root] + 1, fun fuel enough => ?_⟩
  have sufficient (apart : Apart find root) :
      Complete find root (getModelReferencesDeep find fuel root) :=
    apart.complete keyedFind covers enough
  exact ⟨sufficient, fun found embedded =>
    ⟨fun complete => complete.apart keyedFind found embedded, sufficient⟩⟩

namespace Models

/-- A database that holds a switch, or a port, and nothing else. -/
def databaseOf (object : Object Unit) : NbDatabase Unit :=
  (∅ : NbDatabase Unit).insert object.key ⟨object⟩

theorem databaseOf_keyed (object : Object Unit) : NbApi.Keyed (databaseOf object) := by
  intro key json found
  rw [databaseOf, Dict.lookup_insert_eq] at found
  split at found
  · next same =>
      cases found
      exact same.symm
  · cases found

/-- The port refers to a switch that only the database has. -/
theorem getModelReferencesDeep_complete_attached_port :
    let find := (World.initial fun _ => false).find (databaseOf (switch 3 "s" "t" 1 1))
    let port := attachedPort 1 "p" "t" 7 ⟨2, logicalSwitch, "s"⟩
    ∃ bound, ∀ fuel, bound ≤ fuel →
      Complete find port (getModelReferencesDeep find fuel port) := by
  intro find port
  have apart : Apart find port := by
    have occurs {thing : Thing} (isThere : Occurs find port thing) :
        thing ∈ [Thing.target (logicalPort, "p"), .target (logicalSwitch, "s")] := by
      refine isThere.mem (by simp [port, attachedPort, Object.key]) ?_
      intro thing member nodes next
      rcases List.mem_pair.mp member with rfl | rfl
      · rw [show (referenceGraph find port).next (.target (logicalPort, "p")) =
          some [.target (logicalSwitch, "s")] from rfl] at next
        cases next
        simp
      · rw [show (referenceGraph find port).next (.target (logicalSwitch, "s")) =
          some [] from rfl] at next
        cases next
        simp
    intro first second occursFirst occursSecond same
    rcases List.mem_pair.mp (occurs occursFirst) with rfl | rfl <;>
      rcases List.mem_pair.mp (occurs occursSecond) with rfl | rfl <;>
      first | rfl | (exact absurd same (by decide))
  rcases getModelReferencesDeep_complete SetOrder.insertion (fun _ => false) []
    (databaseOf (switch 3 "s" "t" 1 1)) (databaseOf_keyed _) port with ⟨bound, holds⟩
  exact ⟨bound, fun fuel enough => (holds fuel enough).1 apart⟩

/-- A migration has the id of the port that it refers to. The port is found, but
not returned. -/
theorem getModelReferencesDeep_skips_port :
    let find := (World.initial fun _ => false).find (databaseOf (unboundPort 3 "p" "t" 7))
    let moving := migrating 1 "p" ⟨2, logicalPort, "p"⟩
    ¬ ∃ bound, ∀ fuel, bound ≤ fuel →
      Complete find moving (getModelReferencesDeep find fuel moving) := by
  intro find moving ends
  rcases ends with ⟨bound, holds⟩
  have complete := holds (bound + 3) (by omega)
  have returned : getModelReferencesDeep find (bound + 3) moving = .ok [] := rfl
  rw [returned] at complete
  have referenced : Referenced find moving (logicalPort, "p") := by
    constructor
    · exact ReflTransGen.single
        ⟨[.target (logicalPort, "p")], rfl, List.mem_singleton_self _⟩
    · decide
  have member := (complete.2.1 (logicalPort, "p")).mpr referenced
  cases member

end Models

end Dragonflow
