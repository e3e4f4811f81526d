import Dragonflow.Db.Queries
import Mathlib.Data.List.Dedup
import Mathlib.Data.List.Nodup

/-! # Queries that find an object twice

A query by an index can have several keys, and an object can be filed under several. The
query lists an object once for every pair of keys that match.
-/

namespace Dragonflow

open Program

/-! ## Streams without repetitions -/

section Streams

variable {ι β : Type}

/-- Lists that are joined share nothing if a value tells the list it came from. -/
theorem nodup_flatMap_iff {items : List ι} {listed : ι → List β} (distinct : items.Nodup)
    (each : ∀ item ∈ items, (listed item).Nodup) :
    (items.flatMap listed).Nodup ↔
      ∀ item ∈ items, ∀ other ∈ items, ∀ value, value ∈ listed item →
        value ∈ listed other → item = other := by
  rw [List.nodup_flatMap]
  constructor
  · intro holds item member other otherMember value isListed isOtherListed
    by_contra different
    have symmetric : Std.Symm (Function.onFun List.Disjoint listed) :=
      ⟨fun _ _ disjoint _ isSecond isFirst => disjoint isFirst isSecond⟩
    have disjoint := holds.2.forall member otherMember different
    exact disjoint isListed isOtherListed
  · intro unique
    refine ⟨each, distinct.imp_of_mem ?_⟩
    intro item other member otherMember different value isListed isOtherListed
    exact different (unique item member other otherMember value isListed isOtherListed)

theorem nodup_sections {choices : List (List β)}
    (each : ∀ choice ∈ choices, choice.Nodup) : choices.sections.Nodup := by
  induction choices with
  | nil => exact List.nodup_singleton _
  | cons choice choices induction =>
      have rest := induction fun other member => each other (List.mem_cons_of_mem _ member)
      have first := each choice List.mem_cons_self
      rw [List.sections, nodup_flatMap_iff rest]
      · intro tail _ other _ value isListed isOtherListed
        rcases List.mem_map.mp isListed with ⟨head, _, isValue⟩
        rcases List.mem_map.mp isOtherListed with ⟨otherHead, _, isOtherValue⟩
        rw [← isOtherValue] at isValue
        exact (List.cons.inj isValue).2
      · intro tail _
        exact first.map fun head other same => (List.cons.inj same).1

end Streams

/-! ## The paths of a query through a tree -/

namespace RadixTree

variable {κ ν : Type} [DecidableEq κ]

/-- The children of a node that one segment of a query selects, with their keys. -/
def selected {depth : Nat} (segment : Option κ) (node : RadixTree κ ν (depth + 1)) :
    List (Option κ × RadixTree κ ν depth) :=
  match segment with
  | none => (node : Dict (Option κ) (RadixTree κ ν depth)).entries.map fun entry =>
      (entry.1, entry.2)
  | some key => ((AList.lookup (some key)
      (node : Dict (Option κ) (RadixTree κ ν depth))).toList).map (some key, ·)

/-- The paths of the tree that a query takes. -/
def paths : (depth : Nat) → RadixTree κ ν depth → List (Option κ) → List (List (Option κ))
  | 0, _, _ => [[]]
  | _ + 1, _, [] => []
  | depth + 1, node, segment :: path =>
      (selected segment node).flatMap fun below =>
        (paths depth below.2 path).map (below.1 :: ·)

theorem mem_selected {depth : Nat} (segment : Option κ)
    (node : RadixTree κ ν (depth + 1)) (below : Option κ × RadixTree κ ν depth) :
    below ∈ selected segment node ↔ (segment = none ∨ segment = below.1) ∧
      AList.lookup below.1 (node : Dict (Option κ) (RadixTree κ ν depth)) =
        some below.2 := by
  rcases below with ⟨key, subtree⟩
  cases segment with
  | none =>
      rw [selected, List.mem_map]
      constructor
      · rintro ⟨entry, member, same⟩
        cases same
        exact ⟨Or.inl rfl, AList.mem_lookup_iff.mpr member⟩
      · intro found
        exact ⟨⟨key, subtree⟩, AList.mem_lookup_iff.mp found.2, rfl⟩
  | some given =>
      rw [selected, List.mem_map]
      constructor
      · rintro ⟨found, member, same⟩
        cases same
        exact ⟨Or.inr rfl, Option.mem_toList.mp member⟩
      · rintro ⟨wildcard | same, found⟩
        · cases wildcard
        · have isKey : some given = key := same
          subst isKey
          exact ⟨subtree, Option.mem_toList.mpr found, rfl⟩

theorem selected_nodup {depth : Nat} (segment : Option κ)
    (node : RadixTree κ ν (depth + 1)) : (selected segment node).Nodup := by
  cases segment with
  | none =>
      have distinct : (node : Dict (Option κ) (RadixTree κ ν depth)).entries.Nodup :=
        List.NodupKeys.nodup (node : Dict (Option κ) (RadixTree κ ν depth)).nodupKeys
      refine distinct.map ?_
      rintro ⟨key, subtree⟩ ⟨otherKey, otherSubtree⟩ same
      cases same
      rfl
  | some key =>
      have atMostOne : ∀ found : Option (RadixTree κ ν depth),
          (found.toList.map ((some key : Option κ), ·)).Nodup := by
        intro found
        cases found with
        | none => exact List.nodup_nil
        | some subtree => exact List.nodup_singleton _
      exact atMostOne _

theorem mem_paths (depth : Nat) (tree : RadixTree κ ν depth) (query key : List (Option κ))
    (deep : query.length = depth) (member : key ∈ paths depth tree query) :
    Matches query key := by
  induction depth generalizing query key with
  | zero =>
      rw [List.length_eq_zero_iff.mp deep, List.mem_singleton.mp member]
      exact List.Forall₂.nil
  | succ depth induction =>
      cases query with
      | nil => cases deep
      | cons segment query =>
          rcases List.mem_flatMap.mp member with ⟨below, isSelected, isPath⟩
          rcases List.mem_map.mp isPath with ⟨rest, restMember, isKey⟩
          rw [← isKey]
          exact List.Forall₂.cons ((mem_selected segment tree below).mp isSelected).1
            (induction below.2 query rest (Nat.succ.inj deep) restMember)

/-- A query takes every path that it matches and that leads to a value. -/
theorem mem_paths_of_value (depth : Nat) (tree : RadixTree κ ν depth)
    {query key : List (Option κ)} {value : ν} (matched : Matches query key)
    (held : value ∈ valuesAt depth tree key) : key ∈ paths depth tree query := by
  induction depth generalizing query key with
  | zero =>
      cases matched with
      | nil => exact List.mem_singleton_self _
      | cons _ _ => cases held
  | succ depth induction =>
      cases matched with
      | nil => cases held
      | cons headMatches restMatches =>
          rcases (mem_valuesAt_child tree _ _ value).mp held with ⟨subtree, found, below⟩
          apply List.mem_flatMap.mpr
          refine ⟨(_, subtree), (mem_selected _ tree _).mpr ⟨headMatches, found⟩, ?_⟩
          exact List.mem_map_of_mem (induction subtree restMatches below)

theorem paths_nodup (depth : Nat) (tree : RadixTree κ ν depth) (query : List (Option κ)) :
    (paths depth tree query).Nodup := by
  induction depth generalizing query with
  | zero => exact List.nodup_singleton _
  | succ depth induction =>
      cases query with
      | nil => exact List.nodup_nil
      | cons segment query =>
          rw [paths, nodup_flatMap_iff (selected_nodup segment tree)]
          · rintro ⟨head, subtree⟩ isSelected ⟨otherHead, otherSubtree⟩ isOther path
              isPath isOtherPath
            rcases List.mem_map.mp isPath with ⟨rest, _, same⟩
            rcases List.mem_map.mp isOtherPath with ⟨otherRest, _, otherSame⟩
            rw [← otherSame] at same
            have sameHead : head = otherHead := (List.cons.inj same).1
            have found := ((mem_selected segment tree _).mp isSelected).2
            have otherFound := ((mem_selected segment tree _).mp isOther).2
            subst sameHead
            have sameSubtree : subtree = otherSubtree :=
              Option.some.inj (found.symm.trans otherFound)
            rw [sameSubtree]
          · intro below _
            exact (induction below.2 query).map fun _ _ same => (List.cons.inj same).2

theorem getAllFrom_eq (depth : Nat) (nodes : List (RadixTree κ ν depth))
    (query : List (Option κ)) (deep : query.length = depth) :
    getAllFrom depth nodes query =
      nodes.flatMap fun node => (paths depth node query).flatMap (valuesAt depth node) := by
  induction depth generalizing query with
  | zero =>
      rw [getAllFrom, List.flatten_eq_flatMap]
      apply List.flatMap_congr
      intro node _
      exact (List.append_nil _).symm
  | succ depth induction =>
      cases query with
      | nil => cases deep
      | cons segment query =>
          have isSelect : select segment nodes =
              nodes.flatMap fun node => (selected segment node).map Prod.snd := by
            apply List.flatMap_congr
            intro node _
            cases segment with
            | none => rw [selected, List.map_map]; rfl
            | some key => rw [selected, List.map_map]; exact (List.map_id _).symm
          rw [getAllFrom, induction _ query (Nat.succ.inj deep), isSelect, List.flatMap_assoc]
          apply List.flatMap_congr
          intro node _
          rw [paths, List.flatMap_assoc, List.flatMap_map]
          apply List.flatMap_congr
          intro below isSelected
          have found := ((mem_selected segment node below).mp isSelected).2
          rw [List.flatMap_map]
          apply List.flatMap_congr
          intro path _
          have isBelow : child node below.1 = below.2 := by
            unfold child
            rw [found]
            rfl
          rw [valuesAt, isBelow]

/-- The values of the leaves at the ends of the paths that a query takes. -/
theorem getAll_eq_paths (depth : Nat) (tree : RadixTree κ ν depth)
    (query : List (Option κ)) (deep : query.length = depth) :
    getAll depth tree query = (paths depth tree query).flatMap (valuesAt depth tree) := by
  rw [getAll, getAllFrom_eq depth [tree] query deep, List.flatMap_singleton]

/-- Several queries find nothing twice if each value is found through one pair of a query
and a path. -/
theorem getAll_nodup_iff {depth : Nat} {tree : RadixTree κ ν depth}
    (distinct : Distinct depth tree) {queries : List (List (Option κ))}
    (unrepeated : queries.Nodup) (deep : ∀ query ∈ queries, query.length = depth) :
    (queries.flatMap (getAll depth tree)).Nodup ↔
      ∀ query ∈ queries, ∀ other ∈ queries, ∀ key otherKey value,
        Matches query key → Matches other otherKey → value ∈ valuesAt depth tree key →
        value ∈ valuesAt depth tree otherKey → query = other ∧ key = otherKey := by
  let pairs := queries.flatMap fun query => (paths depth tree query).map (query, ·)
  have mem_pairs : ∀ pair, pair ∈ pairs ↔
      pair.1 ∈ queries ∧ pair.2 ∈ paths depth tree pair.1 := by
    rintro ⟨query, key⟩
    constructor
    · intro member
      rcases List.mem_flatMap.mp member with ⟨given, isQuery, isPair⟩
      rcases List.mem_map.mp isPair with ⟨path, isPath, same⟩
      cases same
      exact ⟨isQuery, isPath⟩
    · intro member
      exact List.mem_flatMap.mpr ⟨query, member.1, List.mem_map_of_mem member.2⟩
  have isStream : queries.flatMap (getAll depth tree) =
      pairs.flatMap fun pair => valuesAt depth tree pair.2 := by
    rw [List.flatMap_assoc]
    apply List.flatMap_congr
    intro query isQuery
    rw [getAll_eq_paths depth tree query (deep query isQuery), List.flatMap_map]
  have pairsDistinct : pairs.Nodup := by
    apply (nodup_flatMap_iff unrepeated _).mpr
    · intro query _ other _ pair isPair isOtherPair
      rcases List.mem_map.mp isPair with ⟨path, _, same⟩
      rcases List.mem_map.mp isOtherPair with ⟨otherPath, _, otherSame⟩
      rw [← otherSame] at same
      exact congrArg Prod.fst same
    · intro query _
      exact (paths_nodup depth tree query).map fun _ _ same => congrArg Prod.snd same
  rw [isStream, nodup_flatMap_iff pairsDistinct fun pair _ => distinct pair.2]
  constructor
  · intro unique query isQuery other isOther key otherKey value matched otherMatched held
      otherHeld
    have same := unique (query, key)
      ((mem_pairs _).mpr ⟨isQuery, mem_paths_of_value depth tree matched held⟩)
      (other, otherKey)
      ((mem_pairs _).mpr ⟨isOther, mem_paths_of_value depth tree otherMatched otherHeld⟩)
      value held otherHeld
    exact ⟨congrArg Prod.fst same, congrArg Prod.snd same⟩
  · intro unique pair isPair other isOther value held otherHeld
    rcases (mem_pairs pair).mp isPair with ⟨isQuery, isPath⟩
    rcases (mem_pairs other).mp isOther with ⟨isOtherQuery, isOtherPath⟩
    rcases unique pair.1 isQuery other.1 isOtherQuery pair.2 other.2 value
      (mem_paths depth tree _ _ (deep _ isQuery) isPath)
      (mem_paths depth tree _ _ (deep _ isOtherQuery) isOtherPath) held otherHeld with
      ⟨sameQuery, sameKey⟩
    exact Prod.ext sameQuery sameKey

end RadixTree

variable {α : Type} [DecidableEq α]

/-! ## Keys of a query -/

theorem IndexCache.getKeyElements_nodup (object : Object α) (index : Index)
    (world : World α) :
    Leads (IndexCache.getKeyElements object index) world
      (fun elements _ => ∀ element ∈ elements, element.Nodup) (fun _ _ => True) := by
  induction index generalizing world with
  | nil =>
      intro element impossible
      cases impossible
  | cons path index induction =>
      have isSet : ∀ start, Leads (IndexCache.getKeyElement object path) start
          (fun element _ => element.Nodup) (fun _ _ => True) := by
        intro start
        unfold IndexCache.getKeyElement
        refine leads_true.bind fun reached middle _ => ?_
        refine leads_true.bind fun nodes after _ => ?_
        exact leads_pure.mpr (List.nodup_dedup _)
      refine (isSet world).bind fun element middle distinct => ?_
      refine (induction middle).bind fun rest after restDistinct => ?_
      rw [leads_pure]
      intro other member
      rcases List.mem_cons.mp member with same | member
      · rw [same]
        exact distinct
      · exact restDistinct other member

theorem World.nodup_of_keysAt {world : World α} {object : Object α} {index : Index}
    {keys : List (Key α)} (computed : world.keysAt object index = .ok keys) :
    keys.Nodup := by
  have leads : Leads (IndexCache.getKeys object index) world
      (fun keys _ => keys.Nodup) (fun _ _ => True) := by
    unfold IndexCache.getKeys
    refine (IndexCache.getKeyElements_nodup object index world).bind ?_
    intro elements after distinct
    exact leads_pure.mpr (nodup_sections distinct)
  unfold World.keysAt at computed
  rcases executed : exec (IndexCache.getKeys object index) world with ⟨result, after⟩
  rw [executed] at computed
  exact leads.of_ok (executed.trans (congrArg (·, after) computed))

/-! ## What a query is to answer -/

namespace World

/-- The stored object of the id has the id of the query, or a key that a key of the query
matches. -/
def Answers (world : World α) (query : Object α) (index : Index) (id : Id) : Prop :=
  (world.stored (query.model, id)).isSome ∧
    if index = Model.idIndex then id = query.id
    else ∃ queries, world.keysAt query index = .ok queries ∧
      world.Finds query.model index queries id

/-- A query answers with each object once, and asks for one object without an error
unless there are several. -/
structure AnsweredOnce (world : World α) (query : Object α) (index : Index) : Prop where
  getKeys : Leads (DbStore.getKeys query (some index)) world
    (fun ids _ => ids.Nodup ∧ ∀ id, id ∈ ids ↔ world.Answers query index id)
    (fun _ _ => False)
  getAll : Leads (DbStore.getAll query (some index)) world
    (fun objects _ => (objects.map Object.key).Nodup ∧ ∀ object, object ∈ objects ↔
      ∃ id, world.Answers query index id ∧ world.stored (query.model, id) = some object)
    (fun _ _ => False)
  getOne : Leads (DbStore.getOne query (some index)) world
    (fun result _ => (result = none ∧ ∀ id, ¬world.Answers query index id) ∨
      ∃ id object, result = some object ∧ world.stored (query.model, id) = some object ∧
        world.Answers query index id ∧
        ∀ other, world.Answers query index other → other = id)
    (fun error _ => error = .valueError ∧ ∃ id other, id ≠ other ∧
      world.Answers query index id ∧ world.Answers query index other)

omit [DecidableEq α] in
/-- No stored object is met by two pairs of a key of the query and a key that it had when
it was last updated. -/
def MetOnce (world : World α) (model : Model) (index : Index) (queries : List (Key α)) :
    Prop :=
  ∀ id object keys recorded, lastUpdate world.history (model, id) = some (object, keys) →
    keys index = .ok recorded → ∀ query ∈ queries, ∀ other ∈ queries,
      ∀ key ∈ recorded, ∀ otherKey ∈ recorded, RadixTree.Matches query key →
        RadixTree.Matches other otherKey → query = other ∧ key = otherKey

/-- The object is stored, for a query by id; and otherwise the query has keys, which meet
no object twice. -/
def Unambiguous (world : World α) (query : Object α) (index : Index) : Prop :=
  if index = Model.idIndex then (world.stored query.key).isSome = true
  else ∃ queries, world.keysAt query index = .ok queries ∧
    world.MetOnce query.model index queries

end World

/-! ## Queries by id -/

section

variable {world : World α} {query : Object α}

theorem World.answers_id {id : Id} :
    world.Answers query Model.idIndex id ↔ id = query.id ∧ (world.stored query.key).isSome := by
  unfold World.Answers
  rw [if_pos rfl]
  constructor
  · intro answers
    rcases answers with ⟨stored, same⟩
    rw [same] at stored
    exact ⟨same, stored⟩
  · intro answers
    rcases answers with ⟨same, stored⟩
    rw [same]
    exact ⟨stored, rfl⟩

theorem getKeys_id_leads (world : World α) (query : Object α) :
    Leads (DbStore.getKeys query (some Model.idIndex)) world
      (fun ids after => ids = [query.id] ∧ World.Alike world after) (fun _ _ => False) := by
  unfold DbStore.getKeys ModelCache.getKeys
  refine (getCache_leads query.model world).bind fun _ created alike => ?_
  simp only [if_true]
  exact leads_pure.mpr ⟨rfl, alike⟩

theorem World.Consistent.answeredOnce_id (consistent : world.Consistent)
    (stored : (world.stored query.key).isSome) :
    world.AnsweredOnce query Model.idIndex := by
  have answers : ∀ id, id ∈ [query.id] ↔ world.Answers query Model.idIndex id := by
    intro id
    rw [World.answers_id, List.mem_singleton]
    exact (and_iff_left stored).symm
  rcases Option.isSome_iff_exists.mp stored with ⟨object, isObject⟩
  refine ⟨?_, ?_, ?_⟩
  · refine (getKeys_id_leads world query).mono ?_ fun _ _ impossible => impossible
    intro ids _ listed
    rw [listed.1]
    exact ⟨List.nodup_singleton _, answers⟩
  · rw [DbStore.getAll_eq]
    refine (getKeys_id_leads world query).bind fun ids after listed => ?_
    rw [listed.1]
    refine ((consistent.alike listed.2).getByIds_leads (List.nodup_singleton _) ?_).mono ?_
      fun _ _ impossible => impossible
    · intro id member
      rw [List.mem_singleton.mp member, listed.2.stored]
      exact stored
    · intro objects _ looked
      refine ⟨looked.1, fun other => ?_⟩
      rw [looked.2, listed.2.stored]
      constructor
      · intro held
        rcases held with ⟨isModel, isStored, member⟩
        refine ⟨other.id, (answers other.id).mp member, ?_⟩
        rw [← isModel]
        exact isStored
      · intro held
        rcases held with ⟨id, answer, isStored⟩
        have isKey := consistent.key_of_stored isStored
        have isModel : other.model = query.model := congrArg Prod.fst isKey
        have isId : other.id = id := congrArg Prod.snd isKey
        rw [isKey, isId]
        exact ⟨isModel, isStored, (answers id).mpr answer⟩
  · unfold DbStore.getOne ModelCache.getOne
    refine (getCache_leads query.model world).returning.bind fun _ created alike => ?_
    simp only [or_true, if_true]
    rw [leads_bind, leads_get, leads_pure, alike.stored, isObject]
    right
    refine ⟨query.id, object, rfl, isObject, (answers query.id).mp (by simp), ?_⟩
    intro other answer
    exact (World.answers_id.mp answer).1

theorem World.AnsweredOnce.stored_of_id (once : world.AnsweredOnce query Model.idIndex) :
    (world.stored query.key).isSome := by
  have listed := ((getKeys_id_leads world query).and once.getKeys).mono
    (fun _ _ both => both) fun _ _ impossible => impossible.1
  rcases listed.returned with ⟨ids, after, _, ⟨isId, _⟩, _, answers⟩
  have member : query.id ∈ ids := by
    rw [isId]
    exact List.mem_singleton_self _
  exact (World.answers_id.mp ((answers query.id).mp member)).2

end

/-! ## Queries by other indexes -/

section

variable {world : World α} {query : Object α} {index : Index}

theorem World.answers_key (isOther : index ≠ Model.idIndex) {queries : List (Key α)}
    (computed : world.keysAt query index = .ok queries) {id : Id} :
    world.Answers query index id ↔ world.Finds query.model index queries id := by
  unfold World.Answers
  rw [if_neg isOther]
  constructor
  · intro answers
    rcases answers.2 with ⟨others, otherComputed, finds⟩
    cases computed.symm.trans otherComputed
    exact finds
  · intro finds
    rcases finds with ⟨object, keys, recorded, stored, last, hadKeys, matched⟩
    refine ⟨?_, queries, computed, object, keys, recorded, stored, last, hadKeys, matched⟩
    rw [stored]
    rfl

/-- The stream of ids that the index gives for the keys of the query. -/
theorem getKeys_stream_leads (declared : index ∈ query.model.cachedIndexes) :
    Leads (DbStore.getKeys query (some index)) world
      (fun ids after => World.Alike world after ∧
        ∃ queries, world.keysAt query index = .ok queries ∧
          ids = ((world.cacheOf query.model).indexes index).getAll queries)
      (fun error _ => world.keysAt query index = .error error) := by
  unfold DbStore.getKeys ModelCache.getKeys
  have isOther : index ≠ Model.idIndex := (Model.mem_cachedIndexes.mp declared).2
  simp only [isOther, declared, if_false, if_true]
  refine (getCache_leads query.model world).returning.bind fun _ created alikeCreated => ?_
  have sameKeys := World.keysAt_congr alikeCreated.resolve query
  refine ((IndexCache.getKeys_leads query index created).mono
    (fun _ _ computed => computed) ?_).bind ?_
  · intro error _ raised
    rw [← sameKeys, raised.1]
  · intro queries after listed
    rcases listed with ⟨computed, alikeComputed⟩
    rw [leads_bind, leads_get, leads_pure]
    have alike := alikeCreated.trans alikeComputed
    refine ⟨alike, queries, by rw [← sameKeys, computed], ?_⟩
    rw [alike.cacheOf]

/-- What `get_one` makes of the ids that the index gives. -/
def ModelCache.takeOnly (model : Model) : List Id → Action α (Option (Object α))
  | [] => return none
  | [id] => do
      let world ← get
      return world.stored (model, id)
  | _ :: _ :: _ => throw .valueError

theorem DbStore.getOne_eq (isOther : index ≠ Model.idIndex) :
    DbStore.getOne query (some index) =
      DbStore.getKeys query (some index) >>= ModelCache.takeOnly query.model := by
  unfold DbStore.getOne DbStore.getKeys ModelCache.getOne
  have isCached : ¬(some index = none ∨ some index = some Model.idIndex) := by
    intro either
    rcases either with impossible | same
    · cases impossible
    · exact isOther (Option.some.inj same)
  simp only [if_neg isCached]
  rw [bind_assoc]
  congr 1
  funext _
  congr 1
  funext ids
  cases ids with
  | nil => rfl
  | cons first rest =>
      cases rest with
      | nil => rfl
      | cons second rest => rfl

namespace World.Consistent

/-- The stream has no repetitions just when the keys meet no object twice. -/
theorem stream_nodup_iff (consistent : world.Consistent) (distinct : world.Distinct)
    (declared : index ∈ query.model.cachedIndexes) {queries : List (Key α)}
    (computed : world.keysAt query index = .ok queries) :
    (((world.cacheOf query.model).indexes index).getAll queries).Nodup ↔
      world.MetOnce query.model index queries := by
  have records := consistent.indexed query.model index declared
  have deep : ∀ asked ∈ queries, asked.length = index.length :=
    fun _ member => World.length_of_mem_keysAt computed member
  have listed := RadixTree.getAll_nodup_iff (distinct query.model index)
    (World.nodup_of_keysAt computed) deep
  have isUnder : ∀ id key,
      id ∈ RadixTree.valuesAt index.length
        ((world.cacheOf query.model).indexes index).tree key ↔
      ∃ object keys recorded,
        lastUpdate world.history (query.model, id) = some (object, keys) ∧
        keys index = .ok recorded ∧ key ∈ recorded := by
    intro id key
    rw [records.faithful.tree, records.mem_members]
  unfold IndexCache.getAll
  rw [listed]
  constructor
  · intro unique id object keys recorded last hadKeys asked isQuery other isOther key hadKey
      otherKey hadOther matched otherMatched
    exact unique asked isQuery other isOther key otherKey id matched otherMatched
      ((isUnder id key).mpr ⟨object, keys, recorded, last, hadKeys, hadKey⟩)
      ((isUnder id otherKey).mpr ⟨object, keys, recorded, last, hadKeys, hadOther⟩)
  · intro once asked isQuery other isOther key otherKey id matched otherMatched held otherHeld
    rcases (isUnder id key).mp held with ⟨object, keys, recorded, last, hadKeys, hadKey⟩
    rcases (isUnder id otherKey).mp otherHeld with
      ⟨otherObject, others, otherRecorded, otherLast, hadOthers, hadOther⟩
    cases last.symm.trans otherLast
    cases hadKeys.symm.trans hadOthers
    exact once id object keys recorded last hadKeys asked isQuery other isOther key hadKey
      otherKey hadOther matched otherMatched

theorem answeredOnce_of_metOnce (consistent : world.Consistent) (distinct : world.Distinct)
    (declared : index ∈ query.model.cachedIndexes) {queries : List (Key α)}
    (computed : world.keysAt query index = .ok queries)
    (once : world.MetOnce query.model index queries) : world.AnsweredOnce query index := by
  have isOther : index ≠ Model.idIndex := (Model.mem_cachedIndexes.mp declared).2
  have deep : ∀ asked ∈ queries, asked.length = index.length :=
    fun _ member => World.length_of_mem_keysAt computed member
  have listed : Leads (DbStore.getKeys query (some index)) world
      (fun ids after => World.Alike world after ∧ ids.Nodup ∧
        ∀ id, id ∈ ids ↔ world.Answers query index id) (fun _ _ => False) := by
    refine (getKeys_stream_leads declared).mono ?_ ?_
    · intro ids after stream
      rcases stream with ⟨alike, others, otherComputed, isStream⟩
      cases computed.symm.trans otherComputed
      rw [isStream]
      refine ⟨alike, (consistent.stream_nodup_iff distinct declared computed).mpr once, ?_⟩
      intro id
      rw [World.answers_key isOther computed]
      exact consistent.mem_getAll declared deep id
    · intro error _ raised
      cases computed.symm.trans raised
  have present : ∀ id, world.Answers query index id →
      ∃ object, world.stored (query.model, id) = some object :=
    fun id answers => Option.isSome_iff_exists.mp answers.1
  refine ⟨?_, ?_, ?_⟩
  · exact listed.mono (fun _ _ found => found.2) fun _ _ impossible => impossible
  · rw [DbStore.getAll_eq]
    refine listed.bind fun ids after found => ?_
    rcases found with ⟨alike, nodup, answers⟩
    refine ((consistent.alike alike).getByIds_leads nodup ?_).mono ?_
      fun _ _ impossible => impossible
    · intro id member
      rw [alike.stored]
      exact ((answers id).mp member).1
    · intro objects _ looked
      refine ⟨looked.1, fun object => ?_⟩
      rw [looked.2, alike.stored]
      constructor
      · intro held
        rcases held with ⟨isModel, isStored, member⟩
        refine ⟨object.id, (answers object.id).mp member, ?_⟩
        rw [← isModel]
        exact isStored
      · intro held
        rcases held with ⟨id, answer, isStored⟩
        have isKey := consistent.key_of_stored isStored
        have isModel : object.model = query.model := congrArg Prod.fst isKey
        have isId : object.id = id := congrArg Prod.snd isKey
        rw [isKey, isId]
        exact ⟨isModel, isStored, (answers id).mpr answer⟩
  · rw [DbStore.getOne_eq isOther]
    refine listed.returning.bind fun ids after found => ?_
    rcases found with ⟨alike, nodup, answers⟩
    cases ids with
    | nil =>
        rw [ModelCache.takeOnly, leads_pure]
        left
        refine ⟨rfl, fun id answer => ?_⟩
        exact List.not_mem_nil ((answers id).mpr answer)
    | cons first rest =>
        cases rest with
        | nil =>
            rw [ModelCache.takeOnly, leads_bind, leads_get, leads_pure, alike.stored]
            have answer := (answers first).mp List.mem_cons_self
            rcases present first answer with ⟨object, isStored⟩
            right
            refine ⟨first, object, isStored, isStored, answer, ?_⟩
            intro other otherAnswer
            exact List.mem_singleton.mp ((answers other).mpr otherAnswer)
        | cons second rest =>
            rw [ModelCache.takeOnly, leads_throw]
            refine ⟨rfl, first, second, ?_, (answers first).mp List.mem_cons_self,
              (answers second).mp (List.mem_cons_of_mem _ List.mem_cons_self)⟩
            intro same
            rw [same] at nodup
            exact (List.nodup_cons.mp nodup).1 List.mem_cons_self

/-- Queries answer with each object once just when they are not ambiguous. -/
theorem answeredOnce_iff (consistent : world.Consistent) (distinct : world.Distinct)
    (declared : index = Model.idIndex ∨ index ∈ query.model.cachedIndexes) :
    world.AnsweredOnce query index ↔ world.Unambiguous query index := by
  unfold World.Unambiguous
  by_cases isId : index = Model.idIndex
  · rw [if_pos isId]
    subst isId
    exact ⟨World.AnsweredOnce.stored_of_id, consistent.answeredOnce_id⟩
  · rw [if_neg isId]
    have isCached := declared.resolve_left isId
    constructor
    · intro once
      have listed := ((getKeys_stream_leads isCached).and once.getKeys).mono
        (fun _ _ both => both) fun _ _ impossible => impossible.2
      rcases listed.returned with
        ⟨ids, after, _, ⟨_, queries, computed, isStream⟩, nodup, _⟩
      rw [isStream] at nodup
      exact ⟨queries, computed,
        (consistent.stream_nodup_iff distinct isCached computed).mp nodup⟩
    · intro unambiguous
      rcases unambiguous with ⟨queries, computed, once⟩
      exact consistent.answeredOnce_of_metOnce distinct isCached computed once

end World.Consistent

end

/-! ## States that the calls lead to -/

theorem World.Served.answered_once_iff_unambiguous {order : SetOrder} {world : World α}
    (served : world.Served order) (query : Object α) (index : Index)
    (declared : index ∈ query.model.getIndexes.map Prod.snd) :
    world.AnsweredOnce query index ↔ world.Unambiguous query index := by
  apply served.consistent.answeredOnce_iff served.distinct
  by_cases isId : index = Model.idIndex
  · exact Or.inl isId
  · right
    rcases List.mem_map.mp declared with ⟨⟨name, same⟩, isDeclared, isIndex⟩
    cases isIndex
    rcases List.mem_cons.mp isDeclared with impossible | isDeclared
    · exact absurd (congrArg Prod.snd impossible) isId
    · exact Model.mem_cachedIndexes.mpr ⟨⟨name, isDeclared⟩, isId⟩

namespace Models

/-- A port with an address of each family. -/
def dualStackPort (address : Address) (id : Id) : Object Unit :=
  ⟨address, logicalPort, id, .ofList
    [("ips", .list (.ofList [.scalar (.str "10.0.0.1"), .scalar (.str "fd00::1")])),
      ("lswitch", .proxy ⟨1, logicalSwitch, "n"⟩), ("topic", .scalar (.str "t")),
      ("unique_key", .scalar (.int 1))]⟩

/-- The store after a switch was updated. -/
def switchWorld : World Unit :=
  (exec ((Call.update (switch 1 "n" "t" 1 1)).run .insertion)
    (World.initial fun _ => false)).2

/-- The store after the port was updated, too. -/
def dualStackWorld : World Unit :=
  (exec ((Call.update (dualStackPort 0 "p")).run .insertion) switchWorld).2

theorem served_dualStackWorld : dualStackWorld.Served .insertion := by
  have switchReturned : (exec ((Call.update (switch 1 "n" "t" 1 1)).run .insertion)
      (World.initial fun _ => false)).1 = .ok .unit := by decide +kernel
  have portReturned : (exec ((Call.update (dualStackPort 0 "p")).run .insertion)
      switchWorld).1 = .ok .unit := by decide +kernel
  have served : switchWorld.Served .insertion :=
    .call (.initial fun _ => false) (by decide) (Prod.ext switchReturned rfl)
  exact .call served (by decide) (Prod.ext portReturned rfl)

end Models

open Models in
theorem World.Served.answered_once_iff_unambiguous_topic :
    dualStackWorld.AnsweredOnce (dualStackPort 2 "") [["topic"]] ↔
      dualStackWorld.Unambiguous (dualStackPort 2 "") [["topic"]] :=
  served_dualStackWorld.answered_once_iff_unambiguous _ _ (by decide)

open Models in
/-- The only port with the addresses is found once by each of them. -/
theorem dual_stack_port_found_twice :
    dualStackWorld.Served .insertion ∧
    (exec (DbStore.getKeys (dualStackPort 2 "") (some [["ips"], ["lswitch", "id"]]))
      dualStackWorld).1 = .ok ["p", "p"] ∧
    (exec (DbStore.getOne (dualStackPort 2 "") (some [["ips"], ["lswitch", "id"]]))
      dualStackWorld).1 = .error .valueError ∧
    ¬dualStackWorld.AnsweredOnce (dualStackPort 2 "") [["ips"], ["lswitch", "id"]] := by
  have twice : (exec (DbStore.getKeys (dualStackPort 2 "")
      (some [["ips"], ["lswitch", "id"]])) dualStackWorld).1 = .ok ["p", "p"] := by
    decide +kernel
  refine ⟨served_dualStackWorld, twice, by decide +kernel, ?_⟩
  intro once
  have repeated : ¬["p", "p"].Nodup := by decide
  exact repeated (once.getKeys.of_result twice).1

end Dragonflow
