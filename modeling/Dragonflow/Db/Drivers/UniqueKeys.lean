import Dragonflow.Db.Drivers.Etcd
import Dragonflow.Db.Drivers.Zookeeper

/-! # Unique keys

Whatever the order of the requests of any number of clients, etcd and zookeeper give out
the keys of a table once each.
-/

namespace Dragonflow

/-! ## etcd -/

namespace EtcdDriver

theorem makeKey_eq (table objId : String) :
    makeKey table objId = "/" ++ table ++ "/" ++ objId := by
  unfold makeKey
  split
  · rfl
  · next isEmpty => rw [not_not.mp isEmpty, String.append_empty]

theorem makeKey_injective {table other : String}
    (same : makeKey uniqueKeyTable table = makeKey uniqueKeyTable other) : table = other := by
  rw [makeKey_eq, makeKey_eq] at same
  exact (String.append_right_inj _).mp same

/-- The key of a table has the last number that was given out. -/
def Shows (store : EtcdStore Int) (table : String) (count : Nat) : Prop :=
  store.lookup (makeKey uniqueKeyTable table) = if count = 0 then none else some (count : Int)

theorem shows_insert {store : EtcdStore Int} {table : String} (count : Nat) :
    Shows (store.insert (makeKey uniqueKeyTable table) (count + 1)) table (count + 1) := by
  unfold Shows
  rw [AList.lookup_insert, if_neg (Nat.succ_ne_zero count)]
  rfl

theorem shows_insert_other {store : EtcdStore Int} {table other : String} {value : Int}
    {count : Nat} (different : other ≠ table) (isShown : Shows store other count) :
    Shows (store.insert (makeKey uniqueKeyTable table) value) other count := by
  unfold Shows
  rw [AList.lookup_insert_ne fun same => different (makeKey_injective same)]
  exact isShown

variable {store : EtcdStore Int} {log : List (String × Int)} {table : String}

theorem kept_of_returned {result : Int} (counted : Counted Shows store log)
    (isNext : ∀ count, Shows store table count → result = count + 1) :
    Clients.Kept (Counted Shows) (fun _ (_ : Phase) _ => True) table
      (.returned result : Access Phase Int PyError) store
      (store.insert (makeKey uniqueKeyTable table) result) log where
  known := counted.append
    (fun count isShown => ⟨isNext count isShown, isNext count isShown ▸ shows_insert count⟩)
    (fun _ _ different isShown => shows_insert_other different isShown)
  goesOn _ _ := trivial
  others _ _ _ := trivial

theorem kept_of_goOn {phase : Phase} (counted : Counted Shows store log) :
    Clients.Kept (Counted Shows) (fun _ (_ : Phase) _ => True) table
      (.goOn phase : Access Phase Int PyError) store store log where
  known := counted
  goesOn _ _ := trivial
  others _ _ _ := trivial

theorem allocateUniqueKey_kept (table : String) (phase : Phase) (store : EtcdStore Int)
    (log : List (String × Int)) (counted : Counted Shows store log) :
    Clients.Kept (Counted Shows) (fun _ (_ : Phase) _ => True) table
      (allocateUniqueKey.access table phase store).1 store
      (allocateUniqueKey.access table phase store).2 log := by
  unfold allocateUniqueKey
  simp only
  cases phase with
  | get =>
      simp only
      split
      · exact kept_of_goOn counted
      · exact kept_of_goOn counted
  | create =>
      unfold EtcdStore.create
      cases found : store.lookup (makeKey uniqueKeyTable table) with
      | some value => exact kept_of_goOn counted
      | none =>
          refine kept_of_returned counted fun count isShown => ?_
          -- a table without a key has given out no number
          unfold Shows at isShown
          rw [found] at isShown
          split at isShown
          · next isZero => rw [isZero]; rfl
          · cases isShown
  | replace prevValue =>
      unfold EtcdStore.replace
      by_cases found : store.lookup (makeKey uniqueKeyTable table) = some prevValue
      · simp only [if_pos found]
        refine kept_of_returned counted fun count isShown => ?_
        unfold Shows at isShown
        rw [found] at isShown
        split at isShown
        · cases isShown
        · rw [Option.some.inj isShown]
      · simp only [if_neg found]
        exact kept_of_goOn counted

/-- No key was given out before. -/
def NoCounters (store : EtcdStore Int) : Prop :=
  ∀ table, store.lookup (makeKey uniqueKeyTable table) = none

end EtcdDriver

/-! ## zookeeper -/

namespace ZookeeperTree

/-- Nodes that exist stay as they are, and the new ones have no data. -/
def Extends (before after : ZookeeperTree) : Prop :=
  ∀ path, (∀ node, before.lookup path = some node → after.lookup path = some node) ∧
    (before.lookup path = none → ∀ node, after.lookup path = some node → node.value = none)

theorem extends_makePath (tree : ZookeeperTree) (path : String) :
    Extends tree (tree.makePath path) := by
  unfold makePath
  generalize ancestors path = above
  induction above generalizing tree with
  | nil =>
      refine fun other => ⟨fun _ found => found, fun absent node found => ?_⟩
      rw [List.foldl_nil, absent] at found
      cases found
  | cons first above induction =>
      rw [List.foldl_cons]
      cases isFirst : tree.lookup first with
      | some node => exact induction tree
      | none =>
          intro other
          rcases induction (tree.insert first { value := none }) other with ⟨kept, made⟩
          rw [Dict.lookup_insert_eq] at kept made
          by_cases same : other = first
          · rw [if_pos same] at kept
            rw [same, isFirst]
            rw [same] at kept
            constructor
            · intro node impossible
              cases impossible
            · intro _ node found
              have isNew := (kept _ rfl).symm.trans found
              rw [← Option.some.inj isNew]
          · rw [if_neg same] at kept made
            exact ⟨kept, made⟩

end ZookeeperTree

namespace ZookeeperDriver

theorem generatePath_injective {table other : String}
    (same : generatePath uniqueKeyTable table = generatePath uniqueKeyTable other) :
    table = other := by
  have isLonger : ∀ key, rootNs ++ "/" ++ uniqueKeyTable ≠
      rootNs ++ "/" ++ uniqueKeyTable ++ "/" ++ key := by
    intro key sameText
    have lengths := congrArg String.length sameText
    simp only [String.length_append] at lengths
    have slash : "/".length = 1 := rfl
    omega
  unfold generatePath at same
  split at same
  · next isEmpty =>
      split at same
      · next otherEmpty => rw [isEmpty, otherEmpty]
      · exact absurd same (isLonger other)
  · split at same
    · exact absurd same.symm (isLonger table)
    · exact (String.append_right_inj _).mp same

/-- The node of a table has the last number that was given out, and was changed once for
every number after the first. -/
def Shows (tree : ZookeeperTree) (table : String) : Nat → Prop
  | 0 => ∀ node, tree.lookup (generatePath uniqueKeyTable table) = some node →
      node.value = none
  | count + 1 => tree.lookup (generatePath uniqueKeyTable table) =
      some ⟨some (count + 1), count⟩

/-- A number was given out. -/
def Numbered (tree : ZookeeperTree) (table : String) : Prop :=
  ∃ node, tree.lookup (generatePath uniqueKeyTable table) = some node ∧ node.value ≠ none

/-- The number that was read is the one of its version. -/
def Fits (table : String) (phase : Phase) (tree : ZookeeperTree) : Prop :=
  match phase with
  | .set prevValue prevVersion => prevValue = prevVersion + 1 ∧ Numbered tree table
  | _ => True

variable {tree after : ZookeeperTree} {log : List (String × Int)} {table : String}
  {count : Nat}

theorem Shows.eq_of_numbered (isShown : Shows tree table count)
    (numbered : Numbered tree table) :
    ∃ earlier, count = earlier + 1 ∧
      tree.lookup (generatePath uniqueKeyTable table) = some ⟨some (earlier + 1), earlier⟩ := by
  rcases numbered with ⟨node, found, isNumber⟩
  cases count with
  | zero => exact absurd (isShown node found) isNumber
  | succ earlier => exact ⟨earlier, rfl, isShown⟩

/-- What does not take a number away does not disturb the calls. -/
theorem Fits.kept {phase : Phase} (fits : Fits table phase tree)
    (numbered : Numbered tree table → Numbered after table) : Fits table phase after := by
  cases phase with
  | get => trivial
  | create => trivial
  | set prevValue prevVersion => exact ⟨fits.1, numbered fits.2⟩

/-- The node of one table gets a number, and missing nodes are made. -/
theorem kept_of_returned {result : Int} {version : Nat} {made : ZookeeperTree}
    (counted : Counted Shows tree log) (isMade : ZookeeperTree.Extends tree made)
    (isNext : ∀ count, Shows tree table count → result = count + 1 ∧ version = count) :
    Clients.Kept (Counted Shows) Fits table
      (.returned result : Access Phase Int PyError) tree
      (made.insert (generatePath uniqueKeyTable table) ⟨some result, version⟩) log where
  known := by
    refine counted.append (fun count isShown => ?_) (fun other count different isShown => ?_)
    · rcases isNext count isShown with ⟨rfl, rfl⟩
      exact ⟨rfl, AList.lookup_insert _⟩
    · have isOther : (made.insert (generatePath uniqueKeyTable table)
            ⟨some result, version⟩).lookup (generatePath uniqueKeyTable other) =
          made.lookup (generatePath uniqueKeyTable other) :=
        AList.lookup_insert_ne fun same => different (generatePath_injective same)
      cases count with
      | zero =>
          intro node found
          rw [isOther] at found
          cases had : tree.lookup (generatePath uniqueKeyTable other) with
          | none => exact (isMade _).2 had node found
          | some old =>
              rw [(isMade _).1 old had, Option.some.injEq] at found
              exact found ▸ isShown old had
      | succ earlier => exact isOther.trans ((isMade _).1 _ isShown)
  goesOn _ impossible := by cases impossible
  others other phase fits := by
    refine fits.kept fun numbered => ?_
    by_cases same : other = table
    · rw [same]
      exact ⟨_, AList.lookup_insert _, by simp⟩
    · rcases numbered with ⟨node, found, isNumber⟩
      refine ⟨node, ?_, isNumber⟩
      rw [AList.lookup_insert_ne fun samePath => same (generatePath_injective samePath)]
      exact (isMade _).1 node found

theorem kept_of_unchanged {outcome : Access Phase Int PyError}
    (counted : Counted Shows tree log)
    (unfinished : ∀ result, outcome ≠ .returned result)
    (goesOn : ∀ phase, outcome = .goOn phase → Fits table phase tree) :
    Clients.Kept (Counted Shows) Fits table outcome tree tree log where
  known := by
    cases outcome with
    | returned result => exact absurd rfl (unfinished result)
    | goOn phase => exact counted
    | raised error => exact counted
  goesOn := goesOn
  others _ _ fits := fits

theorem extends_refl (tree : ZookeeperTree) : ZookeeperTree.Extends tree tree := by
  refine fun path => ⟨fun _ found => found, fun absent node found => ?_⟩
  rw [absent] at found
  cases found

theorem allocateUniqueKey_kept (table : String) (phase : Phase) (tree : ZookeeperTree)
    (log : List (String × Int)) (fits : Fits table phase tree)
    (counted : Counted Shows tree log) :
    Clients.Kept (Counted Shows) Fits table
      (allocateUniqueKey.access table phase tree).1 tree
      (allocateUniqueKey.access table phase tree).2 log := by
  unfold allocateUniqueKey
  simp only
  cases phase with
  | get =>
      cases found : tree.lookup (generatePath uniqueKeyTable table) with
      | none =>
          refine kept_of_unchanged counted (by simp) fun phase same => ?_
          cases same
          trivial
      | some node =>
          rcases node with ⟨value, version⟩
          cases value with
          | none => exact kept_of_unchanged counted (by simp) (by simp)
          | some prevValue =>
              refine kept_of_unchanged counted (by simp) fun phase same => ?_
              cases same
              have numbered : Numbered tree table := ⟨_, found, by simp⟩
              rcases counted table with ⟨count, isShown, _⟩
              rcases isShown.eq_of_numbered numbered with ⟨earlier, _, isNode⟩
              rw [found] at isNode
              cases isNode
              exact ⟨rfl, numbered⟩
  | create =>
      unfold ZookeeperTree.create
      cases found : tree.lookup (generatePath uniqueKeyTable table) with
      | some node => exact kept_of_unchanged counted (by simp) (by simp)
      | none =>
          refine kept_of_returned counted (ZookeeperTree.extends_makePath tree _)
            fun count isShown => ?_
          cases count with
          | zero => exact ⟨rfl, rfl⟩
          | succ earlier => cases found.symm.trans isShown
  | set prevValue prevVersion =>
      rcases fits with ⟨rfl, numbered⟩
      have isNumber := numbered
      rcases counted table with ⟨count, isShown, _⟩
      rcases isShown.eq_of_numbered numbered with ⟨earlier, isCount, isNode⟩
      unfold ZookeeperTree.set
      simp only [isNode]
      by_cases same : earlier = prevVersion
      · simp only [if_pos same]
        refine kept_of_returned counted (extends_refl tree) fun other isOther => ?_
        rcases isOther.eq_of_numbered isNumber with ⟨last, isLast, isLastNode⟩
        rw [isNode] at isLastNode
        cases isLastNode
        subst same
        subst isLast
        exact ⟨by push_cast; rfl, rfl⟩
      · simp only [if_neg same]
        refine kept_of_unchanged counted (by simp) fun phase isPhase => ?_
        cases isPhase
        trivial

/-- No key was given out before. Nodes of tables may exist. -/
def NoCounters (tree : ZookeeperTree) : Prop :=
  ∀ table node, tree.lookup (generatePath uniqueKeyTable table) = some node →
    node.value = none

end ZookeeperDriver

/-! ## Runs -/

/-- The keys of a table, in the order in which they were written, are the numbers from
one on. -/
theorem unique_keys {ι : Type} [DecidableEq ι] (events : List (ClientEvent ι String)) :
    (∀ store after, EtcdDriver.NoCounters store →
      steps (Clients.step EtcdDriver.allocateUniqueKey) events { store := store } =
        some after →
      ∀ table, (resultsOf after.log table).Nodup ∧
        ∃ count, resultsOf after.log table = firstNumbers count) ∧
    ∀ tree after, ZookeeperDriver.NoCounters tree →
      steps (Clients.step ZookeeperDriver.allocateUniqueKey) events { store := tree } =
        some after →
      ∀ table, (resultsOf after.log table).Nodup ∧
        ∃ count, resultsOf after.log table = firstNumbers count := by
  constructor
  · intro store after noCounters reached table
    have initial : Clients.Sound (ι := ι) (Counted EtcdDriver.Shows)
        (fun _ (_ : EtcdDriver.Phase) _ => True) { store := store } :=
      ⟨fun table => ⟨0, noCounters table, rfl⟩, fun _ _ _ _ => trivial⟩
    have sound := initial.steps (fun _ _ => trivial)
      (fun table phase store log _ counted =>
        EtcdDriver.allocateUniqueKey_kept table phase store log counted) reached
    rcases sound.known table with ⟨count, _, results⟩
    exact ⟨results ▸ firstNumbers_nodup count, count, results⟩
  · intro tree after noCounters reached table
    have initial : Clients.Sound (ι := ι) (Counted ZookeeperDriver.Shows)
        ZookeeperDriver.Fits { store := tree } :=
      ⟨fun table => ⟨0, noCounters table, rfl⟩, fun _ _ _ impossible => by cases impossible⟩
    have starts : ∀ table tree, ZookeeperDriver.Fits table
        ZookeeperDriver.allocateUniqueKey.start tree := fun _ _ => trivial
    have sound := initial.steps starts ZookeeperDriver.allocateUniqueKey_kept reached
    rcases sound.known table with ⟨count, _, results⟩
    exact ⟨results ▸ firstNumbers_nodup count, count, results⟩

/-- Both clients find no key, and one of them has to start again. -/
def racingClients : List (ClientEvent Bool String) :=
  [.call true "lport", .call false "lport", .access true, .access false, .access true,
    .access false, .access false, .access false]

/-- The node is there, and both clients read the same version of it. -/
def racingSetters : List (ClientEvent Bool String) :=
  [.call true "lport", .access true, .access true, .call true "lport", .call false "lport",
    .access true, .access false, .access true, .access false, .access false, .access false]

theorem unique_keys_racing :
    (∃ after, steps (Clients.step EtcdDriver.allocateUniqueKey) racingClients
        { store := ∅ } = some after ∧
      resultsOf after.log "lport" = [1, 2] ∧ (resultsOf after.log "lport").Nodup) ∧
    ∃ after, steps (Clients.step ZookeeperDriver.allocateUniqueKey) racingSetters
        { store := ∅ } = some after ∧
      resultsOf after.log "lport" = [1, 2, 3] ∧ (resultsOf after.log "lport").Nodup := by
  have ran : (steps (Clients.step EtcdDriver.allocateUniqueKey) racingClients
      { store := ∅ }).map Clients.log = some [("lport", 1), ("lport", 2)] := by
    decide +kernel
  have otherRan : (steps (Clients.step ZookeeperDriver.allocateUniqueKey) racingSetters
      { store := ∅ }).map Clients.log =
        some [("lport", 1), ("lport", 2), ("lport", 3)] := by
    decide +kernel
  constructor
  · rcases Option.map_eq_some_iff.mp ran with ⟨after, reached, isLog⟩
    have unique := (unique_keys racingClients).1 ∅ after (fun _ => rfl) reached "lport"
    exact ⟨after, reached, by rw [isLog]; rfl, unique.1⟩
  · rcases Option.map_eq_some_iff.mp otherRan with ⟨after, reached, isLog⟩
    have noCounters : ZookeeperDriver.NoCounters (∅ : ZookeeperTree) :=
      fun _ _ impossible => by cases impossible
    have unique := (unique_keys racingSetters).2 ∅ after noCounters reached "lport"
    exact ⟨after, reached, by rw [isLog]; rfl, unique.1⟩

end Dragonflow
