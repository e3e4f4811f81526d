import Dragonflow.Controller.Apps.SfcRounds

/-! # Updates of port chains

An update writes what creating the new version would have left, unless classifiers
or groups move in a way that it does not see.
-/

namespace Dragonflow

open Program

namespace SfcApp

variable {isLocal : Id → Bool} {portsecMain : Nat} {old new : PortChain}

/-! ## Rounds over the positions -/

/-- What creating a chain writes for a position. -/
def roundAt (isLocal : Id → Bool) (portsecMain : Nat) (portChain : PortChain)
    (index : Nat) : List SfcWrite :=
  match portChain.portPairGroups[index]? with
  | none => []
  | some portPairGroup => addAt isLocal portsecMain portChain.chainId
      portChain.flowClassifiers.length index portPairGroup

/-- What updating a chain writes for a position. -/
def changeAt (isLocal : Id → Bool) (portsecMain : Nat) (old new : PortChain)
    (index : Nat) : List SfcWrite :=
  match old.portPairGroups[index]?, new.portPairGroups[index]? with
  | none, none => []
  | none, some newPpg => addAt isLocal portsecMain new.chainId
      new.flowClassifiers.length index newPpg
  | some oldPpg, none => removeAt isLocal portsecMain old.chainId
      old.flowClassifiers.length index oldPpg
  | some oldPpg, some newPpg =>
      if newPpg.id ≠ oldPpg.id then
        removeAt isLocal portsecMain old.chainId old.flowClassifiers.length index oldPpg ++
          addAt isLocal portsecMain new.chainId new.flowClassifiers.length index newPpg
      else []

/-- The number of positions that an update goes through. -/
def positions (old new : PortChain) : Nat :=
  max old.portPairGroups.length new.portPairGroups.length

theorem flatMap_eq_range {α : Type} (items : List α) (writes : α → List SfcWrite) :
    items.flatMap writes = (List.range items.length).flatMap fun index =>
      (items[index]?).elim [] writes := by
  induction items with
  | nil => rfl
  | cons item items induction =>
      rw [List.flatMap_cons, induction, List.length_cons, List.range_succ_eq_map,
        List.flatMap_cons, List.flatMap_map]
      rfl

theorem createGroups_writes (fits : Fits new) :
    Writes (forM new.portPairGroups (addPortPairGroup isLocal portsecMain new))
      ((List.range new.portPairGroups.length).flatMap (roundAt isLocal portsecMain new)) := by
  have rounds : new.portPairGroups.flatMap (fun portPairGroup => addAt isLocal portsecMain
      new.chainId new.flowClassifiers.length (ppgIndex new portPairGroup) portPairGroup) =
      (List.range new.portPairGroups.length).flatMap (roundAt isLocal portsecMain new) := by
    rw [flatMap_eq_range]
    refine List.flatMap_congr fun index _ => ?_
    unfold roundAt
    cases atIndex : new.portPairGroups[index]? with
    | none => rfl
    | some portPairGroup =>
        simp only [Option.elim_some]
        rw [fits.ppgIndex_eq atIndex]
  rw [← rounds]
  refine writes_loop _ fun portPairGroup isGroup => ?_
  rcases List.mem_iff_getElem?.mp isGroup with ⟨index, atIndex⟩
  rw [fits.ppgIndex_eq atIndex]
  exact addPortPairGroup_writes fits atIndex

theorem drop_eq_cons {groups rest : List PortPairGroup} {portPairGroup : PortPairGroup}
    {offset : Nat} (isRest : groups.drop offset = portPairGroup :: rest) :
    groups[offset]? = some portPairGroup ∧ groups.drop (offset + 1) = rest := by
  rw [← List.head?_drop, isRest, ← List.drop_drop, isRest]
  exact ⟨rfl, rfl⟩

theorem drop_eq_nil {groups : List PortPairGroup} {offset : Nat}
    (isEnd : groups.drop offset = []) :
    groups[offset]? = none ∧ groups.drop (offset + 1) = [] := by
  rw [← List.head?_drop, isEnd, ← List.drop_drop, isEnd]
  exact ⟨rfl, rfl⟩

theorem rounds_succ (round : Nat → List SfcWrite) (offset count : Nat) :
    (List.range (count + 1)).flatMap (fun index => round (offset + index)) =
      round offset ++ (List.range count).flatMap fun index => round (offset + 1 + index) := by
  rw [List.range_succ_eq_map, List.flatMap_cons, List.flatMap_map]
  simp only [Nat.add_zero, Nat.add_succ, Nat.succ_add]

/-- The loop over both lists of groups, from a position on. -/
theorem updateGroups_writes (fits : Fits old) (newFits : Fits new)
    (oldPpgs newPpgs : List PortPairGroup) (offset : Nat)
    (isOld : old.portPairGroups.drop offset = oldPpgs)
    (isNew : new.portPairGroups.drop offset = newPpgs) :
    Writes (updateGroups isLocal portsecMain new old oldPpgs newPpgs)
      ((List.range (max oldPpgs.length newPpgs.length)).flatMap fun index =>
        changeAt isLocal portsecMain old new (offset + index)) := by
  induction oldPpgs, newPpgs using updateGroups.induct generalizing offset with
  | case1 =>
      rw [updateGroups]
      exact writes_pure
  | case2 newPpg newPpgs induction =>
      rcases drop_eq_cons isNew with ⟨atOffset, rest⟩
      rcases drop_eq_nil isOld with ⟨noOffset, oldRest⟩
      have isChange : changeAt isLocal portsecMain old new offset = addAt isLocal
          portsecMain new.chainId new.flowClassifiers.length offset newPpg := by
        unfold changeAt
        rw [noOffset, atOffset]
      have count : max ([] : List PortPairGroup).length (newPpg :: newPpgs).length =
          max ([] : List PortPairGroup).length newPpgs.length + 1 := by simp
      rw [updateGroups, count, rounds_succ, isChange]
      exact (addPortPairGroup_writes newFits atOffset).bind
        (induction (offset + 1) oldRest rest)
  | case3 oldPpg oldPpgs induction =>
      rcases drop_eq_cons isOld with ⟨atOffset, rest⟩
      rcases drop_eq_nil isNew with ⟨noOffset, newRest⟩
      have isChange : changeAt isLocal portsecMain old new offset = removeAt isLocal
          portsecMain old.chainId old.flowClassifiers.length offset oldPpg := by
        unfold changeAt
        rw [noOffset, atOffset]
      have count : max (oldPpg :: oldPpgs).length ([] : List PortPairGroup).length =
          max oldPpgs.length ([] : List PortPairGroup).length + 1 := by simp
      rw [updateGroups, count, rounds_succ, isChange]
      exact (removePortPairGroup_writes fits atOffset).bind
        (induction (offset + 1) rest newRest)
  | case4 oldPpg oldPpgs newPpg newPpgs induction =>
      rcases drop_eq_cons isOld with ⟨oldOffset, rest⟩
      rcases drop_eq_cons isNew with ⟨newOffset, newRest⟩
      have isChange : changeAt isLocal portsecMain old new offset =
          if newPpg.id ≠ oldPpg.id then
            removeAt isLocal portsecMain old.chainId old.flowClassifiers.length offset
                oldPpg ++
              addAt isLocal portsecMain new.chainId new.flowClassifiers.length offset newPpg
          else [] := by
        unfold changeAt
        rw [oldOffset, newOffset]
      have count : max (oldPpg :: oldPpgs).length (newPpg :: newPpgs).length =
          max oldPpgs.length newPpgs.length + 1 := by
        simp only [List.length_cons]
        omega
      rw [updateGroups, count, rounds_succ, isChange]
      exact (writes_onlyIf fun _ => (removePortPairGroup_writes fits oldOffset).bind
        (addPortPairGroup_writes newFits newOffset)).bind
          (induction (offset + 1) rest newRest)

/-! ## Whole chains -/

theorem Fits.groups_of_mem (fits : Fits new) {flowClassifier : FlowClassifier}
    (member : flowClassifier ∈ new.flowClassifiers) : new.portPairGroups ≠ [] :=
  fits.groups (List.ne_nil_of_mem member)

theorem Fits.distinguishable (fits : Fits new) {flowClassifier : FlowClassifier}
    (member : flowClassifier ∈ new.flowClassifiers) : Distinguishable new where
  groups := fits.groups_of_mem member
  keys := fits.keys
  labels first isFirst second isSecond same := by
    have isLast := List.getLast?_eq_some_getLast (fits.groups_of_mem isFirst)
    rw [getDecapLabel_of_mem isLast isFirst, getDecapLabel_of_mem isLast isSecond] at same
    have inside : ppgIndex new _ < _ := List.idxOf_lt_length_of_mem
      (List.mem_map_of_mem (f := PortPairGroup.id) (List.mem_of_mem_getLast? isLast))
    rw [List.length_map] at inside
    have few := fits.fewGroups
    refine fits.fcIndex_inj isFirst isSecond (createLabel_inj (fits.fcIndex_lt isFirst)
      (by omega) (fits.fcIndex_lt isSecond) (by omega)
      (Nat.succ.inj (Except.ok.inj same))).1

theorem portChainCreated_writes (fits : Fits new) :
    Writes (portChainCreated isLocal portsecMain new)
      (new.flowClassifiers.flatMap (classifierWrites isLocal new) ++
        (List.range new.portPairGroups.length).flatMap
          (roundAt isLocal portsecMain new)) :=
  Writes.bind
    (writes_loop _ fun _ member => installFlowClassifierFlows_writes
      ((fits.distinguishable member).entry member)
      ((fits.distinguishable member).exit member))
    (createGroups_writes fits)

def classifierDrops (isLocal : Id → Bool) (portChain : PortChain)
    (flowClassifier : FlowClassifier) : List SfcWrite :=
  (if flowClassifier.isClassificationLocal isLocal then encapDrops flowClassifier
    else []) ++ decapDrops (exitLabel portChain flowClassifier)

/-- The classifiers and groups of two versions are the same objects. -/
structure SameObjects (old new : PortChain) : Prop where
  chainId : old.chainId = new.chainId
  classifiers : ∀ first ∈ old.flowClassifiers, ∀ second ∈ new.flowClassifiers,
    first.id = second.id → first = second
  groups : ∀ first ∈ old.portPairGroups, ∀ second ∈ new.portPairGroups,
    first.id = second.id → first = second

theorem missingFrom_eq {portChain other : PortChain}
    (same : ∀ first ∈ portChain.flowClassifiers, ∀ second ∈ other.flowClassifiers,
      first.id = second.id → first = second) :
    missingFrom portChain other =
      portChain.flowClassifiers.filter (· ∉ other.flowClassifiers) := by
  refine List.filter_congr fun flowClassifier member => ?_
  refine decide_eq_decide.mpr (not_congr ⟨fun isId => ?_, List.mem_map_of_mem⟩)
  rcases List.mem_map.mp isId with ⟨found, isFound, sameId⟩
  rwa [same flowClassifier member found isFound sameId.symm]

theorem portChainUpdated_writes (fits : Fits old) (newFits : Fits new)
    (same : SameObjects old new) :
    Writes (portChainUpdated isLocal portsecMain new old)
      (((old.flowClassifiers.filter (· ∉ new.flowClassifiers)).flatMap
          (classifierDrops isLocal old) ++
        (new.flowClassifiers.filter (· ∉ old.flowClassifiers)).flatMap
          (classifierWrites isLocal new)) ++
        (List.range (positions old new)).flatMap (changeAt isLocal portsecMain old new)) := by
  have groups : Writes (updateGroups isLocal portsecMain new old
      (old.portPairGroups.drop 0) (new.portPairGroups.drop 0)) _ :=
    updateGroups_writes fits newFits _ _ 0 rfl rfl
  simp only [List.drop_zero, Nat.zero_add] at groups
  rw [List.append_assoc, ← missingFrom_eq same.classifiers,
    ← missingFrom_eq fun first isFirst second isSecond sameId =>
      (same.classifiers second isSecond first isFirst sameId.symm).symm]
  refine Writes.bind (writes_loop _ fun found isFound => ?_)
    (Writes.bind (writes_loop _ fun found isFound => ?_) groups)
  · have member := (List.mem_filter.mp isFound).1
    exact uninstallFlowClassifierFlows_writes ((fits.distinguishable member).exit member)
  · have member := (List.mem_filter.mp isFound).1
    exact installFlowClassifierFlows_writes
      ((newFits.distinguishable member).entry member)
      ((newFits.distinguishable member).exit member)

/-! ## Classifiers -/

variable {portChain : PortChain} {flowClassifier : FlowClassifier} {target : Target}

/-- Where the classifier has its flows. -/
def EndOf (isLocal : Id → Bool) (portChain : PortChain)
    (flowClassifier : FlowClassifier) (target : Target) : Prop :=
  ∃ type ∈ ethTypeToTc,
    (flowClassifier.isClassificationLocal isLocal = true ∧
      target = encapPlace flowClassifier type) ∨
    target = exitPlace (exitLabel portChain flowClassifier) type

theorem touch_map_types {write : TrafficClass → SfcWrite} :
    Write.Touch (ethTypeToTc.map write) target ↔
      ∃ type ∈ ethTypeToTc, target = (write type).key := by
  constructor
  · intro touched
    rcases touch_types touched with ⟨type, isType, isKey⟩
    exact ⟨type, isType, isKey.symm⟩
  · rintro ⟨type, isType, rfl⟩
    exact ⟨write type, List.mem_map_of_mem isType, rfl⟩

/-- A list of writes for the entry, where the classifier is local, and one for the
exit. -/
theorem touch_ends {entries exits : List SfcWrite}
    (areEntries : Write.Touch entries target ↔
      ∃ type ∈ ethTypeToTc, target = encapPlace flowClassifier type)
    (areExits : Write.Touch exits target ↔
      ∃ type ∈ ethTypeToTc, target = exitPlace (exitLabel portChain flowClassifier) type) :
    Write.Touch ((if flowClassifier.isClassificationLocal isLocal then entries else []) ++
      exits) target ↔ EndOf isLocal portChain flowClassifier target := by
  rw [Write.touch_append, areExits]
  unfold EndOf
  by_cases locally : flowClassifier.isClassificationLocal isLocal = true
  · rw [if_pos locally, areEntries]
    simp only [locally, true_and, and_or_left, exists_or]
  · rw [if_neg locally]
    simp [locally, Write.Touch]

theorem touch_classifierWrites :
    Write.Touch (classifierWrites isLocal portChain flowClassifier) target ↔
      EndOf isLocal portChain flowClassifier target := by
  refine touch_ends touch_map_types ?_
  unfold dispatchWrites
  split <;> exact touch_map_types

theorem touch_classifierDrops :
    Write.Touch (classifierDrops isLocal portChain flowClassifier) target ↔
      EndOf isLocal portChain flowClassifier target :=
  touch_ends touch_map_types touch_map_types

theorem classifierDrops_empty :
    ∀ write ∈ classifierDrops isLocal portChain flowClassifier, write.value = none := by
  intro write member
  rcases List.mem_append.mp member with isEncap | isDecap
  · split at isEncap
    · rcases List.mem_map.mp isEncap with ⟨type, _, rfl⟩
      rfl
    · cases isEncap
  · rcases List.mem_map.mp isDecap with ⟨type, _, rfl⟩
    rfl

theorem endOf_apart (distinguishable : Distinguishable portChain)
    {first second : FlowClassifier} (isFirst : first ∈ portChain.flowClassifiers)
    (isSecond : second ∈ portChain.flowClassifiers)
    (atFirst : EndOf isLocal portChain first target)
    (atSecond : EndOf isLocal portChain second target) : first = second := by
  rcases atFirst with ⟨type, _, ⟨_, rfl⟩ | rfl⟩ <;>
    rcases atSecond with ⟨otherType, _, ⟨_, same⟩ | same⟩
  · exact distinguishable.keys first isFirst second isSecond (encapPlace_inj same).1
  · exact absurd same encapPlace_ne_exitPlace
  · exact absurd same.symm encapPlace_ne_exitPlace
  · exact distinguishable.exitLabel_inj isSecond isFirst (exitPlace_inj same).1

/-- A classifier that stays keeps its position, and with it the number of groups
stays. -/
def ClassifiersStay (old new : PortChain) : Prop :=
  ∀ flowClassifier ∈ old.flowClassifiers, flowClassifier ∈ new.flowClassifiers →
    fcIndex old flowClassifier = fcIndex new flowClassifier ∧
      old.portPairGroups.length = new.portPairGroups.length

theorem Fits.entryLabel_eq (fits : Fits portChain)
    (member : flowClassifier ∈ portChain.flowClassifiers) :
    entryLabel portChain flowClassifier =
      createLabel portChain.chainId (fcIndex portChain flowClassifier) 0 := by
  have isSome := List.isSome_head?.mpr (fits.groups_of_mem member)
  rcases Option.isSome_iff_exists.mp isSome with ⟨first, isFirst⟩
  rw [entryLabel, getEncapLabel_of_mem isFirst member]
  exact fits.ingressLabel_eq (by rw [← List.head?_eq_getElem?]; exact isFirst) _

theorem Fits.exitLabel_eq (fits : Fits portChain)
    (member : flowClassifier ∈ portChain.flowClassifiers) :
    exitLabel portChain flowClassifier = createLabel portChain.chainId
      (fcIndex portChain flowClassifier) (portChain.portPairGroups.length - 1) + 1 := by
  have isLast := List.getLast?_eq_some_getLast (fits.groups_of_mem member)
  rw [exitLabel, getDecapLabel_of_mem isLast member]
  rw [List.getLast?_eq_getElem?] at isLast
  exact congrArg (· + 1) (fits.ingressLabel_eq isLast _)

theorem classifierWrites_stay (fits : Fits old) (newFits : Fits new)
    (same : SameObjects old new) (stay : ClassifiersStay old new)
    (isOld : flowClassifier ∈ old.flowClassifiers)
    (isNew : flowClassifier ∈ new.flowClassifiers) :
    classifierWrites isLocal old flowClassifier =
      classifierWrites isLocal new flowClassifier := by
  rcases stay flowClassifier isOld isNew with ⟨index, groups⟩
  unfold classifierWrites
  rw [fits.entryLabel_eq isOld, newFits.entryLabel_eq isNew, fits.exitLabel_eq isOld,
    newFits.exitLabel_eq isNew, index, groups, same.chainId]

/-- The flows of the classifiers are updated as they would be created. -/
theorem classifiers_updated (fits : Fits old) (newFits : Fits new)
    (same : SameObjects old new) (stay : ClassifiersStay old new)
    {content : Target → Option Content} (empty : content target = none) :
    Write.applyAll (Write.applyAll content
        (old.flowClassifiers.flatMap (classifierWrites isLocal old)))
      ((old.flowClassifiers.filter (· ∉ new.flowClassifiers)).flatMap
          (classifierDrops isLocal old) ++
        (new.flowClassifiers.filter (· ∉ old.flowClassifiers)).flatMap
          (classifierWrites isLocal new)) target =
      Write.applyAll content
        (new.flowClassifiers.flatMap (classifierWrites isLocal new)) target := by
  refine Write.applyAll_difference ?_ ?_ ?_ ?_ ?_ empty
  · intro first isFirst second isSecond atFirst atSecond
    exact endOf_apart (fits.distinguishable isFirst) isFirst isSecond
      (touch_classifierWrites.mp atFirst) (touch_classifierWrites.mp atSecond)
  · intro first isFirst second isSecond atFirst atSecond
    exact endOf_apart (newFits.distinguishable isFirst) isFirst isSecond
      (touch_classifierWrites.mp atFirst) (touch_classifierWrites.mp atSecond)
  · intro item _
    rw [touch_classifierWrites, touch_classifierDrops]
  · exact fun item _ => classifierDrops_empty
  · exact fun item isOld isNew => classifierWrites_stay fits newFits same stay isOld isNew

/-! ## Labels of targets -/

/-- The target belongs to a label. -/
def OfLabel (label : Nat) : Target → Prop
  | .inl place => place.2.2.mplsLabel = some (.exact label)
  | .inr groupId => groupId / 256 = label

/-- The flow is not one by which packets enter or leave a chain. -/
def OffEnd : Target → Prop
  | .inl place => ¬ EndPlace place
  | .inr _ => True

/-- Where packets that come back from a port without a label are caught. -/
def returnPlace (portsecMain key : Nat) (type : TrafficClass) : Target :=
  .inl (portsecMain, Const.priorityVeryHigh,
    { reg6 := some (.exact key), ethType := some (.exact type.ethType) })

variable {label other : Nat} {portPairGroup : PortPairGroup} {portPair : PortPair}

theorem OfLabel.unique (isLabel : OfLabel label target) (isOther : OfLabel other target) :
    label = other := by
  cases target with
  | inl place =>
      have same := isLabel.symm.trans isOther
      cases same
      rfl
  | inr groupId => exact isLabel.symm.trans isOther

theorem ofLabel_group {extra : Nat} (fits : extra < 256) :
    OfLabel label (.inr (createGroupId label extra)) := by
  unfold OfLabel createGroupId
  rw [← Nat.shiftLeft_add_eq_or_of_lt (i := 8) fits, Nat.shiftLeft_eq]
  omega

theorem OffEnds.offEnd {writes : List SfcWrite} (off : OffEnds writes)
    (touched : Write.Touch writes target) : OffEnd target := by
  cases target with
  | inl place => exact fun isEnd => off place isEnd touched
  | inr groupId => trivial

theorem touch_labelWrites
    (touched : Write.Touch (labelWrites isLocal portPairGroup label) target) :
    OfLabel label target ∧ OffEnd target := by
  refine ⟨?_, (labelWrites_offEnds portPairGroup label).offEnd touched⟩
  rcases touched with ⟨write, member, rfl⟩
  simp only [labelWrites, List.mem_append, List.mem_map, List.mem_cons] at member
  rcases member with ⟨type, _, rfl⟩ | ((rfl | rfl | none) | rfl | none) | isLocally
  · rfl
  · exact ofLabel_group (by omega)
  · exact ofLabel_group (by omega)
  · cases none
  · rfl
  · cases none
  · split at isLocally
    · simp only [List.mem_append, List.mem_cons] at isLocally
      rcases isLocally with (rfl | rfl | none) | rfl | none
      · exact ofLabel_group (by omega)
      · exact ofLabel_group (by omega)
      · cases none
      · rfl
      · cases none
    · cases isLocally

theorem touch_labelDrops
    (touched : Write.Touch (labelDrops isLocal portPairGroup label) target) :
    OfLabel label target ∧ OffEnd target := by
  refine ⟨?_, (labelDrops_offEnds portPairGroup label).offEnd touched⟩
  rcases touched with ⟨write, member, rfl⟩
  simp only [labelDrops, List.mem_append, List.mem_singleton] at member
  rcases member with rfl | (rfl | rfl) | isLocally
  · rfl
  · rfl
  · exact ofLabel_group (by omega)
  · split at isLocally
    · simp only [List.mem_append, List.mem_singleton] at isLocally
      rcases isLocally with rfl | rfl
      · rfl
      · exact ofLabel_group (by omega)
    · cases isLocally

/-! ## Targets of a position -/

/-- The keys of the local ports from which packets come back without a label. -/
def returnKeys (isLocal : Id → Bool) (portPairGroup : PortPairGroup) : List Nat :=
  (portPairGroup.portPairs.filter fun portPair => isLocal portPair.egressPort.id ∧
    portPair.correlationMechanism = some .none).map fun portPair =>
      portPair.egressPort.uniqueKey

/-- What a position of a chain can be about: one of its labels, or a port from which
packets come back without a label. -/
inductive AtPosition (isLocal : Id → Bool) (portsecMain chainId classifiers index : Nat)
    (portPairGroup : PortPairGroup) (target : Target) : Prop
  | label (fcIdx : Nat) (inside : fcIdx < classifiers)
      (isLabel : OfLabel (createLabel chainId fcIdx index) target) (off : OffEnd target)
  | returning (key : Nat) (isKey : key ∈ returnKeys isLocal portPairGroup)
      (type : TrafficClass) (isType : type ∈ ethTypeToTc)
      (isPlace : target = returnPlace portsecMain key type)

variable {chainId classifiers index : Nat}

theorem mem_returnKeys {key : Nat} : key ∈ returnKeys isLocal portPairGroup ↔
    ∃ portPair ∈ portPairGroup.portPairs, isLocal portPair.egressPort.id = true ∧
      portPair.correlationMechanism = some .none ∧ portPair.egressPort.uniqueKey = key := by
  simp only [returnKeys, List.mem_map, List.mem_filter, decide_eq_true_eq, and_assoc]

theorem returnPlace_offEnd {key : Nat} {type : TrafficClass} :
    OffEnd (returnPlace portsecMain key type) := by
  simp [OffEnd, returnPlace, EndPlace]

theorem AtPosition.offEnd
    (atPosition : AtPosition isLocal portsecMain chainId classifiers index portPairGroup
      target) : OffEnd target := by
  cases atPosition with
  | label fcIdx inside isLabel off => exact off
  | returning key isKey type isType isPlace =>
      rw [isPlace]
      exact returnPlace_offEnd

theorem mplsEgress_atPosition {fcIdx : Nat} (inside : fcIdx < classifiers)
    (isPlace : target = .inl (portsecMain, Const.priorityVeryHigh,
      mplsEgressMatch portPair (createLabel chainId fcIdx index))) :
    AtPosition isLocal portsecMain chainId classifiers index portPairGroup target := by
  rw [isPlace]
  refine .label fcIdx inside rfl ?_
  simp [OffEnd, EndPlace, mplsEgressMatch, labelMatch]

theorem touch_egressAt (member : portPair ∈ portPairGroup.portPairs)
    (touched : Write.Touch
      (egressAt isLocal portsecMain chainId classifiers index portPair) target) :
    AtPosition isLocal portsecMain chainId classifiers index portPairGroup target := by
  unfold egressAt at touched
  split at touched
  · next locally =>
      split at touched
      · rcases touched with ⟨write, written, isPlace⟩
        rcases List.mem_map.mp written with ⟨fcIdx, inside, rfl⟩
        exact mplsEgress_atPosition (List.mem_range.mp inside) isPlace.symm
      · next isNone =>
          rcases Write.touch_flatMap.mp touched with ⟨fcIdx, _, touched⟩
          rcases touch_types touched with ⟨type, isType, isPlace⟩
          exact .returning _ (mem_returnKeys.mpr ⟨portPair, member, locally, isNone, rfl⟩)
            type isType isPlace.symm
      · exact absurd touched (by simp [Write.Touch])
  · exact absurd touched (by simp [Write.Touch])

theorem touch_egressDropsAt (member : portPair ∈ portPairGroup.portPairs)
    (touched : Write.Touch
      (egressDropsAt isLocal portsecMain chainId classifiers index portPair) target) :
    AtPosition isLocal portsecMain chainId classifiers index portPairGroup target := by
  unfold egressDropsAt at touched
  split at touched
  · next locally =>
      split at touched
      · rcases touched with ⟨write, written, isPlace⟩
        rcases List.mem_map.mp written with ⟨fcIdx, inside, rfl⟩
        exact mplsEgress_atPosition (List.mem_range.mp inside) isPlace.symm
      · next isNone =>
          rcases touch_types touched with ⟨type, isType, isPlace⟩
          exact .returning _ (mem_returnKeys.mpr ⟨portPair, member, locally, isNone, rfl⟩)
            type isType isPlace.symm
      · exact absurd touched (by simp [Write.Touch])
  · exact absurd touched (by simp [Write.Touch])

theorem touch_addAt
    (touched : Write.Touch
      (addAt isLocal portsecMain chainId classifiers index portPairGroup) target) :
    AtPosition isLocal portsecMain chainId classifiers index portPairGroup target := by
  rcases Write.touch_append.mp touched with touched | touched
  · rcases Write.touch_flatMap.mp touched with ⟨fcIdx, inside, touched⟩
    rcases touch_labelWrites touched with ⟨isLabel, off⟩
    exact .label fcIdx (List.mem_range.mp inside) isLabel off
  · rcases Write.touch_flatMap.mp touched with ⟨portPair, member, touched⟩
    exact touch_egressAt member touched

theorem touch_removeAt
    (touched : Write.Touch
      (removeAt isLocal portsecMain chainId classifiers index portPairGroup) target) :
    AtPosition isLocal portsecMain chainId classifiers index portPairGroup target := by
  rcases Write.touch_append.mp touched with touched | touched
  · rcases Write.touch_flatMap.mp touched with ⟨fcIdx, inside, touched⟩
    rcases touch_labelDrops touched with ⟨isLabel, off⟩
    exact .label fcIdx (List.mem_range.mp inside) isLabel off
  · rcases Write.touch_flatMap.mp touched with ⟨portPair, member, touched⟩
    exact touch_egressDropsAt member touched

/-! ## Doing and undoing a position -/

/-- Where a label is popped for a port pair that does not know of labels. -/
def ppDecapPlace (label : Nat) (type : TrafficClass) : Target :=
  .inl (Const.sfcMplsPpDecapTable, Const.priorityHigh, labelTcMatch label type.tc)

theorem touch_addAt_pos
    (touched : Write.Touch
      (addAt isLocal portsecMain chainId classifiers index portPairGroup) target) :
    0 < classifiers := by
  rcases Nat.eq_zero_or_pos classifiers with rfl | isPositive
  · rcases Write.touch_append.mp touched with touched | touched
    · exact absurd touched (by simp [Write.Touch])
    · rcases Write.touch_flatMap.mp touched with ⟨portPair, _, touched⟩
      unfold egressAt at touched
      split at touched
      · split at touched <;> exact absurd touched (by simp [Write.Touch])
      · exact absurd touched (by simp [Write.Touch])
  · exact isPositive

theorem touch_addAt_ppDecap {fcIdx : Nat} {type : TrafficClass} (isType : type ∈ ethTypeToTc)
    (inside : fcIdx < classifiers) :
    Write.Touch (addAt isLocal portsecMain chainId classifiers index portPairGroup)
      (ppDecapPlace (createLabel chainId fcIdx index) type) := by
  refine Write.touch_append.mpr (Or.inl (Write.touch_flatMap.mpr
    ⟨fcIdx, List.mem_range.mpr inside, ?_⟩))
  exact Write.touch_append.mpr (Or.inl (touch_map_types.mpr ⟨type, isType, rfl⟩))

theorem touch_addAt_return {key : Nat} {type : TrafficClass} (isType : type ∈ ethTypeToTc)
    (isKey : key ∈ returnKeys isLocal portPairGroup) (isPositive : 0 < classifiers) :
    Write.Touch (addAt isLocal portsecMain chainId classifiers index portPairGroup)
      (returnPlace portsecMain key type) := by
  rcases mem_returnKeys.mp isKey with ⟨portPair, member, locally, isNone, rfl⟩
  refine Write.touch_append.mpr (Or.inr (Write.touch_flatMap.mpr ⟨portPair, member, ?_⟩))
  unfold egressAt
  rw [if_pos locally, isNone]
  refine Write.touch_flatMap.mpr ⟨0, List.mem_range.mpr isPositive, ?_⟩
  exact touch_map_types.mpr ⟨type, isType, rfl⟩

/-- Undoing a label takes away what was done for it, except where labels are popped. -/
theorem touch_labelWrites_cases
    (touched : Write.Touch (labelWrites isLocal portPairGroup label) target) :
    Write.Touch (labelDrops isLocal portPairGroup label) target ∨
      ∃ type ∈ ethTypeToTc, target = ppDecapPlace label type := by
  rcases Write.touch_append.mp touched with touched | touched
  · exact Or.inr (touch_map_types.mp touched)
  · refine Or.inl (Write.touch_append.mpr (Or.inr ?_))
    simp only [Write.Touch, List.mem_append, List.mem_cons] at touched ⊢
    rcases touched with ⟨write, ((rfl | rfl | none) | rfl | none) | isLocally, rfl⟩
    · exact ⟨_, Or.inl (Or.inr (Or.inl rfl)), rfl⟩
    · exact ⟨_, Or.inl (Or.inr (Or.inl rfl)), rfl⟩
    · cases none
    · exact ⟨_, Or.inl (Or.inl (Or.inl rfl)), rfl⟩
    · cases none
    · split at isLocally
      · next somePairs =>
          rw [if_pos somePairs]
          simp only [List.mem_append, List.mem_cons] at isLocally ⊢
          rcases isLocally with (rfl | rfl | none) | rfl | none
          · exact ⟨_, Or.inr (Or.inr (Or.inl rfl)), rfl⟩
          · exact ⟨_, Or.inr (Or.inr (Or.inl rfl)), rfl⟩
          · cases none
          · exact ⟨_, Or.inr (Or.inl (Or.inl rfl)), rfl⟩
          · cases none
      · cases isLocally

theorem touch_egressAt_cases
    (touched : Write.Touch
      (egressAt isLocal portsecMain chainId classifiers index portPair) target) :
    Write.Touch
      (egressDropsAt isLocal portsecMain chainId classifiers index portPair) target := by
  unfold egressAt at touched
  unfold egressDropsAt
  split at touched
  · next locally =>
      rw [if_pos locally]
      split at touched
      · rcases touched with ⟨write, written, isPlace⟩
        rcases List.mem_map.mp written with ⟨fcIdx, inside, rfl⟩
        exact ⟨_, List.mem_map_of_mem inside, isPlace⟩
      · rcases Write.touch_flatMap.mp touched with ⟨fcIdx, _, touched⟩
        rcases touch_types touched with ⟨type, isType, isPlace⟩
        exact ⟨_, List.mem_map_of_mem isType, isPlace⟩
      · exact absurd touched (by simp [Write.Touch])
  · exact absurd touched (by simp [Write.Touch])

theorem touch_addAt_cases
    (touched : Write.Touch
      (addAt isLocal portsecMain chainId classifiers index portPairGroup) target) :
    Write.Touch (removeAt isLocal portsecMain chainId classifiers index portPairGroup)
        target ∨
      ∃ fcIdx < classifiers, ∃ type ∈ ethTypeToTc,
        target = ppDecapPlace (createLabel chainId fcIdx index) type := by
  rcases Write.touch_append.mp touched with touched | touched
  · rcases Write.touch_flatMap.mp touched with ⟨fcIdx, inside, touched⟩
    rcases touch_labelWrites_cases touched with isUndone | ⟨type, isType, isPlace⟩
    · exact Or.inl (Write.touch_append.mpr (Or.inl
        (Write.touch_flatMap.mpr ⟨fcIdx, inside, isUndone⟩)))
    · exact Or.inr ⟨fcIdx, List.mem_range.mp inside, type, isType, isPlace⟩
  · rcases Write.touch_flatMap.mp touched with ⟨portPair, member, touched⟩
    exact Or.inl (Write.touch_append.mpr (Or.inr
      (Write.touch_flatMap.mpr ⟨portPair, member, touch_egressAt_cases touched⟩)))

theorem labelDrops_empty :
    ∀ write ∈ labelDrops isLocal portPairGroup label, write.value = none := by
  intro write member
  simp only [labelDrops, List.mem_append, List.mem_singleton] at member
  rcases member with rfl | (rfl | rfl) | isLocally
  · rfl
  · rfl
  · rfl
  · split at isLocally
    · simp only [List.mem_append, List.mem_singleton] at isLocally
      rcases isLocally with rfl | rfl <;> rfl
    · cases isLocally

theorem egressDropsAt_empty :
    ∀ write ∈ egressDropsAt isLocal portsecMain chainId classifiers index portPair,
      write.value = none := by
  intro write member
  unfold egressDropsAt at member
  split at member
  · split at member
    · rcases List.mem_map.mp member with ⟨fcIdx, _, rfl⟩
      rfl
    · rcases List.mem_map.mp member with ⟨type, _, rfl⟩
      rfl
    · cases member
  · cases member

theorem removeAt_empty :
    ∀ write ∈ removeAt isLocal portsecMain chainId classifiers index portPairGroup,
      write.value = none := by
  intro write member
  rcases List.mem_append.mp member with isLabel | isEgress
  · rcases List.mem_flatMap.mp isLabel with ⟨fcIdx, _, written⟩
    exact labelDrops_empty write written
  · rcases List.mem_flatMap.mp isEgress with ⟨portPair, _, written⟩
    exact egressDropsAt_empty write written

end SfcApp

end Dragonflow
