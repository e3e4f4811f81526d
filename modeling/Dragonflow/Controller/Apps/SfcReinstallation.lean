import Dragonflow.Controller.Apps.SfcUpdates

/-! # Port chains that are updated as if they were created

When an update leaves what creating the new version leaves, and runs of such updates.
-/

namespace Dragonflow

open Program

namespace SfcApp

variable {isLocal : Id → Bool} {portsecMain : Nat} {old new portChain : PortChain}
  {target : Target}

/-! ## Positions that change -/

/-- The update handles a position: it has another group, or a group in one of the
versions only. -/
def Changed (old new : PortChain) (index : Nat) : Prop :=
  (old.portPairGroups[index]?).map PortPairGroup.id ≠
    (new.portPairGroups[index]?).map PortPairGroup.id

instance (old new : PortChain) : DecidablePred (Changed old new) :=
  fun _ => inferInstanceAs (Decidable (_ ≠ _))

/-- What is written to take a position of the old version away. -/
def undoAt (isLocal : Id → Bool) (portsecMain : Nat) (portChain : PortChain)
    (index : Nat) : List SfcWrite :=
  match portChain.portPairGroups[index]? with
  | none => []
  | some portPairGroup => removeAt isLocal portsecMain portChain.chainId
      portChain.flowClassifiers.length index portPairGroup

theorem changeAt_eq (index : Nat) :
    changeAt isLocal portsecMain old new index =
      if Changed old new index then
        undoAt isLocal portsecMain old index ++ roundAt isLocal portsecMain new index
      else [] := by
  have isChanged : Changed old new index ↔ (old.portPairGroups[index]?).map PortPairGroup.id ≠
      (new.portPairGroups[index]?).map PortPairGroup.id := Iff.rfl
  unfold changeAt undoAt roundAt
  simp only [isChanged]
  cases old.portPairGroups[index]? with
  | none => cases new.portPairGroups[index]? <;> simp
  | some oldPpg =>
      cases new.portPairGroups[index]? with
      | none => simp
      | some newPpg => simp [eq_comm]

theorem roundAt_of_le {index : Nat} (outside : portChain.portPairGroups.length ≤ index) :
    roundAt isLocal portsecMain portChain index = [] := by
  unfold roundAt
  rw [List.getElem?_eq_none outside]

/-- Positions after the last group add nothing. -/
theorem rounds_extend {count : Nat} (enough : portChain.portPairGroups.length ≤ count) :
    (List.range portChain.portPairGroups.length).flatMap
        (roundAt isLocal portsecMain portChain) =
      (List.range count).flatMap (roundAt isLocal portsecMain portChain) := by
  rcases Nat.exists_eq_add_of_le enough with ⟨extra, rfl⟩
  have nothing : ((List.range extra).map (portChain.portPairGroups.length + ·)).flatMap
      (roundAt isLocal portsecMain portChain) = [] := by
    rw [List.flatMap_eq_nil_iff]
    intro index member
    rcases List.mem_map.mp member with ⟨offset, _, rfl⟩
    exact roundAt_of_le (Nat.le_add_right _ _)
  rw [List.range_add, List.flatMap_append, nothing, List.append_nil]

/-! ## The condition -/

def returnKeysAt (isLocal : Id → Bool) (portChain : PortChain) (index : Nat) : List Nat :=
  match portChain.portPairGroups[index]? with
  | none => []
  | some portPairGroup => returnKeys isLocal portPairGroup

/-- A port of the group wanted at a position, whose flow is written or deleted for
another position, gets its flow after both. -/
def WrittenAfter (isLocal : Id → Bool) (old new : PortChain) (index wanted : Nat) : Prop :=
  ∀ key ∈ returnKeysAt isLocal new wanted,
    key ∈ returnKeysAt isLocal old index ∨ key ∈ returnKeysAt isLocal new index →
      ∃ last < positions old new, index ≤ last ∧ wanted ≤ last ∧ Changed old new last ∧
        key ∈ returnKeysAt isLocal new last

instance (isLocal : Id → Bool) (old new : PortChain) (index wanted : Nat) :
    Decidable (WrittenAfter isLocal old new index wanted) :=
  inferInstanceAs (Decidable (∀ key ∈ _, _ → ∃ last < _, _ ∧ _ ∧ _ ∧ _))

/-- A port from which packets come back without a label has one flow for all the
positions of its groups. Where the update handles one of its positions, it has to
write the flow for the last of them, and last. -/
def ReturnsLast (isLocal : Id → Bool) (old new : PortChain) : Prop :=
  ∀ index < positions old new, Changed old new index →
    ∀ wanted < positions old new, WrittenAfter isLocal old new index wanted

/-- The updates that are seen as a whole. -/
structure Followed (isLocal : Id → Bool) (old new : PortChain) : Prop where
  classifiers : ClassifiersStay old new
  shrinks : old.flowClassifiers ≠ [] →
    old.flowClassifiers.length ≤ new.flowClassifiers.length ∧
      old.portPairGroups.length ≤ new.portPairGroups.length
  keeps : ∀ index < old.portPairGroups.length, ¬ Changed old new index →
    old.flowClassifiers.length = new.flowClassifiers.length
  returns : new.flowClassifiers ≠ [] → ReturnsLast isLocal old new

/-! ## Groups -/

theorem touch_roundAt {index : Nat}
    (touched : Write.Touch (roundAt isLocal portsecMain portChain index) target) :
    ∃ portPairGroup, portChain.portPairGroups[index]? = some portPairGroup ∧
      Write.Touch (addAt isLocal portsecMain portChain.chainId
        portChain.flowClassifiers.length index portPairGroup) target := by
  unfold roundAt at touched
  cases atIndex : portChain.portPairGroups[index]? with
  | none =>
      rw [atIndex] at touched
      exact absurd touched (by simp [Write.Touch])
  | some portPairGroup =>
      rw [atIndex] at touched
      exact ⟨portPairGroup, rfl, touched⟩

theorem touch_undoAt {index : Nat}
    (touched : Write.Touch (undoAt isLocal portsecMain portChain index) target) :
    ∃ portPairGroup, portChain.portPairGroups[index]? = some portPairGroup ∧
      Write.Touch (removeAt isLocal portsecMain portChain.chainId
        portChain.flowClassifiers.length index portPairGroup) target := by
  unfold undoAt at touched
  cases atIndex : portChain.portPairGroups[index]? with
  | none =>
      rw [atIndex] at touched
      exact absurd touched (by simp [Write.Touch])
  | some portPairGroup =>
      rw [atIndex] at touched
      exact ⟨portPairGroup, rfl, touched⟩

theorem undoAt_empty {index : Nat} :
    ∀ write ∈ undoAt isLocal portsecMain portChain index, write.value = none := by
  intro write member
  unfold undoAt at member
  split at member
  · cases member
  · exact removeAt_empty write member

theorem roundAt_kept (same : SameObjects old new) (followed : Followed isLocal old new)
    {index : Nat} (kept : ¬ Changed old new index) :
    roundAt isLocal portsecMain old index = roundAt isLocal portsecMain new index := by
  have sameId := not_not.mp kept
  unfold roundAt
  cases oldAt : old.portPairGroups[index]? with
  | none =>
      rw [oldAt] at sameId
      rw [Option.map_eq_none_iff.mp sameId.symm]
  | some oldPpg =>
      rw [oldAt] at sameId
      rcases Option.map_eq_some_iff.mp sameId.symm with ⟨newPpg, newAt, isId⟩
      have sameGroup : oldPpg = newPpg := same.groups oldPpg (List.mem_of_getElem? oldAt)
        newPpg (List.mem_of_getElem? newAt) isId.symm
      have inside : index < old.portPairGroups.length :=
        (List.getElem?_eq_some_iff.mp oldAt).1
      rw [newAt, sameGroup, same.chainId, followed.keeps index inside kept]

/-- What a position of the old version wrote is undone, or done again. -/
theorem roundAt_undone (same : SameObjects old new) (followed : Followed isLocal old new)
    {index : Nat} (touched : Write.Touch (roundAt isLocal portsecMain old index) target) :
    Write.Touch (undoAt isLocal portsecMain old index) target ∨
      Write.Touch (roundAt isLocal portsecMain new index) target := by
  rcases touch_roundAt touched with ⟨oldPpg, oldAt, touched⟩
  rcases touch_addAt_cases touched with isUndone | ⟨fcIdx, inside, type, isType, rfl⟩
  · left
    unfold undoAt
    rw [oldAt]
    exact isUndone
  · right
    have someClassifiers : old.flowClassifiers ≠ [] :=
      List.length_pos_iff.mp (Nat.zero_lt_of_lt inside)
    rcases followed.shrinks someClassifiers with ⟨moreClassifiers, moreGroups⟩
    have isOld := (List.getElem?_eq_some_iff.mp oldAt).1
    have isNew : index < new.portPairGroups.length := by omega
    unfold roundAt
    rw [List.getElem?_eq_getElem isNew, same.chainId]
    exact touch_addAt_ppDecap isType (by omega)

/-- A target of two positions is that of a port from which packets come back without a
label. -/
theorem atPosition_cases (fits : Fits old) (newFits : Fits new)
    (sameChain : old.chainId = new.chainId) {index wanted : Nat}
    {oldPpg newPpg : PortPairGroup}
    (isIndex : old.portPairGroups[index]? = some oldPpg)
    (isWanted : new.portPairGroups[wanted]? = some newPpg)
    (atIndex : AtPosition isLocal portsecMain old.chainId old.flowClassifiers.length index
      oldPpg target)
    (atWanted : AtPosition isLocal portsecMain new.chainId new.flowClassifiers.length
      wanted newPpg target) :
    index = wanted ∨ ∃ key ∈ returnKeys isLocal oldPpg, key ∈ returnKeys isLocal newPpg ∧
      ∃ type ∈ ethTypeToTc, target = returnPlace portsecMain key type := by
  have inOld := (List.getElem?_eq_some_iff.mp isIndex).1
  have inNew := (List.getElem?_eq_some_iff.mp isWanted).1
  have fewOld := fits.fewGroups
  have fewNew := newFits.fewGroups
  have oldClassifiers := fits.fewClassifiers
  have newClassifiers := newFits.fewClassifiers
  cases atIndex with
  | label fcIdx inside isLabel off =>
      cases atWanted with
      | label otherIdx otherInside otherLabel otherOff =>
          left
          have sameLabel := isLabel.unique otherLabel
          rw [sameChain] at sameLabel
          exact (createLabel_inj (by omega) (by omega) (by omega) (by omega) sameLabel).2
      | returning key isKey type isType isPlace =>
          rw [isPlace] at isLabel
          cases isLabel
  | returning key isKey type isType isPlace =>
      cases atWanted with
      | label otherIdx otherInside otherLabel otherOff =>
          rw [isPlace] at otherLabel
          cases otherLabel
      | returning otherKey isOther otherType isOtherType isOtherPlace =>
          right
          have sameKey : key = otherKey := by
            have samePlace := isPlace.symm.trans isOtherPlace
            simp only [returnPlace, Sum.inl.injEq, Prod.mk.injEq, OFPMatch.mk.injEq,
              Option.some.injEq, FieldMatch.exact.injEq] at samePlace
            tauto
          exact ⟨key, isKey, sameKey ▸ isOther, type, isType, isPlace⟩

theorem returnKeysAt_eq {index : Nat} {portPairGroup : PortPairGroup}
    (atIndex : portChain.portPairGroups[index]? = some portPairGroup) :
    returnKeysAt isLocal portChain index = returnKeys isLocal portPairGroup := by
  unfold returnKeysAt
  rw [atIndex]

theorem touch_roundAt_return {index key : Nat} {type : TrafficClass}
    (isKey : key ∈ returnKeysAt isLocal portChain index) (isType : type ∈ ethTypeToTc)
    (isPositive : 0 < portChain.flowClassifiers.length) :
    Write.Touch (roundAt isLocal portsecMain portChain index)
      (returnPlace portsecMain key type) := by
  unfold returnKeysAt at isKey
  unfold roundAt
  cases atIndex : portChain.portPairGroups[index]? with
  | none =>
      rw [atIndex] at isKey
      cases isKey
  | some portPairGroup =>
      rw [atIndex] at isKey
      exact touch_addAt_return isType isKey isPositive

/-- The last position that is about a target is written last. -/
theorem rounds_order (fits : Fits old) (newFits : Fits new) (same : SameObjects old new)
    (followed : Followed isLocal old new) {index wanted : Nat}
    (inside : index < positions old new) (changed : Changed old new index)
    (touched : Write.Touch (undoAt isLocal portsecMain old index ++
      roundAt isLocal portsecMain new index) target)
    (isWanted : wanted < positions old new)
    (wantedTouched : Write.Touch (roundAt isLocal portsecMain new wanted) target) :
    ∃ last < positions old new, index ≤ last ∧ wanted ≤ last ∧ Changed old new last ∧
      Write.Touch (roundAt isLocal portsecMain new last) target := by
  rcases touch_roundAt wantedTouched with ⟨newPpg, newAt, newTouched⟩
  have isPositive := touch_addAt_pos newTouched
  have atWanted := touch_addAt newTouched
  have found : index = wanted ∨ ∃ key, key ∈ returnKeysAt isLocal new wanted ∧
      (key ∈ returnKeysAt isLocal old index ∨ key ∈ returnKeysAt isLocal new index) ∧
        ∃ type ∈ ethTypeToTc, target = returnPlace portsecMain key type := by
    rw [returnKeysAt_eq newAt]
    rcases Write.touch_append.mp touched with isUndone | isDone
    · rcases touch_undoAt isUndone with ⟨oldPpg, oldAt, oldTouched⟩
      rw [returnKeysAt_eq oldAt]
      rcases atPosition_cases fits newFits same.chainId oldAt newAt
        (touch_removeAt oldTouched) atWanted with samePosition | ⟨key, isOld, isNew, isPlace⟩
      · exact Or.inl samePosition
      · exact Or.inr ⟨key, isNew, Or.inl isOld, isPlace⟩
    · rcases touch_roundAt isDone with ⟨otherPpg, otherAt, otherTouched⟩
      rw [returnKeysAt_eq otherAt]
      rcases atPosition_cases newFits newFits rfl otherAt newAt
        (touch_addAt otherTouched) atWanted with samePosition | ⟨key, isOther, isNew, isPlace⟩
      · exact Or.inl samePosition
      · exact Or.inr ⟨key, isNew, Or.inr isOther, isPlace⟩
  rcases found with rfl | ⟨key, isKey, handled, type, isType, rfl⟩
  · exact ⟨index, inside, Nat.le_refl _, Nat.le_refl _, changed, wantedTouched⟩
  · rcases followed.returns (List.length_pos_iff.mp isPositive) index inside changed wanted
      isWanted key isKey handled with ⟨last, isLast, afterIndex, afterWanted, isChanged, written⟩
    exact ⟨last, isLast, afterIndex, afterWanted, isChanged,
      touch_roundAt_return written isType isPositive⟩

/-- The flows and groups of the port pair groups are updated as they would be
created. -/
theorem groups_updated (fits : Fits old) (newFits : Fits new) (same : SameObjects old new)
    (followed : Followed isLocal old new) {content : Target → Option Content}
    (empty : content target = none) :
    Write.applyAll (Write.applyAll content ((List.range old.portPairGroups.length).flatMap
        (roundAt isLocal portsecMain old)))
      ((List.range (positions old new)).flatMap (changeAt isLocal portsecMain old new))
        target =
      Write.applyAll content ((List.range new.portPairGroups.length).flatMap
        (roundAt isLocal portsecMain new)) target := by
  have changes : changeAt isLocal portsecMain old new = fun index =>
      if Changed old new index then
        undoAt isLocal portsecMain old index ++ roundAt isLocal portsecMain new index
      else [] := funext changeAt_eq
  have oldPositions : old.portPairGroups.length ≤ positions old new := Nat.le_max_left _ _
  have newPositions : new.portPairGroups.length ≤ positions old new := Nat.le_max_right _ _
  rw [rounds_extend oldPositions, rounds_extend newPositions, changes]
  refine Write.applyAll_rounds_updated ?_ ?_ ?_ ?_ empty
  · exact fun index _ kept => roundAt_kept same followed kept
  · exact fun index _ => undoAt_empty
  · exact fun index _ _ touched => roundAt_undone same followed touched
  · exact fun index inside changed touched wanted isWanted wantedTouched =>
      rounds_order fits newFits same followed inside changed touched isWanted wantedTouched

/-! ## Whole chains -/

/-- What creating a chain writes. -/
def createWrites (isLocal : Id → Bool) (portsecMain : Nat) (portChain : PortChain) :
    List SfcWrite :=
  portChain.flowClassifiers.flatMap (classifierWrites isLocal portChain) ++
    (List.range portChain.portPairGroups.length).flatMap
      (roundAt isLocal portsecMain portChain)

theorem EndOf.not_offEnd {flowClassifier : FlowClassifier}
    (isEnd : EndOf isLocal portChain flowClassifier target) : ¬ OffEnd target := by
  rcases isEnd with ⟨type, _, ⟨_, rfl⟩ | rfl⟩
  · exact not_not.mpr (Or.inl (by simp [encapMatch]))
  · exact not_not.mpr (Or.inr ⟨rfl, by simp [labelTcMatch]⟩)

theorem touch_rounds_offEnd {count : Nat}
    (touched : Write.Touch ((List.range count).flatMap
      (roundAt isLocal portsecMain portChain)) target) : OffEnd target := by
  rcases Write.touch_rounds.mp touched with ⟨index, _, touched⟩
  rcases touch_roundAt touched with ⟨_, _, touched⟩
  exact (touch_addAt touched).offEnd

theorem touch_changes_offEnd {count : Nat}
    (touched : Write.Touch ((List.range count).flatMap
      (changeAt isLocal portsecMain old new)) target) : OffEnd target := by
  rcases Write.touch_rounds.mp touched with ⟨index, _, touched⟩
  rw [changeAt_eq] at touched
  split at touched
  · rcases Write.touch_append.mp touched with touched | touched
    · rcases touch_undoAt touched with ⟨_, _, touched⟩
      exact (touch_removeAt touched).offEnd
    · rcases touch_roundAt touched with ⟨_, _, touched⟩
      exact (touch_addAt touched).offEnd
  · exact absurd touched (by simp [Write.Touch])

theorem touch_classifiers_end {classifiers : List FlowClassifier}
    {writesOf : FlowClassifier → List SfcWrite}
    (areEnds : ∀ flowClassifier, Write.Touch (writesOf flowClassifier) target →
      EndOf isLocal portChain flowClassifier target)
    (touched : Write.Touch (classifiers.flatMap writesOf) target) : ¬ OffEnd target := by
  rcases Write.touch_flatMap.mp touched with ⟨flowClassifier, _, touched⟩
  exact (areEnds flowClassifier touched).not_offEnd

/-- After the writes of an update there is what creating the new version writes. -/
theorem updateWrites_eq (fits : Fits old) (newFits : Fits new) (same : SameObjects old new)
    (followed : Followed isLocal old new) {content : Target → Option Content}
    (empty : content target = none) :
    Write.applyAll (Write.applyAll content (createWrites isLocal portsecMain old))
      (((old.flowClassifiers.filter (· ∉ new.flowClassifiers)).flatMap
          (classifierDrops isLocal old) ++
        (new.flowClassifiers.filter (· ∉ old.flowClassifiers)).flatMap
          (classifierWrites isLocal new)) ++
        (List.range (positions old new)).flatMap (changeAt isLocal portsecMain old new))
        target =
      Write.applyAll content (createWrites isLocal portsecMain new) target := by
  unfold createWrites
  have groupsLast : ∀ store classifiers count (round : Nat → List SfcWrite),
      Write.applyAll store (classifiers ++ (List.range count).flatMap round) =
        Write.applyAll (Write.applyAll store classifiers) ((List.range count).flatMap round) :=
    fun _ _ _ _ => Write.applyAll_append
  simp only [groupsLast]
  by_cases off : OffEnd target
  · -- only the groups are about the target
    have untouched : ∀ {portChain : PortChain} {classifiers : List FlowClassifier} {store},
        Write.applyAll store
          (classifiers.flatMap (classifierWrites isLocal portChain)) target =
            store target :=
      Write.applyAll_untouched fun touched => touch_classifiers_end
        (fun _ => touch_classifierWrites.mp) touched off
    have undisturbed : ∀ {portChain : PortChain} {classifiers : List FlowClassifier} {store},
        Write.applyAll store
          (classifiers.flatMap (classifierDrops isLocal portChain)) target =
            store target :=
      Write.applyAll_untouched fun touched => touch_classifiers_end
        (fun _ => touch_classifierDrops.mp) touched off
    refine (Write.applyAll_congr ?_).trans
      ((groups_updated fits newFits same followed empty).trans
        (Write.applyAll_congr untouched.symm))
    rw [Write.applyAll_append, untouched, undisturbed]
    exact Write.applyAll_congr untouched
  · -- only the classifiers are about the target
    have roundsUntouched : ∀ (portChain : PortChain) count store, Write.applyAll store
        ((List.range count).flatMap (roundAt isLocal portsecMain portChain)) target =
          store target :=
      fun _ _ _ => Write.applyAll_untouched fun touched => off (touch_rounds_offEnd touched)
    rw [Write.applyAll_untouched fun touched => off (touch_changes_offEnd touched),
      roundsUntouched, ← classifiers_updated fits newFits same followed.classifiers empty]
    exact Write.applyAll_congr (roundsUntouched _ _ _)

/-! ## Runs of updates -/

/-- The updates of a chain from one version to the next. -/
def portChainUpdates (isLocal : Id → Bool) (portsecMain : Nat) :
    PortChain → List PortChain → Action Unit
  | _, [] => pure ()
  | old, new :: versions => do
      portChainUpdated isLocal portsecMain new old
      portChainUpdates isLocal portsecMain new versions

/-- What the node has after a version of a chain was created on empty tables. -/
def Created (isLocal : Id → Bool) (portsecMain : Nat) (portChain : PortChain)
    (app : SfcApp) : Prop :=
  exec (portChainCreated isLocal portsecMain portChain) {} = (.ok (), app)

variable {app : SfcApp}

theorem created_iff (fits : Fits portChain) :
    Created isLocal portsecMain portChain app ↔ app.content =
      Write.applyAll (content {}) (createWrites isLocal portsecMain portChain) := by
  rcases @portChainCreated_writes isLocal portsecMain _ fits {} with
    ⟨after, executed, isContent⟩
  unfold Created
  rw [executed]
  constructor
  · intro same
    cases same
    exact isContent
  · intro sameContent
    rw [content_injective (sameContent.trans isContent.symm)]

/-- One update leaves what creating the new version would have left. -/
theorem portChainUpdated_created (fits : Fits old) (newFits : Fits new)
    (same : SameObjects old new) (followed : Followed isLocal old new)
    (created : Created isLocal portsecMain old app) :
    ∃ after, exec (portChainUpdated isLocal portsecMain new old) app = (.ok (), after) ∧
      Created isLocal portsecMain new after := by
  rcases @portChainUpdated_writes isLocal portsecMain _ _ fits newFits same app
    with ⟨after, executed, isContent⟩
  refine ⟨after, executed, (created_iff newFits).mpr ?_⟩
  rw [isContent, (created_iff fits).mp created]
  funext target
  exact updateWrites_eq fits newFits same followed (by cases target <;> rfl)

theorem portChainUpdates_created (versions : List PortChain)
    (allFit : ∀ version ∈ old :: versions, Fits version)
    (updates : List.IsChain (fun old new => SameObjects old new ∧ Followed isLocal old new)
      (old :: versions))
    (created : Created isLocal portsecMain old app) :
    ∃ after, exec (portChainUpdates isLocal portsecMain old versions) app =
        (.ok (), after) ∧
      Created isLocal portsecMain (versions.getLastD old) after := by
  induction versions generalizing old app with
  | nil => exact ⟨app, rfl, created⟩
  | cons new versions induction =>
      rcases List.isChain_cons_cons.mp updates with ⟨⟨same, followed⟩, later⟩
      rcases portChainUpdated_created (allFit old List.mem_cons_self)
        (allFit new (List.mem_cons_of_mem _ List.mem_cons_self)) same followed created
        with ⟨middle, executed, isMiddle⟩
      rcases induction (fun version member => allFit version (List.mem_cons_of_mem _ member))
        later isMiddle with ⟨after, continued, isAfter⟩
      refine ⟨after, ?_, ?_⟩
      · rw [portChainUpdates, exec_bind_ok executed]
        exact continued
      · rw [List.getLastD_cons]
        exact isAfter

/-- Creating a chain and updating it through any versions leaves the flows and groups
that creating the last version leaves on empty tables, when every update is followed. -/
theorem portChain_updates_reinstall (isLocal : Id → Bool) (portsecMain : Nat)
    (first : PortChain) (versions : List PortChain)
    (allFit : ∀ version ∈ first :: versions, Fits version)
    (updates : List.IsChain (fun old new => SameObjects old new ∧ Followed isLocal old new)
      (first :: versions)) :
    ∃ after, exec (do
        portChainCreated isLocal portsecMain first
        portChainUpdates isLocal portsecMain first versions) {} = (.ok (), after) ∧
      exec (portChainCreated isLocal portsecMain (versions.getLastD first)) {} =
        (.ok (), after) := by
  rcases @portChainCreated_writes isLocal portsecMain _
    (allFit first List.mem_cons_self) {} with ⟨middle, executed, _⟩
  rcases portChainUpdates_created versions allFit updates executed with
    ⟨after, continued, isAfter⟩
  refine ⟨after, ?_, isAfter⟩
  rw [exec_bind_ok executed]
  exact continued

/-! ## A chain that is updated twice -/

/-- A group of one service, whose port pair has one port. -/
def service (id : Id) (uniqueKey : Nat) : PortPairGroup where
  id := id
  portPairs := [⟨id, { id, uniqueKey }, { id, uniqueKey }, some .none⟩]

def servicesOf (services : List PortPairGroup) (classifier : FlowClassifier) :
    PortChain where
  id := "chain"
  chainId := 1
  portPairGroups := services
  flowClassifiers := [classifier]

def webTraffic : FlowClassifier := ⟨"web", 21, none, none⟩

def mailTraffic : FlowClassifier := ⟨"mail", 22, none, none⟩

def guarded : PortChain := servicesOf [service "firewall" 3, service "proxy" 4] webTraffic

/-- The proxy is replaced by a scanner. -/
def scanned : PortChain := servicesOf [service "firewall" 3, service "scanner" 5] webTraffic

/-- The classifier is replaced, and a service is added. -/
def mailed : PortChain :=
  servicesOf [service "firewall" 3, service "scanner" 5, service "filter" 6] mailTraffic

theorem portChain_updates_reinstall_twice :
    ∃ after, exec (do
        portChainCreated (fun _ => true) 5 guarded
        portChainUpdates (fun _ => true) 5 guarded [scanned, mailed]) {} =
          (.ok (), after) ∧
      exec (portChainCreated (fun _ => true) 5 mailed) {} = (.ok (), after) := by
  refine portChain_updates_reinstall (fun _ => true) 5 guarded [scanned, mailed] ?_ ?_
  · intro version member
    simp only [List.mem_cons, List.not_mem_nil, or_false] at member
    rcases member with rfl | rfl | rfl <;>
      exact ⟨by decide, by decide, by decide, by decide, by decide, by decide⟩
  · have replaced : SameObjects guarded scanned ∧ Followed (fun _ => true) guarded scanned :=
      ⟨⟨by decide, by decide, by decide⟩, ⟨by unfold ClassifiersStay; decide, by decide,
        by decide, fun _ => by unfold ReturnsLast; decide⟩⟩
    have extended : SameObjects scanned mailed ∧ Followed (fun _ => true) scanned mailed :=
      ⟨⟨by decide, by decide, by decide⟩, ⟨by unfold ClassifiersStay; decide, by decide,
        by decide, fun _ => by unfold ReturnsLast; decide⟩⟩
    exact List.isChain_cons_cons.mpr ⟨replaced,
      List.isChain_cons_cons.mpr ⟨extended, List.IsChain.singleton _⟩⟩

/-- The firewall alone. -/
def shortened : PortChain := servicesOf [service "firewall" 3] webTraffic

/-- When the last group is removed, the flows that pop its label stay, since they are
deleted without the traffic class with which they were installed. -/
theorem portChain_update_leaves_flows :
    Fits guarded ∧ Fits shortened ∧ SameObjects guarded shortened ∧
    exec (do
        portChainCreated (fun _ => true) 5 guarded
        portChainUpdates (fun _ => true) 5 guarded [shortened]) {} ≠
      exec (portChainCreated (fun _ => true) 5 shortened) {} := by
  refine ⟨⟨by decide, by decide, by decide, by decide, by decide, by decide⟩,
    ⟨by decide, by decide, by decide, by decide, by decide, by decide⟩,
    ⟨by decide, by decide, by decide⟩, fun same => ?_⟩
  simp only [portChainUpdates, portChainUpdated, guarded, shortened, servicesOf,
    updateGroups] at same
  have flow := congrArg (fun result => result.2.flows Const.sfcMplsPpDecapTable
    Const.priorityHigh (labelTcMatch 2049 0)) same
  exact absurd flow (by decide +kernel)

end SfcApp

end Dragonflow
