import Dragonflow.Controller.Apps.Classifier

/-! # The flows of the classifier

The flows are those of the current switch ports as long as numbers and logical
ports are given up before they are used again, and a switch port does not change
its logical port alone.
-/

namespace Dragonflow

open Program

namespace ClassifierApp

variable {config : Config} {app : ClassifierApp} {assigned : Id → Option Assignment}
  {mine other : Assignment} {flow : Flow OFPMatch Instruction}

/-! ## Deleting by match -/

/-- The messages that delete the flows of a switch port are about this flow. -/
def Taken (portNum portKey : Nat) (flow : Flow OFPMatch Instruction) : Prop :=
  (flow.table = Const.ingressDispatchTable ∧
      Pattern.covers (dispatchMatch portKey) flow.pattern) ∨
    (flow.table = Const.ingressClassificationDispatchTable ∧
      Pattern.covers (classificationMatch portNum) flow.pattern)

theorem not_taken_exitpoint (portNum portKey : Nat) :
    ¬ Taken portNum portKey exitpointFlow.flow := by
  rintro (⟨table, _⟩ | ⟨_, covered⟩)
  · cases table
  · cases covered

theorem taken_own (member : flow ∈ mine.flows) :
    Taken mine.portNum mine.portKey flow := by
  rcases List.mem_pair.mp member with rfl | rfl
  · exact Or.inr ⟨rfl, OFPMatch.covers_self _⟩
  · exact Or.inl ⟨rfl, OFPMatch.covers_self _⟩

theorem not_taken_other {portNum portKey : Nat} (number : other.portNum ≠ portNum)
    (key : other.portKey ≠ portKey) (member : flow ∈ other.flows) :
    ¬ Taken portNum portKey flow := by
  rcases List.mem_pair.mp member with rfl | rfl
  · rintro (⟨table, _⟩ | ⟨_, covered⟩)
    · cases table
    · refine number ?_
      simpa [Pattern.covers, FieldMatch.coversField, FieldMatch.covers,
        classificationMatch, FlowMod.flow, makeIngressClassificationFlow, eq_comm]
        using covered
  · rintro (⟨_, covered⟩ | ⟨table, _⟩)
    · refine key ?_
      simpa [Pattern.covers, FieldMatch.coversField, FieldMatch.covers,
        dispatchMatch, FlowMod.flow, makeIngressDispatchFlow, eq_comm] using covered
    · cases table

theorem has_removed (flows : Flows) (portNum portKey : Nat) :
    ((flows.apply (delIngressDispatchFlow portKey)).apply
      (delIngressClassificationFlow portNum)).Has flow ↔
        flows.Has flow ∧ ¬ Taken portNum portKey flow := by
  rw [FlowTable.has_apply_delete rfl rfl, FlowTable.has_apply_delete rfl rfl, and_assoc,
    ← not_or]
  rfl

theorem has_classified (flows : Flows) (mine : Assignment) :
    ((flows.apply (makeIngressClassificationFlow mine.portKey mine.networkId
      mine.portNum)).apply (makeIngressDispatchFlow mine.portKey mine.portNum)).Has flow ↔
        flow ∈ mine.flows ∨ (flows.Has flow ∧
          ¬ (makeIngressClassificationFlow mine.portKey mine.networkId
            mine.portNum).Places flow ∧
          ¬ (makeIngressDispatchFlow mine.portKey mine.portNum).Places flow) := by
  rw [FlowTable.has_apply_add rfl, FlowTable.has_apply_add rfl, Assignment.flows,
    List.mem_pair]
  constructor
  · rintro (isDispatch | ⟨isClassification | ⟨had, first⟩, second⟩)
    · exact Or.inl (Or.inr isDispatch)
    · exact Or.inl (Or.inl isClassification)
    · exact Or.inr ⟨had, first, second⟩
  · rintro ((isClassification | isDispatch) | ⟨had, first, second⟩)
    · refine Or.inr ⟨Or.inl isClassification, ?_⟩
      rintro ⟨table, _⟩
      rw [isClassification] at table
      cases table
    · exact Or.inl isDispatch
    · exact Or.inr ⟨Or.inr ⟨had, first⟩, second⟩

/-- A flow in a place of this port's flows is deleted with them. -/
theorem taken_of_places
    (places : (makeIngressClassificationFlow mine.portKey mine.networkId
        mine.portNum).Places flow ∨
      (makeIngressDispatchFlow mine.portKey mine.portNum).Places flow) :
    Taken mine.portNum mine.portKey flow := by
  rcases places with ⟨table, _, pattern⟩ | ⟨table, _, pattern⟩
  · refine Or.inr ⟨table, ?_⟩
    rw [pattern]
    exact OFPMatch.covers_self _
  · refine Or.inl ⟨table, ?_⟩
    rw [pattern]
    exact OFPMatch.covers_self _

/-! ## What the application keeps track of -/

/-- The application has the flows of the assignments, and no two of them compete. -/
structure Serves (app : ClassifierApp) (assigned : Id → Option Assignment) : Prop where
  map : ∀ id, app.ofportUniqueKeyMap.lookup id =
    (assigned id).map fun assignment => (assignment.portNum, assignment.portKey)
  has : ∀ flow, app.flows.Has flow ↔ flow = exitpointFlow.flow ∨
    ∃ id assignment, assigned id = some assignment ∧ flow ∈ assignment.flows
  apart : ∀ id other mine theirs, assigned id = some mine →
    assigned other = some theirs → id ≠ other →
      mine.portNum ≠ theirs.portNum ∧ mine.portKey ≠ theirs.portKey

theorem Serves.remove {id : Id} {mine : Assignment} (serves : Serves app assigned)
    (found : assigned id = some mine) :
    Serves { app with
      ofportUniqueKeyMap := app.ofportUniqueKeyMap.erase id
      flows := (app.flows.apply (delIngressDispatchFlow mine.portKey)).apply
        (delIngressClassificationFlow mine.portNum) }
      (Function.update assigned id none) where
  map other := by
    rw [Dict.lookup_erase_eq, serves.map, Function.update_apply]
    split <;> rfl
  has flow := by
    rw [has_removed, serves.has]
    constructor
    · rintro ⟨isExitpoint | ⟨other, theirs, isAssigned, member⟩, notTaken⟩
      · exact Or.inl isExitpoint
      · refine Or.inr ⟨other, theirs, ?_, member⟩
        rw [Function.update_of_ne, isAssigned]
        rintro rfl
        rw [found] at isAssigned
        cases isAssigned
        exact notTaken (taken_own member)
    · rintro (rfl | ⟨other, theirs, isAssigned, member⟩)
      · exact ⟨Or.inl rfl, not_taken_exitpoint _ _⟩
      · have different : other ≠ id := by
          rintro rfl
          rw [Function.update_self] at isAssigned
          cases isAssigned
        rw [Function.update_of_ne different] at isAssigned
        rcases serves.apart other id theirs mine isAssigned found different with
          ⟨number, key⟩
        exact ⟨Or.inr ⟨other, theirs, isAssigned, member⟩,
          not_taken_other number key member⟩
  apart first second mine theirs isMine isTheirs different := by
    have kept : ∀ other assignment, Function.update assigned id none other =
        some assignment → assigned other = some assignment := by
      intro other assignment isAssigned
      rw [Function.update_apply] at isAssigned
      split at isAssigned
      · cases isAssigned
      · exact isAssigned
    exact serves.apart first second mine theirs (kept _ _ isMine) (kept _ _ isTheirs)
      different

/-- Nobody else uses the number or the key. -/
def Fresh (assigned : Id → Option Assignment) (id : Id) (mine : Assignment) : Prop :=
  ∀ other theirs, other ≠ id → assigned other = some theirs →
    theirs.portNum ≠ mine.portNum ∧ theirs.portKey ≠ mine.portKey

theorem Serves.insert {id : Id} {mine : Assignment} (serves : Serves app assigned)
    (fresh : Fresh assigned id mine)
    (own : ∀ old, assigned id = some old → old = mine) :
    Serves { app with
      ofportUniqueKeyMap :=
        app.ofportUniqueKeyMap.insert id (mine.portNum, mine.portKey)
      flows := (app.flows.apply (makeIngressClassificationFlow mine.portKey
        mine.networkId mine.portNum)).apply
          (makeIngressDispatchFlow mine.portKey mine.portNum) }
      (Function.update assigned id (some mine)) where
  map other := by
    rw [Dict.lookup_insert_eq, serves.map, Function.update_apply]
    split <;> rfl
  has flow := by
    rw [has_classified, serves.has]
    constructor
    · rintro (isMine | ⟨isExitpoint | ⟨other, theirs, isAssigned, member⟩, _⟩)
      · exact Or.inr ⟨id, mine, Function.update_self .., isMine⟩
      · exact Or.inl isExitpoint
      · refine Or.inr ⟨other, theirs, ?_, member⟩
        by_cases same : other = id
        · rw [same, Function.update_self, own theirs (same ▸ isAssigned)]
        · rw [Function.update_of_ne same, isAssigned]
    · rintro (rfl | ⟨other, theirs, isAssigned, member⟩)
      · have notTaken := not_taken_exitpoint mine.portNum mine.portKey
        exact Or.inr ⟨Or.inl rfl, fun places => notTaken (taken_of_places (Or.inl places)),
          fun places => notTaken (taken_of_places (Or.inr places))⟩
      · by_cases same : other = id
        · rw [same, Function.update_self] at isAssigned
          cases isAssigned
          exact Or.inl member
        · rw [Function.update_of_ne same] at isAssigned
          rcases fresh other theirs same isAssigned with ⟨number, key⟩
          have notTaken := not_taken_other number key member
          exact Or.inr ⟨Or.inr ⟨other, theirs, isAssigned, member⟩,
            fun places => notTaken (taken_of_places (Or.inl places)),
            fun places => notTaken (taken_of_places (Or.inr places))⟩
  apart first second left right isLeft isRight different := by
    rw [Function.update_apply] at isLeft isRight
    split at isLeft <;> split at isRight
    · next isFirst isSecond => exact absurd (isFirst.trans isSecond.symm) different
    · next notMine =>
        cases isLeft
        rcases fresh second right notMine isRight with ⟨number, key⟩
        exact ⟨number.symm, key.symm⟩
    · next notMine _ =>
        cases isRight
        exact fresh first left notMine isLeft
    · exact serves.apart first second left right isLeft isRight different

/-! ## The handlers -/

theorem update_none_of_none {id : Id} (unassigned : assigned id = none) :
    Function.update assigned id none = assigned := by
  rw [← unassigned]
  exact Function.update_eq_self id assigned

theorem switchPortDeleted_leads (switchPort : SwitchPort)
    (serves : Serves app assigned) :
    Leads (switchPortDeleted switchPort) app
      (fun _ after => Serves after (Function.update assigned switchPort.id none))
      fun _ _ => False := by
  have recorded := serves.map switchPort.id
  rw [switchPortDeleted, leads_bind, leads_get]
  cases found : assigned switchPort.id with
  | none =>
      rw [found] at recorded
      rw [recorded, update_none_of_none found]
      exact serves
  | some mine =>
      rw [found] at recorded
      rw [recorded]
      exact serves.remove found

theorem assignment_eq_some {switchPort : SwitchPort} :
    assignment config switchPort = some mine ↔
      ∃ ref lport lswitch, switchPort.lport = some ref ∧
        switchPort.readyNum = some mine.portNum ∧ config.lports ref = some lport ∧
        config.lswitch lport = .ok lswitch ∧ lport.uniqueKey = mine.portKey ∧
        lswitch.uniqueKey = mine.networkId := by
  have isOk : ∀ (result : Except PyError LogicalSwitch) lswitch,
      result.toOption = some lswitch ↔ result = .ok lswitch := by
    rintro (error | found) lswitch <;> simp [Except.toOption]
  simp only [assignment, Option.bind_eq_bind, Option.bind_eq_some_iff, isOk]
  constructor
  · rintro ⟨ref, hasRef, portNum, isReady, lport, stored, lswitch, attached, isMine⟩
    cases isMine
    exact ⟨ref, lport, lswitch, hasRef, isReady, stored, attached, rfl, rfl⟩
  · rintro ⟨ref, lport, lswitch, hasRef, isReady, stored, attached, isKey, isNetwork⟩
    refine ⟨ref, hasRef, mine.portNum, isReady, lport, stored, lswitch, attached, ?_⟩
    rw [isKey, isNetwork]
    rfl

theorem classify_leads {switchPort : SwitchPort} {ref : Id} {portNum : Nat}
    (serves : Serves app assigned) (hasRef : switchPort.lport = some ref)
    (isReady : switchPort.readyNum = some portNum)
    (isMine : assignment config switchPort = some mine)
    (fresh : Fresh assigned switchPort.id mine)
    (own : ∀ old, assigned switchPort.id = some old → old = mine) :
    Leads (classify config switchPort ref portNum) app
      (fun _ after => Serves after (Function.update assigned switchPort.id (some mine)))
      fun _ _ => False := by
  rcases assignment_eq_some.mp isMine with
    ⟨sameRef, lport, lswitch, hasSame, sameNum, stored, attached, isKey, isNetwork⟩
  cases hasRef.symm.trans hasSame
  cases isReady.symm.trans sameNum
  have gotten : nbLport config ref = .ok lport := by
    unfold nbLport
    rw [stored]
  rw [classify, gotten]
  simp only [leads_bind, leads_ofExcept_ok, onMap, leads_modify, attached, modFlow]
  rw [isKey, isNetwork]
  exact serves.insert fresh own

theorem assignment_of_resolved {switchPort : SwitchPort} {ref : Id} {portNum : Nat}
    (resolved : Resolved config switchPort) (hasRef : switchPort.lport = some ref)
    (isReady : switchPort.readyNum = some portNum) :
    ∃ mine, assignment config switchPort = some mine := by
  have hasNum : switchPort.readyNum ≠ none := by
    rw [isReady]
    exact Option.some_ne_none portNum
  rcases resolved hasNum ref hasRef with ⟨lport, stored, isOk⟩
  cases attached : config.lswitch lport with
  | error error =>
      rw [attached] at isOk
      cases isOk
  | ok lswitch =>
      exact ⟨⟨portNum, lport.uniqueKey, lswitch.uniqueKey⟩, assignment_eq_some.mpr
        ⟨ref, lport, lswitch, hasRef, isReady, stored, attached, rfl, rfl⟩⟩

/-- What the update of a switch port leaves to be done once its old flows were
dropped. -/
structure Prepared (config : Config) (switchPort : SwitchPort)
    (assigned : Id → Option Assignment) : Prop where
  fresh : ∀ mine, assignment config switchPort = some mine →
    Fresh assigned switchPort.id mine
  own : ∀ old, assigned switchPort.id = some old →
    assignment config switchPort = some old

theorem Fresh.update {id : Id} (fresh : Fresh assigned id mine)
    (value : Option Assignment) : Fresh (Function.update assigned id value) id mine := by
  intro other theirs different isAssigned
  rw [Function.update_of_ne different] at isAssigned
  exact fresh other theirs different isAssigned

/-- The conditions under which the handler of a created or updated switch port does
its work. `original` is what the application was told of before. -/
structure Ready (config : Config) (switchPort : SwitchPort)
    (original : Option SwitchPort) (assigned : Id → Option Assignment) : Prop where
  current : assigned switchPort.id = original.bind (assignment config)
  resolved : Resolved config switchPort
  fresh : ∀ mine, assignment config switchPort = some mine →
    Fresh assigned switchPort.id mine
  follows : ∀ before, original = some before → assignment config before ≠ none →
    switchPort.lport ≠ none ∧
      (switchPort.portNum = before.portNum → switchPort.lport = before.lport)

/-- With the same number and the same logical port the assignment is the same. -/
theorem Ready.same {switchPort before : SwitchPort}
    (ready : Ready config switchPort (some before) assigned)
    (number : switchPort.portNum = before.portNum) {old : Assignment}
    (had : assigned switchPort.id = some old) :
    assignment config switchPort = some old := by
  have isOld : assignment config before = some old := by
    rw [← had, ready.current]
    rfl
  have sameRef : switchPort.lport = before.lport :=
    (ready.follows before rfl (by simp [isOld])).2 number
  rw [← isOld]
  unfold assignment SwitchPort.readyNum
  rw [number, sameRef]

theorem dropChanged_leads {switchPort : SwitchPort} {original : Option SwitchPort}
    (serves : Serves app assigned) (ready : Ready config switchPort original assigned) :
    Leads (dropChanged switchPort original) app
      (fun _ after => ∃ kept, Serves after kept ∧ Prepared config switchPort kept ∧
        ∀ value, Function.update kept switchPort.id value =
          Function.update assigned switchPort.id value)
      fun _ _ => False := by
  cases original with
  | none =>
      refine ⟨assigned, serves, ⟨ready.fresh, fun old had => ?_⟩, fun _ => rfl⟩
      rw [ready.current] at had
      cases had
  | some before =>
      rw [dropChanged]
      split
      · refine (switchPortDeleted_leads switchPort serves).mono ?_ fun _ _ no => no
        intro _ after dropped
        refine ⟨_, dropped, ⟨fun mine isMine => (ready.fresh mine isMine).update none,
          fun old had => ?_⟩, fun value => Function.update_idem ..⟩
        rw [Function.update_self] at had
        cases had
      · next same =>
          have number : switchPort.portNum = before.portNum :=
            (Decidable.not_not.mp same).symm
          exact ⟨assigned, serves, ⟨ready.fresh, fun old had => ready.same number had⟩,
            fun _ => rfl⟩

theorem switchPortCreated_leads {switchPort : SwitchPort} {original : Option SwitchPort}
    (serves : Serves app assigned) (ready : Ready config switchPort original assigned) :
    Leads (switchPortCreated config switchPort original) app
      (fun _ after => Serves after
        (Function.update assigned switchPort.id (assignment config switchPort)))
      fun _ _ => False := by
  unfold switchPortCreated
  cases hasRef : switchPort.lport with
  | none =>
      have noAssignment : assignment config switchPort = none := by
        simp [assignment, hasRef]
      have unassigned : assigned switchPort.id = none := by
        rw [ready.current]
        cases original with
        | none => rfl
        | some before =>
            by_contra had
            exact (ready.follows before rfl had).1 hasRef
      rw [noAssignment, update_none_of_none unassigned]
      exact serves
  | some ref =>
      rw [leads_bind]
      refine (dropChanged_leads serves ready).mono ?_ fun _ _ no => no
      rintro _ after ⟨kept, servesKept, prepared, same⟩
      rw [← same]
      cases isReady : switchPort.readyNum with
      | none =>
          have noAssignment : assignment config switchPort = none := by
            simp [assignment, hasRef, isReady]
          have unassigned : kept switchPort.id = none := by
            by_contra had
            rcases Option.ne_none_iff_exists'.mp had with ⟨old, isOld⟩
            rw [prepared.own old isOld] at noAssignment
            cases noAssignment
          rw [noAssignment, update_none_of_none unassigned]
          exact servesKept
      | some portNum =>
          rcases assignment_of_resolved ready.resolved hasRef isReady with ⟨mine, isMine⟩
          rw [isMine]
          refine classify_leads servesKept hasRef isReady isMine
            (prepared.fresh mine isMine) fun old had => ?_
          exact Option.some.inj ((prepared.own old had).symm.trans isMine)

/-! ## Runs -/

/-- The state between two events. -/
structure Bridge.Settled (config : Config) (bridge : Bridge) : Prop where
  serves : Serves bridge.app (bridge.assigned config)
  keyed : ∀ id switchPort, bridge.switchPorts.lookup id = some switchPort →
    switchPort.id = id

theorem Serves.handle {bridge : Bridge} {handler : Action Unit}
    (leads : Leads handler bridge.app (fun _ after => Serves after assigned)
      fun _ _ => False) : Serves (bridge.handle handler).app assigned := by
  rcases leads.returned with ⟨_, after, executed, serves⟩
  simp only [Bridge.handle, executed]
  exact serves

theorem assigned_insert (bridge : Bridge) (switchPort : SwitchPort)
    (app : ClassifierApp) :
    Bridge.assigned config
        ⟨bridge.switchPorts.insert switchPort.id switchPort, app⟩ =
      Function.update (bridge.assigned config) switchPort.id
        (assignment config switchPort) := by
  funext id
  unfold Bridge.assigned
  rw [Dict.lookup_insert_eq, Function.update_apply]
  split <;> rfl

theorem assigned_erase (bridge : Bridge) (id : Id) (app : ClassifierApp) :
    Bridge.assigned config ⟨bridge.switchPorts.erase id, app⟩ =
      Function.update (bridge.assigned config) id none := by
  funext other
  unfold Bridge.assigned
  rw [Dict.lookup_erase_eq, Function.update_apply]
  split <;> rfl

theorem Bridge.Free.fresh {bridge : Bridge} {switchPort : SwitchPort}
    (free : bridge.Free config switchPort)
    (isMine : assignment config switchPort = some mine) :
    Fresh (bridge.assigned config) switchPort.id mine := by
  intro other theirs different isAssigned
  rcases Option.bind_eq_some_iff.mp isAssigned with ⟨port, stored, _⟩
  exact free mine isMine other ((Dict.mem_keys_iff _ _).mpr ⟨port, stored⟩) different
    theirs isAssigned

/-- A created or updated switch port. -/
theorem Bridge.Settled.insert {bridge : Bridge} {switchPort : SwitchPort}
    (settled : bridge.Settled config) (resolved : Resolved config switchPort)
    (free : bridge.Free config switchPort) (follows : bridge.Follows config switchPort) :
    (Bridge.handle
      { bridge with
        switchPorts := bridge.switchPorts.insert switchPort.id switchPort }
      (switchPortCreated config switchPort
        (bridge.switchPorts.lookup switchPort.id))).Settled config where
  serves := by
    have ready : Ready config switchPort (bridge.switchPorts.lookup switchPort.id)
        (bridge.assigned config) :=
      ⟨rfl, resolved, fun _ isMine => free.fresh isMine, follows⟩
    have leads := switchPortCreated_leads settled.serves ready
    rw [← assigned_insert bridge switchPort
      (exec (switchPortCreated config switchPort
        (bridge.switchPorts.lookup switchPort.id)) bridge.app).2] at leads
    exact Serves.handle leads
  keyed id port stored := by
    change (bridge.switchPorts.insert switchPort.id switchPort).lookup id = _ at stored
    rw [Dict.lookup_insert_eq] at stored
    split at stored
    · next same =>
        cases stored
        exact same.symm
    · exact settled.keyed id port stored

theorem Bridge.Settled.erase {bridge : Bridge} {id : Id} {switchPort : SwitchPort}
    (settled : bridge.Settled config)
    (stored : bridge.switchPorts.lookup id = some switchPort) :
    (Bridge.handle { bridge with switchPorts := bridge.switchPorts.erase id }
      (switchPortDeleted switchPort)).Settled config where
  serves := by
    have leads := switchPortDeleted_leads switchPort settled.serves
    rw [settled.keyed id switchPort stored, ← assigned_erase bridge id
      (exec (switchPortDeleted switchPort) bridge.app).2] at leads
    exact Serves.handle leads
  keyed other port found := by
    change (bridge.switchPorts.erase id).lookup other = _ at found
    rw [Dict.lookup_erase_eq] at found
    split at found
    · cases found
    · exact settled.keyed other port found

theorem step_settled {bridge after : Bridge} {event : Event}
    (settled : bridge.Settled config) (tidy : bridge.Tidy config event)
    (stepped : step config bridge event = some after) : after.Settled config := by
  cases event with
  | created switchPort =>
      cases absent : bridge.switchPorts.lookup switchPort.id with
      | some present =>
          rw [step, absent] at stepped
          cases stepped
      | none =>
          have inserted := settled.insert tidy.1 tidy.2 fun original isOriginal => by
            rw [absent] at isOriginal
            cases isOriginal
          rw [absent] at inserted
          rw [step, absent] at stepped
          cases stepped
          exact inserted
  | updated switchPort =>
      cases present : bridge.switchPorts.lookup switchPort.id with
      | none =>
          rw [step, present] at stepped
          cases stepped
      | some original =>
          have inserted := settled.insert tidy.1 tidy.2.1 tidy.2.2
          rw [present] at inserted
          rw [step, present] at stepped
          cases stepped
          exact inserted
  | deleted id =>
      cases present : bridge.switchPorts.lookup id with
      | none =>
          rw [step, present] at stepped
          cases stepped
      | some switchPort =>
          rw [step, present] at stepped
          cases stepped
          exact settled.erase present

theorem steps_settled (events : List Event) {bridge after : Bridge}
    (settled : bridge.Settled config) (tidy : TidyRun config events bridge)
    (reached : steps (step config) events bridge = some after) :
    after.Settled config := by
  induction events generalizing bridge with
  | nil =>
      cases reached
      exact settled
  | cons event events induction =>
      rcases steps_cons_eq_some.mp reached with ⟨middle, stepped, walked⟩
      exact induction (step_settled settled tidy.1 stepped) (tidy.2 middle stepped) walked

theorem initial_settled : Bridge.initial.Settled config where
  serves :=
    { map := fun id => rfl
      has := fun flow => by
        change (FlowTable.empty.apply exitpointFlow).Has flow ↔ _
        rw [FlowTable.has_apply_add rfl]
        constructor
        · rintro (isExitpoint | ⟨impossible, _⟩)
          · exact Or.inl isExitpoint
          · exact absurd impossible FlowTable.not_has_empty
        · rintro (isExitpoint | ⟨id, assignment, impossible, _⟩)
          · exact Or.inl isExitpoint
          · cases impossible
      apart := fun id other mine theirs impossible => by cases impossible }
  keyed id switchPort impossible := by cases impossible

/-- In a run of tidy events the flows are those of the current switch ports. -/
theorem classifier_flows_current (config : Config) (events : List Event)
    (tidy : TidyRun config events Bridge.initial) (bridge : Bridge)
    (reached : steps (step config) events Bridge.initial = some bridge) :
    bridge.Classified config :=
  (steps_settled events initial_settled tidy reached).serves.has

/-! ## Two compute ports -/

/-- Two logical ports of one network. -/
def twoPorts : Config where
  chassis _ := none
  lswitches id := if id = "n" then some ⟨id, 5, none, none⟩ else none
  lports id :=
    if id = "p" then some { id, uniqueKey := 11, lswitch := some "n" }
    else if id = "q" then some { id, uniqueKey := 12, lswitch := some "n" }
    else none

def switchPort (id lport : Id) (portNum : Nat) : SwitchPort :=
  ⟨id, some (.number portNum), some lport⟩

/-- A number is reused once its switch port is gone. -/
def reuse : List Event :=
  [.created (switchPort "a" "p" 1), .created ⟨"b", none, some "q"⟩,
    .updated (switchPort "b" "q" 2), .deleted "a", .updated (switchPort "b" "q" 1)]

theorem classifier_flows_current_reuse : ∃ bridge,
    steps (step twoPorts) reuse Bridge.initial = some bridge ∧
      bridge.Classified twoPorts := by
  have returned : (steps (step twoPorts) reuse Bridge.initial).isSome := by
    decide +kernel
  rcases Option.isSome_iff_exists.mp returned with ⟨bridge, reached⟩
  exact ⟨bridge, reached,
    classifier_flows_current twoPorts reuse (by decide +kernel) bridge reached⟩

/-- Live switch ports have distinct numbers and distinct logical ports. -/
def Bridge.Distinct (bridge : Bridge) : Prop :=
  ∀ id ∈ bridge.switchPorts.keys, ∀ other ∈ bridge.switchPorts.keys, id ≠ other →
    ∀ mine ∈ bridge.switchPorts.lookup id, ∀ theirs ∈ bridge.switchPorts.lookup other,
      mine.portNum ≠ theirs.portNum ∧ mine.lport ≠ theirs.lport

instance (bridge : Bridge) : Decidable bridge.Distinct :=
  inferInstanceAs (Decidable (∀ id ∈ bridge.switchPorts.keys, _))

/-- Two switch ports swap their numbers. The first one takes the number of the
second one, whose update then deletes its flow. -/
theorem classifier_flows_swapped : ∃ before after,
    steps (step twoPorts)
      [.created (switchPort "a" "p" 1), .created (switchPort "b" "q" 2)]
      Bridge.initial = some before ∧ before.Distinct ∧
    steps (step twoPorts)
      [.updated (switchPort "a" "p" 2), .updated (switchPort "b" "q" 1)]
      before = some after ∧ after.Distinct ∧ ¬ after.Classified twoPorts := by
  refine ⟨_, _, rfl, by decide +kernel, rfl, by decide +kernel, fun classified => ?_⟩
  have missing := (classified (makeIngressClassificationFlow 11 5 2).flow).mpr
    (Or.inr ⟨"a", ⟨2, 11, 5⟩, by decide +kernel, List.mem_cons_self⟩)
  exact absurd missing (by decide +kernel)

end ClassifierApp

end Dragonflow
