import Dragonflow.Db.ApiNb
import Dragonflow.Controller.Deliveries

/-! # The northbound database and the controller's copy

Calls of `NbApi.create` and `NbApi.update` publish what they write, and the
controller is given each event before the next call. Its copy follows the
database as long as no call writes a version that is not above the stored one.
-/

namespace Dragonflow

open Program

variable {α : Type} [DecidableEq α]

structure Deployment (α : Type) where
  nb : NbDatabase α
  controller : LocalController α

inductive NbCall (α : Type)
  | create (object : Object α) (uniqueKey : Int)
  | update (object : Object α)

namespace NbCall

def object : NbCall α → Object α
  | .create object _ => object
  | .update object => object

def run : NbCall α → NbAction α (Option (Json α))
  | .create object uniqueKey => NbApi.create object uniqueKey
  | .update object => NbApi.update object

end NbCall

/-- A call, and how the controller parses the event if there is one. -/
structure Round (α : Type) where
  call : NbCall α
  fromJson : Json α → Object α

namespace Deployment

def round (order : SetOrder) (deployment : Deployment α) (round : Round α) :
    Deployment α :=
  match exec round.call.run deployment.nb with
  | (.ok (some event), nb) =>
      ⟨nb, (exec (LocalController.updateModelObject order (round.fromJson event))
        deployment.controller).2⟩
  | (_, nb) => { deployment with nb }

def rounds (order : SetOrder) (rounds : List (Round α))
    (deployment : Deployment α) : Deployment α :=
  rounds.foldl (round order) deployment

/-- The copy in the controller's store equals the one in the database. -/
def Converged (deployment : Deployment α) (key : ObjectKey) : Prop :=
  (deployment.controller.world.stored key).map Object.normal =
    (deployment.nb.lookup key).map Json.content

end Deployment

/-! ## Which rounds are harmless -/

/-- A call on one object, with the version set to an integer or left unset. What
it publishes is parsed into an instance that says the same. -/
structure Round.On (key : ObjectKey) (deployment : Deployment α)
    (round : Round α) : Prop where
  sameKey : round.call.object.key = key
  setOrUnset : round.call.object.VersionSetOrUnset
  parses : ∀ event nb, exec round.call.run deployment.nb = (.ok (some event), nb) →
    event.Parses (round.fromJson event)

/-- An update leaves the version unset or gives at least the stored one. A create
finds nothing, or gives a version above the stored one (one if it is unset), or
writes what is there already. -/
def NbCall.NotBelow (nb : NbDatabase α) : NbCall α → Prop
  | .create object uniqueKey => ∀ stored, nb.lookup object.key = some stored →
      stored.content.version < object.version?.getD 1 ∨
        ∀ created, object.onCreatePre uniqueKey = .ok created →
          created.normal = stored.content
  | .update object => ∀ stored, nb.lookup object.key = some stored →
      ∀ own, object.version? = some own → stored.content.version ≤ own

/-- The object that is delivered is handled directly, and its index keys can be
computed in the controller's store. -/
structure LocalController.CanTake (rank : ObjectKey → Nat)
    (direct : ObjectKey → Prop) (controller : LocalController α)
    (object : Object α) : Prop where
  handled : Handled rank direct object
  selfContained : object.SelfContained
  computes : controller.world.Computes object

structure Round.Harmless (rank : ObjectKey → Nat) (direct : ObjectKey → Prop)
    (deployment : Deployment α) (round : Round α) : Prop where
  notBelow : round.call.NotBelow deployment.nb
  delivered : ∀ event nb, exec round.call.run deployment.nb = (.ok (some event), nb) →
    deployment.controller.CanTake rank direct (round.fromJson event)

/-! ## One round -/

/-- What a harmless call does to the database: nothing, or it writes the object
with a higher version, or it writes what is there already. -/
inductive NbCall.Outcome (key : ObjectKey) (before after : NbDatabase α) :
    Except PyError (Option (Json α)) → Prop
  | unchanged {result : Except PyError (Option (Json α))} (same : after = before)
      (silent : ∀ event, result ≠ .ok (some event)) : Outcome key before after result
  | written (event : Json α) (inserted : after = before.insert key event)
      (sameKey : event.content.key = key) (numbered : event.content.version?.isSome)
      (newer : ∀ stored, before.lookup key = some stored →
        stored.content.version < event.content.version) :
      Outcome key before after (.ok (some event))
  | repeated (event : Json α) (found : before.lookup key = some event)
      (inserted : after = before.insert key event) :
      Outcome key before after (.ok (some event))

variable {key : ObjectKey} {rank : ObjectKey → Nat} {direct : ObjectKey → Prop}

/-- The database holds numbered versions of the object. -/
def NbDatabase.Holds (nb : NbDatabase α) (key : ObjectKey) : Prop :=
  ∀ stored, nb.lookup key = some stored →
    stored.content.key = key ∧ stored.content.version?.isSome

omit [DecidableEq α] in
theorem Object.version_normal {object : Object α}
    (versioned : object.model.Versioned) :
    object.normal.version = object.version := by
  unfold Object.version
  rw [Object.version?_normal versioned]

omit [DecidableEq α] in
theorem version_eq_of_version? {object : Object α} {number : Int}
    (numbered : object.version? = some number) : object.version = number := by
  unfold Object.version
  rw [numbered, Option.getD_some]

theorem NbCall.create_outcome {nb : NbDatabase α} {object : Object α}
    {uniqueKey : Int} (versioned : object.model.Versioned)
    (setOrUnset : object.VersionSetOrUnset)
    (notBelow : (NbCall.create object uniqueKey).NotBelow nb) :
    Outcome object.key nb (exec (NbCall.create object uniqueKey).run nb).2
      (exec (NbCall.create object uniqueKey).run nb).1 := by
  have leads := NbApi.create_leads object uniqueKey nb
  simp only [NbCall.run]
  rcases executed : exec (NbApi.create object uniqueKey) nb with ⟨error | event, after⟩
  · exact .unchanged (leads.of_error executed) fun _ impossible => by cases impossible
  · rcases leads.of_ok executed with ⟨created, prepared, rfl, rfl⟩
    rcases Object.version?_onCreatePre versioned setOrUnset prepared with
      ⟨sameKey, isNumbered⟩
    have createdVersioned : created.model.Versioned := by
      rw [show created.model = object.model from congrArg Prod.fst sameKey]
      exact versioned
    by_cases same : ∃ stored, nb.lookup object.key = some stored ∧
        created.normal = stored.content
    · rcases same with ⟨stored, found, sameContent⟩
      have isStored : (⟨created.normal⟩ : Json α) = stored := by rw [sameContent]
      rw [isStored]
      exact .repeated stored found (by rw [sameKey])
    · refine .written ⟨created.normal⟩ (by rw [sameKey])
        ((created.key_normal).trans sameKey) ?_ ?_
      · rw [Object.version?_normal createdVersioned, isNumbered]
        rfl
      · intro stored found
        rw [Object.version_normal createdVersioned,
          version_eq_of_version? isNumbered]
        rcases notBelow stored found with newer | sameContent
        · exact newer
        · exact absurd ⟨stored, found, sameContent created prepared⟩ same

/-- An update that writes has found the object, and raises its version. -/
theorem NbCall.update_written {nb after : NbDatabase α} {object : Object α}
    {event : Json α} (versioned : object.model.Versioned)
    (setOrUnset : object.VersionSetOrUnset) (holds : nb.Holds object.key)
    (notBelow : (NbCall.update object).NotBelow nb)
    (executed : exec (NbApi.update object) nb = (.ok (some event), after)) :
    after = nb.insert object.key event ∧ event.content.key = object.key ∧
      event.content.version?.isSome ∧
      ∃ stored, nb.lookup object.key = some stored ∧
        stored.content.version < event.content.version := by
  rcases (NbApi.update_leads object nb).of_ok executed with impossible | written
  · cases impossible.1
  · rcases written with
      ⟨stored, merged, changed, numbered, found, updated, bumped, published, rfl⟩
    cases published
    rcases holds stored found with ⟨storedKey, storedNumbered⟩
    rcases Object.version?_onUpdatePre versioned storedKey setOrUnset
      (LocalController.version?_eq_version storedNumbered)
      (notBelow stored found) updated bumped with ⟨sameKey, new, isNew, newer⟩
    have numberedVersioned : numbered.model.Versioned := by
      rw [show numbered.model = object.model from congrArg Prod.fst sameKey]
      exact versioned
    refine ⟨by rw [sameKey], (numbered.key_normal).trans sameKey, ?_, stored, found, ?_⟩
    · rw [Object.version?_normal numberedVersioned, isNew]
      rfl
    · rw [Object.version_normal numberedVersioned, version_eq_of_version? isNew]
      exact newer

theorem NbCall.update_outcome {nb : NbDatabase α} {object : Object α}
    (versioned : object.model.Versioned) (setOrUnset : object.VersionSetOrUnset)
    (holds : nb.Holds object.key) (notBelow : (NbCall.update object).NotBelow nb) :
    Outcome object.key nb (exec (NbCall.update object).run nb).2
      (exec (NbCall.update object).run nb).1 := by
  have leads := NbApi.update_leads object nb
  simp only [NbCall.run]
  rcases executed : exec (NbApi.update object) nb with ⟨error | event, after⟩
  · exact .unchanged (leads.of_error executed) fun _ impossible => by cases impossible
  · cases event with
    | none =>
        rcases leads.of_ok executed with same | written
        · exact .unchanged same.2 fun _ impossible => by cases impossible
        · rcases written with ⟨_, _, _, _, _, _, _, impossible, _⟩
          cases impossible
    | some event =>
        rcases NbCall.update_written versioned setOrUnset holds notBelow executed with
          ⟨inserted, sameKey, numbered, stored, found, newer⟩
        refine .written event inserted sameKey numbered ?_
        intro other otherFound
        rw [found] at otherFound
        cases otherFound
        exact newer

theorem Round.On.outcome {deployment : Deployment α} {round : Round α}
    (on : round.On key deployment) (versioned : key.1.Versioned)
    (holds : deployment.nb.Holds key)
    (notBelow : round.call.NotBelow deployment.nb) :
    NbCall.Outcome key deployment.nb (exec round.call.run deployment.nb).2
      (exec round.call.run deployment.nb).1 := by
  have sameKey := on.sameKey
  have setOrUnset := on.setOrUnset
  have sameModel : round.call.object.model = key.1 := congrArg Prod.fst sameKey
  cases call : round.call with
  | create object uniqueKey =>
      rw [call] at sameKey setOrUnset sameModel notBelow
      rw [← sameKey]
      exact NbCall.create_outcome (sameModel ▸ versioned) setOrUnset notBelow
  | update object =>
      rw [call] at sameKey setOrUnset sameModel notBelow
      rw [← sameKey] at holds ⊢
      exact NbCall.update_outcome (sameModel ▸ versioned) setOrUnset holds notBelow

/-- A delivery that can be taken returns: a newer object replaces the cached one,
and any other object is ignored. -/
theorem LocalController.CanTake.leads {controller : LocalController α}
    {object : Object α} (order : SetOrder)
    (canTake : controller.CanTake rank direct object)
    (balanced : controller.world.Balanced rank direct) {newer : Bool}
    (decided : isNewer object (controller.world.stored object.key) = .ok newer) :
    Leads (updateModelObject order object) controller
      (fun _ after => after.world.Balanced rank direct ∧
        after.world.stored object.key =
          if newer then some object else controller.world.stored object.key)
      (fun _ _ => False) := by
  have stores := updateModelObject_leads order balanced canTake.handled decided
  have returns := updateModelObject_computes order canTake.computes
    canTake.selfContained decided
  refine (stores.and returns).mono ?_ fun _ _ raised => raised.2 raised.1
  intro _ after holds
  rcases holds.1 with ⟨balancedAfter, outcome⟩
  refine ⟨balancedAfter, ?_⟩
  cases newer with
  | true => exact outcome.1
  | false => exact outcome.1

/-- The copies agree, and the store is as it should be. -/
structure Deployment.InStep (rank : ObjectKey → Nat) (direct : ObjectKey → Prop)
    (key : ObjectKey) (deployment : Deployment α) : Prop where
  balanced : deployment.controller.world.Balanced rank direct
  converged : deployment.Converged key
  holds : deployment.nb.Holds key

/-- The controller takes the event of a call that has written `event`. -/
theorem Deployment.InStep.deliver {deployment : Deployment α} (order : SetOrder)
    (inStep : deployment.InStep rank direct key) (versioned : key.1.Versioned)
    {event : Json α} {object : Object α} (parses : event.Parses object)
    (canTake : deployment.controller.CanTake rank direct object)
    (sameKey : event.content.key = key) (numbered : event.content.version?.isSome)
    (newer : (∀ stored, deployment.nb.lookup key = some stored →
      stored.content.version < event.content.version) ∨
      deployment.nb.lookup key = some event) :
    InStep rank direct key ⟨deployment.nb.insert key event,
      (exec (LocalController.updateModelObject order object)
        deployment.controller).2⟩ := by
  have objectKey : object.key = key := by
    rw [← object.key_normal, parses]
    exact sameKey
  have objectVersioned : object.model.Versioned := by
    rw [show object.model = key.1 from congrArg Prod.fst objectKey]
    exact versioned
  have sameVersion : object.version? = event.content.version? := by
    rw [← Object.version?_normal objectVersioned, parses]
  have objectNumbered : object.version?.isSome := sameVersion ▸ numbered
  have versionEq : object.version = event.content.version :=
    congrArg (Option.getD · 0) sameVersion
  have holdsAfter : NbDatabase.Holds (deployment.nb.insert key event) key := by
    intro stored found
    rw [Dict.lookup_insert_eq, if_pos rfl] at found
    cases found
    exact ⟨sameKey, numbered⟩
  have insertedEvent : (deployment.nb.insert key event).lookup key = some event := by
    rw [Dict.lookup_insert_eq, if_pos rfl]
  -- It is enough that the object is taken, or that the cached copy says the same.
  suffices decided : ∃ taken, LocalController.isNewer object
      (deployment.controller.world.stored object.key) = .ok taken ∧
      (taken = false → (deployment.controller.world.stored key).map Object.normal =
        some event.content) by
    rcases decided with ⟨taken, decided, unlessTaken⟩
    have leads := canTake.leads order inStep.balanced decided
    rcases leads.returned with ⟨_, after, executed, balancedAfter, stored⟩
    rw [executed]
    refine ⟨balancedAfter, ?_, holdsAfter⟩
    unfold Deployment.Converged
    rw [insertedEvent]
    rw [objectKey] at stored
    simp only [stored]
    cases taken with
    | true => exact congrArg some parses
    | false => exact unlessTaken rfl
  have converged := inStep.converged
  unfold Deployment.Converged at converged
  rw [objectKey]
  cases cached : deployment.controller.world.stored key with
  | none =>
      exact ⟨true, LocalController.isNewer_none objectVersioned,
        fun impossible => by cases impossible⟩
  | some copy =>
      rw [cached] at converged
      rcases Option.map_eq_some_iff.mp converged.symm with ⟨stored, found, sameContent⟩
      rcases inStep.holds stored found with ⟨storedKey, storedNumbered⟩
      have copyModel : copy.model = key.1 := by
        rw [show copy.model = copy.key.1 from rfl, ← copy.key_normal, ← sameContent,
          storedKey]
      have copyVersion : copy.version? = stored.content.version? := by
        rw [← Object.version?_normal (copyModel ▸ versioned), sameContent]
      have copyEq : copy.version = stored.content.version :=
        congrArg (Option.getD · 0) copyVersion
      refine ⟨_, LocalController.isNewer_of_numbered objectVersioned objectNumbered
        (copyVersion ▸ storedNumbered), ?_⟩
      intro notTaken
      rw [decide_eq_false_iff_not, copyEq, versionEq] at notTaken
      rcases newer with newer | same
      · exact absurd (newer stored found) notTaken
      · rw [found] at same
        cases same
        exact congrArg some sameContent.symm

/-- A harmless round keeps the copies in step. -/
theorem Deployment.InStep.round {deployment : Deployment α} (order : SetOrder)
    (inStep : deployment.InStep rank direct key) (versioned : key.1.Versioned)
    {round : Round α} (on : round.On key deployment)
    (harmless : round.Harmless rank direct deployment) :
    (deployment.round order round).InStep rank direct key := by
  have outcome := on.outcome versioned inStep.holds harmless.notBelow
  have parses := on.parses
  have delivered := harmless.delivered
  unfold Deployment.round
  rcases executed : exec round.call.run deployment.nb with ⟨result, nb⟩
  rw [executed] at outcome
  cases outcome with
  | unchanged same silent =>
      simp only at same
      subst same
      split
      · next event _ equal =>
          cases equal
          exact absurd rfl (silent event)
      · next equal =>
          cases equal
          exact inStep
  | written event inserted sameKey numbered newer =>
      simp only at inserted ⊢
      subst inserted
      exact inStep.deliver order versioned (parses event _ executed)
        (delivered event _ executed) sameKey numbered (Or.inl newer)
  | repeated event found inserted =>
      simp only at inserted ⊢
      subst inserted
      rcases inStep.holds event found with ⟨sameKey, numbered⟩
      exact inStep.deliver order versioned (parses event _ executed)
        (delivered event _ executed) sameKey numbered (Or.inr found)

/-! ## Rounds that embed nothing -/

/-- What a call publishes. -/
def NbCall.published (nb : NbDatabase α) (call : NbCall α) : List (Json α) :=
  match (exec call.run nb).1 with
  | .ok (some event) => [event]
  | _ => []

theorem NbCall.mem_published {nb after : NbDatabase α} {call : NbCall α}
    {event : Json α} (executed : exec call.run nb = (.ok (some event), after)) :
    event ∈ call.published nb := by
  unfold published
  rw [executed]
  exact List.mem_singleton_self event

/-- The controller can take an object without embedded objects whose keys can be
computed. -/
theorem LocalController.canTake_of_leaf {controller : LocalController α}
    {object : Object α} (leaf : object.iterateEmbeddedModelInstances = [])
    (computes : ∀ index ∈ object.model.cachedIndexes,
      (controller.world.keysAt object index).isOk) :
    controller.CanTake (fun _ => 0) (fun _ => True) object := by
  refine ⟨⟨trivial, .intro ?_ ?_⟩, .intro ?_ ?_, ?_⟩
  · simp [leaf]
  · simp [leaf]
  · simp [leaf]
  · simp [leaf]
  · intro index member
    have isOk := computes index member
    cases computed : controller.world.keysAt object index with
    | error error =>
        rw [computed] at isOk
        cases isOk
    | ok keys => exact ⟨keys, rfl⟩

/-! ## Any number of rounds -/

theorem Deployment.rounds_inStep {order : SetOrder} {deployment : Deployment α}
    (inStep : deployment.InStep rank direct key) (versioned : key.1.Versioned)
    (rounds : List (Round α))
    (on : ∀ before round after, rounds = before ++ round :: after →
      round.On key (deployment.rounds order before))
    (harmless : ∀ before round after, rounds = before ++ round :: after →
      round.Harmless rank direct (deployment.rounds order before)) :
    (deployment.rounds order rounds).InStep rank direct key := by
  induction rounds using List.reverseRecOn with
  | nil => exact inStep
  | append_singleton before round induction =>
      have inStepBefore := induction
        (fun first other rest split => on first other (rest ++ [round]) (by simp [split]))
        (fun first other rest split =>
          harmless first other (rest ++ [round]) (by simp [split]))
      have stepped : deployment.rounds order (before ++ [round]) =
          (deployment.rounds order before).round order round := by
        simp [Deployment.rounds]
      rw [stepped]
      exact inStepBefore.round order versioned (on before round [] rfl)
        (harmless before round [] rfl)

/-- As long as all rounds are harmless, the controller's copy equals the one in the
database after every delivery, and every update that writes raises the version. -/
theorem Deployment.rounds_converge (order : SetOrder) (rank : ObjectKey → Nat)
    (direct : ObjectKey → Prop) (key : ObjectKey) (versioned : key.1.Versioned)
    (deployment : Deployment α)
    (reached : deployment.controller.world.Reached order rank direct)
    (missing : deployment.nb.lookup key = none)
    (uncached : deployment.controller.world.stored key = none)
    (rounds : List (Round α))
    (on : ∀ before round after, rounds = before ++ round :: after →
      round.On key (deployment.rounds order before))
    (harmless : ∀ before round after, rounds = before ++ round :: after →
      round.Harmless rank direct (deployment.rounds order before))
    (before after : List (Round α)) (split : rounds = before ++ after) :
    (deployment.rounds order before).Converged key ∧
    ∀ object fromJson later, after = ⟨.update object, fromJson⟩ :: later →
      ∀ event nb, exec (NbApi.update object) (deployment.rounds order before).nb =
        (.ok (some event), nb) →
      ∃ stored, (deployment.rounds order before).nb.lookup key = some stored ∧
        stored.content.version < event.content.version := by
  have initially : deployment.InStep rank direct key := by
    refine ⟨reached.balanced, ?_, ?_⟩
    · unfold Deployment.Converged
      rw [missing, uncached]
      rfl
    · intro stored found
      rw [missing] at found
      cases found
  have inStep := Deployment.rounds_inStep initially versioned before
    (fun first round rest equal => on first round (rest ++ after) (by simp [split, equal]))
    (fun first round rest equal =>
      harmless first round (rest ++ after) (by simp [split, equal]))
  refine ⟨inStep.converged, ?_⟩
  intro object fromJson later next event nb executed
  subst next
  have onObject := on before _ later split
  have sameKey : object.key = key := onObject.sameKey
  have notBelow := (harmless before _ later split).notBelow
  have holds := inStep.holds
  rw [← sameKey] at versioned holds ⊢
  exact (NbCall.update_written versioned onObject.setOrUnset holds notBelow
    executed).2.2.2

namespace Deployment

def empty : Deployment Unit := ⟨∅, LocalController.started⟩

def createSwitch : Round Unit :=
  ⟨.create ⟨0, Models.logicalSwitch, "s", .ofList [("topic", .scalar (.str "t"))]⟩ 7,
    Json.content⟩

def updateSwitch (mtu : Int) (version : List (FieldName × Value Unit)) :
    Round Unit :=
  ⟨.update ⟨0, Models.logicalSwitch, "s",
    .ofList (("mtu", .scalar (.int mtu)) :: version)⟩, Json.content⟩

/-- A switch is created, and updated without giving a version. -/
theorem rounds_converge_unversioned :
    (empty.rounds .insertion [createSwitch, updateSwitch 1500 []]).Converged
      (Models.logicalSwitch, "s") := by
  have splits (before : List (Round Unit)) (round : Round Unit)
      (after : List (Round Unit))
      (split : [createSwitch, updateSwitch 1500 []] = before ++ round :: after) :
      (before = [] ∧ round = createSwitch) ∨
        (before = [createSwitch] ∧ round = updateSwitch 1500 []) := by
    match before with
    | [] =>
        cases split
        exact Or.inl ⟨rfl, rfl⟩
    | [_] =>
        cases split
        exact Or.inr ⟨rfl, rfl⟩
    | _ :: _ :: _ => simp at split
  have parses : (∀ event ∈ createSwitch.call.published empty.nb,
      event.content.normal = event.content) ∧
      ∀ event ∈ (updateSwitch 1500 []).call.published
        (empty.rounds .insertion [createSwitch]).nb,
      event.content.normal = event.content := by
    decide +kernel
  have leaves : (∀ event ∈ createSwitch.call.published empty.nb,
      event.content.iterateEmbeddedModelInstances = [] ∧
      ∀ index ∈ event.content.model.cachedIndexes,
        (empty.controller.world.keysAt event.content index).isOk = true) ∧
      ∀ event ∈ (updateSwitch 1500 []).call.published
        (empty.rounds .insertion [createSwitch]).nb,
      event.content.iterateEmbeddedModelInstances = [] ∧
      ∀ index ∈ event.content.model.cachedIndexes,
        ((empty.rounds .insertion [createSwitch]).controller.world.keysAt
          event.content index).isOk = true := by
    decide +kernel
  refine (rounds_converge .insertion (fun _ => 0) (fun _ => True)
    (Models.logicalSwitch, "s") (by decide) empty (.initial _) rfl rfl
    [createSwitch, updateSwitch 1500 []] ?_ ?_ [createSwitch, updateSwitch 1500 []] [] rfl).1
  · intro before round after split
    rcases splits before round after split with ⟨rfl, rfl⟩ | ⟨rfl, rfl⟩
    · exact ⟨rfl, Or.inl rfl, fun event _ executed =>
        parses.1 event (NbCall.mem_published executed)⟩
    · exact ⟨rfl, Or.inl rfl, fun event _ executed =>
        parses.2 event (NbCall.mem_published executed)⟩
  · intro before round after split
    rcases splits before round after split with ⟨rfl, rfl⟩ | ⟨rfl, rfl⟩
    · refine ⟨fun _ impossible => (by cases impossible), fun event _ executed => ?_⟩
      rcases leaves.1 event (NbCall.mem_published executed) with ⟨leaf, computes⟩
      exact LocalController.canTake_of_leaf leaf computes
    · refine ⟨fun _ _ _ impossible => (by cases impossible), fun event _ executed => ?_⟩
      rcases leaves.2 event (NbCall.mem_published executed) with ⟨leaf, computes⟩
      exact LocalController.canTake_of_leaf leaf computes

/-- The update without a version has made it two. An update that still gives
version one is written, and the controller ignores it. -/
theorem rounds_diverge :
    let rounds := [createSwitch, updateSwitch 1500 [],
      updateSwitch 9000 [("version", .scalar (.int 1))]]
    let after := empty.rounds .insertion rounds
    ¬ after.Converged (Models.logicalSwitch, "s") ∧
      (after.nb.lookup (Models.logicalSwitch, "s")).map (·.content.version) = some 1 ∧
      (after.controller.world.stored (Models.logicalSwitch, "s")).map
        Object.version = some 2 := by
  unfold Converged
  decide +kernel

end Deployment

end Dragonflow
