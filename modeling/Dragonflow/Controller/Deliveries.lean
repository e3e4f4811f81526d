import Mathlib.Data.Int.Order.Basic
import Dragonflow.Controller.LocalController

/-! # Objects delivered in any order

Pub/sub events, the periodic synchronisation and pulled references deliver the
same object on independent paths. The controller behaves like a version gate: it
ends up with the newest version, however the deliveries are ordered and however
often each of them is repeated.
-/

namespace Dragonflow

open Program

variable {α : Type} [DecidableEq α]

def Object.version (object : Object α) : Int := object.version?.getD 0

namespace LocalController

/-- The cached copy of one object, and the events so far. -/
def gate (controller : LocalController α) (key : ObjectKey) :
    VersionGate (Object α) :=
  ⟨controller.world.stored key, controller.emitted⟩

def deliver (order : SetOrder) (deliveries : List (Object α))
    (controller : LocalController α) : LocalController α :=
  (trace (updateModelObject order) deliveries controller).2

variable {rank : ObjectKey → Nat} {direct : ObjectKey → Prop}
  {controller : LocalController α} {object : Object α}

omit [DecidableEq α] in
theorem version?_eq_version (numbered : object.version?.isSome) :
    object.version? = some object.version := by
  unfold Object.version
  rw [← Option.some_get numbered, Option.getD_some]

theorem isNewer_of_numbered {cached : Object α}
    (versioned : object.model.Versioned) (numbered : object.version?.isSome)
    (cachedNumbered : cached.version?.isSome) :
    isNewer object (some cached) = .ok (decide (cached.version < object.version)) := by
  unfold isNewer
  rw [Object.isNewerThan_of_some versioned (version?_eq_version numbered)
    (version?_eq_version cachedNumbered)]

theorem isNewer_none (versioned : object.model.Versioned) :
    isNewer object none = .ok true := by
  unfold isNewer
  rw [Object.isNewerThan_none versioned]

/-- A delivery is an offer to the gate. -/
theorem updateModelObject_offers (order : SetOrder)
    (balanced : controller.world.Balanced rank direct)
    (handled : Handled rank direct object)
    (versioned : object.model.Versioned) (events : object.model.is .basicEvents)
    (numbered : object.version?.isSome)
    (cachedNumbered : ∀ cached, controller.world.stored object.key = some cached →
      cached.version?.isSome) :
    Leads (updateModelObject order object) controller
      (fun _ after => after.world.Balanced rank direct ∧
        after.gate object.key =
          (controller.gate object.key).offer Object.version object)
      (fun error _ => error ∈ PyError.readErrors) := by
  have hasEvents : hasBasicEvents object = true := events
  cases found : controller.world.stored object.key with
  | none =>
      have decided : isNewer object (controller.world.stored object.key) =
          .ok true := by
        rw [found]
        exact isNewer_none versioned
      refine (updateModelObject_leads order balanced handled decided).mono ?_
        fun _ _ raised => raised
      intro _ after holds
      rcases holds with ⟨balancedAfter, stored, emitted⟩
      refine ⟨balancedAfter, ?_⟩
      simp [gate, VersionGate.offer, stored, emitted, found, hasEvents, announcement]
  | some cached =>
      have decided : isNewer object (controller.world.stored object.key) =
          .ok (decide (cached.version < object.version)) := by
        rw [found]
        exact isNewer_of_numbered versioned numbered (cachedNumbered cached found)
      refine (updateModelObject_leads order balanced handled decided).mono ?_
        fun _ _ raised => raised
      intro _ after holds
      rcases holds with ⟨balancedAfter, outcome⟩
      refine ⟨balancedAfter, ?_⟩
      by_cases newer : cached.version < object.version
      · simp only [newer, decide_true, if_true] at outcome
        simp [gate, VersionGate.offer, outcome, found, newer, hasEvents, announcement]
      · simp only [newer, decide_false, Bool.false_eq_true, if_false] at outcome
        simp [gate, VersionGate.offer, outcome, found, newer]

/-! ## Sequences of deliveries -/

/-- Versions of one object. -/
structure VersionsOf (rank : ObjectKey → Nat) (direct : ObjectKey → Prop)
    (key : ObjectKey) (deliveries : List (Object α)) : Prop where
  sameKey : ∀ object ∈ deliveries, object.key = key
  numbered : ∀ object ∈ deliveries, object.version?.isSome
  handled : ∀ object ∈ deliveries, Handled rank direct object

variable {order : SetOrder} {key : ObjectKey} {deliveries : List (Object α)}

theorem deliver_append_singleton (order : SetOrder) (before : List (Object α))
    (object : Object α) (controller : LocalController α) :
    deliver order (before ++ [object]) controller =
      (exec (updateModelObject order object) (deliver order before controller)).2 := by
  simp [deliver, trace_append, trace]

/-- The controller and the gate go in step. -/
theorem deliver_offers (balanced : controller.world.Balanced rank direct)
    (fresh : controller.gate key = VersionGate.new)
    (versioned : key.1.Versioned) (events : key.1.is .basicEvents)
    (versions : VersionsOf rank direct key deliveries)
    (returned : ∀ result ∈ (trace (updateModelObject order) deliveries controller).1,
      result.isOk) :
    (deliver order deliveries controller).world.Balanced rank direct ∧
      (deliver order deliveries controller).gate key =
        VersionGate.offers Object.version deliveries := by
  induction deliveries using List.reverseRecOn with
  | nil => exact ⟨balanced, fresh⟩
  | append_singleton before object induction =>
      rw [trace_append] at returned
      have versionsBefore : VersionsOf rank direct key before :=
        ⟨fun other member => versions.sameKey other (by simp [member]),
          fun other member => versions.numbered other (by simp [member]),
          fun other member => versions.handled other (by simp [member])⟩
      rcases induction versionsBefore fun result member =>
        returned result (List.mem_append_left _ member) with
        ⟨balancedBefore, offered⟩
      have sameKey : object.key = key := versions.sameKey object (by simp)
      have sameModel : object.model = key.1 := congrArg Prod.fst sameKey
      have cachedNumbered : ∀ cached,
          (deliver order before controller).world.stored object.key = some cached →
            cached.version?.isSome := by
        intro cached found
        have isCached : (VersionGate.offers Object.version before).cached =
            some cached := by
          rw [← offered, ← sameKey]
          exact found
        by_cases first : before = []
        · subst first
          cases isCached
        · rcases VersionGate.offers_cached Object.version before first with
            ⟨newest, member, newestCached, _⟩
          rw [newestCached] at isCached
          cases isCached
          exact versions.numbered cached (by simp [member])
      have stepped := updateModelObject_offers order balancedBefore
        (versions.handled object (by simp)) (sameModel ▸ versioned)
        (sameModel ▸ events) (versions.numbered object (by simp)) cachedNumbered
      rw [deliver_append_singleton]
      rcases executed : exec (updateModelObject order object)
        (deliver order before controller) with ⟨error | value, after⟩
      · have impossible := returned (.error error) (by
          simp only [trace, List.mem_append, List.mem_singleton]
          exact Or.inr (congrArg Prod.fst executed).symm)
        cases impossible
      · rcases stepped.of_ok executed with ⟨balancedAfter, offeredAfter⟩
        refine ⟨balancedAfter, ?_⟩
        rw [← sameKey, offeredAfter, sameKey, offered,
          VersionGate.offers_append_singleton]

/-- Whatever the order and however often each version is delivered, as long as no
delivery raises: the newest version is cached, the first delivery is announced as
a creation, every later announcement is an update of what was cached, and the
announced versions increase. -/
theorem updateModelObject_version_gate (order : SetOrder) (rank : ObjectKey → Nat)
    (direct : ObjectKey → Prop) (key : ObjectKey) (controller : LocalController α)
    (deliveries : List (Object α))
    (reached : controller.world.Reached order rank direct)
    (fresh : controller.world.stored key = none) (silent : controller.emitted = [])
    (versioned : key.1.Versioned) (events : key.1.is .basicEvents)
    (versions : VersionsOf rank direct key deliveries)
    (distinct : ∀ object ∈ deliveries, ∀ other ∈ deliveries,
      object.version? = other.version? → object.normal = other.normal)
    (returned : ∀ result ∈ (trace (updateModelObject order) deliveries controller).1,
      result.isOk) (before : List (Object α)) (object : Object α)
    (after : List (Object α)) (split : deliveries = before ++ object :: after) :
    let earlier := deliver order before controller
    let later := deliver order (before ++ [object]) controller
    (∃ newest ∈ before ++ [object], later.world.stored key = some newest ∧
      ∀ other ∈ before ++ [object], other.version < newest.version ∨
        other.normal = newest.normal) ∧
    (before = [] → later.emitted = [.created object]) ∧
    (before ≠ [] → later.emitted = earlier.emitted ∨
      ∃ cached, earlier.world.stored key = some cached ∧
        later.emitted = earlier.emitted ++ [.updated object cached]) ∧
    later.emitted.Pairwise fun first second =>
      first.item.version < second.item.version := by
  intro earlier later
  have isNew : controller.gate key = VersionGate.new := by
    simp [gate, fresh, silent, VersionGate.new]
  have offered (front back : List (Object α)) (equal : deliveries = front ++ back) :
      (deliver order front controller).gate key =
        VersionGate.offers Object.version front := by
    rw [equal, trace_append] at returned
    exact (deliver_offers reached.balanced isNew versioned events
      ⟨fun other member => versions.sameKey other (by simp [equal, member]),
        fun other member => versions.numbered other (by simp [equal, member]),
        fun other member => versions.handled other (by simp [equal, member])⟩
      fun result member => returned result (List.mem_append_left _ member)).2
  have offeredEarlier : earlier.gate key =
      VersionGate.offers Object.version before := offered before _ split
  have offeredLater : later.gate key =
      VersionGate.offers Object.version (before ++ [object]) :=
    offered (before ++ [object]) after (by simp [split])
  have laterCached := congrArg VersionGate.cached offeredLater
  have laterEmitted := congrArg VersionGate.announced offeredLater
  have earlierCached := congrArg VersionGate.cached offeredEarlier
  have earlierEmitted := congrArg VersionGate.announced offeredEarlier
  simp only [gate] at laterCached laterEmitted earlierCached earlierEmitted
  refine ⟨?_, ?_, ?_, ?_⟩
  · rcases VersionGate.offers_cached Object.version (before ++ [object]) (by simp) with
      ⟨newest, member, isCached, largest⟩
    refine ⟨newest, member, laterCached.trans isCached, ?_⟩
    intro other otherMember
    rcases lt_or_eq_of_le (largest other otherMember) with older | same
    · exact Or.inl older
    · have delivered : ∀ item ∈ before ++ [object], item ∈ deliveries := by
        intro item itemMember
        rw [split]
        simp only [List.mem_append, List.mem_cons] at itemMember ⊢
        tauto
      refine Or.inr (distinct other (delivered other otherMember) newest
        (delivered newest member) ?_)
      rw [version?_eq_version (versions.numbered other (delivered other otherMember)),
        version?_eq_version (versions.numbered newest (delivered newest member)), same]
  · intro first
    subst first
    exact laterEmitted
  · intro others
    rcases VersionGate.offers_cached Object.version before others with
      ⟨cached, _, isCached, _⟩
    rw [VersionGate.offers_append_singleton] at laterEmitted
    rw [laterEmitted, earlierEmitted, earlierCached]
    rcases VersionGate.offer_announced Object.version
      (VersionGate.offers Object.version before) isCached object with
      unchanged | announced
    · exact Or.inl (congrArg VersionGate.announced unchanged)
    · exact Or.inr ⟨cached, isCached, announced⟩
  · rw [laterEmitted]
    exact (VersionGate.offers_ordered Object.version (before ++ [object])).increasing

/-- A controller that has just started. -/
def started : LocalController Unit := ⟨World.initial fun _ => false, []⟩

/-- Three versions of a switch, out of order and with a repetition. -/
def shuffledSwitches : List (Object Unit) :=
  [Models.switch 0 "s" "b" 1 2, Models.switch 1 "s" "a" 1 1,
    Models.switch 2 "s" "c" 1 3, Models.switch 3 "s" "b" 1 2]

theorem updateModelObject_version_gate_shuffled :
    let later := deliver .insertion shuffledSwitches started
    (∃ newest ∈ shuffledSwitches,
      later.world.stored (Models.logicalSwitch, "s") = some newest ∧
      ∀ other ∈ shuffledSwitches, other.version < newest.version ∨
        other.normal = newest.normal) ∧
    later.emitted.Pairwise fun first second =>
      first.item.version < second.item.version := by
  have leaf : ∀ object ∈ shuffledSwitches,
      object.iterateEmbeddedModelInstances = [] := by decide +kernel
  have handled : ∀ object ∈ shuffledSwitches,
      Handled (fun _ => 0) (fun _ => True) object := by
    intro object member
    refine ⟨trivial, .intro ?_ ?_⟩
    · simp [leaf object member]
    · simp [leaf object member]
  have outcome := updateModelObject_version_gate .insertion (fun _ => 0)
    (fun _ => True) (Models.logicalSwitch, "s") started shuffledSwitches
    (.initial _) rfl rfl (by decide) (by decide)
    ⟨by decide +kernel, by decide +kernel, handled⟩ (by decide +kernel)
    (by decide +kernel)
    [Models.switch 0 "s" "b" 1 2, Models.switch 1 "s" "a" 1 1,
      Models.switch 2 "s" "c" 1 3] (Models.switch 3 "s" "b" 1 2) [] rfl
  exact ⟨outcome.1, outcome.2.2.2⟩

/-- A port whose switch is not there. -/
def danglingPort : Object Unit :=
  (Models.attachedPort 0 "p" "t" 1 ⟨1, Models.logicalSwitch, "s"⟩).setField
    "version" (.scalar (.int 1))

/-- A versioned class whose instances can embed each other. -/
def versionedNode : Model :=
  ⟨"Node", [.embedded "child", .plain "version"], [], [.version, .basicEvents]⟩

/-- The second version of a node, with the first version inside. -/
def nodeWithOldSelf : Object Unit :=
  ⟨0, versionedNode, "a", .ofList [("child", .object ⟨1, versionedNode, "a",
    .ofList [("version", .scalar (.int 1))]⟩), ("version", .scalar (.int 2))]⟩

/-- A delivery that cannot compute its index keys raises; nothing is cached and
nothing is announced. A node that embeds its own key is replaced by what it
embeds. -/
theorem updateModelObject_version_gate_fails :
    let port := trace (updateModelObject .insertion) [danglingPort] started
    let node := trace (updateModelObject .insertion) [nodeWithOldSelf] started
    (port.1 = [.error .referencedObjectNotFound] ∧
      port.2.world.stored danglingPort.key = none ∧ port.2.emitted = []) ∧
    node.1 = [.ok ()] ∧
      (node.2.world.stored nodeWithOldSelf.key).map Object.version = some 1 := by
  decide +kernel

end LocalController

end Dragonflow
