import Dragonflow.Foundation.VersionGate
import Dragonflow.Db.Mixins
import Dragonflow.Db.UpdateReturns

/-! # The local controller

`update_model_object` of `dragonflow/controller/df_local_controller.py`. The
callbacks that applications register for an event are not modelled: an event is
recorded when it is emitted.
-/

namespace Dragonflow

open Program

variable {α : Type} [DecidableEq α]

structure LocalController (α : Type) where
  world : World α
  /-- Oldest first. -/
  emitted : List (Announcement (Object α))

namespace LocalController

abbrev Handler (α β : Type) := Program (LocalController α) PyError β

/-- Work on the store. -/
def onStore (action : Action α β) : Handler α β :=
  focus LocalController.world (fun controller world => { controller with world })
    action

def emit (event : Announcement (Object α)) : Handler α Unit :=
  modify fun controller =>
    { controller with emitted := controller.emitted ++ [event] }

/-- `_is_newer`. Objects without a version are newer if they are different. -/
def isNewer (object : Object α) (cached : Option (Object α)) :
    Except PyError Bool :=
  match object.isNewerThan cached with
  | .error .attributeError => .ok (cached.map Object.normal ≠ some object.normal)
  | result => result

/-- `_has_basic_events` -/
def hasBasicEvents (object : Object α) : Bool :=
  object.model.is .basicEvents

/-- The end of `update_model_object`. -/
def emitChange (object : Object α) : Option (Object α) → Handler α Unit
  | none => if hasBasicEvents object then emit (.created object) else pure ()
  | some original =>
      if hasBasicEvents object then emit (.updated object original) else pure ()

def updateModelObject (order : SetOrder) (object : Object α) : Handler α Unit := do
  let original ← onStore (DbStore.getOne object none)
  if ← Program.ofExcept (isNewer object original) then
    onStore (DbStore.update order object)
    emitChange object original
  else
    pure ()

/-! ## One delivery -/

theorem getOne_leads (object : Object α) (world : World α) :
    Leads (DbStore.getOne object none) world
      (fun found after => found = world.stored object.key ∧ World.Alike world after)
      (fun _ _ => False) := by
  unfold DbStore.getOne
  refine (getCache_leads object.model world).bind ?_
  intro _ created alike
  exact ⟨alike.stored object.key, alike⟩

/-- The event of an object that replaces another one. -/
def announcement (object : Object α) : Option (Object α) → Announcement (Object α)
  | none => .created object
  | some original => .updated object original

/-- The object is not embedded by others, and embeds nothing of its own key. -/
structure Handled (rank : ObjectKey → Nat) (direct : ObjectKey → Prop)
    (object : Object α) : Prop where
  isDirect : direct object.key
  nested : object.Nested rank direct

variable {rank : ObjectKey → Nat} {direct : ObjectKey → Prop}
  {controller : LocalController α} {object : Object α}

omit [DecidableEq α] in
/-- What is emitted when an object is let in. -/
theorem emitChange_leads (controller : LocalController α) (object : Object α)
    (original : Option (Object α)) :
    Leads (emitChange object original) controller
      (fun _ after => after = { controller with
        emitted := controller.emitted ++
          if hasBasicEvents object then [announcement object original] else [] })
      (fun _ _ => False) := by
  by_cases events : hasBasicEvents object = true
  · cases original <;> simp [emitChange, events, emit, announcement]
  · cases original <;> simp [emitChange, events]

theorem updateModelObject_leads (order : SetOrder)
    (balanced : controller.world.Balanced rank direct)
    (handled : Handled rank direct object) {newer : Bool}
    (decided : isNewer object (controller.world.stored object.key) = .ok newer) :
    Leads (updateModelObject order object) controller
      (fun _ after => after.world.Balanced rank direct ∧
        if newer then
          after.world.stored object.key = some object ∧
          after.emitted = controller.emitted ++
            if hasBasicEvents object then
              [announcement object (controller.world.stored object.key)]
            else []
        else
          after.world.stored object.key = controller.world.stored object.key ∧
          after.emitted = controller.emitted)
      (fun error _ => error ∈ PyError.readErrors) := by
  unfold updateModelObject
  rw [leads_bind, onStore, leads_focus]
  refine (getOne_leads object controller.world).returning.mono ?_
    fun _ _ raised => raised
  intro original read found
  rcases found with ⟨rfl, alike⟩
  have balancedRead : read.Balanced rank direct := World.Linked.alike balanced alike
  rw [leads_bind, decided, leads_ofExcept_ok]
  cases newer with
  | false => exact ⟨balancedRead, alike.stored object.key, rfl⟩
  | true =>
      rw [if_pos rfl, leads_bind, onStore, leads_focus]
      refine (balancedRead.update_stores order handled.isDirect handled.nested).mono
        ?_ fun _ _ raised => raised
      intro _ updated holds
      rcases holds with ⟨balancedUpdated, stored, _⟩
      refine (emitChange_leads _ object _).returning.mono ?_ fun _ _ raised => raised
      intro _ after emitted
      rw [emitted]
      exact ⟨balancedUpdated, stored, rfl⟩

/-- A delivery returns if the index keys can be computed. -/
theorem updateModelObject_computes (order : SetOrder)
    (computes : controller.world.Computes object)
    (selfContained : object.SelfContained) {newer : Bool}
    (decided : isNewer object (controller.world.stored object.key) = .ok newer) :
    Leads (updateModelObject order object) controller (fun _ _ => True)
      (fun error _ => error ∉ PyError.readErrors) := by
  unfold updateModelObject
  rw [leads_bind, onStore, leads_focus]
  refine (getOne_leads object controller.world).returning.mono ?_
    fun _ _ raised => raised
  intro original read found
  rcases found with ⟨rfl, alike⟩
  rw [leads_bind, decided, leads_ofExcept_ok]
  cases newer with
  | false => trivial
  | true =>
      rw [if_pos rfl, leads_bind, onStore, leads_focus]
      refine (DbStore.updateWithin_computes order object.height object read
        (computes.congr alike.resolve) selfContained).mono ?_ fun _ _ raised => raised
      intro _ updated _
      exact (emitChange_leads _ object _).returning.mono (fun _ _ _ => trivial)
        fun _ _ raised => raised

end LocalController

end Dragonflow
