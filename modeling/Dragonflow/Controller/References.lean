import Dragonflow.Foundation.DepthFirst
import Dragonflow.Db.ApiNb
import Dragonflow.Db.ProxyCoherence

/-! # Following references

`iter_submodels` of `dragonflow/db/model_framework.py`, `NbApi.get` and the
traversal of `get_model_references_deep` in
`dragonflow/controller/df_local_controller.py`.
-/

namespace Dragonflow

variable {α : Type}

def Proxy.key (reference : Proxy) : ObjectKey := (reference.model, reference.id)

/-! ## Submodels -/

/-- What `is_submodel` accepts. -/
inductive Submodel (α : Type)
  | object (embedded : Object α)
  | proxy (reference : Proxy)

def Submodel.id : Submodel α → Id
  | .object embedded => embedded.id
  | .proxy reference => reference.id

/-- The values that `iter_submodels` looks at in a field. -/
def Value.members : Value α → List (Value α)
  | .list items => items.toList
  | value => [value]

def Value.asSubmodel : Value α → Option (Submodel α)
  | .object embedded => some (.object embedded)
  | .proxy reference => some (.proxy reference)
  | _ => .none

def Object.iterSubmodels (object : Object α) : List (Submodel α) :=
  object.iterateOverSetFields.flatMap fun field =>
    field.2.members.filterMap Value.asSubmodel

theorem Object.height_lt_of_submodel {object embedded : Object α}
    (member : .object embedded ∈ object.iterSubmodels) :
    embedded.height < object.height := by
  rcases List.mem_flatMap.mp member with ⟨⟨field, held⟩, isSet, member⟩
  rcases List.mem_filterMap.mp member with ⟨value, isMember, isSubmodel⟩
  rcases List.mem_filterMap.mp isSet with ⟨declared, _, found⟩
  rcases Option.map_eq_some_iff.mp found with ⟨read, lookup, equal⟩
  cases equal
  have sameHeight : value.height = embedded.height := by
    cases value with
    | object inner =>
        cases isSubmodel
        rw [Value.height]
    | _ => cases isSubmodel
  have valueLe : value.height ≤ held.height := by
    cases held with
    | list items => exact Values.height_le_of_mem isMember
    | _ => exact Nat.le_of_eq (congrArg Value.height (List.mem_singleton.mp isMember))
  have heldLe : held.height ≤ object.fields.height :=
    Fields.height_le_of_lookup lookup
  rw [show object.height = object.fields.height + 1 by cases object; rfl]
  omega

/-! ## The traversal -/

/-- `NbApi.get`. The instances of `from_json` are new; which addresses they get
makes no difference to what they refer to. -/
def NbApi.get (database : NbDatabase α) (key : ObjectKey) : Option (Object α) :=
  (database.lookup key).map Json.content

/-- `_dereference`, with `None` for `ReferencedObjectNotFound`. -/
def Proxy.dereference (database : NbDatabase α) (reference : Proxy) :
    Action α (Option (Object α)) := do
  match ← reference.getObject with
  | some object => return some object
  | none => return NbApi.get database reference.key

/-- What `_dereference` finds in a store whose proxies are coherent. -/
def World.find (world : World α) (database : NbDatabase α) (key : ObjectKey) :
    Option (Object α) :=
  (world.stored key).or (NbApi.get database key)

theorem Proxy.dereference_leads {world : World α} (coherent : world.Coherent)
    (database : NbDatabase α) (reference : Proxy) :
    Program.Leads (reference.dereference database) world
      (fun found after => found = world.find database reference.key ∧
        World.Alike world after)
      (fun _ _ => False) := by
  unfold Proxy.dereference
  refine (reference.getObject_leads world).bind ?_
  rintro object after ⟨rfl, alike⟩
  have stored : world.resolve reference = world.stored reference.key :=
    coherent reference
  unfold World.find
  rw [← stored]
  cases world.resolve reference with
  | none => exact ⟨rfl, alike⟩
  | some object => exact ⟨rfl, alike⟩

/-- `ReferencedObjectNotFound` with the proxy that it names. As in `PyError`,
`recursionError` only gives the loop a fuel argument. -/
inductive ReferenceError
  | referencedObjectNotFound (proxy : Proxy)
  | recursionError
  deriving DecidableEq, Repr

namespace LocalController

variable (find : ObjectKey → Option (Object α))

/-- The object of an item, and what the loop yields for it: a proxy is replaced by
its object, which is yielded. -/
def follow : Submodel α → Except ReferenceError (Object α × List (Object α))
  | .object object => .ok (object, [])
  | .proxy reference =>
      match find reference.key with
      | some object => .ok (object, [object])
      | none => .error (.referencedObjectNotFound reference)

/-- The loop of `iter_model_references_deep`. The head of the list is the right
end of the queue. -/
def iterModelReferencesDeep : Nat → Finset Id → List (Submodel α) →
    Except ReferenceError (List (Object α))
  | 0, _, _ => .error .recursionError
  | _ + 1, _, [] => .ok []
  | fuel + 1, seen, item :: queue =>
      if item.id ∈ seen then iterModelReferencesDeep fuel seen queue
      else
        match follow find item with
        | .error error => .error error
        | .ok (object, yielded) =>
            (iterModelReferencesDeep fuel (insert item.id seen)
              (object.iterSubmodels.reverse ++ queue)).map (yielded ++ ·)

/-- `get_model_references_deep` -/
def getModelReferencesDeep (fuel : Nat) (object : Object α) :
    Except ReferenceError (List (Object α)) :=
  iterModelReferencesDeep find fuel ∅ [.object object]

end LocalController

/-! ## The graph of an object -/

/-- A model instance as a part of the graph: either referenced by its key, or
embedded in another one, with everything that it embeds and references. -/
inductive Thing
  | target (key : ObjectKey)
  | embedded (key : ObjectKey) (parts : List Thing)

def Thing.key : Thing → ObjectKey
  | .target key => key
  | .embedded key _ => key

def Object.thingsWithin : Nat → Object α → List Thing
  | 0, _ => []
  | depth + 1, object => object.iterSubmodels.map fun submodel =>
      match submodel with
      | .object embedded => .embedded embedded.key (thingsWithin depth embedded)
      | .proxy reference => .target reference.key

/-- What an object embeds and references directly. -/
def Object.things (object : Object α) : List Thing :=
  object.thingsWithin object.height

def Submodel.thing : Submodel α → Thing
  | .object embedded => .embedded embedded.key embedded.things
  | .proxy reference => .target reference.key

theorem Object.thingsWithin_eq (depth : Nat) {object : Object α}
    (deep : object.height ≤ depth) :
    object.thingsWithin depth = object.iterSubmodels.map Submodel.thing := by
  induction depth using Nat.strong_induction_on generalizing object with
  | h depth induction =>
      have positive : 0 < object.height := by
        cases object
        exact Nat.succ_pos _
      rcases Nat.exists_eq_succ_of_ne_zero (show depth ≠ 0 by omega) with ⟨depth, rfl⟩
      rw [Object.thingsWithin]
      refine List.map_congr_left fun submodel member => ?_
      cases submodel with
      | proxy reference => rfl
      | object embedded =>
          have lower := Object.height_lt_of_submodel member
          simp only [Submodel.thing, Object.things]
          rw [induction depth (by omega) (by omega),
            induction embedded.height (by omega) (Nat.le_refl _)]

theorem Object.things_eq (object : Object α) :
    object.things = object.iterSubmodels.map Submodel.thing :=
  Object.thingsWithin_eq object.height (Nat.le_refl _)

theorem Submodel.key_thing (submodel : Submodel α) : submodel.thing.key.2 = submodel.id := by
  cases submodel <;> rfl

def Submodel.object? (find : ObjectKey → Option (Object α)) :
    Submodel α → Option (Object α)
  | .object embedded => some embedded
  | .proxy reference => find reference.key

/-- The submodels as the loop sees them. -/
def submodelGraph (find : ObjectKey → Option (Object α)) :
    SearchGraph (Submodel α) Id where
  mark := Submodel.id
  next item := (item.object? find).map fun object => object.iterSubmodels.reverse

/-- The instance behind a key, with the root in its place. -/
def content (find : ObjectKey → Option (Object α)) (root : Object α)
    (key : ObjectKey) : Option (Object α) :=
  if key = root.key then some root else find key

/-- The graph that the references of an object span. Submodels that are declared
later are looked at first. -/
def referenceGraph (find : ObjectKey → Option (Object α)) (root : Object α) :
    SearchGraph Thing Id where
  mark thing := thing.key.2
  next
    | .target key => (content find root key).map fun object => object.things.reverse
    | .embedded _ parts => some parts.reverse

section Graph

variable (find : ObjectKey → Option (Object α)) (root : Object α)

/-- The root, and everything that it embeds and references at any distance. -/
def Occurs (thing : Thing) : Prop :=
  (referenceGraph find root).Reaches (.target root.key) thing

/-- Referenced by the root, directly or not. -/
def Referenced (key : ObjectKey) : Prop :=
  Occurs find root (.target key) ∧ key ≠ root.key

/-- Different things have different ids. -/
def Apart : Prop :=
  ∀ first second, Occurs find root first → Occurs find root second →
    first.key.2 = second.key.2 → first = second

/-- All that is referenced, directly or not, can be found. -/
def AllFound : Prop :=
  ∀ key, Referenced find root key → ∃ object, find key = some object

end Graph

end Dragonflow
