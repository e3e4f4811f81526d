import Dragonflow.Db.ModelFramework
import Dragonflow.Foundation.Layers

/-! # The order of the models

`iter_models_by_dependency_order` of `dragonflow/db/model_framework.py`: models are
synchronized after the models that they refer to.
-/

namespace Dragonflow

variable {M : Type}

/-- What a reference field says about the model that it leads to. -/
inductive ModelArg (M : Type)
  | cls (model : M)
  | name (name : String)

/-- What the types of a field say about other model classes. The type of a reference is
created when it is first asked for. An embedded model comes with the types of its own
fields. -/
inductive FieldReference (M : Type)
  | proxy (target : ModelArg M)
  | embedded (model : M) (fieldTypes : List (FieldReference M))
  | plain

namespace FieldReference

mutual

/-- The model classes that `dependencies` asks a field for. -/
def targets (firstClassOnly : Bool) : FieldReference M → List (ModelArg M)
  | .proxy target => [target]
  | .embedded model fieldTypes =>
      if firstClassOnly then allTargets true fieldTypes else [.cls model]
  | .plain => []

def allTargets (firstClassOnly : Bool) : List (FieldReference M) → List (ModelArg M)
  | [] => []
  | fieldType :: fieldTypes =>
      targets firstClassOnly fieldType ++ allTargets firstClassOnly fieldTypes

end

variable (getModel : ModelArg M → Except PyError M)

mutual

/-- The loop body of `dependencies`. A class that is no proxy has no
`get_proxied_model`. -/
def dependencies (firstClassOnly : Bool) : FieldReference M → Except PyError (List M)
  | .proxy target => do
      let model ← getModel target
      return [model]
  | .embedded model fieldTypes =>
      if firstClassOnly then allDependencies true fieldTypes else .ok [model]
  | .plain => .ok []

/-- `dependencies` -/
def allDependencies (firstClassOnly : Bool) :
    List (FieldReference M) → Except PyError (List M)
  | [] => .ok []
  | fieldType :: fieldTypes => do
      let models ← dependencies firstClassOnly fieldType
      let others ← allDependencies firstClassOnly fieldTypes
      return models ++ others

end

end FieldReference

/-- The model classes that are known. -/
structure Registry (M : Type) where
  /-- `_registered_models` -/
  registered : Finset M
  /-- `_lookup_by_class_name` -/
  lookupByClassName : String → Option M
  /-- `_lookup_by_table_name` -/
  lookupByTableName : String → Option M
  isFirstClass : M → Bool
  fieldTypes : M → List (FieldReference M)

namespace Registry

variable (registry : Registry M) (walk : Walk M) (firstClassOnly : Bool)

/-- `get_model` -/
def getModel : ModelArg M → Except PyError M
  | .cls model => .ok model
  | .name name =>
      match registry.lookupByClassName name, registry.lookupByTableName name with
      | some model, _ => .ok model
      | none, some model => .ok model
      | none, none => .error .keyError

theorem getModel_error {registry : Registry M} {target : ModelArg M} {error : PyError}
    (raised : registry.getModel target = .error error) : error = .keyError := by
  unfold getModel at raised
  split at raised
  · cases raised
  · split at raised
    · cases raised
    · cases raised
    · exact (Except.error.inj raised).symm

mutual

theorem dependencies_eq (registry : Registry M) (firstClassOnly : Bool)
    (fieldType : FieldReference M) :
    fieldType.dependencies registry.getModel firstClassOnly =
      (fieldType.targets firstClassOnly).mapM registry.getModel := by
  match fieldType with
  | .proxy target =>
      rw [FieldReference.dependencies, FieldReference.targets, List.mapM_cons, List.mapM_nil]
      rfl
  | .embedded model fieldTypes =>
      rw [FieldReference.dependencies, FieldReference.targets]
      split
      · exact allDependencies_eq registry true fieldTypes
      · rfl
  | .plain => rfl

theorem allDependencies_eq (registry : Registry M) (firstClassOnly : Bool)
    (fieldTypes : List (FieldReference M)) :
    FieldReference.allDependencies registry.getModel firstClassOnly fieldTypes =
      (FieldReference.allTargets firstClassOnly fieldTypes).mapM registry.getModel := by
  match fieldTypes with
  | [] => rfl
  | fieldType :: others =>
      rw [FieldReference.allDependencies, FieldReference.allTargets, List.mapM_append,
        dependencies_eq registry firstClassOnly fieldType,
        allDependencies_eq registry firstClassOnly others]

end

/-- `iter_models` -/
def iterModels : Finset M :=
  registry.registered.filter fun model => firstClassOnly = false ∨ registry.isFirstClass model

variable [DecidableEq M]

/-- The models that a model is sorted after. -/
def sortedAfter (models : List M) : Finset M :=
  models.toFinset.filter
    fun dependency => firstClassOnly = false ∨ registry.isFirstClass dependency

/-- The dependencies that `iter_models_by_dependency_order` starts with. -/
def dependencies (model : M) : Except PyError (Finset M) := do
  let models ← FieldReference.allDependencies registry.getModel firstClassOnly
    (registry.fieldTypes model)
  return registry.sortedAfter firstClassOnly models

/-- `iter_models_by_dependency_order` -/
def iterModelsByDependencyOrder : Except PyError (List M) := do
  let unsortedModels ← (walk.walk (registry.iterModels firstClassOnly)).mapM
    fun model => do
      let dependencies ← registry.dependencies firstClassOnly model
      return (model, dependencies)
  match Layers.sort walk unsortedModels [] with
  | some sortedModels => .ok sortedModels
  | none => .error .runtimeError

/-! ## What models refer to -/

/-- The model classes that the fields of a model lead to. -/
def targets (model : M) : List (ModelArg M) :=
  FieldReference.allTargets firstClassOnly (registry.fieldTypes model)

/-- Whoever is referred to by name is registered under it. -/
def Resolved : Prop :=
  ∀ model ∈ registry.iterModels firstClassOnly,
    ∀ target ∈ registry.targets firstClassOnly model,
      registry.getModel target ≠ .error .keyError

/-- The models that a model refers to. -/
def needs (model : M) : Finset M :=
  registry.sortedAfter firstClassOnly
    ((registry.targets firstClassOnly model).filterMap
      fun target => (registry.getModel target).toOption)

/-- All dependencies are registered, and there are no cycles. -/
def Sortable : Prop :=
  Layers.Closed (registry.iterModels firstClassOnly) (registry.needs firstClassOnly) ∧
    Layers.Acyclic (registry.iterModels firstClassOnly) (registry.needs firstClassOnly)

variable {registry firstClassOnly}

/-- A call for every item that succeeds for each of them. -/
theorem mapM_of_ok {α β ε : Type} {call : α → Except ε β} {value : α → β} {items : List α}
    (each : ∀ item ∈ items, call item = .ok (value item)) :
    items.mapM call = .ok (items.map value) := by
  induction items with
  | nil => rfl
  | cons item items induction =>
      rw [List.mapM_cons, each item List.mem_cons_self,
        induction fun other member => each other (List.mem_cons_of_mem _ member)]
      rfl

/-- A call that can only raise one error, and raises it for some item. -/
theorem mapM_of_error {α β ε : Type} {call : α → Except ε β} {error : ε} {items : List α}
    (only : ∀ item ∈ items, ∀ raised, call item = .error raised → raised = error)
    (some : ∃ item ∈ items, call item = .error error) : items.mapM call = .error error := by
  induction items with
  | nil => simp at some
  | cons item items induction =>
      rw [List.mapM_cons]
      cases first : call item with
      | error raised =>
          rw [only item List.mem_cons_self raised first]
          rfl
      | ok value =>
          have later : ∃ other ∈ items, call other = .error error := by
            rcases some with ⟨other, member, raises⟩
            rcases List.mem_cons.mp member with rfl | member
            · rw [first] at raises
              cases raises
            · exact ⟨other, member, raises⟩
          rw [induction (fun other member => only other (List.mem_cons_of_mem _ member)) later]
          rfl

theorem dependencies_of_resolved {model : M}
    (resolved : ∀ target ∈ registry.targets firstClassOnly model,
      registry.getModel target ≠ .error .keyError) :
    registry.dependencies firstClassOnly model =
      .ok (registry.needs firstClassOnly model) := by
  have each : ∀ target ∈ registry.targets firstClassOnly model, ∃ found,
      registry.getModel target = .ok found := by
    intro target member
    cases isFound : registry.getModel target with
    | ok found => exact ⟨found, rfl⟩
    | error raised =>
        rw [getModel_error isFound] at isFound
        exact absurd isFound (resolved target member)
  have found : (registry.targets firstClassOnly model).mapM registry.getModel =
      .ok ((registry.targets firstClassOnly model).filterMap
        fun target => (registry.getModel target).toOption) := by
    generalize registry.targets firstClassOnly model = targets at each
    induction targets with
    | nil => rfl
    | cons target targets induction =>
        rcases each target List.mem_cons_self with ⟨found, isFound⟩
        have rest := induction fun other member => each other (List.mem_cons_of_mem _ member)
        rw [List.mapM_cons, isFound, rest, List.filterMap_cons, isFound]
        rfl
  unfold dependencies
  rw [allDependencies_eq]
  exact congrArg (Except.map (registry.sortedAfter firstClassOnly)) found

theorem dependencies_of_unresolved {model : M}
    (unresolved : ∃ target ∈ registry.targets firstClassOnly model,
      registry.getModel target = .error .keyError) :
    registry.dependencies firstClassOnly model = .error .keyError := by
  unfold dependencies
  rw [allDependencies_eq]
  exact congrArg (Except.map (registry.sortedAfter firstClassOnly))
    (mapM_of_error (fun _ _ _ raised => getModel_error raised) unresolved)

theorem dependencies_error {model : M} {raised : PyError}
    (raises : registry.dependencies firstClassOnly model = .error raised) :
    raised = .keyError := by
  by_cases unresolved : ∃ target ∈ registry.targets firstClassOnly model,
      registry.getModel target = .error .keyError
  · rw [dependencies_of_unresolved unresolved] at raises
    exact (Except.error.inj raises).symm
  · rw [dependencies_of_resolved fun target member missing =>
      unresolved ⟨target, member, missing⟩] at raises
    cases raises

/-- The dependencies of every model are gathered, and sorted. -/
theorem iterModelsByDependencyOrder_of_resolved (walk : Walk M)
    (resolved : registry.Resolved firstClassOnly) :
    registry.iterModelsByDependencyOrder walk firstClassOnly =
      match Layers.sort walk ((walk.walk (registry.iterModels firstClassOnly)).map
          fun model => (model, registry.needs firstClassOnly model)) [] with
      | some sortedModels => .ok sortedModels
      | none => .error .runtimeError := by
  unfold iterModelsByDependencyOrder
  rw [mapM_of_ok fun model member => ?_]
  · rfl
  · have isModel := (walk.mem_walk _ model).mp member
    rw [dependencies_of_resolved (resolved model isModel)]
    rfl

theorem iterModelsByDependencyOrder_of_unresolved (walk : Walk M)
    (unresolved : ¬ registry.Resolved firstClassOnly) :
    registry.iterModelsByDependencyOrder walk firstClassOnly = .error .keyError := by
  unfold Resolved at unresolved
  push Not at unresolved
  rcases unresolved with ⟨model, isModel, target, member, missing⟩
  unfold iterModelsByDependencyOrder
  refine congrArg (fun gathered => gathered >>= _) (mapM_of_error ?_ ?_)
  · intro other _ raised raises
    cases found : registry.dependencies firstClassOnly other with
    | ok needs =>
        rw [found] at raises
        cases raises
    | error first =>
        rw [found] at raises
        cases raises
        exact dependencies_error found
  · refine ⟨model, (walk.mem_walk _ model).mpr isModel, ?_⟩
    rw [dependencies_of_unresolved ⟨target, member, missing⟩]
    rfl

/-- The models are sorted if they can be, and otherwise an error is raised, which is a
`KeyError` just when some model refers to a name under which nothing is registered. -/
theorem models_sorted_iff (registry : Registry M) (walk : Walk M) (firstClassOnly : Bool) :
    (registry.Resolved firstClassOnly → registry.Sortable firstClassOnly →
      ∃ sortedModels, registry.iterModelsByDependencyOrder walk firstClassOnly =
          .ok sortedModels ∧
        Layers.Sorts (registry.iterModels firstClassOnly) (registry.needs firstClassOnly)
          sortedModels) ∧
    (registry.Resolved firstClassOnly → ¬ registry.Sortable firstClassOnly →
      registry.iterModelsByDependencyOrder walk firstClassOnly = .error .runtimeError) ∧
    (¬ registry.Resolved firstClassOnly →
      registry.iterModelsByDependencyOrder walk firstClassOnly = .error .keyError) := by
  rcases Layers.sort_start walk (registry.iterModels firstClassOnly)
    (registry.needs firstClassOnly) with ⟨sortable, unsortable⟩
  refine ⟨fun resolved isSortable => ?_, fun resolved isUnsortable => ?_,
    iterModelsByDependencyOrder_of_unresolved walk⟩
  · rcases sortable isSortable with ⟨sortedModels, isSorted, sorts⟩
    refine ⟨sortedModels, ?_, sorts⟩
    rw [iterModelsByDependencyOrder_of_resolved walk resolved, isSorted]
  · rw [iterModelsByDependencyOrder_of_resolved walk resolved, unsortable isUnsortable]

/-- A port that refers to a network of which only the name is known. -/
def dangling : Registry Unit where
  registered := {()}
  lookupByClassName := fun name => if name = "LogicalPort" then some () else none
  lookupByTableName := fun name => if name = "lport" then some () else none
  isFirstClass := fun _ => true
  fieldTypes := fun _ => [.plain, .proxy (.name "LogicalSwitch")]

def unitWalk : Walk Unit where
  walk items := if () ∈ items then [()] else []
  nodup items := by
    split <;> simp
  mem_walk items item := by
    cases item
    split <;> simp_all

/-- No order is returned, and no `RuntimeError` is raised. -/
theorem models_unsorted_without_runtimeError :
    dangling.iterModelsByDependencyOrder unitWalk true ≠ .error .runtimeError ∧
      ∀ sortedModels, dangling.iterModelsByDependencyOrder unitWalk true ≠
        .ok sortedModels := by
  have raises : dangling.iterModelsByDependencyOrder unitWalk true = .error .keyError := by
    decide
  rw [raises]
  exact ⟨by decide, fun _ impossible => by cases impossible⟩

end Registry

end Dragonflow
