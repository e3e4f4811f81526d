import Dragonflow.Foundation.Program

/-! # Running two programs side by side -/

namespace Dragonflow

namespace Program

/-- From these two states the programs have the same outcome, and they leave
related states behind. -/
def Coupled (relation : σ → τ → Prop) (program : Program σ ε α)
    (other : Program τ ε α) (state : σ) (twin : τ) : Prop :=
  (exec program state).1 = (exec other twin).1 ∧
    relation (exec program state).2 (exec other twin).2

variable {relation : σ → τ → Prop} {program : Program σ ε α}
  {other : Program τ ε α} {next : α → Program σ ε β}
  {otherNext : α → Program τ ε β} {state : σ} {twin : τ}

theorem Coupled.mono {weaker : σ → τ → Prop}
    (coupled : Coupled relation program other state twin)
    (implies : ∀ state twin, relation state twin → weaker state twin) :
    Coupled weaker program other state twin :=
  ⟨coupled.1, implies _ _ coupled.2⟩

@[simp] theorem coupled_pure {value : α} :
    Coupled relation (Pure.pure value : Program σ ε α) (Pure.pure value)
      state twin ↔ relation state twin := by
  simp [Coupled]

@[simp] theorem coupled_throw {error : ε} :
    Coupled relation (MonadExcept.throw error : Program σ ε α)
      (MonadExcept.throw error) state twin ↔ relation state twin := by
  simp [Coupled]

@[simp] theorem coupled_set {after : σ} {afterTwin : τ} :
    Coupled relation (set after : Program σ ε PUnit) (set afterTwin)
      state twin ↔ relation after afterTwin := by
  simp [Coupled]

@[simp] theorem coupled_modify {transform : σ → σ} {transformTwin : τ → τ} :
    Coupled relation (modify transform : Program σ ε PUnit)
      (modify transformTwin) state twin ↔
      relation (transform state) (transformTwin twin) := by
  simp [Coupled]

@[simp] theorem coupled_get_bind {next : σ → Program σ ε β}
    {otherNext : τ → Program τ ε β} :
    Coupled relation (get >>= next) (get >>= otherNext) state twin ↔
      Coupled relation (next state) (otherNext twin) state twin := by
  simp [Coupled, exec_bind]

@[simp] theorem coupled_set_bind {after : σ} {afterTwin : τ}
    {next : PUnit → Program σ ε β} {otherNext : PUnit → Program τ ε β} :
    Coupled relation (set after >>= next) (set afterTwin >>= otherNext)
      state twin ↔
      Coupled relation (next ⟨⟩) (otherNext ⟨⟩) after afterTwin := by
  simp [Coupled, exec_bind]

theorem Coupled.ofExcept (result : Except ε α) (related : relation state twin) :
    Coupled relation (Program.ofExcept result : Program σ ε α)
      (Program.ofExcept result) state twin := by
  cases result with
  | ok value => exact coupled_pure.mpr related
  | error error => exact coupled_throw.mpr related

/-- The first steps may establish a stronger relation than the whole. -/
theorem Coupled.bind {middle : σ → τ → Prop}
    (first : Coupled middle program other state twin)
    (second : ∀ value after afterTwin, middle after afterTwin →
      Coupled relation (next value) (otherNext value) after afterTwin)
    (raised : ∀ after afterTwin, middle after afterTwin →
      relation after afterTwin) :
    Coupled relation (program >>= next) (other >>= otherNext) state twin := by
  rcases first with ⟨same, related⟩
  unfold Coupled
  rw [exec_bind, exec_bind]
  rcases executed : exec program state with ⟨error | value, after⟩
  · rcases executedOther : exec other twin with ⟨error' | value', afterTwin⟩
    · rw [executed, executedOther] at same related
      cases same
      exact ⟨rfl, raised _ _ related⟩
    · rw [executed, executedOther] at same
      cases same
  · rcases executedOther : exec other twin with ⟨error' | value', afterTwin⟩
    · rw [executed, executedOther] at same
      cases same
    · rw [executed, executedOther] at same related
      cases same
      exact second value after afterTwin related

/-- The programs have the same outcome from all related states. -/
def Simulates (relation : σ → τ → Prop) (program : Program σ ε α)
    (other : Program τ ε α) : Prop :=
  ∀ state twin, relation state twin → Coupled relation program other state twin

theorem Simulates.pure (value : α) :
    Simulates relation (Pure.pure value : Program σ ε α) (Pure.pure value) :=
  fun _ _ related => coupled_pure.mpr related

theorem Simulates.throw (error : ε) :
    Simulates relation (MonadExcept.throw error : Program σ ε α)
      (MonadExcept.throw error) :=
  fun _ _ related => coupled_throw.mpr related

theorem Simulates.ofExcept (result : Except ε α) :
    Simulates relation (Program.ofExcept result : Program σ ε α)
      (Program.ofExcept result) :=
  fun _ _ related => Coupled.ofExcept result related

theorem Simulates.modify {transform : σ → σ} {transformTwin : τ → τ}
    (closed : ∀ state twin, relation state twin →
      relation (transform state) (transformTwin twin)) :
    Simulates relation (modify transform : Program σ ε PUnit)
      (modify transformTwin) :=
  fun state twin related => coupled_modify.mpr (closed state twin related)

theorem Simulates.bind (first : Simulates relation program other)
    (second : ∀ value, Simulates relation (next value) (otherNext value)) :
    Simulates relation (program >>= next) (other >>= otherNext) :=
  fun state twin related => (first state twin related).bind
    (fun value after afterTwin relatedAfter =>
      second value after afterTwin relatedAfter)
    (fun _ _ relatedAfter => relatedAfter)

theorem Simulates.loop {body : α → Program σ ε PUnit}
    {otherBody : α → Program τ ε PUnit} (items : List α)
    (step : ∀ item ∈ items, Simulates relation (body item) (otherBody item)) :
    Simulates relation (forM items body) (forM items otherBody) := by
  induction items with
  | nil => exact Simulates.pure _
  | cons item rest induction =>
      rw [List.forM_cons, List.forM_cons]
      exact Simulates.bind (step item (by simp))
        fun _ => induction fun other member => step other (by simp [member])

/-- Runs that start from related states show the same results. -/
theorem trace_simulates {run : ι → Program σ ε α} {otherRun : ι → Program τ ε α}
    (items : List ι)
    (step : ∀ item ∈ items, Simulates relation (run item) (otherRun item))
    (related : relation state twin) :
    (trace run items state).1 = (trace otherRun items twin).1 := by
  induction items generalizing state twin with
  | nil => rfl
  | cons item items induction =>
      have coupled := step item (by simp) state twin related
      simp only [trace]
      rw [coupled.1, induction
        (fun other member => step other (by simp [member])) coupled.2]

/-- Runs that start from related states leave related states behind. -/
theorem trace_related {run : ι → Program σ ε α} {otherRun : ι → Program τ ε α}
    (items : List ι)
    (step : ∀ item ∈ items, Simulates relation (run item) (otherRun item))
    (related : relation state twin) :
    relation (trace run items state).2 (trace otherRun items twin).2 := by
  induction items generalizing state twin with
  | nil => exact related
  | cons item items induction =>
      have coupled := step item (by simp) state twin related
      exact induction (fun other member => step other (by simp [member])) coupled.2

/-! ## Programs that ignore a change of the state -/

/-- Running the program before or after the change makes no difference. -/
def Commutes (change : σ → σ) (program : Program σ ε α) : Prop :=
  ∀ state, exec program (change state) =
    ((exec program state).1, change (exec program state).2)

variable {change : σ → σ}

theorem Commutes.pure (value : α) :
    Commutes change (Pure.pure value : Program σ ε α) :=
  fun _ => rfl

theorem Commutes.throw (error : ε) :
    Commutes change (MonadExcept.throw error : Program σ ε α) :=
  fun _ => rfl

theorem Commutes.ofExcept (result : Except ε α) :
    Commutes change (Program.ofExcept result : Program σ ε α) := by
  cases result with
  | ok value => exact Commutes.pure value
  | error error => exact Commutes.throw error

theorem Commutes.modify {transform : σ → σ}
    (closed : ∀ state, transform (change state) = change (transform state)) :
    Commutes change (modify transform : Program σ ε PUnit) :=
  fun state => Prod.ext rfl (closed state)

theorem Commutes.bind (first : Commutes change program)
    (second : ∀ value, Commutes change (next value)) :
    Commutes change (program >>= next) := by
  intro state
  rw [exec_bind, exec_bind, first state]
  rcases exec program state with ⟨error | value, after⟩
  · rfl
  · exact second value after

theorem Commutes.get_bind {next : σ → Program σ ε β}
    (second : ∀ state, exec (next (change state)) (change state) =
      ((exec (next state) state).1, change (exec (next state) state).2)) :
    Commutes change (get >>= next) :=
  second

theorem Commutes.loop {body : α → Program σ ε PUnit} (items : List α)
    (step : ∀ item ∈ items, Commutes change (body item)) :
    Commutes change (forM items body) := by
  induction items with
  | nil => exact Commutes.pure _
  | cons item rest induction =>
      rw [List.forM_cons]
      exact Commutes.bind (step item (by simp))
        fun _ => induction fun other member => step other (by simp [member])

end Program

end Dragonflow
