import Mathlib.Order.RelClasses

/-! # Programs with state and exceptions

A small program logic for code whose state outlives the exceptions it raises.
Nothing here knows which state or which exceptions a program uses.
-/

namespace Dragonflow

/-- A program that reads and writes a state, and that returns a value or
raises. An exception does not undo the writes made before it. -/
abbrev Program (σ ε α : Type) := ExceptT ε (StateM σ) α

namespace Program

def exec (program : Program σ ε α) (state : σ) : Except ε α × σ :=
  (ExceptT.run program).run state

@[simp] theorem exec_pure (value : α) (state : σ) :
    exec (pure value : Program σ ε α) state = (.ok value, state) := rfl

@[simp] theorem exec_throw (error : ε) (state : σ) :
    exec (throw error : Program σ ε α) state = (.error error, state) := rfl

@[simp] theorem exec_get (state : σ) :
    exec (get : Program σ ε σ) state = (.ok state, state) := rfl

@[simp] theorem exec_set (next state : σ) :
    exec (set next : Program σ ε PUnit) state = (.ok ⟨⟩, next) := rfl

@[simp] theorem exec_modify (transform : σ → σ) (state : σ) :
    exec (modify transform : Program σ ε PUnit) state =
      (.ok ⟨⟩, transform state) := rfl

theorem exec_bind (program : Program σ ε α) (next : α → Program σ ε β)
    (state : σ) :
    exec (program >>= next) state =
      match exec program state with
      | (.ok value, after) => exec (next value) after
      | (.error error, after) => (.error error, after) := by
  change ((ExceptT.bind program next).run).run state = _
  simp only [ExceptT.bind, ExceptT.run, ExceptT.mk, exec, StateT.run_bind]
  rcases StateT.run program state with ⟨result | result, after⟩ <;> rfl

theorem exec_bind_ok {program : Program σ ε α} {next : α → Program σ ε β}
    {state after : σ} {value : α}
    (first : exec program state = (.ok value, after)) :
    exec (program >>= next) state = exec (next value) after := by
  rw [exec_bind, first]

theorem exec_bind_error {program : Program σ ε α} {next : α → Program σ ε β}
    {state after : σ} {error : ε}
    (first : exec program state = (.error error, after)) :
    exec (program >>= next) state = (.error error, after) := by
  rw [exec_bind, first]

/-- Return or raise what a pure computation gave. -/
def ofExcept (result : Except ε α) : Program σ ε α :=
  match result with
  | .ok value => pure value
  | .error error => throw error

theorem exec_ofExcept_ok (value : α) (state : σ) :
    exec (ofExcept (.ok value) : Program σ ε α) state = (.ok value, state) := rfl

/-- A sequence returns if both parts do. -/
theorem exec_bind_eq_ok {program : Program σ ε α} {next : α → Program σ ε β}
    {state after : σ} {value : β} :
    exec (program >>= next) state = (.ok value, after) ↔
      ∃ first middle, exec program state = (.ok first, middle) ∧
        exec (next first) middle = (.ok value, after) := by
  rw [exec_bind]
  cases executed : exec program state with
  | mk result middle =>
      cases result with
      | error error => simp
      | ok first =>
          constructor
          · intro ran
            exact ⟨first, middle, rfl, ran⟩
          · intro ran
            rcases ran with ⟨_, _, same, ran⟩
            cases same
            exact ran

/-! ## Outcomes -/

/-- From `state` the program either returns with `returns`, or raises with
`raises`. Both may speak about the state that is left behind. -/
def Leads (program : Program σ ε α) (state : σ) (returns : α → σ → Prop)
    (raises : ε → σ → Prop) : Prop :=
  match exec program state with
  | (.ok value, after) => returns value after
  | (.error error, after) => raises error after

variable {program : Program σ ε α} {next : α → Program σ ε β} {state : σ}

theorem leads_iff {returns : α → σ → Prop} {raises : ε → σ → Prop} :
    Leads program state returns raises ↔
      (∀ value after, exec program state = (.ok value, after) →
        returns value after) ∧
      (∀ error after, exec program state = (.error error, after) →
        raises error after) := by
  unfold Leads
  rcases exec program state with ⟨error | value, after⟩ <;>
    simp [Prod.mk.injEq]

theorem Leads.of_ok {returns : α → σ → Prop} {raises : ε → σ → Prop}
    (leads : Leads program state returns raises)
    (executed : exec program state = (.ok value, after)) :
    returns value after :=
  (leads_iff.mp leads).1 _ _ executed

theorem Leads.of_error {returns : α → σ → Prop} {raises : ε → σ → Prop}
    (leads : Leads program state returns raises)
    (executed : exec program state = (.error error, after)) :
    raises error after :=
  (leads_iff.mp leads).2 _ _ executed

theorem Leads.of_result {returns : α → σ → Prop} {raises : ε → σ → Prop}
    (leads : Leads program state returns raises)
    (result : (exec program state).1 = .ok value) :
    returns value (exec program state).2 :=
  leads.of_ok (Prod.ext result rfl)

theorem leads_congr {other : Program σ ε α} {returns : α → σ → Prop}
    {raises : ε → σ → Prop} (same : exec program state = exec other state) :
    Leads program state returns raises ↔ Leads other state returns raises := by
  unfold Leads
  rw [same]

theorem leads_exec_ok {after : σ} {value : α} {returns : α → σ → Prop}
    {raises : ε → σ → Prop} (executed : exec program state = (.ok value, after)) :
    Leads program state returns raises ↔ returns value after := by
  unfold Leads
  rw [executed]

theorem leads_exec_error {after : σ} {error : ε} {returns : α → σ → Prop}
    {raises : ε → σ → Prop} (executed : exec program state = (.error error, after)) :
    Leads program state returns raises ↔ raises error after := by
  unfold Leads
  rw [executed]

theorem leads_true : Leads program state (fun _ _ => True) (fun _ _ => True) :=
  leads_iff.mpr ⟨fun _ _ _ => trivial, fun _ _ _ => trivial⟩

theorem Leads.mono {returns returns' : α → σ → Prop}
    {raises raises' : ε → σ → Prop}
    (leads : Leads program state returns raises)
    (weakerReturn : ∀ value after, returns value after → returns' value after)
    (weakerRaise : ∀ error after, raises error after → raises' error after) :
    Leads program state returns' raises' := by
  rw [leads_iff] at leads ⊢
  exact ⟨fun value after executed => weakerReturn _ _ (leads.1 _ _ executed),
    fun error after executed => weakerRaise _ _ (leads.2 _ _ executed)⟩

theorem Leads.returning {returns : α → σ → Prop} {raises : ε → σ → Prop}
    (leads : Leads program state returns (fun _ _ => False)) :
    Leads program state returns raises :=
  leads.mono (fun _ _ returned => returned) fun _ _ impossible => impossible.elim

theorem Leads.returned {returns : α → σ → Prop}
    (leads : Leads program state returns (fun _ _ => False)) :
    ∃ value after, exec program state = (.ok value, after) ∧
      returns value after := by
  unfold Leads at leads
  rcases executed : exec program state with ⟨error | value, after⟩
  · rw [executed] at leads
    exact leads.elim
  · rw [executed] at leads
    exact ⟨value, after, rfl, leads⟩

theorem Leads.raising {returns : α → σ → Prop} {raises : ε → σ → Prop}
    (leads : Leads program state (fun _ _ => False) raises) :
    Leads program state returns raises :=
  leads.mono (fun _ _ impossible => impossible.elim) fun _ _ raised => raised

theorem Leads.and {returns returns' : α → σ → Prop}
    {raises raises' : ε → σ → Prop}
    (left : Leads program state returns raises)
    (right : Leads program state returns' raises') :
    Leads program state
      (fun value after => returns value after ∧ returns' value after)
      (fun error after => raises error after ∧ raises' error after) := by
  rw [leads_iff] at left right ⊢
  exact ⟨fun _ _ executed => ⟨left.1 _ _ executed, right.1 _ _ executed⟩,
    fun _ _ executed => ⟨left.2 _ _ executed, right.2 _ _ executed⟩⟩

/-- A program that is known to return or to raise meets a postcondition just when the
condition holds that tells the two outcomes apart. -/
theorem Leads.succeeds_iff {returns post : α → σ → Prop} {raises : ε → σ → Prop}
    {condition : Prop} (leads : Leads program state returns raises)
    (returned : ∀ value after, returns value after → (post value after ↔ condition))
    (raised : ∀ error after, raises error after → ¬condition) :
    Leads program state post (fun _ _ => False) ↔ condition := by
  rcases executed : exec program state with ⟨error | value, after⟩
  · rw [leads_exec_error executed] at leads ⊢
    exact ⟨False.elim, raised error after leads⟩
  · rw [leads_exec_ok executed] at leads ⊢
    exact returned value after leads

@[simp] theorem leads_pure {value : α} {returns : α → σ → Prop}
    {raises : ε → σ → Prop} :
    Leads (pure value : Program σ ε α) state returns raises ↔
      returns value state := Iff.rfl

@[simp] theorem leads_throw {error : ε} {returns : α → σ → Prop}
    {raises : ε → σ → Prop} :
    Leads (throw error : Program σ ε α) state returns raises ↔
      raises error state := Iff.rfl

@[simp] theorem leads_get {returns : σ → σ → Prop} {raises : ε → σ → Prop} :
    Leads (get : Program σ ε σ) state returns raises ↔
      returns state state := Iff.rfl

@[simp] theorem leads_set {after : σ} {returns : PUnit → σ → Prop}
    {raises : ε → σ → Prop} :
    Leads (set after : Program σ ε PUnit) state returns raises ↔
      returns ⟨⟩ after := Iff.rfl

@[simp] theorem leads_modify {transform : σ → σ} {returns : PUnit → σ → Prop}
    {raises : ε → σ → Prop} :
    Leads (modify transform : Program σ ε PUnit) state returns raises ↔
      returns ⟨⟩ (transform state) := Iff.rfl

@[simp] theorem leads_ofExcept_ok {value : α} {returns : α → σ → Prop}
    {raises : ε → σ → Prop} :
    Leads (ofExcept (.ok value) : Program σ ε α) state returns raises ↔
      returns value state := Iff.rfl

theorem Leads.ofExcept (result : Except ε α) :
    Leads (Program.ofExcept result : Program σ ε α) state
      (fun value after => result = .ok value ∧ after = state)
      (fun error after => result = .error error ∧ after = state) := by
  cases result with
  | ok value => exact ⟨rfl, rfl⟩
  | error error => exact ⟨rfl, rfl⟩

@[simp] theorem leads_bind {returns : β → σ → Prop} {raises : ε → σ → Prop} :
    Leads (program >>= next) state returns raises ↔
      Leads program state
        (fun value after => Leads (next value) after returns raises) raises := by
  unfold Leads
  rw [exec_bind]
  rcases exec program state with ⟨error | value, after⟩ <;> rfl

theorem Leads.bind {middle : α → σ → Prop} {returns : β → σ → Prop}
    {raises : ε → σ → Prop}
    (first : Leads program state middle raises)
    (second : ∀ value after, middle value after →
      Leads (next value) after returns raises) :
    Leads (program >>= next) state returns raises :=
  leads_bind.mpr (first.mono second fun _ _ raised => raised)

/-- The loop rule. The invariant speaks about the items already walked. -/
theorem Leads.loop {body : α → Program σ ε PUnit} {raises : ε → σ → Prop}
    (invariant : List α → σ → Prop) (items : List α)
    (step : ∀ done item rest current, items = done ++ item :: rest →
      invariant done current →
      Leads (body item) current
        (fun _ after => invariant (done ++ [item]) after) raises)
    (initial : invariant [] state) :
    Leads (forM items body) state
      (fun _ after => invariant items after) raises := by
  suffices general : ∀ rest done current, items = done ++ rest →
      invariant done current →
      Leads (forM rest body) current
        (fun _ after => invariant items after) raises by
    exact general items [] state rfl initial
  intro rest
  induction rest with
  | nil =>
      intro done current split holds
      rw [List.append_nil] at split
      subst split
      exact holds
  | cons item rest induction =>
      intro done current split holds
      rw [List.forM_cons]
      refine (step done item rest current split holds).bind ?_
      intro _ after holdsAfter
      exact induction (done ++ [item]) after (by simp [split]) holdsAfter

/-- The loop rule for an invariant that does not depend on the progress. -/
theorem Leads.loop_const {body : α → Program σ ε PUnit}
    {raises : ε → σ → Prop} (invariant : σ → Prop) (items : List α)
    (step : ∀ item current, item ∈ items → invariant current →
      Leads (body item) current (fun _ after => invariant after) raises)
    (initial : invariant state) :
    Leads (forM items body) state (fun _ after => invariant after) raises := by
  refine Leads.loop (fun _ => invariant) items ?_ initial
  intro done item rest current split holds
  exact step item current (by simp [split]) holds

/-! ## Exceptions -/

/-- Every exception that the program can raise is an allowed one. -/
def Raises (allowed : ε → Prop) (program : Program σ ε α) : Prop :=
  ∀ state, Leads program state (fun _ _ => True) (fun error _ => allowed error)

variable {allowed : ε → Prop}

theorem Raises.pure (value : α) :
    Raises allowed (Pure.pure value : Program σ ε α) :=
  fun _ => trivial

theorem Raises.throw {error : ε} (holds : allowed error) :
    Raises allowed (MonadExcept.throw error : Program σ ε α) :=
  fun _ => holds

theorem Raises.ofExcept {result : Except ε α}
    (holds : ∀ error, result = .error error → allowed error) :
    Raises allowed (Program.ofExcept result : Program σ ε α) := by
  cases result with
  | ok value => exact Raises.pure value
  | error error => exact Raises.throw (holds error rfl)

theorem Raises.modify (transform : σ → σ) :
    Raises allowed (modify transform : Program σ ε PUnit) :=
  fun _ => trivial

theorem Raises.bind (first : Raises allowed program)
    (second : ∀ value, Raises allowed (next value)) :
    Raises allowed (program >>= next) :=
  fun state => (first state).bind fun value after _ => second value after

theorem Raises.loop {body : α → Program σ ε PUnit} (items : List α)
    (step : ∀ item ∈ items, Raises allowed (body item)) :
    Raises allowed (forM items body) :=
  fun _ => Leads.loop_const (fun _ => True) items
    (fun item current member _ => step item member current) trivial

/-- Run a program and go on after it, whether it returns or raises. -/
def attempt (program : Program σ ε Unit) : Program σ ε Unit :=
  tryCatch program fun _ => pure ()

theorem exec_attempt (program : Program σ ε Unit) (state : σ) :
    exec (attempt program) state = (.ok (), (exec program state).2) := by
  change ((ExceptT.tryCatch program fun _ => pure ()).run).run state = _
  simp only [ExceptT.tryCatch, ExceptT.run, ExceptT.mk, exec, StateT.run_bind]
  rcases StateT.run program state with ⟨result | result, after⟩ <;> rfl

@[simp] theorem leads_attempt {program : Program σ ε Unit}
    {returns : Unit → σ → Prop} {raises : ε → σ → Prop} :
    Leads (attempt program) state returns raises ↔
      Leads program state returns (fun _ after => returns () after) := by
  unfold Leads
  rw [exec_attempt]
  rcases exec program state with ⟨error | value, after⟩ <;> rfl

/-! ## Relations kept by every outcome -/

/-- Whatever happens, the state left behind is related to the initial one. -/
def Keeps (relation : σ → σ → Prop) (program : Program σ ε α) : Prop :=
  ∀ state, relation state (exec program state).2

theorem Keeps.leads {relation : σ → σ → Prop}
    (keeps : Keeps relation program) (state : σ) :
    Leads program state (fun _ after => relation state after)
      (fun _ after => relation state after) := by
  have kept := keeps state
  unfold Leads
  rcases executed : exec program state with ⟨error | value, after⟩ <;>
    simpa [executed] using kept

theorem Keeps.of_leads {relation : σ → σ → Prop}
    (leads : ∀ state, Leads program state (fun _ after => relation state after)
      (fun _ after => relation state after)) :
    Keeps relation program := by
  intro state
  have related := leads state
  unfold Leads at related
  rcases executed : exec program state with ⟨error | value, after⟩ <;>
    simpa [executed] using related

theorem Keeps.mono {relation weaker : σ → σ → Prop}
    (keeps : Keeps relation program)
    (implies : ∀ before after, relation before after → weaker before after) :
    Keeps weaker program :=
  fun state => implies _ _ (keeps state)

theorem Keeps.modify {relation : σ → σ → Prop} {transform : σ → σ}
    (related : ∀ state, relation state (transform state)) :
    Keeps relation (modify transform : Program σ ε PUnit) :=
  fun state => related state

variable {relation : σ → σ → Prop} [IsPreorder σ relation]

theorem Keeps.pure (value : α) :
    Keeps relation (Pure.pure value : Program σ ε α) :=
  fun state => refl_of relation state

theorem Keeps.throw (error : ε) :
    Keeps relation (MonadExcept.throw error : Program σ ε α) :=
  fun state => refl_of relation state

theorem Keeps.ofExcept (result : Except ε α) :
    Keeps relation (Program.ofExcept result : Program σ ε α) := by
  cases result with
  | ok value => exact Keeps.pure value
  | error error => exact Keeps.throw error

theorem Keeps.get : Keeps relation (MonadState.get : Program σ ε σ) :=
  fun state => refl_of relation state

theorem Keeps.bind (first : Keeps relation program)
    (second : ∀ value, Keeps relation (next value)) :
    Keeps relation (program >>= next) := by
  intro state
  have kept := first state
  rw [exec_bind]
  rcases executed : exec program state with ⟨error | value, after⟩
  · simpa [executed] using kept
  · rw [executed] at kept
    exact trans_of relation kept (second value after)

omit [IsPreorder σ relation] in
theorem Keeps.attempt {program : Program σ ε Unit}
    (keeps : Keeps relation program) : Keeps relation (attempt program) := by
  intro state
  rw [exec_attempt]
  exact keeps state

theorem Keeps.loop {body : α → Program σ ε PUnit} (items : List α)
    (step : ∀ item ∈ items, Keeps relation (body item)) :
    Keeps relation (forM items body) := by
  induction items with
  | nil => exact Keeps.pure _
  | cons item rest induction =>
      rw [List.forM_cons]
      exact Keeps.bind (step item (by simp))
        fun _ => induction fun other member => step other (by simp [member])

/-! ## Invariants -/

/-- A program that returns leaves the invariant in place; one that raises
leaves at least `failed`. -/
def Maintains (invariant failed : σ → Prop) (program : Program σ ε α) : Prop :=
  ∀ state, invariant state →
    Leads program state (fun _ after => invariant after)
      (fun _ after => failed after)

variable {invariant failed : σ → Prop}

omit [IsPreorder σ relation] in
theorem Keeps.maintains (keeps : Keeps relation program)
    (closed : ∀ before after, relation before after →
      invariant before → invariant after)
    (weaker : ∀ state, invariant state → failed state) :
    Maintains invariant failed program := by
  intro state holds
  exact (keeps.leads state).mono
    (fun _ after related => closed state after related holds)
    (fun _ after related => weaker after (closed state after related holds))

theorem Maintains.pure (value : α) :
    Maintains invariant failed (Pure.pure value : Program σ ε α) :=
  fun _ holds => holds

theorem Maintains.throw (weaker : ∀ state, invariant state → failed state)
    (error : ε) :
    Maintains invariant failed (MonadExcept.throw error : Program σ ε α) :=
  weaker

theorem Maintains.modify {transform : σ → σ}
    (closed : ∀ state, invariant state → invariant (transform state)) :
    Maintains invariant failed (modify transform : Program σ ε PUnit) :=
  closed

theorem Maintains.get :
    Maintains invariant failed (MonadState.get : Program σ ε σ) :=
  fun _ holds => holds

theorem Maintains.bind (first : Maintains invariant failed program)
    (second : ∀ value, Maintains invariant failed (next value)) :
    Maintains invariant failed (program >>= next) :=
  fun state holds => (first state holds).bind
    fun value after holdsAfter => second value after holdsAfter

theorem Maintains.loop {body : α → Program σ ε PUnit} (items : List α)
    (step : ∀ item ∈ items, Maintains invariant failed (body item)) :
    Maintains invariant failed (forM items body) :=
  fun _ holds => Leads.loop_const invariant items
    (fun item current member holdsNow => step item member current holdsNow) holds

/-! ## Sequences of programs

Whoever runs one program after the other sees each result, and carries on
after an exception with the state that it left behind. -/

def trace (run : ι → Program σ ε α) : List ι → σ → List (Except ε α) × σ
  | [], state => ([], state)
  | item :: items, state =>
      let executed := exec (run item) state
      let rest := trace run items executed.2
      (executed.1 :: rest.1, rest.2)

theorem trace_append (run : ι → Program σ ε α) (first second : List ι)
    (state : σ) :
    trace run (first ++ second) state =
      let middle := trace run first state
      let after := trace run second middle.2
      (middle.1 ++ after.1, after.2) := by
  induction first generalizing state with
  | nil => rfl
  | cons item items induction =>
      simp only [List.cons_append, trace, induction]

/-- An invariant that every outcome keeps holds after every sequence. -/
theorem trace_invariant {run : ι → Program σ ε α} (items : List ι)
    (step : ∀ item ∈ items, Maintains invariant invariant (run item)) (state : σ)
    (initial : invariant state) :
    invariant (trace run items state).2 := by
  induction items generalizing state with
  | nil => exact initial
  | cons item items induction =>
      have maintained := step item (by simp) state initial
      refine induction (fun other member => step other (by simp [member])) _ ?_
      rcases executed : exec (run item) state with ⟨error | value, after⟩
      · exact maintained.of_error executed
      · exact maintained.of_ok executed

/-- An invariant that returning keeps holds after every sequence in which
nothing raises. -/
theorem trace_invariant_of_returned {run : ι → Program σ ε α}
    (items : List ι)
    (step : ∀ item ∈ items, Maintains invariant failed (run item)) (state : σ)
    (returned : ∀ result ∈ (trace run items state).1, result.isOk)
    (initial : invariant state) :
    invariant (trace run items state).2 := by
  induction items generalizing state with
  | nil => exact initial
  | cons item items induction =>
      simp only [trace, List.mem_cons, forall_eq_or_imp] at returned ⊢
      have maintained := step item (by simp) state initial
      rcases executed : exec (run item) state with ⟨error | value, after⟩
      · rw [executed] at returned
        cases returned.1
      · rw [executed] at returned
        exact induction (fun other member => step other (by simp [member])) after
          returned.2 (maintained.of_ok executed)

/-- If every program returns where the invariant holds, nothing in a sequence
raises. -/
theorem trace_returns {run : ι → Program σ ε α} (items : List ι)
    (step : ∀ item ∈ items, ∀ state, invariant state →
      Leads (run item) state (fun _ after => invariant after) (fun _ _ => False))
    (state : σ) (initial : invariant state) :
    (∀ result ∈ (trace run items state).1, result.isOk) ∧
      invariant (trace run items state).2 := by
  induction items generalizing state with
  | nil => exact ⟨fun _ member => absurd member List.not_mem_nil, initial⟩
  | cons item items induction =>
      rcases (step item List.mem_cons_self state initial).returned with
        ⟨value, after, executed, holds⟩
      have rest := induction
        (fun other member => step other (List.mem_cons_of_mem _ member)) after holds
      simp only [trace, executed, List.mem_cons, forall_eq_or_imp]
      exact ⟨⟨rfl, rest.1⟩, rest.2⟩

/-! ## Programs that only look at a view of the state -/

/-- The result is a function of `view state`, and the view is left alone. -/
def ReadsOnly (view : σ → τ) (program : Program σ ε α) : Prop :=
  ∀ state, view (exec program state).2 = view state ∧
    ∀ other, view other = view state →
      (exec program other).1 = (exec program state).1

theorem ReadsOnly.pure {view : σ → τ} (value : α) :
    ReadsOnly view (Pure.pure value : Program σ ε α) :=
  fun _ => ⟨rfl, fun _ _ => rfl⟩

theorem ReadsOnly.throw {view : σ → τ} (error : ε) :
    ReadsOnly view (MonadExcept.throw error : Program σ ε α) :=
  fun _ => ⟨rfl, fun _ _ => rfl⟩

theorem ReadsOnly.ofExcept {view : σ → τ} (result : Except ε α) :
    ReadsOnly view (Program.ofExcept result : Program σ ε α) := by
  cases result with
  | ok value => exact ReadsOnly.pure value
  | error error => exact ReadsOnly.throw error

theorem ReadsOnly.bind {view : σ → τ} (first : ReadsOnly view program)
    (second : ∀ value, ReadsOnly view (next value)) :
    ReadsOnly view (program >>= next) := by
  intro state
  have viewed := (first state).1
  rw [exec_bind]
  rcases executed : exec program state with ⟨error | value, after⟩
  · rw [executed] at viewed
    refine ⟨viewed, fun other same => ?_⟩
    have sameResult := (first state).2 other same
    rw [exec_bind]
    rcases executedOther : exec program other with ⟨result, afterOther⟩
    rw [executed, executedOther] at sameResult
    cases sameResult
    rfl
  · rw [executed] at viewed
    refine ⟨((second value after).1).trans viewed, fun other same => ?_⟩
    have sameResult := (first state).2 other same
    have viewedOther := (first other).1
    rw [exec_bind]
    rcases executedOther : exec program other with ⟨result, afterOther⟩
    rw [executed, executedOther] at sameResult
    rw [executedOther] at viewedOther
    cases sameResult
    exact (second value after).2 afterOther
      (viewedOther.trans (same.trans viewed.symm))

theorem ReadsOnly.get_bind {view : σ → τ} {next : σ → Program σ ε β}
    (kept : ∀ state, view (exec (next state) state).2 = view state)
    (same : ∀ state other, view other = view state →
      (exec (next other) other).1 = (exec (next state) state).1) :
    ReadsOnly view (get >>= next) :=
  fun state => ⟨kept state, same state⟩

/-- What depends on a view depends on every finer view that it leaves alone. -/
theorem ReadsOnly.refine {view : σ → τ} {finer : σ → ρ}
    (reads : ReadsOnly view program)
    (kept : ∀ state, finer (exec program state).2 = finer state)
    (determined : ∀ state other, finer other = finer state →
      view other = view state) : ReadsOnly finer program :=
  fun state => ⟨kept state, fun other same =>
    (reads state).2 other (determined state other same)⟩

/-! ## Working on a part of the state -/

/-- Run a program on one part of a larger state. -/
def focus (part : τ → σ) (replace : τ → σ → τ) (program : Program σ ε α) :
    Program τ ε α :=
  ExceptT.mk fun whole =>
    ((exec program (part whole)).1,
      replace whole (exec program (part whole)).2)

theorem exec_focus (part : τ → σ) (replace : τ → σ → τ)
    (program : Program σ ε α) (whole : τ) :
    exec (focus part replace program) whole =
      ((exec program (part whole)).1,
        replace whole (exec program (part whole)).2) := rfl

@[simp] theorem leads_focus {part : τ → σ} {replace : τ → σ → τ} {whole : τ}
    {returns : α → τ → Prop} {raises : ε → τ → Prop} :
    Leads (focus part replace program) whole returns raises ↔
      Leads program (part whole)
        (fun value after => returns value (replace whole after))
        (fun error after => raises error (replace whole after)) := by
  unfold Leads
  rw [exec_focus]
  rcases exec program (part whole) with ⟨error | value, after⟩ <;> rfl

end Program

end Dragonflow
